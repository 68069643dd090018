import LiveForm.Proofs.Engine.Seeding
import LiveForm.Proofs.Json.Access

/-!
# What defaults take the place of

A default is put in at a name where nothing is, but a value may be in the way before the name ends:
a text, a number, a truth value, or an array where the name goes on with no index. An object takes
its place (`Displaces`), and all that was read through it is gone. `at?_write_iff` says that nothing
else is lost, with the paths that lead through the place in any spelling of the indices (`Passes`).
`seed_keeps_iff` says it of one default, and of the defaults of a form that is taken up.
-/

namespace LiveForm

namespace Json

variable {v w x : Json} {s t : String} {place stop path rest : List String}

/-- A value as a user fills it in: a text, a number or a truth value. -/
def IsScalar : Json → Prop
  | .bool _ | .num _ | .str _ => True
  | _ => False

theorem IsScalar.not_takes (h : x.IsScalar) (s : String) : ¬ x.Takes s := by
  intro htakes
  obtain ⟨members, rfl⟩ | ⟨items, i, rfl, -⟩ := htakes.cases <;> exact h

/-- A write at a place replaces what is at an earlier place on the way by an object. -/
def Displaces (v : Json) (place stop : List String) : Prop :=
  ∃ segment after c, place = stop ++ segment :: after ∧ v.at? stop = some c ∧ ¬ c.Takes segment

/-- Two segments pick the same from a value: they are equal, or two spellings of one index. -/
def Alike (v : Json) (s t : String) : Prop :=
  s = t ∨ ∃ i, v.indexIn? s = some i ∧ v.indexIn? t = some i

/-- A path leads through a place: it begins with segments that pick what those of the place pick. -/
def Passes (v : Json) : (stop path : List String) → Prop
  | [], _ => True
  | _ :: _, [] => False
  | s :: stop, t :: path => v.Alike s t ∧ (v.under s).Passes stop path

theorem Alike.child?_eq (h : v.Alike s t) : v.child? s = v.child? t := by
  obtain rfl | ⟨i, hs, ht⟩ := h
  · rfl
  · obtain ⟨items, rfl, hsi⟩ := exists_of_indexIn? hs
    have hti : index? t = some i := ht
    rw [child?, child?, hsi, hti]

theorem Alike.put (h : v.Alike s t) (w : Json) : (v.put s w).Alike s t := by
  obtain rfl | ⟨i, hs, ht⟩ := h
  · exact .inl rfl
  · obtain ⟨items, rfl, hsi⟩ := exists_of_indexIn? hs
    rw [put_arr items hsi]
    exact .inr ⟨i, hs, ht⟩

/-- Under a segment that picks something else, what was there stays. -/
theorem child?_put_of_not_alike (hv : v.Takes s) (h : ¬ v.Alike s t) (hthere : v.child? t = some w)
    (new : Json) : (v.put s new).child? t = some w := by
  obtain ⟨members, rfl⟩ | ⟨items, i, rfl, hi⟩ := hv.cases
  · rw [child?_put_of_obj members fun heq => h (.inl heq), hthere]
  · have hother : index? t ≠ some i := fun ht => h (.inr ⟨i, hi, ht⟩)
    obtain ⟨⟨j, hj, hend, -⟩, -⟩ | ⟨-, hsame⟩ := child?_put_of_index items hi hother new
    · -- An index in the gap picks nothing before.
      rw [child?, hj, Option.bind_some, List.getElem?_eq_none hend] at hthere
      cases hthere
    · rw [hsame, hthere]

/-- Nothing is at a place on the way to which a value is displaced. -/
theorem Displaces.at?_eq_none (h : v.Displaces place stop) : v.at? place = none := by
  obtain ⟨segment, after, c, rfl, hat, hc⟩ := h
  rw [at?_append, hat, Option.bind_some, at?_cons, child?_of_not_takes hc, Option.bind_none]

theorem displaces_nil (s : String) (rest : List String) :
    v.Displaces (s :: rest) [] ↔ ¬ v.Takes s := by
  constructor
  · rintro ⟨segment, after, c, hplace, hat, hc⟩
    cases hplace
    cases hat
    exact hc
  · intro h
    exact ⟨s, rest, v, rfl, rfl, h⟩

theorem displaces_cons (h : v.child? s = some w) :
    v.Displaces (s :: rest) (s :: stop) ↔ w.Displaces rest stop := by
  have hat : v.at? (s :: stop) = w.at? stop := by rw [at?_cons, h, Option.bind_some]
  constructor
  · rintro ⟨segment, after, c, hplace, hstop, hc⟩
    exact ⟨segment, after, c, (List.cons.inj hplace).2, hat ▸ hstop, hc⟩
  · rintro ⟨segment, after, c, rfl, hstop, hc⟩
    exact ⟨segment, after, c, rfl, hat.trans hstop, hc⟩

/-- A write at a place spares a path, if the path leads through no place that is displaced. -/
def Spares (v : Json) (place path : List String) : Prop :=
  ∀ stop, v.Displaces place stop → ¬ v.Passes stop path

theorem not_spares_of_not_takes (h : ¬ v.Takes s) : ¬ v.Spares (s :: rest) path :=
  fun hspares => hspares [] ((displaces_nil s rest).mpr h) trivial

/-- What is displaced on the way from a value that takes the first segment is under that segment. -/
theorem Displaces.exists_cons (h : v.Displaces (s :: rest) stop) (hs : v.Takes s) :
    ∃ more, stop = s :: more := by
  cases stop with
  | nil => exact absurd hs ((displaces_nil s rest).mp h)
  | cons first more =>
    obtain ⟨segment, after, c, hplace, -⟩ := h
    rw [(List.cons.inj hplace).1]
    exact ⟨more, rfl⟩

theorem spares_of_not_alike (hs : v.Takes s) (h : ¬ v.Alike s t) :
    v.Spares (s :: rest) (t :: path) := by
  intro stop hstop hpasses
  obtain ⟨more, rfl⟩ := hstop.exists_cons hs
  exact h hpasses.1

theorem spares_cons (hs : v.Takes s) (halike : v.Alike s t) (hchild : v.child? s = some w) :
    v.Spares (s :: rest) (t :: path) ↔ w.Spares rest path := by
  have hunder := under_of_child? hchild
  constructor
  · intro h stop hstop hpasses
    exact h (s :: stop) ((displaces_cons hchild).mpr hstop) ⟨halike, hunder.symm ▸ hpasses⟩
  · intro h stop hstop hpasses
    obtain ⟨more, rfl⟩ := hstop.exists_cons hs
    exact h more ((displaces_cons hchild).mp hstop) (hunder ▸ hpasses.2)

/-- Where a value is replaced, no scalar is read afterwards that was read before. -/
theorem at?_put_of_not_takes (hs : ¬ v.Takes s) (hx : x.IsScalar) (hread : v.at? path = some x)
    (new : Json) : (v.put s new).at? path ≠ some x := by
  cases path with
  | nil =>
    rw [put_of_not_takes hs]
    intro hafter
    obtain rfl := Option.some.inj hafter
    exact hx
  | cons t path =>
    have hne : s ≠ t := by
      rintro rfl
      rw [at?_cons, child?_of_not_takes hs] at hread
      cases hread
    rw [at?_cons, child?_put_of_not_takes hs hne]
    nofun

/-- A write at a place where nothing is keeps a scalar on a path exactly if it spares the path. -/
theorem at?_write_iff (hnone : v.at? place = none) (hx : x.IsScalar) (hread : v.at? path = some x)
    (new : Json) :
    (v.write place new).at? path = some x ↔ v.Spares place path := by
  -- Along the place: while the path picks the same, both go on in what is there, and nothing is
  -- at what is left of the place. They part, or the value is replaced, at some segment.
  induction place generalizing v path with
  | nil => cases hnone
  | cons s rest ih =>
    rw [write_cons]
    by_cases hs : v.Takes s
    · cases path with
      | nil =>
        obtain rfl := Option.some.inj hread
        exact absurd hs (hx.not_takes s)
      | cons t path =>
        obtain ⟨w, hw, hpath⟩ := Option.bind_eq_some_iff.mp hread
        rw [at?_cons]
        by_cases halike : v.Alike s t
        · have hchild : v.child? s = some w := halike.child?_eq.trans hw
          have hunder := under_of_child? hchild
          have hrest : w.at? rest = none := by rwa [at?_cons, hchild] at hnone
          rw [← (halike.put _).child?_eq, child?_put_self, Option.bind_some, hunder,
            spares_cons hs halike hchild]
          exact ih hrest hpath
        · rw [child?_put_of_not_alike hs halike hw, Option.bind_some]
          exact iff_of_true hpath (spares_of_not_alike hs halike)
    · exact iff_of_false (at?_put_of_not_takes hs hx hread _) (not_spares_of_not_takes hs)

end Json

/-! ## Defaults -/

section

variable {seeded : List String} {data x : Json} {fields : List FieldDefinition}
  {before after : List Sowing} {y : Sowing}

/-- When the turn of a default comes that is put in, nothing is at its name. -/
theorem get?_of_sown (h : sown seeded data fields = before ++ y :: after) :
    (data.sow before).get? y.name = none := by
  fun_induction sown seeded data fields generalizing before with
  | case1 => exact absurd h.symm (by simp)
  | case2 seeded data field rest hnone ih => exact ih h
  | case3 seeded data field rest value hvalue hseeded ih => exact ih h
  | case4 seeded data field rest value hvalue hseeded hthere ih => exact ih h
  | case5 seeded data field rest value hvalue hseeded hthere ih =>
    cases before with
    | nil =>
      obtain ⟨rfl, -⟩ := List.cons.inj h
      exact Option.not_isSome_iff_eq_none.mp hthere
    | cons first before =>
      obtain ⟨rfl, hrest⟩ := List.cons.inj h
      exact ih hrest

/-- Defaults that are put in where nothing is, each sparing a path, keep a scalar there. -/
theorem get?_sow_of_spares {path : String} {sowings : List Sowing} (hx : x.IsScalar)
    (hread : data.get? path = some x)
    (h : ∀ before y after, sowings = before ++ y :: after →
      (data.sow before).get? y.name = none ∧
        (data.sow before).Spares (segments y.name) (segments path)) :
    (data.sow sowings).get? path = some x := by
  induction sowings generalizing data with
  | nil => exact hread
  | cons y rest ih =>
    obtain ⟨hnone, hspares⟩ := h [] y rest rfl
    have hkept := (Json.at?_write_iff hnone hx hread y.value).mpr hspares
    apply ih hkept
    intro before z after hrest
    exact h (y :: before) z after (by rw [hrest, List.cons_append])

end

namespace FormState

/-- Where there is room for a default, it is put in or found to be in the way. -/
theorem exists_seed {s : FormState} {name : String} (h : s.data.Writable (segments name))
    (value : Json) : ∃ put after, s.seed name value = some (put, after) := by
  unfold seed
  split
  · exact ⟨false, s, rfl⟩
  · rw [Json.set?_of_writable h]
    exact ⟨true, _, rfl⟩

/-- A text, a number or a truth value is read on a path after a default was put in exactly if the
default is not put in place of something through which the path leads. It is read after the defaults
of fields were put in, as a form that is taken up does, if none of them is, each at its turn. -/
theorem seed_keeps_iff {x : Json} (hx : x.IsScalar) (path : String) :
    (∀ (s : FormState) (name : String) (value : Json), s.data.Writable (segments name) →
      s.value? path = some x →
      ∃ put s', s.seed name value = some (put, s') ∧
        (s'.value? path = some x ↔ s.data.Spares (segments name) (segments path))) ∧
    ∀ (e e' : Engine) (fields : List FieldDefinition), e.seedDefaults fields = some e' →
      e.state.value? path = some x →
      (∀ before y after, sown e.seeded e.state.data fields = before ++ y :: after →
        (e.state.data.sow before).Spares (segments y.name) (segments path)) →
      e'.state.value? path = some x := by
  refine ⟨?_, ?_⟩
  · intro s name value hroom hread
    obtain ⟨put, s', hseed⟩ := exists_seed hroom value
    refine ⟨put, s', hseed, ?_⟩
    rcases seed_cases hseed with ⟨-, hthere, rfl⟩ | ⟨-, hnone, data, hset, rfl⟩
    · refine iff_of_true hread ?_
      intro stop hstop
      have hnone : s'.value? name = none := hstop.at?_eq_none
      rw [hnone] at hthere
      cases hthere
    · obtain ⟨-, rfl⟩ := Json.set?_eq_some_iff.mp hset
      exact Json.at?_write_iff hnone hx hread value
  · intro e e' fields hseeded hread h
    rw [value?, Engine.data_seedDefaults hseeded]
    apply get?_sow_of_spares hx hread
    intro before y after hsown
    exact ⟨get?_of_sown hsown, h before y after hsown⟩

/-- A text at `a`, tags and an amount. -/
def draft : FormState :=
  .ofData [("a", .str "flat"), ("n", .ofNat 3), ("tags", .arr [.str "x"])]

/-- A field that carries a default. -/
def flagField (name : String) : FieldDefinition :=
  { FieldDefinition.ofKind "flag" .checkbox with
    name := name, defaultValue := some (.bool true) }

/-- A default at `a.b` keeps the amount. -/
theorem seed_keeps_iff_draft :
    (Json.ofNat 3).IsScalar ∧ draft.data.Writable (segments "a.b") ∧
      draft.value? "n" = some (.ofNat 3) ∧
      (∃ put s', draft.seed "a.b" (.bool true) = some (put, s') ∧
        s'.value? "n" = some (.ofNat 3)) ∧
      ∃ e', ({ state := draft } : Engine).seedDefaults [flagField "tags.2"] = some e' ∧
        e'.state.value? "n" = some (.ofNat 3) := by
  have hscalar : (Json.ofNat 3).IsScalar := trivial
  have hroom : draft.data.Writable (segments "a.b") :=
    (Json.isSome_write?_iff .null).mp (by decide)
  have hspares (s : String) (rest : List String) (hne : s ≠ "n") :
      draft.data.Spares (s :: rest) (segments "n") := by
    apply Json.spares_of_not_alike (Json.takes_obj _ s)
    rintro (heq | ⟨i, hi, -⟩)
    · exact hne heq
    · cases hi
  obtain ⟨hseed, hseeds⟩ := seed_keeps_iff hscalar "n"
  refine ⟨hscalar, hroom, by decide, ?_, ?_⟩
  · obtain ⟨put, s', hput, hkept⟩ := hseed draft "a.b" (.bool true) hroom (by decide)
    exact ⟨put, s', hput, hkept.mpr (hspares "a" ["b"] (by decide))⟩
  · obtain ⟨e', he'⟩ : ∃ e', ({ state := draft } : Engine).seedDefaults [flagField "tags.2"] =
        some e' := Option.isSome_iff_exists.mp (by decide)
    refine ⟨e', he', hseeds { state := draft } e' [flagField "tags.2"] he' (by decide) ?_⟩
    intro before y after hsown
    -- The only default is the first one.
    cases before with
    | nil =>
      obtain ⟨rfl, -⟩ := List.cons.inj hsown
      exact hspares "tags" ["2"] (by decide)
    | cons first before =>
      obtain ⟨-, hrest⟩ := List.cons.inj hsown
      have hnil : before ++ y :: after = [] := hrest.symm
      exact absurd hnil (by simp)

/-- A default at `a.b` takes the place of a text at `a`, and one at `tags.first` that of the tags,
also when a form is taken up whose field carries it. -/
theorem seed_displaces_text :
    draft.value? "a" = some (.str "flat") ∧ draft.value? "tags.0" = some (.str "x") ∧
      (draft.seed "a.b" (.bool true)).map (fun after => after.2.value? "a") =
        some (some (.obj [("b", .bool true)])) ∧
      (draft.seed "tags.first" (.bool true)).map (fun after => after.2.value? "tags.0") =
        some none ∧
      (({ state := draft } : Engine).seedDefaults [flagField "a.b"]).map
          (fun e => e.state.value? "a") = some (some (.obj [("b", .bool true)])) := by
  decide

end FormState

end LiveForm
