import LiveForm.Definition.Writing
import LiveForm.Json.Shape
import LiveForm.Proofs.Json.Draft

/-!
# Structures read and read back

A property that every member leaves to a structure holds of every structure that is read, from an
object or from an array (`Record.Keeps`).

A structure is read back from the members that it was written with when each of them puts its part
in place (`Record.Reads`): no key comes twice, none is unknown, and none is left out that may not be
missing (`Record.Listed`).
-/

namespace LiveForm

open Json (member memberIf)

variable {ε α β γ : Type}

/-- What is made of something that was read. -/
theorem ok_of_map {a : Except ε α} {f : α → β} {y : β} (h : (do return f (← a)) = .ok y) :
    ∃ x, a = .ok x ∧ f x = y := by
  cases a with
  | error e => cases h
  | ok x =>
    cases h
    exact ⟨x, rfl, rfl⟩

/-- What is read after something else was read. -/
theorem ok_of_bind {a : Except ε α} {f : α → Except ε β} {y : β} (h : a.bind f = .ok y) :
    ∃ x, a = .ok x ∧ f x = .ok y := by
  cases a with
  | error e => cases h
  | ok x => exact ⟨x, rfl, h⟩

namespace Draft

/-! ## Parts -/

theorem any_eq_ok {d : Draft} {v : Json} : d.any = .ok v ↔ d.value? = some v := by
  rw [any]
  cases d.value? with
  | none => simp
  | some w => simp

/-- What may be anything is in order. -/
theorem any_ok {d : Draft} {v : Json} (h : d.any = .ok v) : v.Ordered :=
  ordered_value? d (any_eq_ok.mp h)

/-- Only `null` is read as `null`. -/
theorem any_ne_null {d : Draft} {v : Json} (h : d.any = .ok v) (hnull : d ≠ .null) :
    v ≠ .null := by
  rintro rfl
  have hvalue := any_eq_ok.mp h
  cases d with
  | null => exact hnull rfl
  | arr items ending => cases ending <;> simp [value?] at hvalue
  | obj members ending => cases ending <;> simp [value?, Json.ofMembers] at hvalue
  | _ => cases hvalue

theorem ofJson_ne_null {v : Json} (h : v ≠ .null) : ofJson v ≠ .null := by
  cases v with
  | null => exact absurd rfl h
  | _ => exact nofun

theorem text_ofJson (s : String) : (ofJson (.str s)).text = .ok s := rfl

theorem any_ofJson {v : Json} (h : v.Ordered) : (ofJson v).any = .ok v :=
  any_eq_ok.mpr (value?_ofJson v h)

/-- What may be left out and is there was read by itself. -/
theorem optional_ok {read : Draft → Except ShapeError α} {d : Draft} {x : α}
    (h : d.optional read = .ok (some x)) : d ≠ .null ∧ read d = .ok x := by
  by_cases hnull : d = .null
  · subst hnull
    cases h
  · rw [optional] at h
    · obtain ⟨y, hy, hsome⟩ := ok_of_map (f := some) h
      rw [← Option.some.inj hsome]
      exact ⟨hnull, hy⟩
    · exact hnull

theorem optional_of_ok {read : Draft → Except ShapeError α} {d : Draft} {x : α}
    (h : read d = .ok x) (hnull : d ≠ .null) : d.optional read = .ok (some x) := by
  rw [optional]
  · rw [h]
    rfl
  · exact hnull

theorem finish_ok {ending : Ending} {x y : α} (h : finish ending x = .ok y) :
    ending = .closed ∧ x = y := by
  cases ending with
  | closed => exact ⟨rfl, Except.ok.inj h⟩
  | broken => cases h
  | tooDeep => cases h

/-- Each item that was read was read by itself. -/
theorem list_ok {read : Draft → Except ShapeError α} {d : Draft} {xs : List α}
    (h : d.list read = .ok xs) : ∀ x ∈ xs, ∃ item : Draft, read item = .ok x := by
  unfold list at h
  split at h
  · rename_i items ending
    obtain ⟨ys, hread, hfinish⟩ := ok_of_bind h
    obtain ⟨-, rfl⟩ := finish_ok hfinish
    clear h hfinish
    -- The items that are left, with those that are read of them.
    induction items generalizing ys with
    | nil =>
      cases hread
      exact nofun
    | cons item rest ih =>
      rw [List.mapM_cons] at hread
      obtain ⟨first, hfirst, hread⟩ := ok_of_bind hread
      obtain ⟨later, hlater, rfl⟩ := ok_of_map (f := fun later => first :: later) hread
      intro x hx
      rcases List.mem_cons.mp hx with rfl | hx
      · exact ⟨item, hfirst⟩
      · exact ih later hlater x hx
  · cases h

theorem ofItems_eq (items : List Json) : ofItems items = items.map ofJson := by
  induction items with
  | nil => rfl
  | cons v rest ih => rw [ofItems, List.map_cons, ih]

theorem ofMembers_eq (members : List (String × Json)) :
    ofMembers members = members.map fun m => (some m.1, ofJson m.2) := by
  induction members with
  | nil => rfl
  | cons m rest ih => rw [ofMembers, List.map_cons, ih]

/-- A list is read back when each of its items is. -/
theorem list_ofJson {read : Draft → Except ShapeError α} {write : α → Json} {xs : List α}
    (h : ∀ x ∈ xs, read (ofJson (write x)) = .ok x) :
    (ofJson (.arr (xs.map write))).list read = .ok xs := by
  suffices hread : ((xs.map write).map ofJson).mapM read = .ok xs by
    rw [ofJson, list, ofItems_eq, hread]
    rfl
  induction xs with
  | nil => rfl
  | cons x rest ih =>
    have hfirst := h x List.mem_cons_self
    have hrest := ih fun y hy => h y (List.mem_cons_of_mem _ hy)
    rw [List.map_cons, List.map_cons, List.mapM_cons, hfirst, hrest]
    rfl

/-- A number that was read is finite. -/
theorem number_ok {d : Draft} {x : Binary64} (h : d.number = .ok x) : x.isFinite = true := by
  unfold number at h
  split at h
  · rename_i n
    cases h
    cases n with
    | int n hn => exact Binary64.isFinite_ofInt (by omega)
    | float x hx => exact hx
  · cases h

theorem ofBinary64_of_isFinite {x : Binary64} (h : x.isFinite = true) :
    Json.ofBinary64 x = .num (.float x h) := by
  rw [Json.ofBinary64, Number.ofBinary64?, dif_pos h]

theorem count_ofUInt64 (n : UInt64) : (Draft.num (.ofUInt64 n)).count = .ok n := by
  simp only [count, Number.ofUInt64, Int.natCast_nonneg, if_true, Int.toNat_natCast,
    UInt64.ofNat_toNat]

/-- The members of an object are in order, and their values are. -/
theorem map_ok {d : Draft} {m : Keyed Json} (h : d.map = .ok m) : (Json.obj m).Ordered := by
  unfold map at h
  split at h
  · obtain ⟨v, hany, rfl⟩ := ok_of_map (f := Json.membersOf) h
    have hordered := any_ok hany
    cases v with
    | obj m => exact hordered
    | _ => exact ⟨List.Pairwise.nil, trivial⟩
  · cases h

theorem map_ofJson {m : Keyed Json} (h : (Json.obj m).Ordered) :
    (ofJson (.obj m)).map = .ok m := by
  have hany := any_ofJson h
  rw [ofJson] at hany ⊢
  rw [map, hany]
  rfl

end Draft

namespace Record

variable {r : Record β α}

/-- An object is a structure when its members are, it is closed, and none is missing. -/
theorem ofMembers_eq_ok {members : List (Option String × β)} {ending : Ending} {y : α} :
    r.ofMembers members ending = .ok y ↔ ∃ seen, r.putMembers [] r.start members = .ok (seen, y) ∧
      ending = .closed ∧ r.missing? seen = none := by
  constructor
  · intro h
    obtain ⟨⟨seen, x⟩, hput, h⟩ := ok_of_bind h
    obtain ⟨z, hfinish, h⟩ := ok_of_bind h
    obtain ⟨hclosed, rfl⟩ := Draft.finish_ok hfinish
    cases hmissing : r.missing? seen with
    | some key =>
      rw [hmissing] at h
      cases h
    | none =>
      rw [hmissing] at h
      cases h
      exact ⟨seen, hput, hclosed, hmissing⟩
  · rintro ⟨seen, hput, rfl, hmissing⟩
    simp only [ofMembers, hput, Draft.finish, bind, Except.bind, hmissing]
    rfl

/-- What is read from an array is what its items make. -/
theorem ofItems_ok {items : List β} {ending : Ending} {y : α}
    (h : r.ofItems items ending = .ok y) :
    ∃ rest, r.putItems ending 0 r.start r.members items = .ok (y, rest) := by
  obtain ⟨⟨x, rest⟩, hput, h⟩ := ok_of_bind h
  obtain ⟨z, hfinish, h⟩ := ok_of_bind h
  obtain ⟨-, rfl⟩ := Draft.finish_ok hfinish
  by_cases hrest : rest.isEmpty = true
  · rw [if_pos hrest] at h
    cases h
    exact ⟨rest, hput⟩
  · rw [if_neg hrest] at h
    cases h

/-- Members that are read after others. -/
theorem putMembers_append (seen : List String) (x : α) (first rest : List (Option String × β)) :
    r.putMembers seen x (first ++ rest) =
      (r.putMembers seen x first).bind fun y => r.putMembers y.1 y.2 rest := by
  fun_induction Record.putMembers r seen x first with
  | case1 => rfl
  | case2 => rfl
  | case3 seen x key v later hhas hseen =>
    rw [List.cons_append, putMembers, if_pos hhas, if_pos hseen]
    rfl
  | case4 seen x key v later hhas hseen next hput ih =>
    rw [List.cons_append, putMembers, if_pos hhas, if_neg hseen, hput]
    exact ih
  | case5 seen x key v later hhas hseen e hput =>
    rw [List.cons_append, putMembers, if_pos hhas, if_neg hseen, hput]
    rfl
  | case6 seen x key v later hhas hskips ih =>
    rw [List.cons_append, putMembers, if_neg hhas, if_pos hskips]
    exact ih
  | case7 seen x key v later hhas hskips =>
    rw [List.cons_append, putMembers, if_neg hhas, if_neg hskips]
    rfl

/-! ## What every member keeps -/

/-- The structure has a property before any member was read, and members that have a property `Q`
leave it the property. -/
structure Keeps (r : Record β α) (Q : β → Prop) (P : α → Prop) : Prop where
  start : P r.start
  put : ∀ key v x y, Q v → P x → r.put key v x = .ok y → P y

variable {Q : β → Prop} {P : α → Prop}

theorem Keeps.putMembers (h : r.Keeps Q P) {members : List (Option String × β)}
    (hmembers : ∀ m ∈ members, Q m.2) {seen keys : List String} {x y : α} (hx : P x)
    (hread : r.putMembers seen x members = .ok (keys, y)) : P y := by
  fun_induction Record.putMembers r seen x members with
  | case1 seen x =>
    cases hread
    exact hx
  | case2 => cases hread
  | case3 => cases hread
  | case4 seen x key v rest hhas hseen next hput ih =>
    have hnext : P next := h.put key v x next (hmembers _ List.mem_cons_self) hx hput
    exact ih (fun m hm => hmembers m (List.mem_cons_of_mem _ hm)) hnext hread
  | case5 => cases hread
  | case6 seen x key v rest hhas hskips ih =>
    exact ih (fun m hm => hmembers m (List.mem_cons_of_mem _ hm)) hx hread
  | case7 => cases hread

/-- A structure that was read from an object has the property. -/
theorem Keeps.ofMembers (h : r.Keeps Q P) {members : List (Option String × β)} {ending : Ending}
    (hmembers : ∀ m ∈ members, Q m.2) {y : α} (hread : r.ofMembers members ending = .ok y) :
    P y := by
  obtain ⟨seen, hput, -, -⟩ := ofMembers_eq_ok.mp hread
  exact h.putMembers hmembers h.start hput

theorem Keeps.putItems (h : r.Keeps Q P) {keys : List (String × Bool)} {items rest : List β}
    {ending : Ending} (hitems : ∀ v ∈ items, Q v) {index : Nat} {x y : α} (hx : P x)
    (hread : r.putItems ending index x keys items = .ok (y, rest)) : P y := by
  fun_induction Record.putItems r ending index x keys items with
  | case1 index x items =>
    cases hread
    exact hx
  | case2 index x key optional keys v items next hput ih =>
    have hnext : P next := h.put key v x next (hitems v List.mem_cons_self) hx hput
    exact ih (fun w hw => hitems w (List.mem_cons_of_mem _ hw)) hnext hread
  | case3 => cases hread
  | case4 => cases hread
  | case5 => cases hread
  | case6 => cases hread
  | case7 =>
    cases hread
    exact hx

/-- A structure that was read from an array has the property. -/
theorem Keeps.ofItems (h : r.Keeps Q P) {items : List β} {ending : Ending}
    (hitems : ∀ v ∈ items, Q v) {y : α} (hread : r.ofItems items ending = .ok y) : P y := by
  obtain ⟨rest, hput⟩ := ofItems_ok hread
  exact h.putItems hitems h.start hput

/-! ## What was written -/

/-- The keys of the members are some of `keys`, in the same order, and `required` are among them. -/
structure Listed (members : List (String × Json)) (keys required : List String) : Prop where
  keys : (members.map Prod.fst).Sublist keys
  required : ∀ key ∈ required, key ∈ members.map Prod.fst

variable {view : Json → β} {y : α} {members : List (String × Json)} {keys required : List String}

namespace Listed

theorem nil : Listed [] [] [] := ⟨.slnil, nofun⟩

/-- One more member that is always written. -/
theorem member (h : Listed members keys required) (key : String) (v : Json) :
    Listed (members ++ member key v) (keys ++ [key]) (required ++ [key]) where
  keys := by
    rw [List.map_append]
    exact h.keys.append (List.Sublist.refl [key])
  required := by
    intro k hk
    rw [List.map_append, List.mem_append]
    exact (List.mem_append.mp hk).imp (h.required k) id

/-- One more member that is written when it has a value. -/
theorem memberIf (h : Listed members keys required) (key : String) (o : Option Json) :
    Listed (members ++ memberIf key o) (keys ++ [key]) required := by
  cases o with
  | none =>
    rw [Json.memberIf, List.append_nil]
    exact ⟨h.keys.trans (List.sublist_append_left keys [key]), h.required⟩
  | some v =>
    have hmember := h.member key v
    exact ⟨hmember.keys, fun k hk => hmember.required k (List.mem_append_left _ hk)⟩

/-- Members with keys of their own are put one after the other. -/
theorem putMembers_eq {seen : List String} (x : α) (hkeys : (members.map Prod.fst).Nodup)
    (hhas : ∀ key ∈ members.map Prod.fst, r.has key = true ∧ key ∉ seen) :
    r.putMembers seen x (members.map fun m => (some m.1, view m.2)) =
      (members.foldlM (fun x m => r.put m.1 (view m.2) x) x).map fun y =>
        ((members.map Prod.fst).reverse ++ seen, y) := by
  induction members generalizing seen x with
  | nil => rfl
  | cons m rest ih =>
    obtain ⟨hm, hrest⟩ := List.nodup_cons.mp hkeys
    obtain ⟨hknown, hnew⟩ := hhas m.1 List.mem_cons_self
    have hcontains : ¬ seen.contains m.1 = true := fun h => hnew (List.contains_iff_mem.mp h)
    have hlater : ∀ key ∈ rest.map Prod.fst, r.has key = true ∧ key ∉ m.1 :: seen := by
      intro key hkey
      obtain ⟨hkeyKnown, hkeyNew⟩ := hhas key (List.mem_cons_of_mem _ hkey)
      refine ⟨hkeyKnown, fun h => ?_⟩
      rcases List.mem_cons.mp h with rfl | h
      · exact hm hkey
      · exact hkeyNew h
    rw [List.map_cons, Record.putMembers, if_pos hknown, if_neg hcontains, List.foldlM_cons]
    cases hput : r.put m.1 (view m.2) x with
    | error e => rfl
    | ok next =>
      simp only [ih next hrest hlater, List.map_cons, List.reverse_cons, List.append_assoc]
      rfl

/-- Where no key is repeated or unknown and none is missing, an object is what its members make. -/
theorem ofMembers_eq (h : Listed members keys required) (r : Record β α) (view : Json → β)
    (hkeys : keys.Nodup) (hhas : keys.all r.has = true)
    (hrequired : (r.members.all fun m => m.2 || required.contains m.1) = true) :
    r.ofMembers (members.map fun m => (some m.1, view m.2)) .closed =
      members.foldlM (fun x m => r.put m.1 (view m.2) x) r.start := by
  have hknown : ∀ key ∈ members.map Prod.fst, r.has key = true ∧ key ∉ [] := fun key hkey =>
    ⟨List.all_eq_true.mp hhas key (h.keys.subset hkey), List.not_mem_nil⟩
  have hnone : r.missing? ((members.map Prod.fst).reverse ++ []) = none := by
    rw [missing?, Option.map_eq_none_iff, List.find?_eq_none]
    intro m hm hmissing
    obtain ⟨hneeded, hunseen⟩ := Bool.and_eq_true_iff.mp hmissing
    rcases Bool.or_eq_true_iff.mp (List.all_eq_true.mp hrequired m hm) with hmay | hmember
    · rw [hmay] at hneeded
      cases hneeded
    · have hseen := h.required m.1 (List.contains_iff_mem.mp hmember)
      simp [hseen] at hunseen
  simp only [Record.ofMembers, putMembers_eq r.start (h.keys.nodup hkeys) hknown]
  cases members.foldlM (fun x m => r.put m.1 (view m.2) x) r.start with
  | error e => rfl
  | ok y =>
    simp only [Except.map, bind, Except.bind, Draft.finish, hnone]
    rfl

end Listed

/-- Members that were written make `y`, put one after the other. -/
structure Reads (r : Record β α) (view : Json → β) (members : List (String × Json))
    (keys required : List String) (y : α) : Prop extends Listed members keys required where
  put : members.foldlM (fun x m => r.put m.1 (view m.2) x) r.start = .ok y

namespace Reads

theorem nil (r : Record β α) (view : Json → β) : r.Reads view [] [] [] r.start :=
  ⟨.nil, rfl⟩

/-- One more member that is always written. -/
theorem member (h : r.Reads view members keys required y) (key : String)
    (read : β → Except ShapeError γ) {v : Json} {a : γ} {set : γ → α} (hread : read (view v) = .ok a)
    (hput : r.put key (view v) y = do return set (← read (view v))) :
    r.Reads view (members ++ member key v) (keys ++ [key]) (required ++ [key]) (set a) where
  toListed := h.toListed.member key v
  put := by
    have hlast : (Json.member key v).foldlM (fun x m => r.put m.1 (view m.2) x) y =
        .ok (set a) := by
      rw [Json.member, List.foldlM_cons, hput, hread]
      rfl
    rw [List.foldlM_append, h.put]
    exact hlast

/-- One more member that is written when it has a value. -/
theorem memberIf (h : r.Reads view members keys required y) (key : String)
    (read : β → Except ShapeError (Option γ)) {o : Option γ} {write : γ → Json}
    {set : Option γ → α}
    (hread : ∀ a, o = some a → read (view (write a)) = .ok (some a))
    (hput : ∀ d, r.put key d y = do return set (← read d)) (hnone : set none = y) :
    r.Reads view (members ++ memberIf key (o.map write)) (keys ++ [key]) required (set o) where
  toListed := h.toListed.memberIf key _
  put := by
    cases o with
    | none =>
      rw [Option.map_none, Json.memberIf, List.append_nil, hnone]
      exact h.put
    | some a => exact (h.member key read (hread a rfl) (hput _)).put

/-- The structure is read back from its members. -/
theorem ofMembers (h : r.Reads view members keys required y) (hkeys : keys.Nodup)
    (hhas : keys.all r.has = true)
    (hrequired : (r.members.all fun m => m.2 || required.contains m.1) = true) :
    r.ofMembers (members.map fun m => (some m.1, view m.2)) .closed = .ok y :=
  (h.toListed.ofMembers_eq r view hkeys hhas hrequired).trans h.put

end Reads

end Record

/-- A structure whose members are drafts has the property whenever it was read. -/
theorem Record.Keeps.ofDraft {r : Record Draft α} {P : α → Prop} (h : r.Keeps (fun _ => True) P)
    {d : Draft} {y : α} (hread : r.ofDraft d = .ok y) : P y := by
  unfold Record.ofDraft at hread
  split at hread
  · exact h.ofMembers (fun _ _ => trivial) hread
  · exact h.ofItems (fun _ _ => trivial) hread
  · cases hread

/-- A structure whose members are drafts is read back from its value. -/
theorem Record.Reads.ofDraft {r : Record Draft α} {members : List (String × Json)}
    {keys required : List String} {y : α}
    (h : r.Reads Draft.ofJson members keys required y) (hkeys : keys.Nodup)
    (hhas : keys.all r.has = true)
    (hrequired : (r.members.all fun m => m.2 || required.contains m.1) = true) :
    r.ofDraft (Draft.ofJson (.obj members)) = .ok y := by
  rw [Draft.ofJson, Draft.ofMembers_eq, Record.ofDraft]
  exact h.ofMembers hkeys hhas hrequired

end LiveForm
