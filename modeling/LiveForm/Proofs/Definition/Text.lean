import LiveForm.Proofs.Definition.Check
import LiveForm.Proofs.Definition.Refusal

/-!
# Definitions read back from their texts

Two limits meet here. `FormDefinition.check` accepts a layout of at most `maxLayoutDepth` levels, and
the reader of texts uses at most `Draft.maxNesting` arrays and objects inside one another. A level of
a layout is an object in the array of the level around it, so it takes two of these, and the
definition itself one more: a layout of `n` levels needs `2 * n`.

The limits miss each other by one level. A definition whose layout leaves no level of nesting to spare
is refused as malformed (`FormDefinition.Canonical.ofText_text_deep`), and without nested values in
its fields any other is read back, if its numbers are (`FormDefinition.Canonical.ofText_text`). If
the attributes are not nested either, a layout with fewer than `maxLayoutDepth` levels leaves one to
spare. One with exactly as many passes the check and leaves none
(`FormDefinition.Parsed.ofText_wrapped`).
-/

namespace LiveForm

open Json (member memberIf)
open Draft (ofJsonAt maxNesting)

/-! ## Nesting -/

namespace Json

theorem itemsNesting_le {items : List Json} {n : Nat} (h : ∀ v ∈ items, v.nesting ≤ n) :
    itemsNesting items ≤ n := by
  induction items with
  | nil => exact Nat.zero_le n
  | cons v rest ih =>
    have hfirst := h v List.mem_cons_self
    have hrest := ih fun w hw => h w (List.mem_cons_of_mem v hw)
    rw [itemsNesting]
    omega

theorem membersNesting_append (first rest : List (String × Json)) :
    membersNesting (first ++ rest) = max (membersNesting first) (membersNesting rest) := by
  induction first with
  | nil => exact (Nat.zero_max _).symm
  | cons m first ih => rw [List.cons_append, membersNesting, ih, membersNesting, Nat.max_assoc]

theorem membersNesting_member (key : String) (v : Json) :
    membersNesting (member key v) = v.nesting := Nat.max_zero _

theorem membersNesting_memberIf_le {o : Option Json} {n : Nat} (key : String)
    (h : ∀ v, o = some v → v.nesting ≤ n) : membersNesting (memberIf key o) ≤ n := by
  cases o with
  | none => exact Nat.zero_le n
  | some v => exact Nat.max_le.mpr ⟨h v rfl, Nat.zero_le n⟩

/-- A member that is written from something that may be missing. -/
theorem membersNesting_memberIf_map_le {α : Type} (key : String) (o : Option α)
    (write : α → Json) {n : Nat} (h : ∀ a, o = some a → (write a).nesting ≤ n) :
    membersNesting (memberIf key (o.map write)) ≤ n := by
  refine membersNesting_memberIf_le key fun v hv => ?_
  obtain ⟨a, ha, rfl⟩ := Option.map_eq_some_iff.mp hv
  exact h a ha

/-- A member that is a scalar if it is written. -/
theorem membersNesting_memberIf_scalar {α : Type} (key : String) (o : Option α) (write : α → Json)
    (h : ∀ a, (write a).nesting = 0) : membersNesting (memberIf key (o.map write)) = 0 :=
  Nat.le_zero.mp (membersNesting_memberIf_map_le key o write fun a _ => (h a).le)

/-- The nesting of a list of values that are written from others. -/
theorem nesting_arr_map_le {α : Type} {xs : List α} {write : α → Json} {n : Nat}
    (h : ∀ x ∈ xs, (write x).nesting ≤ n) : (arr (xs.map write)).nesting ≤ n + 1 := by
  have hitems : itemsNesting (xs.map write) ≤ n := by
    refine itemsNesting_le fun v hv => ?_
    obtain ⟨x, hx, rfl⟩ := List.mem_map.mp hv
    exact h x hx
  rw [nesting]
  omega

end Json

open Json (membersNesting_append membersNesting_member membersNesting_memberIf_le
  membersNesting_memberIf_map_le membersNesting_memberIf_scalar)

/-! ## Definitions without nested values -/

/-- No value of a field is nested itself: it is an array or an object of scalars, or a scalar. -/
structure FieldDefinition.Flat (f : FieldDefinition) : Prop where
  defaultValue : ∀ v, f.defaultValue = some v → v.nesting ≤ 1
  choices : ∀ choices, f.choices = some choices → ∀ c ∈ choices, c.value.nesting ≤ 1
  rules : ∀ c, f.constraints = some c → ∀ calls, c.customRules = some calls →
    ∀ call ∈ calls, call.options.nesting ≤ 1
  visibility : ∀ cs, f.visibility = some cs → ∀ c ∈ cs, c.value.nesting ≤ 1

namespace LayoutNode

mutual

/-- Every attribute is a scalar. -/
def Flat : LayoutNode → Prop
  | .container _ _ attributes children => (Json.obj attributes).nesting ≤ 1 ∧ AllFlat children
  | _ => True

/-- `Flat` for every node. -/
def AllFlat : List LayoutNode → Prop
  | [] => True
  | node :: rest => node.Flat ∧ AllFlat rest

end

end LayoutNode

/-- Neither the values of the fields nor the attributes of the layout are nested. -/
structure FormDefinition.Flat (d : FormDefinition) : Prop where
  fields : ∀ f ∈ d.fields, f.Flat
  layout : d.layout.Flat

theorem Constraints.nesting_toJson_le {c : Constraints}
    (h : ∀ calls, c.customRules = some calls → ∀ call ∈ calls, call.options.nesting ≤ 1) :
    c.toJson.nesting ≤ 4 := by
  have hcalls : ∀ calls, c.customRules = some calls →
      (Json.arr (calls.map RuleCall.toJson)).nesting ≤ 3 := by
    intro calls hcalls
    refine Json.nesting_arr_map_le fun call hcall => ?_
    have hoptions := h calls hcalls call hcall
    simp only [RuleCall.toJson, Json.nesting, Json.membersNesting]
    omega
  have hrules := membersNesting_memberIf_map_le "customRules" c.customRules _ hcalls
  have hbound (key : String) (bound : Option Binary64) :=
    membersNesting_memberIf_scalar key bound Json.ofBinary64 fun x => by
      rw [Json.ofBinary64]
      split <;> rfl
  have hcount (key : String) (count : Option UInt64) :=
    membersNesting_memberIf_scalar key count (fun n => .num (.ofUInt64 n)) fun _ => rfl
  have hpattern := membersNesting_memberIf_scalar "pattern" c.pattern Json.str fun _ => rfl
  have hrequired := membersNesting_memberIf_scalar "required" c.required Json.bool fun _ => rfl
  simp only [toJson, Json.nesting, membersNesting_append, hbound, hcount, hpattern, hrequired]
  omega

theorem FieldDefinition.nesting_toJson_le {f : FieldDefinition} (h : f.Flat) :
    f.toJson.nesting ≤ 5 := by
  have hchoices : ∀ choices, f.choices = some choices →
      (Json.arr (choices.map Choice.toJson)).nesting ≤ 3 := by
    intro choices hchoices
    refine Json.nesting_arr_map_le fun c hc => ?_
    have hvalue := h.choices choices hchoices c hc
    simp only [Choice.toJson, Json.nesting, Json.membersNesting]
    omega
  have hconditions : ∀ cs, f.visibility = some cs →
      (Json.arr (cs.map Condition.toJson)).nesting ≤ 3 := by
    intro cs hcs
    refine Json.nesting_arr_map_le fun c hc => ?_
    have hvalue := h.visibility cs hcs c hc
    simp only [Condition.toJson, Json.nesting, Json.membersNesting]
    omega
  have hdefault := membersNesting_memberIf_le "defaultValue" h.defaultValue
  have hoptions := membersNesting_memberIf_map_le "options" f.choices _ hchoices
  have hvalidation := membersNesting_memberIf_map_le "validation" f.constraints Constraints.toJson
    fun c hc => Constraints.nesting_toJson_le (h.rules c hc)
  have hvisibility := membersNesting_memberIf_map_le "visibility" f.visibility _ hconditions
  have htext (key : String) (text : Option String) :=
    membersNesting_memberIf_scalar key text Json.str fun _ => rfl
  simp only [toJson, Json.nesting, membersNesting_append, membersNesting_member, htext]
  omega

/-! ## Layouts -/

namespace Draft

/-- Attributes that were read were not nested too deep. -/
theorem nesting_le_of_map_ok {level : Nat} {attributes : List (String × Json)} {read : Keyed Json}
    (hlevel : level ≤ maxNesting) (h : (ofJsonAt level (.obj attributes)).map = .ok read) :
    level + (Json.obj attributes).nesting ≤ maxNesting := by
  by_contra hdeep
  have hvalue := value?_ofJsonAt (.obj attributes) hlevel (Nat.lt_of_not_le hdeep)
  have hany : (ofJsonAt level (.obj attributes)).any = .error .malformed := by
    rw [any, hvalue]
  unfold Draft.map at h
  split at h
  · rename_i heq
    rw [hany] at h
    cases h
  · cases h

end Draft

namespace LayoutNode

open Json (itemsNesting membersNesting)

theorem nesting_container (id : String) (element : Option String)
    (attributes : List (String × Json)) (children : List LayoutNode) :
    (container id element attributes children).toJson.nesting =
      1 + max (Json.obj attributes).nesting (1 + itemsNesting (listToJson children)) := by
  have helement := membersNesting_memberIf_scalar "element" element Json.str fun _ => rfl
  simp only [toJson, Json.nesting, membersNesting_append, membersNesting_member, helement]
  omega

mutual

/-- Each level of a layout takes two levels of the value, the last of them at least one. -/
theorem depth_le_nesting : (node : LayoutNode) → 2 * node.depth ≤ node.toJson.nesting + 1
  | .field _ _ | .unknown _ _ => Nat.le_refl 2
  | .container id element attributes children => by
    have hchildren := greatestDepth_le_nesting children
    rw [depth, nesting_container]
    omega

theorem greatestDepth_le_nesting : (nodes : List LayoutNode) →
    2 * greatestDepth nodes ≤ itemsNesting (listToJson nodes) + 1
  | [] => Nat.zero_le 1
  | node :: rest => by
    have hfirst := depth_le_nesting node
    have hrest := greatestDepth_le_nesting rest
    rw [greatestDepth, listToJson, itemsNesting]
    omega

end

mutual

/-- No level of a flat layout takes more than two levels of the value. -/
theorem Flat.nesting_le : (node : LayoutNode) → node.Flat → node.toJson.nesting ≤ 2 * node.depth
  | .field _ _, _ | .unknown _ _, _ => Nat.le_succ 1
  | .container id element attributes children, h => by
    obtain ⟨hattributes, hflat⟩ := h
    have hchildren := AllFlat.nesting_le children hflat
    rw [depth, nesting_container]
    omega

theorem AllFlat.nesting_le : (nodes : List LayoutNode) → AllFlat nodes →
    itemsNesting (listToJson nodes) ≤ 2 * greatestDepth nodes
  | [], _ => Nat.le_refl 0
  | node :: rest, h => by
    have hfirst := Flat.nesting_le node h.1
    have hrest := AllFlat.nesting_le rest h.2
    rw [greatestDepth, listToJson, itemsNesting]
    omega

end

mutual

/-- A node that was read was not nested too deep. -/
theorem nesting_le_of_ok : (node : LayoutNode) → ∀ {level : Nat} {read : LayoutNode},
    ofDraft (ofJsonAt level node.toJson) = .ok read → level + node.toJson.nesting ≤ maxNesting
  | .field _ _, level, read, h | .unknown _ _, level, read, h => by
    by_contra hdeep
    have hrefused := ofDraft_obj_tooDeep (Nat.lt_of_not_le hdeep)
    exact absurd ((hrefused _).symm.trans h) nofun
  | .container id element attributes children, level, read, h => by
    have hlevel : level + 1 ≤ maxNesting := by
      by_contra hdeep
      rw [toJson, ofDraft_obj_tooDeep (Nat.lt_of_not_le hdeep)] at h
      cases h
    rw [ofDraft_container hlevel] at h
    obtain ⟨readAttributes, hattributes, h⟩ := ok_of_bind h
    obtain ⟨readChildren, hchildren, -⟩ := ok_of_bind h
    have hfirst := Draft.nesting_le_of_map_ok hlevel hattributes
    rw [listOfDraft_ofJsonAt] at hchildren
    split at hchildren
    · rename_i hitems
      have hrest := itemsNesting_le_of_ok children hitems hchildren
      rw [nesting_container]
      omega
    · cases hchildren

theorem itemsNesting_le_of_ok : (nodes : List LayoutNode) → ∀ {level : Nat}
    {read : List LayoutNode}, level ≤ maxNesting →
    ofDrafts (Draft.ofItemsAt level (listToJson nodes)) = .ok read →
    level + itemsNesting (listToJson nodes) ≤ maxNesting
  | [], _, _, hlevel, _ => hlevel
  | node :: rest, level, read, hlevel, h => by
    rw [listToJson, Draft.ofItemsAt, ofDrafts] at h
    cases hfirst : ofDraft (ofJsonAt level node.toJson) with
    | error e =>
      rw [hfirst] at h
      cases h
    | ok first =>
      rw [hfirst] at h
      obtain ⟨readRest, hrest, -⟩ := ok_of_map (f := (first :: ·)) h
      have hnode := nesting_le_of_ok node hfirst
      have hitems := itemsNesting_le_of_ok rest hlevel hrest
      rw [listToJson, itemsNesting]
      omega

end

end LayoutNode

/-! ## Forms -/

namespace FormDefinition

open Json (membersNesting)

variable {d : FormDefinition}

/-- The definition was read, from a text or from a value. -/
def Parsed (d : FormDefinition) : Prop := (∃ s, ofText s = .ok d) ∨ ∃ v, ofJson v = .ok d

/-- The definition with its layout inside containers, the last of them outermost. -/
def wrapped (d : FormDefinition) (ids : List String) : FormDefinition :=
  { d with layout := ids.foldl (fun node id => .wrap id [node]) d.layout }

theorem Parsed.canonical (h : d.Parsed) : d.Canonical := by
  rcases h with ⟨s, h⟩ | ⟨v, h⟩
  · have hdraft : record.ofDraft (Draft.ofText s).1 = .ok d := by
      simp only [ofText, Record.ofText] at h
      split at h
      · cases h
      · rename_i x hread
        split at h
        · cases h
          exact hread
        · cases h
    exact keeps.ofDraft hdraft
  · exact canonical_ofJson h

/-- What a container keeps is kept by any number of them. -/
theorem wrapped_induction {P : LayoutNode → Prop} (hwrap : ∀ id node, P node → P (.wrap id [node]))
    (h : P d.layout) (ids : List String) : P (d.wrapped ids).layout := by
  show P (ids.foldl (fun node id => .wrap id [node]) d.layout)
  generalize d.layout = node at h
  induction ids generalizing node with
  | nil => exact h
  | cons id ids ih => exact ih _ (hwrap id node h)

theorem Canonical.wrapped (h : d.Canonical) (ids : List String) : (d.wrapped ids).Canonical where
  fields := h.fields
  layout := wrapped_induction (fun _ _ hnode => ⟨⟨List.Pairwise.nil, trivial⟩, hnode, trivial⟩)
    h.layout ids

theorem Flat.wrapped (h : d.Flat) (ids : List String) : (d.wrapped ids).Flat where
  fields := h.fields
  layout := wrapped_induction (fun _ _ hnode => ⟨Nat.le_refl 1, hnode, trivial⟩) h.layout ids

theorem depth_wrapped (d : FormDefinition) (ids : List String) :
    (d.wrapped ids).layout.depth = d.layout.depth + ids.length := by
  show (ids.foldl (fun node id => LayoutNode.wrap id [node]) d.layout).depth = _
  generalize d.layout = node
  induction ids generalizing node with
  | nil => rfl
  | cons id ids ih =>
    have hwrap : (LayoutNode.wrap id [node]).depth = 1 + node.depth := by
      rw [LayoutNode.wrap, LayoutNode.depth, LayoutNode.greatestDepth, LayoutNode.greatestDepth,
        Nat.max_zero]
    rw [List.foldl_cons, ih, hwrap, List.length_cons]
    omega

theorem exact_toJson : d.toJson.Exact ↔
    Json.ItemsExact (d.fields.map FieldDefinition.toJson) ∧ d.layout.toJson.Exact := by
  obtain ⟨formId, name, description, config, fields, layout⟩ := d
  cases description <;> simp [toJson, Json.Exact, Json.MembersExact, member, memberIf]

/-- Containers add no numbers. -/
theorem exact_wrapped (h : d.toJson.Exact) (ids : List String) : (d.wrapped ids).toJson.Exact := by
  obtain ⟨hfields, hlayout⟩ := exact_toJson.mp h
  refine exact_toJson.mpr ⟨hfields, ?_⟩
  exact wrapped_induction (P := fun node => node.toJson.Exact) (fun id node hnode =>
    ⟨trivial, ⟨hnode, trivial⟩, trivial, trivial, trivial⟩) hlayout ids

theorem nesting_fields_le (h : ∀ f ∈ d.fields, f.Flat) :
    (Json.arr (d.fields.map FieldDefinition.toJson)).nesting ≤ 6 :=
  Json.nesting_arr_map_le fun f hf => FieldDefinition.nesting_toJson_le (h f hf)

/-- A definition without nested values in its fields is read back from its text if the value of its
layout leaves a level for the definition itself and every number is read back. -/
theorem Canonical.ofText_text (hcanonical : d.Canonical) (hflat : ∀ f ∈ d.fields, f.Flat)
    (hexact : d.toJson.Exact) (hlayout : d.layout.toJson.nesting < maxNesting) :
    ofText d.toJson.text = .ok d := by
  have hfields := nesting_fields_le hflat
  have hdescription := membersNesting_memberIf_scalar "description" d.description Json.str
    fun _ => rfl
  have hnesting : 0 + d.toJson.nesting ≤ maxNesting := by
    simp only [toJson, Json.nesting, membersNesting_append, membersNesting_member,
      Json.membersNesting, hdescription, maxNesting] at hfields hlayout ⊢
    omega
  rw [ofText, Record.ofText_text, Draft.ofJsonAt_eq d.toJson hexact hnesting,
    ofDraft_toJson hcanonical]
  rfl

/-- If the value of the layout leaves no level for the definition itself, the text is malformed. -/
theorem Canonical.ofText_text_deep (hcanonical : d.Canonical)
    (hlayout : maxNesting ≤ d.layout.toJson.nesting) : ofText d.toJson.text = .error .malformed := by
  cases hresult : ofText d.toJson.text with
  | error e => rw [hcanonical.refused_malformed e hresult]
  | ok read =>
    have hread : record.ofDraft (ofJsonAt 0 d.toJson) = .ok read := by
      rw [ofText, Record.ofText_text] at hresult
      cases hdraft : record.ofDraft (ofJsonAt 0 d.toJson) with
      | error e =>
        rw [hdraft] at hresult
        cases hresult
      | ok other =>
        rw [hdraft] at hresult
        exact hresult
    rw [ofDraft_ofJsonAt] at hread
    obtain ⟨fields, -, hread⟩ := ok_of_bind hread
    obtain ⟨layout, hnode, -⟩ := ok_of_bind hread
    have hnesting := d.layout.nesting_le_of_ok hnode
    omega

/-- A definition that was read has its layout put inside any number of containers and passes the
check. If the layout has exactly as many levels as there may be, the text of the definition is
refused as malformed. If it has fewer, the definition is read back from its text, as long as each of
its numbers is read back from its token. -/
theorem Parsed.ofText_wrapped (hparsed : d.Parsed) (hflat : d.Flat) (ids : List String)
    (hcheck : (d.wrapped ids).check = .ok ()) :
    ((d.wrapped ids).layout.depth = maxLayoutDepth →
        ofText (d.wrapped ids).toJson.text = .error .malformed) ∧
      ((d.wrapped ids).layout.depth ≠ maxLayoutDepth → d.toJson.Exact →
        ofText (d.wrapped ids).toJson.text = .ok (d.wrapped ids)) := by
  have hcanonical := hparsed.canonical.wrapped ids
  obtain ⟨hfields, hlayout⟩ := hflat.wrapped ids
  have hdepth := depth_le_of_check hcheck
  have hleast := (d.wrapped ids).layout.depth_le_nesting
  have hmost := hlayout.nesting_le
  -- Twice the limit of levels is one more than the limit of nesting.
  have hlimits : 2 * maxLayoutDepth = maxNesting + 1 := rfl
  constructor
  · intro hlimit
    exact hcanonical.ofText_text_deep (by omega)
  · intro hlimit hexact
    exact hcanonical.ofText_text hfields (exact_wrapped hexact ids) (by omega)

/-- A form of one field, whose default is a list of a number and a text. -/
def moodForm : FormDefinition where
  formId := "mood"
  name := "Mood"
  fields :=
    [{ id := "mood", name := "mood", kind := .other "slider", label := "Mood"
       defaultValue := some (.arr [.num (.float ⟨true, 0x3FF8000000000000, by decide⟩ (by decide)),
         .str "so so"]) }]
  layout := .field "leaf" "mood"

theorem parsed_moodForm : moodForm.Parsed := .inr ⟨moodForm.toJson, rfl⟩

theorem flat_moodForm : moodForm.Flat where
  fields := by
    intro f hf
    rw [List.mem_singleton.mp hf]
    refine ⟨?_, nofun, nofun, nofun⟩
    rintro v ⟨⟩
    exact Nat.le_refl 1
  layout := trivial

theorem check_moodForm {ids : List String} (h : ids.length < maxLayoutDepth) :
    (moodForm.wrapped ids).check = .ok () := by
  have hdepth : (moodForm.wrapped ids).layout.depth = 1 + ids.length := moodForm.depth_wrapped ids
  have hfields : (moodForm.wrapped ids).duplicateId? = none := rfl
  rw [check, hfields]
  exact if_neg (by omega)

theorem exact_moodForm : moodForm.toJson.Exact := by
  have hnumber : (Number.float ⟨true, 0x3FF8000000000000, by decide⟩ (by decide)).Exact :=
    Number.exact_of_short _ (by decide +kernel) (by decide +kernel)
  have hdefault : (Json.arr [.num (.float ⟨true, 0x3FF8000000000000, by decide⟩ (by decide)),
      .str "so so"]).Exact := ⟨hnumber, trivial, trivial⟩
  exact exact_toJson.mpr
    ⟨⟨⟨hdefault, trivial, trivial, trivial, trivial, trivial⟩, trivial⟩,
      trivial, trivial, trivial, trivial⟩

/-- In one container the form is read back, in as many as the check allows it is not. -/
theorem ofText_wrapped_moodForm :
    ofText (moodForm.wrapped ["outer"]).toJson.text = .ok (moodForm.wrapped ["outer"]) ∧
      ofText (moodForm.wrapped (List.replicate 63 "outer")).toJson.text = .error .malformed := by
  constructor
  · refine (parsed_moodForm.ofText_wrapped flat_moodForm ["outer"] (check_moodForm (by decide))).2
      ?_ exact_moodForm
    rw [depth_wrapped]
    decide
  · refine (parsed_moodForm.ofText_wrapped flat_moodForm (List.replicate 63 "outer")
      (check_moodForm (by decide))).1 ?_
    rw [depth_wrapped]
    decide

/-- The check and the reader of texts disagree about the greatest number of levels. -/
theorem check_accepts_unreadable :
    moodForm.Parsed ∧ moodForm.Flat ∧
      (moodForm.wrapped (List.replicate 63 "outer")).check = .ok () ∧
      ofText (moodForm.wrapped (List.replicate 63 "outer")).toJson.text ≠
        .ok (moodForm.wrapped (List.replicate 63 "outer")) := by
  have hdepth : (moodForm.wrapped (List.replicate 63 "outer")).layout.depth = maxLayoutDepth := by
    rw [depth_wrapped]
    decide
  have hdeep : maxNesting ≤ (moodForm.wrapped (List.replicate 63 "outer")).layout.toJson.nesting := by
    have hlimits : 2 * maxLayoutDepth = maxNesting + 1 := rfl
    have hleast := (moodForm.wrapped (List.replicate 63 "outer")).layout.depth_le_nesting
    omega
  have hrefused :=
    (parsed_moodForm.canonical.wrapped (List.replicate 63 "outer")).ofText_text_deep hdeep
  refine ⟨parsed_moodForm, flat_moodForm, check_moodForm (by decide), fun hread => ?_⟩
  rw [hrefused] at hread
  cases hread

end FormDefinition

end LiveForm
