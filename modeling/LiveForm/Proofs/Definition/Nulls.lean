import LiveForm.Definition.Reading
import LiveForm.Proofs.Json.Omission
import LiveForm.Proofs.Json.Text

/-!
# Collections that are left out

A collection of a definition may be left out, and it may be `null` instead. `Adds` says that one
draft has a member more than another, whose value is `null`: in the form itself or in a structure
inside of it, however deep. `FormDefinition.absent_or_null` says that both are the same definition
or are refused with the same error, with one exception. The fields of the form are a collection that
may be left out and may not be `null`.
-/

namespace LiveForm

/-! ## The structures of a definition -/

namespace LayoutNode

theorem ofDrafts_eq (items : List Draft) : ofDrafts items = items.mapM ofDraft := by
  induction items with
  | nil => rfl
  | cons d rest ih =>
    rw [ofDrafts, ih, List.mapM_cons]
    cases ofDraft d with
    | error e => rfl
    | ok node => rfl

theorem listOfDraft_eq (d : Draft) : listOfDraft d = d.list ofDraft := by
  cases d with
  | arr items ending => rw [listOfDraft, Draft.list, ofDrafts_eq]
  | _ => rfl

theorem pairMembers_eq (members : List (Option String × Draft)) :
    pairMembers members = members.map fun m => (m.1, m.2, listOfDraft m.2) := by
  induction members with
  | nil => rfl
  | cons m rest ih => rw [pairMembers, ih, List.map_cons]

theorem pairItems_eq (items : List Draft) :
    pairItems items = items.map fun d => (d, listOfDraft d) := by
  induction items with
  | nil => rfl
  | cons d rest ih => rw [pairItems, ih, List.map_cons]

/-- A node is what its members make, each of which comes with what it is as a list of nodes. -/
theorem ofDraft_eq (d : Draft) :
    ofDraft d =
      (NodeMembers.record.read (fun d => (d, listOfDraft d)) d).bind NodeMembers.node := by
  cases d with
  | obj members ending => rw [ofDraft, Record.read, pairMembers_eq]
  | arr items ending => rw [ofDraft, Record.read, pairItems_eq]
  | _ => rfl

end LayoutNode

/-- The structures that a definition consists of. -/
inductive Part where
  | form
  | config
  | field
  | choice
  | condition
  | constraints
  | ruleCall
  | node
deriving DecidableEq

namespace Part

/-- What the members of a structure are collected in. -/
def Raw : Part → Type
  | form => FormDefinition
  | config => FormConfig
  | field => FieldDefinition
  | choice => Choice
  | condition => Condition
  | constraints => Constraints
  | ruleCall => RuleCall
  | node => NodeMembers

/-- What the structure takes of a member. -/
def Seen : Part → Type
  | node => Draft × Except ShapeError (List LayoutNode)
  | _ => Draft

def view : (p : Part) → Draft → p.Seen
  | node => fun d => (d, LayoutNode.listOfDraft d)
  | form | config | field | choice | condition | constraints | ruleCall => id

def record : (p : Part) → Record p.Seen p.Raw
  | form => FormDefinition.record
  | config => FormConfig.record
  | field => FieldDefinition.record
  | choice => Choice.record
  | condition => Condition.record
  | constraints => Constraints.record
  | ruleCall => RuleCall.record
  | node => NodeMembers.record

/-- What the members of a structure come to. -/
def read (p : Part) (d : Draft) : Except ShapeError p.Raw := p.record.read p.view d

end Part

/-- What a member of a structure is: one structure, or a list of them. -/
inductive Slot where
  | one (p : Part)
  | many (p : Part)

/-- The members of structures that are structures themselves. -/
inductive Part.Member : Part → String → Slot → Prop
  | config : Member .form "config" (.one .config)
  | fields : Member .form "fields" (.many .field)
  | layout : Member .form "layoutDefinition" (.one .node)
  | choices : Member .field "options" (.many .choice)
  | constraints : Member .field "validation" (.one .constraints)
  | visibility : Member .field "visibility" (.many .condition)
  | customRules : Member .constraints "customRules" (.many .ruleCall)
  | children : Member .node "children" (.many .node)

/-- A key that is new gets a place between the others. -/
theorem Keyed.exists_insert {α : Type} {m : Keyed α} {key : String} (h : m.find? key = none) (value : α) :
    ∃ before after, m = before ++ after ∧
      m.insert key value = before ++ (key, value) :: after ∧ ∀ entry ∈ m, entry.1 ≠ key := by
  induction m with
  | nil => exact ⟨[], [], rfl, rfl, nofun⟩
  | cons entry rest ih =>
    obtain ⟨k, v⟩ := entry
    rw [find?] at h
    split at h
    · cases h
    · rename_i hk
      obtain ⟨before, after, rfl, hinsert, hne⟩ := ih h
      rw [insert, if_neg hk]
      have hall : ∀ entry ∈ (k, v) :: (before ++ after), entry.1 ≠ key :=
        List.forall_mem_cons.mpr ⟨hk, hne⟩
      split
      · exact ⟨[], _, rfl, rfl, hall⟩
      · exact ⟨(k, v) :: before, after, rfl, congrArg _ hinsert, hall⟩

/-- The second draft has one member more than the first, the key with `null`. It is in a structure
of the kind `target`, which the drafts have somewhere inside, or are themselves. -/
inductive Adds (key : String) (target : Part) : Slot → Draft → Draft → Prop
  | here {before after : List (Option String × Draft)} {ending : Ending}
      (habsent : ∀ m ∈ before ++ after, m.1 ≠ some key) :
      Adds key target (.one target) (.obj (before ++ after) ending)
        (.obj (before ++ (some key, .null) :: after) ending)
  | member {p : Part} {name : String} {slot : Slot} (hname : p.Member name slot) {d e : Draft}
      (h : Adds key target slot d e) (before after : List (Option String × Draft))
      (ending : Ending) :
      Adds key target (.one p) (.obj (before ++ (some name, d) :: after) ending)
        (.obj (before ++ (some name, e) :: after) ending)
  | position {p : Part} {name : String} {slot : Slot} (hname : p.Member name slot) {d e : Draft}
      (h : Adds key target slot d e) {may : Bool} {keys others : List (String × Bool)}
      (hkeys : p.record.members = keys ++ (name, may) :: others) {before : List Draft}
      (hlength : keys.length = before.length) (after : List Draft) (ending : Ending) :
      Adds key target (.one p) (.arr (before ++ d :: after) ending)
        (.arr (before ++ e :: after) ending)
  | item {p : Part} {d e : Draft} (h : Adds key target (.one p) d e) (before after : List Draft)
      (ending : Ending) :
      Adds key target (.many p) (.arr (before ++ d :: after) ending)
        (.arr (before ++ e :: after) ending)

namespace Adds

variable {key : String} {target : Part} {slot : Slot} {d e : Draft}

/-- To put `null` at a key that an object does not have is to add a member. -/
theorem ofJson_insert {members : Keyed Json} (h : members.find? key = none) :
    Adds key target (.one target) (.ofJson (.obj members))
      (.ofJson (.obj (members.insert key .null))) := by
  obtain ⟨before, after, rfl, hinsert, habsent⟩ := Keyed.exists_insert h .null
  rw [hinsert, Draft.ofJson, Draft.ofJson, Draft.ofMembers_eq, Draft.ofMembers_eq, List.map_append,
    List.map_append, List.map_cons, Draft.ofJson]
  refine .here fun m hm => ?_
  rw [← List.map_append] at hm
  obtain ⟨entry, hentry, rfl⟩ := List.mem_map.mp hm
  exact fun heq => habsent entry hentry (Option.some.inj heq)

/-- Where something is added there is an object or an array. -/
theorem ne_null (h : Adds key target slot d e) : d ≠ .null ∧ e ≠ .null := by
  cases h <;> exact ⟨nofun, nofun⟩

end Adds

/-- The drafts read the same, as a structure or as a list with one item that reads the same. -/
def Slot.Alike : Slot → Draft → Draft → Prop
  | .one p, d, e => p.read e = p.read d
  | .many p, d, e => ∃ before after ending item other, d = .arr (before ++ item :: after) ending ∧
      e = .arr (before ++ other :: after) ending ∧ p.read other = p.read item

theorem Slot.Alike.list {α : Type} {p : Part} {d e : Draft} {read : Draft → Except ShapeError α}
    (h : (Slot.many p).Alike d e) (hread : ∀ d e, p.read e = p.read d → read e = read d) :
    e.list read = d.list read := by
  obtain ⟨before, after, ending, item, other, rfl, rfl, hitem⟩ := h
  exact Draft.list_congr (hread item other hitem) before after ending

theorem LayoutNode.ofDraft_congr {d e : Draft} (h : Part.node.read e = Part.node.read d) :
    ofDraft e = ofDraft d := by
  rw [ofDraft_eq, ofDraft_eq]
  exact congrArg (Except.bind · NodeMembers.node) h

namespace Part.Member

open Draft (optional_congr)
open Record (ofDraft_congr)

variable {p : Part} {name : String} {slot : Slot} {d e : Draft}

theorem has (h : p.Member name slot) : p.record.has name = true := by
  cases h <;> decide

/-- Drafts that read the same are put in the same way. -/
theorem put_congr (h : p.Member name slot) (hd : d ≠ .null) (he : e ≠ .null)
    (halike : slot.Alike d e) (x : p.Raw) :
    p.record.put name (p.view e) x = p.record.put name (p.view d) x := by
  cases h with
  | config =>
    have hread : FormConfig.record.ofDraft e = FormConfig.record.ofDraft d := ofDraft_congr halike
    exact congrArg (fun read => do return { (x : FormDefinition) with config := ← read }) hread
  | fields =>
    have hread : e.list FieldDefinition.record.ofDraft = d.list FieldDefinition.record.ofDraft :=
      halike.list fun _ _ => ofDraft_congr
    exact congrArg (fun read => do return { (x : FormDefinition) with fields := ← read }) hread
  | layout =>
    have hread : LayoutNode.ofDraft e = LayoutNode.ofDraft d := LayoutNode.ofDraft_congr halike
    exact congrArg (fun read => do return { (x : FormDefinition) with layout := ← read }) hread
  | choices =>
    have hlist : e.list Choice.record.ofDraft = d.list Choice.record.ofDraft :=
      halike.list fun _ _ => ofDraft_congr
    have hread := optional_congr hd he hlist
    exact congrArg (fun read => do return { (x : FieldDefinition) with choices := ← read }) hread
  | constraints =>
    have hspec : Constraints.record.ofDraft e = Constraints.record.ofDraft d :=
      ofDraft_congr halike
    have hread := optional_congr hd he hspec
    exact congrArg (fun read => do return { (x : FieldDefinition) with constraints := ← read })
      hread
  | visibility =>
    have hlist : e.list Condition.record.ofDraft = d.list Condition.record.ofDraft :=
      halike.list fun _ _ => ofDraft_congr
    have hread := optional_congr hd he hlist
    exact congrArg (fun read => do return { (x : FieldDefinition) with visibility := ← read }) hread
  | customRules =>
    have hlist : e.list RuleCall.record.ofDraft = d.list RuleCall.record.ofDraft :=
      halike.list fun _ _ => ofDraft_congr
    have hread := optional_congr hd he hlist
    exact congrArg (fun read => do return { (x : Constraints) with customRules := ← read }) hread
  | children =>
    have hlist : e.list LayoutNode.ofDraft = d.list LayoutNode.ofDraft :=
      halike.list fun _ _ => LayoutNode.ofDraft_congr
    rw [← LayoutNode.listOfDraft_eq, ← LayoutNode.listOfDraft_eq] at hlist
    have hread := optional_congr (f := fun _ => LayoutNode.listOfDraft d)
      (g := fun _ => LayoutNode.listOfDraft e) hd he hlist
    exact congrArg (fun read => do return { (x : NodeMembers) with children := ← read }) hread

end Part.Member

/-- Where a structure may omit a member, the drafts read the same with it and without it. -/
theorem Adds.alike {key : String} {target : Part} {P : target.Raw → Prop}
    (htarget : target.record.Omits key (target.view .null) P) {slot : Slot} {d e : Draft}
    (h : Adds key target slot d e) : slot.Alike d e := by
  induction h with
  | here habsent => exact htarget.read habsent _
  | member hname h before after ending ih =>
    obtain ⟨hd, he⟩ := h.ne_null
    exact Record.read_member_congr hname.has (hname.put_congr hd he ih) before after ending
  | position hname h hkeys hlength after ending ih =>
    obtain ⟨hd, he⟩ := h.ne_null
    exact Record.read_item_congr (hname.put_congr hd he ih) hkeys hlength after ending
  | item h before after ending ih => exact ⟨before, after, ending, _, _, rfl, rfl, ih⟩

/-! ## Which members may be omitted -/

/-- The collections of a definition that are said to be optional. -/
def collectionKeys : List String :=
  ["fields", "options", "visibility", "customRules", "attributes", "children"]

theorem FieldDefinition.put_other {key : String} {d : Draft} {x y : FieldDefinition}
    (h : record.put key d x = .ok y) :
    (key ≠ "options" → y.choices = x.choices) ∧
      (key ≠ "visibility" → y.visibility = x.visibility) := by
  simp only [record] at h
  split at h
  all_goals
    first
    | obtain ⟨_, -, rfl⟩ := ok_of_map h
      simp
    | cases h
      simp

theorem FieldDefinition.omits_options : record.Omits "options" .null fun x => x.choices = none :=
  .of_part choices none (by decide) rfl rfl (by rintro ⟨⟩ rfl; rfl)
    fun h => (put_other h).1

theorem FieldDefinition.omits_visibility :
    record.Omits "visibility" .null fun x => x.visibility = none :=
  .of_part visibility none (by decide) rfl rfl (by rintro ⟨⟩ rfl; rfl)
    fun h => (put_other h).2

theorem Constraints.put_other {key : String} {d : Draft} {x y : Constraints}
    (h : record.put key d x = .ok y) : key ≠ "customRules" → y.customRules = x.customRules := by
  simp only [record] at h
  split at h
  all_goals
    first
    | obtain ⟨_, -, rfl⟩ := ok_of_map h
      simp
    | cases h
      simp

theorem Constraints.omits_customRules :
    record.Omits "customRules" .null fun x => x.customRules = none :=
  .of_part customRules none (by decide) rfl rfl (by rintro ⟨⟩ rfl; rfl) put_other

theorem RuleCall.put_other {key : String} {d : Draft} {x y : RuleCall}
    (h : record.put key d x = .ok y) : key ≠ "options" → y.options = x.options := by
  simp only [record] at h
  split at h
  all_goals
    first
    | obtain ⟨_, -, rfl⟩ := ok_of_map h
      simp
    | cases h
      simp

theorem RuleCall.omits_options : record.Omits "options" .null fun x => x.options = .null :=
  .of_part options .null (by decide) rfl rfl (by rintro ⟨⟩ rfl; rfl) put_other

theorem NodeMembers.put_other {key : String} {d : Draft × Except ShapeError (List LayoutNode)}
    {x y : NodeMembers} (h : record.put key d x = .ok y) :
    (key ≠ "attributes" → y.attributes = x.attributes) ∧
      (key ≠ "children" → y.children = x.children) := by
  simp only [record] at h
  split at h
  all_goals
    first
    | obtain ⟨_, -, rfl⟩ := ok_of_map h
      simp
    | cases h
      simp

theorem NodeMembers.omits_attributes (nodes : Except ShapeError (List LayoutNode)) :
    record.Omits "attributes" (.null, nodes) fun x => x.attributes = none :=
  .of_part attributes none (by decide) rfl rfl (by rintro ⟨⟩ rfl; rfl)
    fun h => (put_other h).1

theorem NodeMembers.omits_children (nodes : Except ShapeError (List LayoutNode)) :
    record.Omits "children" (.null, nodes) fun x => x.children = none :=
  .of_part children none (by decide) rfl rfl (by rintro ⟨⟩ rfl; rfl)
    fun h => (put_other h).2

/-- Every structure may omit every collection, except the form its fields. -/
theorem Part.exists_omits {key : String} (hkey : key ∈ collectionKeys) {p : Part}
    (hform : ¬ (p = .form ∧ key = "fields")) :
    ∃ P, p.record.Omits key (p.view .null) P := by
  simp only [collectionKeys, List.mem_cons, List.not_mem_nil, or_false] at hkey
  rcases hkey with rfl | rfl | rfl | rfl | rfl | rfl
  · cases p with
    | form => exact absurd ⟨rfl, rfl⟩ hform
    | _ => exact ⟨_, .of_has (by decide) rfl fun _ => rfl⟩
  · cases p with
    | field => exact ⟨_, FieldDefinition.omits_options⟩
    | ruleCall => exact ⟨_, RuleCall.omits_options⟩
    | _ => exact ⟨_, .of_has (by decide) rfl fun _ => rfl⟩
  · cases p with
    | field => exact ⟨_, FieldDefinition.omits_visibility⟩
    | _ => exact ⟨_, .of_has (by decide) rfl fun _ => rfl⟩
  · cases p with
    | constraints => exact ⟨_, Constraints.omits_customRules⟩
    | _ => exact ⟨_, .of_has (by decide) rfl fun _ => rfl⟩
  · cases p with
    | node => exact ⟨_, NodeMembers.omits_attributes _⟩
    | _ => exact ⟨_, .of_has (by decide) rfl fun _ => rfl⟩
  · cases p with
    | node => exact ⟨_, NodeMembers.omits_children _⟩
    | _ => exact ⟨_, .of_has (by decide) rfl fun _ => rfl⟩

/-! ## Definitions with one collection more -/

/-- The structure, or the structure of the items. -/
def Slot.part : Slot → Part
  | .one p | .many p => p

theorem Part.Member.part_ne_form {p : Part} {name : String} {slot : Slot} (h : p.Member name slot) :
    slot.part ≠ .form := by
  cases h <;> decide

/-- No structure has a form inside. -/
theorem Adds.part_eq_form {key : String} {slot : Slot} {d e : Draft} (h : Adds key .form slot d e) :
    slot.part = .form := by
  induction h with
  | here => rfl
  | member hname _ _ _ _ ih => exact absurd ih hname.part_ne_form
  | position hname _ _ _ _ _ ih => exact absurd ih hname.part_ne_form
  | item _ _ _ _ ih => exact ih

namespace FormDefinition

/-- A form whose fields are `null` is no definition. -/
theorem ofMembers_null_fields (before after : List (Option String × Draft)) (ending : Ending) :
    ∃ error, record.ofMembers (before ++ (some "fields", .null) :: after) ending =
      .error error := by
  cases h : record.ofMembers (before ++ (some "fields", .null) :: after) ending with
  | error error => exact ⟨error, rfl⟩
  | ok d =>
    obtain ⟨seen, hput, -, -⟩ := Record.ofMembers_eq_ok.mp h
    rw [Record.putMembers_append] at hput
    obtain ⟨⟨keys, x⟩, -, hput⟩ := ok_of_bind hput
    have hnull : record.put "fields" .null x = .error (.wrongType .null "a sequence") := rfl
    rw [Record.putMembers, if_pos (by decide), hnull] at hput
    split at hput
    · cases hput
    · cases hput

theorem ofDraft_adds_fields {d e : Draft} (h : Adds "fields" .form (.one .form) d e) :
    ∃ error, record.ofDraft e = .error error := by
  cases h with
  | here => exact ofMembers_null_fields _ _ _
  | member hname h => exact absurd h.part_eq_form hname.part_ne_form
  | position hname h => exact absurd h.part_eq_form hname.part_ne_form

/-- With one collection more, as `null`, a draft reads the same, unless these are the fields of the
form. -/
theorem ofDraft_adds {key : String} (hkey : key ∈ collectionKeys) {target : Part} {d e : Draft}
    (h : Adds key target (.one .form) d e) (hform : ¬ (target = .form ∧ key = "fields")) :
    record.ofDraft e = record.ofDraft d := by
  obtain ⟨P, hP⟩ := Part.exists_omits hkey hform
  exact Record.ofDraft_congr (h.alike hP)

/-- A definition is offered twice, as a value or as a text, the second time with one collection
more, as `null`: in the form or in any structure inside of it that has no member of this name. Both
times it is the same definition, or refused with the same error. Only with `null` for the fields of
the form it is always refused. -/
theorem absent_or_null {key : String} (hkey : key ∈ collectionKeys) (target : Part) :
    (∀ v w : Json, Adds key target (.one .form) (.ofJson v) (.ofJson w) →
      if target = .form ∧ key = "fields" then ∃ error, ofJson w = .error error
      else ofJson w = ofJson v) ∧
    (∀ s t : String, Adds key target (.one .form) (Draft.ofText s).1 (Draft.ofText t).1 →
      (Draft.ofText t).2 = (Draft.ofText s).2 →
      if target = .form ∧ key = "fields" then ∃ error, ofText t = .error error
      else ofText t = ofText s) := by
  constructor
  · intro v w h
    split
    · rename_i hform
      obtain ⟨rfl, rfl⟩ := hform
      exact ofDraft_adds_fields h
    · rename_i hform
      exact ofDraft_adds hkey h hform
  · intro s t h hended
    split
    · rename_i hform
      obtain ⟨rfl, rfl⟩ := hform
      obtain ⟨error, herror⟩ := ofDraft_adds_fields h
      exact ⟨error.ofText, by rw [ofText, Record.ofText]; simp only [herror]⟩
    · rename_i hform
      rw [ofText, ofText, Record.ofText, Record.ofText]
      simp only [ofDraft_adds hkey h hform, hended]

/-- The members of a container that has no other. -/
def bareNode : Keyed Json := [("component", .str "container")]

/-- The members of a form without fields. -/
def bareForm (layout : Keyed Json) : Keyed Json :=
  [("formId", .str "f"), ("layoutDefinition", .obj layout), ("name", .str "F")]

/-- The children of a container may be `null`, in a value and in its text. The fields of a form may
not. -/
theorem absent_or_null_bareForm :
    ofJson (.obj (bareForm (bareNode.insert "children" .null))) =
        ofJson (.obj (bareForm bareNode)) ∧
      ofText (Json.obj (bareForm (bareNode.insert "children" .null))).text =
        ofText (Json.obj (bareForm bareNode)).text ∧
      ∃ error, ofJson (.obj ((bareForm bareNode).insert "fields" .null)) = .error error := by
  have hchildren : Adds "children" .node (.one .form) (.ofJson (.obj (bareForm bareNode)))
      (.ofJson (.obj (bareForm (bareNode.insert "children" .null)))) :=
    .member .layout (.ofJson_insert rfl) [(some "formId", .str "f")] _ _
  obtain ⟨hvalues, htexts⟩ := @absent_or_null "children" (by decide) .node
  refine ⟨hvalues _ _ hchildren, htexts _ _ ?_ ?_, ?_⟩
  · rw [Draft.ofText_text, Draft.ofText_text]
    exact hchildren
  · rw [Draft.ofText_text, Draft.ofText_text]
  · exact (@absent_or_null "fields" (by decide) .form).1 _ _ (.ofJson_insert rfl)

/-- A form without fields is a definition, and with `null` as its fields it is none. -/
theorem null_fields_refused :
    (∃ d, ofJson (.obj (bareForm bareNode)) = .ok d) ∧
      ofJson (.obj ((bareForm bareNode).insert "fields" .null)) =
        .error (.wrongType .null "a sequence") :=
  ⟨⟨_, rfl⟩, rfl⟩

end FormDefinition

end LiveForm
