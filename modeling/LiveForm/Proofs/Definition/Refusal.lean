import LiveForm.Proofs.Definition.RoundTrip
import LiveForm.Proofs.Json.Text

/-!
# Refused texts of definitions

What a definition is written as has a value of the right shape for every member, so the only error
that its text can meet is that something is malformed (`FormDefinition.Canonical.refused_malformed`).
There are two occasions for it: an array or an object that is nested too deep, and a number whose
token stands for none.

The members of a container and of a form are read one after the other, and the first error is that of
the whole. `LayoutNode.ofDraft_container` and `FormDefinition.ofDraft_ofJsonAt` say this as equations,
and from them a layout that is nested too deep is never read (`LayoutNode.nesting_le_of_ok`).
-/

namespace LiveForm

open Json (member memberIf)
open Draft (ofJsonAt maxNesting)
open Record (Listed)

variable {α β γ δ : Type}

/-- If something could not be read, it is malformed. -/
def MalformedOnly (r : Except ShapeError α) : Prop := ∀ e, r = .error e → e = .malformed

namespace MalformedOnly

theorem ok (x : α) : MalformedOnly (.ok x) := by
  rintro e ⟨⟩

theorem malformed : MalformedOnly (.error .malformed : Except ShapeError α) := by
  rintro e ⟨⟩
  rfl

theorem bind {a : Except ShapeError α} {f : α → Except ShapeError β} (ha : MalformedOnly a)
    (hf : ∀ x, a = .ok x → MalformedOnly (f x)) : MalformedOnly (a.bind f) := by
  cases a with
  | error e =>
    rw [ha e rfl]
    exact malformed
  | ok x => exact hf x rfl

/-- What is made of something that was read. -/
theorem map {a : Except ShapeError α} (ha : MalformedOnly a) (f : α → β) :
    MalformedOnly (do return f (← a)) :=
  ha.bind fun x _ => ok (f x)

/-! ## Parts -/

theorem any (d : Draft) : MalformedOnly d.any := by
  rw [Draft.any]
  split
  · exact ok _
  · exact malformed

theorem optional {read : Draft → Except ShapeError α} {d : Draft} (h : MalformedOnly (read d)) :
    MalformedOnly (d.optional read) := by
  cases d with
  | null => exact ok none
  | _ => exact h.map some

/-- A list of values that are written from others. -/
theorem list {level : Nat} {read : Draft → Except ShapeError α} {write : β → Json} {xs : List β}
    (h : ∀ x ∈ xs, MalformedOnly (read (ofJsonAt (level + 1) (write x)))) :
    MalformedOnly ((ofJsonAt level (.arr (xs.map write))).list read) := by
  have hitems : MalformedOnly ((Draft.ofItemsAt (level + 1) (xs.map write)).mapM read) := by
    induction xs with
    | nil => exact ok []
    | cons x rest ih =>
      have hrest := ih fun y hy => h y (List.mem_cons_of_mem x hy)
      rw [List.map_cons, Draft.ofItemsAt, List.mapM_cons]
      exact (h x List.mem_cons_self).bind fun first _ => hrest.map (first :: ·)
  rw [ofJsonAt, Draft.makeArray]
  split
  · exact hitems.bind fun ys _ => ok ys
  · exact malformed

/-- A bound that is written as `null` or as a number. -/
theorem bound (level : Nat) (x : Binary64) :
    MalformedOnly ((ofJsonAt level (Json.ofBinary64 x)).optional Draft.number) := by
  rw [Json.ofBinary64]
  split
  · rename_i n _
    refine optional ?_
    rw [ofJsonAt]
    rcases Draft.ofNumber_cases n with ⟨m, h⟩ | h
    · rw [h]
      exact ok _
    · rw [h]
      exact malformed
  · exact ok none

/-- A length is read as it is. -/
theorem count (level : Nat) (n : UInt64) :
    MalformedOnly ((ofJsonAt level (.num (.ofUInt64 n))).optional Draft.count) := by
  have hread : ofJsonAt level (.num (.ofUInt64 n)) = .num (.ofUInt64 n) := Draft.ofNumber_int _ _
  refine optional ?_
  rw [hread, Draft.count_ofUInt64]
  exact ok n

/-- Members whose values may be anything. -/
theorem mapOf (level : Nat) (members : List (String × Json)) :
    MalformedOnly (ofJsonAt level (.obj members)).map := by
  rw [ofJsonAt, Draft.makeObject]
  split
  · exact (any _).bind fun v _ => ok (Json.membersOf v)
  · exact malformed

end MalformedOnly

namespace Record

/-- Members that were written: putting one of them may fail only for something malformed. -/
structure Puts (r : Record β α) (view : Json → β) (members : List (String × Json))
    (keys required : List String) : Prop extends Listed members keys required where
  put : ∀ m ∈ members, ∀ x, MalformedOnly (r.put m.1 (view m.2) x)

namespace Puts

variable {r : Record β α} {view : Json → β} {members : List (String × Json)}
  {keys required : List String}

theorem nil (r : Record β α) (view : Json → β) : r.Puts view [] [] [] := ⟨.nil, nofun⟩

/-- One more member that is always written. -/
theorem member (h : r.Puts view members keys required) (key : String)
    (read : β → Except ShapeError γ) {v : Json} {set : α → γ → α}
    (hread : MalformedOnly (read (view v)))
    (hput : ∀ x, r.put key (view v) x = do return set x (← read (view v))) :
    r.Puts view (members ++ member key v) (keys ++ [key]) (required ++ [key]) where
  toListed := h.toListed.member key v
  put := by
    intro m hm x
    rcases List.mem_append.mp hm with hm | hm
    · exact h.put m hm x
    · rw [List.mem_singleton.mp hm, hput x]
      exact hread.map (set x)

/-- One more member that is written when it has a value. -/
theorem memberIf (h : r.Puts view members keys required) (key : String)
    (read : β → Except ShapeError γ) {o : Option δ} (write : δ → Json) {set : α → γ → α}
    (hread : ∀ a, o = some a → MalformedOnly (read (view (write a))))
    (hput : ∀ d x, r.put key d x = do return set x (← read d)) :
    r.Puts view (members ++ memberIf key (o.map write)) (keys ++ [key]) required where
  toListed := h.toListed.memberIf key _
  put := by
    cases o with
    | none =>
      rw [Option.map_none, Json.memberIf, List.append_nil]
      exact h.put
    | some a => exact (h.member key read (hread a rfl) fun x => hput (view (write a)) x).put

theorem foldlM (h : ∀ m ∈ members, ∀ x, MalformedOnly (r.put m.1 (view m.2) x)) (x : α) :
    MalformedOnly (members.foldlM (fun x m => r.put m.1 (view m.2) x) x) := by
  induction members generalizing x with
  | nil => exact .ok x
  | cons m rest ih =>
    rw [List.foldlM_cons]
    exact (h m List.mem_cons_self x).bind fun y _ =>
      ih (fun m' hm' => h m' (List.mem_cons_of_mem m hm')) y

/-- A structure whose members are drafts can fail only for something malformed. -/
theorem ofDraft {r : Record Draft α} {level : Nat}
    (h : r.Puts (ofJsonAt (level + 1)) members keys required) (hkeys : keys.Nodup)
    (hhas : keys.all r.has = true)
    (hrequired : (r.members.all fun m => m.2 || required.contains m.1) = true) :
    MalformedOnly (r.ofDraft (ofJsonAt level (.obj members))) := by
  rw [ofJsonAt, Draft.makeObject]
  split
  · rw [Record.ofDraft, Draft.ofMembersAt_eq, h.toListed.ofMembers_eq r _ hkeys hhas hrequired]
    exact foldlM h.put r.start
  · exact .malformed

end Puts

end Record

open Record (Puts)

namespace Draft

/-- What may be `null` and is not is put when it was read. -/
theorem put_optional (read : Draft → Except ShapeError α) {d : Draft} (h : d ≠ .null)
    (set : Option α → β) :
    (do return set (← d.optional read)) = (read d).bind fun x => .ok (set (some x)) := by
  rw [optional]
  · cases read d <;> rfl
  · exact h

theorem ofJsonAt_obj_ne_null {level : Nat} {members : List (String × Json)} :
    ofJsonAt level (.obj members) ≠ .null := by
  rw [ofJsonAt, makeObject]
  split <;> exact nofun

theorem ofJsonAt_arr_ne_null {level : Nat} {items : List Json} :
    ofJsonAt level (.arr items) ≠ .null := by
  rw [ofJsonAt, makeArray]
  split <;> exact nofun

end Draft

/-! ## Fields -/

theorem Choice.malformedOnly (level : Nat) (c : Choice) :
    MalformedOnly (record.ofDraft (ofJsonAt level c.toJson)) :=
  (Puts.nil record (ofJsonAt (level + 1))
    |>.member "label" Draft.text (v := .str c.label) (.ok c.label) (fun _ => rfl)
    |>.member "value" Draft.any (.any _) (fun _ => rfl)).ofDraft
    (by decide) (by decide) (by decide)

theorem RuleCall.malformedOnly (level : Nat) (c : RuleCall) :
    MalformedOnly (record.ofDraft (ofJsonAt level c.toJson)) :=
  (Puts.nil record (ofJsonAt (level + 1))
    |>.member "options" Draft.any (.any _) (fun _ => rfl)
    |>.member "type" Draft.text (v := .str c.rule) (.ok c.rule) (fun _ => rfl)).ofDraft
    (by decide) (by decide) (by decide)

theorem Condition.malformedOnly (level : Nat) (c : Condition) :
    MalformedOnly (record.ofDraft (ofJsonAt level c.toJson)) :=
  (Puts.nil record (ofJsonAt (level + 1))
    |>.member "field" Draft.text (v := .str c.field) (.ok c.field) (fun _ => rfl)
    |>.member "operator" Draft.text (v := .str c.comparison.name) (.ok c.comparison.name)
      (fun _ => rfl)
    |>.member "value" Draft.any (.any _) (fun _ => rfl)).ofDraft
    (by decide) (by decide) (by decide)

theorem Constraints.malformedOnly (level : Nat) (c : Constraints) :
    MalformedOnly (record.ofDraft (ofJsonAt level c.toJson)) :=
  (Puts.nil record (ofJsonAt (level + 1))
    |>.memberIf "customRules" (Draft.optional (Draft.list RuleCall.record.ofDraft))
      (o := c.customRules) (fun calls => .arr (calls.map RuleCall.toJson))
      (fun _ _ => .optional (.list fun call _ => RuleCall.malformedOnly _ call)) (fun _ _ => rfl)
    |>.memberIf "max" (Draft.optional Draft.number) (o := c.max) Json.ofBinary64
      (fun x _ => .bound _ x) (fun _ _ => rfl)
    |>.memberIf "maxLength" (Draft.optional Draft.count) (o := c.maxLength)
      (fun n => .num (.ofUInt64 n)) (fun n _ => .count _ n) (fun _ _ => rfl)
    |>.memberIf "min" (Draft.optional Draft.number) (o := c.min) Json.ofBinary64
      (fun x _ => .bound _ x) (fun _ _ => rfl)
    |>.memberIf "minLength" (Draft.optional Draft.count) (o := c.minLength)
      (fun n => .num (.ofUInt64 n)) (fun n _ => .count _ n) (fun _ _ => rfl)
    |>.memberIf "pattern" (Draft.optional Draft.text) (o := c.pattern) Json.str
      (fun s _ => .ok (some s)) (fun _ _ => rfl)
    |>.memberIf "required" (Draft.optional Draft.flag) (o := c.required) Json.bool
      (fun b _ => .ok (some b)) (fun _ _ => rfl)).ofDraft
    (by decide) (by decide) (by decide)

theorem FieldDefinition.malformedOnly (level : Nat) (f : FieldDefinition) :
    MalformedOnly (record.ofDraft (ofJsonAt level f.toJson)) := by
  -- A default is written as it is.
  have hdefault := (Puts.nil record (ofJsonAt (level + 1))).memberIf "defaultValue"
    (Draft.optional Draft.any) (o := f.defaultValue) (fun v => v)
    (fun _ _ => .optional (.any _)) (fun _ _ => rfl)
  rw [Option.map_id'] at hdefault
  exact (hdefault
    |>.member "id" Draft.text (v := .str f.id) (.ok f.id) (fun _ => rfl)
    |>.memberIf "instructions" (Draft.optional Draft.text) (o := f.instructions) Json.str
      (fun s _ => .ok (some s)) (fun _ _ => rfl)
    |>.member "label" Draft.text (v := .str f.label) (.ok f.label) (fun _ => rfl)
    |>.member "name" Draft.text (v := .str f.name) (.ok f.name) (fun _ => rfl)
    |>.memberIf "options" (Draft.optional (Draft.list Choice.record.ofDraft)) (o := f.choices)
      (fun choices => .arr (choices.map Choice.toJson))
      (fun _ _ => .optional (.list fun c _ => Choice.malformedOnly _ c)) (fun _ _ => rfl)
    |>.memberIf "placeholder" (Draft.optional Draft.text) (o := f.placeholder) Json.str
      (fun s _ => .ok (some s)) (fun _ _ => rfl)
    |>.member "type" Draft.text (v := .str f.kind.name) (.ok f.kind.name) (fun _ => rfl)
    |>.memberIf "validation" (Draft.optional Constraints.record.ofDraft) (o := f.constraints)
      Constraints.toJson (fun c _ => .optional (Constraints.malformedOnly _ c))
      (fun _ _ => rfl)
    |>.memberIf "visibility" (Draft.optional (Draft.list Condition.record.ofDraft))
      (o := f.visibility) (fun cs => .arr (cs.map Condition.toJson))
      (fun _ _ => .optional (.list fun c _ => Condition.malformedOnly _ c))
      (fun _ _ => rfl)).ofDraft
    (by decide) (by decide) (by decide)

/-! ## Layouts -/

namespace LayoutNode

/-- The draft of the text of a member, with what it is as a list of nodes. -/
abbrev pairedAt (level : Nat) (v : Json) : Draft × Except ShapeError (List LayoutNode) :=
  (ofJsonAt level v, listOfDraft (ofJsonAt level v))

theorem pairMembers_ofMembersAt (level : Nat) (members : List (String × Json)) :
    pairMembers (Draft.ofMembersAt level members) =
      members.map fun m => (some m.1, pairedAt level m.2) := by
  induction members with
  | nil => rfl
  | cons m rest ih => rw [Draft.ofMembersAt, pairMembers, List.map_cons, ih]

/-- An object that is itself nested too deep is no node. -/
theorem ofDraft_obj_tooDeep {level : Nat} (h : maxNesting < level + 1)
    (members : List (String × Json)) :
    ofDraft (ofJsonAt level (.obj members)) = .error .malformed := by
  rw [ofJsonAt, Draft.makeObject, if_neg (Nat.not_le.mpr h)]
  rfl

/-- What a container is read as: its attributes first, its children next. -/
theorem ofDraft_container {level : Nat} (h : level + 1 ≤ maxNesting) (id : String)
    (element : Option String) (attributes : List (String × Json)) (children : List LayoutNode) :
    ofDraft (ofJsonAt level (container id element attributes children).toJson) =
      (ofJsonAt (level + 1) (.obj attributes)).map.bind fun read =>
        (listOfDraft (ofJsonAt (level + 1) (.arr (listToJson children)))).bind fun nodes =>
          .ok (.container id element read nodes) := by
  have hread := (Listed.nil |>.member "attributes" (.obj attributes)
    |>.member "children" (.arr (listToJson children)) |>.member "component" (.str "container")
    |>.memberIf "element" (element.map Json.str) |>.member "id" (.str id)).ofMembers_eq
      NodeMembers.record (pairedAt (level + 1)) (by decide) (by decide) (by decide)
  have hdraft : ofDraft (ofJsonAt level (container id element attributes children).toJson) =
      (NodeMembers.record.ofMembers (pairMembers (Draft.ofMembersAt (level + 1)
        (member "attributes" (.obj attributes) ++ member "children" (.arr (listToJson children)) ++
          member "component" (.str "container") ++ memberIf "element" (element.map Json.str) ++
          member "id" (.str id)))) .closed).bind NodeMembers.node := by
    rw [toJson, ofJsonAt, Draft.makeObject, if_pos h, ofDraft]
  have hattributes (x : NodeMembers) :
      NodeMembers.record.put "attributes" (pairedAt (level + 1) (.obj attributes)) x =
        (ofJsonAt (level + 1) (.obj attributes)).map.bind fun read =>
          .ok { x with attributes := some read } := by
    have hnull : ofJsonAt (level + 1) (.obj attributes) ≠ .null := Draft.ofJsonAt_obj_ne_null
    exact Draft.put_optional Draft.map hnull fun read : Option (Keyed Json) =>
      { x with attributes := read }
  have hchildren (x : NodeMembers) :
      NodeMembers.record.put "children" (pairedAt (level + 1) (.arr (listToJson children))) x =
        (listOfDraft (ofJsonAt (level + 1) (.arr (listToJson children)))).bind fun nodes =>
          .ok { x with children := some nodes } := by
    have hnull : ofJsonAt (level + 1) (.arr (listToJson children)) ≠ .null :=
      Draft.ofJsonAt_arr_ne_null
    exact Draft.put_optional (fun _ => _) hnull fun nodes : Option (List LayoutNode) =>
      { x with children := nodes }
  rw [hdraft, pairMembers_ofMembersAt]
  refine (congrArg (·.bind NodeMembers.node) hread).trans ?_
  simp only [member, List.nil_append, List.cons_append, List.foldlM_cons, hattributes, hchildren]
  cases (ofJsonAt (level + 1) (.obj attributes)).map with
  | error e => rfl
  | ok read =>
    cases listOfDraft (ofJsonAt (level + 1) (.arr (listToJson children))) with
    | error e => rfl
    | ok nodes => cases element <;> rfl

/-- What the children of a container are read as. -/
theorem listOfDraft_ofJsonAt (level : Nat) (nodes : List LayoutNode) :
    listOfDraft (ofJsonAt level (.arr (listToJson nodes))) =
      if level + 1 ≤ maxNesting then ofDrafts (Draft.ofItemsAt (level + 1) (listToJson nodes))
      else .error .malformed := by
  rw [ofJsonAt, Draft.makeArray]
  split
  · rw [listOfDraft]
    cases ofDrafts (Draft.ofItemsAt (level + 1) (listToJson nodes)) <;> rfl
  · rfl

/-- A node without other nodes or attributes is read as it is, or it is itself nested too deep. -/
theorem malformedOnly_leaf {node : LayoutNode} (hcanonical : node.Canonical)
    (hexact : node.toJson.Exact) (hnesting : node.toJson.nesting = 1) (level : Nat) :
    MalformedOnly (ofDraft (ofJsonAt level node.toJson)) := by
  by_cases hlevel : level + 1 ≤ maxNesting
  · rw [Draft.ofJsonAt_eq _ hexact (by omega), ofDraft_toJson node hcanonical]
    exact .ok node
  · have hdeep := ofDraft_obj_tooDeep (Nat.lt_of_not_le hlevel)
    cases node <;> exact hdeep _ ▸ .malformed

mutual

/-- The text of a node can fail only for something malformed. -/
theorem malformedOnly : (node : LayoutNode) → node.Canonical → ∀ level,
    MalformedOnly (ofDraft (ofJsonAt level node.toJson))
  | .field id fieldId, h, level => malformedOnly_leaf h ⟨trivial, trivial, trivial, trivial⟩ rfl level
  | .unknown id component, h, level => malformedOnly_leaf h ⟨trivial, trivial, trivial⟩ rfl level
  | .container id element attributes children, h, level => by
    by_cases hlevel : level + 1 ≤ maxNesting
    · have hchildren : MalformedOnly
          (listOfDraft (ofJsonAt (level + 1) (.arr (listToJson children)))) := by
        rw [listOfDraft_ofJsonAt]
        split
        · exact allMalformedOnly children h.2 (level + 1 + 1)
        · exact .malformed
      rw [ofDraft_container hlevel]
      exact (MalformedOnly.mapOf (level + 1) attributes).bind fun read _ =>
        hchildren.bind fun nodes _ => .ok (container id element read nodes)
    · rw [toJson, ofDraft_obj_tooDeep (Nat.lt_of_not_le hlevel)]
      exact .malformed

theorem allMalformedOnly : (nodes : List LayoutNode) → AllCanonical nodes → ∀ level,
    MalformedOnly (ofDrafts (Draft.ofItemsAt level (listToJson nodes)))
  | [], _, _ => .ok []
  | node :: rest, h, level => by
    rw [listToJson, Draft.ofItemsAt, ofDrafts]
    cases hfirst : ofDraft (ofJsonAt level node.toJson) with
    | error e =>
      rw [malformedOnly node h.1 level e hfirst]
      exact .malformed
    | ok first => exact (allMalformedOnly rest h.2 level).map (first :: ·)

end

end LayoutNode

/-! ## Forms -/

namespace FormDefinition

variable {d : FormDefinition}

/-- What a definition is read as: its fields first, its layout next. -/
theorem ofDraft_ofJsonAt (d : FormDefinition) : record.ofDraft (ofJsonAt 0 d.toJson) =
    ((ofJsonAt 1 (.arr (d.fields.map FieldDefinition.toJson))).list
      FieldDefinition.record.ofDraft).bind fun fields =>
        (LayoutNode.ofDraft (ofJsonAt 1 d.layout.toJson)).bind fun layout =>
          .ok { d with fields := fields, layout := layout } := by
  have hread := (Listed.nil |>.member "config" (.obj [("mode", .str d.config.mode)])
    |>.memberIf "description" (d.description.map Json.str)
    |>.member "fields" (.arr (d.fields.map FieldDefinition.toJson))
    |>.member "formId" (.str d.formId) |>.member "layoutDefinition" d.layout.toJson
    |>.member "name" (.str d.name)).ofMembers_eq
      record (ofJsonAt 1) (by decide) (by decide) (by decide)
  have hdraft : record.ofDraft (ofJsonAt 0 d.toJson) = record.ofMembers (Draft.ofMembersAt 1
      (member "config" (.obj [("mode", .str d.config.mode)]) ++
        memberIf "description" (d.description.map Json.str) ++
        member "fields" (.arr (d.fields.map FieldDefinition.toJson)) ++
        member "formId" (.str d.formId) ++ member "layoutDefinition" d.layout.toJson ++
        member "name" (.str d.name))) .closed := by
    rw [toJson, ofJsonAt]
    rfl
  have hconfig (x : FormDefinition) : record.put "config"
      (ofJsonAt 1 (.obj [("mode", .str d.config.mode)])) x = .ok { x with config := d.config } := rfl
  have hfields (x : FormDefinition) : record.put "fields"
      (ofJsonAt 1 (.arr (d.fields.map FieldDefinition.toJson))) x =
        ((ofJsonAt 1 (.arr (d.fields.map FieldDefinition.toJson))).list
          FieldDefinition.record.ofDraft).bind fun fields => .ok { x with fields := fields } := rfl
  have hlayout (x : FormDefinition) : record.put "layoutDefinition"
      (ofJsonAt 1 d.layout.toJson) x = (LayoutNode.ofDraft (ofJsonAt 1 d.layout.toJson)).bind
        fun layout => .ok { x with layout := layout } := rfl
  rw [hdraft, Draft.ofMembersAt_eq]
  refine hread.trans ?_
  obtain ⟨formId, name, description, config, fields, layout⟩ := d
  cases description <;>
  · simp only [member, memberIf, Option.map, List.nil_append, List.cons_append, List.foldlM_cons,
      hconfig, hfields, hlayout]
    cases (ofJsonAt 1 (.arr (fields.map FieldDefinition.toJson))).list
      FieldDefinition.record.ofDraft with
    | error e => rfl
    | ok read =>
      cases LayoutNode.ofDraft (ofJsonAt 1 layout.toJson) with
      | error e => rfl
      | ok node => rfl

/-- The text of a definition that was read can be refused only for something malformed. -/
theorem Canonical.refused_malformed (h : d.Canonical) : MalformedOnly (ofText d.toJson.text) := by
  have hread : MalformedOnly (record.ofDraft (ofJsonAt 0 d.toJson)) := by
    rw [ofDraft_ofJsonAt]
    exact (MalformedOnly.list fun f _ => FieldDefinition.malformedOnly _ f).bind fun fields _ =>
      (d.layout.malformedOnly h.layout 1).bind fun layout _ => .ok _
  rw [ofText, Record.ofText_text]
  cases hresult : record.ofDraft (ofJsonAt 0 d.toJson) with
  | error e =>
    rw [hread e hresult]
    exact .malformed
  | ok read => exact .ok read

end FormDefinition

end LiveForm
