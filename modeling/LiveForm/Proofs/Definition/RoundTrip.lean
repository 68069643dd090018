import LiveForm.Proofs.Definition.Canonical

/-!
# Definitions read back

A canonical structure is read back from the value that it is written as. Every structure that was
read is canonical, so writing and reading it again changes nothing (`FormDefinition.ofJson_toJson`).
-/

namespace LiveForm

open Draft (text_ofJson any_ofJson list_ofJson optional_of_ok)
open Record (Reads)

/-! ## Fields -/

theorem Choice.ofDraft_toJson {c : Choice} (h : c.Canonical) :
    record.ofDraft (Draft.ofJson c.toJson) = .ok c := by
  have hread := (Reads.nil record Draft.ofJson
    |>.member "label" Draft.text (text_ofJson c.label) rfl
    |>.member "value" Draft.any (any_ofJson h) rfl)
  exact hread.ofDraft (by decide) (by decide) (by decide)

theorem RuleCall.ofDraft_toJson {c : RuleCall} (h : c.Canonical) :
    record.ofDraft (Draft.ofJson c.toJson) = .ok c := by
  have hread := (Reads.nil record Draft.ofJson
    |>.member "options" Draft.any (any_ofJson h) rfl
    |>.member "type" Draft.text (text_ofJson c.rule) rfl)
  exact hread.ofDraft (by decide) (by decide) (by decide)

theorem Condition.ofDraft_toJson {c : Condition} (h : c.Canonical) :
    record.ofDraft (Draft.ofJson c.toJson) = .ok c := by
  have hread := (Reads.nil record Draft.ofJson
    |>.member "field" Draft.text (text_ofJson c.field) rfl
    |>.member "operator" Draft.text (text_ofJson c.comparison.name) rfl
    |>.member "value" Draft.any (any_ofJson h.value) rfl)
  have hcomparison : Comparison.ofName c.comparison.name = c.comparison := h.comparison
  calc record.ofDraft (Draft.ofJson c.toJson)
      = .ok { c with comparison := .ofName c.comparison.name } :=
        hread.ofDraft (by decide) (by decide) (by decide)
    _ = .ok c := by rw [hcomparison]

theorem Constraints.ofDraft_toJson {c : Constraints} (h : c.Canonical) :
    record.ofDraft (Draft.ofJson c.toJson) = .ok c := by
  have hcalls : ∀ calls, c.customRules = some calls →
      (Draft.ofJson (.arr (calls.map RuleCall.toJson))).optional
        (Draft.list RuleCall.record.ofDraft) = .ok (some calls) := by
    intro calls hcalls
    refine optional_of_ok (list_ofJson fun call hcall => ?_) nofun
    exact RuleCall.ofDraft_toJson (h.customRules calls hcalls call hcall)
  -- A finite bound is written as a number with a point, and read as it was.
  have hbound {bound : Option Binary64} (hfinite : ∀ x, bound = some x → x.isFinite = true) :
      ∀ x, bound = some x →
        (Draft.ofJson (Json.ofBinary64 x)).optional Draft.number = .ok (some x) := by
    intro x hx
    rw [Draft.ofBinary64_of_isFinite (hfinite x hx)]
    rfl
  have hcount : ∀ n : UInt64,
      (Draft.ofJson (.num (.ofUInt64 n))).optional Draft.count = .ok (some n) := by
    intro n
    exact optional_of_ok (Draft.count_ofUInt64 n) nofun
  have hread := (Reads.nil record Draft.ofJson
    |>.memberIf "customRules" (Draft.optional (Draft.list RuleCall.record.ofDraft)) hcalls
      (fun _ => rfl) rfl
    |>.memberIf "max" (Draft.optional Draft.number) (hbound h.max) (fun _ => rfl) rfl
    |>.memberIf "maxLength" (Draft.optional Draft.count) (o := c.maxLength) (fun n _ => hcount n)
      (fun _ => rfl) rfl
    |>.memberIf "min" (Draft.optional Draft.number) (hbound h.min) (fun _ => rfl) rfl
    |>.memberIf "minLength" (Draft.optional Draft.count) (o := c.minLength) (fun n _ => hcount n)
      (fun _ => rfl) rfl
    |>.memberIf "pattern" (Draft.optional Draft.text) (o := c.pattern)
      (fun s _ => optional_of_ok (text_ofJson s) nofun) (fun _ => rfl) rfl
    |>.memberIf "required" (Draft.optional Draft.flag) (o := c.required)
      (fun b _ => (rfl : (Draft.ofJson (.bool b)).optional Draft.flag = _)) (fun _ => rfl) rfl)
  exact hread.ofDraft (by decide) (by decide) (by decide)

theorem FieldDefinition.ofDraft_toJson {f : FieldDefinition} (h : f.Canonical) :
    record.ofDraft (Draft.ofJson f.toJson) = .ok f := by
  have hdefault : ∀ v, f.defaultValue = some v →
      (Draft.ofJson v).optional Draft.any = .ok (some v) := by
    intro v hv
    obtain ⟨hnull, hordered⟩ := h.defaultValue v hv
    exact optional_of_ok (any_ofJson hordered) (Draft.ofJson_ne_null hnull)
  have htext : ∀ s, (Draft.ofJson (.str s)).optional Draft.text = .ok (some s) := by
    intro s
    exact optional_of_ok (text_ofJson s) nofun
  have hchoices : ∀ choices, f.choices = some choices →
      (Draft.ofJson (.arr (choices.map Choice.toJson))).optional
        (Draft.list Choice.record.ofDraft) = .ok (some choices) := by
    intro choices hchoices
    refine optional_of_ok (list_ofJson fun c hc => ?_) nofun
    exact Choice.ofDraft_toJson (h.choices choices hchoices c hc)
  have hconstraints : ∀ c, f.constraints = some c →
      (Draft.ofJson c.toJson).optional Constraints.record.ofDraft = .ok (some c) := by
    intro c hc
    exact optional_of_ok (Constraints.ofDraft_toJson (h.constraints c hc)) nofun
  have hvisibility : ∀ cs, f.visibility = some cs →
      (Draft.ofJson (.arr (cs.map Condition.toJson))).optional
        (Draft.list Condition.record.ofDraft) = .ok (some cs) := by
    intro cs hcs
    refine optional_of_ok (list_ofJson fun c hc => ?_) nofun
    exact Condition.ofDraft_toJson (h.visibility cs hcs c hc)
  -- A default is written as it is.
  have hfirst := (Reads.nil record Draft.ofJson).memberIf "defaultValue"
    (Draft.optional Draft.any) hdefault (fun _ => rfl) rfl
  rw [Option.map_id'] at hfirst
  have hread := (hfirst
    |>.member "id" Draft.text (text_ofJson f.id) rfl
    |>.memberIf "instructions" (Draft.optional Draft.text) (o := f.instructions)
      (fun s _ => htext s) (fun _ => rfl) rfl
    |>.member "label" Draft.text (text_ofJson f.label) rfl
    |>.member "name" Draft.text (text_ofJson f.name) rfl
    |>.memberIf "options" (Draft.optional (Draft.list Choice.record.ofDraft)) hchoices
      (fun _ => rfl) rfl
    |>.memberIf "placeholder" (Draft.optional Draft.text) (o := f.placeholder)
      (fun s _ => htext s) (fun _ => rfl) rfl
    |>.member "type" Draft.text (text_ofJson f.kind.name) rfl
    |>.memberIf "validation" (Draft.optional Constraints.record.ofDraft) hconstraints
      (fun _ => rfl) rfl
    |>.memberIf "visibility" (Draft.optional (Draft.list Condition.record.ofDraft)) hvisibility
      (fun _ => rfl) rfl)
  have hkind : FieldKind.ofName f.kind.name = f.kind := h.kind
  calc record.ofDraft (Draft.ofJson f.toJson)
      = .ok { f with kind := .ofName f.kind.name } :=
        hread.ofDraft (by decide) (by decide) (by decide)
    _ = .ok f := by rw [hkind]

/-! ## Layouts -/

namespace LayoutNode

/-- The draft of a member, with what it is as a list of nodes. -/
abbrev paired (v : Json) : Draft × Except ShapeError (List LayoutNode) :=
  (Draft.ofJson v, listOfDraft (Draft.ofJson v))

theorem pairMembers_ofMembers (members : List (String × Json)) :
    pairMembers (Draft.ofMembers members) = members.map fun m => (some m.1, paired m.2) := by
  induction members with
  | nil => rfl
  | cons m rest ih => rw [Draft.ofMembers, pairMembers, List.map_cons, ih]

/-- A node is read back when its members are. -/
theorem ofDraft_of_reads {members : List (String × Json)} {keys required : List String}
    {x : NodeMembers} (h : NodeMembers.record.Reads paired members keys required x)
    (hkeys : keys.Nodup) (hhas : keys.all NodeMembers.record.has = true)
    (hrequired : (NodeMembers.record.members.all fun m => m.2 || required.contains m.1) = true) :
    ofDraft (Draft.ofJson (.obj members)) = x.node := by
  rw [Draft.ofJson, ofDraft, pairMembers_ofMembers, h.ofMembers hkeys hhas hrequired]
  rfl

mutual

theorem ofDraft_toJson : (node : LayoutNode) → node.Canonical →
    ofDraft (Draft.ofJson node.toJson) = .ok node
  | .field id fieldId, _ => by
    have hread := (Reads.nil NodeMembers.record paired
      |>.member "component" (fun m => m.1.text) (v := .str "field") rfl rfl
      |>.member "fieldId" (fun m => m.1.optional Draft.text) (v := .str fieldId)
        (optional_of_ok (text_ofJson fieldId) nofun) rfl
      |>.member "id" (fun m => m.1.text) (v := .str id) rfl rfl)
    exact ofDraft_of_reads hread (by decide) (by decide) (by decide)
  | .container id element attributes children, h => by
    have hchildren : listOfDraft (Draft.ofJson (.arr (listToJson children))) = .ok children := by
      rw [Draft.ofJson, listOfDraft, ofDrafts_listToJson children h.2]
      rfl
    have helement : ∀ s, element = some s →
        (paired (.str s)).1.optional Draft.text = .ok (some s) := by
      intro s _
      exact optional_of_ok (text_ofJson s) nofun
    have hread := (Reads.nil NodeMembers.record paired
      |>.member "attributes" (fun m => m.1.optional Draft.map) (v := .obj attributes)
        (optional_of_ok (Draft.map_ofJson h.1) nofun) rfl
      |>.member "children" (fun m => m.1.optional fun _ => m.2) (v := .arr (listToJson children))
        (optional_of_ok hchildren nofun) rfl
      |>.member "component" (fun m => m.1.text) (v := .str "container") rfl rfl
      |>.memberIf "element" (fun m => m.1.optional Draft.text) helement (fun _ => rfl) rfl
      |>.member "id" (fun m => m.1.text) (v := .str id) rfl rfl)
    exact ofDraft_of_reads hread (by decide) (by decide) (by decide)
  | .unknown id component, h => by
    have hread := (Reads.nil NodeMembers.record paired
      |>.member "component" (fun m => m.1.text) (v := .str component) rfl rfl
      |>.member "id" (fun m => m.1.text) (v := .str id) rfl rfl)
    have hnode := ofDraft_of_reads hread (by decide) (by decide) (by decide)
    have hunknown : NodeMembers.node { id := id, component := component } =
        .ok (.unknown id component) := by
      unfold NodeMembers.node
      split
      · rename_i hfield
        exact absurd hfield h.1
      · rename_i hcontainer
        exact absurd hcontainer h.2
      · rfl
    exact hnode.trans hunknown

theorem ofDrafts_listToJson : (nodes : List LayoutNode) → AllCanonical nodes →
    ofDrafts (Draft.ofItems (listToJson nodes)) = .ok nodes
  | [], _ => rfl
  | node :: rest, h => by
    have hfirst := ofDraft_toJson node h.1
    have hrest := ofDrafts_listToJson rest h.2
    rw [listToJson, Draft.ofItems, ofDrafts, hfirst, hrest]
    rfl

end

end LayoutNode

/-! ## Forms -/

theorem FormDefinition.ofDraft_toJson {d : FormDefinition} (h : d.Canonical) :
    record.ofDraft (Draft.ofJson d.toJson) = .ok d := by
  have hconfig : FormConfig.record.ofDraft
      (Draft.ofJson (.obj [("mode", .str d.config.mode)])) = .ok d.config :=
    (Reads.nil FormConfig.record Draft.ofJson
      |>.member "mode" Draft.text (text_ofJson d.config.mode) rfl).ofDraft
      (by decide) (by decide) (by decide)
  have hfields : (Draft.ofJson (.arr (d.fields.map FieldDefinition.toJson))).list
      FieldDefinition.record.ofDraft = .ok d.fields :=
    list_ofJson fun f hf => FieldDefinition.ofDraft_toJson (h.fields f hf)
  have hread := (Reads.nil record Draft.ofJson
    |>.member "config" FormConfig.record.ofDraft hconfig rfl
    |>.memberIf "description" (Draft.optional Draft.text) (o := d.description)
      (fun s _ => optional_of_ok (text_ofJson s) nofun) (fun _ => rfl) rfl
    |>.member "fields" (Draft.list FieldDefinition.record.ofDraft) hfields rfl
    |>.member "formId" Draft.text (text_ofJson d.formId) rfl
    |>.member "layoutDefinition" LayoutNode.ofDraft (LayoutNode.ofDraft_toJson d.layout h.layout) rfl
    |>.member "name" Draft.text (text_ofJson d.name) rfl)
  exact hread.ofDraft (by decide) (by decide) (by decide)

/-- A definition that was read from any value is read back from the value that it is written as. -/
theorem FormDefinition.ofJson_toJson {v : Json} {d : FormDefinition} (h : ofJson v = .ok d) :
    ofJson d.toJson = .ok d :=
  ofDraft_toJson (canonical_ofJson h)

/-- A form of one field, written in arrays and objects, with a kind, a rule, a comparison and a
component that are not known. -/
def survey : Json :=
  .arr [.str "survey", .str "Survey", .null, .obj [],
    .arr [.arr [.str "a", .str "a", .str "colour", .str "A", .null, .null, .null, .null,
      .obj [("min", .ofNat 1), ("customRules", .arr [.arr [.str "bright"]])],
      .arr [.arr [.str "b", .str "resembles"]]]],
    .obj [("component", .str "container"), ("attributes", .null),
      ("children", .arr [.obj [("fieldId", .str "a"), ("component", .str "field")],
        .arr [.str "x", .str "banner"]])]]

theorem ofJson_toJson_survey :
    ∃ d, FormDefinition.ofJson survey = .ok d ∧ d.toJson ≠ survey ∧
      d.fields.map FieldDefinition.kind = [.other "colour"] ∧
      d.layout.children = [.field "" "a", .unknown "x" "banner"] ∧
      FormDefinition.ofJson d.toJson = .ok d :=
  ⟨_, rfl, nofun, rfl, rfl, FormDefinition.ofJson_toJson (v := survey) rfl⟩

end LiveForm
