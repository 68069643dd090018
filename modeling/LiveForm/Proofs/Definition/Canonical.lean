import LiveForm.Definition.Reading
import LiveForm.Proofs.Json.Shape

/-!
# Definitions that were read

Reading forgets what a definition may be written in several ways for: the order of members, members
that are `null`, names that stand for a kind, numbers written as integers. What is left is canonical:
values are in order, bounds are finite, a kind or a comparison is that of its name, and no node of an
unknown component has the name of a known one. `FormDefinition.canonical_ofJson` says that every
definition that was read is canonical.
-/

namespace LiveForm

/-! ## Canonical structures -/

/-- The kind is that of its name. -/
def FieldKind.Canonical (kind : FieldKind) : Prop := ofName kind.name = kind

theorem FieldKind.canonical_ofName (s : String) : (ofName s).Canonical :=
  congrArg ofName (name_ofName s)

/-- The comparison is that of its name. -/
def Comparison.Canonical (comparison : Comparison) : Prop :=
  ofName comparison.name = comparison

theorem Comparison.canonical_ofName (s : String) : (ofName s).Canonical :=
  congrArg ofName (name_ofName s)

def Choice.Canonical (c : Choice) : Prop := c.value.Ordered

def RuleCall.Canonical (c : RuleCall) : Prop := c.options.Ordered

structure Condition.Canonical (c : Condition) : Prop where
  comparison : c.comparison.Canonical
  value : c.value.Ordered

structure Constraints.Canonical (c : Constraints) : Prop where
  min : ∀ x, c.min = some x → x.isFinite = true
  max : ∀ x, c.max = some x → x.isFinite = true
  customRules : ∀ calls, c.customRules = some calls → ∀ call ∈ calls, call.Canonical

structure FieldDefinition.Canonical (f : FieldDefinition) : Prop where
  kind : f.kind.Canonical
  /-- `null` as a default is none. -/
  defaultValue : ∀ v, f.defaultValue = some v → v ≠ .null ∧ v.Ordered
  choices : ∀ choices, f.choices = some choices → ∀ c ∈ choices, c.Canonical
  constraints : ∀ c, f.constraints = some c → c.Canonical
  visibility : ∀ cs, f.visibility = some cs → ∀ c ∈ cs, c.Canonical

namespace LayoutNode

mutual

/-- Attributes are in order, and a component that is not known is none of the known ones. -/
def Canonical : LayoutNode → Prop
  | .field _ _ => True
  | .container _ _ attributes children => (Json.obj attributes).Ordered ∧ AllCanonical children
  | .unknown _ component => component ≠ "field" ∧ component ≠ "container"

/-- `Canonical` for every node. -/
def AllCanonical : List LayoutNode → Prop
  | [] => True
  | node :: rest => node.Canonical ∧ AllCanonical rest

end

end LayoutNode

structure FormDefinition.Canonical (d : FormDefinition) : Prop where
  fields : ∀ f ∈ d.fields, f.Canonical
  layout : d.layout.Canonical

/-! ## Fields -/

open Draft (any_ok optional_ok list_ok number_ok)

/-- A list that may be left out keeps what each of its items has. -/
theorem Draft.optional_list_ok {α : Type} {read : Draft → Except ShapeError α} {P : α → Prop}
    (hread : ∀ {item : Draft} {x : α}, read item = .ok x → P x) {d : Draft} {xs : Option (List α)}
    (h : d.optional (Draft.list read) = .ok xs) : ∀ ys, xs = some ys → ∀ y ∈ ys, P y := by
  rintro ys rfl y hy
  obtain ⟨-, hlist⟩ := optional_ok h
  obtain ⟨item, hitem⟩ := list_ok hlist y hy
  exact hread hitem

theorem Choice.keeps : record.Keeps (fun _ => True) Canonical where
  start := trivial
  put := by
    intro key d x y _ hx hput
    simp only [record] at hput
    -- A case for each member, in the order of the record, and one for every other name.
    split at hput
    · obtain ⟨v, hv, rfl⟩ := ok_of_map hput
      exact any_ok hv
    · obtain ⟨s, -, rfl⟩ := ok_of_map hput
      exact hx
    · cases hput
      exact hx

theorem RuleCall.keeps : record.Keeps (fun _ => True) Canonical where
  start := trivial
  put := by
    intro key d x y _ hx hput
    simp only [record] at hput
    split at hput
    · obtain ⟨s, -, rfl⟩ := ok_of_map hput
      exact hx
    · obtain ⟨v, hv, rfl⟩ := ok_of_map hput
      exact any_ok hv
    · cases hput
      exact hx

theorem Condition.keeps : record.Keeps (fun _ => True) Canonical where
  start := ⟨Comparison.canonical_ofName "", trivial⟩
  put := by
    intro key d x y _ hx hput
    simp only [record] at hput
    split at hput
    · obtain ⟨s, -, rfl⟩ := ok_of_map hput
      exact ⟨hx.comparison, hx.value⟩
    · obtain ⟨s, -, rfl⟩ := ok_of_map hput
      exact ⟨Comparison.canonical_ofName s, hx.value⟩
    · obtain ⟨v, hv, rfl⟩ := ok_of_map hput
      exact ⟨hx.comparison, any_ok hv⟩
    · cases hput
      exact hx

theorem Constraints.keeps : record.Keeps (fun _ => True) Canonical where
  start := ⟨nofun, nofun, nofun⟩
  put := by
    intro key d x y _ hx hput
    -- An integer is read as the number nearest to it, which is finite like any number of a text.
    have hbound {bound : Option Binary64} (h : d.optional Draft.number = .ok bound) :
        ∀ b, bound = some b → b.isFinite = true := by
      rintro b rfl
      exact number_ok (optional_ok h).2
    simp only [record] at hput
    split at hput
    · obtain ⟨required, -, rfl⟩ := ok_of_map hput
      exact ⟨hx.min, hx.max, hx.customRules⟩
    · obtain ⟨n, -, rfl⟩ := ok_of_map hput
      exact ⟨hx.min, hx.max, hx.customRules⟩
    · obtain ⟨n, -, rfl⟩ := ok_of_map hput
      exact ⟨hx.min, hx.max, hx.customRules⟩
    · obtain ⟨pattern, -, rfl⟩ := ok_of_map hput
      exact ⟨hx.min, hx.max, hx.customRules⟩
    · obtain ⟨min, hmin, rfl⟩ := ok_of_map hput
      exact ⟨hbound hmin, hx.max, hx.customRules⟩
    · obtain ⟨max, hmax, rfl⟩ := ok_of_map hput
      exact ⟨hx.min, hbound hmax, hx.customRules⟩
    · obtain ⟨calls, hcalls, rfl⟩ := ok_of_map hput
      exact ⟨hx.min, hx.max, Draft.optional_list_ok RuleCall.keeps.ofDraft hcalls⟩
    · cases hput
      exact hx

theorem FieldDefinition.keeps : record.Keeps (fun _ => True) Canonical where
  start := ⟨FieldKind.canonical_ofName "", nofun, nofun, nofun, nofun⟩
  put := by
    rintro key d x y - ⟨hkind, hdefault, hchoices, hconstraints, hvisibility⟩ hput
    simp only [record] at hput
    split at hput
    · obtain ⟨id, -, rfl⟩ := ok_of_map hput
      exact ⟨hkind, hdefault, hchoices, hconstraints, hvisibility⟩
    · obtain ⟨name, -, rfl⟩ := ok_of_map hput
      exact ⟨hkind, hdefault, hchoices, hconstraints, hvisibility⟩
    · obtain ⟨s, -, rfl⟩ := ok_of_map hput
      exact ⟨FieldKind.canonical_ofName s, hdefault, hchoices, hconstraints, hvisibility⟩
    · obtain ⟨label, -, rfl⟩ := ok_of_map hput
      exact ⟨hkind, hdefault, hchoices, hconstraints, hvisibility⟩
    · obtain ⟨placeholder, -, rfl⟩ := ok_of_map hput
      exact ⟨hkind, hdefault, hchoices, hconstraints, hvisibility⟩
    · obtain ⟨instructions, -, rfl⟩ := ok_of_map hput
      exact ⟨hkind, hdefault, hchoices, hconstraints, hvisibility⟩
    · obtain ⟨given, hgiven, rfl⟩ := ok_of_map hput
      refine ⟨hkind, ?_, hchoices, hconstraints, hvisibility⟩
      rintro v rfl
      obtain ⟨hnull, hany⟩ := optional_ok hgiven
      exact ⟨Draft.any_ne_null hany hnull, any_ok hany⟩
    · obtain ⟨choices, hread, rfl⟩ := ok_of_map hput
      exact ⟨hkind, hdefault, Draft.optional_list_ok Choice.keeps.ofDraft hread, hconstraints,
        hvisibility⟩
    · obtain ⟨constraints, hread, rfl⟩ := ok_of_map hput
      refine ⟨hkind, hdefault, hchoices, ?_, hvisibility⟩
      rintro c rfl
      exact Constraints.keeps.ofDraft (optional_ok hread).2
    · obtain ⟨visibility, hread, rfl⟩ := ok_of_map hput
      exact ⟨hkind, hdefault, hchoices, hconstraints,
        Draft.optional_list_ok Condition.keeps.ofDraft hread⟩
    · cases hput
      exact ⟨hkind, hdefault, hchoices, hconstraints, hvisibility⟩

/-! ## Layouts -/

/-- The attributes of a node are in order, and its children are canonical. -/
structure NodeMembers.Canonical (x : NodeMembers) : Prop where
  attributes : ∀ m, x.attributes = some m → (Json.obj m).Ordered
  children : ∀ nodes, x.children = some nodes → LayoutNode.AllCanonical nodes

namespace NodeMembers

/-- The children of a node are canonical when what its members are as lists of nodes is. -/
theorem keeps : record.Keeps
    (fun m => ∀ nodes, m.2 = .ok nodes → LayoutNode.AllCanonical nodes) Canonical where
  start := ⟨nofun, nofun⟩
  put := by
    rintro key ⟨d, nodes⟩ x y hnodes ⟨hattributes, hchildren⟩ hput
    simp only [record] at hput
    split at hput
    · obtain ⟨id, -, rfl⟩ := ok_of_map hput
      exact ⟨hattributes, hchildren⟩
    · obtain ⟨component, -, rfl⟩ := ok_of_map hput
      exact ⟨hattributes, hchildren⟩
    · obtain ⟨element, -, rfl⟩ := ok_of_map hput
      exact ⟨hattributes, hchildren⟩
    · obtain ⟨attributes, hread, rfl⟩ := ok_of_map hput
      refine ⟨?_, hchildren⟩
      rintro m rfl
      exact Draft.map_ok (optional_ok hread).2
    · obtain ⟨children, hread, rfl⟩ := ok_of_map hput
      refine ⟨hattributes, ?_⟩
      rintro ns rfl
      exact hnodes ns (optional_ok hread).2
    · obtain ⟨fieldId, -, rfl⟩ := ok_of_map hput
      exact ⟨hattributes, hchildren⟩
    · cases hput
      exact ⟨hattributes, hchildren⟩

/-- The node that canonical members make is canonical. -/
theorem Canonical.node {x : NodeMembers} (h : x.Canonical) {node : LayoutNode}
    (hnode : x.node = .ok node) : node.Canonical := by
  unfold NodeMembers.node at hnode
  split at hnode
  · split at hnode
    · cases hnode
      trivial
    · cases hnode
  · cases hnode
    refine ⟨?_, ?_⟩
    · cases hattributes : x.attributes with
      | none => exact ⟨List.Pairwise.nil, trivial⟩
      | some m => exact h.attributes m hattributes
    · cases hchildren : x.children with
      | none => trivial
      | some nodes => exact h.children nodes hchildren
  · rename_i hfield hcontainer
    cases hnode
    exact ⟨hfield, hcontainer⟩

end NodeMembers

namespace LayoutNode

mutual

/-- A node that was read is canonical. -/
theorem canonical_ofDraft : (d : Draft) → {node : LayoutNode} → ofDraft d = .ok node →
    node.Canonical
  | .obj members ending, _, h => by
    rw [ofDraft] at h
    obtain ⟨x, hread, hnode⟩ := ok_of_bind h
    exact (NodeMembers.keeps.ofMembers (canonical_pairMembers members) hread).node hnode
  | .arr items ending, _, h => by
    rw [ofDraft] at h
    obtain ⟨x, hread, hnode⟩ := ok_of_bind h
    exact (NodeMembers.keeps.ofItems (canonical_pairItems items) hread).node hnode
  | .null, _, h | .bool _, _, h | .num _, _, h | .str _, _, h | .unusable, _, h | .broken, _, h => by
    rw [ofDraft] at h
    · cases h
    · exact nofun
    · exact nofun

theorem canonical_listOfDraft : (d : Draft) → (nodes : List LayoutNode) →
    listOfDraft d = .ok nodes → AllCanonical nodes
  | .arr items ending, nodes, h => by
    rw [listOfDraft] at h
    obtain ⟨read, hread, hfinish⟩ := ok_of_bind h
    obtain ⟨-, rfl⟩ := Draft.finish_ok hfinish
    exact canonical_ofDrafts items read hread
  | .null, _, h | .bool _, _, h | .num _, _, h | .str _, _, h | .obj _ _, _, h | .unusable, _, h
  | .broken, _, h => by
    rw [listOfDraft] at h
    · cases h
    · exact nofun

theorem canonical_ofDrafts : (items : List Draft) → (nodes : List LayoutNode) →
    ofDrafts items = .ok nodes → AllCanonical nodes
  | [], nodes, h => by
    cases h
    trivial
  | d :: rest, nodes, h => by
    rw [ofDrafts] at h
    split at h
    · cases h
    · rename_i node hnode
      obtain ⟨later, hlater, rfl⟩ := ok_of_map h
      exact ⟨canonical_ofDraft d hnode, canonical_ofDrafts rest later hlater⟩

theorem canonical_pairMembers : (members : List (Option String × Draft)) →
    ∀ m ∈ pairMembers members, ∀ nodes, m.2.2 = .ok nodes → AllCanonical nodes
  | [], _, hm, _, _ => by cases hm
  | (key, d) :: rest, m, hm, nodes, h => by
    rw [pairMembers] at hm
    rcases List.mem_cons.mp hm with rfl | hm
    · exact canonical_listOfDraft d nodes h
    · exact canonical_pairMembers rest m hm nodes h

theorem canonical_pairItems : (items : List Draft) →
    ∀ m ∈ pairItems items, ∀ nodes, m.2 = .ok nodes → AllCanonical nodes
  | [], _, hm, _, _ => by cases hm
  | d :: rest, m, hm, nodes, h => by
    rw [pairItems] at hm
    rcases List.mem_cons.mp hm with rfl | hm
    · exact canonical_listOfDraft d nodes h
    · exact canonical_pairItems rest m hm nodes h

end

end LayoutNode

/-! ## Forms -/

theorem FormDefinition.keeps : record.Keeps (fun _ => True) Canonical where
  start := by
    have hlayout : LayoutNode.Canonical (.unknown "" "") := by
      rw [LayoutNode.Canonical]
      decide
    exact ⟨fun f hf => absurd hf List.not_mem_nil, hlayout⟩
  put := by
    rintro key d x y - ⟨hfields, hlayout⟩ hput
    simp only [record] at hput
    split at hput
    · obtain ⟨formId, -, rfl⟩ := ok_of_map hput
      exact ⟨hfields, hlayout⟩
    · obtain ⟨name, -, rfl⟩ := ok_of_map hput
      exact ⟨hfields, hlayout⟩
    · obtain ⟨description, -, rfl⟩ := ok_of_map hput
      exact ⟨hfields, hlayout⟩
    · obtain ⟨config, -, rfl⟩ := ok_of_map hput
      exact ⟨hfields, hlayout⟩
    · obtain ⟨fields, hread, rfl⟩ := ok_of_map hput
      refine ⟨fun f hf => ?_, hlayout⟩
      obtain ⟨item, hitem⟩ := list_ok hread f hf
      exact FieldDefinition.keeps.ofDraft hitem
    · obtain ⟨layout, hread, rfl⟩ := ok_of_map hput
      exact ⟨hfields, LayoutNode.canonical_ofDraft d hread⟩
    · cases hput
      exact ⟨hfields, hlayout⟩

/-- A definition that was read is canonical. -/
theorem FormDefinition.canonical_ofJson {v : Json} {d : FormDefinition} (h : ofJson v = .ok d) :
    d.Canonical :=
  keeps.ofDraft h

end LiveForm
