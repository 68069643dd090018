import LiveForm.Proofs.Definition.Check
import LiveForm.Proofs.Layout.Resolution
import Mathlib.Data.List.Forall2

/-!
# Nothing is dropped silently

A layout that was checked resolves, and what it resolves to has a node for every node of the layout,
in the same order and at the same level, but for the slots of fields that are hidden
(`LayoutContext.hides`). Order and level together say which node is inside which. What cannot be
shown is not left out: it has a placeholder that says why (`LayoutContext.Shows`).

From the correspondence of the nodes follows what can be read off a view: the fields that it shows,
and the slots for fields that are not declared.
-/

namespace LiveForm

/-! ## Levels -/

namespace LayoutNode

mutual

/-- The nodes of a tree with their levels, each before those inside it. -/
def levels (level : Nat) : LayoutNode → List (Nat × LayoutNode)
  | .container id element attributes children =>
    (level, .container id element attributes children) :: levelsAll (level + 1) children
  | node => [(level, node)]

/-- The nodes of several trees with their levels, tree by tree. -/
def levelsAll (level : Nat) : List LayoutNode → List (Nat × LayoutNode)
  | [] => []
  | node :: rest => node.levels level ++ levelsAll level rest

end

mutual

theorem map_snd_levels (level : Nat) :
    (node : LayoutNode) → (node.levels level).map Prod.snd = node.preorder
  | .field _ _ => by simp [levels, preorder]
  | .container id element attributes children => by
    rw [levels, preorder, List.map_cons, map_snd_levelsAll (level + 1) children]
  | .unknown _ _ => by simp [levels, preorder]

theorem map_snd_levelsAll (level : Nat) :
    (nodes : List LayoutNode) → (levelsAll level nodes).map Prod.snd = preorderAll nodes
  | [] => by rw [levelsAll, preorderAll, List.map_nil]
  | node :: rest => by
    rw [levelsAll, preorderAll, List.map_append, map_snd_levels level node,
      map_snd_levelsAll level rest]

end

theorem levels_field (level : Nat) (id fieldId : String) :
    (field id fieldId).levels level = [(level, .field id fieldId)] := by
  simp [levels]

theorem levels_unknown (level : Nat) (id component : String) :
    (unknown id component).levels level = [(level, .unknown id component)] := by
  simp [levels]

end LayoutNode

namespace ViewNode

mutual

/-- The nodes of a view with their levels, each before those inside it. -/
def levels (level : Nat) : ViewNode → List (Nat × ViewNode)
  | .container nodeId element attributes text children =>
    (level, .container nodeId element attributes text children) :: levelsAll (level + 1) children
  | node => [(level, node)]

/-- The nodes of several views with their levels, one view after the other. -/
def levelsAll (level : Nat) : List ViewNode → List (Nat × ViewNode)
  | [] => []
  | node :: rest => node.levels level ++ levelsAll level rest

end

mutual

theorem map_snd_levels (level : Nat) :
    (node : ViewNode) → (node.levels level).map Prod.snd = node.preorder
  | .field _ _ _ => by simp [levels, preorder]
  | .container nodeId element attributes text children => by
    rw [levels, preorder, List.map_cons, map_snd_levelsAll (level + 1) children]
  | .placeholder _ _ => by simp [levels, preorder]

theorem map_snd_levelsAll (level : Nat) :
    (nodes : List ViewNode) → (levelsAll level nodes).map Prod.snd = preorderAll nodes
  | [] => by rw [levelsAll, preorderAll, List.map_nil]
  | node :: rest => by
    rw [levelsAll, preorderAll, List.map_append, map_snd_levels level node,
      map_snd_levelsAll level rest]

end

theorem levels_field (level : Nat) (nodeId : String) (shown : FieldDefinition) (widget : Widget) :
    (field nodeId shown widget).levels level = [(level, .field nodeId shown widget)] := by
  simp [levels]

theorem levels_placeholder (level : Nat) (nodeId : String) (diagnostic : Diagnostic) :
    (placeholder nodeId diagnostic).levels level = [(level, .placeholder nodeId diagnostic)] := by
  simp [levels]

theorem levelsAll_singleton (level : Nat) (node : ViewNode) :
    levelsAll level [node] = node.levels level := by
  rw [levelsAll, levelsAll, List.append_nil]

theorem levelsAll_append (level : Nat) (nodes others : List ViewNode) :
    levelsAll level (nodes ++ others) = levelsAll level nodes ++ levelsAll level others := by
  induction nodes with
  | nil => simp [levelsAll]
  | cons node rest ih => simp [levelsAll, ih]

end ViewNode

/-! ## Nodes and what is shown for them -/

/-- The field that a placeholder misses. -/
def Diagnostic.unknownField? : Diagnostic → Option String
  | unknownField fieldId => some fieldId
  | _ => none

namespace LayoutContext

variable {ctx : LayoutContext}

/-- The node is a slot for a field that is declared and that the map says is hidden. -/
def hides (ctx : LayoutContext) : LayoutNode → Bool
  | .field _ fieldId =>
    (ctx.definition.field? fieldId).isSome && Keyed.find? ctx.visibility fieldId == some false
  | _ => false

/-- The field is declared, not hidden, and of a kind that has a widget. -/
def showsField (ctx : LayoutContext) (fieldId : String) : Bool :=
  (ctx.definition.field? fieldId).any fun field =>
    Keyed.find? ctx.visibility fieldId != some false && (ctx.widgets.lookup field.kind).isSome

/-- What is shown for a node that is not hidden. -/
inductive Shows (ctx : LayoutContext) : LayoutNode → ViewNode → Prop
  | undeclared {id fieldId : String} (hnone : ctx.definition.field? fieldId = none) :
      Shows ctx (.field id fieldId) (.placeholder id (.unknownField fieldId))
  | unregistered {id fieldId : String} {field : FieldDefinition}
      (hfield : ctx.definition.field? fieldId = some field)
      (hnone : ctx.widgets.lookup field.kind = none) :
      Shows ctx (.field id fieldId)
        (.placeholder id (.unknownFieldType fieldId field.kind.name))
  | field {id fieldId : String} {field : FieldDefinition} {widget : Widget}
      (hfield : ctx.definition.field? fieldId = some field)
      (hwidget : ctx.widget? field = some widget) :
      Shows ctx (.field id fieldId) (.field id field widget)
  | container {id : String} {element : Option String} {attributes : List (String × Json)}
      {children : List LayoutNode} {shown : List ViewNode} :
      Shows ctx (.container id element attributes children)
        (.container id (element.getD "div") attributes (ctx.text? id children.isEmpty) shown)
  | unknown {id component : String} :
      Shows ctx (.unknown id component) (.placeholder id (.unknownComponent component))

/-- What is hidden is a slot for a field that is declared, of which the map says so. -/
theorem exists_of_hides {node : LayoutNode} (h : ctx.hides node = true) :
    ∃ id fieldId field, node = .field id fieldId ∧
      ctx.definition.field? fieldId = some field ∧
      Keyed.find? ctx.visibility fieldId = some false := by
  cases node with
  | field id fieldId =>
    rw [hides, Bool.and_eq_true] at h
    obtain ⟨hdeclared, hmapped⟩ := h
    obtain ⟨field, hfield⟩ := Option.isSome_iff_exists.mp hdeclared
    exact ⟨id, fieldId, field, rfl, hfield, beq_iff_eq.mp hmapped⟩
  | container id element attributes children => cases h
  | unknown id component => cases h

/-- A node that is not hidden, and what is shown for it at the same level. -/
def ShowsAt (ctx : LayoutContext) (node : Nat × LayoutNode) (shown : Nat × ViewNode) : Prop :=
  ctx.hides node.2 = false ∧ node.1 = shown.1 ∧ ctx.Shows node.2 shown.2

theorem Shows.nodeId_eq {node : LayoutNode} {view : ViewNode} (h : ctx.Shows node view) :
    view.nodeId = node.id := by
  cases h <;> rfl

/-- A slot leaves nothing exactly if it is hidden. Else it has what is shown for it, which has
nothing inside. -/
theorem slot_cases (hids : (ctx.definition.fields.map FieldDefinition.id).Nodup)
    (id fieldId : String) :
    (ctx.hides (.field id fieldId) = true ∧ ctx.slot id fieldId = none) ∨
    (ctx.hides (.field id fieldId) = false ∧ ∃ view, ctx.slot id fieldId = some view ∧
      ctx.Shows (.field id fieldId) view ∧ ∀ level, view.levels level = [(level, view)]) := by
  have hsame : ctx.field? fieldId = ctx.definition.field? fieldId :=
    FieldDefinition.find?_reverse hids fieldId
  rw [slot, hsame, hides]
  cases hfield : ctx.definition.field? fieldId with
  | none =>
    have hleaf (level : Nat) := ViewNode.levels_placeholder level id (.unknownField fieldId)
    exact .inr ⟨rfl, _, rfl, .undeclared hfield, hleaf⟩
  | some field =>
    have hvisible : ctx.isVisible fieldId = (Keyed.find? ctx.visibility fieldId != some false) := by
      rw [isVisible]
      rcases Keyed.find? ctx.visibility fieldId with _ | _ | _ <;> rfl
    cases hmapped : Keyed.find? ctx.visibility fieldId == some false with
    | true =>
      left
      simp [hvisible, bne, hmapped]
    | false =>
      right
      have hshown : ctx.isVisible fieldId = true := by rw [hvisible, bne, hmapped]; rfl
      simp only [if_pos hshown]
      refine ⟨rfl, ?_⟩
      cases hwidget : ctx.widget? field with
      | some widget =>
        refine ⟨_, rfl, .field hfield hwidget, ?_⟩
        exact fun level => ViewNode.levels_field level id field widget
      | none =>
        have hnone : ctx.widgets.lookup field.kind = none := Option.map_eq_none_iff.mp hwidget
        refine ⟨_, rfl, .unregistered hfield hnone, ?_⟩
        exact fun level => ViewNode.levels_placeholder level id _

end LayoutContext

/-! ## The correspondence -/

namespace LayoutNode

variable {ctx : LayoutContext}

mutual

/-- What a node resolves to corresponds to the nodes of its tree that are not hidden. -/
theorem shows_resolveAt (hids : (ctx.definition.fields.map FieldDefinition.id).Nodup)
    {max level : Nat} (top : Nat) : (node : LayoutNode) → {shown : Option ViewNode} →
      resolveAt ctx max level node = .ok shown →
      List.Forall₂ ctx.ShowsAt ((node.levels top).filter fun entry => !ctx.hides entry.2)
        (ViewNode.levelsAll top shown.toList)
  | .field id fieldId, shown, h => by
    rw [resolveAt] at h
    split at h
    · cases h
    · cases h
      rw [levels_field]
      rcases ctx.slot_cases hids id fieldId with
        ⟨hhidden, hslot⟩ | ⟨hkept, view, hslot, hshows, hleaf⟩
      · rw [List.filter_cons_of_neg (by simp [hhidden]), hslot, Option.toList_none,
          ViewNode.levelsAll]
        exact .nil
      · rw [List.filter_cons_of_pos (by simp [hkept]), hslot, Option.toList_some,
          ViewNode.levelsAll_singleton, hleaf]
        exact .cons ⟨hkept, rfl, hshows⟩ .nil
  | .container id element attributes children, shown, h => by
    rw [resolveAt] at h
    split at h
    · cases h
    · split at h
      · cases h
      · rename_i resolved hresolved
        cases h
        rw [levels, List.filter_cons_of_pos rfl, Option.toList_some, ViewNode.levelsAll_singleton,
          ViewNode.levels]
        exact .cons ⟨rfl, rfl, .container⟩ (shows_resolveAll hids (top + 1) children hresolved)
  | .unknown id component, shown, h => by
    rw [resolveAt] at h
    split at h
    · cases h
    · cases h
      rw [levels_unknown, List.filter_cons_of_pos rfl, Option.toList_some,
        ViewNode.levelsAll_singleton, ViewNode.levels_placeholder]
      exact .cons ⟨rfl, rfl, .unknown⟩ .nil

theorem shows_resolveAll (hids : (ctx.definition.fields.map FieldDefinition.id).Nodup)
    {max level : Nat} (top : Nat) : (nodes : List LayoutNode) → {shown : List ViewNode} →
      resolveAll ctx max level nodes = .ok shown →
      List.Forall₂ ctx.ShowsAt ((levelsAll top nodes).filter fun entry => !ctx.hides entry.2)
        (ViewNode.levelsAll top shown)
  | [], shown, h => by
    rw [resolveAll] at h
    cases h
    rw [levelsAll, ViewNode.levelsAll]
    exact .nil
  | node :: rest, shown, h => by
    rw [resolveAll] at h
    split at h
    · cases h
    · rename_i first hfirst
      split at h
      · cases h
      · rename_i others hothers
        cases h
        rw [levelsAll, List.filter_append, ViewNode.levelsAll_append]
        exact List.rel_append (shows_resolveAt hids top node hfirst)
          (shows_resolveAll hids top rest hothers)

end

/-- A node that resolves leaves nothing exactly if it is a slot that is hidden. -/
theorem resolveAt_eq_none_iff (hids : (ctx.definition.fields.map FieldDefinition.id).Nodup)
    {max level : Nat} {node : LayoutNode} {shown : Option ViewNode}
    (h : resolveAt ctx max level node = .ok shown) : shown = none ↔ ctx.hides node = true := by
  cases node with
  | field id fieldId =>
    rw [resolveAt] at h
    split at h
    · cases h
    · cases h
      rcases ctx.slot_cases hids id fieldId with ⟨hhidden, hslot⟩ | ⟨hkept, view, hslot, -⟩
      · exact iff_of_true hslot hhidden
      · rw [hslot, hkept]
        exact iff_of_false nofun nofun
  | container id element attributes children =>
    rw [resolveAt] at h
    split at h
    · cases h
    · split at h
      · cases h
      · cases h
        exact iff_of_false nofun nofun
  | unknown id component =>
    rw [resolveAt] at h
    split at h
    · cases h
    · cases h
      exact iff_of_false nofun nofun

end LayoutNode

/-! ## What can be read off a view -/

namespace LayoutContext

variable {ctx : LayoutContext} {nodes : List (Nat × LayoutNode)} {shown : List (Nat × ViewNode)}

/-- What is shown has the identifiers and the levels of the nodes that it is shown for. -/
theorem map_nodeId_eq (h : List.Forall₂ ctx.ShowsAt nodes shown) :
    shown.map (fun entry => (entry.1, entry.2.nodeId)) =
      nodes.map fun entry => (entry.1, entry.2.id) := by
  induction h with
  | nil => rfl
  | cons hfirst _ ih =>
    obtain ⟨-, hlevel, hshows⟩ := hfirst
    rw [List.map_cons, List.map_cons, ih, hlevel, hshows.nodeId_eq]

/-- What is read off a view node by node is what is read off the layout, if nothing is read off the
nodes that are hidden. -/
theorem filterMap_shown {α : Type} {f : LayoutNode → Option α} {g : ViewNode → Option α}
    (h : List.Forall₂ ctx.ShowsAt (nodes.filter fun entry => !ctx.hides entry.2) shown)
    (hhidden : ∀ node, ctx.hides node = true → f node = none)
    (hshown : ∀ node view, ctx.hides node = false → ctx.Shows node view → g view = f node) :
    (shown.map Prod.snd).filterMap g = (nodes.map Prod.snd).filterMap f := by
  induction nodes generalizing shown with
  | nil =>
    cases h
    rfl
  | cons entry rest ih =>
    cases hhides : ctx.hides entry.2 with
    | true =>
      rw [List.filter_cons_of_neg (by simp [hhides])] at h
      rw [List.map_cons, List.filterMap_cons_none (hhidden _ hhides)]
      exact ih h
    | false =>
      rw [List.filter_cons_of_pos (by simp [hhides])] at h
      cases h with
      | @cons _ first _ others hfirst hothers =>
        have hread : g first.2 = f entry.2 := hshown _ _ hhides hfirst.2.2
        rw [List.map_cons, List.map_cons, List.filterMap_cons, List.filterMap_cons, hread,
          ih hothers]

/-- A slot that is hidden has no field of a sort that leaves out those that are hidden. -/
theorem filter_fieldId?_of_hides {node : LayoutNode} (h : ctx.hides node = true)
    {sort : String → Bool}
    (hsort : ∀ fieldId field, ctx.definition.field? fieldId = some field →
      Keyed.find? ctx.visibility fieldId = some false → sort fieldId = false) :
    node.fieldId?.filter sort = none := by
  obtain ⟨id, fieldId, field, rfl, hfield, hmapped⟩ := exists_of_hides h
  rw [LayoutNode.fieldId?, Option.filter_some, hsort fieldId field hfield hmapped]
  rfl

/-- The field of a node that is shown is that of the slot, if the slot is shown as a field. -/
theorem fieldId?_of_shows {node : LayoutNode} {view : ViewNode} (hkept : ctx.hides node = false)
    (h : ctx.Shows node view) : view.fieldId? = node.fieldId?.filter ctx.showsField := by
  cases h with
  | undeclared hnone =>
    simp [ViewNode.fieldId?, LayoutNode.fieldId?, Option.filter_some, showsField, hnone]
  | unregistered hfield hnone =>
    simp [ViewNode.fieldId?, LayoutNode.fieldId?, Option.filter_some, showsField, hfield, hnone]
  | @field id fieldId field widget hfield hwidget =>
    have hid := List.find?_some (p := fun f : FieldDefinition => f.id == fieldId) hfield
    have hregistered : (ctx.widgets.lookup field.kind).isSome = true := by
      rw [← Option.isSome_map, ← widget?, hwidget]
      rfl
    have hvisible : (Keyed.find? ctx.visibility fieldId != some false) = true := by
      simpa [hides, hfield] using hkept
    have hshows : ctx.showsField fieldId = true := by
      simp only [showsField, hfield, Option.any_some, hvisible, hregistered, Bool.and_self]
    rw [ViewNode.fieldId?, LayoutNode.fieldId?, Option.filter_some, if_pos hshows,
      beq_iff_eq.mp hid]
  | container => rfl
  | unknown => rfl

/-- The field that is missed by what is shown for a node is that of the slot, if none is declared.
-/
theorem unknownField?_of_shows {node : LayoutNode} {view : ViewNode} (h : ctx.Shows node view) :
    view.diagnostic?.bind Diagnostic.unknownField? =
      node.fieldId?.filter fun fieldId => (ctx.definition.field? fieldId).isNone := by
  cases h with
  | undeclared hnone =>
    simp [ViewNode.diagnostic?, Diagnostic.unknownField?, LayoutNode.fieldId?,
      Option.filter_some, hnone]
  | unregistered hfield hnone =>
    simp [ViewNode.diagnostic?, Diagnostic.unknownField?, LayoutNode.fieldId?,
      Option.filter_some, hfield]
  | field hfield hwidget =>
    simp [ViewNode.diagnostic?, LayoutNode.fieldId?, Option.filter_some, hfield]
  | container => rfl
  | unknown => rfl

end LayoutContext

namespace FormDefinition

/-- The layout of a definition that was checked resolves, whatever the map of what is shown says and
whichever widgets are registered. It leaves nothing only if it is a single slot that is hidden. Else
what is shown corresponds node by node, with the same identifiers, in the same order and at the same
levels, to the layout without the slots that are hidden. The fields that are shown are those of the
slots for declared, visible fields of registered kinds, and the fields that are missed are those
that the layout has slots for and that are not declared. -/
theorem resolve_keeps_nodes {d : FormDefinition} (hcheck : d.check = .ok ())
    (visibility : Keyed Bool) (widgets : WidgetRegistry) :
    let ctx : LayoutContext := ⟨d, visibility, widgets⟩
    ∃ shown, d.layout.resolve ctx maxLayoutDepth = .ok shown ∧
      (shown = none ↔ ctx.hides d.layout = true) ∧
      ∀ view, shown = some view →
        List.Forall₂ ctx.ShowsAt ((d.layout.levels 0).filter fun entry => !ctx.hides entry.2)
          (view.levels 0) ∧
        (view.levels 0).map (fun entry => (entry.1, entry.2.nodeId)) =
          ((d.layout.levels 0).filter fun entry => !ctx.hides entry.2).map
            (fun entry => (entry.1, entry.2.id)) ∧
        view.fieldIds = (d.layout.preorder.filterMap LayoutNode.fieldId?).filter ctx.showsField ∧
        view.diagnostics.filterMap Diagnostic.unknownField? = d.unresolvedFieldIds := by
  intro ctx
  have hids : (ctx.definition.fields.map FieldDefinition.id).Nodup := nodup_of_check hcheck
  obtain ⟨shown, hshown⟩ := LayoutNode.exists_resolve (depth_le_of_check hcheck) ctx
  refine ⟨shown, hshown, LayoutNode.resolveAt_eq_none_iff hids hshown, ?_⟩
  rintro view rfl
  have hshows := LayoutNode.shows_resolveAt hids 0 d.layout hshown
  rw [Option.toList_some, ViewNode.levelsAll_singleton] at hshows
  refine ⟨hshows, LayoutContext.map_nodeId_eq hshows, ?_, ?_⟩
  · rw [ViewNode.fieldIds, List.filter_filterMap, ← ViewNode.map_snd_levels 0,
      ← LayoutNode.map_snd_levels 0]
    apply LayoutContext.filterMap_shown hshows
    · intro node hhidden
      apply LayoutContext.filter_fieldId?_of_hides hhidden
      intro fieldId field hfield hmapped
      simp [LayoutContext.showsField, hfield, hmapped]
    · exact fun node view hkept h => LayoutContext.fieldId?_of_shows hkept h
  · rw [ViewNode.diagnostics, List.filterMap_filterMap, unresolvedFieldIds, List.filter_filterMap,
      ← ViewNode.map_snd_levels 0, ← LayoutNode.map_snd_levels 0]
    apply LayoutContext.filterMap_shown hshows
    · intro node hhidden
      apply LayoutContext.filter_fieldId?_of_hides hhidden
      intro fieldId field hfield _
      rw [show d.field? fieldId = some field from hfield, Option.isNone_some]
    · exact fun node view _ h => LayoutContext.unknownField?_of_shows h

/-- A layout with a slot that is hidden, one for a field that is not declared, one for a field of a
kind without a widget, and a node of an unknown component. -/
def patchyForm : FormDefinition where
  formId := "patchy"
  name := "Patchy"
  fields := [.ofKind "name" .text, .ofKind "nick" .text, .ofKind "mood" (.other "slider")]
  layout := .wrap "root"
    [.wrap "box" [.field "slot1" "name", .field "slot2" "nick", .field "slot3" "ghost"],
      .field "slot4" "mood", .unknown "plot" "chart"]

/-- Only the slot of the field that is hidden is missing. -/
theorem resolve_keeps_nodes_patchyForm :
    patchyForm.check = .ok () ∧
    ∃ view, patchyForm.layout.resolve ⟨patchyForm, [("nick", false)], .builtins⟩ maxLayoutDepth =
        .ok (some view) ∧
      (view.levels 0).map (fun entry => (entry.1, entry.2.nodeId)) =
        [(0, "root"), (1, "box"), (2, "slot1"), (2, "slot3"), (1, "slot4"), (1, "plot")] ∧
      view.fieldIds = ["name"] ∧
      view.diagnostics.filterMap Diagnostic.unknownField? = ["ghost"] := by
  refine ⟨rfl, ?_⟩
  obtain ⟨shown, hshown, hnone, hsome⟩ :=
    @resolve_keeps_nodes patchyForm rfl [("nick", false)] .builtins
  cases shown with
  | none => cases hnone.mp rfl
  | some view =>
    obtain ⟨-, hlevels, hfields, hmissed⟩ := hsome view rfl
    exact ⟨view, hshown, hlevels.trans (by decide), hfields.trans (by decide),
      hmissed.trans (by decide)⟩

end FormDefinition

end LiveForm
