import LiveForm.Layout.View

/-!
# When a layout resolves

A resolution counts levels from the root down, and the depth of a layout counts them from the leaves
up. Both agree: at level `l`, a node of depth `d` is resolved without an error as soon as the last
of its levels, `l + d - 1`, is allowed. What is shown and which widgets there are plays no part.
-/

namespace LiveForm.LayoutNode

mutual

/-- A node whose last level is allowed is resolved. -/
theorem exists_resolveAt (ctx : LayoutContext) (max level : Nat) :
    (node : LayoutNode) → level + node.depth ≤ max + 1 →
      ∃ shown, resolveAt ctx max level node = .ok shown
  | .field id fieldId, h => by
    simp only [depth] at h
    rw [resolveAt, if_neg (by omega)]
    exact ⟨_, rfl⟩
  | .container id element attributes children, h => by
    rw [depth] at h
    obtain ⟨shown, hshown⟩ := exists_resolveAll ctx max (level + 1) children (by omega)
    rw [resolveAt, if_neg (by omega), hshown]
    exact ⟨_, rfl⟩
  | .unknown id component, h => by
    simp only [depth] at h
    rw [resolveAt, if_neg (by omega)]
    exact ⟨_, rfl⟩

/-- Nodes whose last level is allowed are resolved. -/
theorem exists_resolveAll (ctx : LayoutContext) (max level : Nat) :
    (nodes : List LayoutNode) → level + greatestDepth nodes ≤ max + 1 →
      ∃ shown, resolveAll ctx max level nodes = .ok shown
  | [], _ => ⟨[], by rw [resolveAll]⟩
  | node :: rest, h => by
    rw [greatestDepth] at h
    obtain ⟨first, hfirst⟩ := exists_resolveAt ctx max level node (by omega)
    obtain ⟨others, hothers⟩ := exists_resolveAll ctx max level rest (by omega)
    rw [resolveAll, hfirst, hothers]
    exact ⟨_, rfl⟩

end

/-- A layout with no more levels than allowed is resolved. -/
theorem exists_resolve {node : LayoutNode} {max : Nat} (h : node.depth ≤ max)
    (ctx : LayoutContext) : ∃ shown, node.resolve ctx max = .ok shown :=
  exists_resolveAt ctx max 1 node (by omega)

end LiveForm.LayoutNode
