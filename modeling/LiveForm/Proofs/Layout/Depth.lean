import LiveForm.Proofs.Layout.Completeness

/-!
# Layouts that are too deep

A resolution counts the levels from the root down and stops at the first node below the last level
that is allowed. The depth of a layout is found from the leaves up, over all nodes. So it must be
shown that the walk reaches a node that is too deep whenever there is one, and that no other stops
it: what comes before it in the tree resolves, whether it is shown, hidden or a placeholder.
-/

namespace LiveForm

namespace LayoutNode

/-- The first node at a level, in the order of the tree. The root is at the first level. -/
def firstAt? (node : LayoutNode) (level : Nat) : Option LayoutNode :=
  ((node.levels 1).find? fun entry => entry.1 == level).map Prod.snd

mutual

/-- The depth of a tree bounds the levels of its nodes. -/
theorem level_lt (top : Nat) :
    (node : LayoutNode) → ∀ entry ∈ node.levels top, entry.1 < top + node.depth
  | .field id fieldId, entry, h => by
    rw [levels_field, List.mem_singleton] at h
    subst h
    exact Nat.lt_add_of_pos_right (depth_pos _)
  | .container id element attributes children, entry, h => by
    rw [levels, List.mem_cons] at h
    rw [depth, ← Nat.add_assoc]
    rcases h with rfl | h
    · omega
    · exact level_lt_all (top + 1) children entry h
  | .unknown id component, entry, h => by
    rw [levels_unknown, List.mem_singleton] at h
    subst h
    exact Nat.lt_add_of_pos_right (depth_pos _)

theorem level_lt_all (top : Nat) :
    (nodes : List LayoutNode) → ∀ entry ∈ levelsAll top nodes, entry.1 < top + greatestDepth nodes
  | [], entry, h => by
    rw [levelsAll] at h
    cases h
  | node :: rest, entry, h => by
    rw [levelsAll, List.mem_append] at h
    rw [greatestDepth]
    rcases h with h | h
    · have hfirst := level_lt top node entry h
      omega
    · have hrest := level_lt_all top rest entry h
      omega

end

/-- A tree that does not reach down to a level has no node there. -/
theorem find?_levels_eq_none {node : LayoutNode} {top level : Nat} (h : top + node.depth ≤ level) :
    ((node.levels top).find? fun entry => entry.1 == level) = none := by
  refine List.find?_eq_none.mpr fun entry hentry hlevel => ?_
  have hlt := level_lt top node entry hentry
  rw [beq_iff_eq] at hlevel
  omega

/-- The first node of a tree at the level of its root is the root. -/
theorem find?_levels_root (node : LayoutNode) (level : Nat) :
    ((node.levels level).find? fun entry => entry.1 == level) = some (level, node) := by
  cases node with
  | field id fieldId =>
    rw [levels_field]
    exact List.find?_cons_of_pos (beq_self_eq_true level)
  | container id element attributes children =>
    rw [levels]
    exact List.find?_cons_of_pos (beq_self_eq_true level)
  | unknown id component =>
    rw [levels_unknown]
    exact List.find?_cons_of_pos (beq_self_eq_true level)

/-- A node below the last level allowed is refused, whatever it is. -/
theorem resolveAt_below (ctx : LayoutContext) (max : Nat) (node : LayoutNode) :
    resolveAt ctx max (max + 1) node = .error (.malformedLayout node.id max) := by
  cases node <;> rw [resolveAt, if_pos (Nat.lt_succ_self max)] <;> rfl

mutual

/-- A tree that reaches below the last level allowed is refused for the first node there. -/
theorem resolveAt_tooDeep (ctx : LayoutContext) (max level : Nat) (hlevel : level ≤ max + 1) :
    (node : LayoutNode) → max + 1 < level + node.depth →
      ∃ deep, ((node.levels level).find? fun entry => entry.1 == max + 1) = some (max + 1, deep) ∧
        resolveAt ctx max level node = .error (.malformedLayout deep.id max)
  | .field id fieldId, h => by
    simp only [depth] at h
    obtain rfl : level = max + 1 := by omega
    exact ⟨_, find?_levels_root _ _, resolveAt_below ctx max _⟩
  | .container id element attributes children, h => by
    by_cases htop : level = max + 1
    · subst htop
      exact ⟨_, find?_levels_root _ _, resolveAt_below ctx max _⟩
    · rw [depth] at h
      obtain ⟨deep, hfind, herror⟩ :=
        resolveAll_tooDeep ctx max (level + 1) (by omega) children (by omega)
      rw [levels, resolveAt, if_neg (by omega), herror,
        List.find?_cons_of_neg (by simpa using htop)]
      exact ⟨deep, hfind, rfl⟩
  | .unknown id component, h => by
    simp only [depth] at h
    obtain rfl : level = max + 1 := by omega
    exact ⟨_, find?_levels_root _ _, resolveAt_below ctx max _⟩

theorem resolveAll_tooDeep (ctx : LayoutContext) (max level : Nat) (hlevel : level ≤ max + 1) :
    (nodes : List LayoutNode) → max + 1 < level + greatestDepth nodes →
      ∃ deep, ((levelsAll level nodes).find? fun entry => entry.1 == max + 1) =
          some (max + 1, deep) ∧
        resolveAll ctx max level nodes = .error (.malformedLayout deep.id max)
  | [], h => by
    rw [greatestDepth] at h
    omega
  | node :: rest, h => by
    rw [greatestDepth] at h
    rw [levelsAll, resolveAll, List.find?_append]
    by_cases hfirst : max + 1 < level + node.depth
    · obtain ⟨deep, hfind, herror⟩ := resolveAt_tooDeep ctx max level hlevel node hfirst
      rw [hfind, herror]
      exact ⟨deep, rfl, rfl⟩
    · -- The first tree ends above, so that it resolves and has no node at the level.
      obtain ⟨shown, hshown⟩ := exists_resolveAt ctx max level node (by omega)
      obtain ⟨deep, hfind, herror⟩ := resolveAll_tooDeep ctx max level hlevel rest (by omega)
      rw [find?_levels_eq_none (by omega), hshown, herror]
      exact ⟨deep, hfind, rfl⟩

end

/-- A layout fails to resolve exactly if it has more levels than allowed. The error then names the
number of levels allowed and the first node below them, whatever is hidden and whatever cannot be
shown. A definition that was checked never fails at the levels that a form may have. -/
theorem resolve_fails_iff (node : LayoutNode) (ctx : LayoutContext) (max : Nat) :
    ((∃ e, node.resolve ctx max = .error e) ↔ max < node.depth) ∧
    (∀ e, node.resolve ctx max = .error e →
      ∃ deep, node.firstAt? (max + 1) = some deep ∧ e = .malformedLayout deep.id max) ∧
    ∀ d : FormDefinition, d.check = .ok () →
      ∃ shown, d.layout.resolve ctx maxLayoutDepth = .ok shown := by
  have hdeep (h : max < node.depth) :
      ∃ deep, node.firstAt? (max + 1) = some deep ∧
        node.resolve ctx max = .error (.malformedLayout deep.id max) := by
    obtain ⟨deep, hfind, herror⟩ := resolveAt_tooDeep ctx max 1 (by omega) node (by omega)
    refine ⟨deep, ?_, herror⟩
    rw [firstAt?, hfind, Option.map_some]
  have hfails {e : FormError} (h : node.resolve ctx max = .error e) : max < node.depth := by
    by_contra hfits
    obtain ⟨shown, hshown⟩ := exists_resolve (Nat.not_lt.mp hfits) ctx
    rw [hshown] at h
    cases h
  refine ⟨⟨fun ⟨e, h⟩ => hfails h, fun h => ?_⟩, fun e h => ?_, fun d hcheck => ?_⟩
  · obtain ⟨deep, -, herror⟩ := hdeep h
    exact ⟨_, herror⟩
  · obtain ⟨deep, hfirst, herror⟩ := hdeep (hfails h)
    rw [herror] at h
    cases h
    exact ⟨deep, hfirst, rfl⟩
  · exact exists_resolve (FormDefinition.depth_le_of_check hcheck) ctx

/-- With two levels allowed the patchy form fails at its first slot. The definition itself was
checked, and resolves. -/
theorem resolve_fails_patchyForm :
    let ctx : LayoutContext := ⟨FormDefinition.patchyForm, [("name", false)], .builtins⟩
    2 < FormDefinition.patchyForm.layout.depth ∧ FormDefinition.patchyForm.check = .ok () ∧
      FormDefinition.patchyForm.layout.resolve ctx 2 = .error (.malformedLayout "slot1" 2) ∧
      ∃ shown, FormDefinition.patchyForm.layout.resolve ctx maxLayoutDepth = .ok shown := by
  intro ctx
  obtain ⟨hiff, hnamed, hchecked⟩ := resolve_fails_iff FormDefinition.patchyForm.layout ctx 2
  have hdepth : 2 < FormDefinition.patchyForm.layout.depth := by decide
  refine ⟨hdepth, rfl, ?_, hchecked _ rfl⟩
  obtain ⟨e, he⟩ := hiff.mpr hdepth
  obtain ⟨deep, hfirst, rfl⟩ := hnamed e he
  have hslot : FormDefinition.patchyForm.layout.firstAt? 3 = some (.field "slot1" "name") := rfl
  obtain rfl := Option.some.inj (hslot.symm.trans hfirst)
  exact he

end LayoutNode

end LiveForm
