import LiveForm.Json.Basic

/-!
# Layouts

A layout is a tree. Its leaves are slots for fields, and nodes of a component that this library
does not know. Its inner nodes are containers.
-/

namespace LiveForm

/-- A node of a layout. -/
inductive LayoutNode where
  /-- A slot for the field with an identifier. -/
  | field (id fieldId : String)
  | container (id : String) (element : Option String) (attributes : List (String × Json))
    (children : List LayoutNode)
  | unknown (id component : String)

namespace LayoutNode

instance : Inhabited LayoutNode := ⟨.unknown "" ""⟩

/-- The identifier of a node. -/
def id : LayoutNode → String
  | .field id _ | .container id _ _ _ | .unknown id _ => id

/-- The nodes inside a node. -/
def children : LayoutNode → List LayoutNode
  | .container _ _ _ children => children
  | _ => []

/-- A container without an element or attributes. -/
def wrap (id : String) (children : List LayoutNode) : LayoutNode := .container id none [] children

mutual

/-- The number of levels of a tree. -/
def depth : LayoutNode → Nat
  | .container _ _ _ children => 1 + greatestDepth children
  | _ => 1

/-- The greatest number of levels of several trees. -/
def greatestDepth : List LayoutNode → Nat
  | [] => 0
  | node :: rest => max node.depth (greatestDepth rest)

end

mutual

/-- The nodes of a tree, each before those inside it. -/
def preorder : LayoutNode → List LayoutNode
  | .container id element attributes children =>
    .container id element attributes children :: preorderAll children
  | node => [node]

/-- The nodes of several trees, tree by tree. -/
def preorderAll : List LayoutNode → List LayoutNode
  | [] => []
  | node :: rest => node.preorder ++ preorderAll rest

end

/-- The identifier of the field that a slot is for. -/
def fieldId? : LayoutNode → Option String
  | .field _ fieldId => some fieldId
  | _ => none

theorem depth_pos (node : LayoutNode) : 0 < node.depth := by
  cases node <;> grind [depth]

end LayoutNode

end LiveForm
