import DocMarkdown.Node.Basic

/-!
# Recursion on nodes

Whatever is computed for a node from the same thing computed for its children is a `Node.fold`.
The recursion is on the structure of the tree, once and for all; `Node.fold_eq` is the equation
that everything built on it uses.
-/

namespace DocMarkdown

namespace Node

variable {β : Type}

mutual

/-- The values of a node's children. -/
def foldChildren (step : Node → List β → β) : Node → List β
  | paragraph nodes => foldAll step nodes
  | group nodes => foldAll step nodes
  | emphasis _ nodes => foldAll step nodes
  | row cells => foldAll step cells
  | other _ nodes => foldAll step nodes
  | noteBox content => [step content (foldChildren step content)]
  | cell content => [step content (foldChildren step content)]
  | table none rows => foldAll step rows
  | table (some header) rows => step header (foldChildren step header) :: foldAll step rows
  | labelled _ node => foldChildren step node
  | _ => []

/-- The values of nodes. -/
def foldAll (step : Node → List β → β) : List Node → List β
  | [] => []
  | node :: nodes => step node (foldChildren step node) :: foldAll step nodes

end

/-- **Fold.** The value of a node, computed by `step` from the node and the values of its
children. -/
def fold (step : Node → List β → β) (node : Node) : β := step node (foldChildren step node)

theorem foldAll_eq (step : Node → List β → β) (nodes : List Node) :
    foldAll step nodes = nodes.map (fold step) := by
  induction nodes with
  | nil => rfl
  | cons node nodes ih => simp [foldAll, fold, ih]

theorem foldChildren_eq (step : Node → List β → β) (node : Node) :
    foldChildren step node = node.children.map (fold step) := by
  induction node using unlabelled.induct with
  | case1 _ node ih => simpa [foldChildren, children] using ih
  | case2 node h =>
    cases node with
    | table header rows => cases header <;> simp [foldChildren, children, foldAll_eq, fold]
    | labelled kind node => exact absurd rfl (h kind node)
    | _ => simp [foldChildren, children, foldAll_eq, fold]

/-- The value of a node comes from the values of its children. -/
theorem fold_eq (step : Node → List β → β) (node : Node) :
    node.fold step = step node (node.children.map (fold step)) := by
  rw [fold, foldChildren_eq]

end Node

end DocMarkdown
