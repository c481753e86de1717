import DocMarkdown.Dialect
import DocMarkdown.Node.Fold
import DocMarkdown.Node.Trim
import Mathlib.Tactic.Lemma

/-!
# The nodes that are written

What is written for a node is made of what is written for its *parts* (`Node.parts`).  These are its
children, but for a table: that writes its rows and cells itself, so its parts are the contents of
the cells, those of the header first.  A label that makes something else of a table makes its rows
children like any others.

Two ways to go through a tree follow from this.  `Node.foldParts` computes a value for a node from
the values of its parts, and `Node.parts_induction` proves a property of a node from the same
property of its parts.  `Node.visited` lists the nodes that a dialect writes, in document order, and
`Node.walk` lists all nodes of a tree, whether they are written or not.

`Node.every` asks something of each node of a tree; what holds everywhere in a tree holds everywhere
in its parts.
-/

namespace DocMarkdown

namespace Node

/-! ## Parts -/

/-- **Parts.** The nodes whose writing makes up the writing of a node. -/
def parts (node : Node) : List Node :=
  match node.kind, node.unlabelled with
  | .table, table header rows =>
    (header.toList ++ rows).flatMap fun row => row.children.flatMap children
  | _, _ => node.children

/-- Only a table has parts that are not its children. -/
lemma parts_eq_children {node : Node} (notTable : node.kind ≠ .table) :
    node.parts = node.children := by
  unfold parts
  split
  next isTable _ => exact absurd isTable notTable
  next => rfl

lemma sizeOf_children {node child : Node} (member : child ∈ node.children) :
    sizeOf child < sizeOf node := by
  induction node using unlabelled.induct with
  | case1 kind node ih =>
    have smaller : sizeOf child < sizeOf node := ih member
    simp only [labelled.sizeOf_spec]
    omega
  | case2 node notLabelled =>
    cases node with
    | labelled kind node => exact absurd rfl (notLabelled kind node)
    | table header rows =>
      rcases List.mem_append.1 member with inHeader | inRows
      · obtain rfl : header = some child := by simpa [Option.mem_toList] using inHeader
        simp only [table.sizeOf_spec, Option.some.sizeOf_spec]
        omega
      · have smaller := List.sizeOf_lt_of_mem inRows
        simp only [table.sizeOf_spec]
        omega
    | paragraph nodes | group nodes | emphasis _ nodes | row nodes | other _ nodes =>
      have smaller : sizeOf child < sizeOf nodes := List.sizeOf_lt_of_mem member
      simp only [paragraph.sizeOf_spec, group.sizeOf_spec, emphasis.sizeOf_spec, row.sizeOf_spec,
        other.sizeOf_spec]
      omega
    | noteBox content | cell content =>
      obtain rfl : child = content := List.mem_singleton.1 member
      simp only [noteBox.sizeOf_spec, cell.sizeOf_spec]
      omega
    | _ => exact absurd member List.not_mem_nil

/-- **Induction on children.** What holds of a node as soon as it holds of its children holds of
every node. -/
theorem children_induction {P : Node → Prop}
    (step : ∀ node, (∀ child ∈ node.children, P child) → P node) (node : Node) : P node := by
  have ofChildren : ∀ child ∈ node.children, P child := by
    intro child member
    have smaller := sizeOf_children member
    exact children_induction step child
  exact step node ofChildren
termination_by sizeOf node

/-- The parts of a node are its children, or children of children of its children. -/
lemma mem_parts {node part : Node} (member : part ∈ node.parts) :
    part ∈ node.children
      ∨ ∃ row ∈ node.children, ∃ cell ∈ row.children, part ∈ cell.children := by
  unfold parts at member
  split at member
  next header rows _ isTable =>
    obtain ⟨row, inTable, inRow⟩ := List.mem_flatMap.1 member
    obtain ⟨cell, inCells, inCell⟩ := List.mem_flatMap.1 inRow
    have rowOfNode : row ∈ node.children := by
      rw [← children_unlabelled, isTable]
      exact inTable
    exact .inr ⟨row, rowOfNode, cell, inCells, inCell⟩
  next => exact .inl member

lemma sizeOf_parts {node part : Node} (member : part ∈ node.parts) : sizeOf part < sizeOf node := by
  rcases mem_parts member with child | ⟨row, inTable, cell, inRow, inCell⟩
  · exact sizeOf_children child
  · have ofRow := sizeOf_children inTable
    have ofCell := sizeOf_children inRow
    have ofPart := sizeOf_children inCell
    omega

/-- **Induction on parts.** What holds of a node as soon as it holds of its parts holds of every
node. -/
theorem parts_induction {P : Node → Prop} (step : ∀ node, (∀ part ∈ node.parts, P part) → P node)
    (node : Node) : P node := by
  have ofParts : ∀ part ∈ node.parts, P part := by
    intro part member
    have smaller := sizeOf_parts member
    exact parts_induction step part
  exact step node ofParts
termination_by sizeOf node

/-! ## Recursion on parts -/

section Fold

variable {β : Type}

/-- A value for a node, with the values of its children and those of the children of its
children. -/
structure Layers (β : Type) where
  own : β
  children : List β
  grandchildren : List β

/-- The layers of a node, given those of its children. -/
def Layers.assemble (step : Node → List β → β) (node : Node) (below : List (Layers β)) :
    Layers β where
  own := step node <| match node.kind, node.unlabelled with
    | .table, table .. => below.flatMap (·.grandchildren)
    | _, _ => below.map (·.own)
  children := below.map (·.own)
  grandchildren := below.flatMap (·.children)

/-- **Fold over parts.** The value of a node, computed by `step` from the node and the values of its
parts. -/
def foldParts (step : Node → List β → β) (node : Node) : β :=
  (node.fold (Layers.assemble step)).own

/-- The value of a node comes from the values of its parts. -/
theorem foldParts_eq (step : Node → List β → β) (node : Node) :
    node.foldParts step = step node (node.parts.map (foldParts step)) := by
  -- The cells of a table stand two levels below it, so two levels of values go up with each node.
  have layers (n : Node) : n.fold (Layers.assemble step)
      = Layers.assemble step n (n.children.map (fold (Layers.assemble step))) := fold_eq _ n
  have children (n : Node) : (n.fold (Layers.assemble step)).children
      = n.children.map (foldParts step) := by
    rw [layers n]
    simp [Layers.assemble, foldParts, Function.comp_def]
  have grandchildren (n : Node) : (n.fold (Layers.assemble step)).grandchildren
      = (n.children.flatMap Node.children).map (foldParts step) := by
    rw [layers n]
    simp [Layers.assemble, children, List.flatMap_map, List.map_flatMap]
  rw [foldParts, layers node]
  simp only [Layers.assemble, parts]
  split
  next header rows _ isTable =>
    have children : node.children = header.toList ++ rows := by
      rw [← children_unlabelled, isTable]
      rfl
    simp [children, grandchildren, List.flatMap_map, List.map_flatMap]
  next =>
    rw [List.map_map]
    rfl

end Fold

/-! ## All nodes of a tree -/

/-- The nodes of a tree in document order. -/
def walk (node : Node) : List Node := node.fold fun n children => n :: children.flatten

lemma walk_eq (node : Node) : node.walk = node :: node.children.flatMap walk := by
  rw [walk, fold_eq, ← List.flatMap_def]
  rfl

/-! ## What holds everywhere in a tree -/

/-- Whether something is so of every node of a tree. -/
def every (p : Node → Bool) (node : Node) : Bool :=
  node.fold fun n children => p n && children.all id

/-- It is so everywhere in a tree if it is so of the node itself and everywhere in its children. -/
theorem every_eq (p : Node → Bool) (node : Node) :
    node.every p = (p node && node.children.all (every p)) := by
  rw [every, fold_eq, List.all_map]
  rfl

/-- Something is so everywhere in a tree if it is so of all nodes of a walk. -/
lemma every_eq_all_walk (p : Node → Bool) (tree : Node) : tree.every p = tree.walk.all p := by
  induction tree using children_induction with
  | step tree ofChildren =>
    rw [every_eq, walk_eq, List.all_cons, List.all_flatMap]
    congr 1
    rw [Bool.eq_iff_iff, List.all_eq_true, List.all_eq_true]
    exact forall₂_congr fun child member => by rw [ofChildren child member]

lemma every_self {p : Node → Bool} {node : Node} (everywhere : node.every p = true) :
    p node = true := by
  rw [every_eq, Bool.and_eq_true] at everywhere
  exact everywhere.1

lemma every_children {p : Node → Bool} {node : Node} (everywhere : node.every p = true) :
    ∀ child ∈ node.children, child.every p = true := by
  rw [every_eq, Bool.and_eq_true] at everywhere
  exact List.all_eq_true.1 everywhere.2

lemma every_parts {p : Node → Bool} {node : Node} (everywhere : node.every p = true) :
    ∀ part ∈ node.parts, part.every p = true := by
  intro part member
  rcases mem_parts member with child | ⟨row, inTable, cell, inRow, inCell⟩
  · exact every_children everywhere part child
  · have ofRow := every_children everywhere row inTable
    have ofCell := every_children ofRow cell inRow
    exact every_children ofCell part inCell

/-- Whether a node has a label. -/
def isLabelled : Node → Bool
  | labelled .. => true
  | _ => false

/-- Whether a tree has no labels in it. -/
def labelFree (node : Node) : Bool := node.every (!·.isLabelled)

end Node

/-! ## Visits -/

/-- Whether a dialect has a rule for a kind.  Rows and cells have none: a table writes its own. -/
def Dialect.writes (d : Dialect) : Kind → Bool
  | .row | .cell => false
  | .emphasis | .heading | .noteBox | .table => d.resolver?.isSome
  | .other name => (d.leadIn name).isSome
  | _ => true

/-- Whether a dialect goes on to the parts of a node of some kind. -/
def Dialect.enters (d : Dialect) : Kind → Bool
  | .paragraph | .group => true
  | .emphasis | .noteBox | .table => d.resolver?.isSome
  | .other name => (d.leadIn name).isSome
  | _ => false

/-- **Visited nodes.** The nodes of a tree that a dialect comes to, in document order: each node
before its parts. -/
def Node.visited (d : Dialect) (node : Node) : List Node :=
  node.foldParts fun n parts => n :: if d.enters n.kind then parts.flatten else []

/-- A visit begins with the node itself and goes on to its parts, if the dialect enters it. -/
theorem Node.visited_eq (d : Dialect) (node : Node) :
    node.visited d
      = node :: if d.enters node.kind then node.parts.flatMap (visited d) else [] :=
  foldParts_eq _ node

end DocMarkdown
