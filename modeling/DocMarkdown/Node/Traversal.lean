import DocMarkdown.Node.Fold

/-!
# Listing a tree

Two readings of a tree that need nothing but kinds, children and each node's own text:

* `Node.outline`: the kinds, arranged as the tree is, with the number of columns of each table;
* `Node.transcript`: the texts of the tree, in document order.
-/

namespace DocMarkdown

/-! ## Outlines -/

/-- **Outline.** The kind of a node, its number of columns if it is a table, and the outlines of
its children. -/
inductive Outline where
  | mk (kind : Kind) (columns : Option Nat) (children : List Outline)
  deriving Repr

namespace Node

/-- The number of columns of a table; no other node has one. -/
def columns? (node : Node) : Option Nat :=
  match node.unlabelled with
  | table header rows => some (columnCount header rows)
  | _ => none

/-- The outline of a tree. -/
def outline (node : Node) : Outline :=
  node.fold fun n children => .mk n.kind n.columns? children

/-- An outline has the shape of its tree. -/
theorem outline_eq (node : Node) :
    node.outline = .mk node.kind node.columns? (node.children.map outline) :=
  fold_eq _ node

/-! ## Transcripts -/

/-- The text that a node holds itself, its children aside. -/
def ownText (node : Node) : Option Text :=
  match node.unlabelled with
  | plainText text | errorText text _ => some text
  | escapedText decoded _ => some decoded
  | codeSpan code | fencedCode code _ => some code
  | link l => l.text
  | startTag tag => some tag.html
  | endTag name => some (endTagHtml name)
  | _ => none

/-- The text that a transcript gives for a node.  The kind decides: a soft break has the name of its
kind for a text, groups and paragraphs have none, and all others have the node's own. -/
def recordedText (node : Node) : Option Text :=
  match node.kind with
  | .softBreak => some Kind.softBreak.name.toList
  | .group | .paragraph => none
  | _ => node.ownText

/-- What a transcript records of a node, if its kind is recorded. -/
def entry? (node : Node) : Option (Kind × Option Text) :=
  if node.kind ∈ Kind.Family.comment.members then some (node.kind, node.recordedText) else none

/-- Whether a transcript goes on to the children of a node of some kind.  The kinds of a comment
are leaves, groups and paragraphs apart. -/
def descends (kind : Kind) : Bool :=
  kind ∉ Kind.Family.comment.members || kind == .group || kind == .paragraph

/-- **Transcript.** The kinds and texts of a tree, in document order. -/
def transcript (node : Node) : List (Kind × Option Text) :=
  node.fold fun n children =>
    n.entry?.toList ++ if descends n.kind then children.flatten else []

/-- A transcript begins with the node itself and goes on with its children, in order. -/
theorem transcript_eq (node : Node) :
    node.transcript = node.entry?.toList
      ++ if descends node.kind then (node.children.map transcript).flatten else [] :=
  fold_eq _ node

end Node

end DocMarkdown
