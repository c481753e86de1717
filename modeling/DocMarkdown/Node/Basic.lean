import DocMarkdown.Fault
import DocMarkdown.Reference
import DocMarkdown.Tag

/-!
# Nodes

A documentation tree is a `Node`: text, markup and links that a comment is made of, the groups and
paragraphs that hold them, and the layout that a page puts around them.  The rows of a table and
the cells of a row are nodes too, for a producer may put them anywhere; a table takes the children
of its rows for cells.

## Labels

`Node.labelled` gives a node another kind.  Whoever asks for the kind sees the label
(`Node.kind`); whoever asks what the node is made of sees through it (`Node.unlabelled`,
`Node.children`).

## Main definitions

* `HeadingLevel.ofInt`: a heading level is a positive number, any other is malformed;
* `Node.kind`, `Node.children`, `Node.columnCount`.
-/

namespace DocMarkdown

/-! ## Parts -/

/-- **Link.** A link with its destinations, at most one of which is expected, and its text. -/
structure Link where
  declaration : Option Reference
  url : Option Text
  text : Option Text
  deriving DecidableEq, Repr

/-- Whether text is shown bold, and whether it is shown italic. -/
structure Emphasis where
  bold : Bool
  italic : Bool
  deriving DecidableEq, Repr

/-- The level of a heading; one is the topmost level below the title of the page. -/
structure HeadingLevel where
  val : Nat
  pos : 0 < val
  deriving DecidableEq, Repr

/-- The heading level of a given number, which is malformed unless it is positive. -/
def HeadingLevel.ofInt (level : Int) : Except Malformed HeadingLevel :=
  if h : 0 < level.toNat then .ok ⟨level.toNat, h⟩ else .error (.headingLevel level)

/-- A number is a heading level exactly when it is positive. -/
theorem HeadingLevel.ofInt_eq_error_iff (level : Int) :
    ofInt level = .error (.headingLevel level) ↔ level < 1 := by
  unfold ofInt
  split <;> simp <;> omega

/-! ## Nodes -/

/-- **Node.** A documentation tree. -/
inductive Node where
  | plainText (text : Text)
  | escapedText (decoded encoded : Text)
  | errorText (text : Text) (diagnostic : Option Text)
  | softBreak
  | startTag (tag : StartTag)
  | endTag (name : Text)
  | codeSpan (code : Text)
  | fencedCode (code language : Text)
  | link (link : Link)
  | paragraph (nodes : List Node)
  | group (nodes : List Node)
  | emphasis (emphasis : Emphasis) (nodes : List Node)
  | heading (title : Text) (level : HeadingLevel)
  | noteBox (content : Node)
  | table (header : Option Node) (rows : List Node)
  | row (cells : List Node)
  | cell (content : Node)
  | other (name : String) (nodes : List Node)
  | labelled (kind : Kind) (node : Node)
  deriving Repr

namespace Node

/-- The kind of a node; that of a labelled node is its label. -/
def kind : Node → Kind
  | plainText _ => .plainText
  | escapedText .. => .escapedText
  | errorText .. => .errorText
  | softBreak => .softBreak
  | startTag _ => .startTag
  | endTag _ => .endTag
  | codeSpan _ => .codeSpan
  | fencedCode .. => .fencedCode
  | link _ => .link
  | paragraph _ => .paragraph
  | group _ => .group
  | emphasis .. => .emphasis
  | heading .. => .heading
  | noteBox _ => .noteBox
  | table .. => .table
  | row _ => .row
  | cell _ => .cell
  | other name _ => .other name
  | labelled kind _ => kind

/-- The node under all labels. -/
def unlabelled : Node → Node
  | labelled _ node => node.unlabelled
  | node => node

/-- The children of a node, in order; a table's header stands before its rows. -/
def children : Node → List Node
  | paragraph nodes | group nodes | emphasis _ nodes | row nodes | other _ nodes => nodes
  | noteBox content | cell content => [content]
  | table header rows => header.toList ++ rows
  | labelled _ node => node.children
  | _ => []

/-- Labels do not change the children. -/
theorem children_unlabelled (node : Node) : node.unlabelled.children = node.children := by
  induction node using unlabelled.induct with
  | case1 _ node ih => simpa [unlabelled, children] using ih
  | case2 node h => rw [unlabelled.eq_2 node h]

/-- The number of columns of a table: the cells of its widest row, the header included. -/
def columnCount (header : Option Node) (rows : List Node) : Nat :=
  ((header.toList ++ rows).map fun row => row.children.length).max?.getD 0

end Node

end DocMarkdown
