import DocMarkdown.Node.Fold
import DocMarkdown.Node.Trim
import DocMarkdown.Renderer.Basic

/-!
# The script of a tree

Each kind has a rule that says what is written for a node, given what is written for its children
(`Renderer.rule`).  `Renderer.script` is the fold of the rules over the tree.

A style is passed down, from a node to its children, and never back up: what is written after a
node does not depend on the style inside it.
-/

namespace DocMarkdown

/-! ## Pieces -/

/-- **Piece.** What a rule can ask of a child: the node, its script in any style, the scripts of
its children run together, and the contents of its children one by one.  A table asks its rows for
the last, which are the contents of their cells. -/
structure Piece where
  node : Node
  script : Style → Script
  content : Style → Script
  cells : List (Style → Script)

namespace Renderer

/-- The scripts of pieces, run together. -/
def joined (pieces : List Piece) (style : Style) : Script := pieces.flatMap (·.script style)

/-! ## Layout -/

/-- The marks in front of a heading.  Markdown's topmost level is the title of the page; levels two
and three look alike, and so do all below. -/
def headingMarks (level : HeadingLevel) : Text :=
  match level.val with
  | 1 => "##".toList
  | 2 => "###".toList
  | 3 => "###".toList
  | _ => "####".toList

/-- A heading, with a blank line before and after. -/
def heading (r : Renderer) (title : Text) (level : HeadingLevel) : Script :=
  [.blankLine, .write (headingMarks level ++ ' ' :: r.dialect.escape title), .endLine, .endLine]

/-- A block quotation, and a blank line after it. -/
def noteBox (content : Script) : Script :=
  [.freshLine, .indented "> ".toList (content ++ [.freshLine]), .endLine]

/-- One line of a table: its cells between bars. -/
def tableLine (cells : List Script) : Script :=
  .write "| ".toList :: cells.flatMap (fun cell => .write [' '] :: cell ++ [.write " |".toList])
    ++ [.endLine]

/-- A table between blank lines.  Markdown asks for a header, so there is one in any case, and it
is as wide as the widest row. -/
def table (header : List Script) (rows : List (List Script)) : Script :=
  let width := ((header :: rows).map List.length).max?.getD 0
  .blankLine :: tableLine (header ++ List.replicate (width - header.length) [])
    ++ tableLine (List.replicate width [.write "---".toList])
    ++ rows.flatMap tableLine ++ [.endLine]

/-! ## Containers -/

/-- A paragraph: inside a table between tags, elsewhere followed by a blank line. -/
def paragraph (style : Style) (content : Script) : Script :=
  if style.inTable then .write "<p>".toList :: content ++ [.write "</p>".toList]
  else content ++ [.freshLine, .endLine]

/-- The piece of a plain text. -/
def textPiece (r : Renderer) (t : Text) : Piece where
  node := .plainText t
  script style := r.plainText style t
  content _ := []
  cells := []

/-- A piece stripped as its node is: `strip` is applied to the text of a plain text. -/
def stripPiece (r : Renderer) (strip : Text → Text) (piece : Piece) : Piece :=
  match piece.node.plain? with
  | some text => r.textPiece (strip text)
  | none => piece

/-- The pieces of a paragraph with its ends trimmed. -/
def trimmed (r : Renderer) (pieces : List Piece) : List Piece :=
  trimEnds (·.node.isBlank) (r.stripPiece Text.trimStart) (r.stripPiece Text.trimEnd) pieces

/-! ## Rules -/

/-- There is no rule for a kind. -/
def unsupported (kind : Kind) : Script := [.fail (.fault (.unsupportedKind kind.name))]

/-- The rules for the kinds of comments.  A node can be of such a kind by its label only and lack
what the rule writes; then it is refused, but groups and paragraphs make do with its children. -/
def commentRule (r : Renderer) (node : Node) (children : List Piece) (style : Style) : Script :=
  match node.kind, node.unlabelled with
  | .plainText, .plainText text | .plainText, .errorText text _
  | .errorText, .plainText text | .errorText, .errorText text _
  | .escapedText, .escapedText text _ => r.plainText style text
  | .softBreak, _ => [.softBreak]
  | .startTag, .startTag tag | .endTag, .startTag tag => [.write tag.html]
  | .startTag, .endTag name | .endTag, .endTag name => [.write (endTagHtml name)]
  | .codeSpan, .codeSpan code | .codeSpan, .fencedCode code _ => r.codeSpan style code
  | .fencedCode, .fencedCode code language => fencedCode code language
  | .link, .link l => r.link style l
  | .paragraph, _ => paragraph style (joined (r.trimmed children) style)
  | .group, _ => joined children style
  | kind, _ => unsupported kind

/-- The rules for the kinds of layout.  Rows and cells have none: a table writes its own.  Here too
a node is refused if it lacks what the rule writes, but a note box makes do with its children. -/
def layoutRule (r : Renderer) (node : Node) (children : List Piece) (style : Style) : Script :=
  match node.kind, node.unlabelled with
  | .emphasis, .emphasis e _ => joined children { style with bold := e.bold, italic := e.italic }
  | .heading, .heading title level => r.heading title level
  | .noteBox, _ => noteBox (joined children style)
  | .table, .table header _ =>
    let inside := { style with inTable := true }
    let cells (piece : Piece) := piece.cells.map fun cell => cell inside
    let headerCount := header.toList.length
    table ((children.take headerCount).flatMap cells) ((children.drop headerCount).map cells)
  | kind, _ => unsupported kind

/-- The rule for kinds of no family: those with a lead-in are written after it. -/
def extensionRule (r : Renderer) (name : String) (children : List Piece) (style : Style) : Script :=
  match r.dialect.leadIn name with
  | some leadIn => r.plainText style leadIn ++ joined children style
  | none => unsupported (.other name)

/-- **Rule.** What is written for a node, given the pieces of its children.  The kinds of layout
are for dialects with pages. -/
def rule (r : Renderer) (node : Node) (children : List Piece) (style : Style) : Script :=
  match node.kind with
  | .other name => r.extensionRule name children style
  | .emphasis | .heading | .noteBox | .table | .cell | .row =>
    if r.dialect.resolver?.isSome then r.layoutRule node children style else unsupported node.kind
  | _ => r.commentRule node children style

/-- The piece of a node, given the pieces of its children. -/
def assemble (r : Renderer) (node : Node) (children : List Piece) : Piece where
  node := node
  script := r.rule node children
  content := joined children
  cells := children.map (·.content)

/-- The piece of a tree. -/
def piece (r : Renderer) (node : Node) : Piece := node.fold r.assemble

/-- **Script of a tree.** What is written for it in a given style. -/
def script (r : Renderer) (style : Style) (node : Node) : Script := (r.piece node).script style

/-- The piece of a tree is assembled from the pieces of its children. -/
theorem piece_eq (r : Renderer) (node : Node) :
    r.piece node = r.assemble node (node.children.map r.piece) :=
  Node.fold_eq _ node

/-- The script of a tree is what its rule makes of the pieces of its children. -/
theorem script_eq (r : Renderer) (style : Style) (node : Node) :
    r.script style node = r.rule node (node.children.map r.piece) style := by
  rw [script, piece_eq]
  rfl

@[simp] theorem node_piece (r : Renderer) (node : Node) : (r.piece node).node = node := by
  rw [piece_eq]
  rfl

theorem joined_map_piece (r : Renderer) (nodes : List Node) (style : Style) :
    joined (nodes.map r.piece) style = nodes.flatMap (r.script style) := by
  simp only [joined, List.flatMap_map]
  rfl

/-- Trimming pieces gives the pieces of the trimmed nodes. -/
theorem trimmed_map_piece (r : Renderer) (nodes : List Node) :
    r.trimmed (nodes.map r.piece) = (Node.trimmed nodes).map r.piece := by
  have strip (f : Text → Text) (node : Node) : r.stripPiece f (r.piece node)
      = r.piece (match node.plain? with | some text => .plainText (f text) | none => node) := by
    simp only [stripPiece, node_piece]
    cases node.plain? <;> rfl
  exact trimEnds_map (fun _ => by simp) (strip _) (strip _) nodes

end Renderer

end DocMarkdown
