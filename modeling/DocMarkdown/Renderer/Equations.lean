import DocMarkdown.Renderer.Rule

/-!
# What is written, node by node

The equations of `Renderer.script`, one for each kind of node.  They say all there is to know about
the rules, so that nothing else has to look at pieces.  Containers have theirs for any node of their
kind, also for one that is of that kind by its label (`Renderer.script_of_group` and its like).

## Main statements

* `Renderer.script_group`, `Renderer.script_paragraph`, `Renderer.script_emphasis`: containers write
  their children one after the other, a paragraph after trimming and emphasis in its own style;
* `Renderer.script_table`: a table writes the contents of its cells, in the style inside a table;
* `Renderer.script_of_leaf`: any other node has a script of its own, whatever its children are;
* `Renderer.script_eq_unsupported`: a dialect without pages has no rule for layout.
-/

namespace DocMarkdown

/-- The label of a link to a known declaration: its own text, or the target's name if it has none
or an empty one. -/
def Link.label (l : Link) (target : Target) : Text :=
  match l.text.getD [] with
  | [] => target.scopedName
  | text => text

namespace Renderer

/-! ## Families -/

/-- The rule of a node is that of its family: the lead-in of an unknown kind, the layout of a page
if there are pages, or a part of a comment. -/
theorem rule_cases (r : Renderer) (node : Node) (children : List Piece) (style : Style) :
    (∃ name, r.rule node children style = r.extensionRule name children style)
      ∨ (r.rule node children style = if r.dialect.resolver?.isSome then
          r.layoutRule node children style else unsupported node.kind)
      ∨ r.rule node children style = r.commentRule node children style := by
  unfold rule
  split
  next name _ => exact .inl ⟨name, rfl⟩
  all_goals simp

/-- Of the kinds of comments, only paragraphs and groups write their children. -/
theorem commentRule_congr (r : Renderer) {node : Node} (noParagraph : node.kind ≠ .paragraph)
    (noGroup : node.kind ≠ .group) (children children' : List Piece) (style : Style) :
    r.commentRule node children style = r.commentRule node children' style := by
  unfold commentRule
  split <;> simp_all

/-- Of the kinds of layout, only emphasis, note boxes and tables write their children, the first and
the last if the node is made for it. -/
theorem layoutRule_congr (r : Renderer) {node : Node}
    (noEmphasis : ∀ e nodes, node.kind = .emphasis → node.unlabelled ≠ .emphasis e nodes)
    (noNoteBox : node.kind ≠ .noteBox)
    (noTable : ∀ header rows, node.kind = .table → node.unlabelled ≠ .table header rows)
    (children children' : List Piece) (style : Style) :
    r.layoutRule node children style = r.layoutRule node children' style := by
  unfold layoutRule
  split <;> simp_all

/-! ## Leaves -/

/-- A leaf is written by its rule alone, and so is a node whose label makes a leaf of it. -/
theorem script_of_leaf (r : Renderer) {node : Node} (noParagraph : node.kind ≠ .paragraph)
    (noGroup : node.kind ≠ .group) (noOther : ∀ name, node.kind ≠ .other name)
    (noEmphasis : ∀ e nodes, node.kind = .emphasis → node.unlabelled ≠ .emphasis e nodes)
    (noNoteBox : node.kind ≠ .noteBox)
    (noTable : ∀ header rows, node.kind = .table → node.unlabelled ≠ .table header rows)
    (style : Style) :
    r.script style node = r.rule node [] style := by
  have comment := r.commentRule_congr noParagraph noGroup (node.children.map r.piece) [] style
  have layout := r.layoutRule_congr noEmphasis noNoteBox noTable (node.children.map r.piece) []
    style
  rw [script_eq]
  unfold rule
  split
  next name kind => exact absurd kind (noOther name)
  all_goals simp only [*]

theorem script_plainText (r : Renderer) (style : Style) (t : Text) :
    r.script style (.plainText t) = r.plainText style t := rfl

theorem script_escapedText (r : Renderer) (style : Style) (decoded encoded : Text) :
    r.script style (.escapedText decoded encoded) = r.plainText style decoded := rfl

theorem script_errorText (r : Renderer) (style : Style) (t : Text) (diagnostic : Option Text) :
    r.script style (.errorText t diagnostic) = r.plainText style t := rfl

theorem script_softBreak (r : Renderer) (style : Style) :
    r.script style .softBreak = [.softBreak] := rfl

theorem script_startTag (r : Renderer) (style : Style) (tag : StartTag) :
    r.script style (.startTag tag) = [.write tag.html] := rfl

theorem script_endTag (r : Renderer) (style : Style) (name : Text) :
    r.script style (.endTag name) = [.write (endTagHtml name)] := rfl

theorem script_codeSpan (r : Renderer) (style : Style) (code : Text) :
    r.script style (.codeSpan code) = r.codeSpan style code := rfl

theorem script_fencedCode (r : Renderer) (style : Style) (code language : Text) :
    r.script style (.fencedCode code language) = fencedCode code language := rfl

theorem script_link (r : Renderer) (style : Style) (l : Link) :
    r.script style (.link l) = r.link style l := rfl

/-- A node that is a link by its kind and by what it is made of is written as that link. -/
theorem script_of_link {node : Node} (kind : node.kind = .link) {l : Link}
    (isLink : node.unlabelled = .link l) (r : Renderer) (style : Style) :
    r.script style node = r.link style l := by
  rw [script_eq]
  simp only [rule, commentRule, kind, isLink]

/-- What is written for a link to a known declaration depends on the label and the address alone. -/
theorem resolvedLink_eq (r : Renderer) (l : Link) (reference : Reference) (target : Target) :
    r.resolvedLink l reference target = if (l.label target).isEmpty
      then [.log (.unlabelled reference.tsdoc)] else r.markdownLink (l.label target) target.url :=
  rfl

/-! ## Containers of comments -/

/-- A group writes its children one after the other. -/
theorem script_of_group {node : Node} (kind : node.kind = .group) (r : Renderer) (style : Style) :
    r.script style node = node.children.flatMap (r.script style) := by
  rw [script_eq, ← joined_map_piece]
  simp only [rule, commentRule, kind]

theorem script_group (r : Renderer) (style : Style) (nodes : List Node) :
    r.script style (.group nodes) = nodes.flatMap (r.script style) :=
  script_of_group rfl r style

/-- A paragraph writes its trimmed children one after the other. -/
theorem script_of_paragraph {node : Node} (kind : node.kind = .paragraph) (r : Renderer)
    (style : Style) :
    r.script style node
      = paragraph style ((Node.trimmed node.children).flatMap (r.script style)) := by
  rw [script_eq, ← joined_map_piece, ← trimmed_map_piece]
  simp only [rule, commentRule, kind]

theorem script_paragraph (r : Renderer) (style : Style) (nodes : List Node) :
    r.script style (.paragraph nodes)
      = paragraph style ((Node.trimmed nodes).flatMap (r.script style)) :=
  script_of_paragraph rfl r style

/-- A node of a kind of no family is written after the lead-in of its kind, if there is one. -/
theorem script_of_other {node : Node} {name : String} (kind : node.kind = .other name)
    (r : Renderer) (style : Style) :
    r.script style node = match r.dialect.leadIn name with
      | some leadIn => r.plainText style leadIn ++ node.children.flatMap (r.script style)
      | none => unsupported (.other name) := by
  rw [script_eq, ← joined_map_piece]
  cases leadIn : r.dialect.leadIn name <;> simp only [rule, extensionRule, kind, leadIn]

theorem script_other (r : Renderer) (style : Style) (name : String) (nodes : List Node) :
    r.script style (.other name nodes) = match r.dialect.leadIn name with
      | some leadIn => r.plainText style leadIn ++ nodes.flatMap (r.script style)
      | none => unsupported (.other name) :=
  script_of_other rfl r style

/-! ## Layout -/

/-- A dialect without pages has no rule for the kinds of layout. -/
theorem script_eq_unsupported {r : Renderer} (noPages : r.dialect.resolver? = none) {node : Node}
    (layout : node.kind ∈ Kind.Family.layout.members) (style : Style) :
    r.script style node = unsupported node.kind := by
  rw [script_eq]
  simp only [Kind.Family.members, List.mem_cons, List.not_mem_nil, or_false] at layout
  rcases layout with h | h | h | h | h | h <;> simp [rule, h, noPages]

/-- Emphasis writes its children in its own style, whatever the style around it. -/
theorem script_of_emphasis {r : Renderer} (pages : r.dialect.resolver?.isSome = true) {node : Node}
    (kind : node.kind = .emphasis) {e : Emphasis} {nodes : List Node}
    (isEmphasis : node.unlabelled = .emphasis e nodes) (style : Style) :
    r.script style node
      = node.children.flatMap (r.script { style with bold := e.bold, italic := e.italic }) := by
  rw [script_eq, ← joined_map_piece]
  simp only [rule, layoutRule, kind, isEmphasis, pages, if_true]

theorem script_emphasis {r : Renderer} (pages : r.dialect.resolver?.isSome = true) (style : Style)
    (e : Emphasis) (nodes : List Node) :
    r.script style (.emphasis e nodes)
      = nodes.flatMap (r.script { style with bold := e.bold, italic := e.italic }) :=
  script_of_emphasis pages rfl rfl style

theorem script_heading {r : Renderer} (pages : r.dialect.resolver?.isSome = true) (style : Style)
    (title : Text) (level : HeadingLevel) :
    r.script style (.heading title level) = r.heading title level := by
  rw [script_eq]
  simp [rule, layoutRule, Node.kind, Node.unlabelled, pages]

theorem script_of_noteBox {r : Renderer} (pages : r.dialect.resolver?.isSome = true) {node : Node}
    (kind : node.kind = .noteBox) (style : Style) :
    r.script style node = noteBox (node.children.flatMap (r.script style)) := by
  rw [script_eq, ← joined_map_piece]
  simp only [rule, layoutRule, kind, pages, if_true]

theorem script_noteBox {r : Renderer} (pages : r.dialect.resolver?.isSome = true) (style : Style)
    (content : Node) :
    r.script style (.noteBox content) = noteBox (r.script style content) := by
  rw [script_of_noteBox pages rfl, Node.children, List.flatMap_singleton]

/-- The scripts of the cells of a row, in the style inside a table. -/
def cellScripts (r : Renderer) (style : Style) (row : Node) : List Script :=
  row.children.map fun cell => cell.children.flatMap (r.script { style with inTable := true })

/-- The cells of the piece of a row are the contents of its cells. -/
theorem cells_piece (r : Renderer) (style : Style) (row : Node) :
    (r.piece row).cells.map (fun cell => cell { style with inTable := true })
      = r.cellScripts style row := by
  have content (cell : Node) (inside : Style) :
      (r.piece cell).content inside = cell.children.flatMap (r.script inside) := by
    rw [piece_eq]
    exact joined_map_piece r _ inside
  rw [piece_eq]
  simp [assemble, content, cellScripts]

/-- A table writes the cells of its header and of its rows. -/
theorem script_of_table {r : Renderer} (pages : r.dialect.resolver?.isSome = true) {node : Node}
    (kind : node.kind = .table) {header : Option Node} {rows : List Node}
    (isTable : node.unlabelled = .table header rows) (style : Style) :
    r.script style node
      = table (header.toList.flatMap (r.cellScripts style)) (rows.map (r.cellScripts style)) := by
  have children : node.children = header.toList ++ rows := by
    rw [← Node.children_unlabelled, isTable]
    rfl
  rw [script_eq]
  simp only [rule, layoutRule, kind, isTable, children, pages, if_true]
  cases header <;> simp [cells_piece, Function.comp_def]

theorem script_table {r : Renderer} (pages : r.dialect.resolver?.isSome = true) (style : Style)
    (header : Option Node) (rows : List Node) :
    r.script style (.table header rows)
      = table (header.toList.flatMap (r.cellScripts style)) (rows.map (r.cellScripts style)) :=
  script_of_table pages rfl rfl style

/-- Rows and cells that stand outside a table have no rule. -/
theorem script_row {r : Renderer} (style : Style) (cells : List Node) :
    r.script style (.row cells) = unsupported .row := by
  rw [script_eq]
  simp [rule, layoutRule, Node.kind]

theorem script_cell {r : Renderer} (style : Style) (content : Node) :
    r.script style (.cell content) = unsupported .cell := by
  rw [script_eq]
  simp [rule, layoutRule, Node.kind]

end Renderer

end DocMarkdown
