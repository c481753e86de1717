import DocMarkdown.Proofs.Node.Trimming
import DocMarkdown.Proofs.Render.Faults
import DocMarkdown.Proofs.Script.Quotation

/-!
# Note boxes quote

The page of a note box is the page of its content, quoted line by line
(`Dialect.render_noteBox_eq_quoted`).  Headings and tables look for a blank line above them, and
behind the prefix of a note box there is none that they would know as blank; all other nodes write
scripts that can be quoted (`Renderer.isQuotable_script`).
-/

namespace DocMarkdown

/-- Whether a node is written as a heading or as a table. -/
def Node.isHeadingOrTable (node : Node) : Bool :=
  match node.kind, node.unlabelled with
  | .heading, .heading .. | .table, .table .. => true
  | _, _ => false

namespace Renderer

variable {r : Renderer}

/-! ## Leaves -/

@[simp] lemma isQuotable_plainText (r : Renderer) (style : Style) (t : Text) :
    Script.isQuotable (r.plainText style t) = true := by
  by_cases blank : (Text.surround t).core = []
  · rw [plainText_of_blank blank]
    rfl
  · rw [plainText_of_core blank]
    rfl

@[simp] lemma isQuotable_linkText (r : Renderer) (style : Style) (l : Link) :
    Script.isQuotable (r.linkText style l) = true := by
  unfold linkText
  split <;> simp

@[simp] lemma isQuotable_declarationLink (r : Renderer) (style : Style) (l : Link) :
    Script.isQuotable (r.declarationLink style l) = true := by
  unfold declarationLink
  split
  next => rfl
  next => rfl
  next => rfl
  next =>
    split
    · unfold resolvedLink
      split
      all_goals dsimp only
      all_goals split <;> rfl
    · unfold unresolvedLink
      split <;> simp

@[simp] lemma isQuotable_link (r : Renderer) (style : Style) (l : Link) :
    Script.isQuotable (r.link style l) = true := by
  unfold link
  split
  · simp
  · split
    · simp
    · rfl

/-! ## Trees -/

lemma isQuotable_paragraph {style : Style} {content : Script}
    (quotable : Script.isQuotable content = true) :
    Script.isQuotable (paragraph style content) = true := by
  unfold paragraph
  split <;> simp [quotable]

lemma isQuotable_noteBox {content : Script} (quotable : Script.isQuotable content = true) :
    Script.isQuotable (noteBox content) = true := by
  simp [noteBox, quotable]

section Rules

variable {node : Node}
  (each : ∀ child ∈ node.children, ∀ style, Script.isQuotable (r.script style child) = true)

include each

lemma isQuotable_joined (style : Style) :
    Script.isQuotable (joined (node.children.map r.piece) style) = true := by
  rw [joined_map_piece]
  exact Script.isQuotable_flatMap fun child member => each child member style

lemma isQuotable_joined_trimmed (style : Style) :
    Script.isQuotable (joined (r.trimmed (node.children.map r.piece)) style) = true := by
  rw [trimmed_map_piece, joined_map_piece]
  apply Script.isQuotable_flatMap
  intro child member
  rcases Node.mem_trimmed member with inNode | ⟨t, rfl⟩
  · exact each child inNode style
  · exact isQuotable_plainText r style t

lemma isQuotable_commentRule (style : Style) :
    Script.isQuotable (r.commentRule node (node.children.map r.piece) style) = true := by
  by_cases isParagraph : node.kind = .paragraph
  · simp only [commentRule, isParagraph]
    exact isQuotable_paragraph (isQuotable_joined_trimmed each style)
  by_cases isGroup : node.kind = .group
  · simp only [commentRule, isGroup]
    exact isQuotable_joined each style
  -- The other kinds of comments are leaves.
  · unfold commentRule
    split <;> simp_all [codeSpan, fencedCode, unsupported]

lemma isQuotable_layoutRule (flat : node.isHeadingOrTable = false) (style : Style) :
    Script.isQuotable (r.layoutRule node (node.children.map r.piece) style) = true := by
  unfold layoutRule
  split
  next => exact isQuotable_joined each _
  next title level isHeading isTitle => simp [Node.isHeadingOrTable, isHeading, isTitle] at flat
  next => exact isQuotable_noteBox (isQuotable_joined each style)
  next header rows isTable hasRows => simp [Node.isHeadingOrTable, isTable, hasRows] at flat
  next => rfl

/-- What is written for a node can be quoted, if that for its children can. -/
lemma isQuotable_script_of_children (flat : node.isHeadingOrTable = false) (style : Style) :
    Script.isQuotable (r.script style node) = true := by
  rw [script_eq]
  rcases r.rule_cases node (node.children.map r.piece) style with
    ⟨name, written⟩ | written | written
  · rw [written, extensionRule]
    split
    · simp [isQuotable_joined each]
    · rfl
  · rw [written]
    split
    · exact isQuotable_layoutRule each flat style
    · rfl
  · rw [written]
    exact isQuotable_commentRule each style

end Rules

/-- **Whatever has no heading and no table in it can be quoted.** -/
theorem isQuotable_script (r : Renderer) {tree : Node}
    (flat : tree.every (!·.isHeadingOrTable) = true) (style : Style) :
    Script.isQuotable (r.script style tree) = true := by
  induction tree using Node.parts_induction generalizing style with
  | step node ih =>
    have noTable : node.isHeadingOrTable = false := by simpa using Node.every_self flat
    -- Only a table has parts that are not its children.
    have partsEq : node.parts = node.children := by
      unfold Node.parts
      split
      next header rows isTable hasRows =>
        simp [Node.isHeadingOrTable, isTable, hasRows] at noTable
      next => rfl
    refine isQuotable_script_of_children ?_ noTable style
    intro child member style
    have part : child ∈ node.parts := by rwa [partsEq]
    exact ih child part (Node.every_parts flat child part) style

/-- **What a note box writes** is the quotation of what its content writes, with the last line of it
ended, and a blank line. -/
lemma extend_noteBox {content : Script} (quotable : Script.isQuotable content = true)
    (succeeds : Script.failures content = []) :
    Script.extend [] (noteBox content) []
      = Typing.quote "> ".toList (Typing.freshLine [] (Script.extend [] content []))
        ++ ['\n'] := by
  have wholeQuotable : Script.isQuotable (content ++ [.freshLine]) = true := by simp [quotable]
  have inside : Directive.failures (.indented "> ".toList (content ++ [.freshLine])) = [] := by
    simp [succeeds]
  have ended : Script.extend [] (content ++ [.freshLine]) []
      = Typing.freshLine [] (Script.extend [] content []) := by
    rw [Script.extend_append succeeds]
    rfl
  have quoted : Script.extend ("> ".toList ++ []) (content ++ [.freshLine])
      (Typing.quote "> ".toList [])
        = Typing.quote "> ".toList (Typing.freshLine [] (Script.extend [] content [])) := by
    rw [Script.extend_quote List.not_mem_nil wholeQuotable, ended]
  rw [noteBox, Script.extend_cons rfl, Script.extend_cons inside, Script.extend_cons rfl,
    Script.extend_nil, ← quoted]
  exact Typing.put_nil_margin _ '\n'

end Renderer

/-! ## Renderings -/

namespace Dialect

variable {options : Option Options} {strict : Bool}

/-- A note box fails as its content does. -/
lemma failure_render_noteBox (resolver : Reference → Option Target) (content : Node)
    (options : Option Options) :
    ((page resolver).render ⟨.noteBox content, options⟩ []).failure
      = ((page resolver).render ⟨content, options⟩ []).failure := by
  cases valid : (page resolver).strictness options with
  | error mismatch => simp [render, valid, Outcome.failed]
  | ok strict =>
    have each (tree : Node) : ((page resolver).render ⟨tree, options⟩ []).failure
        = (Script.failures (Renderer.script ⟨page resolver, strict⟩ .plain tree)).head? :=
      failure_render valid []
    rw [each, each, Renderer.script_noteBox rfl]
    simp [Renderer.noteBox]

/-- **Note boxes quote.**  The note box around content without headings and tables fails as the
content does; and if it succeeds, its page has the lines of the content's page, blank lines as well,
each behind an angle bracket and a space, and then a blank line. -/
theorem render_noteBox_eq_quoted (resolver : Reference → Option Target) {content : Node}
    (flat : content.every (!·.isHeadingOrTable) = true) (options : Option Options) :
    let plain := (page resolver).render ⟨content, options⟩ []
    let box := (page resolver).render ⟨.noteBox content, options⟩ []
    box.failure = plain.failure
      ∧ (plain.failure = none → ∃ lines : List Text, (∀ line ∈ lines, '\n' ∉ line)
          ∧ plain.state = lines.flatMap (· ++ ['\n'])
          ∧ box.state = lines.flatMap ("> ".toList ++ · ++ ['\n']) ++ ['\n']) := by
  intro plain box
  refine ⟨failure_render_noteBox resolver content options, fun succeeds => ?_⟩
  cases valid : (page resolver).strictness options with
  | error mismatch => simp [plain, render, valid, Outcome.failed] at succeeds
  | ok strict =>
    have succeedsBox : box.failure = none :=
      (failure_render_noteBox resolver content options).trans succeeds
    have named : Script.failures (Renderer.script ⟨page resolver, strict⟩ .plain content) = [] :=
      failures_script_of_render valid succeeds
    have quotable := Renderer.isQuotable_script ⟨page resolver, strict⟩ flat .plain
    have ofPlain : plain.state = Typing.freshLine [] (Script.extend []
        (Renderer.script ⟨page resolver, strict⟩ .plain content) []) :=
      state_render valid named []
    have ofBox : box.state = Typing.freshLine [] (Script.extend []
        (Renderer.script ⟨page resolver, strict⟩ .plain (.noteBox content)) []) :=
      state_render valid (failures_script_of_render valid succeedsBox) []
    have quoted : box.state = Typing.quote "> ".toList plain.state ++ ['\n'] := by
      rw [ofBox, Renderer.script_noteBox rfl, Renderer.extend_noteBox quotable named, ← ofPlain,
        Typing.freshLine, Typing.atLineStart_append_singleton]
      rfl
    have ended : Typing.atLineStart plain.state = true := by
      rw [ofPlain, Typing.atLineStart_freshLine]
    obtain ⟨lines, noFeed, ofLines⟩ := Text.exists_lines ended
    refine ⟨lines, noFeed, ofLines, ?_⟩
    rw [quoted, ofLines, Typing.quote_lines noFeed]

/-- Content with a blank line in a code block, a line break in emphasis, and a note box in it. -/
def contentOfManyLines : Node :=
  .group [.emphasis ⟨true, false⟩ [.plainText "a\nb".toList],
    .fencedCode "c\n\nd".toList "lean".toList,
    .noteBox (.paragraph [.softBreak, .codeSpan "e\nf".toList, .plainText " ".toList])]

/-- The prefix of the inner note box stands behind that of the outer one, also on a blank line. -/
theorem render_noteBox_contentOfManyLines :
    contentOfManyLines.every (!·.isHeadingOrTable) = true
      ∧ ((page Resolver.empty).render ⟨contentOfManyLines, none⟩ []).failure = none
      ∧ ((page Resolver.empty).render ⟨.noteBox contentOfManyLines, none⟩ []).failure = none
      ∧ ((page Resolver.empty).render ⟨.noteBox contentOfManyLines, none⟩ []).state
        = ("> <b>a\n> b</b>\n> ```lean\n> c\n> \n> d\n> ```\n> > `e\n> > f`\n> > \n> \n\n").toList
      ∧ ∃ lines : List Text, (∀ line ∈ lines, '\n' ∉ line)
        ∧ ((page Resolver.empty).render ⟨contentOfManyLines, none⟩ []).state
          = lines.flatMap (· ++ ['\n'])
        ∧ ((page Resolver.empty).render ⟨.noteBox contentOfManyLines, none⟩ []).state
          = lines.flatMap ("> ".toList ++ · ++ ['\n']) ++ ['\n'] := by
  have flat : contentOfManyLines.every (!·.isHeadingOrTable) = true := by decide
  have succeeds : ((page Resolver.empty).render ⟨contentOfManyLines, none⟩ []).failure = none := by
    decide
  obtain ⟨failure, quoted⟩ := render_noteBox_eq_quoted Resolver.empty flat none
  exact ⟨flat, succeeds, failure.trans succeeds, by decide, quoted succeeds⟩

end Dialect

end DocMarkdown
