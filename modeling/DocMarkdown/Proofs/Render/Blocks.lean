import DocMarkdown.Proofs.Script.View
import DocMarkdown.Renderer.Equations

/-!
# Pages of blocks

Paragraphs, headings, note boxes and tables are blocks: whatever is in one and whatever stands
before it, it ends with a blank line (`Renderer.settles_script`), and a blank line hides what is
above it.  So each block of a page is written as if it stood on a page of its own, and a page of
blocks is what these pages make up together (`Dialect.render_group_of_blocks`).
-/

namespace DocMarkdown

/-! ## Scripts that end lines -/

namespace Script

/-- **Ending a line.** A script ends a line if it does not stop before its end and leaves the next
character at the beginning of a line. -/
def EndsLine (script : Script) : Prop :=
  failures script = [] → ∀ margin written, Typing.atLineStart (script.extend margin written) = true

namespace EndsLine

lemma append (first : Script) {second : Script} (h : EndsLine second) :
    EndsLine (first ++ second) := by
  intro succeeds margin written
  rw [failures_append] at succeeds
  obtain ⟨now, later⟩ := List.append_eq_nil_iff.1 succeeds
  rw [extend_append now]
  exact h later margin _

lemma flatMap {first : Script} (h : EndsLine first) {α : Type} {items : List α} {f : α → Script}
    (each : ∀ item, EndsLine (f item)) : EndsLine (first ++ items.flatMap f) := by
  induction items generalizing first with
  | nil => simpa using h
  | cons item rest ih =>
    rw [List.flatMap_cons, ← List.append_assoc]
    exact ih (append first (each item))

lemma endLine : EndsLine [.endLine] := by
  intro _ margin written
  exact Typing.atLineStart_put '\n'

lemma freshLine : EndsLine [.freshLine] := by
  intro _ margin written
  exact Typing.atLineStart_freshLine

lemma indented (pre : Text) {body : Script} (h : EndsLine body) :
    EndsLine [.indented pre body] := by
  intro succeeds margin written
  have inside : failures body = [] := by simpa using succeeds
  have alone : Directive.failures (.indented pre body) = [] := inside
  rw [extend_cons alone, extend_nil]
  exact h inside (margin ++ pre) written

end EndsLine

/-- **Settling.** A script settles if, behind a text that looks like none, it leaves a text that
looks like none, unless it stops before its end. -/
def Settles (script : Script) : Prop :=
  failures script = [] → ∀ {before}, Typing.SameView before [] →
    Typing.SameView (script.extend [] before) []

/-- One more line feed behind an ended line leaves a blank line. -/
lemma EndsLine.settles {body : Script} (h : EndsLine body) : Settles (body ++ [.endLine]) := by
  intro succeeds before _
  have inside : failures body = [] := by simpa using succeeds
  have ended : extend [] (body ++ [.endLine]) before = extend [] body before ++ ['\n'] := by
    rw [extend_append inside, extend_cons rfl, extend_nil]
    exact Typing.put_nil_margin _ '\n'
  rw [ended]
  exact .blankLine (h inside [] before)

/-- Scripts that settle one by one settle together, and each is run as if nothing was written before
it. -/
lemma extend_flatMap_of_settles {α : Type} {items : List α} {f : α → Script}
    (settle : ∀ item ∈ items, Settles (f item)) (succeed : ∀ item ∈ items, failures (f item) = [])
    {before : Text} (view : Typing.SameView before []) :
    Typing.SameView (extend [] (items.flatMap f) before) []
      ∧ extend [] (items.flatMap f) before
        = before ++ items.flatMap fun item => extend [] (f item) [] := by
  induction items generalizing before with
  | nil => exact ⟨view, (List.append_nil before).symm⟩
  | cons item rest ih =>
    obtain ⟨settlesNow, settleLater⟩ := List.forall_mem_cons.1 settle
    obtain ⟨now, later⟩ := List.forall_mem_cons.1 succeed
    obtain ⟨settled, written⟩ := ih settleLater later (settlesNow now view)
    rw [List.flatMap_cons, extend_append now]
    refine ⟨settled, ?_⟩
    rw [written, extend_of_sameView_nil view, List.flatMap_cons, List.append_assoc]

lemma settles_of_failures {script : Script} (fails : failures script ≠ []) : Settles script := by
  intro succeeds
  exact absurd succeeds fails

end Script

/-! ## Blocks -/

/-- Whether a node is of a kind that makes a block of its own. -/
def Node.isBlock (node : Node) : Bool :=
  node.kind ∈ [Kind.paragraph, .heading, .noteBox, .table]

namespace Renderer

variable {r : Renderer}

lemma settles_heading (title : Text) (level : HeadingLevel) :
    Script.Settles (r.heading title level) := by
  have title : Script.EndsLine
      ([.blankLine, .write (headingMarks level ++ ' ' :: r.dialect.escape title)] ++ [.endLine]) :=
    .append _ .endLine
  exact title.settles

lemma settles_noteBox (content : Script) : Script.Settles (noteBox content) := by
  have quoted : Script.EndsLine
      ([.freshLine] ++ [.indented "> ".toList (content ++ [.freshLine])]) :=
    .append _ (.indented _ (.append _ .freshLine))
  exact quoted.settles

lemma endsLine_tableLine (cells : List Script) : Script.EndsLine (tableLine cells) :=
  .append _ .endLine

lemma settles_table (header : List Script) (rows : List (List Script)) :
    Script.Settles (table header rows) := by
  have top (titles rule : List Script) :
      Script.EndsLine (.blankLine :: tableLine titles ++ tableLine rule) :=
    .append _ (endsLine_tableLine rule)
  have lines (titles rule : List Script) :
      Script.EndsLine
        (.blankLine :: tableLine titles ++ tableLine rule ++ rows.flatMap tableLine) :=
    (top titles rule).flatMap endsLine_tableLine
  exact (lines _ _).settles

lemma settles_paragraph {style : Style} (outside : style.inTable = false) (content : Script) :
    Script.Settles (paragraph style content) := by
  have lines : Script.EndsLine (content ++ [.freshLine]) := .append _ .freshLine
  have cut : paragraph style content = content ++ [.freshLine] ++ [.endLine] := by
    simp [paragraph, outside]
  rw [cut]
  exact lines.settles

lemma settles_unsupported (kind : Kind) : Script.Settles (unsupported kind) :=
  Script.settles_of_failures (List.cons_ne_nil _ _)

/-- Of the kinds of layout only emphasis leaves the page as its children do. -/
lemma settles_layoutRule {node : Node} (noEmphasis : node.kind ≠ .emphasis)
    (children : List Piece) (style : Style) :
    Script.Settles (r.layoutRule node children style) := by
  unfold layoutRule
  split
  next isEmphasis _ => exact absurd isEmphasis noEmphasis
  next => exact settles_heading _ _
  next => exact settles_noteBox _
  next => exact settles_table _ _
  next => exact settles_unsupported _

/-- **Blocks end with a blank line**, outside tables, if they can be written at all. -/
theorem settles_script {node : Node} (block : node.isBlock = true) {style : Style}
    (outside : style.inTable = false) : Script.Settles (r.script style node) := by
  have kinds : node.kind = .paragraph ∨ node.kind = .heading ∨ node.kind = .noteBox
      ∨ node.kind = .table := by
    simpa [Node.isBlock] using block
  rw [script_eq]
  rcases kinds with kind | kind | kind | kind
  · simp only [rule, kind, commentRule]
    exact settles_paragraph outside _
  all_goals
    simp only [rule, kind]
    split
    · exact settles_layoutRule (by simp [kind]) _ _
    · exact settles_unsupported _

end Renderer

/-! ## Pages -/

/-- What an outcome logs apart from notes on its progress. -/
def Outcome.warnings {σ : Type} (o : Outcome σ) : List LogEntry :=
  o.log.filter (·.level = .warning)

namespace Dialect

variable {d : Dialect} {options : Option Options} {strict : Bool}

/-- If the script of a tree settles, the page is what it writes: the last line is ended already. -/
lemma state_render_of_settles (valid : d.strictness options = .ok strict) {tree : Node}
    (succeeds : Script.failures (Renderer.script ⟨d, strict⟩ .plain tree) = [])
    (settled : Typing.SameView (Script.extend [] (Renderer.script ⟨d, strict⟩ .plain tree) []) []) :
    (d.render ⟨tree, options⟩ []).state
      = Script.extend [] (Renderer.script ⟨d, strict⟩ .plain tree) [] := by
  have written : (d.render ⟨tree, options⟩ []).state
      = [] ++ Typing.freshLine [] (Script.extend [] (Renderer.script ⟨d, strict⟩ .plain tree) []) :=
    state_render valid succeeds []
  rw [written, List.nil_append, Typing.freshLine, settled.lineStart]
  rfl

lemma warnings_render (valid : d.strictness options = .ok strict) (tree : Node) :
    (d.render ⟨tree, options⟩ []).warnings
      = (Script.entries (Renderer.script ⟨d, strict⟩ .plain tree)).filter (·.level = .warning) := by
  have logged : (d.render ⟨tree, options⟩ []).log = .started tree.kind
      :: Script.entries (Renderer.script ⟨d, strict⟩ .plain tree) := log_render valid []
  rw [Outcome.warnings, logged]
  rfl

/-! ### Under valid options -/

/-- A page fails with the first failure of its nodes. -/
lemma failure_render_group (valid : d.strictness options = .ok strict) (nodes : List Node) :
    (d.render ⟨.group nodes, options⟩ []).failure
      = (nodes.map fun node => d.render ⟨node, options⟩ []).findSome? Outcome.failure := by
  have each (tree : Node) : (d.render ⟨tree, options⟩ []).failure
      = (Script.failures (Renderer.script ⟨d, strict⟩ .plain tree)).head? :=
    failure_render valid []
  rw [each, Renderer.script_group, Script.failures_flatMap, List.head?_flatMap, List.findSome?_map]
  exact congrArg (nodes.findSome? ·) (funext fun node => (each node).symm)

variable {blocks : List Node}

/-- A page of blocks holds the pages of its blocks. -/
lemma state_render_group (valid : d.strictness options = .ok strict)
    (areBlocks : ∀ block ∈ blocks, block.isBlock = true)
    (succeed : ∀ block ∈ blocks,
      Script.failures (Renderer.script ⟨d, strict⟩ .plain block) = []) :
    (d.render ⟨.group blocks, options⟩ []).state
      = blocks.flatMap fun block => (d.render ⟨block, options⟩ []).state := by
  have settle : ∀ block ∈ blocks,
      Script.Settles (Renderer.script ⟨d, strict⟩ .plain block) := by
    intro block member
    exact Renderer.settles_script (areBlocks block member) rfl
  have whole : Script.failures (Renderer.script ⟨d, strict⟩ .plain (.group blocks)) = [] := by
    rw [Renderer.script_group, Script.failures_flatMap]
    exact List.flatMap_eq_nil_iff.2 succeed
  obtain ⟨settled, written⟩ := Script.extend_flatMap_of_settles settle succeed (.refl [])
  rw [← Renderer.script_group] at settled written
  rw [state_render_of_settles valid whole settled, written, List.nil_append]
  refine List.flatMap_congr fun block member => ?_
  have alone := settle block member (succeed block member) (.refl [])
  exact (state_render_of_settles valid (succeed block member) alone).symm

/-- A page warns of what its nodes warn of. -/
lemma warnings_render_group (valid : d.strictness options = .ok strict) {nodes : List Node}
    (succeed : ∀ node ∈ nodes, Script.failures (Renderer.script ⟨d, strict⟩ .plain node) = []) :
    (d.render ⟨.group nodes, options⟩ []).warnings
      = nodes.flatMap fun node => (d.render ⟨node, options⟩ []).warnings := by
  rw [warnings_render valid, Renderer.script_group, Script.entries_flatMap succeed,
    List.filter_flatMap]
  exact congrArg (nodes.flatMap ·) (funext fun node => (warnings_render valid node).symm)

/-- **A page of blocks is made of the pages of its blocks.**

* It fails with the first failure among those of its blocks, and succeeds if there is none;
* if it succeeds, it is the pages of its blocks, one behind the other, and warns of what they warn
  of, in this order.

Where there are no blocks, the options have to be of the dialect's class for the page to succeed. -/
theorem render_group_of_blocks (d : Dialect) (options : Option Options) {blocks : List Node}
    (areBlocks : ∀ block ∈ blocks, block.isBlock = true)
    (accepted : blocks = [] → (d.strictness options).isOk = true) :
    let page := d.render ⟨.group blocks, options⟩ []
    let single := blocks.map fun block => d.render ⟨block, options⟩ []
    page.failure = single.findSome? Outcome.failure
      ∧ ((∀ outcome ∈ single, outcome.failure = none) →
          page.failure = none ∧ page.state = single.flatMap Outcome.state
            ∧ page.warnings = single.flatMap Outcome.warnings) := by
  intro page single
  cases valid : d.strictness options with
  | error mismatch =>
    have refused (tree : Node) : (d.render ⟨tree, options⟩ []).failure
        = some (.fault (.options mismatch none none)) := by
      simp [render, valid, Outcome.failed]
    cases blocks with
    | nil => simp [valid, Except.isOk, Except.toBool] at accepted
    | cons block rest =>
      constructor
      · simp [page, single, refused]
      · intro succeed
        have never := succeed _ (List.mem_map_of_mem List.mem_cons_self)
        rw [refused] at never
        exact absurd never (Option.some_ne_none _)
  | ok strict =>
    have fails : page.failure = single.findSome? Outcome.failure :=
      failure_render_group valid blocks
    refine ⟨fails, fun succeed => ?_⟩
    have named : ∀ block ∈ blocks,
        Script.failures (Renderer.script ⟨d, strict⟩ .plain block) = [] := by
      intro block member
      exact failures_script_of_render valid (succeed _ (List.mem_map_of_mem member))
    refine ⟨?_, ?_, ?_⟩
    · rw [fails, List.findSome?_eq_none_iff]
      exact succeed
    · rw [List.flatMap_map]
      exact state_render_group valid areBlocks named
    · rw [List.flatMap_map]
      exact warnings_render_group valid named

/-- Blocks that begin with a lone line feed, end in a blank line behind a prefix, and warn. -/
def blocksOfAllKinds : List Node :=
  [.paragraph [.softBreak], .heading "A".toList ⟨1, Nat.zero_lt_one⟩,
    .noteBox (.group [.plainText "b".toList, .heading "C".toList ⟨2, Nat.zero_lt_two⟩]),
    .table none [.row [.cell (.paragraph
      [.link ⟨some ⟨some "pkg".toList, none, [⟨"Widget".toList, none⟩]⟩, none, none⟩])]],
    .paragraph [.softBreak, .emphasis ⟨true, false⟩ [.plainText " d".toList]]]

/-- Their page, as their single pages make it up. -/
theorem render_group_blocksOfAllKinds :
    (∀ block ∈ blocksOfAllKinds, block.isBlock = true)
      ∧ (blocksOfAllKinds = [] → ((page Resolver.empty).strictness none).isOk = true)
      ∧ ((page Resolver.empty).render ⟨.group blocksOfAllKinds, none⟩ []).failure = none
      ∧ ((page Resolver.empty).render ⟨.group blocksOfAllKinds, none⟩ []).state
        = ("\n## A\n\n> b\n> \n> ### C\n> \n\n|   |\n|  --- |\n|  <p></p> |\n\n"
          ++ " <b>d</b>\n\n").toList
      ∧ ((page Resolver.empty).render ⟨.group blocksOfAllKinds, none⟩ []).warnings
        = [.unresolved "pkg#Widget".toList] := by
  have areBlocks : ∀ block ∈ blocksOfAllKinds, block.isBlock = true := by decide
  have accepted : blocksOfAllKinds = [] → ((page Resolver.empty).strictness none).isOk = true :=
    fun _ => rfl
  have succeed : ∀ outcome ∈ blocksOfAllKinds.map fun block =>
      (page Resolver.empty).render ⟨block, none⟩ [], outcome.failure = none := by
    decide
  obtain ⟨failure, state, warnings⟩ :=
    (render_group_of_blocks (page Resolver.empty) none areBlocks accepted).2 succeed
  exact ⟨areBlocks, accepted, failure, state.trans (by decide), warnings.trans (by decide)⟩

end Dialect

end DocMarkdown
