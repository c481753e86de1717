import DocMarkdown.Proofs.Render.Table
import DocMarkdown.Proofs.Text.Line

/-!
# Tables keep their lines

Text, code, tags and links can stand in the cells of a table, in groups, paragraphs and emphasis of
any depth.  As long as their strings have no line feed in them, none is written for them: labels are
squeezed, and the line breaks of code, of which there may be any, are replaced.  So each row takes
one line (`Dialect.render_table_eq_lines`).
-/

namespace DocMarkdown

/-! ## Cells of one line -/

/-- Whether a node is of a kind that can stand on one line, and has no line feed in its strings.
Code may have any. -/
def Node.isOneLine : Node → Bool
  | plainText t | escapedText t _ | errorText t _ => '\n' ∉ t
  | startTag tag => tag.isOneLine
  | endTag name => '\n' ∉ name
  | link l => '\n' ∉ l.text.getD [] && '\n' ∉ l.url.getD []
  | softBreak | codeSpan _ | group _ | paragraph _ | emphasis .. => true
  | _ => false

lemma Node.isOneLine_plainText {t : Text} :
    (Node.plainText t).isOneLine = true ↔ '\n' ∉ t := by
  simp [isOneLine]

lemma Node.isLabelled_of_isOneLine {node : Node} (oneLine : node.isOneLine = true) :
    node.isLabelled = false := by
  cases node with
  | labelled kind node => exact absurd oneLine Bool.false_ne_true
  | _ => rfl

namespace Renderer

variable {resolver : Reference → Option Target} {strict : Bool}

lemma appends_plainText_of_oneLine (style : Style) {t : Text} (noFeed : '\n' ∉ t) :
    Script.Appends ('\n' ∉ ·) (plainText ⟨.page resolver, strict⟩ style t) := by
  obtain ⟨lead, core, trail⟩ := Text.lineFeed_not_mem_surround noFeed
  exact appends_plainText Text.composable_lineFeed_not_mem rfl style
    (Text.lineFeed_not_mem_dropReturns lead)
    (Text.lineFeed_not_mem_dropReturns (Text.lineFeed_not_mem_escape core))
    (Text.lineFeed_not_mem_dropReturns trail)

lemma appends_linkText (style : Style) {l : Link} (noFeed : '\n' ∉ l.text.getD []) :
    Script.Appends ('\n' ∉ ·) (linkText ⟨.page resolver, strict⟩ style l) := by
  unfold linkText
  split
  · exact .nil Text.composable_lineFeed_not_mem
  · exact appends_plainText_of_oneLine style noFeed

/-- A label is squeezed, so that only the address has to be of one line. -/
lemma appends_markdownLink (label : Text) {url : Text} (noFeed : '\n' ∉ url) :
    Script.Appends ('\n' ∉ ·) (markdownLink ⟨.page resolver, strict⟩ label url) := by
  have squeezed : '\n' ∉ (Text.squeeze label).escape :=
    Text.lineFeed_not_mem_escape (Text.lineFeed_not_mem_squeeze label)
  have written : '\n' ∉ '[' :: (Text.squeeze label).escape ++ "](".toList ++ url ++ ")".toList := by
    simp [squeezed, noFeed]
  exact .write (Text.lineFeed_not_mem_dropReturns written)

lemma appends_resolvedLink (l : Link) (reference : Reference) {target : Target}
    (noFeed : '\n' ∉ target.url) :
    Script.Appends ('\n' ∉ ·) (resolvedLink ⟨.page resolver, strict⟩ l reference target) := by
  rw [resolvedLink_eq]
  split
  · exact .log Text.composable_lineFeed_not_mem _
  · exact appends_markdownLink _ noFeed

lemma appends_unresolvedLink (style : Style) {l : Link} (noFeed : '\n' ∉ l.text.getD [])
    (reference : Reference) :
    Script.Appends ('\n' ∉ ·) (unresolvedLink ⟨.page resolver, strict⟩ style l reference) := by
  unfold unresolvedLink
  split
  · exact .fail Text.composable_lineFeed_not_mem _
  · exact .append Text.composable_lineFeed_not_mem (.log Text.composable_lineFeed_not_mem _)
      (appends_linkText style noFeed)

lemma appends_link (urls : ∀ reference target, resolver reference = some target → '\n' ∉ target.url)
    (style : Style) {l : Link} (oneLine : (Node.link l).isOneLine = true) :
    Script.Appends ('\n' ∉ ·) (link ⟨.page resolver, strict⟩ style l) := by
  obtain ⟨inText, inUrl⟩ : '\n' ∉ l.text.getD [] ∧ '\n' ∉ l.url.getD [] := by
    simpa [Node.isOneLine] using oneLine
  unfold link
  split
  · unfold declarationLink
    split
    · exact .fail Text.composable_lineFeed_not_mem _
    · exact .fail Text.composable_lineFeed_not_mem _
    · exact .fail Text.composable_lineFeed_not_mem _
    next known reference pages _ =>
      obtain rfl : resolver = known := Option.some.inj pages
      split
      next target found =>
        exact appends_resolvedLink l reference (urls reference target found)
      next => exact appends_unresolvedLink style inText reference
  · split
    · exact appends_linkText style inText
    · exact appends_markdownLink _ inUrl

/-- **What stands on one line is written on one line**, and depends on the character before it
alone. -/
lemma appends_of_isOneLine
    (urls : ∀ reference target, resolver reference = some target → '\n' ∉ target.url)
    {node : Node} (oneLine : node.isOneLine = true) (leaf : node.isContainer = false)
    {style : Style} (inTable : style.inTable = true) :
    Script.Appends ('\n' ∉ ·) (script ⟨.page resolver, strict⟩ style node) := by
  cases node with
  | plainText t | escapedText t _ | errorText t _ =>
    exact appends_plainText_of_oneLine style (by simpa [Node.isOneLine] using oneLine)
  | softBreak => exact .softBreak Text.composable_lineFeed_not_mem
  | startTag tag =>
    exact .write (Text.lineFeed_not_mem_dropReturns (StartTag.lineFeed_not_mem_html oneLine))
  | endTag name =>
    have noFeed : '\n' ∉ name := by simpa [Node.isOneLine] using oneLine
    exact .write (Text.lineFeed_not_mem_dropReturns (lineFeed_not_mem_endTagHtml noFeed))
  | codeSpan code =>
    rw [script_codeSpan, codeSpan, inTable]
    exact .write (Text.lineFeed_not_mem_dropReturns (Text.lineFeed_not_mem_backquoted code))
  | link l => exact appends_link urls style oneLine
  | group nodes | paragraph nodes | emphasis e nodes => exact absurd leaf.symm Bool.false_ne_true
  | _ => exact absurd oneLine Bool.false_ne_true

lemma appends_cellScript
    (urls : ∀ reference target, resolver reference = some target → '\n' ∉ target.url) {cell : Node}
    (oneLine : ∀ part ∈ cell.children, part.every Node.isOneLine = true) (style : Style) :
    Script.Appends ('\n' ∉ ·) (cellScript ⟨.page resolver, strict⟩ style cell) := by
  have composable := Script.composable_appends Text.composable_lineFeed_not_mem
  refine composable.flatMap fun part member => ?_
  refine composable.script rfl (fun _ => Node.isLabelled_of_isOneLine) ?_ ?_ ?_
    (oneLine part member) rfl
  · intro t oneLine
    exact Node.isOneLine_plainText.2
      (Text.lineFeed_not_mem_trimStart (Node.isOneLine_plainText.1 oneLine))
  · intro t oneLine
    exact Node.isOneLine_plainText.2
      (Text.lineFeed_not_mem_trimEnd (Node.isOneLine_plainText.1 oneLine))
  · intro node oneLine leaf style inTable
    exact appends_of_isOneLine urls oneLine leaf inTable

/-- What stands on one line fits in a cell, unless it fails, and its text is of one line. -/
lemma fitsCell_of_oneLine
    (urls : ∀ reference target, resolver reference = some target → '\n' ∉ target.url) {cell : Node}
    (oneLine : ∀ part ∈ cell.children, part.every Node.isOneLine = true) {style : Style}
    (succeeds : Script.failures (cellScript ⟨.page resolver, strict⟩ style cell) = []) :
    Script.FitsCell (cellScript ⟨.page resolver, strict⟩ style cell)
      ∧ '\n' ∉ (cellScript ⟨.page resolver, strict⟩ style cell).behindSpace := by
  obtain ⟨noFeed, behind⟩ := (appends_cellScript urls oneLine style).behindSpace
  exact ⟨⟨succeeds, behind⟩, noFeed⟩

end Renderer

namespace Dialect

/-- **Tables keep their lines.**  If what stands in the cells of a table stands on one line, and so
do the addresses of the pages to link to, then a rendering of the table that succeeds consists of
the lines of the table, which are as many as its rows and three.  The text of a cell is one line and
the same wherever the cell stands. -/
theorem render_table_eq_lines (resolver : Reference → Option Target) {header : Option Node}
    {rows : List Node} {options : Option Options}
    (oneLine : ∀ row ∈ header.toList ++ rows, ∀ cell ∈ row.children,
      ∀ part ∈ cell.children, part.every Node.isOneLine = true)
    (urls : ∀ reference target, resolver reference = some target → '\n' ∉ target.url)
    (succeeds : ((page resolver).render ⟨.table header rows, options⟩ []).failure = none) :
    let text := (page resolver).cellText options
    let lines := Node.tableLines text header rows
    ((page resolver).render ⟨.table header rows, options⟩ []).state = lines.flatMap (· ++ ['\n'])
      ∧ lines.length = rows.length + 3
      ∧ (∀ line ∈ lines, '\n' ∉ line)
      ∧ ∀ row ∈ header.toList ++ rows, ∀ cell ∈ row.children,
          '\n' ∉ text cell ∧ ∀ found before,
            let s := Session.inCell (page resolver) options found (before ++ [' '])
            (s.perform (.nodes cell.children)).state.writer.contents
              = s.writer.contents ++ text cell := by
  intro text lines
  cases valid : (page resolver).strictness options with
  | error mismatch => simp [render, valid, Outcome.failed] at succeeds
  | ok strict =>
    have named := failures_script_of_render valid succeeds
    have succeed := (Renderer.failures_script_table_eq_nil_iff rfl .plain header rows).1 named
    have fit : ∀ row ∈ header.toList ++ rows, ∀ cell ∈ row.children,
        Script.FitsCell (Renderer.cellScript ⟨page resolver, strict⟩ .plain cell)
          ∧ '\n' ∉ text cell := by
      intro row inTable cell inRow
      have fits := Renderer.fitsCell_of_oneLine urls (oneLine row inTable cell inRow)
        (succeed row inTable cell inRow)
      rwa [← cellText_eq valid] at fits
    refine ⟨?_, Node.length_tableLines text header rows, ?_, ?_⟩
    · exact (state_render_table rfl valid fun row inTable cell inRow =>
        (fit row inTable cell inRow).1).2
    · exact Node.lineFeed_not_mem_tableLines fun row inTable cell inRow =>
        (fit row inTable cell inRow).2
    · intro row inTable cell inRow
      obtain ⟨fits, noFeed⟩ := fit row inTable cell inRow
      refine ⟨noFeed, fun found before => ?_⟩
      exact contents_perform_cell valid fits found before

/-- A header of one cell, whose code ends lines in two ways. -/
def codeTitle : Node := .row [.cell (.codeSpan "a\r\nb\n".toList)]

/-- Two rows, one wider than that header and one without cells. -/
def unevenRows : List Node :=
  [.row [.cell (.paragraph [.plainText " x".toList, .softBreak,
      .emphasis ⟨false, true⟩ [.link ⟨some ⟨none, none, [⟨"K".toList, none⟩]⟩, none, none⟩,
        .plainText "y\r|".toList]]),
    .cell (.group [.startTag ⟨"br".toList, [], true⟩, .errorText "-".toList none])],
  .row []]

/-- The table of these has five lines, though the name that the link shows has two. -/
theorem render_unevenRows_eq_lines :
    let resolver : Resolver := ⟨[("K".toList, ⟨"k.md".toList, "K\nL".toList⟩)]⟩
    let d := page resolver
    let lines := Node.tableLines (d.cellText none) (some codeTitle) unevenRows
    (d.render ⟨.table (some codeTitle) unevenRows, none⟩ []).failure = none
      ∧ lines = ["|  `a`<p/>`b`<p/>`` |  |".toList, "|  --- | --- |".toList,
          "|  <p>x [K L](k.md)<!-- --><i>y\\|</i></p> | <br />- |".toList, "| ".toList, []]
      ∧ (d.render ⟨.table (some codeTitle) unevenRows, none⟩ []).state
          = lines.flatMap (· ++ ['\n'])
      ∧ lines.length = unevenRows.length + 3 ∧ ∀ line ∈ lines, '\n' ∉ line := by
  intro resolver d lines
  have oneLine : ∀ row ∈ (some codeTitle).toList ++ unevenRows, ∀ cell ∈ row.children,
      ∀ part ∈ cell.children, part.every Node.isOneLine = true := by
    decide
  have urls : ∀ known ∈ resolver.targets, '\n' ∉ known.2.url := by decide
  have succeeds : (d.render ⟨.table (some codeTitle) unevenRows, none⟩ []).failure = none := by
    decide
  obtain ⟨state, length, noFeed, -⟩ :=
    render_table_eq_lines _ oneLine (Resolver.of_resolve_eq_some urls) succeeds
  exact ⟨succeeds, by decide, state, length, noFeed⟩

end Dialect

end DocMarkdown
