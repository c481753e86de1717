import DocMarkdown.Proofs.Render.Table
import DocMarkdown.Proofs.Text.Bar
import DocMarkdown.Proofs.Text.Line
import Mathlib.Data.List.Forall2

/-!
# Text in a cell stays in its cell

Whatever characters are in the texts of a table, line feeds apart, a reader who cuts the lines at
their bars finds the cells again, no more and no fewer (`Dialect.cutAtBars_render_table`).  Each text
is sealed where it is escaped, and separators, tags and spaces are sealed by themselves, so the text
of a cell is sealed and the next bar is the one that ends the cell.
-/

namespace DocMarkdown

namespace Text

/-! ## Lines between bars -/

/-- Cells with the spaces around them: one on either side, and one more in front of the first
cell. -/
def padded (cells : List Text) : List Text :=
  (cells.map fun cell => ' ' :: cell ++ [' ']).modifyHead (' ' :: ·)

/-- Sealed cells are cut where the bars between them stand. -/
lemma cutAtBars_cells {cells : List Text} (sealed : ∀ cell ∈ cells, Sealed cell) :
    cutAtBars (cells.flatMap fun cell => ' ' :: cell ++ " |".toList)
      = (cells.map fun cell => ' ' :: cell ++ [' ']) ++ [[]] := by
  have space : Sealed [' '] := .of_avoids (by decide)
  induction cells with
  | nil => rfl
  | cons cell rest ih =>
    obtain ⟨now, later⟩ := List.forall_mem_cons.1 sealed
    have around : Sealed (' ' :: cell ++ [' ']) := (space.append now).append space
    have begins : (cell :: rest).flatMap (fun cell => ' ' :: cell ++ " |".toList)
        = (' ' :: cell ++ [' ']) ++ '|' :: rest.flatMap fun cell => ' ' :: cell ++ " |".toList := by
      simp
    rw [begins, around.cutAtBars_append_bar, ih later, List.map_cons]
    rfl

/-- **The line of sealed cells** is cut in front of the first cell, which has two spaces before it,
and behind each cell. -/
lemma cutAtBars_barred {cells : List Text} (sealed : ∀ cell ∈ cells, Sealed cell) :
    cutAtBars (barred cells)
      = [] :: ((cells.map fun cell => ' ' :: cell ++ [' ']) ++ [[]]).modifyHead (' ' :: ·) := by
  rw [← cutAtBars_cells sealed]
  rfl

lemma bars_barred {cells : List Text} (sealed : ∀ cell ∈ cells, Sealed cell) :
    bars (barred cells) = cells.length + 1 := by
  have pieces := length_cutAtBars (barred cells)
  rw [cutAtBars_barred sealed] at pieces
  simpa using pieces.symm

/-- Between the first bar of the line and the last one there are the cells, and nothing else. -/
lemma tail_dropLast_cutAtBars_barred {cells : List Text} (sealed : ∀ cell ∈ cells, Sealed cell) :
    (cutAtBars (barred cells)).tail.dropLast = padded cells := by
  rw [cutAtBars_barred sealed, List.tail_cons, padded]
  cases cells with
  | nil => rfl
  | cons cell rest =>
    rw [List.map_cons, List.cons_append, List.modifyHead_cons, List.modifyHead_cons,
      ← List.cons_append, List.dropLast_concat]

end Text

/-! ## Cells of text -/

/-- Whether a node is text of one line, or puts such texts together. -/
def Node.isCellText : Node → Bool
  | plainText t | escapedText t _ | errorText t _ => '\n' ∉ t
  | softBreak | group _ | paragraph _ | emphasis .. => true
  | _ => false

lemma Node.isCellText_plainText {t : Text} :
    (Node.plainText t).isCellText = true ↔ '\n' ∉ t := by
  simp [isCellText]

lemma Node.isLabelled_of_isCellText {node : Node} (ofText : node.isCellText = true) :
    node.isLabelled = false := by
  cases node with
  | labelled kind node => exact absurd ofText Bool.false_ne_true
  | _ => rfl

namespace Renderer

variable {r : Renderer}

/-- A property of the scripts of text and soft breaks that lasts when they are put together holds of
the scripts of cells of text. -/
lemma composable_cellScript {Q : Script → Prop} (h : Script.Composable Q)
    (pages : r.dialect.resolver?.isSome = true)
    (ofText : ∀ style {t : Text}, '\n' ∉ t → Q (r.plainText style t)) (ofBreak : Q [.softBreak])
    {cell : Node} (isText : ∀ part ∈ cell.children, part.every Node.isCellText = true)
    (style : Style) : Q (r.cellScript style cell) := by
  refine h.flatMap fun part member => ?_
  refine h.script pages (fun _ => Node.isLabelled_of_isCellText) ?_ ?_ ?_ (isText part member) rfl
  · intro t isText
    exact Node.isCellText_plainText.2
      (Text.lineFeed_not_mem_trimStart (Node.isCellText_plainText.1 isText))
  · intro t isText
    exact Node.isCellText_plainText.2
      (Text.lineFeed_not_mem_trimEnd (Node.isCellText_plainText.1 isText))
  · intro node isText leaf style _
    cases node with
    | plainText t | escapedText t _ | errorText t _ =>
      exact ofText style (by simpa [Node.isCellText] using isText)
    | softBreak => exact ofBreak
    | group nodes | paragraph nodes | emphasis e nodes => exact absurd leaf.symm Bool.false_ne_true
    | _ => exact absurd isText Bool.false_ne_true

/-- **Cells of text** fit, and what is written for them is sealed and of one line. -/
lemma fitsCell_of_isCellText (escapes : r.dialect.escape = Text.escape)
    (pages : r.dialect.resolver?.isSome = true) {cell : Node}
    (isText : ∀ part ∈ cell.children, part.every Node.isCellText = true) (style : Style) :
    Script.FitsCell (r.cellScript style cell)
      ∧ '\n' ∉ (r.cellScript style cell).behindSpace
      ∧ Text.Sealed (r.cellScript style cell).behindSpace := by
  have composable := Text.composable_lineFeed_not_mem.and Text.composable_sealed
  have succeeds : Script.failures (r.cellScript style cell) = [] :=
    composable_cellScript Script.composable_failures pages
      (fun style _ _ => failures_plainText r style _) rfl isText style
  have appends : Script.Appends (fun t => '\n' ∉ t ∧ Text.Sealed t) (r.cellScript style cell) := by
    refine composable_cellScript (Script.composable_appends composable) pages ?_
      (.softBreak composable) isText style
    intro style t noFeed
    obtain ⟨lead, core, trail⟩ := Text.lineFeed_not_mem_surround noFeed
    have leadBlank : ∀ c ∈ (Text.surround t).lead.dropReturns, Text.isBlank c = true := by
      intro c member
      exact Text.isBlank_of_mem_lead (List.mem_filter.1 member).1
    have trailBlank : ∀ c ∈ (Text.surround t).trail.dropReturns, Text.isBlank c = true := by
      intro c member
      exact Text.isBlank_of_mem_trail (List.mem_filter.1 member).1
    exact appends_plainText composable escapes style
      ⟨Text.lineFeed_not_mem_dropReturns lead, .of_blank leadBlank⟩
      ⟨Text.lineFeed_not_mem_dropReturns (Text.lineFeed_not_mem_escape core),
        Text.sealed_dropReturns_escape _⟩
      ⟨Text.lineFeed_not_mem_dropReturns trail, .of_blank trailBlank⟩
  obtain ⟨⟨noFeed, sealed⟩, behind⟩ := appends.behindSpace
  exact ⟨⟨succeeds, behind⟩, noFeed, sealed⟩

end Renderer

namespace Node

/-- No row of a table is wider than the table. -/
lemma length_children_le_columnCount {header : Option Node} {rows : List Node} {row : Node}
    (inTable : row ∈ header.toList ++ rows) : row.children.length ≤ columnCount header rows :=
  List.le_max?_getD_of_mem (List.mem_map_of_mem inTable)

/-- The cells of the header, filled up, are as many as those of the widest row. -/
lemma length_filled_titles (text : Node → Text) (header : Option Node) (rows : List Node) :
    let titles := (header.toList.flatMap children).map text
    (titles ++ List.replicate (columnCount header rows - titles.length) []).length
      = columnCount header rows := by
  intro titles
  have fits : titles.length ≤ columnCount header rows := by
    cases header with
    | none => exact Nat.zero_le _
    | some row =>
      have ofRow : row.children.length ≤ columnCount (some row) rows :=
        length_children_le_columnCount List.mem_cons_self
      simpa [titles] using ofRow
  rw [List.length_append, List.length_replicate]
  omega

end Node

namespace Dialect

/-- **Text in a cell stays in its cell.**  A table whose cells hold text of one line is rendered, in
lines that are cut at their bars into the cells: the header and the divider have one more bar than
the widest row has cells, and each row has one more than its own cells, with these between them, one
after the other and spaces around each. -/
theorem cutAtBars_render_table (resolver : Reference → Option Target) {header : Option Node}
    {rows : List Node} {options : Option Options} {strict : Bool}
    (valid : (page resolver).strictness options = .ok strict)
    (ofText : ∀ row ∈ header.toList ++ rows, ∀ cell ∈ row.children,
      ∀ part ∈ cell.children, part.every Node.isCellText = true) :
    let text := (page resolver).cellText options
    let width := Node.columnCount header rows
    let titles := (header.toList.flatMap Node.children).map text
    let outcome := (page resolver).render ⟨.table header rows, options⟩ []
    outcome.failure = none ∧ ∃ (title divider : Text) (body : List Text),
      outcome.state = (title :: divider :: body ++ [[]]).flatMap (· ++ ['\n'])
        ∧ (∀ line ∈ title :: divider :: body, '\n' ∉ line)
        ∧ (title.bars = width + 1 ∧ title.cutAtBars.tail.dropLast
            = Text.padded (titles ++ List.replicate (width - titles.length) []))
        ∧ divider.bars = width + 1
        ∧ List.Forall₂ (fun row line => line.bars = row.children.length + 1
            ∧ line.cutAtBars.tail.dropLast = Text.padded (row.children.map text)) rows body := by
  intro text width titles outcome
  have fit : ∀ row ∈ header.toList ++ rows, ∀ cell ∈ row.children,
      Script.FitsCell (Renderer.cellScript ⟨page resolver, strict⟩ .plain cell)
        ∧ '\n' ∉ text cell ∧ Text.Sealed (text cell) := by
    intro row inTable cell inRow
    have fits := Renderer.fitsCell_of_isCellText (r := ⟨page resolver, strict⟩) rfl rfl
      (ofText row inTable cell inRow) .plain
    rwa [← cellText_eq valid] at fits
  obtain ⟨succeeds, written⟩ := state_render_table rfl valid fun row inTable cell inRow =>
    (fit row inTable cell inRow).1
  have sealedRow : ∀ row ∈ header.toList ++ rows, ∀ cell ∈ row.children.map text,
      Text.Sealed cell := by
    intro row inTable
    exact List.forall_mem_map.2 fun cell inRow => (fit row inTable cell inRow).2.2
  have sealedTitles : ∀ cell ∈ titles ++ List.replicate (width - titles.length) [],
      Text.Sealed cell := by
    refine List.forall_mem_append.2 ⟨List.forall_mem_map.2 (List.forall_mem_flatMap.2 ?_), ?_⟩
    · exact fun row inHeader cell inRow =>
        (fit row (List.mem_append_left _ inHeader) cell inRow).2.2
    · exact List.forall_mem_replicate.2 (.inr .nil)
  have sealedDashes : ∀ cell ∈ List.replicate width "---".toList, Text.Sealed cell :=
    List.forall_mem_replicate.2 (.inr (.of_avoids (by decide)))
  have noFeed := Node.lineFeed_not_mem_tableLines fun row inTable cell inRow =>
    (fit row inTable cell inRow).2.1
  refine ⟨succeeds, Text.barred (titles ++ List.replicate (width - titles.length) []),
    Text.barred (List.replicate width "---".toList),
    rows.map fun row : Node => Text.barred (row.children.map text), written, ?_, ⟨?_, ?_⟩, ?_, ?_⟩
  · exact fun line member => noFeed line (List.mem_append_left [[]] member)
  · rw [Text.bars_barred sealedTitles, Node.length_filled_titles]
  · exact Text.tail_dropLast_cutAtBars_barred sealedTitles
  · rw [Text.bars_barred sealedDashes, List.length_replicate]
  · refine List.forall₂_map_right_iff.2 (List.forall₂_same.2 fun row inRows => ?_)
    have sealed := sealedRow row (List.mem_append_right _ inRows)
    refine ⟨?_, Text.tail_dropLast_cutAtBars_barred sealed⟩
    rw [Text.bars_barred sealed, List.length_map]

/-- Texts that end in backslashes and bars, and a row without cells. -/
def rowsOfBars : List Node :=
  [.row [.cell (.plainText "a|b\\".toList),
    .cell (.paragraph [.emphasis ⟨true, false⟩ [.errorText "\\|".toList none], .softBreak,
      .escapedText "\\\r|".toList []])],
  .row []]

/-- The lines of these are cut at the bars that end their cells, though each text has bars of its
own. -/
theorem cutAtBars_render_rowsOfBars :
    let d := page Resolver.empty
    let outcome := d.render ⟨.table none rowsOfBars, none⟩ []
    d.strictness none = .ok false
      ∧ (∀ row ∈ (none : Option Node).toList ++ rowsOfBars, ∀ cell ∈ row.children,
          ∀ part ∈ cell.children, part.every Node.isCellText = true)
      ∧ outcome.state = ("|   |  |\n|  --- | --- |\n"
          ++ "|  a\\|b\\\\ | <p><b>\\\\\\|</b> \\\\\\|</p> |\n| \n\n").toList
      ∧ ∃ (title divider : Text) (body : List Text),
          outcome.state = (title :: divider :: body ++ [[]]).flatMap (· ++ ['\n'])
            ∧ title.bars = 3 ∧ divider.bars = 3
            ∧ List.Forall₂ (fun row line => line.bars = row.children.length + 1) rowsOfBars body := by
  intro d outcome
  have valid : d.strictness none = .ok false := rfl
  have ofText : ∀ row ∈ (none : Option Node).toList ++ rowsOfBars, ∀ cell ∈ row.children,
      ∀ part ∈ cell.children, part.every Node.isCellText = true := by
    decide
  obtain ⟨-, title, divider, body, state, -, ⟨ofTitle, -⟩, ofDivider, ofBody⟩ :=
    cutAtBars_render_table Resolver.empty valid ofText
  exact ⟨valid, ofText, by decide, title, divider, body, state, ofTitle, ofDivider,
    ofBody.imp fun _ _ cut => cut.1⟩

end Dialect

end DocMarkdown
