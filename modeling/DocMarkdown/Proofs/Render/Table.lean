import DocMarkdown.Proofs.Script.Inline
import DocMarkdown.Session

/-!
# Tables line by line

A table takes one line for its header, one for the divider, one for each row and an empty line, as
long as what stands in a cell stays on its line.  The page that it leaves is made up of the texts of
its cells (`Node.tableLines`), and the text of a cell is what a session in a table appends for it
behind a space (`Dialect.cellText`), wherever the cell stands.

Any script that fits in a cell will do for that (`Script.FitsCell`): it does not fail, and behind a
space it adds the same, whatever stands before the space.
-/

namespace DocMarkdown

/-! ## Lines -/

/-- The line of some cells: bars around each of them, and spaces between it and the bars. -/
def Text.barred (cells : List Text) : Text :=
  "| ".toList ++ cells.flatMap fun cell => ' ' :: cell ++ " |".toList

/-- **The lines of a table**, given the text of each cell: the header, filled up with empty cells to
the width of the widest row, the divider, the rows, and an empty line. -/
def Node.tableLines (text : Node → Text) (header : Option Node) (rows : List Node) : List Text :=
  let width := columnCount header rows
  let titles := (header.toList.flatMap children).map text
  Text.barred (titles ++ List.replicate (width - titles.length) [])
    :: Text.barred (List.replicate width "---".toList)
    :: rows.map (fun row => Text.barred (row.children.map text)) ++ [[]]

lemma Node.length_tableLines (text : Node → Text) (header : Option Node) (rows : List Node) :
    (tableLines text header rows).length = rows.length + 3 := by
  simp [tableLines]

/-- The last line of a table is ended. -/
lemma Node.atLineStart_tableLines (text : Node → Text) (header : Option Node) (rows : List Node) :
    Typing.atLineStart ((tableLines text header rows).flatMap (· ++ ['\n'])) = true := by
  rw [tableLines, List.flatMap_append]
  exact Typing.atLineStart_append_singleton _ '\n'

lemma Text.lineFeed_not_mem_barred {cells : List Text} (noFeed : ∀ cell ∈ cells, '\n' ∉ cell) :
    '\n' ∉ barred cells := by
  simpa [barred] using noFeed

/-- Cells of one line make a table of such lines. -/
lemma Node.lineFeed_not_mem_tableLines {text : Node → Text} {header : Option Node}
    {rows : List Node}
    (noFeed : ∀ row ∈ header.toList ++ rows, ∀ cell ∈ row.children, '\n' ∉ text cell) :
    ∀ line ∈ tableLines text header rows, '\n' ∉ line := by
  obtain ⟨inHeader, inRows⟩ := List.forall_mem_append.1 noFeed
  have titles : ∀ cell ∈ (header.toList.flatMap children).map text, '\n' ∉ cell :=
    List.forall_mem_map.2 (List.forall_mem_flatMap.2 inHeader)
  have filled (count : Nat) : ∀ cell ∈ List.replicate count ([] : Text), '\n' ∉ cell :=
    List.forall_mem_replicate.2 (.inr List.not_mem_nil)
  have ruled (count : Nat) : ∀ cell ∈ List.replicate count "---".toList, '\n' ∉ cell :=
    List.forall_mem_replicate.2 (.inr (by decide))
  intro line member
  simp only [tableLines, List.cons_append, List.mem_cons, List.mem_append, List.mem_map,
    List.not_mem_nil, or_false] at member
  rcases member with rfl | rfl | ⟨row, inTable, rfl⟩ | rfl
  · exact Text.lineFeed_not_mem_barred (List.forall_mem_append.2 ⟨titles, filled _⟩)
  · exact Text.lineFeed_not_mem_barred (ruled _)
  · exact Text.lineFeed_not_mem_barred (List.forall_mem_map.2 (inRows row inTable))
  · exact List.not_mem_nil

/-! ## Cells -/

/-- What a script adds behind a space. -/
def Script.behindSpace (script : Script) : Text := (script.extend [] [' ']).tail

/-- **Fitting.** A script fits in a cell if it does not fail, and adds the same behind all texts that
end with a space. -/
structure Script.FitsCell (script : Script) : Prop where
  succeeds : failures script = []
  extend_eq : ∀ before, extend [] script (before ++ [' ']) = before ++ ' ' :: behindSpace script

namespace Script

/-- A script that appends adds the same behind all texts that end with a space, and the property
holds of that. -/
lemma Appends.behindSpace {P : Text → Prop} {script : Script} (appends : Appends P script) :
    P (behindSpace script)
      ∧ ∀ before, extend [] script (before ++ [' ']) = before ++ ' ' :: behindSpace script := by
  obtain ⟨added, holds, adds⟩ := appends
  have alone : Script.behindSpace script = added (some ' ') := by
    rw [Script.behindSpace, adds]
    rfl
  rw [alone]
  refine ⟨holds _, fun before => ?_⟩
  rw [adds, List.getLast?_concat, List.append_assoc, List.singleton_append]

lemma fitsCell_nil : FitsCell [] := ⟨rfl, fun _ => rfl⟩

lemma fitsCell_divider : FitsCell [.write "---".toList] := by
  refine ⟨rfl, fun before => ?_⟩
  rw [behindSpace, extend_singleton, extend_singleton, Directive.extend_write_nil_margin rfl,
    Directive.extend_write_nil_margin rfl, List.append_assoc]
  rfl

/-- The line that the scripts of some cells make. -/
def lineOf (cells : List Script) : Text := Text.barred (cells.map behindSpace)

end Script

namespace Renderer

lemma extend_cells {cells : List Script} (fit : ∀ cell ∈ cells, Script.FitsCell cell)
    (before : Text) :
    Script.extend [] (cells.flatMap fun cell => .write [' '] :: cell ++ [.write " |".toList]) before
      = before ++ (cells.map Script.behindSpace).flatMap fun cell => ' ' :: cell ++ " |".toList := by
  induction cells generalizing before with
  | nil => exact (List.append_nil before).symm
  | cons cell rest ih =>
    obtain ⟨now, later⟩ := List.forall_mem_cons.1 fit
    have first : Script.extend [] (.write [' '] :: cell ++ [.write " |".toList]) before
        = before ++ (' ' :: cell.behindSpace ++ " |".toList) := by
      rw [List.cons_append, Script.extend_cons rfl, Directive.extend_write_nil_margin rfl,
        Script.extend_append now.succeeds, now.extend_eq, Script.extend_singleton,
        Directive.extend_write_nil_margin rfl, List.append_assoc]
    have succeeds : Script.failures (.write [' '] :: cell ++ [.write " |".toList]) = [] := by
      simp [now.succeeds]
    rw [List.flatMap_cons, Script.extend_append succeeds, first, ih later, List.append_assoc,
      List.map_cons, List.flatMap_cons]

lemma failures_tableLine_of_fit {cells : List Script}
    (fit : ∀ cell ∈ cells, Script.FitsCell cell) : Script.failures (tableLine cells) = [] := by
  rw [failures_tableLine]
  exact List.flatMap_eq_nil_iff.2 fun cell member => (fit cell member).succeeds

/-- **A line of a table** is written as the texts of its cells between bars. -/
lemma extend_tableLine {cells : List Script} (fit : ∀ cell ∈ cells, Script.FitsCell cell)
    (before : Text) :
    Script.extend [] (tableLine cells) before = before ++ (Script.lineOf cells ++ ['\n']) := by
  have succeeds : Script.failures
      (cells.flatMap fun cell => .write [' '] :: cell ++ [.write " |".toList]) = [] := by
    rw [Script.failures_flatMap]
    exact List.flatMap_eq_nil_iff.2 fun cell member => by simp [(fit cell member).succeeds]
  rw [tableLine, List.cons_append, Script.extend_cons rfl, Directive.extend_write_nil_margin rfl,
    Script.extend_append succeeds, extend_cells fit, Script.extend_singleton,
    Directive.extend_endLine_nil_margin, Script.lineOf, Text.barred]
  simp only [List.append_assoc]

lemma extend_tableLines {rows : List (List Script)}
    (fit : ∀ row ∈ rows, ∀ cell ∈ row, Script.FitsCell cell) (before : Text) :
    Script.extend [] (rows.flatMap tableLine) before
      = before ++ (rows.map Script.lineOf).flatMap (· ++ ['\n']) := by
  induction rows generalizing before with
  | nil => exact (List.append_nil before).symm
  | cons row rest ih =>
    obtain ⟨now, later⟩ := List.forall_mem_cons.1 fit
    rw [List.flatMap_cons, Script.extend_append (failures_tableLine_of_fit now),
      extend_tableLine now, ih later, List.map_cons, List.flatMap_cons, List.append_assoc]

/-- **A table** at the top of a page is written line by line. -/
lemma extend_table {header : List Script} {rows : List (List Script)}
    (titles : ∀ cell ∈ header, Script.FitsCell cell)
    (body : ∀ row ∈ rows, ∀ cell ∈ row, Script.FitsCell cell) :
    let width := ((header :: rows).map List.length).max?.getD 0
    Script.extend [] (table header rows) []
      = (Text.barred (header.map Script.behindSpace ++ List.replicate (width - header.length) [])
          :: Text.barred (List.replicate width "---".toList)
          :: rows.map Script.lineOf ++ [[]]).flatMap (· ++ ['\n']) := by
  intro width
  have filled : ∀ cell ∈ header ++ List.replicate (width - header.length) [],
      Script.FitsCell cell :=
    List.forall_mem_append.2 ⟨titles, List.forall_mem_replicate.2 (.inr Script.fitsCell_nil)⟩
  have ruled : ∀ cell ∈ List.replicate width [.write "---".toList], Script.FitsCell cell :=
    List.forall_mem_replicate.2 (.inr Script.fitsCell_divider)
  have bodySucceeds : Script.failures (rows.flatMap tableLine) = [] := by
    rw [Script.failures_flatMap]
    exact List.flatMap_eq_nil_iff.2 fun row member => failures_tableLine_of_fit (body row member)
  have blank : Directive.extend [] .blankLine [] = [] := rfl
  have title : Script.lineOf (header ++ List.replicate (width - header.length) [])
      = Text.barred (header.map Script.behindSpace
          ++ List.replicate (width - header.length) []) := by
    rw [Script.lineOf, List.map_append, List.map_replicate]
    rfl
  have divider : Script.lineOf (List.replicate width [.write "---".toList])
      = Text.barred (List.replicate width "---".toList) := by
    rw [Script.lineOf, List.map_replicate]
    rfl
  show Script.extend [] (.blankLine
    :: tableLine (header ++ List.replicate (width - header.length) [])
    ++ tableLine (List.replicate width [.write "---".toList])
    ++ rows.flatMap tableLine ++ [.endLine]) [] = _
  rw [List.append_assoc, List.append_assoc, List.cons_append, Script.extend_cons rfl, blank,
    Script.extend_append (failures_tableLine_of_fit filled), extend_tableLine filled,
    Script.extend_append (failures_tableLine_of_fit ruled), extend_tableLine ruled,
    Script.extend_append bodySucceeds, extend_tableLines body, Script.extend_singleton,
    Directive.extend_endLine_nil_margin, title, divider]
  simp

/-! ## Tables of nodes -/

/-- The script of what stands in a cell, in the style inside a table. -/
def cellScript (r : Renderer) (style : Style) (cell : Node) : Script :=
  cell.children.flatMap (r.script { style with inTable := true })

/-- A table is as wide as its widest row, whether it has a header or not. -/
lemma width_eq_columnCount (r : Renderer) (style : Style) (header : Option Node)
    (rows : List Node) :
    ((header.toList.flatMap (r.cellScripts style) :: rows.map (r.cellScripts style)).map
        List.length).max?.getD 0
      = Node.columnCount header rows := by
  have lengths : (rows.map (r.cellScripts style)).map List.length
      = rows.map fun row => row.children.length := by
    simp [cellScripts]
  unfold Node.columnCount
  cases header with
  | some row => simp [lengths, cellScripts]
  | none =>
    simp only [List.map_cons, lengths, Option.toList_none, List.flatMap_nil, List.nil_append,
      List.length_nil]
    cases rows <;> simp

/-- A table names no failure if what stands in its cells names none, and only then. -/
lemma failures_script_table_eq_nil_iff {r : Renderer} (pages : r.dialect.resolver?.isSome = true)
    (style : Style) (header : Option Node) (rows : List Node) :
    Script.failures (r.script style (.table header rows)) = []
      ↔ ∀ row ∈ header.toList ++ rows, ∀ cell ∈ row.children,
          Script.failures (r.cellScript style cell) = [] := by
  have ofRow (row : Node) : (r.cellScripts style row).flatMap Script.failures
      = row.children.flatMap fun cell => Script.failures (r.cellScript style cell) :=
    List.flatMap_map ..
  rw [script_table pages, failures_table, List.flatMap_assoc, List.flatMap_map,
    ← List.flatMap_append, List.flatMap_eq_nil_iff]
  simp only [ofRow, List.flatMap_eq_nil_iff]

/-- **A table of nodes** at the top of a page is written line by line, whatever the style. -/
lemma extend_script_table {r : Renderer} (pages : r.dialect.resolver?.isSome = true) (style : Style)
    {header : Option Node} {rows : List Node} (fit : ∀ row ∈ header.toList ++ rows,
      ∀ cell ∈ row.children, Script.FitsCell (r.cellScript style cell)) :
    Script.extend [] (r.script style (.table header rows)) []
      = (Node.tableLines (fun cell => (r.cellScript style cell).behindSpace) header rows).flatMap
          (· ++ ['\n']) := by
  obtain ⟨fitHeader, fitRows⟩ := List.forall_mem_append.1 fit
  have titles : ∀ cell ∈ header.toList.flatMap (r.cellScripts style), Script.FitsCell cell :=
    List.forall_mem_flatMap.2 fun row inTable => List.forall_mem_map.2 (fitHeader row inTable)
  have body : ∀ row ∈ rows.map (r.cellScripts style), ∀ cell ∈ row, Script.FitsCell cell :=
    List.forall_mem_map.2 fun row inTable => List.forall_mem_map.2 (fitRows row inTable)
  have ofRow (row : Node) : (r.cellScripts style row).map Script.behindSpace
      = row.children.map fun cell => (r.cellScript style cell).behindSpace := List.map_map
  have texts : (header.toList.flatMap (r.cellScripts style)).map Script.behindSpace
      = (header.toList.flatMap Node.children).map
          fun cell => (r.cellScript style cell).behindSpace := by
    simp [List.map_flatMap, ofRow]
  have lines : (rows.map (r.cellScripts style)).map Script.lineOf
      = rows.map fun row => Text.barred
          (row.children.map fun cell => (r.cellScript style cell).behindSpace) := by
    simp [Script.lineOf, ofRow]
  have count : (header.toList.flatMap (r.cellScripts style)).length
      = ((header.toList.flatMap Node.children).map
          fun cell => (r.cellScript style cell).behindSpace).length := by
    rw [← texts, List.length_map]
  rw [script_table pages, extend_table titles body, width_eq_columnCount, texts, lines, count]
  rfl

end Renderer

/-! ## Cells of a page -/

namespace Session

/-- A session in the cell of a table, with a text written behind what the page held. -/
def inCell (d : Dialect) (options : Option Options) (found before : Text) : Session :=
  (perform (.writer (.write before))
    (start d options { Style.plain with inTable := true } found)).state

/-- What nodes append in a cell is told by their script. -/
lemma contents_perform_inCell (d : Dialect) (options : Option Options) (found before : Text)
    (nodes : List Node) :
    (perform (.nodes nodes) (inCell d options found before)).state.writer.contents
      = found ++ Script.extend [] (nodes.flatMap
          (Renderer.script ⟨d, options.any Options.strict⟩ { Style.plain with inTable := true }))
          before.dropReturns := by
  have written := (Writer.Follows.on found).write before
  have ran := Script.run_follows (nodes.flatMap
    (Renderer.script ⟨d, options.any Options.strict⟩ { Style.plain with inTable := true })) written
  have start : (Scribe.fresh.write before).written = before.dropReturns :=
    Typing.write_nil_margin [] before
  rw [← start]
  exact ran.state.contents_eq

/-- Without nodes nothing is appended to what was written before. -/
lemma contents_inCell (d : Dialect) (options : Option Options) (found before : Text) :
    (inCell d options found before).writer.contents = found ++ before.dropReturns :=
  contents_perform_inCell d options found before []

end Session

namespace Dialect

variable {d : Dialect} {options : Option Options}

/-- **The text of a cell**: what a session in a table appends for its content behind a space. -/
def cellText (d : Dialect) (options : Option Options) (cell : Node) : Text :=
  (Session.perform (.nodes cell.children)
    (Session.inCell d options [] [' '])).state.writer.contents.tail

/-- Only options for pages can make a rendering strict. -/
lemma any_strict_of_strictness {strict : Bool} (valid : d.strictness options = .ok strict) :
    options.any Options.strict = strict := by
  cases options with
  | none =>
    rw [← Except.ok.inj valid]
    cases d.optionsClass <;> rfl
  | some options =>
    unfold strictness at valid
    dsimp only at valid
    split at valid
    · exact Except.ok.inj valid
    · exact absurd valid (by simp)

lemma cellText_eq {strict : Bool} (valid : d.strictness options = .ok strict) (cell : Node) :
    d.cellText options cell = (Renderer.cellScript ⟨d, strict⟩ .plain cell).behindSpace := by
  rw [cellText, Session.contents_perform_inCell, List.nil_append, any_strict_of_strictness valid]
  rfl

/-- The text of a cell that fits is appended wherever the cell stands, on any page and behind any
text that ends with a space. -/
lemma contents_perform_cell {strict : Bool} (valid : d.strictness options = .ok strict)
    {cell : Node} (fits : Script.FitsCell (Renderer.cellScript ⟨d, strict⟩ .plain cell))
    (found before : Text) :
    (Session.perform (.nodes cell.children)
        (Session.inCell d options found (before ++ [' ']))).state.writer.contents
      = (Session.inCell d options found (before ++ [' '])).writer.contents
          ++ d.cellText options cell := by
  have spaced : Text.dropReturns (before ++ [' ']) = before.dropReturns ++ [' '] :=
    Text.dropReturns_append ..
  have appended : Script.extend [] (Renderer.cellScript ⟨d, strict⟩ .plain cell)
      (before.dropReturns ++ [' '])
        = before.dropReturns ++ ' ' :: d.cellText options cell := by
    rw [fits.extend_eq, cellText_eq valid]
  rw [Session.contents_inCell, Session.contents_perform_inCell, spaced, List.append_assoc,
    List.append_assoc, List.singleton_append, ← appended, any_strict_of_strictness valid]
  rfl

/-- **The page of a table** whose cells all fit is made up of its lines. -/
lemma state_render_table (pages : d.resolver?.isSome = true) {strict : Bool}
    (valid : d.strictness options = .ok strict) {header : Option Node} {rows : List Node}
    (fit : ∀ row ∈ header.toList ++ rows, ∀ cell ∈ row.children,
      Script.FitsCell (Renderer.cellScript ⟨d, strict⟩ .plain cell)) :
    (d.render ⟨.table header rows, options⟩ []).failure = none
      ∧ (d.render ⟨.table header rows, options⟩ []).state
        = (Node.tableLines (d.cellText options) header rows).flatMap (· ++ ['\n']) := by
  have succeeds : Script.failures
      (Renderer.script ⟨d, strict⟩ .plain (.table header rows)) = [] :=
    (Renderer.failures_script_table_eq_nil_iff pages .plain header rows).2
      fun row inTable cell inRow => (fit row inTable cell inRow).succeeds
  constructor
  · rw [failure_render valid, succeeds]
    rfl
  · have texts : d.cellText options = fun cell =>
        (Renderer.cellScript ⟨d, strict⟩ .plain cell).behindSpace :=
      funext (cellText_eq valid)
    have written := Renderer.extend_script_table pages .plain fit
    rw [state_render valid succeeds, written, ← texts, List.nil_append, Typing.freshLine,
      if_pos (Node.atLineStart_tableLines _ header rows)]

end Dialect

end DocMarkdown
