import DocMarkdown.Proofs.Node.Trimming
import DocMarkdown.Proofs.Script.Frame
import DocMarkdown.Renderer.Equations
import DocMarkdown.Session

/-!
# A walk that puts everything back

The script of a tree is made with a style that is passed down, and with indented stretches that are
closed by construction.  The same rendering is also a *walk*, which changes the session as it goes:
it sets the flags of the style and pushes prefixes before it comes to the children of a node, and
puts the old values back when it leaves the node, be it at the end or because of a failure further
down.

An `Act` is a step of such a walk.  Each way to put acts together agrees with a way to put scripts
together (`Act.inOrder_map_tell`, `Act.withFlag_tell`, `Act.within_tell`), and so a walk does
exactly what running the script does (`Session.walk_eq_tell`).  Whatever it set, pushed and wrote on
the way, it leaves the style and the prefixes as it found them, and what stood on the page before
(`Session.keepsFormatting_walk`).
-/

namespace DocMarkdown

/-- A part of a style. -/
def Style.get (style : Style) : Style.Flag → Bool
  | .inTable => style.inTable
  | .bold => style.bold
  | .italic => style.italic

/-- Setting a part to the value it had takes back that it was set to another. -/
lemma Style.set_set_get (style : Style) (flag : Style.Flag) (value : Bool) :
    (style.set flag value).set flag (style.get flag) = style := by
  cases flag <;> rfl

namespace Session

/-! ## Acts -/

/-- **Act.** Something that a walk does in a session. -/
abbrev Act := Session → Outcome Session

namespace Act

/-- Runs a script that is made for the renderer and for the style in force. -/
def tell (script : Renderer → Style → Script) : Act := fun s =>
  ((script s.renderer s.style).run s.writer).map fun w => { s with writer := w }

/-- Runs a script that is the same for all renderers and styles. -/
def say (script : Script) : Act := tell fun _ _ => script

/-- Two acts, the second one only if the first did not fail. -/
def andThen (first next : Act) : Act := fun s => (first s).andThen next

/-- Acts one after the other, up to the first that fails. -/
def inOrder : List Act → Act
  | [] => .done
  | act :: rest => act.andThen (inOrder rest)

/-- An act with a flag set.  Afterwards the flag gets its old value back, whether the act failed or
not. -/
def withFlag (flag : Style.Flag) (value : Bool) (act : Act) : Act := fun s =>
  (act { s with style := s.style.set flag value }).map fun after =>
    { after with style := after.style.set flag (s.style.get flag) }

/-- An act with one more prefix pushed.  Afterwards a prefix is popped, whether the act failed or
not. -/
def within (pre : Text) (act : Act) : Act := fun s =>
  (act (machine.indent (some pre) s)).leave machine.outdent?

/-! ### Acts that run a script -/

section Tell

variable {script script' : Renderer → Style → Script}

lemma tell_congr (same : ∀ r style, script r style = script' r style) :
    tell script = tell script' := by
  obtain rfl : script = script' := funext fun r => funext (same r)
  rfl

/-- Scripts run one after the other. -/
@[simp] lemma tell_andThen_tell :
    (tell script).andThen (tell script')
      = tell fun r style => script r style ++ script' r style := by
  funext s
  -- The second script runs in the session around the writer that the first one leaves.
  have around (w : Writer) : tell script' { s with writer := w }
      = ((script' s.renderer s.style).run w).map fun w => { s with writer := w } := rfl
  simp only [tell, Script.run_append]
  exact Outcome.map_andThen around _

@[simp] lemma inOrder_nil : inOrder [] = tell fun _ _ => [] := rfl

@[simp] lemma inOrder_cons (act : Act) (rest : List Act) :
    inOrder (act :: rest) = act.andThen (inOrder rest) := rfl

lemma inOrder_map_tell {α : Type} (scripts : α → Renderer → Style → Script) (items : List α) :
    inOrder (items.map fun item => tell (scripts item))
      = tell fun r style => items.flatMap fun item => scripts item r style := by
  induction items with
  | nil => rfl
  | cons item rest ih => simp [ih]

/-- Setting a flag for a script is making the script for another style. -/
@[simp] lemma withFlag_tell (flag : Style.Flag) (value : Bool) :
    withFlag flag value (tell script) = tell fun r style => script r (style.set flag value) := by
  funext s
  simp only [withFlag, tell, Outcome.map, Style.set_set_get]

/-- Pushing a prefix for a script is running it as an indented stretch. -/
@[simp] lemma within_tell (pre : Text) :
    within pre (tell script) = tell fun r style => [.indented pre (script r style)] := by
  funext s
  have outdented (w : Writer) : machine.outdent? { s with writer := w }
      = w.outdent?.map fun w => { s with writer := w } := rfl
  simp only [within, tell, Script.run, Directive.run, Outcome.andThen_done]
  exact Outcome.map_leave outdented _

end Tell

/-! ### Acts of containers -/

/-- A paragraph, as the style in force asks for it. -/
def paragraph (content : Act) : Act := fun s =>
  if s.style.inTable then
    inOrder [say [.write "<p>".toList], content, say [.write "</p>".toList]] s
  else inOrder [content, say [.freshLine, .endLine]] s

/-- A note box: its content behind one more prefix. -/
def noteBox (content : Act) : Act :=
  inOrder [say [.freshLine], within "> ".toList (inOrder [content, say [.freshLine]]),
    say [.endLine]]

/-- One line of a table. -/
def tableLine (cells : List Act) : Act :=
  inOrder [say [.write "| ".toList],
    inOrder (cells.map fun cell => inOrder [say [.write [' ']], cell, say [.write " |".toList]]),
    say [.endLine]]

/-- A table: all of its lines are written with the flag for tables set. -/
def table (header : List Act) (rows : List (List Act)) : Act :=
  let width := ((header :: rows).map List.length).max?.getD 0
  inOrder [say [.blankLine], withFlag .inTable true (inOrder
    [tableLine (header ++ List.replicate (width - header.length) (say [])),
      tableLine (List.replicate width (say [.write "---".toList])),
      inOrder (rows.map tableLine), say [.endLine]])]

/-- An act after the lead-in of a kind, if the dialect has one. -/
def afterLeadIn (name : String) (content : Act) : Act := fun s =>
  match s.renderer.dialect.leadIn name with
  | some leadIn => inOrder [tell fun r style => r.plainText style leadIn, content] s
  | none => say (Renderer.unsupported (.other name)) s

/-- An act of layout, for a dialect with pages. -/
def onPages (kind : Kind) (act : Act) : Act := fun s =>
  if s.renderer.dialect.resolver?.isSome then act s else say (Renderer.unsupported kind) s

variable {script : Renderer → Style → Script}

lemma paragraph_tell :
    paragraph (tell script) = tell fun r style => Renderer.paragraph style (script r style) := by
  funext s
  simp only [paragraph, say, inOrder_cons, inOrder_nil, tell_andThen_tell]
  simp only [tell, Renderer.paragraph]
  split <;> simp

lemma noteBox_tell :
    noteBox (tell script) = tell fun r style => Renderer.noteBox (script r style) := by
  simp [noteBox, say, Renderer.noteBox]

lemma tableLine_map_tell (cells : List (Renderer → Style → Script)) :
    tableLine (cells.map tell)
      = tell fun r style => Renderer.tableLine (cells.map fun cell => cell r style) := by
  simp [tableLine, say, Renderer.tableLine, inOrder_map_tell, Function.comp_def, List.flatMap_map]

lemma table_map_tell (header : List (Renderer → Style → Script))
    (rows : List (List (Renderer → Style → Script))) :
    table (header.map tell) (rows.map (List.map tell)) = tell fun r style => Renderer.table
      (header.map fun cell => cell r { style with inTable := true })
      (rows.map (List.map fun cell => cell r { style with inTable := true })) := by
  have headerLine (count : Nat) := tableLine_map_tell (header ++ List.replicate count fun _ _ => [])
  have ruler (count : Nat) := tableLine_map_tell
    (List.replicate count fun _ _ => [.write "---".toList])
  simp only [List.map_append, List.map_replicate] at headerLine ruler
  simp only [table, say, List.map_map, Function.comp_def, tableLine_map_tell, headerLine, ruler,
    inOrder_map_tell]
  simp [Renderer.table, Style.set, List.flatMap_map, Function.comp_def]

lemma afterLeadIn_tell (name : String) :
    afterLeadIn name (tell script) = tell fun r style => match r.dialect.leadIn name with
      | some leadIn => r.plainText style leadIn ++ script r style
      | none => Renderer.unsupported (.other name) := by
  funext s
  simp only [afterLeadIn, inOrder_cons, inOrder_nil, tell_andThen_tell, List.append_nil, say, tell]
  split <;> rfl

lemma onPages_tell (kind : Kind) :
    onPages kind (tell script) = tell fun r style =>
      if r.dialect.resolver?.isSome then script r style else Renderer.unsupported kind := by
  funext s
  simp only [onPages, say, tell]
  split <;> rfl

end Act

/-! ## Walks -/

/-- **Visit.** What is done when a walk comes to a node, and what a node above it may ask of it: the
node, its children walked in order, and the contents of its children one by one. -/
structure Visit where
  node : Node
  act : Act
  content : Act
  cells : List Act

namespace Visit

/-- The visits of nodes, in order. -/
def joined (visits : List Visit) : Act := .inOrder (visits.map act)

/-- The visit of a plain text. -/
def ofText (t : Text) : Visit where
  node := .plainText t
  act := .tell fun r style => r.plainText style t
  content := joined []
  cells := []

/-- A visit stripped as its node is: `strip` is applied to the text of a plain text. -/
def strip (strip : Text → Text) (visit : Visit) : Visit :=
  match visit.node.plain? with
  | some text => ofText (strip text)
  | none => visit

/-- The visits of a paragraph with its ends trimmed. -/
def trimmed (visits : List Visit) : List Visit :=
  trimEnds (·.node.isBlank) (strip Text.trimStart) (strip Text.trimEnd) visits

/-- What is done at a node, given the visits of its children.  A node that writes none of them runs
its script. -/
def atNode (node : Node) (children : List Visit) : Act :=
  match node.kind, node.unlabelled with
  | .paragraph, _ => .paragraph (joined (trimmed children))
  | .group, _ => joined children
  | .other name, _ => .afterLeadIn name (joined children)
  | .emphasis, .emphasis e _ =>
    .onPages .emphasis (.withFlag .bold e.bold (.withFlag .italic e.italic (joined children)))
  | .noteBox, _ => .onPages .noteBox (.noteBox (joined children))
  | .table, .table header _ =>
    let headerCount := header.toList.length
    .onPages .table (.table ((children.take headerCount).flatMap cells)
      ((children.drop headerCount).map cells))
  | _, _ => .tell fun r style => r.rule node [] style

/-- The visit of a node, given the visits of its children. -/
def assemble (node : Node) (children : List Visit) : Visit where
  node := node
  act := atNode node children
  content := joined children
  cells := children.map (·.content)

end Visit

/-- The visit of a node. -/
def visit (node : Node) : Visit := node.fold Visit.assemble

/-- **Walk.** What is done in a session to write a tree. -/
def walk (node : Node) : Act := (visit node).act

lemma visit_eq (node : Node) : visit node = Visit.assemble node (node.children.map visit) :=
  Node.fold_eq _ node

lemma walk_eq (node : Node) : walk node = Visit.atNode node (node.children.map visit) := by
  rw [walk, visit_eq]
  rfl

@[simp] lemma node_visit (node : Node) : (visit node).node = node := by
  rw [visit_eq]
  rfl

lemma joined_map_visit (nodes : List Node) :
    Visit.joined (nodes.map visit) = .inOrder (nodes.map walk) := by
  rw [Visit.joined, List.map_map]
  rfl

lemma trimmed_map_visit (nodes : List Node) :
    Visit.trimmed (nodes.map visit) = (Node.trimmed nodes).map visit := by
  have strip (f : Text → Text) (node : Node) : Visit.strip f (visit node)
      = visit (match node.plain? with | some text => .plainText (f text) | none => node) := by
    simp only [Visit.strip, node_visit]
    cases node.plain? <;> rfl
  exact trimEnds_map (fun _ => by simp) (strip _) (strip _) nodes

/-- The cells of the visit of a row are walks over the contents of its cells. -/
lemma cells_visit (row : Node) :
    (visit row).cells = row.children.map fun cell => .inOrder (cell.children.map walk) := by
  have content (cell : Node) : (visit cell).content = .inOrder (cell.children.map walk) := by
    rw [visit_eq, ← joined_map_visit]
    rfl
  rw [visit_eq]
  simp [Visit.assemble, content]

/-! ### Walks run scripts -/

/-- Nodes that are visited by their scripts are walked by these, one after the other. -/
lemma inOrder_map_walk {nodes : List Node}
    (each : ∀ node ∈ nodes, walk node = .tell fun r style => r.script style node) :
    Act.inOrder (nodes.map walk) = .tell fun r style => nodes.flatMap (r.script style) := by
  rw [List.map_congr_left each, Act.inOrder_map_tell fun node r style => r.script style node]

/-- A paragraph's trimmed nodes are walked by their scripts if its nodes are. -/
lemma inOrder_map_walk_trimmed {nodes : List Node}
    (each : ∀ node ∈ nodes, walk node = .tell fun r style => r.script style node) :
    Act.inOrder ((Node.trimmed nodes).map walk)
      = .tell fun r style => (Node.trimmed nodes).flatMap (r.script style) := by
  apply inOrder_map_walk
  intro node member
  rcases Node.mem_trimmed member with inNodes | ⟨t, rfl⟩
  · exact each node inNodes
  · rfl

/-- A node of layout is walked by its script, for a dialect without pages too. -/
lemma onPages_tell_script {node : Node} (layout : node.kind ∈ Kind.Family.layout.members)
    {script : Renderer → Style → Script} (ofPages : ∀ {r : Renderer},
      r.dialect.resolver?.isSome = true → ∀ style, script r style = r.script style node) :
    Act.onPages node.kind (.tell script) = .tell fun r style => r.script style node := by
  rw [Act.onPages_tell]
  apply Act.tell_congr
  intro r style
  split
  next pages => exact ofPages pages style
  next noPages => exact (Renderer.script_eq_unsupported (by simpa using noPages) layout style).symm

/-- The scripts of the cells of a row, for any renderer and style. -/
def cellScripts (row : Node) : List (Renderer → Style → Script) :=
  row.children.map fun cell r style => cell.children.flatMap (r.script style)

/-- A table is walked by its script if the contents of its cells are. -/
lemma table_cells_visit {node : Node} (kind : node.kind = .table) {header : Option Node}
    {rows : List Node} (isTable : node.unlabelled = .table header rows)
    (ofParts : ∀ part ∈ node.parts, walk part = .tell fun r style => r.script style part) :
    Act.table (header.toList.flatMap fun row => (visit row).cells)
        (rows.map fun row => (visit row).cells)
      = .tell fun r style => Renderer.table (header.toList.flatMap (r.cellScripts style))
          (rows.map (r.cellScripts style)) := by
  have ofCells : ∀ row ∈ header.toList ++ rows,
      (visit row).cells = (cellScripts row).map .tell := by
    intro row inTable
    rw [cells_visit, cellScripts, List.map_map]
    apply List.map_congr_left
    intro cell inRow
    apply inOrder_map_walk
    intro part inCell
    apply ofParts
    simp only [Node.parts, kind, isTable]
    exact List.mem_flatMap.2 ⟨row, inTable, List.mem_flatMap.2 ⟨cell, inRow, inCell⟩⟩
  have ofHeader : (header.toList.flatMap fun row => (visit row).cells)
      = (header.toList.flatMap cellScripts).map .tell := by
    cases header with
    | none => rfl
    | some row => simpa using ofCells row (by simp)
  have ofRows : rows.map (fun row => (visit row).cells)
      = (rows.map cellScripts).map (List.map .tell) := by
    rw [List.map_map]
    exact List.map_congr_left fun row member => ofCells row (List.mem_append_right _ member)
  rw [ofHeader, ofRows, Act.table_map_tell]
  simp only [cellScripts, List.map_flatMap, List.map_map, Function.comp_def]
  rfl

/-- **A walk does what running the script does.** -/
theorem walk_eq_tell (node : Node) : walk node = .tell fun r style => r.script style node := by
  induction node using Node.parts_induction with
  | step node ofParts =>
    have ofChildren (notTable : node.kind ≠ .table) :
        ∀ child ∈ node.children, walk child = .tell fun r style => r.script style child := by
      rwa [Node.parts_eq_children notTable] at ofParts
    rw [walk_eq]
    unfold Visit.atNode
    split
    next kind =>
      have trimmed := inOrder_map_walk_trimmed (ofChildren (by simp [kind]))
      rw [trimmed_map_visit, joined_map_visit, trimmed, Act.paragraph_tell]
      exact Act.tell_congr fun r style => (r.script_of_paragraph kind style).symm
    next kind =>
      rw [joined_map_visit, inOrder_map_walk (ofChildren (by simp [kind]))]
      exact Act.tell_congr fun r style => (r.script_of_group kind style).symm
    next name kind =>
      rw [joined_map_visit, inOrder_map_walk (ofChildren (by simp [kind])), Act.afterLeadIn_tell]
      exact Act.tell_congr fun r style => (r.script_of_other kind style).symm
    next e nodes kind isEmphasis =>
      rw [joined_map_visit, inOrder_map_walk (ofChildren (by simp [kind])), Act.withFlag_tell,
        Act.withFlag_tell, ← kind]
      apply onPages_tell_script (by simp [kind, Kind.Family.members])
      intro r pages style
      exact (Renderer.script_of_emphasis pages kind isEmphasis style).symm
    next kind =>
      rw [joined_map_visit, inOrder_map_walk (ofChildren (by simp [kind])), Act.noteBox_tell,
        ← kind]
      apply onPages_tell_script (by simp [kind, Kind.Family.members])
      intro r pages style
      exact (Renderer.script_of_noteBox pages kind style).symm
    next header rows kind isTable =>
      have children : node.children = header.toList ++ rows := by
        rw [← Node.children_unlabelled, isTable]
        rfl
      have cells := table_cells_visit kind isTable ofParts
      simp only [children, List.map_append, List.take_left', List.drop_left', List.length_map,
        List.flatMap_map, List.map_map, Function.comp_def, cells]
      rw [← kind]
      apply onPages_tell_script (by simp [kind, Kind.Family.members])
      intro r pages style
      exact (Renderer.script_of_table pages kind isTable style).symm
    next noParagraph noGroup noOther noNoteBox noEmphasis noTable =>
      exact Act.tell_congr fun r style => (r.script_of_leaf noParagraph noGroup noOther noEmphasis
        noNoteBox noTable style).symm

/-- A walk does what a session does that is given the node. -/
theorem walk_eq_perform (node : Node) (s : Session) : walk node s = perform (.nodes [node]) s := by
  rw [walk_eq_tell, Act.tell, ← List.flatMap_singleton (s.renderer.script s.style) node]
  rfl

/-! ## What a walk puts back -/

/-- **Formatting kept.** One session has the formatting of another: the same style, prefixes and
default prefix, and a page that begins with what stood on the other's. -/
structure KeepsFormatting (before after : Session) : Prop where
  style_eq : after.style = before.style
  stack_eq : after.writer.indentation.stack = before.writer.indentation.stack
  defaultPrefix_eq : after.writer.defaultPrefix = before.writer.defaultPrefix
  contents_grow : before.writer.contents <+: after.writer.contents

/-- Running a script keeps the formatting. -/
lemma keepsFormatting_tell (script : Renderer → Style → Script) (s : Session) :
    KeepsFormatting s (Act.tell script s).state where
  style_eq := rfl
  stack_eq := congrArg Indentation.stack
    (Script.frame_run (script s.renderer s.style) s.writer).indentation_eq
  defaultPrefix_eq := (Script.frame_run (script s.renderer s.style) s.writer).defaultPrefix_eq
  contents_grow := (Script.frame_run (script s.renderer s.style) s.writer).contents_grow

/-- **A walk puts everything back.**  Writing a node, with the flags and prefixes that are set on
the way, does what the session does that is given the node; and whether it succeeds or fails, it
leaves the flags, the prefixes and the default prefix as they were, and what stood on the page. -/
theorem keepsFormatting_walk (node : Node) (s : Session) :
    walk node s = perform (.nodes [node]) s ∧ KeepsFormatting s (walk node s).state := by
  refine ⟨walk_eq_perform node s, ?_⟩
  rw [walk_eq_tell]
  exact keepsFormatting_tell _ s

/-- A failure below emphasis, inside a table and behind the prefix of a note box. -/
example :
    let s := Session.start (.page Resolver.empty) none ⟨false, true, false⟩ "kept ".toList
    let after := walk (.noteBox (.table none [.row [.cell (.emphasis ⟨false, true⟩
      [.plainText "a".toList, .paragraph [.codeSpan "b".toList, .other "c" []]])]])) s
    after.failure.isSome = true ∧ after.state.style = ⟨false, true, false⟩
      ∧ after.state.writer.indentation.stack = []
      ∧ after.state.writer.contents
        = "kept > |   |\n> |  --- |\n> |  <i>a</i><p>`b`".toList := by
  decide

end Session

end DocMarkdown
