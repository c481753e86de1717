import DocMarkdown.Proofs.Node.Links
import DocMarkdown.Proofs.Node.Trimming
import DocMarkdown.Renderer.Equations
import Mathlib.Data.List.Forall2

/-!
# Comparing scripts

Two renderings of one tree, or of two trees that differ in their links, can be compared link by
link.  A relation between scripts that holds of whatever does no more than write, and lasts when
scripts are put together, is a `Script.Congruence`.  If such a relation holds between what the two
renderings write for each link, it holds between what they write for the trees
(`Script.Congruence.script`).
-/

namespace DocMarkdown

/-- Whether a directive does no more than write or stop: it neither indents nor logs. -/
def Directive.isPlain : Directive → Bool
  | .indented .. | .log _ => false
  | _ => true

namespace Script

lemma log_run_of_isPlain {directive : Directive} (plain : directive.isPlain = true) (w : Writer) :
    (Script.run [directive] w).log = [] := by
  cases directive with
  | indented pre body => exact absurd plain Bool.false_ne_true
  | log entry => exact absurd plain Bool.false_ne_true
  | _ => rfl

lemma run_indented (pre : Text) (body : Script) (w : Writer) :
    Script.run [.indented pre body] w
      = (Script.run body (w.indent (some pre))).leave Writer.outdent? :=
  Outcome.andThen_done _

end Script

/-- **Congruence.** A relation between scripts that holds of what writes or stops, and lasts when
scripts are written one after the other or quoted.  Trees ask for no other indentation. -/
structure Script.Congruence (R : Script → Script → Prop) : Prop where
  nil : R [] []
  plain : ∀ {directive : Directive}, directive.isPlain = true → R [directive] [directive]
  append : ∀ {a a' b b' : Script}, R a a' → R b b' → R (a ++ b) (a' ++ b')
  quoted : ∀ {a a' : Script}, R a a' →
    R [.indented "> ".toList a] [.indented "> ".toList a']

namespace Script.Congruence

variable {R : Script → Script → Prop} (h : Congruence R)

include h

/-! ## Putting scripts together -/

lemma cons {directive : Directive} (plain : directive.isPlain = true) {a a' : Script}
    (rest : R a a') : R (directive :: a) (directive :: a') :=
  h.append (h.plain plain) rest

lemma self {script : Script} (plain : ∀ directive ∈ script, directive.isPlain = true) :
    R script script := by
  induction script with
  | nil => exact h.nil
  | cons directive rest ih =>
    obtain ⟨now, later⟩ := List.forall_mem_cons.1 plain
    exact h.cons now (ih later)

lemma flatMap {α β : Type} {S : α → β → Prop} {items : List α} {items' : List β}
    {f : α → Script} {g : β → Script} (related : List.Forall₂ S items items')
    (each : ∀ {item item'}, S item item' → R (f item) (g item')) :
    R (items.flatMap f) (items'.flatMap g) := by
  induction related with
  | nil => exact h.nil
  | cons now _ ih => exact h.append (each now) ih

lemma flatMap_self {α : Type} {items : List α} {f g : α → Script}
    (each : ∀ item ∈ items, R (f item) (g item)) : R (items.flatMap f) (items.flatMap g) := by
  have related : List.Forall₂ (fun item item' => R (f item) (g item')) items items :=
    List.forall₂_same.2 each
  exact h.flatMap related id

/-! ## Containers -/

lemma paragraph (style : Style) {content content' : Script} (inside : R content content') :
    R (Renderer.paragraph style content) (Renderer.paragraph style content') := by
  unfold Renderer.paragraph
  split
  · exact h.cons rfl (h.append inside (h.plain rfl))
  · exact h.append inside (h.self (by simp [Directive.isPlain]))

lemma noteBox {content content' : Script} (inside : R content content') :
    R (Renderer.noteBox content) (Renderer.noteBox content') := by
  have ended : R (content ++ [.freshLine]) (content' ++ [.freshLine]) :=
    h.append inside (h.plain rfl)
  exact h.cons rfl (h.append (h.quoted ended) (h.plain rfl))

lemma tableLine {cells cells' : List Script} (related : List.Forall₂ R cells cells') :
    R (Renderer.tableLine cells) (Renderer.tableLine cells') := by
  refine h.cons rfl (h.append (h.flatMap related fun inside => ?_) (h.plain rfl))
  exact h.cons rfl (h.append inside (h.plain rfl))

/-- Tables with related cells have the same shape, and so the same width. -/
lemma table {header header' : List Script} {rows rows' : List (List Script)}
    (titles : List.Forall₂ R header header') (body : List.Forall₂ (List.Forall₂ R) rows rows') :
    R (Renderer.table header rows) (Renderer.table header' rows') := by
  have widths : rows.map List.length = rows'.map List.length := by
    induction body with
    | nil => rfl
    | cons row _ ih => rw [List.map_cons, List.map_cons, row.length_eq, ih]
  have missing (count : Nat) :
      List.Forall₂ R (List.replicate count []) (List.replicate count []) :=
    List.forall₂_same.2 (List.forall_mem_replicate.2 (.inr h.nil))
  have rule (count : Nat) : R (Renderer.tableLine (List.replicate count [.write "---".toList]))
      (Renderer.tableLine (List.replicate count [.write "---".toList])) :=
    h.tableLine (List.forall₂_same.2 (List.forall_mem_replicate.2 (.inr (h.plain rfl))))
  unfold Renderer.table
  simp only [List.map_cons, titles.length_eq, widths]
  have headerLine (count : Nat) := h.tableLine (List.rel_append titles (missing count))
  have bodyLines := h.flatMap body fun row => h.tableLine row
  exact h.append (h.append (h.append (h.cons rfl (headerLine _)) (rule _)) bodyLines)
    (h.plain rfl)

end Script.Congruence

/-! ## Leaves -/

namespace Renderer

variable {r r' : Renderer} {f : Link → Link}

/-- Where there is no link to change, the rule of a node without children is the same for all
renderers of a dialect. -/
lemma rule_mapLinks (same : r'.dialect = r.dialect) {node : Node}
    (notLink : ∀ l, node.kind = .link → node.unlabelled ≠ .link l) (style : Style) :
    r'.rule (node.mapLinks f) [] style = r.rule node [] style := by
  obtain ⟨d, strict⟩ := r
  obtain ⟨d', strict'⟩ := r'
  obtain rfl : d' = d := same
  unfold rule commentRule layoutRule extensionRule
  rw [Node.kind_mapLinks, Node.unlabelled_mapLinks]
  generalize node.kind = kind, node.unlabelled = made at *
  cases made with
  | link l => cases kind <;> first | rfl | exact absurd rfl (notLink l rfl)
  | table header rows => cases header <;> cases kind <;> rfl
  | _ => cases kind <;> rfl

lemma isPlain_plainText (r : Renderer) (style : Style) (t : Text) :
    ∀ directive ∈ r.plainText style t, directive.isPlain = true := by
  unfold plainText
  dsimp only
  split <;> simp [Directive.isPlain]

lemma isPlain_linkText (r : Renderer) (style : Style) (l : Link) :
    ∀ directive ∈ r.linkText style l, directive.isPlain = true := by
  unfold linkText
  split
  · simp
  · exact r.isPlain_plainText style _

/-- The rule of a node without children writes or stops, unless the node is a link or a note box. -/
lemma isPlain_rule (r : Renderer) {node : Node} (notNoteBox : node.kind ≠ .noteBox)
    (notLink : ∀ l, node.kind = .link → node.unlabelled ≠ .link l) (style : Style) :
    ∀ directive ∈ r.rule node [] style, directive.isPlain = true := by
  have unsupported (kind : Kind) : ∀ directive ∈ unsupported kind, directive.isPlain = true := by
    simp [Renderer.unsupported, Directive.isPlain]
  rcases r.rule_cases node [] style with ⟨name, written⟩ | written | written
  · rw [written, extensionRule]
    split
    · simpa [joined] using r.isPlain_plainText style _
    · exact unsupported _
  · rw [written]
    split
    · unfold layoutRule
      split
      next => simp [joined]
      next => simp [Renderer.heading, Directive.isPlain]
      next _ isNoteBox => exact absurd isNoteBox notNoteBox
      next => simp [Renderer.table, Renderer.tableLine, Directive.isPlain]
      next => exact unsupported _
    · exact unsupported _
  · rw [written]
    unfold commentRule
    split
    case h_14 l isLink ofLink => exact absurd ofLink (notLink l isLink)
    case h_15 =>
      have nothing : joined (r.trimmed []) style = [] := rfl
      rw [nothing, paragraph]
      split <;> simp [Directive.isPlain]
    case h_17 => exact unsupported _
    all_goals first
      | exact r.isPlain_plainText style _
      | simp [codeSpan, fencedCode, joined, Directive.isPlain]

end Renderer

/-! ## Trees -/

namespace Script.Congruence

variable {R : Script → Script → Prop} (h : Congruence R) {r r' : Renderer} {f : Link → Link}

include h

lemma joined {style : Style} {nodes : List Node} (each : ∀ node ∈ nodes,
    R (r.script style node) (r'.script style (node.mapLinks f))) :
    R (nodes.flatMap (r.script style))
      ((nodes.map (Node.mapLinks f)).flatMap (r'.script style)) := by
  rw [List.flatMap_map]
  exact h.flatMap_self each

lemma joined_trimmed (same : r'.dialect = r.dialect) {style : Style} {nodes : List Node}
    (each : ∀ node ∈ nodes, R (r.script style node) (r'.script style (node.mapLinks f))) :
    R ((Node.trimmed nodes).flatMap (r.script style))
      ((Node.trimmed (nodes.map (Node.mapLinks f))).flatMap (r'.script style)) := by
  rw [Node.trimmed_map_mapLinks]
  apply h.joined
  intro node member
  rcases Node.mem_trimmed member with inNodes | ⟨t, rfl⟩
  · exact each node inNodes
  · have alike : r'.script style ((Node.plainText t).mapLinks f) = r.plainText style t := by
      show r'.plainText style t = r.plainText style t
      simp only [Renderer.plainText, same]
    rw [alike]
    exact h.self (r.isPlain_plainText style t)

/-! ### Containers -/

lemma script_of_paragraph (same : r'.dialect = r.dialect) {node : Node}
    (kind : node.kind = .paragraph) {style : Style}
    (each : ∀ child ∈ node.children, R (r.script style child) (r'.script style (child.mapLinks f))) :
    R (r.script style node) (r'.script style (node.mapLinks f)) := by
  have kind' : (node.mapLinks f).kind = .paragraph := by simpa using kind
  rw [Renderer.script_of_paragraph kind, Renderer.script_of_paragraph kind', Node.children_mapLinks]
  exact h.paragraph style (h.joined_trimmed same each)

lemma script_of_group {node : Node} (kind : node.kind = .group) {style : Style}
    (each : ∀ child ∈ node.children, R (r.script style child) (r'.script style (child.mapLinks f))) :
    R (r.script style node) (r'.script style (node.mapLinks f)) := by
  have kind' : (node.mapLinks f).kind = .group := by simpa using kind
  rw [Renderer.script_of_group kind, Renderer.script_of_group kind', Node.children_mapLinks]
  exact h.joined each

lemma script_of_other (same : r'.dialect = r.dialect) {node : Node} {name : String}
    (kind : node.kind = .other name) {style : Style}
    (each : ∀ child ∈ node.children, R (r.script style child) (r'.script style (child.mapLinks f))) :
    R (r.script style node) (r'.script style (node.mapLinks f)) := by
  have kind' : (node.mapLinks f).kind = .other name := by simpa using kind
  rw [Renderer.script_of_other kind, Renderer.script_of_other kind', Node.children_mapLinks, same]
  cases r.dialect.leadIn name with
  | none => exact h.self (by simp [Renderer.unsupported, Directive.isPlain])
  | some leadIn =>
    have alike : r'.plainText style leadIn = r.plainText style leadIn := by
      simp only [Renderer.plainText, same]
    simp only [alike]
    exact h.append (h.self (r.isPlain_plainText style leadIn)) (h.joined each)

/-- Without pages all that is layout is refused. -/
lemma script_of_layout (same : r'.dialect = r.dialect) (noPages : r.dialect.resolver? = none)
    {node : Node} (layout : node.kind ∈ Kind.Family.layout.members) (style : Style) :
    R (r.script style node) (r'.script style (node.mapLinks f)) := by
  have layout' : (node.mapLinks f).kind ∈ Kind.Family.layout.members := by simpa using layout
  have noPages' : r'.dialect.resolver? = none := by rwa [same]
  rw [Renderer.script_eq_unsupported noPages layout, Renderer.script_eq_unsupported noPages' layout',
    Node.kind_mapLinks]
  exact h.self (by simp [Renderer.unsupported, Directive.isPlain])

lemma script_of_emphasis (same : r'.dialect = r.dialect)
    (pages : r.dialect.resolver?.isSome = true) {node : Node} (kind : node.kind = .emphasis)
    {e : Emphasis} {nodes : List Node} (isEmphasis : node.unlabelled = .emphasis e nodes)
    {style : Style} (each : ∀ child ∈ node.children, ∀ style,
      R (r.script style child) (r'.script style (child.mapLinks f))) :
    R (r.script style node) (r'.script style (node.mapLinks f)) := by
  have kind' : (node.mapLinks f).kind = .emphasis := by simpa using kind
  have isEmphasis' : (node.mapLinks f).unlabelled = .emphasis e (Node.mapLinksAll f nodes) := by
    rw [Node.unlabelled_mapLinks, isEmphasis]
    rfl
  have pages' : r'.dialect.resolver?.isSome = true := by rwa [same]
  rw [Renderer.script_of_emphasis pages kind isEmphasis,
    Renderer.script_of_emphasis pages' kind' isEmphasis', Node.children_mapLinks]
  exact h.joined fun child member => each child member _

lemma script_of_noteBox (same : r'.dialect = r.dialect)
    (pages : r.dialect.resolver?.isSome = true) {node : Node} (kind : node.kind = .noteBox)
    {style : Style}
    (each : ∀ child ∈ node.children, R (r.script style child) (r'.script style (child.mapLinks f))) :
    R (r.script style node) (r'.script style (node.mapLinks f)) := by
  have kind' : (node.mapLinks f).kind = .noteBox := by simpa using kind
  have pages' : r'.dialect.resolver?.isSome = true := by rwa [same]
  rw [Renderer.script_of_noteBox pages kind, Renderer.script_of_noteBox pages' kind',
    Node.children_mapLinks]
  exact h.noteBox (h.joined each)

lemma cellScripts {style : Style} {row : Node} (each : ∀ cell ∈ row.children,
    ∀ part ∈ cell.children, R (r.script { style with inTable := true } part)
      (r'.script { style with inTable := true } (part.mapLinks f))) :
    List.Forall₂ R (r.cellScripts style row) (r'.cellScripts style (row.mapLinks f)) := by
  rw [Renderer.cellScripts, Renderer.cellScripts, Node.children_mapLinks, List.map_map,
    List.forall₂_map_left_iff, List.forall₂_map_right_iff, List.forall₂_same]
  intro cell inRow
  rw [Function.comp_apply, Node.children_mapLinks]
  exact h.joined (each cell inRow)

lemma script_of_table (same : r'.dialect = r.dialect) (pages : r.dialect.resolver?.isSome = true)
    {node : Node} (kind : node.kind = .table) {header : Option Node} {rows : List Node}
    (isTable : node.unlabelled = .table header rows) {style : Style}
    (ofParts : ∀ part ∈ node.parts, R (r.script { style with inTable := true } part)
      (r'.script { style with inTable := true } (part.mapLinks f))) :
    R (r.script style node) (r'.script style (node.mapLinks f)) := by
  have ofCells : ∀ row ∈ header.toList ++ rows,
      List.Forall₂ R (r.cellScripts style row) (r'.cellScripts style (row.mapLinks f)) := by
    intro row inTable
    apply h.cellScripts
    intro cell inRow part inCell
    apply ofParts
    simp only [Node.parts, kind, isTable]
    exact List.mem_flatMap.2 ⟨row, inTable, List.mem_flatMap.2 ⟨cell, inRow, inCell⟩⟩
  have kind' : (node.mapLinks f).kind = .table := by simpa using kind
  have isTable' : (node.mapLinks f).unlabelled
      = .table (header.map (Node.mapLinks f)) (rows.map (Node.mapLinks f)) := by
    rw [Node.unlabelled_mapLinks, isTable, Node.mapLinks_table]
  have pages' : r'.dialect.resolver?.isSome = true := by rwa [same]
  rw [Renderer.script_of_table pages kind isTable, Renderer.script_of_table pages' kind' isTable']
  apply h.table
  · cases header with
    | none => exact .nil
    | some row => simpa using ofCells row (by simp)
  · rw [List.map_map, List.forall₂_map_left_iff, List.forall₂_map_right_iff, List.forall₂_same]
    exact fun row member => ofCells row (List.mem_append_right _ member)

/-- A leaf that is not a link is written alike, and so is a node whose label makes a leaf of it. -/
lemma script_of_leaf (same : r'.dialect = r.dialect)
    (links : ∀ style l, R (r.link style l) (r'.link style (f l))) {node : Node}
    (noParagraph : node.kind ≠ .paragraph) (noGroup : node.kind ≠ .group)
    (noOther : ∀ name, node.kind ≠ .other name)
    (noEmphasis : ∀ e nodes, node.kind = .emphasis → node.unlabelled ≠ .emphasis e nodes)
    (noNoteBox : node.kind ≠ .noteBox)
    (noTable : ∀ header rows, node.kind = .table → node.unlabelled ≠ .table header rows)
    (style : Style) :
    R (r.script style node) (r'.script style (node.mapLinks f)) := by
  by_cases isLink : ∃ l, node.kind = .link ∧ node.unlabelled = .link l
  · obtain ⟨l, kind, ofLink⟩ := isLink
    have kind' : (node.mapLinks f).kind = .link := by simpa using kind
    have ofLink' : (node.mapLinks f).unlabelled = .link (f l) := by
      rw [Node.unlabelled_mapLinks, ofLink]
      rfl
    rw [Renderer.script_of_link kind ofLink, Renderer.script_of_link kind' ofLink']
    exact links style l
  · have notLink : ∀ l, node.kind = .link → node.unlabelled ≠ .link l := by
      intro l kind ofLink
      exact isLink ⟨l, kind, ofLink⟩
    have kindEq : (node.mapLinks f).kind = node.kind := Node.kind_mapLinks node
    have noEmphasis' : ∀ e nodes, (node.mapLinks f).kind = .emphasis →
        (node.mapLinks f).unlabelled ≠ .emphasis e nodes := by
      intro e nodes kind made
      rw [Node.unlabelled_mapLinks] at made
      obtain ⟨nodes', unchanged⟩ := Node.exists_of_mapLinks_eq_emphasis made
      exact noEmphasis e nodes' (kindEq ▸ kind) unchanged
    have noTable' : ∀ header rows, (node.mapLinks f).kind = .table →
        (node.mapLinks f).unlabelled ≠ .table header rows := by
      intro header rows kind made
      rw [Node.unlabelled_mapLinks] at made
      obtain ⟨header', rows', unchanged⟩ := Node.exists_of_mapLinks_eq_table made
      exact noTable header' rows' (kindEq ▸ kind) unchanged
    have leaf' := r'.script_of_leaf (kindEq ▸ noParagraph) (kindEq ▸ noGroup) (kindEq ▸ noOther)
      noEmphasis' (kindEq ▸ noNoteBox) noTable' style
    rw [r.script_of_leaf noParagraph noGroup noOther noEmphasis noNoteBox noTable, leaf',
      Renderer.rule_mapLinks same notLink]
    exact h.self (r.isPlain_rule noNoteBox notLink style)

/-! ### All trees -/

/-- **Trees are compared link by link.**  If what two renderers of one dialect write for links is
related, where the links of the second tree are changed, then so is what they write for trees. -/
theorem script (same : r'.dialect = r.dialect)
    (links : ∀ style l, R (r.link style l) (r'.link style (f l))) (tree : Node) (style : Style) :
    R (r.script style tree) (r'.script style (tree.mapLinks f)) := by
  induction tree using Node.parts_induction generalizing style with
  | step node ofParts =>
    have ofChildren (notTable : node.kind ≠ .table) : ∀ child ∈ node.children, ∀ style,
        R (r.script style child) (r'.script style (child.mapLinks f)) := by
      rwa [Node.parts_eq_children notTable] at ofParts
    by_cases isParagraph : node.kind = .paragraph
    · exact h.script_of_paragraph same isParagraph fun child member =>
        ofChildren (by simp [isParagraph]) child member style
    by_cases isGroup : node.kind = .group
    · exact h.script_of_group isGroup fun child member =>
        ofChildren (by simp [isGroup]) child member style
    by_cases isOther : ∃ name, node.kind = .other name
    · obtain ⟨name, kind⟩ := isOther
      exact h.script_of_other same kind fun child member =>
        ofChildren (by simp [kind]) child member style
    -- What is left is layout or a leaf, and layout is refused where there are no pages.
    by_cases refused : node.kind ∈ Kind.Family.layout.members ∧ r.dialect.resolver? = none
    · exact h.script_of_layout same refused.2 refused.1 style
    have pages (layout : node.kind ∈ Kind.Family.layout.members) :
        r.dialect.resolver?.isSome = true := by
      rw [Option.isSome_iff_ne_none]
      exact fun noPages => refused ⟨layout, noPages⟩
    by_cases isEmphasis : ∃ e nodes, node.kind = .emphasis ∧ node.unlabelled = .emphasis e nodes
    · obtain ⟨e, nodes, kind, made⟩ := isEmphasis
      exact h.script_of_emphasis same (pages (by simp [kind, Kind.Family.members])) kind made
        (ofChildren (by simp [kind]))
    by_cases isNoteBox : node.kind = .noteBox
    · exact h.script_of_noteBox same (pages (by simp [isNoteBox, Kind.Family.members])) isNoteBox
        fun child member => ofChildren (by simp [isNoteBox]) child member style
    by_cases isTable : ∃ header rows, node.kind = .table ∧ node.unlabelled = .table header rows
    · obtain ⟨header, rows, kind, made⟩ := isTable
      exact h.script_of_table same (pages (by simp [kind, Kind.Family.members])) kind made
        fun part member => ofParts part member _
    exact h.script_of_leaf same links isParagraph isGroup
      (fun name kind => isOther ⟨name, kind⟩)
      (fun e nodes kind made => isEmphasis ⟨e, nodes, kind, made⟩) isNoteBox
      (fun header rows kind made => isTable ⟨header, rows, kind, made⟩) style

end Script.Congruence

end DocMarkdown
