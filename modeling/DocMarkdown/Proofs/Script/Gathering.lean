import DocMarkdown.Proofs.Node.Trimming
import DocMarkdown.Renderer.Equations
import Mathlib.Data.List.Basic

/-!
# Gathering from scripts

The failures that a script names and the entries that it logs are gathered from it directive by
directive, and those directives that only write hold nothing to gather.  So what is gathered from
the script of a tree is gathered from the nodes of the tree that the renderer comes to, one by one:
neither the style in force, nor the layout around a node, nor the trimming of paragraphs has a say
in it (`Script.Gathering.flatMap_script`).
-/

namespace DocMarkdown

/-- Whether a directive does no more than write. -/
def Directive.isWriting : Directive → Bool
  | .indented .. | .log _ | .fail _ => false
  | _ => true

/-- **Gathering.** A way to gather from directives: nothing from those that only write, and what is
in it from an indented stretch. -/
structure Script.Gathering {α : Type} (f : Directive → List α) : Prop where
  writing : ∀ {directive : Directive}, directive.isWriting = true → f directive = []
  indented : ∀ (pre : Text) (body : Script), f (.indented pre body) = body.flatMap f

namespace Renderer

variable {r : Renderer}

/-! ## What a renderer does with a node -/

lemma plainText_of_blank {style : Style} {t : Text} (blank : (Text.surround t).core = []) :
    r.plainText style t = [.write (Text.surround t).lead, .write (Text.surround t).trail] := by
  simp [plainText, blank]

/-- A text that is not blank is kept apart and emphasised between its outer blanks. -/
lemma plainText_of_core {style : Style} {t : Text} (nonempty : (Text.surround t).core ≠ []) :
    r.plainText style t
      = [.write (Text.surround t).lead, .separate,
          .write (style.openTags ++ r.dialect.escape (Text.surround t).core ++ style.closeTags),
          .write (Text.surround t).trail] := by
  simp [plainText, nonempty]

/-- A node of a kind without a rule is refused, whatever is below it. -/
lemma script_of_not_writes {node : Node} (noRule : r.dialect.writes node.kind = false)
    (style : Style) : r.script style node = unsupported node.kind := by
  rw [script_eq, rule]
  cases kind : node.kind with
  | other name =>
    have noLeadIn : r.dialect.leadIn name = none := by simpa [kind, Dialect.writes] using noRule
    simp [extensionRule, noLeadIn]
  | emphasis | heading | noteBox | table =>
    have noPages : r.dialect.resolver? = none := by simpa [kind, Dialect.writes] using noRule
    simp [noPages]
  | row | cell => simp [layoutRule, kind]
  | _ => simp [kind, Dialect.writes] at noRule

lemma writes_of_enters {d : Dialect} {kind : Kind} (enters : d.enters kind = true) :
    d.writes kind = true := by
  cases kind <;> simp_all [Dialect.enters, Dialect.writes]

end Renderer

namespace Script.Gathering

open Renderer

variable {α : Type} {f : Directive → List α} (h : Gathering f)

include h

/-! ## Putting scripts together -/

lemma of_isWriting {script : Script} (writing : ∀ directive ∈ script, directive.isWriting = true) :
    script.flatMap f = [] :=
  List.flatMap_eq_nil_iff.2 fun directive member => h.writing (writing directive member)

lemma plainText (r : Renderer) (style : Style) (t : Text) :
    (r.plainText style t).flatMap f = [] := by
  apply h.of_isWriting
  by_cases blank : (Text.surround t).core = []
  · simp [plainText_of_blank blank, Directive.isWriting]
  · simp [plainText_of_core blank, Directive.isWriting]

lemma linkText (r : Renderer) (style : Style) (l : Link) :
    (r.linkText style l).flatMap f = [] := by
  unfold Renderer.linkText
  split
  · rfl
  · exact h.plainText r style _

lemma paragraph (style : Style) (content : Script) :
    (Renderer.paragraph style content).flatMap f = content.flatMap f := by
  have ofWrite (t : Text) : f (.write t) = [] := h.writing rfl
  have ofFreshLine : f .freshLine = [] := h.writing rfl
  have ofEndLine : f .endLine = [] := h.writing rfl
  unfold Renderer.paragraph
  split <;> simp [ofWrite, ofFreshLine, ofEndLine]

lemma noteBox (content : Script) : (Renderer.noteBox content).flatMap f = content.flatMap f := by
  have ofFreshLine : f .freshLine = [] := h.writing rfl
  have ofEndLine : f .endLine = [] := h.writing rfl
  simp [Renderer.noteBox, h.indented, ofFreshLine, ofEndLine]

lemma tableLine (cells : List Script) :
    (Renderer.tableLine cells).flatMap f = cells.flatMap fun cell => cell.flatMap f := by
  have ofWrite (t : Text) : f (.write t) = [] := h.writing rfl
  have ofEndLine : f .endLine = [] := h.writing rfl
  simp [Renderer.tableLine, List.flatMap_assoc, ofWrite, ofEndLine]

lemma table (header : List Script) (rows : List (List Script)) :
    (Renderer.table header rows).flatMap f
      = (header.flatMap fun cell => cell.flatMap f)
        ++ rows.flatMap fun row => row.flatMap fun cell => cell.flatMap f := by
  have ofBlankLine : f .blankLine = [] := h.writing rfl
  have ofEndLine : f .endLine = [] := h.writing rfl
  have ofWrite (t : Text) : f (.write t) = [] := h.writing rfl
  have padding (width : Nat) :
      ((List.replicate width ([] : Script)).flatMap fun cell => cell.flatMap f) = [] := by
    simp
  simp [Renderer.table, h.tableLine, List.flatMap_assoc, padding, ofBlankLine, ofEndLine, ofWrite]

/-! ## Trees -/

variable {r : Renderer}

/-- From a paragraph is gathered what is gathered from its nodes: nothing is lost where it is
trimmed. -/
lemma script_paragraph (style : Style) {nodes : List Node}
    (bare : ∀ node ∈ nodes, node.isLabelled = false) :
    (r.script style (.paragraph nodes)).flatMap f
      = nodes.flatMap fun node => (r.script style node).flatMap f := by
  have ofBreak : (r.script style .softBreak).flatMap f = [] :=
    h.of_isWriting (List.forall_mem_singleton.2 rfl)
  rw [Renderer.script_paragraph, h.paragraph, List.flatMap_assoc]
  exact Node.flatMap_trimmed (fun t => h.plainText r style t) ofBreak bare

/-- From a table is gathered what is gathered from the contents of its cells. -/
lemma script_table (pages : r.dialect.resolver?.isSome = true) (style : Style)
    (header : Option Node) (rows : List Node) :
    (r.script style (.table header rows)).flatMap f
      = (Node.table header rows).parts.flatMap fun part =>
          (r.script { style with inTable := true } part).flatMap f := by
  have ofRow (row : Node) : ((r.cellScripts style row).flatMap fun cell => cell.flatMap f)
      = (row.children.flatMap Node.children).flatMap fun part =>
          (r.script { style with inTable := true } part).flatMap f := by
    simp [cellScripts, List.flatMap_map, List.flatMap_assoc]
  rw [Renderer.script_table pages, h.table, List.flatMap_assoc, List.flatMap_map]
  simp only [ofRow, ← List.flatMap_append]
  exact (List.flatMap_assoc ..).symm

/-- **From the script of a tree is gathered what is gathered from the nodes that the renderer comes
to**, in any style: of those only links and nodes without a rule have something of their own. -/
theorem flatMap_script (own : Node → List α)
    (refused : ∀ node : Node, r.dialect.writes node.kind = false →
      f (.fail (.fault (.unsupportedKind node.kind.name))) = own node)
    (links : ∀ style l, (r.link style l).flatMap f = own (.link l))
    (silent : ∀ node : Node, r.dialect.writes node.kind = true → (∀ l, node ≠ .link l) →
      own node = [])
    (tree : Node) (bare : tree.labelFree = true) (style : Style) :
    (r.script style tree).flatMap f = (tree.visited r.dialect).flatMap own := by
  induction tree using Node.parts_induction generalizing style with
  | step node ih =>
    have bareParts : ∀ part ∈ node.parts, part.labelFree = true := Node.every_parts bare
    rw [Node.visited_eq, List.flatMap_cons]
    -- From a container is gathered what is gathered from its parts, whatever the style inside it.
    have ofParts (entered : r.dialect.enters node.kind = true) (noLink : ∀ l, node ≠ .link l)
        (style : Style) : (node.parts.flatMap fun part => (r.script style part).flatMap f)
          = own node ++ (if r.dialect.enters node.kind then
              node.parts.flatMap (Node.visited r.dialect) else []).flatMap own := by
      rw [silent node (writes_of_enters entered) noLink, if_pos entered, List.flatMap_assoc]
      exact List.flatMap_congr fun part member => ih part member (bareParts part member) style
    have ofLeaf (hasRule : r.dialect.writes node.kind = true)
        (leaf : r.dialect.enters node.kind = false) (noLink : ∀ l, node ≠ .link l) :
        own node ++ (if r.dialect.enters node.kind then
          node.parts.flatMap (Node.visited r.dialect) else []).flatMap own = [] := by
      simp [silent node hasRule noLink, leaf]
    cases hasRule : r.dialect.writes node.kind with
    | false =>
      have notEntered : r.dialect.enters node.kind = false := by
        cases entered : r.dialect.enters node.kind with
        | false => rfl
        | true => exact (writes_of_enters entered).symm.trans hasRule
      simp [script_of_not_writes hasRule, unsupported, refused node hasRule, notEntered]
    | true =>
      cases node with
      | link l => simp [script_link, links, Dialect.enters, Node.kind]
      | paragraph nodes =>
        have unlabelled : ∀ node ∈ nodes, node.isLabelled = false := by
          intro node member
          simpa using Node.every_self (bareParts node member)
        rw [h.script_paragraph style unlabelled]
        exact ofParts rfl (by simp) style
      | group nodes =>
        rw [script_group, List.flatMap_assoc]
        exact ofParts rfl (by simp) style
      | emphasis e nodes =>
        rw [script_emphasis hasRule, List.flatMap_assoc]
        exact ofParts hasRule (by simp) _
      | noteBox content =>
        have ofContent := ofParts hasRule (by simp) style
        rw [script_noteBox hasRule, h.noteBox, ← ofContent]
        exact (List.flatMap_singleton ..).symm
      | table header rows =>
        rw [h.script_table hasRule]
        exact ofParts hasRule (by simp) _
      | other name nodes =>
        obtain ⟨leadIn, known⟩ := Option.isSome_iff_exists.1 hasRule
        rw [script_other, known]
        simp only [List.flatMap_append, h.plainText, List.nil_append, List.flatMap_assoc]
        exact ofParts hasRule (by simp) style
      | labelled kind node => simpa [Node.isLabelled] using Node.every_self bare
      | heading title level =>
        rw [ofLeaf hasRule rfl (by simp), script_heading hasRule]
        exact h.of_isWriting (by simp [heading, Directive.isWriting])
      | plainText t | escapedText t _ | errorText t _ =>
        rw [ofLeaf hasRule rfl (by simp)]
        exact h.plainText r style _
      | fencedCode code language =>
        rw [ofLeaf hasRule rfl (by simp), script_fencedCode]
        exact h.of_isWriting (by simp [fencedCode, Directive.isWriting])
      | softBreak | startTag _ | endTag _ | codeSpan _ =>
        rw [ofLeaf hasRule rfl (by simp)]
        exact h.of_isWriting (List.forall_mem_singleton.2 rfl)
      | row cells => exact absurd hasRule Bool.false_ne_true
      | cell content => exact absurd hasRule Bool.false_ne_true

end Script.Gathering

end DocMarkdown
