import DocMarkdown.Proofs.Render.Faults
import DocMarkdown.Proofs.Text.Markup

/-!
# Running text cannot inject markup

A page of text, emphasis, paragraphs, headings, note boxes and tables is marked up soundly, whatever
characters are in its texts.

The proof is by what a script adds to the page.  A script is `Sound` if it adds tokens whose tags
are balanced, behind any margin of ordinary characters and whatever stands on the page before it.
So sound scripts can be run one after the other, indented, and put between the tags of an element,
and the script of a tree is put together in no other way.  A margin has to be thought of because it
may come between any two characters that are written, but it cannot come into a token.
-/

namespace DocMarkdown

/-! ## Tokens behind a margin -/

namespace Typing

variable {margin : Text}

/-- A token that is no carriage return is written as one, with the margin in front of it if it
begins a line. -/
lemma write_text {token : Token} (isChar : token.isReturn = false) (written : Text) :
    write margin written token.text
      = (if atLineStart written then written ++ margin else written) ++ token.text := by
  have noReturn := Token.return_not_mem_text isChar
  by_cases feed : '\n' ∈ token.text
  · rw [Token.text_eq_singleton (.inl rfl) feed]
    rfl
  · obtain ⟨first, tail, isCons, -⟩ := token.exists_text_eq_cons
    have nonempty : token.text ≠ [] := by
      rw [isCons]
      exact List.cons_ne_nil first tail
    exact write_of_line feed noReturn nonempty

/-- Writing a token behind an ordinary margin adds tokens with the same mark. -/
lemma exists_write_text_eq (ordinary : margin.Ordinary) (written : Text) (token : Token) :
    ∃ added, write margin written token.text = written ++ Token.spell added
      ∧ added.filterMap Token.mark? = [token].filterMap Token.mark? := by
  cases isChar : token.isReturn with
  | true =>
    have noMark : token.mark? = none := by
      cases token with
      | mark m =>
        obtain ⟨tail, isMark, -⟩ := m.exists_text_eq
        have isReturn : '<' :: tail = ['\r'] := isMark.symm.trans (beq_iff_eq.1 isChar)
        exact absurd (List.cons.inj isReturn).1 (by decide)
      | _ => rfl
    refine ⟨[], ?_, ?_⟩
    · rw [← write_dropReturns, Token.dropReturns_text, isChar]
      exact (List.append_nil _).symm
    · rw [List.filterMap_cons, noMark]
  | false =>
    -- The margin is made of tokens too, so that it can go in front of this one.
    obtain ⟨front, spelled, -, markless⟩ := Token.exists_spell_eq ordinary
    rw [write_text isChar]
    split
    · refine ⟨front ++ [token], ?_, ?_⟩
      · rw [Token.spell_append, spelled, ← List.append_assoc, Token.spell_cons, Token.spell_nil,
          List.append_nil]
      · rw [List.filterMap_append, markless, List.nil_append]
    · refine ⟨[token], ?_, rfl⟩
      rw [Token.spell_cons, Token.spell_nil, List.append_nil]

lemma exists_write_spell_eq (ordinary : margin.Ordinary) (written : Text) (tokens : List Token) :
    ∃ added, write margin written (Token.spell tokens) = written ++ Token.spell added
      ∧ added.filterMap Token.mark? = tokens.filterMap Token.mark? := by
  induction tokens generalizing written with
  | nil => exact ⟨[], (List.append_nil _).symm, rfl⟩
  | cons token rest ih =>
    obtain ⟨first, wroteFirst, firstMarks⟩ := exists_write_text_eq ordinary written token
    obtain ⟨others, wroteOthers, otherMarks⟩ := ih (written ++ Token.spell first)
    refine ⟨first ++ others, ?_, ?_⟩
    · rw [Token.spell_cons, write_append, wroteFirst, wroteOthers, Token.spell_append,
        List.append_assoc]
    · rw [List.filterMap_append, firstMarks, otherMarks, ← List.filterMap_append]
      rfl

end Typing

/-! ## Sound scripts -/

/-- **A text continues another one soundly** if it goes on with tokens whose tags are balanced. -/
def Text.Continues (written out : Text) : Prop :=
  ∃ tokens, out = written ++ Token.spell tokens ∧ Mark.Balanced (tokens.filterMap Token.mark?)

namespace Text.Continues

lemma refl (written : Text) : Continues written written := ⟨[], (List.append_nil _).symm, .nil⟩

lemma trans {s t u : Text} (first : Continues s t) (second : Continues t u) : Continues s u := by
  obtain ⟨tokens, rfl, balanced⟩ := first
  obtain ⟨more, rfl, balanced'⟩ := second
  refine ⟨tokens ++ more, ?_, ?_⟩
  · rw [Token.spell_append, List.append_assoc]
  · rw [List.filterMap_append]
    exact balanced.append balanced'

end Text.Continues

namespace Typing

variable {margin : Text}

lemma continues_write (ordinary : margin.Ordinary) (written : Text) {tokens : List Token}
    (balanced : Mark.Balanced (tokens.filterMap Token.mark?)) :
    Text.Continues written (write margin written (Token.spell tokens)) := by
  obtain ⟨added, wrote, marks⟩ := exists_write_spell_eq ordinary written tokens
  refine ⟨added, wrote, ?_⟩
  rwa [marks]

lemma continues_put_lineFeed (ordinary : margin.Ordinary) (written : Text) :
    Text.Continues written (put margin written '\n') := by
  have asToken : put margin written '\n'
      = write margin written (Token.spell [.plain '\n' (by decide)]) := rfl
  rw [asToken]
  exact continues_write ordinary written .nil

lemma continues_freshLine (ordinary : margin.Ordinary) (written : Text) :
    Text.Continues written (freshLine margin written) := by
  unfold freshLine
  split
  · exact .refl written
  · exact continues_put_lineFeed ordinary written

end Typing

/-- **Sound scripts.** A script is sound if it adds tokens whose tags are balanced, behind any
margin of ordinary characters and whatever was written before, unless it fails. -/
def Script.Sound (script : Script) : Prop :=
  Script.failures script = [] → ∀ margin : Text, margin.Ordinary →
    ∀ written, Text.Continues written (Script.extend margin script written)

namespace Script.Sound

lemma nil : Sound [] := by
  intro _ margin _ written
  exact .refl written

lemma append {first second : Script} (h : Sound first) (h' : Sound second) :
    Sound (first ++ second) := by
  intro succeeds margin ordinary written
  obtain ⟨now, later⟩ := List.append_eq_nil_iff.1 (failures_append first second ▸ succeeds)
  rw [extend_append now]
  exact (h now margin ordinary written).trans (h' later margin ordinary _)

lemma flatMap {α : Type} {items : List α} {f : α → Script} (each : ∀ item ∈ items, Sound (f item)) :
    Sound (items.flatMap f) :=
  flatMap_induction nil append each

lemma cons {directive : Directive} {rest : Script} (h : Sound [directive]) (h' : Sound rest) :
    Sound (directive :: rest) := h.append h'

lemma of_extend {directive : Directive} (extends_ : ∀ margin : Text, margin.Ordinary → ∀ written,
    Text.Continues written (directive.extend margin written)) : Sound [directive] := by
  intro succeeds margin ordinary written
  have alone : directive.failures = [] := by simpa using succeeds
  rw [extend_cons alone, extend_nil]
  exact extends_ margin ordinary written

lemma of_failures {script : Script} (fails : Script.failures script ≠ []) : Sound script := by
  intro succeeds
  exact absurd succeeds fails

/-! ### Directives -/

lemma write_spell {tokens : List Token} (balanced : Mark.Balanced (tokens.filterMap Token.mark?)) :
    Sound [.write (Token.spell tokens)] := by
  refine of_extend fun margin ordinary written => ?_
  show Text.Continues written (Typing.write margin written (Token.spell tokens))
  exact Typing.continues_write ordinary written balanced

lemma write {t : Text} (ordinary : t.Ordinary) : Sound [.write t] := by
  obtain ⟨tokens, spelled, -, markless⟩ := Token.exists_spell_eq ordinary
  rw [← spelled]
  refine write_spell ?_
  rw [markless]
  exact .nil

/-- Escaped text is sound, behind ordinary text that is written with it. -/
lemma write_append_escape {pre : Text} (ordinary : pre.Ordinary) (t : Text) :
    Sound [.write (pre ++ t.escape)] := by
  obtain ⟨tokens, spelled, -, markless⟩ := Token.exists_spell_eq ordinary
  rw [← spelled, ← Text.spell_tokens, ← Token.spell_append]
  refine write_spell ?_
  rw [List.filterMap_append, markless, List.filterMap_eq_nil_iff.2 t.mark?_tokens]
  exact .nil

lemma endLine : Sound [.endLine] := by
  refine of_extend fun margin ordinary written => ?_
  show Text.Continues written (Typing.put margin written '\n')
  exact Typing.continues_put_lineFeed ordinary written

lemma freshLine : Sound [.freshLine] := by
  refine of_extend fun margin ordinary written => ?_
  show Text.Continues written (Typing.freshLine margin written)
  exact Typing.continues_freshLine ordinary written

lemma blankLine : Sound [.blankLine] := by
  refine of_extend fun margin ordinary written => ?_
  have fresh := Typing.continues_freshLine ordinary written
  show Text.Continues written (Typing.blankLine margin written)
  unfold Typing.blankLine
  split
  · exact fresh.trans (Typing.continues_put_lineFeed ordinary _)
  · exact fresh

lemma softBreak : Sound [.softBreak] := by
  refine of_extend fun margin ordinary written => ?_
  have space : Typing.write margin written [' ']
      = Typing.write margin written (Token.spell [.plain ' ' (by decide)]) := rfl
  show Text.Continues written (Typing.softBreak margin written)
  unfold Typing.softBreak
  split
  · rw [space]
    exact Typing.continues_write ordinary written .nil
  · exact .refl written

lemma separate : Sound [.separate] := by
  refine of_extend fun margin ordinary written => ?_
  have mark : Typing.write margin written Writer.separator
      = Typing.write margin written (Token.spell [.mark .separator]) := rfl
  show Text.Continues written (Typing.separate margin written)
  unfold Typing.separate
  split
  · rw [mark]
    exact Typing.continues_write ordinary written (.separator .nil)
  · exact .refl written

lemma indented {pre : Text} (ordinary : pre.Ordinary) {body : Script} (h : Sound body) :
    Sound [.indented pre body] := by
  intro succeeds margin ordinary' written
  have inside : Script.failures body = [] := by simpa using succeeds
  have longer : Text.Ordinary (margin ++ pre) := Text.Avoids.append ordinary' ordinary
  have alone : Directive.failures (.indented pre body) = [] := inside
  rw [extend_cons alone, extend_nil]
  exact h inside (margin ++ pre) longer written

/-- **A sound script stays sound between the tags of an element.** -/
lemma element (e : Element) {body : Script} (h : Sound body) :
    Sound (.write (Mark.opening e).text :: body ++ [.write (Mark.closing e).text]) := by
  intro succeeds margin ordinary written
  have inside : Script.failures body = [] := by simpa using succeeds
  obtain ⟨opening, wroteOpening, openingMarks⟩ :=
    Typing.exists_write_text_eq ordinary written (.mark (.opening e))
  obtain ⟨within, wroteWithin, balanced⟩ :=
    h inside margin ordinary (written ++ Token.spell opening)
  obtain ⟨closing, wroteClosing, closingMarks⟩ :=
    Typing.exists_write_text_eq ordinary (written ++ Token.spell opening ++ Token.spell within)
      (.mark (.closing e))
  refine ⟨opening ++ (within ++ closing), ?_, ?_⟩
  · have afterOpening : Directive.extend margin (.write (Mark.opening e).text) written
        = written ++ Token.spell opening := wroteOpening
    have afterClosing : Directive.extend margin (.write (Mark.closing e).text)
        (written ++ Token.spell opening ++ Token.spell within)
        = written ++ Token.spell opening ++ Token.spell within ++ Token.spell closing :=
      wroteClosing
    rw [List.cons_append, extend_cons rfl, extend_append inside, afterOpening, wroteWithin,
      extend_cons rfl, extend_nil, afterClosing, Token.spell_append, Token.spell_append,
      List.append_assoc, List.append_assoc]
  · rw [List.filterMap_append, List.filterMap_append, openingMarks, closingMarks]
    exact .element e balanced .nil

end Script.Sound

/-! ## Trees -/

/-- Whether a node is of a kind that makes pages of text. -/
def Node.isTextual : Node → Bool
  | plainText _ | escapedText .. | errorText .. | softBreak | group _ | paragraph _ | emphasis ..
  | heading .. | noteBox _ | table .. | row _ | cell _ => true
  | _ => false

lemma Style.balanced_tokens (style : Style) (t : Text) :
    Mark.Balanced ((style.tokens t).filterMap Token.mark?) := by
  have markless : t.tokens.filterMap Token.mark? = [] :=
    List.filterMap_eq_nil_iff.2 t.mark?_tokens
  have ofMarks (marks : List Mark) : (marks.map .mark).filterMap Token.mark? = marks := by
    rw [List.filterMap_map]
    exact List.filterMap_some
  have marks : (style.tokens t).filterMap Token.mark? = style.openMarks ++ style.closeMarks := by
    rw [tokens, List.filterMap_append, List.filterMap_append, markless, ofMarks, ofMarks,
      List.nil_append]
  rw [marks]
  rcases style with ⟨_, _ | _, _ | _⟩
  · exact .nil
  · exact .element .italic .nil .nil
  · exact .element .bold .nil .nil
  · exact .element .bold (.element .italic .nil .nil) .nil

namespace Renderer

variable {r : Renderer}

lemma sound_plainText (escapes : r.dialect.escape = Text.escape) (style : Style) (t : Text) :
    Script.Sound (r.plainText style t) := by
  have lead : Script.Sound [.write (Text.surround t).lead] :=
    .write (Text.ordinary_of_blank fun _ => Text.isBlank_of_mem_lead)
  have trail : Script.Sound [.write (Text.surround t).trail] :=
    .write (Text.ordinary_of_blank fun _ => Text.isBlank_of_mem_trail)
  by_cases blank : (Text.surround t).core = []
  · rw [plainText_of_blank blank]
    exact lead.cons trail
  · rw [plainText_of_core blank, escapes, ← Style.spell_tokens]
    have core := Script.Sound.write_spell (style.balanced_tokens (Text.surround t).core)
    exact lead.cons (Script.Sound.separate.cons (core.cons trail))

lemma sound_heading (escapes : r.dialect.escape = Text.escape) (title : Text)
    (level : HeadingLevel) : Script.Sound (r.heading title level) := by
  have ordinary : Text.Ordinary (headingMarks level ++ [' ']) := by
    unfold headingMarks
    split <;> decide
  have line : Script.Sound [.write (headingMarks level ++ ' ' :: title.escape)] := by
    have written := Script.Sound.write_append_escape ordinary title
    rwa [List.append_assoc, List.singleton_append] at written
  rw [heading, escapes]
  exact .cons .blankLine (line.cons (.cons .endLine .endLine))

lemma sound_noteBox {content : Script} (h : Script.Sound content) :
    Script.Sound (noteBox content) := by
  have inside : Script.Sound (content ++ [.freshLine]) := h.append .freshLine
  have quoted : Script.Sound [.indented "> ".toList (content ++ [.freshLine])] :=
    .indented (by decide) inside
  exact .cons .freshLine (quoted.cons .endLine)

lemma sound_tableLine {cells : List Script} (each : ∀ cell ∈ cells, Script.Sound cell) :
    Script.Sound (tableLine cells) := by
  have bar : Script.Sound [.write " |".toList] := .write (by decide)
  have space : Script.Sound [.write [' ']] := .write (by decide)
  have start : Script.Sound [.write "| ".toList] := .write (by decide)
  have boxed : ∀ cell ∈ cells, Script.Sound (.write [' '] :: cell ++ [.write " |".toList]) := by
    intro cell member
    exact space.cons ((each cell member).append bar)
  exact start.cons ((Script.Sound.flatMap boxed).append .endLine)

lemma sound_table {header : List Script} {rows : List (List Script)}
    (ofHeader : ∀ cell ∈ header, Script.Sound cell)
    (ofRows : ∀ row ∈ rows, ∀ cell ∈ row, Script.Sound cell) :
    Script.Sound (table header rows) := by
  have dashes : Script.Sound [.write "---".toList] := .write (by decide)
  have padded (width : Nat) :
      ∀ cell ∈ header ++ List.replicate (width - header.length) [], Script.Sound cell := by
    intro cell member
    rcases List.mem_append.1 member with inHeader | inPadding
    · exact ofHeader cell inHeader
    · rw [List.eq_of_mem_replicate inPadding]
      exact .nil
  have ruled (width : Nat) :
      ∀ cell ∈ List.replicate width [Directive.write "---".toList], Script.Sound cell := by
    intro cell member
    rw [List.eq_of_mem_replicate member]
    exact dashes
  have body : Script.Sound (rows.flatMap tableLine) := by
    apply Script.Sound.flatMap
    intro row member
    exact sound_tableLine (ofRows row member)
  have titles (width : Nat) := sound_tableLine (padded width)
  have rule (width : Nat) := sound_tableLine (ruled width)
  exact .cons .blankLine ((((titles _).append (rule _)).append body).append .endLine)

lemma sound_paragraph {style : Style} {content : Script} (h : Script.Sound content) :
    Script.Sound (paragraph style content) := by
  unfold paragraph
  split
  · exact .element .paragraph h
  · exact h.append (.cons .freshLine .endLine)

/-- The contents of the cells of a row are parts of the table that the row is in. -/
lemma sound_cellScripts {style : Style} {header : Option Node} {rows : List Node}
    (ofParts : ∀ part ∈ (Node.table header rows).parts,
      Script.Sound (r.script { style with inTable := true } part))
    {row : Node} (inTable : row ∈ header.toList ++ rows) :
    ∀ cell ∈ r.cellScripts style row, Script.Sound cell := by
  intro script member
  obtain ⟨cell, inRow, rfl⟩ := List.mem_map.1 member
  apply Script.Sound.flatMap
  intro part inCell
  apply ofParts part
  show part ∈ (header.toList ++ rows).flatMap fun row => row.children.flatMap Node.children
  exact List.mem_flatMap.2 ⟨row, inTable, List.mem_flatMap.2 ⟨cell, inRow, inCell⟩⟩

/-- **The script of a page of text is sound**, in any style. -/
theorem sound_script (pages : r.dialect.resolver?.isSome = true)
    (escapes : r.dialect.escape = Text.escape) {tree : Node}
    (textual : tree.every Node.isTextual = true) (style : Style) :
    Script.Sound (r.script style tree) := by
  induction tree using Node.parts_induction generalizing style with
  | step node ih =>
    have textualParts := Node.every_parts textual
    have ofParts : ∀ part ∈ node.parts, ∀ style, Script.Sound (r.script style part) := by
      intro part member style
      exact ih part member (textualParts part member) style
    have ofSelf := Node.every_self textual
    cases node with
    | plainText t | escapedText t _ | errorText t _ => exact sound_plainText escapes style t
    | softBreak => exact .softBreak
    | group nodes =>
      rw [script_group]
      apply Script.Sound.flatMap
      intro node member
      exact ofParts node member style
    | paragraph nodes =>
      rw [script_paragraph]
      apply sound_paragraph
      apply Script.Sound.flatMap
      intro node member
      -- Trimming leaves nodes of the paragraph, and texts that need not be among them.
      rcases Node.mem_trimmed member with inNodes | ⟨t, rfl⟩
      · exact ofParts node inNodes style
      · exact sound_plainText escapes style t
    | emphasis e nodes =>
      rw [script_emphasis pages]
      apply Script.Sound.flatMap
      intro node member
      exact ofParts node member _
    | heading title level =>
      rw [script_heading pages]
      exact sound_heading escapes title level
    | noteBox content =>
      rw [script_noteBox pages]
      exact sound_noteBox (ofParts content List.mem_cons_self style)
    | table header rows =>
      rw [script_table pages]
      have ofRow {row : Node} (inTable : row ∈ header.toList ++ rows) :=
        sound_cellScripts (fun part member => ofParts part member { style with inTable := true })
          inTable
      refine sound_table ?_ ?_
      · intro cell member
        obtain ⟨row, inHeader, inRow⟩ := List.mem_flatMap.1 member
        exact ofRow (List.mem_append_left rows inHeader) cell inRow
      · intro cells member
        obtain ⟨row, inRows, rfl⟩ := List.mem_map.1 member
        exact ofRow (List.mem_append_right header.toList inRows)
    | row cells =>
      rw [script_row]
      exact .of_failures (List.cons_ne_nil _ _)
    | cell content =>
      rw [script_cell]
      exact .of_failures (List.cons_ne_nil _ _)
    | _ => exact absurd ofSelf Bool.false_ne_true

end Renderer

/-! ## Renderings -/

/-- **Running text cannot inject markup.**  Whatever is in the texts of a page, a rendering of it
that succeeds is marked up soundly. -/
theorem Dialect.markedUp_state_render (resolver : Reference → Option Target) {request : Request}
    {strict : Bool} (valid : (page resolver).strictness request.options = .ok strict)
    (textual : request.tree.every Node.isTextual = true)
    (succeeds : ((page resolver).render request []).failure = none) :
    ((page resolver).render request []).state.MarkedUp := by
  have noFailures : Script.failures
      (Renderer.script ⟨page resolver, strict⟩ .plain request.tree) = [] := by
    rw [failure_render valid] at succeeds
    exact List.head?_eq_none_iff.1 succeeds
  have sound := Renderer.sound_script (r := ⟨page resolver, strict⟩) rfl rfl textual .plain
  have margin : Text.Ordinary [] := by decide
  have whole := (sound noFailures [] margin []).trans (Typing.continues_freshLine margin _)
  obtain ⟨tokens, spelled, balanced⟩ := whole
  rw [state_render valid noFailures, spelled]
  exact Token.markedUp_spell balanced

/-- A table with markup for text, in paragraphs inside a paragraph and behind the prefix of a note
box. -/
def tableOfMarkup : Node :=
  .noteBox (.table (some (.row [.cell (.paragraph [.plainText "<p>".toList,
      .paragraph [.emphasis ⟨true, true⟩ [.errorText "</b>&lt;\n<!-- -->".toList none]]])]))
    [.row [.cell (.plainText "&".toList), .cell (.heading "<b>".toList ⟨2, by decide⟩)]])

/-- None of the markup in that table is found on its page. -/
theorem Dialect.markedUp_render_tableOfMarkup :
    (page Resolver.empty).strictness none = .ok false ∧ tableOfMarkup.every Node.isTextual = true
      ∧ ((page Resolver.empty).render ⟨tableOfMarkup, none⟩ []).failure = none
      ∧ ((page Resolver.empty).render ⟨tableOfMarkup, none⟩ []).state.MarkedUp := by
  have valid : (page Resolver.empty).strictness (Request.mk tableOfMarkup none).options
      = .ok false := rfl
  have textual : (Request.mk tableOfMarkup none).tree.every Node.isTextual = true := by decide
  have succeeds : ((page Resolver.empty).render ⟨tableOfMarkup, none⟩ []).failure = none := by rfl
  exact ⟨valid, textual, succeeds, markedUp_state_render Resolver.empty valid textual succeeds⟩

end DocMarkdown
