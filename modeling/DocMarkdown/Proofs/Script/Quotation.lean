import DocMarkdown.Proofs.Script.Effect
import Mathlib.Data.List.Basic

/-!
# Quoting what a script writes

A text is quoted by typing it again behind a prefix: the prefix then stands in front of every line
of it, of blank lines as well (`Typing.quote_lines`).

A script that is followed behind a prefix writes, at every moment, the quotation of what it would
have written without the prefix (`Script.extend_quote`).  A quotation ends as the text that it
quotes, so all that asks for the last character is answered alike; and the prefixes of indented
stretches stand behind the quoting one.  What asks for the character before the last, in search of a
blank line, can see the prefix of that line, so scripts that do so are left out
(`Script.isQuotable`).
-/

namespace DocMarkdown

/-! ## Quoting a text -/

namespace Typing

/-- **Quotation.** A text that is typed again behind a prefix. -/
def quote (pre t : Text) : Text := t.foldl (put pre) []

variable {pre margin : Text}

lemma quote_append_singleton (t : Text) (c : Char) :
    quote pre (t ++ [c]) = put pre (quote pre t) c := by
  simp [quote]

/-- A quotation ends in the character in which the text ends. -/
lemma getLast?_quote (t : Text) : (quote pre t).getLast? = t.getLast? := by
  rcases t.eq_nil_or_concat' with rfl | ⟨front, c, rfl⟩
  · rfl
  · rw [quote_append_singleton, put, List.getLast?_concat, List.getLast?_concat]

lemma atLineStart_quote (t : Text) : atLineStart (quote pre t) = atLineStart t := by
  rw [atLineStart, getLast?_quote, atLineStart]

/-- A text that has no line feed before its last character is typed behind the prefix, if it begins
a line. -/
lemma foldl_put_line {line : Text} (noFeed : '\n' ∉ line) (c : Char) (written : Text) :
    (line ++ [c]).foldl (put pre) written
      = (if atLineStart written then written ++ pre else written) ++ (line ++ [c]) := by
  induction line generalizing written with
  | nil => rfl
  | cons d rest ih =>
    obtain ⟨notFeed, later⟩ : '\n' ≠ d ∧ '\n' ∉ rest := by simpa using noFeed
    have inLine : atLineStart (put pre written d) = false := by simpa using Ne.symm notFeed
    rw [List.cons_append, List.foldl_cons, ih later, inLine, put]
    simp

/-- **One more character**, behind the prefix and a margin, quotes one more character behind the
margin: the margin is part of the line that is quoted. -/
lemma put_quote (noFeed : '\n' ∉ margin) (t : Text) (c : Char) :
    put (pre ++ margin) (quote pre t) c = quote pre (put margin t c) := by
  cases lineStart : atLineStart t with
  | true =>
    have typed : quote pre (t ++ (margin ++ [c])) = quote pre t ++ pre ++ (margin ++ [c]) := by
      rw [quote, List.foldl_append, foldl_put_line noFeed]
      exact congrArg (· ++ (margin ++ [c])) (if_pos ((atLineStart_quote t).trans lineStart))
    rw [put, put, atLineStart_quote, lineStart, if_pos rfl, if_pos rfl, List.append_assoc t, typed]
    simp
  | false =>
    rw [put, put, atLineStart_quote, lineStart, if_neg Bool.false_ne_true,
      if_neg Bool.false_ne_true, quote_append_singleton, put, atLineStart_quote, lineStart]
    rfl

lemma write_quote (noFeed : '\n' ∉ margin) (t s : Text) :
    write (pre ++ margin) (quote pre t) s = quote pre (write margin t s) := by
  induction s generalizing t with
  | nil => rfl
  | cons c rest ih =>
    by_cases isReturn : c = '\r'
    · subst isReturn
      rw [write_cons_return, write_cons_return, ih]
    · rw [write_cons_of_ne isReturn, write_cons_of_ne isReturn, put_quote noFeed, ih]

lemma freshLine_quote (noFeed : '\n' ∉ margin) (t : Text) :
    freshLine (pre ++ margin) (quote pre t) = quote pre (freshLine margin t) := by
  unfold freshLine
  rw [atLineStart_quote, put_quote noFeed]
  split <;> rfl

lemma softBreak_quote (noFeed : '\n' ∉ margin) (t : Text) :
    softBreak (pre ++ margin) (quote pre t) = quote pre (softBreak margin t) := by
  unfold softBreak
  rw [getLast?_quote, write_quote noFeed]
  split <;> rfl

lemma separate_quote (noFeed : '\n' ∉ margin) (t : Text) :
    separate (pre ++ margin) (quote pre t) = quote pre (separate margin t) := by
  unfold separate
  rw [getLast?_quote, write_quote noFeed]
  split <;> rfl

/-! ### Line by line -/

/-- **The quotation of lines** has the prefix in front of each of them. -/
lemma quote_lines {lines : List Text} (noFeed : ∀ line ∈ lines, '\n' ∉ line) :
    quote pre (lines.flatMap (· ++ ['\n'])) = lines.flatMap (pre ++ · ++ ['\n']) := by
  have typed (written : Text) (lineStart : atLineStart written = true) :
      (lines.flatMap (· ++ ['\n'])).foldl (put pre) written
        = written ++ lines.flatMap (pre ++ · ++ ['\n']) := by
    induction lines generalizing written with
    | nil => simp
    | cons line rest ih =>
      obtain ⟨now, later⟩ := List.forall_mem_cons.1 noFeed
      have ended : atLineStart (written ++ pre ++ (line ++ ['\n'])) = true := by
        rw [← List.append_assoc, atLineStart_append_singleton]
        rfl
      rw [List.flatMap_cons, List.foldl_append, foldl_put_line now, if_pos lineStart,
        ih later _ ended]
      simp
  exact typed [] rfl

end Typing

/-- A text whose last line is ended is made of lines. -/
lemma Text.exists_lines {t : Text} (ended : Typing.atLineStart t = true) :
    ∃ lines : List Text, (∀ line ∈ lines, '\n' ∉ line) ∧ t = lines.flatMap (· ++ ['\n']) := by
  have cut (t : Text) : ∃ (lines : List Text) (last : Text), (∀ line ∈ lines, '\n' ∉ line)
      ∧ '\n' ∉ last ∧ t = lines.flatMap (· ++ ['\n']) ++ last := by
    induction t with
    | nil => exact ⟨[], [], by simp, by simp, rfl⟩
    | cons c rest ih =>
      obtain ⟨lines, last, noFeed, noFeedLast, rfl⟩ := ih
      by_cases isFeed : c = '\n'
      · exact ⟨[] :: lines, last, by simpa using noFeed, noFeedLast, by simp [isFeed]⟩
      · cases lines with
        | nil => exact ⟨[], c :: last, by simp, by simp [Ne.symm isFeed, noFeedLast], rfl⟩
        | cons line more =>
          refine ⟨(c :: line) :: more, last, ?_, noFeedLast, rfl⟩
          simpa [Ne.symm isFeed] using noFeed
  obtain ⟨lines, last, noFeed, noFeedLast, rfl⟩ := cut t
  rcases last.eq_nil_or_concat' with rfl | ⟨front, c, rfl⟩
  · exact ⟨lines, noFeed, List.append_nil _⟩
  · rw [← List.append_assoc, Typing.atLineStart_append_singleton, beq_iff_eq] at ended
    simp [ended] at noFeedLast

/-! ## Quoting a script -/

mutual

/-- Whether a directive can be quoted: it does not look for a blank line, and no prefix in it ends a
line. -/
@[simp] def Directive.isQuotable : Directive → Bool
  | .blankLine => false
  | .indented pre body => '\n' ∉ pre && Script.isQuotable body
  | _ => true

/-- Whether a script can be quoted. -/
def Script.isQuotable : Script → Bool
  | [] => true
  | directive :: rest => directive.isQuotable && Script.isQuotable rest

end

namespace Script

@[simp] lemma isQuotable_nil : isQuotable [] = true := rfl

@[simp] lemma isQuotable_cons (directive : Directive) (rest : Script) :
    isQuotable (directive :: rest) = (directive.isQuotable && isQuotable rest) := rfl

@[simp] lemma isQuotable_append (first second : Script) :
    isQuotable (first ++ second) = (isQuotable first && isQuotable second) := by
  induction first with
  | nil => rfl
  | cons directive rest ih => simp [ih, Bool.and_assoc]

lemma isQuotable_flatMap {α : Type} {items : List α} {f : α → Script}
    (each : ∀ item ∈ items, isQuotable (f item) = true) : isQuotable (items.flatMap f) = true := by
  induction items with
  | nil => rfl
  | cons item rest ih =>
    obtain ⟨now, later⟩ := List.forall_mem_cons.1 each
    rw [List.flatMap_cons, isQuotable_append, now, ih later]
    rfl

end Script

mutual

/-- A directive that is followed behind a prefix quotes what it would have written without it. -/
theorem Directive.extend_quote {pre margin : Text} (noFeed : '\n' ∉ margin) {directive : Directive}
    (quotable : directive.isQuotable = true) (written : Text) :
    directive.extend (pre ++ margin) (Typing.quote pre written)
      = Typing.quote pre (directive.extend margin written) := by
  cases directive with
  | write t => exact Typing.write_quote noFeed written t
  | endLine => exact Typing.put_quote noFeed written '\n'
  | freshLine => exact Typing.freshLine_quote noFeed written
  | blankLine => exact absurd quotable Bool.false_ne_true
  | softBreak => exact Typing.softBreak_quote noFeed written
  | separate => exact Typing.separate_quote noFeed written
  | indented inner body =>
    -- The inner prefix comes behind the quoting one, and so it lengthens the margin.
    obtain ⟨noFeedInner, inside⟩ : '\n' ∉ inner ∧ Script.isQuotable body = true := by
      simpa using quotable
    have longer : '\n' ∉ margin ++ inner := by simp [noFeed, noFeedInner]
    rw [Directive.extend, Directive.extend, List.append_assoc]
    exact Script.extend_quote longer inside written
  | log entry => rfl
  | fail failure => rfl

/-- **Quoting.**  A script that is followed behind a prefix quotes what it would have written
without it. -/
theorem Script.extend_quote {pre margin : Text} (noFeed : '\n' ∉ margin) {script : Script}
    (quotable : script.isQuotable = true) (written : Text) :
    script.extend (pre ++ margin) (Typing.quote pre written)
      = Typing.quote pre (script.extend margin written) := by
  cases script with
  | nil => rfl
  | cons directive rest =>
    obtain ⟨now, later⟩ : directive.isQuotable = true ∧ Script.isQuotable rest = true := by
      simpa using quotable
    rw [Script.extend, Script.extend, Directive.extend_quote noFeed now,
      Script.extend_quote noFeed later]
    split <;> rfl

end

end DocMarkdown
