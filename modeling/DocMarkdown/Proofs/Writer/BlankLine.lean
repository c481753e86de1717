import DocMarkdown.Proofs.Writer.Refinement
import Mathlib.Data.List.Basic

/-!
# Blank lines

`Writer.blankLine` ends the line that is being written and puts one more line feed, unless the
character before the last is a line feed already.  So a blank line stands above whatever comes next,
or nothing stands there at all.

The blank line that it puts gets the indentation in front, and the indentation is then what stands
before the last character.  Asked again, the writer takes that line for a line of text and puts
another blank line, unless the indentation is empty or ends a line itself (`blankLine_settles`).
-/

namespace DocMarkdown

namespace Typing

variable {margin written : Text}

/-- How a text can end behind a blank line. -/
def EndsBlank (margin written : Text) : Prop :=
  written = [] ∨ written = ['\n'] ∨ ['\n', '\n'] <:+ written ∨ '\n' :: margin ++ ['\n'] <:+ written

/-- At the beginning of a line either nothing was written or a line feed stands last. -/
lemma eq_nil_or_eq_concat (lineStart : atLineStart written = true) :
    written = [] ∨ ∃ front, written = front ++ ['\n'] := by
  rcases written.eq_nil_or_concat' with rfl | ⟨front, c, rfl⟩
  · exact .inl rfl
  · rw [atLineStart_append_singleton, beq_iff_eq] at lineStart
    exact .inr ⟨front, by rw [lineStart]⟩

/-- Behind the beginning of a line a text decides for itself where it ends. -/
lemma atLineStart_append (lineStart : atLineStart written = true) (t : Text) :
    atLineStart (written ++ t) = atLineStart t := by
  rcases t.eq_nil_or_concat' with rfl | ⟨front, c, rfl⟩
  · rw [List.append_nil, lineStart, atLineStart_nil]
  · rw [← List.append_assoc, atLineStart_append_singleton, atLineStart_append_singleton]

/-- A line feed at the beginning of a line stands behind the margin. -/
lemma put_lineFeed (lineStart : atLineStart written = true) :
    put margin written '\n' = written ++ margin ++ ['\n'] := by
  rw [put, if_pos lineStart]

/-- **A blank line is there**, whatever the margin is and whatever was written. -/
theorem endsBlank_blankLine (margin written : Text) :
    EndsBlank margin (blankLine margin written) := by
  have lineStart : atLineStart (freshLine margin written) = true := atLineStart_freshLine
  unfold blankLine
  generalize freshLine margin written = fresh at lineStart ⊢
  rcases eq_nil_or_eq_concat lineStart with rfl | ⟨front, rfl⟩
  · exact .inl rfl
  · rw [secondLast?_append_singleton, any_ne_lineFeed]
    cases above : atLineStart front with
    | true =>
      -- Nothing is put, and what stands before the line feed is empty or ends in another one.
      rcases eq_nil_or_eq_concat above with rfl | ⟨before, rfl⟩
      · exact .inr (.inl rfl)
      · exact .inr (.inr (.inl ⟨before, by simp⟩))
    | false =>
      refine .inr (.inr (.inr ⟨front, ?_⟩))
      rw [Bool.not_false, if_pos rfl, put_lineFeed lineStart]
      simp

end Typing

namespace Writer

variable {found : Text} {w : Writer} {s : Scribe}

/-- A line feed is put, so the writer is not what it was. -/
lemma Follows.endLine_ne (h : Follows found w s) : w.endLine ≠ w := by
  intro same
  have longer := congrArg (List.length ∘ contents) same
  simp only [Function.comp_apply, h.endLine.contents_eq, h.contents_eq, Scribe.endLine, Typing.put,
    List.length_append, List.length_singleton] at longer
  split at longer
  · rw [List.length_append] at longer
    omega
  · omega

/-- At the beginning of a line a fresh line is no work. -/
lemma Follows.freshLine_eq (h : Follows found w s)
    (lineStart : Typing.atLineStart s.written = true) : w.freshLine = w := by
  unfold Writer.freshLine
  rw [h.isOpen_last?, lineStart]
  rfl

/-- At the beginning of a line a blank line is no work exactly if the character before the last is
no character of a line. -/
lemma Follows.blankLine_eq_iff (h : Follows found w s)
    (lineStart : Typing.atLineStart s.written = true) :
    w.blankLine = w ↔ isOpen w.secondLast? = false := by
  unfold Writer.blankLine
  rw [h.freshLine_eq lineStart]
  cases isOpen w.secondLast? with
  | true => simpa using h.endLine_ne
  | false => simp

/-- **A blank line put once more.**  The second blank line changes nothing exactly if the first one
was there already, or the indentation leaves the next character at the beginning of a line. -/
lemma Follows.blankLine_blankLine_iff (h : Follows found w s) :
    w.blankLine.blankLine = w.blankLine
      ↔ w.blankLine = w.freshLine ∨ Typing.atLineStart s.margin = true := by
  have fresh := h.freshLine
  have lineStart : Typing.atLineStart s.freshLine.written = true := Typing.atLineStart_freshLine
  cases above : isOpen w.freshLine.secondLast? with
  | false =>
    have settled : w.blankLine = w.freshLine := by rw [Writer.blankLine, above]; rfl
    simp only [settled, (fresh.blankLine_eq_iff lineStart).2 above, true_or]
  | true =>
    have put : w.blankLine = w.freshLine.endLine := by rw [Writer.blankLine, above]; rfl
    have again : Typing.atLineStart s.freshLine.endLine.written = true := Typing.atLineStart_put _
    have second : isOpen w.freshLine.endLine.secondLast? = !Typing.atLineStart s.margin := by
      rw [fresh.endLine.secondLast?_eq, Scribe.endLine, Typing.put_lineFeed lineStart,
        Typing.secondLast?_append_singleton, isOpen, Typing.any_ne_lineFeed,
        Typing.atLineStart_append lineStart]
      rfl
    rw [put, fresh.endLine.blankLine_eq_iff again, second, Bool.not_eq_false', or_iff_right]
    exact fresh.endLine_ne

/-! ## Every state that a program reaches -/

/-- After any program a writer follows the scribe that has done the same. -/
lemma follows_runAll (found : Text) (program : List (Step Operation)) :
    Follows found (Report.final (on found) (Step.runAll machine program (on found)))
      (Report.final .fresh (Step.runAll Scribe.machine program .fresh)) :=
  ((Follows.on found).runAll program).1

/-- **Blank lines are there, but they do not settle.**  Whatever the page held and whatever program
was run, a blank line leaves behind what the page held either nothing, a lone line feed, two line
feeds last, or a line that holds the indentation alone.  A second one changes nothing exactly if the
first one changed nothing that a fresh line does not, or if the indentation is empty or ends in a
line feed.  (A program can indent by itself, so the states inside an indented stretch are among
those that it ends in.) -/
theorem blankLine_settles (found : Text) (program : List (Step Operation)) :
    let w := Report.final (on found) (Step.runAll machine program (on found))
    (∃ written, w.blankLine.contents = found ++ written
        ∧ Typing.EndsBlank w.indentation.text written)
      ∧ (w.blankLine.blankLine = w.blankLine
        ↔ w.blankLine = w.freshLine ∨ Typing.atLineStart w.indentation.text = true) := by
  intro w
  have follows : Follows found w _ := follows_runAll found program
  rw [follows.margin_eq]
  exact ⟨⟨_, follows.blankLine.contents_eq, Typing.endsBlank_blankLine _ _⟩,
    follows.blankLine_blankLine_iff⟩

/-- Behind the prefix of a quotation a blank line is followed by another one. -/
theorem blankLine_quoted_not_settled :
    let w := Report.final (on [])
      (Step.runAll machine [.act (.indent (some "> ".toList)), .act (.write "a".toList)] (on []))
    w.blankLine.contents = "> a\n> \n".toList
      ∧ w.blankLine.blankLine.contents = "> a\n> \n> \n".toList
      ∧ w.blankLine.blankLine ≠ w.blankLine := by
  intro w
  have once : w.blankLine.contents = "> a\n> \n".toList := by decide
  have twice : w.blankLine.blankLine.contents = "> a\n> \n> \n".toList := by decide
  refine ⟨once, twice, fun settled => ?_⟩
  rw [settled, once] at twice
  exact absurd twice (by decide)

end Writer

end DocMarkdown
