import DocMarkdown.Program
import Mathlib.Tactic.Lemma

/-!
# The scribe

A `Scribe` does what a `Writer` does and remembers nothing twice.  All it has is the text it has
written, the prefixes in force and the prefix to push when none is given.  It writes character by
character, and reads everything else off that text: whether the next character begins a line, and
what the last two characters are.

The first section says how a text grows behind a fixed margin, the text that the prefixes make up.
Everything that a writer does to the page is one of these operations.
-/

namespace DocMarkdown

/-! ## Writing behind a margin -/

namespace Typing

/-- Whether the next character begins a line: nothing was written yet, or a line feed last. -/
def atLineStart (written : Text) : Bool := written.getLast?.all (· == '\n')

/-- One more character.  Where it begins a line, the margin goes in front of it. -/
def put (margin written : Text) (c : Char) : Text :=
  (if atLineStart written then written ++ margin else written) ++ [c]

/-- A text, character by character; carriage returns are skipped. -/
def write (margin written t : Text) : Text :=
  t.foldl (fun sofar c => if c = '\r' then sofar else put margin sofar c) written

/-- A line feed, unless the next character begins a line anyway. -/
def freshLine (margin written : Text) : Text :=
  if atLineStart written then written else put margin written '\n'

/-- The character before the last one. -/
def secondLast? (written : Text) : Option Char := written.dropLast.getLast?

/-- A fresh line, and one more line feed if a character other than a line feed stands before the
last one. -/
def blankLine (margin written : Text) : Text :=
  if (secondLast? (freshLine margin written)).any (· != '\n') then
    put margin (freshLine margin written) '\n'
  else freshLine margin written

end Typing

/-! ## Scribes -/

/-- **Scribe.** A writer reduced to what was written, the prefixes in force (the one pushed last in
front) and the prefix that is pushed when none is given. -/
structure Scribe where
  written : Text
  prefixes : List Text
  defaultPrefix : Text
  deriving DecidableEq, Repr

namespace Scribe

/-- A scribe that has written nothing. -/
def fresh : Scribe := ⟨[], [], "    ".toList⟩

/-- What stands in front of every line: all prefixes, the one pushed first in front. -/
def margin (s : Scribe) : Text := s.prefixes.reverse.flatten

/-- Writes a text. -/
def write (s : Scribe) (t : Text) : Scribe :=
  { s with written := Typing.write s.margin s.written t }

/-- Writes a line feed. -/
def endLine (s : Scribe) : Scribe := { s with written := Typing.put s.margin s.written '\n' }

/-- Ends the line unless nothing stands on it. -/
def freshLine (s : Scribe) : Scribe :=
  { s with written := Typing.freshLine s.margin s.written }

/-- Makes the line before the next one a blank line, unless nothing was written. -/
def blankLine (s : Scribe) : Scribe :=
  { s with written := Typing.blankLine s.margin s.written }

/-- Pushes a prefix, or the default prefix if none is given. -/
def indent (s : Scribe) (pre : Option Text) : Scribe :=
  { s with prefixes := pre.getD s.defaultPrefix :: s.prefixes }

/-- Pops the prefix that was pushed last. -/
def outdent? (s : Scribe) : Option Scribe :=
  match s.prefixes with
  | [] => none
  | _ :: rest => some { s with prefixes := rest }

/-- Does one of the things that a writer can do. -/
def perform : Writer.Operation → Scribe → Outcome Scribe
  | .write t, s => .done (s.write t)
  | .writeLine t, s => .done (s.write t).endLine
  | .freshLine, s => .done s.freshLine
  | .blankLine, s => .done s.blankLine
  | .indent pre, s => .done (s.indent pre)
  | .outdent, s =>
    match s.outdent? with
    | some outdented => .done outdented
    | none => .failed s .unmatchedOutdent
  | .setDefaultPrefix pre, s => .done { s with defaultPrefix := pre }
  | .read, s => .done s

/-- The machine that a scribe is. -/
def machine : Machine Scribe Writer.Operation where
  perform := perform
  indent pre s := s.indent pre
  outdent? := outdent?

end Scribe

/-! ## What a text grows by -/

namespace Typing

variable {margin written : Text}

@[simp] lemma atLineStart_nil : atLineStart [] = true := rfl

@[simp] lemma atLineStart_append_singleton (t : Text) (c : Char) :
    atLineStart (t ++ [c]) = (c == '\n') := by
  simp [atLineStart]

@[simp] lemma atLineStart_put (c : Char) : atLineStart (put margin written c) = (c == '\n') := by
  rw [put, atLineStart_append_singleton]

@[simp] lemma atLineStart_freshLine : atLineStart (freshLine margin written) = true := by
  unfold freshLine
  split
  · assumption
  · exact atLineStart_put '\n'

lemma any_ne_lineFeed (written : Text) :
    written.getLast?.any (· != '\n') = !atLineStart written := by
  unfold atLineStart
  cases written.getLast? with
  | none => rfl
  | some c => simp [bne]

lemma secondLast?_append_singleton (written : Text) (c : Char) :
    secondLast? (written ++ [c]) = written.getLast? := by
  rw [secondLast?, List.dropLast_concat]

@[simp] lemma write_nil : write margin written [] = written := rfl

lemma write_append (s t : Text) :
    write margin written (s ++ t) = write margin (write margin written s) t :=
  List.foldl_append

lemma write_cons_return (t : Text) :
    write margin written ('\r' :: t) = write margin written t := rfl

lemma write_cons_of_ne {c : Char} (isChar : c ≠ '\r') (t : Text) :
    write margin written (c :: t) = write margin (put margin written c) t := by
  simp [write, isChar]

lemma write_dropReturns (t : Text) :
    write margin written t.dropReturns = write margin written t := by
  induction t generalizing written with
  | nil => rfl
  | cons c rest ih =>
    by_cases isReturn : c = '\r'
    · subst isReturn
      rw [Text.dropReturns_cons_return, write_cons_return, ih]
    · rw [Text.dropReturns_cons_of_ne isReturn, write_cons_of_ne isReturn,
        write_cons_of_ne isReturn, ih]

/-- In the middle of a line, a text without line breaks goes behind what stands there. -/
lemma write_of_not_atLineStart {t : Text} (noFeed : '\n' ∉ t) (noReturn : '\r' ∉ t)
    (inLine : atLineStart written = false) : write margin written t = written ++ t := by
  induction t generalizing written with
  | nil => simp
  | cons c rest ih =>
    obtain ⟨notFeed, noFeedInRest⟩ : '\n' ≠ c ∧ '\n' ∉ rest := by simpa using noFeed
    obtain ⟨notReturn, noReturnInRest⟩ : '\r' ≠ c ∧ '\r' ∉ rest := by simpa using noReturn
    have grown : put margin written c = written ++ [c] := by simp [put, inLine]
    have stillInLine : atLineStart (written ++ [c]) = false := by simpa using Ne.symm notFeed
    rw [write_cons_of_ne (Ne.symm notReturn), grown, ih noFeedInRest noReturnInRest stillInLine,
      List.append_assoc, List.singleton_append]

/-- A text without line breaks goes behind the margin, if it begins a line. -/
lemma write_of_line {t : Text} (noFeed : '\n' ∉ t) (noReturn : '\r' ∉ t) (nonempty : t ≠ []) :
    write margin written t
      = (if atLineStart written then written ++ margin else written) ++ t := by
  cases t with
  | nil => exact absurd rfl nonempty
  | cons c rest =>
    obtain ⟨notFeed, noFeedInRest⟩ : '\n' ≠ c ∧ '\n' ∉ rest := by simpa using noFeed
    obtain ⟨notReturn, noReturnInRest⟩ : '\r' ≠ c ∧ '\r' ∉ rest := by simpa using noReturn
    have inLine : atLineStart (put margin written c) = false := by simpa using Ne.symm notFeed
    rw [write_cons_of_ne (Ne.symm notReturn),
      write_of_not_atLineStart noFeedInRest noReturnInRest inLine, put, List.append_assoc,
      List.singleton_append]

/-! ### Without a margin -/

lemma put_nil_margin (written : Text) (c : Char) : put [] written c = written ++ [c] := by
  simp [put]

lemma write_nil_margin (written t : Text) : write [] written t = written ++ t.dropReturns := by
  induction t generalizing written with
  | nil => rw [write_nil, Text.dropReturns_nil, List.append_nil]
  | cons c rest ih =>
    by_cases isReturn : c = '\r'
    · subst isReturn
      rw [write_cons_return, Text.dropReturns_cons_return, ih]
    · rw [write_cons_of_ne isReturn, Text.dropReturns_cons_of_ne isReturn, ih, put_nil_margin,
        List.append_assoc, List.singleton_append]

end Typing

namespace Scribe

lemma write_append (s : Scribe) (t u : Text) : s.write (t ++ u) = (s.write t).write u := by
  rw [write, Typing.write_append]
  rfl

lemma write_cons_lineFeed (s : Scribe) (t : Text) : s.write ('\n' :: t) = s.endLine.write t := rfl

end Scribe

end DocMarkdown
