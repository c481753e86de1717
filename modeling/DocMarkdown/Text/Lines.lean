import DocMarkdown.Text.Blank

/-!
# Lines of a text

A line feed ends a line; a carriage return is no character of any line this library writes.  The
module cuts a text into its lines (`Text.lines`), drops carriage returns (`Text.dropReturns`), and
replaces line breaks inside code by a text of one line (`Text.replaceBreaks`).
-/

namespace DocMarkdown

namespace Text

/-- **The lines of a text.**  A text has at least one line, and one more for each line feed. -/
structure Lines where
  first : Text
  others : List Text
  deriving DecidableEq, Repr

/-- Lines with one more character in front; a line feed begins a line in front of them. -/
def Lines.cons (c : Char) (ls : Lines) : Lines :=
  if c = '\n' then ⟨[], ls.first :: ls.others⟩ else ⟨c :: ls.first, ls.others⟩

/-- The text cut at its line feeds. -/
def lines : Text → Lines
  | [] => ⟨[], []⟩
  | c :: rest => (lines rest).cons c

/-- A text has as many lines after its first one as it has line feeds. -/
theorem length_others_lines (t : Text) : (lines t).others.length = t.count '\n' := by
  induction t with
  | nil => rfl
  | cons c rest ih => by_cases h : c = '\n' <;> simp [lines, Lines.cons, h, ih]

/-- The lines of a text, each behind the line feed that begins it, are the text. -/
theorem lines_join (t : Text) :
    (lines t).first ++ (lines t).others.flatMap ('\n' :: ·) = t := by
  induction t with
  | nil => rfl
  | cons c rest ih => by_cases h : c = '\n' <;> simp [lines, Lines.cons, h, ih]

/-- No line holds a line feed. -/
theorem lineFeed_not_mem_lines (t : Text) :
    '\n' ∉ (lines t).first ∧ ∀ line ∈ (lines t).others, '\n' ∉ line := by
  induction t with
  | nil => simp [lines]
  | cons c rest ih =>
    by_cases h : c = '\n'
    · simpa [lines, Lines.cons, h] using ih
    · simpa [lines, Lines.cons, h, Ne.symm h] using ih

/-- The text without its carriage returns. -/
def dropReturns (t : Text) : Text := t.filter (· ≠ '\r')

@[simp] theorem dropReturns_nil : dropReturns [] = [] := rfl

@[simp] theorem dropReturns_append (s t : Text) :
    dropReturns (s ++ t) = dropReturns s ++ dropReturns t :=
  List.filter_append ..

theorem dropReturns_cons_return (t : Text) : dropReturns ('\r' :: t) = dropReturns t := rfl

theorem dropReturns_cons_of_ne {c : Char} (isChar : c ≠ '\r') (t : Text) :
    dropReturns (c :: t) = c :: dropReturns t := by
  simp [dropReturns, isChar]

/-- The text with each line break, a line feed with or without a carriage return before it,
replaced by `sep`.  A carriage return that stands alone is kept. -/
def replaceBreaks (sep : Text) : Text → Text
  | [] => []
  | '\r' :: '\n' :: rest => sep ++ replaceBreaks sep rest
  | '\n' :: rest => sep ++ replaceBreaks sep rest
  | c :: rest => c :: replaceBreaks sep rest

end Text

end DocMarkdown
