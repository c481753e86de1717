/-!
# Text and its blank characters

Everything this library reads or writes is a `Text`, a sequence of characters.  This module fixes
which characters count as *blank* and gives the operations that depend on that choice.

## The class

`Text.blankRanges` lists the code points: the ASCII controls that separate (tab to carriage
return, and the four information separators), the space, next line, the no-break space and the
space separators, line separator and paragraph separator of Unicode.  Core's smaller class is
inside it (`Text.isBlank_of_isWhitespace`).

## The operations

* `Text.trimStart`, `Text.trimEnd` drop the blanks at one end;
* `Text.surround` cuts a text into leading blanks, core and trailing blanks, and loses nothing
  (`Text.surround_join`);
* `Text.squeeze` writes one space for each maximal run of blanks.
-/

namespace DocMarkdown

/-- **Text.** A sequence of characters; one character is one code point. -/
abbrev Text := List Char

namespace Text

/-! ## Blank characters -/

/-- Whether the code point of a character lies in one of some inclusive ranges. -/
def inRanges (ranges : List (Nat × Nat)) (c : Char) : Bool :=
  ranges.any fun range => range.1 ≤ c.toNat && c.toNat ≤ range.2

/-- The code points of the blank characters, as inclusive ranges. -/
def blankRanges : List (Nat × Nat) :=
  [(0x09, 0x0D), (0x1C, 0x20), (0x85, 0x85), (0xA0, 0xA0), (0x1680, 0x1680), (0x2000, 0x200A),
    (0x2028, 0x2029), (0x202F, 0x202F), (0x205F, 0x205F), (0x3000, 0x3000)]

/-- Whether a character is blank. -/
def isBlank (c : Char) : Bool := inRanges blankRanges c

/-- Every character that core calls whitespace is blank. -/
theorem isBlank_of_isWhitespace {c : Char} (h : c.isWhitespace = true) : isBlank c = true := by
  simp only [Char.isWhitespace, Bool.or_eq_true, decide_eq_true_eq] at h
  rcases h with ((rfl | rfl) | rfl) | rfl <;> decide

/-- There are twenty-nine blank characters. -/
example : (blankRanges.map fun range => range.2 + 1 - range.1).sum = 29 := by decide

/-! ## Trimming -/

/-- The text without its leading blanks. -/
def trimStart (t : Text) : Text := t.dropWhile isBlank

/-- The text without its trailing blanks. -/
def trimEnd (t : Text) : Text := (t.reverse.dropWhile isBlank).reverse

/-- Whether the text has no character but blanks; the empty text is blank. -/
def allBlank (t : Text) : Bool := t.all isBlank

/-- **A text cut at its outer blanks.**  `core` is what stands between the `lead` and the
`trail`. -/
structure Surround where
  lead : Text
  core : Text
  trail : Text
  deriving DecidableEq, Repr

/-- The text cut at its outer blanks; a blank text is all `lead`. -/
def surround (t : Text) : Surround where
  lead := t.takeWhile isBlank
  core := trimEnd (trimStart t)
  trail := ((trimStart t).reverse.takeWhile isBlank).reverse

/-- Cutting loses nothing: the three parts in order are the text. -/
theorem surround_join (t : Text) :
    (surround t).lead ++ ((surround t).core ++ (surround t).trail) = t := by
  have h : trimEnd (trimStart t) ++ ((trimStart t).reverse.takeWhile isBlank).reverse
      = trimStart t := by
    rw [trimEnd, ← List.reverse_append, List.takeWhile_append_dropWhile, List.reverse_reverse]
  simp only [surround, h]
  exact List.takeWhile_append_dropWhile

theorem isBlank_of_mem_lead {t : Text} {c : Char} (member : c ∈ (surround t).lead) :
    isBlank c = true :=
  List.all_eq_true.1 List.all_takeWhile c member

theorem isBlank_of_mem_trail {t : Text} {c : Char} (member : c ∈ (surround t).trail) :
    isBlank c = true :=
  List.all_eq_true.1 List.all_takeWhile c (List.mem_reverse.1 member)

/-! ## Squeezing -/

/-- Writes one space for each maximal run of blanks; `inRun` says that the space of the current
run is already written. -/
def squeezeFrom (inRun : Bool) : Text → Text
  | [] => []
  | c :: rest =>
    if isBlank c then
      if inRun then squeezeFrom true rest else ' ' :: squeezeFrom true rest
    else c :: squeezeFrom false rest

/-- The text with each maximal run of blanks replaced by one space. -/
def squeeze (t : Text) : Text := squeezeFrom false t

end Text

end DocMarkdown
