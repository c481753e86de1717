import DocMarkdown.Text.Blank
import DocMarkdown.Text.Unassigned

/-!
# Quoted form of a text

Messages that name an offending value show it in quotes, so that its ends and its invisible
characters can be seen.  The quote is the apostrophe, or the double quote if the text has
apostrophes and no double quotes.  Inside, the backslash and the chosen quote get a backslash, tab,
line feed and carriage return are written by letter, and the remaining hidden characters
(`Text.isHidden`) by code point, in hexadecimal digits of a fixed width.

Hidden are the controls, the blanks except the space, the format characters, the characters for
private use, and the code points that have no character.
-/

namespace DocMarkdown

namespace Text

/-- The digit of a number below sixteen, in lower case. -/
def hexDigit (n : Nat) : Char := Char.ofNat (if n < 10 then 48 + n else 87 + n)

/-- The last `width` hexadecimal digits of a number, the most significant first. -/
def hexDigits : Nat → Nat → Text
  | 0, _ => []
  | width + 1, n => hexDigits width (n / 16) ++ [hexDigit (n % 16)]

/-! ## Hidden characters -/

/-- The code points of the controls, as inclusive ranges. -/
def controlRanges : List (Nat × Nat) := [(0x00, 0x1F), (0x7F, 0x9F)]

/-- The code points of the format characters, which steer how others are shown, as inclusive
ranges. -/
def formatRanges : List (Nat × Nat) :=
  [(0xAD, 0xAD), (0x600, 0x605), (0x61C, 0x61C), (0x6DD, 0x6DD), (0x70F, 0x70F), (0x890, 0x891),
    (0x8E2, 0x8E2), (0x180E, 0x180E), (0x200B, 0x200F), (0x202A, 0x202E), (0x2060, 0x2064),
    (0x2066, 0x206F), (0xFEFF, 0xFEFF), (0xFFF9, 0xFFFB), (0x110BD, 0x110BD), (0x110CD, 0x110CD),
    (0x13430, 0x1343F), (0x1BCA0, 0x1BCA3), (0x1D173, 0x1D17A), (0xE0001, 0xE0001),
    (0xE0020, 0xE007F)]

/-- The code points that are left to private agreement, as inclusive ranges. -/
def privateRanges : List (Nat × Nat) :=
  [(0xE000, 0xF8FF), (0xF0000, 0xFFFFD), (0x100000, 0x10FFFD)]

/-- Whether a code point does not show as itself: a control, a format character, one for private
use, one without a character, or a blank other than the space. -/
def isHidden (c : Char) : Bool :=
  inRanges controlRanges c || inRanges formatRanges c || inRanges privateRanges c
    || inRanges unassignedRanges c || (isBlank c && c != ' ')

/-! ## Quoting -/

/-- The quoted form of a single character. -/
def quoteChar (mark c : Char) : Text :=
  if c = mark ∨ c = '\\' then ['\\', c]
  else if c = '\n' then ['\\', 'n']
  else if c = '\r' then ['\\', 'r']
  else if c = '\t' then ['\\', 't']
  else if isHidden c then
    if c.toNat ≤ 0xFF then '\\' :: 'x' :: hexDigits 2 c.toNat
    else if c.toNat ≤ 0xFFFF then '\\' :: 'u' :: hexDigits 4 c.toNat
    else '\\' :: 'U' :: hexDigits 8 c.toNat
  else [c]

/-- The mark that a text is quoted with. -/
def quoteMark (t : Text) : Char := if '\'' ∈ t ∧ '"' ∉ t then '"' else '\''

/-- The quoted form of a text. -/
def quoted (t : Text) : Text :=
  quoteMark t :: t.flatMap (quoteChar (quoteMark t)) ++ [quoteMark t]

/-- The double quote is chosen only where it saves a backslash. -/
example : quoted "it's".toList = "\"it's\"".toList := by decide +kernel

/-- With both quotes inside, the apostrophe is chosen and escaped. -/
example : quoted "'\"\n".toList = "'\\'\"\\n'".toList := by decide +kernel

end Text

end DocMarkdown
