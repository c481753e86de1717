import DocMarkdown.Text.Blank

/-!
# Escaping running text

Running text may be read as Markdown and as HTML, so the characters that either gives a meaning to
are written in a form that shows them literally.  `Text.escape` does this in four passes:

1. `Text.doubleBackslashes`: a backslash is written twice, first of all, so that the backslashes
   that later passes add are not doubled;
2. `Text.escapeSymbols`: a backslash is put before each Markdown symbol;
3. `Text.escapeHyphens`: three hyphens in a row, which could become a rule or the underline of a
   heading, get a backslash each; shorter runs are kept;
4. `Text.escapeMarkup`: ampersand and angle brackets become character entities.
-/

namespace DocMarkdown

namespace Text

/-! ## The passes -/

/-- The text with each backslash written twice. -/
def doubleBackslashes (t : Text) : Text :=
  t.flatMap fun c => if c = '\\' then ['\\', '\\'] else [c]

/-- The characters that carry a Markdown meaning inside running text: star, hash, square brackets,
underscore, bar, backquote and tilde. -/
def markdownSymbols : Text := ['*', '#', '[', ']', '_', '|', '\x60', '~']

/-- The text with a backslash before each Markdown symbol. -/
def escapeSymbols (t : Text) : Text :=
  t.flatMap fun c => if c ∈ markdownSymbols then ['\\', c] else [c]

/-- The text with three backslashed hyphens for each three hyphens in a row, counted from the
left. -/
def escapeHyphens : Text → Text
  | [] => []
  | '-' :: '-' :: '-' :: rest => '\\' :: '-' :: '\\' :: '-' :: '\\' :: '-' :: escapeHyphens rest
  | c :: rest => c :: escapeHyphens rest

/-- The entity that stands for a character of markup; other characters stand for themselves. -/
def entity (c : Char) : Text :=
  if c = '&' then "&amp;".toList
  else if c = '<' then "&lt;".toList
  else if c = '>' then "&gt;".toList
  else [c]

/-- The text with entities for ampersands and angle brackets. -/
def escapeMarkup (t : Text) : Text := t.flatMap entity

/-! ## All passes -/

/-- **Escaping.**  The text in the form that Markdown and HTML show literally. -/
def escape (t : Text) : Text :=
  escapeMarkup (escapeHyphens (escapeSymbols (doubleBackslashes t)))

/-- Hyphens in threes are escaped, and a fourth one is not. -/
example : escape "x ---- y".toList = "x \\-\\-\\-- y".toList := by decide

end Text

end DocMarkdown
