import DocMarkdown.Writer

/-!
# Scripts

Between a tree and the page stands a `Script`: what to write, in order, with nothing left that
depends on the tree.  What a directive does may still depend on what was written before it; what a
script logs, and whether it fails, does not.

`Script.run_append` says that scripts written one after the other are run one after the other.
-/

namespace DocMarkdown

/-! ## Directives -/

/-- **Directive.** One instruction of a script.

* `softBreak` writes a space where the last character is there and not blank;
* `separate` keeps text apart from a character that it could merge with;
* `indented` runs a script with one more prefix in force. -/
inductive Directive where
  | write (t : Text)
  | endLine
  | freshLine
  | blankLine
  | softBreak
  | separate
  | indented (pre : Text) (body : List Directive)
  | log (entry : LogEntry)
  | fail (failure : Failure)

/-- **Script.** Directives in order. -/
abbrev Script := List Directive

namespace Writer

/-- Writes a space, unless nothing was written yet or the last character is blank. -/
def softBreak (w : Writer) : Writer :=
  if w.last?.any (!Text.isBlank ·) then w.write [' '] else w

/-- The characters that a formatting symbol cannot merge with. -/
def safeCharacters : List Char := ['\n', ' ', '[', '>']

/-- The separator: an HTML comment, which shows nothing. -/
def separator : Text := "<!-- -->".toList

/-- Writes the separator, unless nothing was written yet or the last character is safe. -/
def separate (w : Writer) : Writer :=
  if w.last?.any (· ∉ safeCharacters) then w.write separator else w

end Writer

/-! ## Running a script -/

mutual

/-- Does what one directive says. -/
def Directive.run : Directive → Writer → Outcome Writer
  | .write t, w => .done (w.write t)
  | .endLine, w => .done w.endLine
  | .freshLine, w => .done w.freshLine
  | .blankLine, w => .done w.blankLine
  | .softBreak, w => .done w.softBreak
  | .separate, w => .done w.separate
  | .indented pre body, w => (Script.run body (w.indent (some pre))).leave Writer.outdent?
  | .log entry, w => .logged w entry
  | .fail failure, w => .failed w failure

/-- Runs a script up to its end or to the first failure. -/
def Script.run : Script → Writer → Outcome Writer
  | [], w => .done w
  | directive :: rest, w => (Directive.run directive w).andThen (Script.run rest)

end

/-- Scripts written one after the other are run one after the other. -/
theorem Script.run_append (first second : Script) (w : Writer) :
    Script.run (first ++ second) w = (Script.run first w).andThen (Script.run second) := by
  induction first generalizing w with
  | nil => simp [Script.run]
  | cons directive rest ih =>
    simp only [List.cons_append, Script.run, Outcome.andThen_assoc]
    congr 1
    exact funext ih

end DocMarkdown
