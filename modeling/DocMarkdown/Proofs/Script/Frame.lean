import DocMarkdown.Proofs.Writer.Frame
import DocMarkdown.Script

/-!
# What a script leaves alone

A script changes the page by appending to it, and the prefixes not at all: an indented stretch takes
off the very prefix that it put on, because all that ran in between left the stack as it found it.
This holds of every writer, also of one that no writing leads to, and of scripts that fail half-way
(`Script.frame_run`).
-/

namespace DocMarkdown

/-! ## Directives -/

namespace Writer

lemma frame_softBreak (w : Writer) : Frame w w.softBreak := by
  unfold softBreak
  split
  · exact w.frame_write _
  · exact .refl w

lemma frame_separate (w : Writer) : Frame w w.separate := by
  unfold separate
  split
  · exact w.frame_write _
  · exact .refl w

end Writer

/-! ## Scripts -/

lemma Outcome.frame_andThen {w : Writer} {first : Outcome Writer}
    {next : Writer → Outcome Writer} (now : Writer.Frame w first.state)
    (later : ∀ w, Writer.Frame w (next w).state) : Writer.Frame w (first.andThen next).state := by
  unfold Outcome.andThen
  split
  · exact now
  · exact now.trans (later first.state)

mutual

/-- What a directive leaves alone. -/
theorem Directive.frame_run (directive : Directive) (w : Writer) :
    Writer.Frame w (directive.run w).state := by
  cases directive with
  | write t => exact w.frame_write t
  | endLine => exact w.frame_endLine
  | freshLine => exact w.frame_freshLine
  | blankLine => exact w.frame_blankLine
  | softBreak => exact w.frame_softBreak
  | separate => exact w.frame_separate
  | indented pre body => exact Writer.frame_leave pre (Script.frame_run body _)
  | log entry => exact .refl w
  | fail failure => exact .refl w

/-- **What a script leaves alone**, whether it fails or not. -/
theorem Script.frame_run (script : Script) (w : Writer) :
    Writer.Frame w (script.run w).state := by
  cases script with
  | nil => exact .refl w
  | cons directive rest =>
    exact Outcome.frame_andThen (Directive.frame_run directive w) (Script.frame_run rest)

end

end DocMarkdown
