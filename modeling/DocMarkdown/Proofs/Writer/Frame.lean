import DocMarkdown.Writer
import Mathlib.Tactic.Lemma

/-!
# What writing leaves alone

Writing changes the page by appending to it, and the prefixes not at all.  So the prefix that an
indented stretch put on is still the last one when the stretch is left, if all that was done in
between is writing (`Writer.frame_leave`).
-/

namespace DocMarkdown

/-! ## Frames -/

/-- **Frame.** What writing leaves alone of a writer: the prefixes, the default prefix, and the text
that the page holds already. -/
structure Writer.Frame (before after : Writer) : Prop where
  indentation_eq : after.indentation = before.indentation
  defaultPrefix_eq : after.defaultPrefix = before.defaultPrefix
  contents_grow : before.contents <+: after.contents

namespace Writer

variable {w w' w'' : Writer}

namespace Frame

lemma refl (w : Writer) : Frame w w := ⟨rfl, rfl, List.prefix_refl _⟩

lemma trans (h : Frame w w') (h' : Frame w' w'') : Frame w w'' where
  indentation_eq := h'.indentation_eq.trans h.indentation_eq
  defaultPrefix_eq := h'.defaultPrefix_eq.trans h.defaultPrefix_eq
  contents_grow := h.contents_grow.trans h'.contents_grow

end Frame

/-! ## Writing -/

lemma frame_append (w : Writer) (chunk : Text) : Frame w (w.append chunk) :=
  ⟨rfl, rfl, List.prefix_append ..⟩

lemma frame_putIndentation (w : Writer) : Frame w w.putIndentation := by
  unfold putIndentation
  split
  · exact w.frame_append _
  · exact .refl w

lemma frame_writePart (w : Writer) (t : Text) : Frame w (w.writePart t) := by
  unfold writePart
  split
  · exact .refl w
  · have appended := w.frame_putIndentation.trans (w.putIndentation.frame_append t)
    exact ⟨appended.indentation_eq, appended.defaultPrefix_eq, appended.contents_grow⟩

lemma frame_endLine (w : Writer) : Frame w w.endLine := by
  have appended := w.frame_putIndentation.trans (w.putIndentation.frame_append ['\n'])
  exact ⟨appended.indentation_eq, appended.defaultPrefix_eq, appended.contents_grow⟩

lemma frame_foldl_lines (w : Writer) (lines : List Text) :
    Frame w (lines.foldl (fun w line => w.endLine.writePart line.dropReturns) w) := by
  induction lines generalizing w with
  | nil => exact .refl w
  | cons line rest ih => exact w.frame_endLine.trans ((w.endLine.frame_writePart _).trans (ih _))

lemma frame_write (w : Writer) (t : Text) : Frame w (w.write t) := by
  unfold write
  split
  · exact w.frame_writePart t
  · exact (w.frame_writePart _).trans (frame_foldl_lines _ _)

lemma frame_freshLine (w : Writer) : Frame w w.freshLine := by
  unfold freshLine
  split
  · exact w.frame_endLine
  · exact .refl w

lemma frame_blankLine (w : Writer) : Frame w w.blankLine := by
  unfold blankLine
  split
  · exact w.frame_freshLine.trans w.freshLine.frame_endLine
  · exact w.frame_freshLine

/-! ## Leaving a stretch -/

/-- Leaving an indented stretch takes off the prefix that entering it put on. -/
lemma outdent?_of_frame {pre : Text} {after : Writer}
    (inside : Frame (w.indent (some pre)) after) :
    outdent? after = some { after with indentation := w.indentation } := by
  have popped : after.indentation.pop? = some w.indentation := by
    rw [inside.indentation_eq]
    exact w.indentation.pop?_push pre
  rw [outdent?, popped, Option.map_some]

/-- **Leaving an indented stretch** finds the prefix that entering it put on, and takes nothing else
off. -/
lemma frame_leave (pre : Text) {o : Outcome Writer} (inside : Frame (w.indent (some pre)) o.state) :
    Frame w (o.leave outdent?).state := by
  rw [Outcome.leave, outdent?_of_frame inside]
  exact ⟨rfl, inside.defaultPrefix_eq, inside.contents_grow⟩

end Writer

end DocMarkdown
