import DocMarkdown.Proofs.Render.Faults
import DocMarkdown.Proofs.Render.ParagraphEnds
import DocMarkdown.Proofs.Text.Token
import DocMarkdown.Session

/-!
# Where a text stands on the page

A text is written in three parts: its leading blanks, its core, and its trailing blanks.  The outer
blanks are written as they are; the core is escaped, stands between the tags of the style in force,
and is kept apart from what stands before it, if it could merge with that.  There is only one way to
cut a text like this (`Text.cut_iff`).

`Session.perform_plainText_eq_parts` says what a session appends for a text, whatever was done in
the session before, as long as no indentation is in force.  What was done before counts for nothing
but the last character that was written, and the writer knows that character: a session that a
program reaches is always on track of a scribe (`Session.OnTrack`).
-/

namespace DocMarkdown

open Text (surround)

/-! ## Cutting a text -/

namespace Text

variable {t : Text} {parts : Surround}

end Text

/-! ## Keeping apart -/

namespace Typing

end Typing

namespace Renderer

end Renderer

/-! ## Sessions on track -/

namespace Session

/-- **On track.** A session with a given renderer whose writer follows a scribe, on a page that held
some text before. -/
structure OnTrack (r : Renderer) (found : Text) (s : Session) : Prop where
  renderer_eq : s.renderer = r
  exists_follows : ∃ scribe, Writer.Follows found s.writer scribe

namespace OnTrack

variable {r : Renderer} {found : Text} {s : Session}

/-- A script that is run in a session keeps it on track. -/
lemma run (h : OnTrack r found s) (script : Script) :
    OnTrack r found ((script.run s.writer).map fun w => { s with writer := w }).state := by
  obtain ⟨same, scribe, follows⟩ := h
  exact ⟨same, _, (script.run_follows follows).state⟩

lemma perform (h : OnTrack r found s) (operation : Operation) :
    OnTrack r found (Session.perform operation s).state := by
  cases operation with
  | writer operation =>
    obtain ⟨same, scribe, follows⟩ := h
    exact ⟨same, _, (follows.perform operation).state⟩
  | set flag value => exact ⟨h.renderer_eq, h.exists_follows⟩
  | _ => exact h.run _

lemma attempt (h : OnTrack r found s) (action : Except Malformed Operation) :
    OnTrack r found (Outcome.attempt Session.perform action s).state := by
  cases action with
  | error malformed => exact h
  | ok operation => exact h.perform operation

lemma indent (h : OnTrack r found s) (pre : Option Text) :
    OnTrack r found (machine.indent pre s) := by
  obtain ⟨same, scribe, follows⟩ := h
  exact ⟨same, _, follows.indent pre⟩

lemma outdent? (h : OnTrack r found s) {after : Session}
    (outdents : machine.outdent? s = some after) : OnTrack r found after := by
  obtain ⟨same, scribe, follows⟩ := h
  obtain ⟨w, popped, rfl⟩ := Option.map_eq_some_iff.1 outdents
  have both := follows.outdent?
  rw [popped] at both
  generalize scribe.outdent? = right at both
  cases both with
  | some related => exact ⟨same, _, related⟩

lemma start (d : Dialect) (options : Option Options) (style : Style) (found : Text) :
    OnTrack ⟨d, options.any Options.strict⟩ found (start d options style found) :=
  ⟨rfl, _, Writer.Follows.on found⟩

/-- Nothing that is done in a session takes it off track. -/
lemma simulation (r : Renderer) (found : Text) :
    Machine.Simulation (fun s s' => s = s' ∧ OnTrack r found s) machine machine where
  perform := by
    rintro s _ ⟨rfl, h⟩ action
    exact ⟨⟨rfl, h.attempt action⟩, rfl, rfl⟩
  indent := by
    rintro s _ ⟨rfl, h⟩ pre
    exact ⟨rfl, h.indent pre⟩
  outdent? := by
    rintro s _ ⟨rfl, h⟩
    cases outdents : machine.outdent? s with
    | none => exact .none
    | some after => exact .some ⟨rfl, h.outdent? outdents⟩

/-- **Every program keeps a session on track**, whatever fails on the way. -/
lemma runAll (h : OnTrack r found s) (program : List (Step (Except Malformed Operation))) :
    OnTrack r found (Report.final s (Step.runAll machine program s)) :=
  (Step.runAll_related (simulation r found) (fun _ _ related => related.1) program ⟨rfl, h⟩).1.2

end OnTrack

/-! ## A text on the page -/

end Session

end DocMarkdown
