import DocMarkdown.Proofs.Writer.Refinement
import DocMarkdown.Render

/-!
# What a script does

The run of a script has three results that can be told without running it.  How it fails and what it
logs are read off the script alone (`Script.failures`, `Script.entries`).  The text that it leaves
depends on the text that was there and on the margin, and on nothing else (`Script.extend`); after
an indented stretch the margin is what it was before.

`Script.run_follows` puts the three together, for every writer that follows a scribe.  A rendering
starts with such a writer, so `Dialect.failure_render`, `Dialect.log_render` and
`Dialect.state_render` say what comes of it.
-/

namespace DocMarkdown

/-! ## Failures and log -/

mutual

/-- The failures that a directive names. -/
@[simp] def Directive.failures : Directive → List Failure
  | .indented _ body => Script.failures body
  | .fail failure => [failure]
  | _ => []

/-- The failures that a script names, in order.  The first one stops it. -/
def Script.failures : Script → List Failure
  | [] => []
  | directive :: rest => directive.failures ++ Script.failures rest

end

mutual

/-- What a directive logs. -/
def Directive.entries : Directive → List LogEntry
  | .indented _ body => Script.entries body
  | .log entry => [entry]
  | _ => []

/-- What a script logs up to its first failure. -/
def Script.entries : Script → List LogEntry
  | [] => []
  | directive :: rest =>
    directive.entries ++ if directive.failures.isEmpty then Script.entries rest else []

end

namespace Script

lemma failures_eq (script : Script) : failures script = script.flatMap Directive.failures := by
  induction script with
  | nil => rfl
  | cons directive rest ih => rw [failures, ih, List.flatMap_cons]

@[simp] lemma failures_nil : failures [] = [] := rfl

@[simp] lemma failures_cons (directive : Directive) (rest : Script) :
    failures (directive :: rest) = directive.failures ++ failures rest := by
  simp [failures_eq]

@[simp] lemma failures_append (first second : Script) :
    failures (first ++ second) = failures first ++ failures second := by
  simp [failures_eq]

@[simp] lemma failures_flatMap {α : Type} (items : List α) (f : α → Script) :
    failures (items.flatMap f) = items.flatMap fun item => failures (f item) := by
  induction items with
  | nil => rfl
  | cons item rest ih => simp [ih]

/-- A second script logs nothing where the first one fails. -/
lemma entries_append (first second : Script) :
    entries (first ++ second)
      = entries first ++ if (failures first).isEmpty then entries second else [] := by
  induction first with
  | nil => rfl
  | cons directive rest ih =>
    rw [List.cons_append, entries, entries, failures_cons, ih]
    by_cases succeeds : directive.failures = []
    · simp [succeeds]
    · simp [succeeds]

lemma entries_flatMap {α : Type} {items : List α} {f : α → Script}
    (succeed : ∀ item ∈ items, failures (f item) = []) :
    entries (items.flatMap f) = items.flatMap fun item => entries (f item) := by
  induction items with
  | nil => rfl
  | cons item rest ih =>
    obtain ⟨now, later⟩ := List.forall_mem_cons.1 succeed
    rw [List.flatMap_cons, List.flatMap_cons, entries_append, now, ih later]
    rfl

end Script

/-! ## The text left behind -/

namespace Typing

/-- A space, unless nothing was written yet or a blank character last. -/
def softBreak (margin written : Text) : Text :=
  if written.getLast?.any (!Text.isBlank ·) then write margin written [' '] else written

/-- The separator, unless nothing was written yet or a safe character last. -/
def separate (margin written : Text) : Text :=
  if written.getLast?.any (· ∉ Writer.safeCharacters) then write margin written Writer.separator
  else written

end Typing

mutual

/-- The text after a directive that is followed behind a margin. -/
def Directive.extend (margin : Text) : Directive → Text → Text
  | .write t, written => Typing.write margin written t
  | .endLine, written => Typing.put margin written '\n'
  | .freshLine, written => Typing.freshLine margin written
  | .blankLine, written => Typing.blankLine margin written
  | .softBreak, written => Typing.softBreak margin written
  | .separate, written => Typing.separate margin written
  | .indented pre body, written => Script.extend (margin ++ pre) body written
  | .log _, written => written
  | .fail _, written => written

/-- **The text after a script** that is followed behind a margin, up to its first failure. -/
def Script.extend (margin : Text) : Script → Text → Text
  | [], written => written
  | directive :: rest, written =>
    if directive.failures.isEmpty then Script.extend margin rest (directive.extend margin written)
    else directive.extend margin written

end

namespace Directive

/-- Without a margin a text is written as it is, if it has no carriage returns. -/
lemma extend_write_nil_margin {t : Text} (noReturn : t.dropReturns = t) (written : Text) :
    extend [] (.write t) written = written ++ t := by
  rw [extend, Typing.write_nil_margin, noReturn]

lemma extend_endLine_nil_margin (written : Text) : extend [] .endLine written = written ++ ['\n'] :=
  Typing.put_nil_margin written '\n'

end Directive

namespace Script

variable {margin written : Text}

@[simp] lemma extend_nil : extend margin [] written = written := rfl

/-- A directive that names no failure is followed by the rest of the script. -/
lemma extend_cons {directive : Directive} (succeeds : directive.failures = []) (rest : Script) :
    extend margin (directive :: rest) written
      = extend margin rest (directive.extend margin written) := by
  rw [extend, if_pos (List.isEmpty_iff.2 succeeds)]

lemma extend_append {first : Script} (succeeds : failures first = []) (second : Script) :
    extend margin (first ++ second) written
      = extend margin second (extend margin first written) := by
  induction first generalizing written with
  | nil => rfl
  | cons directive rest ih =>
    obtain ⟨now, later⟩ := List.append_eq_nil_iff.1 (failures_cons directive rest ▸ succeeds)
    rw [List.cons_append, extend_cons now, extend_cons now, ih later]

/-- A script that fails is not followed by another one. -/
lemma extend_append_of_failures {first : Script} (fails : failures first ≠ []) (second : Script) :
    extend margin (first ++ second) written = extend margin first written := by
  induction first generalizing written with
  | nil => exact absurd failures_nil fails
  | cons directive rest ih =>
    rw [List.cons_append, extend, extend]
    split
    next succeeds =>
      have later : failures rest ≠ [] := by simpa [List.isEmpty_iff.1 succeeds] using fails
      exact ih later
    next => rfl

@[simp] lemma extend_singleton (directive : Directive) :
    extend margin [directive] written = directive.extend margin written := by
  rw [extend]
  split <;> rfl

end Script

/-! ## Running a script -/

namespace Writer.Follows

variable {found : Text} {w : Writer} {s : Scribe}

lemma softBreak (h : Follows found w s) :
    Follows found w.softBreak { s with written := Typing.softBreak s.margin s.written } := by
  unfold Writer.softBreak Typing.softBreak
  rw [h.last?_eq]
  split
  next => exact h.write [' ']
  next => exact h

lemma separate (h : Follows found w s) :
    Follows found w.separate { s with written := Typing.separate s.margin s.written } := by
  unfold Writer.separate Typing.separate
  rw [h.last?_eq]
  split
  next => exact h.write Writer.separator
  next => exact h

end Writer.Follows

lemma Scribe.margin_indent (s : Scribe) (pre : Text) :
    (s.indent (some pre)).margin = s.margin ++ pre := by
  simp [Scribe.margin, Scribe.indent]

/-- The outcome of a script that a scribe follows. -/
def Script.outcome (script : Script) (s : Scribe) : Outcome Scribe where
  state := { s with written := script.extend s.margin s.written }
  log := Script.entries script
  failure := (Script.failures script).head?

/-- The outcome of a directive that a scribe follows. -/
def Directive.outcome (directive : Directive) (s : Scribe) : Outcome Scribe where
  state := { s with written := directive.extend s.margin s.written }
  log := directive.entries
  failure := directive.failures.head?

/-- A script does what its first directive does, and then the rest if that did not fail. -/
lemma Script.outcome_cons (directive : Directive) (rest : Script) (s : Scribe) :
    Script.outcome (directive :: rest) s = (directive.outcome s).andThen (Script.outcome rest) := by
  unfold Outcome.andThen
  cases named : directive.failures with
  | nil =>
    simp [Script.outcome, Directive.outcome, Script.extend, Script.entries, Scribe.margin, named]
  | cons failure others =>
    simp [Script.outcome, Directive.outcome, Script.extend, Script.entries, named]

/-- An indented stretch does what its script does behind a longer margin, and nothing else: leaving
it always finds the prefix that entering it pushed. -/
lemma Directive.outcome_indented (pre : Text) (body : Script) (s : Scribe) :
    Directive.outcome (.indented pre body) s
      = (Script.outcome body (s.indent (some pre))).leave Scribe.outdent? := by
  simp only [Outcome.leave, Script.outcome, Directive.outcome, Directive.extend,
    Directive.entries, Directive.failures, Scribe.outdent?, Scribe.margin_indent]
  rfl

mutual

/-- What comes of a directive, for a writer that follows a scribe. -/
theorem Directive.run_follows {found : Text} (directive : Directive) {w : Writer} {s : Scribe}
    (h : Writer.Follows found w s) :
    (Directive.run directive w).Related (Writer.Follows found) (directive.outcome s) := by
  cases directive with
  | write t => exact ⟨h.write t, rfl, rfl⟩
  | endLine => exact ⟨h.endLine, rfl, rfl⟩
  | freshLine => exact ⟨h.freshLine, rfl, rfl⟩
  | blankLine => exact ⟨h.blankLine, rfl, rfl⟩
  | softBreak => exact ⟨h.softBreak, rfl, rfl⟩
  | separate => exact ⟨h.separate, rfl, rfl⟩
  | indented pre body =>
    -- The prefix is pushed and popped on both sides, so the stretch leaves related prefixes.
    have inside := Script.run_follows body (h.indent (some pre))
    rw [Directive.outcome_indented]
    exact inside.leave fun related => related.outdent?
  | log entry => exact ⟨h, rfl, rfl⟩
  | fail failure => exact ⟨h, rfl, rfl⟩

/-- **What comes of a script**, for a writer that follows a scribe: the text that it extends, the
entries that it logs and the first failure that it names.  The prefixes are left as they were. -/
theorem Script.run_follows {found : Text} (script : Script) {w : Writer} {s : Scribe}
    (h : Writer.Follows found w s) :
    (Script.run script w).Related (Writer.Follows found) (script.outcome s) := by
  cases script with
  | nil => exact ⟨h, rfl, rfl⟩
  | cons directive rest =>
    have first := Directive.run_follows directive h
    rw [Script.outcome_cons]
    exact first.andThen fun related => Script.run_follows rest related

end

/-! ## Renderings -/

namespace Dialect

variable {d : Dialect} {request : Request} {strict : Bool}

/-- Under valid options a rendering fails with the first failure that the script of its tree
names. -/
lemma failure_render (valid : d.strictness request.options = .ok strict) (found : Text) :
    (d.render request found).failure
      = (Script.failures (Renderer.script ⟨d, strict⟩ .plain request.tree)).head? := by
  have ran := (d.fullScript strict request.tree).run_follows (Writer.Follows.on found)
  have named : Script.failures (d.fullScript strict request.tree)
      = Script.failures (Renderer.script ⟨d, strict⟩ .plain request.tree) := by
    simp [fullScript]
  simp only [render, valid, Outcome.map]
  rw [ran.failure, Script.outcome, named]

/-- The script of a tree that is rendered without failure names none. -/
lemma failures_script_of_render (valid : d.strictness request.options = .ok strict) {found : Text}
    (succeeds : (d.render request found).failure = none) :
    Script.failures (Renderer.script ⟨d, strict⟩ .plain request.tree) = [] := by
  rw [failure_render valid] at succeeds
  exact List.head?_eq_none_iff.1 succeeds

/-- Under valid options a rendering logs that it began, and then what the script of its tree
logs. -/
lemma log_render (valid : d.strictness request.options = .ok strict) (found : Text) :
    (d.render request found).log = .started request.tree.kind
      :: Script.entries (Renderer.script ⟨d, strict⟩ .plain request.tree) := by
  have ran := (d.fullScript strict request.tree).run_follows (Writer.Follows.on found)
  simp only [render, valid, Outcome.map]
  rw [ran.log, Script.outcome, fullScript, List.cons_append, Script.entries, Script.entries_append]
  simp [Directive.entries, Script.entries]

/-- Under valid options a rendering leaves on the page what its whole script writes. -/
lemma state_render_eq_extend (valid : d.strictness request.options = .ok strict) (found : Text) :
    (d.render request found).state
      = found ++ Script.extend [] (d.fullScript strict request.tree) [] := by
  have ran := (d.fullScript strict request.tree).run_follows (Writer.Follows.on found)
  simp only [render, valid, Outcome.map]
  exact ran.state.contents_eq

/-- Under valid options a rendering that succeeds leaves the text of its tree on the page, and the
last line ended. -/
lemma state_render (valid : d.strictness request.options = .ok strict)
    (succeeds : Script.failures (Renderer.script ⟨d, strict⟩ .plain request.tree) = [])
    (found : Text) :
    (d.render request found).state
      = found ++ Typing.freshLine []
          (Script.extend [] (Renderer.script ⟨d, strict⟩ .plain request.tree) []) := by
  rw [state_render_eq_extend valid, fullScript, List.cons_append, Script.extend_cons rfl,
    Script.extend_append succeeds]
  rfl

/-- Under valid options a rendering that fails leaves the text of its tree up to there. -/
lemma state_render_of_failures (valid : d.strictness request.options = .ok strict)
    (fails : Script.failures (Renderer.script ⟨d, strict⟩ .plain request.tree) ≠ [])
    (found : Text) :
    (d.render request found).state
      = found ++ Script.extend [] (Renderer.script ⟨d, strict⟩ .plain request.tree) [] := by
  rw [state_render_eq_extend valid, fullScript, List.cons_append, Script.extend_cons rfl,
    Script.extend_append_of_failures fails]
  rfl

end Dialect

end DocMarkdown
