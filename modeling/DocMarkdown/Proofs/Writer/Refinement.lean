import DocMarkdown.Proofs.Writer.Frame
import DocMarkdown.Proofs.Writer.Scribe
import Mathlib.Logic.Basic

/-!
# Writers do what scribes do

A `Writer` never reads the page.  It keeps what it has to know: the last two chunks that it
appended, whether the next character begins a line, and the text that its prefixes make up.
`Writer.Follows` relates it to the scribe that has written the same text and reads all this off
that text.  The two chunks are enough to look back because no chunk is empty (`Writer.Recent`).

Each operation keeps the relation (`Writer.Follows.perform`), and so does every program of steps,
however its indented stretches nest and wherever they are aborted (`Step.run_related`).  After each
step the writer and the scribe therefore show the same, and fail or succeed alike.
-/

namespace DocMarkdown

/-! ## Simulation of machines -/

section Simulation

variable {σ τ α ω : Type} {R : σ → τ → Prop}

/-- Outcomes that cannot be told apart but by their states, and those are related. -/
structure Outcome.Related (R : σ → τ → Prop) (o : Outcome σ) (o' : Outcome τ) : Prop where
  state : R o.state o'.state
  log : o.log = o'.log
  failure : o.failure = o'.failure

/-- **Simulation.** A relation that each thing a machine can do keeps. -/
structure Machine.Simulation (R : σ → τ → Prop) (m : Machine σ α) (m' : Machine τ α) : Prop where
  perform : ∀ {s s'}, R s s' → ∀ action, (m.perform action s).Related R (m'.perform action s')
  indent : ∀ {s s'}, R s s' → ∀ pre, R (m.indent pre s) (m'.indent pre s')
  outdent? : ∀ {s s'}, R s s' → Option.Rel R (m.outdent? s) (m'.outdent? s')

lemma Outcome.Related.andThen {o : Outcome σ} {o' : Outcome τ} (h : o.Related R o')
    {next : σ → Outcome σ} {next' : τ → Outcome τ}
    (later : ∀ {s s'}, R s s' → (next s).Related R (next' s')) :
    (o.andThen next).Related R (o'.andThen next') := by
  have second := later h.state
  unfold Outcome.andThen
  rw [← h.failure]
  cases o.failure with
  | none => exact ⟨second.state, congrArg₂ (· ++ ·) h.log second.log, second.failure⟩
  | some failure => exact h

/-- Leaving an indented stretch keeps a relation that outdenting keeps. -/
lemma Outcome.Related.leave {outdent? : σ → Option σ} {outdent?' : τ → Option τ}
    (outdents : ∀ {s s'}, R s s' → Option.Rel R (outdent? s) (outdent?' s'))
    {o : Outcome σ} {o' : Outcome τ} (h : o.Related R o') :
    (o.leave outdent?).Related R (o'.leave outdent?') := by
  have both := outdents h.state
  unfold Outcome.leave
  generalize outdent? o.state = left at both ⊢
  generalize outdent?' o'.state = right at both ⊢
  cases both with
  | some related => exact ⟨related, h.log, h.failure⟩
  | none => exact ⟨h.state, h.log, rfl⟩

/-- A stretch that is aborted in both machines, or in neither, ends alike. -/
lemma Outcome.Related.ended {s : σ} {s' : τ} (related : R s s') (abort : Bool) :
    (if abort then .failed s .aborted else .done s : Outcome σ).Related R
      (if abort then .failed s' .aborted else .done s') := by
  cases abort <;> exact ⟨related, rfl, rfl⟩

mutual

/-- The report with every state in it seen through a function. -/
def Report.map (f : σ → ω) : Report σ → Report ω
  | .mk outcome inner => .mk (outcome.map f) (Report.mapAll f inner)

/-- The reports with every state in them seen through a function. -/
def Report.mapAll (f : σ → ω) : List (Report σ) → List (Report ω)
  | [] => []
  | report :: rest => Report.map f report :: Report.mapAll f rest

end

lemma Report.final_cons (start : σ) (report : Report σ) (rest : List (Report σ)) :
    Report.final start (report :: rest) = Report.final report.outcome.state rest := by
  cases h : rest.getLast? with
  | none =>
    obtain rfl : rest = [] := by simpa using h
    rfl
  | some last => simp [Report.final, List.getLast?_cons, h]

variable {m : Machine σ α} {m' : Machine τ α} {f : σ → ω} {g : τ → ω}

mutual

/-- **A simulation lasts for a step.**  What shows of related states is the same in both reports,
down to the innermost stretch, and the states that the steps leave are related again. -/
theorem Step.run_related (sim : Machine.Simulation R m m') (shown : ∀ s s', R s s' → f s = g s')
    (step : Step α) {s : σ} {s' : τ} (related : R s s') :
    (Step.run m step s).outcome.Related R (Step.run m' step s').outcome
      ∧ Report.map f (Step.run m step s) = Report.map g (Step.run m' step s') := by
  cases step with
  | act action =>
    have performed := sim.perform related action
    refine ⟨performed, ?_⟩
    simp only [Step.run, Report.map, Report.mapAll, Outcome.map, Report.mk.injEq, and_true,
      Outcome.mk.injEq]
    exact ⟨shown _ _ performed.state, performed.log, performed.failure⟩
  | scope pre body abort =>
    obtain ⟨final, inner⟩ := Step.runAll_related sim shown body (sim.indent related pre)
    have left := (Outcome.Related.ended final abort).leave sim.outdent?
    refine ⟨left, ?_⟩
    simp only [Step.run, Report.map, Outcome.map, Report.mk.injEq, Outcome.mk.injEq]
    exact ⟨⟨shown _ _ left.state, left.log, left.failure⟩, inner⟩

/-- A simulation lasts for steps in order. -/
theorem Step.runAll_related (sim : Machine.Simulation R m m')
    (shown : ∀ s s', R s s' → f s = g s') (steps : List (Step α)) {s : σ} {s' : τ}
    (related : R s s') :
    R (Report.final s (Step.runAll m steps s)) (Report.final s' (Step.runAll m' steps s'))
      ∧ Report.mapAll f (Step.runAll m steps s) = Report.mapAll g (Step.runAll m' steps s') := by
  cases steps with
  | nil => exact ⟨related, rfl⟩
  | cons step rest =>
    obtain ⟨outcome, report⟩ := Step.run_related sim shown step related
    obtain ⟨final, reports⟩ := Step.runAll_related sim shown rest outcome.state
    simp only [Step.runAll, Report.final_cons, Report.mapAll, report, reports, and_true]
    exact final

end

end Simulation

/-! ## A writer and its scribe -/

namespace Writer

/-- **The last two chunks of a text** that was written in chunks, none of them empty. -/
inductive Recent : Text → Option Text → Option Text → Prop where
  | nothing : Recent [] none none
  | one {chunk : Text} (nonempty : chunk ≠ []) : Recent chunk (some chunk) none
  | two (before : Text) {previous latest : Text} (nonempty : previous ≠ [])
      (nonempty' : latest ≠ []) :
      Recent (before ++ previous ++ latest) (some latest) (some previous)

namespace Recent

variable {written : Text} {latest? previous? : Option Text}

lemma eq_nil (h : Recent written none previous?) : written = [] := by
  cases h
  rfl

/-- Another chunk takes the place of the latest one, and that of the one before. -/
lemma append (h : Recent written latest? previous?) {chunk : Text} (nonempty : chunk ≠ []) :
    Recent (written ++ chunk) (some chunk) latest? := by
  cases h with
  | nothing => exact .one nonempty
  | one latestNonempty => exact .two [] latestNonempty nonempty
  | two before previousNonempty latestNonempty => exact .two _ latestNonempty nonempty

lemma getLast?_eq (h : Recent written latest? previous?) :
    latest?.bind List.getLast? = written.getLast? := by
  cases h with
  | nothing => rfl
  | one nonempty => rfl
  | two before previousNonempty latestNonempty =>
    rw [List.getLast?_append, Option.bind_some, List.getLast?_eq_some_getLast latestNonempty]
    rfl

lemma getLast?_dropLast {chunk : Text} (long : 1 < chunk.length) :
    chunk.dropLast.getLast? = chunk[chunk.length - 2]? := by
  have inside : chunk.length - 1 - 1 < chunk.length - 1 := by omega
  rw [List.getLast?_eq_getElem?, List.length_dropLast, List.getElem?_dropLast, if_pos inside,
    Nat.sub_sub]

/-- The last two chunks are enough to find the character before the last one. -/
lemma secondLast?_eq {chunk : Text} (h : Recent written (some chunk) previous?) :
    (if 1 < chunk.length then chunk[chunk.length - 2]? else previous?.bind List.getLast?)
      = Typing.secondLast? written := by
  unfold Typing.secondLast?
  split
  next long =>
    have present : chunk.length - 2 < chunk.length := by omega
    cases h with
    | one nonempty => exact (getLast?_dropLast long).symm
    | two before previousNonempty latestNonempty =>
      rw [List.dropLast_append_of_ne_nil latestNonempty, List.getLast?_append,
        getLast?_dropLast long, List.getElem?_eq_getElem present]
      rfl
  next short =>
    have single : chunk.dropLast = [] := by
      rw [← List.length_eq_zero_iff, List.length_dropLast]
      omega
    cases h with
    | one nonempty =>
      rw [single]
      rfl
    | two before previousNonempty latestNonempty =>
      rw [List.dropLast_append_of_ne_nil latestNonempty, single, List.append_nil,
        List.getLast?_append, Option.bind_some, List.getLast?_eq_some_getLast previousNonempty]
      rfl

end Recent

/-- **A writer follows a scribe**, on a page that held some text before: it has put the same text on
the page behind the same prefixes, it knows the last two chunks of that text, and where lines
begin. -/
structure Follows (found : Text) (w : Writer) (s : Scribe) : Prop where
  contents_eq : w.contents = found ++ s.written
  recent : Recent s.written w.latest? w.previous?
  stack_eq : w.indentation.stack = s.prefixes
  defaultPrefix_eq : w.defaultPrefix = s.defaultPrefix
  atLineStart_eq : w.atLineStart = Typing.atLineStart s.written

namespace Follows

variable {found : Text} {w : Writer} {s : Scribe}

lemma margin_eq (h : Follows found w s) : w.indentation.text = s.margin := by
  rw [w.indentation.text_eq, h.stack_eq, Scribe.margin]

/-- The indentation is put as one chunk where a line begins, unless it is empty. -/
lemma putIndentation (h : Follows found w s) :
    w.putIndentation.contents
        = found ++ (if Typing.atLineStart s.written then s.written ++ s.margin else s.written)
      ∧ Recent (if Typing.atLineStart s.written then s.written ++ s.margin else s.written)
          w.putIndentation.latest? w.putIndentation.previous? := by
  unfold Writer.putIndentation
  rw [h.atLineStart_eq, h.margin_eq]
  cases Typing.atLineStart s.written with
  | false => exact ⟨h.contents_eq, h.recent⟩
  | true =>
    by_cases noMargin : s.margin = []
    · simp only [noMargin, List.isEmpty_nil, Bool.not_true, Bool.and_false, Bool.false_eq_true,
        if_false, if_true, List.append_nil]
      exact ⟨h.contents_eq, h.recent⟩
    · have put : (true && !s.margin.isEmpty) = true := by simp [noMargin]
      rw [if_pos put, if_pos rfl]
      refine ⟨?_, h.recent.append noMargin⟩
      rw [Writer.append, h.contents_eq, List.append_assoc]

/-- Appending a chunk behind the indentation keeps the relation. -/
lemma append (h : Follows found w s) {chunk : Text} (nonempty : chunk ≠ []) :
    Follows found { w.putIndentation.append chunk with atLineStart := Typing.atLineStart chunk }
      { s with
        written := (if Typing.atLineStart s.written then s.written ++ s.margin else s.written)
          ++ chunk } where
  contents_eq := by
    rw [Writer.append, h.putIndentation.1, List.append_assoc]
  recent := h.putIndentation.2.append nonempty
  stack_eq := by
    have kept := congrArg Indentation.stack w.frame_putIndentation.indentation_eq
    exact kept.trans h.stack_eq
  defaultPrefix_eq := w.frame_putIndentation.defaultPrefix_eq.trans h.defaultPrefix_eq
  atLineStart_eq := by
    obtain ⟨start, last, rfl⟩ : ∃ start last, chunk = start ++ [last] :=
      ⟨_, _, (List.dropLast_concat_getLast nonempty).symm⟩
    simp only [← List.append_assoc, Typing.atLineStart_append_singleton]

lemma endLine (h : Follows found w s) : Follows found w.endLine s.endLine :=
  h.append (List.cons_ne_nil '\n' [])

lemma writePart (h : Follows found w s) {t : Text} (noFeed : '\n' ∉ t) (noReturn : '\r' ∉ t) :
    Follows found (w.writePart t) (s.write t) := by
  unfold Writer.writePart Scribe.write
  by_cases empty : t = []
  · subst empty
    exact h
  · have inLine : Typing.atLineStart t = false := by
      have last := List.getLast_mem empty
      rw [Typing.atLineStart, List.getLast?_eq_some_getLast empty]
      simpa using fun isFeed : t.getLast empty = '\n' => noFeed (isFeed ▸ last)
    have appended := h.append empty
    rw [inLine] at appended
    rw [Typing.write_of_line noFeed noReturn empty]
    simpa [empty] using appended

lemma writePart_dropReturns (h : Follows found w s) {line : Text} (noFeed : '\n' ∉ line) :
    Follows found (w.writePart line.dropReturns) (s.write line) := by
  have noFeedLeft : '\n' ∉ line.dropReturns := by
    intro member
    exact noFeed (List.mem_filter.1 member).1
  have noReturnLeft : '\r' ∉ line.dropReturns := by
    intro member
    simpa using (List.mem_filter.1 member).2
  have written := h.writePart noFeedLeft noReturnLeft
  rwa [Scribe.write, Typing.write_dropReturns] at written

lemma foldl_lines (h : Follows found w s) {lines : List Text}
    (noFeed : ∀ line ∈ lines, '\n' ∉ line) :
    Follows found (lines.foldl (fun w line => w.endLine.writePart line.dropReturns) w)
      (s.write (lines.flatMap ('\n' :: ·))) := by
  induction lines generalizing w s with
  | nil => exact h
  | cons line rest ih =>
    obtain ⟨inLine, inRest⟩ := List.forall_mem_cons.1 noFeed
    have written := ih (h.endLine.writePart_dropReturns inLine) inRest
    have scribed : s.write (List.flatMap ('\n' :: ·) (line :: rest))
        = (s.endLine.write line).write (rest.flatMap ('\n' :: ·)) := by
      rw [List.flatMap_cons, Scribe.write_append, Scribe.write_cons_lineFeed]
    rw [scribed]
    exact written

/-- **Writing.**  As one part, cut at its line feeds, or character by character, a text is written
the same. -/
lemma write (h : Follows found w s) (t : Text) : Follows found (w.write t) (s.write t) := by
  unfold Writer.write
  split
  next plain => exact h.writePart plain.1 plain.2
  next =>
    obtain ⟨inFirst, inOthers⟩ := Text.lineFeed_not_mem_lines t
    have written := (h.writePart_dropReturns inFirst).foldl_lines inOthers
    rwa [← Scribe.write_append, Text.lines_join] at written

/-! ### Looking back -/

lemma last?_eq (h : Follows found w s) : w.last? = s.written.getLast? := h.recent.getLast?_eq

lemma secondLast?_eq (h : Follows found w s) : w.secondLast? = Typing.secondLast? s.written := by
  have recent := h.recent
  -- The chunk before the last is asked for only where the last has a single character.
  unfold Writer.secondLast?
  split
  next nothing =>
    rw [nothing] at recent
    rw [recent.eq_nil]
    rfl
  next chunk latest =>
    rw [latest] at recent
    exact recent.secondLast?_eq

lemma isOpen_last? (h : Follows found w s) :
    isOpen w.last? = !Typing.atLineStart s.written := by
  rw [h.last?_eq, isOpen, Typing.atLineStart]
  cases s.written.getLast? <;> simp [bne]

lemma freshLine (h : Follows found w s) : Follows found w.freshLine s.freshLine := by
  unfold Writer.freshLine Scribe.freshLine Typing.freshLine
  rw [h.isOpen_last?]
  cases atLineStart : Typing.atLineStart s.written with
  | true => exact h
  | false => exact h.endLine

lemma blankLine (h : Follows found w s) : Follows found w.blankLine s.blankLine := by
  have fresh := h.freshLine
  unfold Writer.blankLine Scribe.blankLine Typing.blankLine
  rw [fresh.secondLast?_eq, isOpen]
  change Follows found (if (Typing.secondLast? s.freshLine.written).any (· != '\n') then _ else _)
    { s with written := if (Typing.secondLast? s.freshLine.written).any (· != '\n') then _ else _ }
  split
  next => exact fresh.endLine
  next => exact fresh

/-! ### Indenting -/

lemma indent (h : Follows found w s) (pre : Option Text) :
    Follows found (w.indent pre) (s.indent pre) where
  contents_eq := h.contents_eq
  recent := h.recent
  stack_eq := by
    simp [Writer.indent, Indentation.push, Scribe.indent, h.stack_eq, h.defaultPrefix_eq]
  defaultPrefix_eq := h.defaultPrefix_eq
  atLineStart_eq := h.atLineStart_eq

/-- Popping a prefix: both have one, or neither. -/
lemma outdent? (h : Follows found w s) :
    Option.Rel (Follows found) w.outdent? s.outdent? := by
  have same := h.stack_eq
  unfold Writer.outdent? Indentation.pop? Scribe.outdent?
  cases stack : s.prefixes with
  | nil =>
    rw [stack] at same
    simp only [same, Option.map_none]
    exact .none
  | cons pre rest =>
    rw [stack] at same
    simp only [same, Option.map_some]
    exact .some ⟨h.contents_eq, h.recent, rfl, h.defaultPrefix_eq, h.atLineStart_eq⟩

/-! ### Operations and programs -/

/-- **Operations.**  Whatever is done with both keeps the relation, and fails for both or for
neither. -/
theorem perform (h : Follows found w s) (operation : Operation) :
    (Writer.perform operation w).Related (Follows found) (Scribe.perform operation s) := by
  cases operation with
  | write t => exact ⟨h.write t, rfl, rfl⟩
  | writeLine t => exact ⟨(h.write t).endLine, rfl, rfl⟩
  | freshLine => exact ⟨h.freshLine, rfl, rfl⟩
  | blankLine => exact ⟨h.blankLine, rfl, rfl⟩
  | indent pre => exact ⟨h.indent pre, rfl, rfl⟩
  | outdent =>
    have both := h.outdent?
    simp only [Writer.perform, Scribe.perform]
    generalize w.outdent? = left at both ⊢
    generalize s.outdent? = right at both ⊢
    cases both with
    | some related => exact ⟨related, rfl, rfl⟩
    | none => exact ⟨h, rfl, rfl⟩
  | setDefaultPrefix pre =>
    exact ⟨{ h with defaultPrefix_eq := rfl }, rfl, rfl⟩
  | read => exact ⟨h, rfl, rfl⟩

lemma simulation (found : Text) :
    Machine.Simulation (Follows found) Writer.machine Scribe.machine where
  perform h := h.perform
  indent h := h.indent
  outdent? h := h.outdent?

lemma on (found : Text) : Follows found (Writer.on found) .fresh :=
  ⟨(List.append_nil found).symm, .nothing, rfl, rfl, rfl⟩

end Follows

/-! ## What shows of a writer -/

/-- **Observation.** All that anyone can ask a writer for: the text of the page, the last two
characters, whether the next character begins a line, the prefixes with the text they make up, and
the default prefix. -/
structure Observation where
  page : Text
  last? : Option Char
  secondLast? : Option Char
  atLineStart : Bool
  prefixes : List Text
  margin : Text
  defaultPrefix : Text
  deriving DecidableEq, Repr

/-- What shows of a writer. -/
def observe (w : Writer) : Observation where
  page := w.contents
  last? := w.last?
  secondLast? := w.secondLast?
  atLineStart := w.atLineStart
  prefixes := w.indentation.stack
  margin := w.indentation.text
  defaultPrefix := w.defaultPrefix

end Writer

/-- What a scribe would show on a page that held some text before.  All is read off the text
written, the prefixes and the default prefix. -/
def Scribe.observe (found : Text) (s : Scribe) : Writer.Observation where
  page := found ++ s.written
  last? := s.written.getLast?
  secondLast? := Typing.secondLast? s.written
  atLineStart := Typing.atLineStart s.written
  prefixes := s.prefixes
  margin := s.margin
  defaultPrefix := s.defaultPrefix

namespace Writer

lemma Follows.observe_eq {found : Text} {w : Writer} {s : Scribe} (h : Follows found w s) :
    w.observe = s.observe found := by
  simp only [observe, Scribe.observe, h.contents_eq, h.last?_eq, h.secondLast?_eq,
    h.atLineStart_eq, h.stack_eq, h.margin_eq, h.defaultPrefix_eq]

/-- A writer goes on following its scribe through any program, and each step is reported alike. -/
lemma Follows.runAll {found : Text} {w : Writer} {s : Scribe} (h : Follows found w s)
    (program : List (Step Operation)) :
    Follows found (Report.final w (Step.runAll machine program w))
        (Report.final s (Step.runAll Scribe.machine program s))
      ∧ Report.mapAll observe (Step.runAll machine program w)
        = Report.mapAll (Scribe.observe found) (Step.runAll Scribe.machine program s) := by
  have shown : ∀ w s, Follows found w s → w.observe = s.observe found :=
    fun _ _ follows => follows.observe_eq
  exact Step.runAll_related (Follows.simulation found) shown program h

/-- **Writing in parts.**  It does not show whether a text was written as a whole or in two parts.
The chunks that a writer remembers do differ, and so the writers do. -/
theorem Follows.observe_write_append {found : Text} {w : Writer} {s : Scribe}
    (h : Follows found w s) (t u : Text) :
    (w.write (t ++ u)).observe = ((w.write t).write u).observe := by
  have whole := h.write (t ++ u)
  rw [Scribe.write_append] at whole
  exact whole.observe_eq.trans ((h.write t).write u).observe_eq.symm

/-- **A writer is a scribe.**  Whatever the page held before and whatever program is run on it, each
step is reported alike, down to the steps of the innermost stretch: with the same failure, and with
everything that shows of the writer as it is read off the text that a scribe has written. -/
theorem observe_runAll (found : Text) (program : List (Step Operation)) :
    Report.mapAll observe (Step.runAll Writer.machine program (Writer.on found))
      = Report.mapAll (Scribe.observe found) (Step.runAll Scribe.machine program .fresh) :=
  ((Follows.on found).runAll program).2

end Writer

end DocMarkdown
