import DocMarkdown.Proofs.Writer.Refinement
import Mathlib.Data.List.Infix

/-!
# Stretches inside stretches

Leaving an indented stretch takes off the prefix that was put on last, whichever that is.  It is the
one that entering the stretch put on if the steps inside take off no more than they put on, at any
point, and in the end as much (`Step.isTidy`).  What a stretch inside the stretch does counts for
nothing, because that one takes its own prefix off.

What carries the induction is `Writer.Above`: how many prefixes stand on top of those that were
there when the body began.  A step changes that number by what it counts itself
(`Writer.Above.run`), so in a run of tidy steps every stretch leaves the stack as it found it, and
nothing fails but what was aborted (`Writer.stretches_nest`).
-/

namespace DocMarkdown

/-! ## The steps of a run -/

section Runs

variable {σ α : Type} {m : Machine σ α}

/-- **The steps of a run.**  A run of steps comes to each step with the state that it is run from:
to the steps themselves, one after the other, and to those inside their stretches, at any depth. -/
inductive Step.ComesTo (m : Machine σ α) : List (Step α) → σ → Step α → σ → Prop
  | now {step : Step α} {rest : List (Step α)} {state : σ} :
      ComesTo m (step :: rest) state step state
  | inside {pre : Option Text} {body rest : List (Step α)} {abort : Bool} {state before : σ}
      {step : Step α} (inBody : ComesTo m body (m.indent pre state) step before) :
      ComesTo m (.scope pre body abort :: rest) state step before
  | later {first step : Step α} {rest : List (Step α)} {state before : σ}
      (inRest : ComesTo m rest (Step.run m first state).outcome.state step before) :
      ComesTo m (first :: rest) state step before

/-- How a step fails of its own accord: a stretch that is aborted does, and nothing else. -/
def Step.ownFailure : Step α → Option Failure
  | .act _ => none
  | .scope _ _ abort => if abort then some .aborted else none

lemma Step.ownFailure_ne_unmatchedOutdent (step : Step α) :
    step.ownFailure ≠ some .unmatchedOutdent := by
  cases step with
  | act action => simp [ownFailure]
  | scope pre body abort => cases abort <;> simp [ownFailure]

mutual

/-- A report and all reports in it. -/
def Report.listing : Report σ → List (Report σ)
  | .mk outcome inner => .mk outcome inner :: Report.listingAll inner

/-- Reports and all reports in them. -/
def Report.listingAll : List (Report σ) → List (Report σ)
  | [] => []
  | report :: rest => report.listing ++ Report.listingAll rest

end

mutual

theorem Step.exists_comesTo_of_mem_listing (step : Step α) {state : σ} {report : Report σ}
    (member : report ∈ (Step.run m step state).listing) (rest : List (Step α)) :
    ∃ inner before, Step.ComesTo m (step :: rest) state inner before
      ∧ report = Step.run m inner before := by
  cases step with
  | act action =>
    obtain rfl : report = Step.run m (.act action) state := by
      simpa [Step.run, Report.listing, Report.listingAll] using member
    exact ⟨_, _, .now, rfl⟩
  | scope pre body abort =>
    rcases List.mem_cons.1 member with rfl | inBody
    · exact ⟨_, _, .now, rfl⟩
    · obtain ⟨inner, before, comes, same⟩ := Step.exists_comesTo_of_mem_listingAll body inBody
      exact ⟨inner, before, .inside comes, same⟩

/-- Every report of a run, at any depth, is that of a step that the run comes to. -/
theorem Step.exists_comesTo_of_mem_listingAll (steps : List (Step α)) {state : σ}
    {report : Report σ} (member : report ∈ Report.listingAll (Step.runAll m steps state)) :
    ∃ inner before, Step.ComesTo m steps state inner before ∧ report = Step.run m inner before := by
  cases steps with
  | nil => exact absurd member List.not_mem_nil
  | cons step rest =>
    rcases List.mem_append.1 member with now | later
    · exact Step.exists_comesTo_of_mem_listing step now rest
    · obtain ⟨inner, before, comes, same⟩ := Step.exists_comesTo_of_mem_listingAll rest later
      exact ⟨inner, before, .later comes, same⟩

end

end Runs

/-! ## Tidy steps -/

namespace Step

open Writer (Operation)

/-- How many prefixes the steps put on themselves. -/
def pushes (steps : List (Step Operation)) : Nat :=
  steps.countP fun | .act (.indent _) => true | _ => false

/-- How many prefixes the steps take off themselves. -/
def pops (steps : List (Step Operation)) : Nat :=
  steps.countP fun | .act .outdent => true | _ => false

/-- Whether steps that begin with `depth` prefixes at hand have at no point taken off more than
those and the ones they have put on. -/
def covers (depth : Nat) (steps : List (Step Operation)) : Bool :=
  steps.inits.all fun done => pops done ≤ depth + pushes done

mutual

/-- **Tidy steps.** The steps inside a stretch, and inside the stretches in it, take off only
prefixes that the steps beside them have put on, and in the end all of those. -/
def isTidy : Step Operation → Bool
  | .act _ => true
  | .scope _ body _ => covers 0 body && pops body == pushes body && areTidy body

/-- Whether steps are tidy. -/
def areTidy : List (Step Operation) → Bool
  | [] => true
  | step :: rest => isTidy step && areTidy rest

end

variable {depth : Nat} {step : Step Operation} {rest : List (Step Operation)}

lemma pushes_cons : pushes (step :: rest) = pushes [step] + pushes rest :=
  (List.countP_append : List.countP _ ([step] ++ rest) = _)

lemma pops_cons : pops (step :: rest) = pops [step] + pops rest :=
  (List.countP_append : List.countP _ ([step] ++ rest) = _)

/-- What the first step leaves at hand covers the steps behind it. -/
lemma covers_cons (covered : covers depth (step :: rest) = true) :
    pops [step] ≤ depth + pushes [step]
      ∧ covers (depth + pushes [step] - pops [step]) rest = true := by
  have atEachPoint : ∀ done ∈ rest.inits, pops (step :: done) ≤ depth + pushes (step :: done) := by
    intro done member
    have counted := List.all_eq_true.1 covered (step :: done) (by simpa using member)
    exact of_decide_eq_true counted
  have first : pops [step] ≤ depth + pushes [step] := atEachPoint [] (by simp)
  refine ⟨first, List.all_eq_true.2 fun done member => decide_eq_true ?_⟩
  have counted := atEachPoint done member
  rw [pops_cons, pushes_cons] at counted
  omega

end Step

/-! ## Prefixes on top -/

namespace Writer

variable {w : Writer} {base : List Text} {depth : Nat}

/-- **Prefixes on top of others.** So many prefixes are in force on top of some others. -/
def Above (base : List Text) (depth : Nat) (w : Writer) : Prop :=
  ∃ own : List Text, own.length = depth ∧ w.indentation.stack = own ++ base

/-- There is nothing to take off exactly if no prefix is in force. -/
lemma outdent?_eq_none_iff : w.outdent? = none ↔ w.indentation.stack = [] := by
  rw [outdent?, Option.map_eq_none_iff, Indentation.pop?_eq_none_iff]

/-- What is taken off is the prefix that was put on last. -/
lemma exists_outdent?_eq {pre : Text} {rest : List Text}
    (stack : w.indentation.stack = pre :: rest) :
    ∃ outdented, w.outdent? = some outdented ∧ outdented.indentation.stack = rest := by
  refine ⟨{ w with indentation := ⟨rest, _, rfl⟩ }, ?_, rfl⟩
  unfold outdent? Indentation.pop?
  rw [stack]
  rfl

namespace Above

lemma self (w : Writer) : Above w.indentation.stack 0 w := ⟨[], rfl, rfl⟩

lemma stack_eq (above : Above base 0 w) : w.indentation.stack = base := by
  obtain ⟨own, length, stack⟩ := above
  rw [stack, List.length_eq_zero_iff.1 length, List.nil_append]

lemma of_frame {after : Writer} (above : Above base depth w) (frame : Frame w after) :
    Above base depth after := by
  rwa [Above, frame.indentation_eq]

lemma indent (above : Above base depth w) (pre : Option Text) :
    Above base (depth + 1) (w.indent pre) := by
  obtain ⟨own, length, stack⟩ := above
  refine ⟨pre.getD w.defaultPrefix :: own, by rw [List.length_cons, length], ?_⟩
  rw [List.cons_append, ← stack]
  rfl

lemma outdent? (above : Above base (depth + 1) w) :
    ∃ outdented, w.outdent? = some outdented ∧ Above base depth outdented := by
  obtain ⟨own, length, stack⟩ := above
  obtain ⟨pre, own, rfl⟩ := List.exists_cons_of_length_eq_add_one length
  obtain ⟨outdented, popped, left⟩ := exists_outdent?_eq stack
  exact ⟨outdented, popped, own, by simpa using length, left⟩

end Above

/-! ## Leaving a stretch -/

/-- **Leaving a stretch.**  However its body has ended, a stretch ends in the same way, unless the
body has left no prefix to take off. -/
lemma failure_leave (o : Outcome Writer) : (o.leave Writer.outdent?).failure
    = if o.state.indentation.stack = [] then some .unmatchedOutdent else o.failure := by
  unfold Outcome.leave
  cases stack : o.state.indentation.stack with
  | nil => rw [outdent?_eq_none_iff.2 stack, if_pos rfl]
  | cons pre rest =>
    obtain ⟨outdented, popped, -⟩ := exists_outdent?_eq stack
    rw [popped, if_neg (List.cons_ne_nil pre rest)]

lemma stack_leave {o : Outcome Writer} {pre : Text} {rest : List Text}
    (stack : o.state.indentation.stack = pre :: rest) :
    (o.leave Writer.outdent?).state.indentation.stack = rest := by
  obtain ⟨outdented, popped, left⟩ := exists_outdent?_eq stack
  rw [Outcome.leave, popped]
  exact left

/-- The writer that the body of a stretch leaves, before its prefix is taken off. -/
def atEnd (pre : Option Text) (body : List (Step Operation)) (w : Writer) : Writer :=
  Report.final (w.indent pre) (Step.runAll machine body (w.indent pre))

/-- What leaving the stretch comes down to. -/
lemma failure_run_scope (pre : Option Text) (body : List (Step Operation)) (abort : Bool) :
    (Step.run machine (.scope pre body abort) w).outcome.failure
      = if (w.atEnd pre body).indentation.stack = [] then some .unmatchedOutdent
        else (Step.scope pre body abort : Step Operation).ownFailure := by
  refine (failure_leave _).trans ?_
  cases abort <;> rfl

lemma stack_run_scope {pre : Option Text} {body : List (Step Operation)} {abort : Bool} {top : Text}
    {rest : List Text} (stack : (w.atEnd pre body).indentation.stack = top :: rest) :
    (Step.run machine (.scope pre body abort) w).outcome.state.indentation.stack = rest := by
  have ended : (if abort then .failed (w.atEnd pre body) .aborted else .done (w.atEnd pre body) :
      Outcome Writer).state.indentation.stack = top :: rest := by
    cases abort <;> exact stack
  exact stack_leave ended

/-! ## Runs of tidy steps -/

/-- **What a thing done counts for.** If there is a prefix to take off where one is taken off, it
does not fail, and the prefixes on top are as many more or less as it counts. -/
lemma Above.perform (above : Above base depth w) (operation : Operation)
    (covered : Step.pops [.act operation] ≤ depth + Step.pushes [.act operation]) :
    (Writer.perform operation w).failure = none
      ∧ Above base (depth + Step.pushes [.act operation] - Step.pops [.act operation])
        (Writer.perform operation w).state := by
  cases operation with
  | write t => exact ⟨rfl, above.of_frame (w.frame_write t)⟩
  | writeLine t => exact ⟨rfl, above.of_frame ((w.frame_write t).trans (frame_endLine _))⟩
  | freshLine => exact ⟨rfl, above.of_frame w.frame_freshLine⟩
  | blankLine => exact ⟨rfl, above.of_frame w.frame_blankLine⟩
  | indent pre => exact ⟨rfl, above.indent pre⟩
  | outdent =>
    obtain ⟨less, rfl⟩ : ∃ less, depth = less + 1 := Nat.exists_eq_add_of_le' covered
    obtain ⟨outdented, popped, left⟩ := above.outdent?
    simp only [Writer.perform, popped]
    exact ⟨rfl, left⟩
  | setDefaultPrefix pre => exact ⟨rfl, above⟩
  | read => exact ⟨rfl, above⟩

mutual

/-- **A tidy step** that finds the prefixes that it takes off fails of its own accord or not at all,
and leaves as many more or less of them as it counts.  A stretch counts for nothing. -/
theorem Above.run {w : Writer} {base : List Text} {depth : Nat} (above : Above base depth w)
    (step : Step Operation) (tidy : step.isTidy = true)
    (covered : Step.pops [step] ≤ depth + Step.pushes [step]) :
    (Step.run machine step w).outcome.failure = step.ownFailure
      ∧ Above base (depth + Step.pushes [step] - Step.pops [step])
        (Step.run machine step w).outcome.state := by
  cases step with
  | act operation => exact above.perform operation covered
  | scope pre body abort =>
    obtain ⟨⟨coveredInside, level⟩, tidyInside⟩ : (Step.covers 0 body = true
        ∧ Step.pops body = Step.pushes body) ∧ Step.areTidy body = true := by
      simpa [Step.isTidy] using tidy
    have inside := Above.runAll (Above.self (w.indent pre)) body tidyInside coveredInside
    rw [level, Nat.add_sub_cancel] at inside
    have stack : (w.atEnd pre body).indentation.stack
        = pre.getD w.defaultPrefix :: w.indentation.stack := inside.stack_eq
    refine ⟨?_, ?_⟩
    · rw [failure_run_scope, stack, if_neg (List.cons_ne_nil _ _)]
    · obtain ⟨own, length, onTop⟩ := above
      exact ⟨own, length, (stack_run_scope stack).trans onTop⟩

/-- Tidy steps leave as many more or less prefixes on top as they count together. -/
theorem Above.runAll {w : Writer} {base : List Text} {depth : Nat} (above : Above base depth w)
    (steps : List (Step Operation)) (tidy : Step.areTidy steps = true)
    (covered : Step.covers depth steps = true) :
    Above base (depth + Step.pushes steps - Step.pops steps)
      (Report.final w (Step.runAll machine steps w)) := by
  cases steps with
  | nil => exact above
  | cons step rest =>
    obtain ⟨tidyStep, tidyRest⟩ : step.isTidy = true ∧ Step.areTidy rest = true := by
      simpa [Step.areTidy] using tidy
    obtain ⟨coveredStep, coveredRest⟩ := Step.covers_cons covered
    have now := Above.run above step tidyStep coveredStep
    have later := Above.runAll now.2 rest tidyRest coveredRest
    have counted : depth + Step.pushes (step :: rest) - Step.pops (step :: rest)
        = depth + Step.pushes [step] - Step.pops [step] + Step.pushes rest - Step.pops rest := by
      rw [Step.pushes_cons, Step.pops_cons]
      omega
    rw [Step.runAll, Report.final_cons, counted]
    exact later

end

/-- A run of tidy steps comes to no step that is not tidy, or that takes off a prefix which was
there before the steps beside it began. -/
lemma Above.of_comesTo {steps : List (Step Operation)} {step : Step Operation} {before : Writer}
    (comes : Step.ComesTo machine steps w step before) (above : Above base depth w)
    (tidy : Step.areTidy steps = true) (covered : Step.covers depth steps = true) :
    step.isTidy = true
      ∧ ∃ base depth, Above base depth before ∧ Step.pops [step] ≤ depth + Step.pushes [step] := by
  induction comes generalizing base depth with
  | now =>
    obtain ⟨tidyStep, -⟩ := Bool.and_eq_true_iff.1 tidy
    exact ⟨tidyStep, base, depth, above, (Step.covers_cons covered).1⟩
  | inside inBody ih =>
    obtain ⟨tidyStretch, -⟩ := Bool.and_eq_true_iff.1 tidy
    obtain ⟨coveredAndLevel, tidyInside⟩ := Bool.and_eq_true_iff.1 tidyStretch
    exact ih (Above.self _) tidyInside (Bool.and_eq_true_iff.1 coveredAndLevel).1
  | later inRest ih =>
    obtain ⟨tidyFirst, tidyRest⟩ := Bool.and_eq_true_iff.1 tidy
    obtain ⟨coveredFirst, coveredRest⟩ := Step.covers_cons covered
    exact ih (Above.run above _ tidyFirst coveredFirst).2 tidyRest coveredRest

/-- **Stretches nest.**  In a run of tidy steps, whatever state it begins in, nothing fails for want
of a prefix; every step that it comes to, at any depth, fails of its own accord or not at all, and
every stretch leaves the prefixes as it found them.  In any run, taking a prefix off fails exactly
if none is in force, and changes nothing then; and leaving a stretch fails like that exactly if its
body has left no prefix in force, however the body has ended. -/
theorem stretches_nest (w : Writer) (program : List (Step Operation)) :
    (Step.areTidy program = true → Step.covers 0 program = true →
        (∀ report ∈ Report.listingAll (Step.runAll machine program w),
          report.outcome.failure ≠ some .unmatchedOutdent)
        ∧ (∀ step before, Step.ComesTo machine program w step before →
          (Step.run machine step before).outcome.failure = step.ownFailure)
        ∧ ∀ pre body abort before,
          Step.ComesTo machine program w (.scope pre body abort) before →
            (Step.run machine (.scope pre body abort) before).outcome.state.indentation.stack
              = before.indentation.stack)
      ∧ (∀ before : Writer,
        ((Writer.perform .outdent before).failure = some .unmatchedOutdent
          ↔ before.indentation.stack = [])
        ∧ (before.indentation.stack = [] → (Writer.perform .outdent before).state = before))
      ∧ (∀ (before : Writer) pre body abort,
        (Step.run machine (.scope pre body abort) before).outcome.failure = some .unmatchedOutdent
          ↔ (before.atEnd pre body).indentation.stack = [])
      ∧ ∀ ended : Outcome Writer, (ended.leave Writer.outdent?).failure
        = if ended.state.indentation.stack = [] then some .unmatchedOutdent else ended.failure := by
  refine ⟨fun tidy covered => ?_, fun before => ?_, fun before pre body abort => ?_, failure_leave⟩
  · have fails : ∀ step before, Step.ComesTo machine program w step before →
        (Step.run machine step before).outcome.failure = step.ownFailure := by
      intro step before comes
      obtain ⟨tidyStep, base, depth, above, coveredStep⟩ :=
        Above.of_comesTo comes (.self w) tidy covered
      exact (above.run step tidyStep coveredStep).1
    refine ⟨fun report member => ?_, fails, fun pre body abort before comes => ?_⟩
    · obtain ⟨step, before, comes, rfl⟩ := Step.exists_comesTo_of_mem_listingAll program member
      rw [fails step before comes]
      exact step.ownFailure_ne_unmatchedOutdent
    · -- A stretch counts for nothing, so nothing has to be on top of the prefixes that it finds.
      obtain ⟨tidyStep, -⟩ := Above.of_comesTo comes (.self w) tidy covered
      exact ((Above.self before).run _ tidyStep (Nat.zero_le _)).2.stack_eq
  · cases popped : before.outdent? with
    | none => simp [Writer.perform, popped, Outcome.failed, outdent?_eq_none_iff.1 popped]
    | some outdented =>
      have inForce : before.indentation.stack ≠ [] := by
        rw [Ne, ← outdent?_eq_none_iff, popped]
        exact Option.some_ne_none _
      simp [Writer.perform, popped, Outcome.done, inForce]
  · rw [failure_run_scope]
    split
    next empty => simp [empty]
    next inForce => simp [inForce, Step.ownFailure_ne_unmatchedOutdent]

/-- A run that begins behind a prefix and comes to an aborted stretch inside another one, whose
prefix ends a line, while the default prefix changes. -/
theorem stretches_nest_abortedInside :
    let w := (Writer.on "x".toList).indent (some "- ".toList)
    let inner : Step Operation := .scope (some ">\n".toList)
      [.act (.indent none), .act (.write "b\nc".toList), .scope none [] true, .act .outdent] true
    let program : List (Step Operation) := [.act (.indent (some [])),
      .scope none [.act (.setDefaultPrefix "* ".toList), inner, .act .freshLine] true,
      .act .outdent, .act (.write "d".toList)]
    Step.areTidy program = true ∧ Step.covers 0 program = true
      ∧ (∀ report ∈ Report.listingAll (Step.runAll machine program w),
        report.outcome.failure ≠ some .unmatchedOutdent)
      ∧ (∃ before, Step.ComesTo machine program w inner before
        ∧ (Step.run machine inner before).outcome.failure = some .aborted
        ∧ (Step.run machine inner before).outcome.state.indentation.stack
          = before.indentation.stack
        ∧ before.indentation.stack = ["    ".toList, [], "- ".toList])
      ∧ (Report.final w (Step.runAll machine program w)).contents
        = "x-     >\n* b\n-     >\n* c\n- d".toList := by
  intro w inner program
  have tidy : Step.areTidy program = true := by decide
  have covered : Step.covers 0 program = true := by decide
  obtain ⟨matched, fails, kept⟩ := (stretches_nest w program).1 tidy covered
  refine ⟨tidy, covered, matched, ?_, by decide⟩
  have comes : Step.ComesTo machine program w inner _ := .later (.inside (.later .now))
  exact ⟨_, comes, fails inner _ comes, kept _ _ _ _ comes, by decide⟩

/-- A stretch whose body takes the prefix off fails for want of it, although it was aborted too. -/
example : (Step.run machine (.scope none [.act .outdent] true) (.on [])).outcome.failure
    = some .unmatchedOutdent := by decide

end Writer

end DocMarkdown
