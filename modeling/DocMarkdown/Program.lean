import DocMarkdown.Writer

/-!
# Programs of steps

A program drives a machine: it does one thing after the other, and indents stretches of its steps.
A step that fails is reported, and the program goes on from the state that the step left.  A stretch
ends by taking one prefix off, whatever its steps did to the stack and whether it was aborted or not
(`Step.run`).
-/

namespace DocMarkdown

/-- **Machine.** What a program drives: how it does one thing, and how it indents and outdents. -/
structure Machine (σ α : Type) where
  perform : α → σ → Outcome σ
  indent : Option Text → σ → σ
  outdent? : σ → Option σ

/-- The machine that a writer is. -/
def Writer.machine : Machine Writer Writer.Operation where
  perform := Writer.perform
  indent pre w := w.indent pre
  outdent? := Writer.outdent?

/-- **Step.** One thing to do, or an indented stretch of steps, aborted after its last step if
`abort` says so. -/
inductive Step (α : Type) where
  | act (action : α)
  | scope (pre : Option Text) (body : List (Step α)) (abort : Bool)

/-- **Report.** The outcome of a step; for a stretch, also the reports of its steps. -/
inductive Report (σ : Type) where
  | mk (outcome : Outcome σ) (inner : List (Report σ))

/-- The outcome that a report tells. -/
def Report.outcome {σ : Type} : Report σ → Outcome σ
  | mk outcome _ => outcome

/-- The reports of the steps inside a stretch. -/
def Report.inner {σ : Type} : Report σ → List (Report σ)
  | mk _ inner => inner

/-- The state after the last report, or `start` if there is none. -/
def Report.final {σ : Type} (start : σ) (reports : List (Report σ)) : σ :=
  (reports.getLast?.map (·.outcome.state)).getD start

mutual

/-- Runs one step.  The log of a stretch is in the reports of its steps. -/
def Step.run {σ α : Type} (m : Machine σ α) : Step α → σ → Report σ
  | .act action, state => .mk (m.perform action state) []
  | .scope pre body abort, state =>
    let inner := Step.runAll m body (m.indent pre state)
    let final := Report.final (m.indent pre state) inner
    .mk ((if abort then .failed final .aborted else .done final : Outcome σ).leave m.outdent?) inner

/-- Runs steps in order, each from the state that the one before left. -/
def Step.runAll {σ α : Type} (m : Machine σ α) : List (Step α) → σ → List (Report σ)
  | [], _ => []
  | step :: rest, state =>
    let report := Step.run m step state
    report :: Step.runAll m rest report.outcome.state

end

end DocMarkdown
