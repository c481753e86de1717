import DocMarkdown.Fault
import DocMarkdown.Log

/-!
# Outcomes

An operation on a state leaves a state behind, also when it stops half-way: what was written stays
written.  An `Outcome` holds that state, what was logged, and the failure if there was one.
`Outcome.andThen` runs a second operation if the first one did not fail; it is associative with
`Outcome.done` as its unit (`Outcome.andThen_assoc`), so outcomes of longer and longer sequences
compose.
-/

namespace DocMarkdown

/-- **Outcome.** The state after an operation, its log, and its failure if it failed. -/
structure Outcome (σ : Type) where
  state : σ
  log : List LogEntry
  failure : Option Failure
  deriving DecidableEq, Repr

namespace Outcome

variable {σ α : Type}

/-- The outcome of an operation that did its work and logged nothing. -/
def done (state : σ) : Outcome σ := ⟨state, [], none⟩

/-- The outcome of an operation that stopped at once. -/
def failed (state : σ) (failure : Failure) : Outcome σ := ⟨state, [], some failure⟩

/-- The outcome of an operation that did no more than log. -/
def logged (state : σ) (entry : LogEntry) : Outcome σ := ⟨state, [entry], none⟩

/-- The outcome of two operations, the second one run only if the first did not fail. -/
def andThen (first : Outcome σ) (next : σ → Outcome σ) : Outcome σ :=
  match first.failure with
  | some _ => first
  | none =>
    let second := next first.state
    ⟨second.state, first.log ++ second.log, second.failure⟩

@[simp] theorem done_andThen (state : σ) (next : σ → Outcome σ) :
    (done state).andThen next = next state := by
  simp [done, andThen]

@[simp] theorem failed_andThen (state : σ) (failure : Failure) (next : σ → Outcome σ) :
    (failed state failure).andThen next = failed state failure := rfl

@[simp] theorem andThen_done (first : Outcome σ) : first.andThen done = first := by
  obtain ⟨state, log, _ | _⟩ := first <;> simp [done, andThen]

theorem andThen_assoc (first : Outcome σ) (next last : σ → Outcome σ) :
    (first.andThen next).andThen last = first.andThen fun state => (next state).andThen last := by
  obtain ⟨state, log, _ | _⟩ := first
  · simp only [andThen]
    cases h : (next state).failure <;> simp [h]
  · rfl

/-- The outcome after the end of an indented stretch, which takes its prefix off whether the stretch
failed or not.  If there is no prefix to take off, that is the failure. -/
def leave (outdent? : σ → Option σ) (o : Outcome σ) : Outcome σ :=
  match outdent? o.state with
  | some state => { o with state }
  | none => { o with failure := some .unmatchedOutdent }

/-- The outcome with its state seen through a function. -/
def map {τ : Type} (f : σ → τ) (o : Outcome σ) : Outcome τ := ⟨f o.state, o.log, o.failure⟩

section Map

variable {τ : Type} {f : σ → τ}

/-- What is done one after the other to a state can be done to what is seen of it, if the second
operation looks at no more than that. -/
theorem map_andThen {next : σ → Outcome σ} {next' : τ → Outcome τ}
    (seen : ∀ state, next' (f state) = (next state).map f) (first : Outcome σ) :
    (first.map f).andThen next' = (first.andThen next).map f := by
  obtain ⟨state, log, _ | _⟩ := first
  · simp [map, andThen, seen]
  · rfl

theorem map_leave {outdent? : σ → Option σ} {outdent?' : τ → Option τ}
    (seen : ∀ state, outdent?' (f state) = (outdent? state).map f) (o : Outcome σ) :
    (o.map f).leave outdent?' = (o.leave outdent?).map f := by
  simp only [leave, map, seen]
  cases outdent? o.state <;> rfl

end Map

/-- The outcome of an operation on an argument that may be malformed: then it fails, and the state
stays as it is. -/
def attempt (perform : α → σ → Outcome σ) : Except Malformed α → σ → Outcome σ
  | .ok argument, state => perform argument state
  | .error malformed, state => failed state (.malformed malformed)

end Outcome

end DocMarkdown
