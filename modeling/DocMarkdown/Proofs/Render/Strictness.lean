import DocMarkdown.Proofs.Script.Congruence
import DocMarkdown.Proofs.Script.Frame
import DocMarkdown.Render

/-!
# Strict renderings

Where a lenient rendering logs that a reference is not known and goes on, a strict one stops.  Up to
there the two do the same, and from there on nothing that the lenient one writes can change what
stands on the page.  So a strict rendering never says anything else than a lenient one, it only says
less (`Dialect.render_strict_eq_or_stops`).

One outcome *forestalls* another if it is the same, or if it stops where the other one has logged
its first unknown reference (`Outcome.Forestalls`).  This lasts when scripts are put together, so
it has to be seen for links alone.
-/

namespace DocMarkdown

/-- Whether an entry says that a reference is not known. -/
def LogEntry.isUnresolved : LogEntry → Bool
  | unresolved _ => true
  | _ => false

/-- The first unknown reference of a log, and what stands before it, can be told from the log. -/
lemma LogEntry.eq_of_append_unresolved {before before' later later' : List LogEntry}
    {reference reference' : Text} (quiet : ∀ entry ∈ before, entry.isUnresolved = false)
    (quiet' : ∀ entry ∈ before', entry.isUnresolved = false)
    (same : before ++ .unresolved reference :: later
      = before' ++ .unresolved reference' :: later') :
    before = before' ∧ reference = reference' := by
  have cut {before later : List LogEntry} {reference : Text}
      (quiet : ∀ entry ∈ before, entry.isUnresolved = false) :
      (before ++ .unresolved reference :: later).takeWhile (!·.isUnresolved) = before := by
    rw [List.takeWhile_append_of_pos (by simpa using quiet)]
    simp [isUnresolved]
  obtain rfl : before = before' := by rw [← cut quiet, same, cut quiet']
  obtain ⟨first, -⟩ := List.cons.inj (List.append_cancel_left same)
  exact ⟨rfl, unresolved.inj first⟩

/-! ## Forestalling -/

/-- **Forestalling.** An outcome forestalls another one if both are the same and no reference in
them is unknown, or if it stops at the first reference that is unknown in the other.  What was
written up to then stands on the other's page as well. -/
inductive Outcome.Forestalls (strict lenient : Outcome Writer) : Prop where
  | agrees (same : strict = lenient) (quiet : ∀ entry ∈ strict.log, entry.isUnresolved = false)
  | stops (reference : Text) (later : List LogEntry)
      (quiet : ∀ entry ∈ strict.log, entry.isUnresolved = false)
      (log_eq : lenient.log = strict.log ++ .unresolved reference :: later)
      (failure_eq : strict.failure = some (.fault (.unresolvedLink (String.ofList reference))))
      (frame : Writer.Frame strict.state lenient.state)

namespace Outcome

lemma andThen_of_failure {σ : Type} {first : Outcome σ} {failure : Failure}
    (fails : first.failure = some failure) (next : σ → Outcome σ) : first.andThen next = first := by
  rw [andThen, fails]

lemma log_andThen {σ : Type} {first : Outcome σ} (succeeds : first.failure = none)
    (next : σ → Outcome σ) : (first.andThen next).log = first.log ++ (next first.state).log := by
  rw [andThen, succeeds]

/-- What is done next adds to the log. -/
lemma exists_log_andThen_eq {σ : Type} (first : Outcome σ) (next : σ → Outcome σ) :
    ∃ later, (first.andThen next).log = first.log ++ later := by
  cases failure : first.failure with
  | none => exact ⟨_, log_andThen failure next⟩
  | some f => exact ⟨[], by rw [andThen_of_failure failure, List.append_nil]⟩

namespace Forestalls

variable {strict lenient : Outcome Writer}

lemma of_quiet {o : Outcome Writer} (quiet : o.log = []) : Forestalls o o :=
  .agrees rfl (by simp [quiet])

/-- Forestalling lasts when something is done next, which leaves alone what was written. -/
lemma andThen (first : Forestalls strict lenient) {next next' : Writer → Outcome Writer}
    (second : ∀ w, Forestalls (next w) (next' w)) (frames : ∀ w, Writer.Frame w (next' w).state) :
    Forestalls (strict.andThen next) (lenient.andThen next') := by
  cases first with
  | agrees same quiet =>
    subst same
    cases failure : strict.failure with
    | some f =>
      rw [andThen_of_failure failure, andThen_of_failure failure]
      exact .agrees rfl quiet
    | none =>
      have quietBoth (quiet' : ∀ entry ∈ (next strict.state).log, entry.isUnresolved = false) :
          ∀ entry ∈ (strict.andThen next).log, entry.isUnresolved = false := by
        rw [log_andThen failure]
        exact List.forall_mem_append.2 ⟨quiet, quiet'⟩
      cases second strict.state with
      | agrees same' quiet' =>
        refine .agrees ?_ (quietBoth quiet')
        rw [Outcome.andThen, Outcome.andThen, same']
      | stops reference later quiet' log_eq failure_eq frame =>
        refine .stops reference later (quietBoth quiet') ?_ ?_ ?_
        · rw [log_andThen failure, log_andThen failure, log_eq, List.append_assoc]
        · simp only [Outcome.andThen, failure, failure_eq]
        · simpa only [Outcome.andThen, failure] using frame
  | stops reference later quiet log_eq failure_eq frame =>
    -- The strict run has stopped for good; the lenient one only adds to what it did.
    obtain ⟨more, log_eq'⟩ := lenient.exists_log_andThen_eq next'
    rw [andThen_of_failure failure_eq]
    refine .stops reference (later ++ more) quiet ?_ failure_eq (frame_andThen frame frames)
    rw [log_eq', log_eq, List.append_assoc, List.cons_append]

/-- Forestalling lasts at the end of an indented stretch. -/
lemma leave (inside : Forestalls strict lenient) {w : Writer} {pre : Text}
    (ofStrict : Writer.Frame (w.indent (some pre)) strict.state)
    (ofLenient : Writer.Frame (w.indent (some pre)) lenient.state) :
    Forestalls (strict.leave Writer.outdent?) (lenient.leave Writer.outdent?) := by
  simp only [Outcome.leave, Writer.outdent?_of_frame ofStrict, Writer.outdent?_of_frame ofLenient]
  cases inside with
  | agrees same quiet => exact .agrees (by rw [same]) quiet
  | stops reference later quiet log_eq failure_eq frame =>
    exact .stops reference later quiet log_eq failure_eq
      ⟨rfl, frame.defaultPrefix_eq, frame.contents_grow⟩

/-- Where no reference is unknown, both outcomes are the same. -/
lemma eq_of_forall_not_mem (forestalled : Forestalls strict lenient)
    (none : ∀ reference, .unresolved reference ∉ lenient.log) : strict = lenient := by
  cases forestalled with
  | agrees same quiet => exact same
  | stops reference later quiet log_eq failure_eq frame =>
    refine absurd ?_ (none reference)
    exact log_eq ▸ List.mem_append_right _ List.mem_cons_self

/-- The forestalling outcome has stopped where the first unknown reference stands in the log of the
other. -/
lemma stops_at (forestalled : Forestalls strict lenient) {before later : List LogEntry}
    {reference : Text} (logged : lenient.log = before ++ .unresolved reference :: later)
    (first : ∀ other, .unresolved other ∉ before) :
    strict.failure = some (.fault (.unresolvedLink (String.ofList reference)))
      ∧ strict.log = before ∧ strict.state.contents <+: lenient.state.contents := by
  cases forestalled with
  | agrees same quiet =>
    have member : .unresolved reference ∈ strict.log := by
      rw [same, logged]
      exact List.mem_append_right _ List.mem_cons_self
    exact absurd (quiet _ member) Bool.true_eq_false.mp
  | stops other others quiet log_eq failure_eq frame =>
    have quietBefore : ∀ entry ∈ before, entry.isUnresolved = false := by
      intro entry member
      cases entry with
      | unresolved other => exact absurd member (first other)
      | _ => rfl
    obtain ⟨rfl, rfl⟩ := LogEntry.eq_of_append_unresolved quiet quietBefore (log_eq ▸ logged)
    exact ⟨failure_eq, rfl, frame.contents_grow⟩

end Forestalls

end Outcome

/-! ## Scripts -/

/-- A script forestalls another one if it does so from every writer. -/
def Script.Forestalls (strict lenient : Script) : Prop :=
  ∀ w, Outcome.Forestalls (strict.run w) (lenient.run w)

namespace Script

lemma Forestalls.append {a a' b b' : Script} (first : Forestalls a a') (second : Forestalls b b') :
    Forestalls (a ++ b) (a' ++ b') := by
  intro w
  rw [run_append, run_append]
  exact (first w).andThen second (frame_run b')

/-- **Forestalling is a congruence.** -/
theorem congruence_forestalls : Congruence Forestalls where
  nil w := .of_quiet rfl
  plain plain w := .of_quiet (log_run_of_isPlain plain w)
  append := .append
  quoted inside w := by
    rw [run_indented, run_indented]
    exact (inside _).leave (frame_run _ _) (frame_run _ _)

end Script

namespace Renderer

/-- A link to a declaration that is not known stops a strict renderer, and a lenient one logs it and
writes what is left of it. -/
lemma forestalls_unresolvedLink (d : Dialect) (style : Style) (l : Link) (reference : Reference) :
    Script.Forestalls (unresolvedLink ⟨d, true⟩ style l reference)
      (unresolvedLink ⟨d, false⟩ style l reference) := by
  intro w
  have written := Script.frame_run (linkText ⟨d, false⟩ style l) w
  refine .stops reference.tsdoc (Script.run (linkText ⟨d, false⟩ style l) w).log ?_ rfl rfl written
  exact fun entry member => absurd member List.not_mem_nil

/-- Where the target of a link is known, all renderers of a dialect write it alike. -/
lemma forestalls_resolvedLink (d : Dialect) (l : Link) (reference : Reference) (target : Target) :
    Script.Forestalls (resolvedLink ⟨d, true⟩ l reference target)
      (resolvedLink ⟨d, false⟩ l reference target) := by
  rw [resolvedLink_eq, resolvedLink_eq]
  split
  · -- The entry says that the link has no label, not that its reference is unknown.
    refine fun w => .agrees rfl fun entry member => ?_
    obtain rfl : entry = .unlabelled reference.tsdoc := List.mem_singleton.1 member
    rfl
  · exact Script.congruence_forestalls.plain rfl

/-- **Links.** A strict renderer stops at a link to an unknown declaration, and writes all others as
a lenient one does. -/
lemma forestalls_link (d : Dialect) (style : Style) (l : Link) :
    Script.Forestalls (link ⟨d, true⟩ style l) (link ⟨d, false⟩ style l) := by
  unfold link
  split
  · unfold declarationLink
    dsimp only
    split
    · exact Script.congruence_forestalls.plain rfl
    · exact Script.congruence_forestalls.plain rfl
    · exact Script.congruence_forestalls.plain rfl
    · split
      · exact forestalls_resolvedLink d l _ _
      · exact forestalls_unresolvedLink d style l _
  · split
    · exact Script.congruence_forestalls.self (isPlain_linkText ⟨d, true⟩ style l)
    · exact Script.congruence_forestalls.plain rfl

end Renderer

/-! ## Renderings -/

namespace Dialect

variable (d : Dialect)

/-- Every dialect takes the options for pages, which say how strict a rendering is. -/
lemma strictness_page (strict : Bool) : d.strictness (some (.page strict)) = .ok strict := by
  have refines : (Options.page strict).toClass.refines d.optionsClass = true := by
    cases d.optionsClass <;> rfl
  rw [strictness, if_pos refines]
  rfl

lemma render_page (strict : Bool) (tree : Node) (found : Text) :
    d.render ⟨tree, some (.page strict)⟩ found
      = ((d.fullScript strict tree).run (Writer.on found)).map Writer.contents := by
  simp only [render, strictness_page]

/-- A strict rendering forestalls a lenient one. -/
lemma forestalls_fullScript (tree : Node) :
    Script.Forestalls (d.fullScript true tree) (d.fullScript false tree) := by
  have begun : Script.Forestalls [.log (.started tree.kind)] [.log (.started tree.kind)] := by
    refine fun w => .agrees rfl fun entry member => ?_
    obtain rfl : entry = .started tree.kind := List.mem_singleton.1 member
    rfl
  have same : (Renderer.mk d false).dialect = (Renderer.mk d true).dialect := rfl
  have written : Script.Forestalls (Renderer.script ⟨d, true⟩ .plain tree)
      (Renderer.script ⟨d, false⟩ .plain (tree.mapLinks id)) :=
    Script.congruence_forestalls.script same (Renderer.forestalls_link d) tree .plain
  rw [Node.mapLinks_id] at written
  have ended : Script.Forestalls [.freshLine] [.freshLine] := Script.congruence_forestalls.plain rfl
  exact (begun.append written).append ended

/-- **A strict rendering stops earlier, and does not write anything else.**  Where a lenient
rendering meets no unknown reference, a strict one has the same outcome.  Otherwise it stops at the
first one: that is the failure, its log is that of the lenient one before this reference, and its
page is a beginning of the other's page, whatever becomes of that later. -/
theorem render_strict_eq_or_stops (tree : Node) (found : Text) :
    let lenient := d.render ⟨tree, some (.page false)⟩ found
    let strict := d.render ⟨tree, some (.page true)⟩ found
    ((∀ reference, .unresolved reference ∉ lenient.log) → strict = lenient)
      ∧ ∀ before reference later, lenient.log = before ++ .unresolved reference :: later →
          (∀ other, .unresolved other ∉ before) →
        strict.failure = some (.fault (.unresolvedLink (String.ofList reference)))
          ∧ strict.log = before ∧ strict.state <+: lenient.state := by
  have forestalled := d.forestalls_fullScript tree (Writer.on found)
  simp only [render_page]
  exact ⟨fun none => by rw [forestalled.eq_of_forall_not_mem none],
    fun before reference later log_eq quiet => forestalled.stops_at log_eq quiet⟩

/-- Three links to the members of no package: one whose target has no name to show, one to an
unknown declaration in a note box, and one to the same in a row that stands outside a table. -/
def threeLinks : Node :=
  .group [.plainText "a".toList, .link ⟨some ⟨none, none, [⟨"Blank".toList, none⟩]⟩, none, none⟩,
    .noteBox (.link ⟨some ⟨none, none, [⟨"Widget".toList, none⟩]⟩, none, some "b".toList⟩),
    .row [.link ⟨some ⟨none, none, [⟨"Widget".toList, none⟩]⟩, none, some "c".toList⟩]]

/-- The strict rendering stops inside the note box; the lenient one writes its text and stops at the
row. -/
theorem render_strict_threeLinks :
    let d := page (Resolver.mk [("Blank".toList, ⟨"blank.md".toList, []⟩)])
    let lenient := d.render ⟨threeLinks, some (.page false)⟩ "x\n".toList
    let strict := d.render ⟨threeLinks, some (.page true)⟩ "x\n".toList
    lenient = ⟨"x\na\n> b\n\n".toList,
        [.started .group, .unlabelled "Blank".toList, .unresolved "Widget".toList],
        some (.fault (.unsupportedKind "table_row"))⟩
      ∧ strict.failure = some (.fault (.unresolvedLink "Widget"))
      ∧ strict.log = [.started .group, .unlabelled "Blank".toList]
      ∧ strict.state <+: lenient.state := by
  intro d lenient strict
  have rendered : lenient = ⟨"x\na\n> b\n\n".toList,
      [.started .group, .unlabelled "Blank".toList, .unresolved "Widget".toList],
      some (.fault (.unsupportedKind "table_row"))⟩ := by
    decide
  have logged : lenient.log = [.started .group, .unlabelled "Blank".toList]
      ++ .unresolved "Widget".toList :: [] := by
    rw [rendered]
    rfl
  exact ⟨rendered, (render_strict_eq_or_stops d threeLinks "x\n".toList).2 _ _ _ logged (by simp)⟩

end Dialect

end DocMarkdown
