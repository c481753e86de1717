import DocMarkdown.Proofs.Script.Congruence
import DocMarkdown.Proofs.Script.Effect

/-!
# Equivalent scripts

Scripts are equivalent if a scribe cannot tell them apart: they leave the same text, log the same
and fail alike.  Nothing shows of the difference between writers that have followed one or the other, at
once or after any program (`Script.Equivalent.observe_run`), and a script can take the place of an
equivalent one in any larger script (`Script.congruence_equivalent`).

A text that is written as a whole could as well be written in parts
(`Script.equivalent_write_flatten`).  So it makes no difference that emphasised text, code, links
and the divider of a table are put together before they are written, marks and all:
`Renderer.equivalent_plainText` and its like give the scripts that write the marks by themselves.
-/

namespace DocMarkdown

namespace Script

/-! ## Equivalence -/

/-- **Equivalent scripts** have the same outcome for every scribe. -/
def Equivalent (script script' : Script) : Prop := ∀ s, outcome script s = outcome script' s

lemma outcome_append (first second : Script) (s : Scribe) :
    outcome (first ++ second) s = (outcome first s).andThen (outcome second) := by
  induction first generalizing s with
  | nil => exact (Outcome.done_andThen s _).symm
  | cons directive rest ih =>
    rw [List.cons_append, outcome_cons, outcome_cons, Outcome.andThen_assoc]
    congr 1
    exact funext ih

lemma outcome_singleton (directive : Directive) (s : Scribe) :
    outcome [directive] s = directive.outcome s := by
  rw [outcome_cons]
  exact Outcome.andThen_done _

/-- **Equivalence is a congruence.** -/
theorem congruence_equivalent : Congruence Equivalent where
  nil _ := rfl
  plain _ _ := rfl
  append := by
    intro a a' b b' first second s
    rw [outcome_append, outcome_append, first s]
    congr 1
    exact funext second
  quoted inside s := by
    rw [outcome_singleton, outcome_singleton, Directive.outcome_indented,
      Directive.outcome_indented, inside]

/-- **Equivalent scripts do the same.**  After either of them the same shows of a writer, with the
same log and failure, and whatever program is run then is reported alike. -/
theorem Equivalent.observe_run {script script' : Script} (same : Equivalent script script')
    {found : Text} {w : Writer} {s : Scribe} (h : Writer.Follows found w s)
    (program : List (Step Writer.Operation)) :
    (run script w).map Writer.observe = (run script' w).map Writer.observe
      ∧ Report.mapAll Writer.observe (Step.runAll Writer.machine program (run script w).state)
        = Report.mapAll Writer.observe
          (Step.runAll Writer.machine program (run script' w).state) := by
  have ran := run_follows script h
  have ran' := run_follows script' h
  rw [← same s] at ran'
  refine ⟨?_, ?_⟩
  · simp only [Outcome.map, ran.state.observe_eq, ran'.state.observe_eq, ran.log, ran'.log,
      ran.failure, ran'.failure]
  · have later := (ran.state.runAll program).2
    have later' := (ran'.state.runAll program).2
    exact later.trans later'.symm

/-- **Writing in parts.**  Texts are written one by one or put together and written as one. -/
theorem equivalent_write_flatten (parts : List Text) :
    Equivalent [.write parts.flatten] (parts.map .write) := by
  intro s
  induction parts generalizing s with
  | nil => rfl
  | cons part rest ih =>
    have whole : outcome [.write (part :: rest).flatten] s
        = outcome [.write rest.flatten] (s.write part) := by
      rw [outcome_singleton, outcome_singleton, List.flatten_cons]
      simp only [Directive.outcome, Directive.extend, Typing.write_append]
      rfl
    rw [whole, ih, List.map_cons, outcome_cons]
    rfl

end Script

/-! ## Text, code and links -/

/-- The parts of emphasised text: the tags that begin emphasis, the text and the tags that end
it. -/
def Style.taggedParts (style : Style) (t : Text) : List Text :=
  (if style.bold then ["<b>".toList] else []) ++ (if style.italic then ["<i>".toList] else [])
    ++ t :: (if style.italic then ["</i>".toList] else [])
    ++ (if style.bold then ["</b>".toList] else [])

lemma Style.flatten_taggedParts (style : Style) (t : Text) :
    (style.taggedParts t).flatten = style.openTags ++ t ++ style.closeTags := by
  obtain ⟨inTable, bold, italic⟩ := style
  cases bold <;> cases italic <;> simp [taggedParts, openTags, closeTags]

namespace Renderer

open Script (Equivalent congruence_equivalent equivalent_write_flatten)

/-- Running text, with each tag written by itself. -/
theorem equivalent_plainText (r : Renderer) (style : Style) (t : Text) :
    let parts := Text.surround t
    Equivalent (r.plainText style t)
      (.write parts.lead ::
        (if parts.core.isEmpty then []
          else .separate :: (style.taggedParts (r.dialect.escape parts.core)).map .write)
        ++ [.write parts.trail]) := by
  intro parts
  have tagged := equivalent_write_flatten (style.taggedParts (r.dialect.escape parts.core))
  rw [Style.flatten_taggedParts] at tagged
  refine congruence_equivalent.cons rfl (congruence_equivalent.append ?_
    (congruence_equivalent.plain rfl))
  split
  · exact congruence_equivalent.nil
  · exact congruence_equivalent.cons rfl tagged

/-- Code in a line, with each backquote written by itself. -/
theorem equivalent_codeSpan {r : Renderer} (quoted : r.dialect.codeSpan = Dialect.backquoted)
    (style : Style) (code : Text) :
    Equivalent (r.codeSpan style code)
      [.write "`".toList,
        .write (if style.inTable then Text.replaceBreaks "`<p/>`".toList code else code),
        .write "`".toList] := by
  have parts := equivalent_write_flatten ["`".toList,
    if style.inTable then Text.replaceBreaks "`<p/>`".toList code else code, "`".toList]
  rw [codeSpan, quoted]
  simpa [Dialect.backquoted] using parts

/-- A block of code, with the language written by itself. -/
theorem equivalent_fencedCode (code language : Text) :
    Equivalent (fencedCode code language)
      [.freshLine, .write fence, .write language, .endLine, .write code, .endLine, .write fence,
        .endLine] := by
  have opening : Equivalent [.write (fence ++ language)] [.write fence, .write language] := by
    simpa using equivalent_write_flatten [fence, language]
  have rest : Equivalent [.endLine, .write code, .endLine, .write fence, .endLine]
      [.endLine, .write code, .endLine, .write fence, .endLine] := fun _ => rfl
  exact congruence_equivalent.cons rfl (congruence_equivalent.append opening rest)

/-- A Markdown link, with its label written by itself. -/
theorem equivalent_markdownLink (r : Renderer) (label url : Text) :
    Equivalent (r.markdownLink label url)
      [.write "[".toList, .write (r.dialect.escape (Text.squeeze label)),
        .write ("](".toList ++ url ++ ")".toList)] := by
  have parts := equivalent_write_flatten ["[".toList, r.dialect.escape (Text.squeeze label),
    "](".toList ++ url ++ ")".toList]
  simpa [markdownLink] using parts

/-- The divider of a table, with each of its columns written at once. -/
theorem equivalent_divider (width : Nat) :
    Equivalent (tableLine (List.replicate width [.write "---".toList]))
      (.write "| ".toList :: List.replicate width (.write " --- |".toList) ++ [.endLine]) := by
  have column : Equivalent [.write [' '], .write "---".toList, .write " |".toList]
      [.write " --- |".toList] :=
    fun s => (equivalent_write_flatten [[' '], "---".toList, " |".toList] s).symm
  have columns : Equivalent
      ((List.replicate width [.write "---".toList]).flatMap fun cell =>
        .write [' '] :: cell ++ [.write " |".toList])
      (List.replicate width (.write " --- |".toList)) := by
    induction width with
    | zero => exact congruence_equivalent.nil
    | succ width ih => exact congruence_equivalent.append column ih
  exact congruence_equivalent.cons rfl
    (congruence_equivalent.append columns (congruence_equivalent.plain rfl))

end Renderer

end DocMarkdown
