import DocMarkdown.Proofs.Script.Effect

/-!
# Requests do not touch each other

A page may hold text before a rendering starts, text of the producer's own or what earlier requests
left there, whole or broken off by a failure.  A rendering never looks at it: the writer that it
starts with follows the same scribe on every page, so the page only stands in front of what is
written.  `Dialect.render_eq_map` says this of one request, and `Dialect.renderAll_eq_alone` of any
number of them in a row.
-/

namespace DocMarkdown

namespace Dialect

/-! ## One request -/

/-- **The page does not matter.**  On a page that holds some text a rendering logs and fails as it
does on an empty page, and leaves the same text behind what the page held. -/
theorem render_eq_map (d : Dialect) (request : Request) (found : Text) :
    d.render request found = (d.render request []).map (found ++ ·) := by
  unfold render
  cases valid : d.strictness request.options with
  | error mismatch => simp [Outcome.failed, Outcome.map]
  | ok strict =>
    -- On either page the writer follows the scribe that has written nothing yet.
    have onPage := (d.fullScript strict request.tree).run_follows (Writer.Follows.on found)
    have alone := (d.fullScript strict request.tree).run_follows (Writer.Follows.on [])
    simp only [Outcome.map, Outcome.mk.injEq]
    refine ⟨?_, onPage.log.trans alone.log.symm, onPage.failure.trans alone.failure.symm⟩
    rw [onPage.state.contents_eq, alone.state.contents_eq, List.nil_append]

/-- The outcome of a request that is served alone, on an empty page. -/
def alone (d : Dialect) (request : Except Malformed Request) : Outcome Text :=
  Outcome.attempt d.render request []

/-- A request that could not be built leaves every page as it is, so the page does not matter for it
either. -/
lemma attempt_render_eq_map (d : Dialect) (request : Except Malformed Request) (found : Text) :
    Outcome.attempt d.render request found = (d.alone request).map (found ++ ·) := by
  cases request with
  | error malformed => simp [alone, Outcome.attempt, Outcome.failed, Outcome.map]
  | ok request => exact d.render_eq_map request found

/-! ## Requests in a row -/

/-- What the page holds when some requests have been served: the texts of the single requests, in
order, behind what it held before. -/
def pageAfter (d : Dialect) (requests : List (Except Malformed Request)) (found : Text) : Text :=
  found ++ requests.flatMap fun request => (d.alone request).state

lemma pageAfter_cons (d : Dialect) (request : Except Malformed Request)
    (rest : List (Except Malformed Request)) (found : Text) :
    d.pageAfter (request :: rest) found = d.pageAfter rest (found ++ (d.alone request).state) := by
  simp [pageAfter]

/-- The first of several requests is served as if alone, and the others on the page that it
leaves. -/
lemma renderAll_cons (d : Dialect) (request : Except Malformed Request)
    (rest : List (Except Malformed Request)) (found : Text) :
    d.renderAll (request :: rest) found = (d.alone request).map (found ++ ·)
      :: d.renderAll rest (found ++ (d.alone request).state) := by
  rw [renderAll.eq_2, attempt_render_eq_map]
  rfl

/-- **Requests do not touch each other.**  Whatever the page held and whichever requests failed,
each request logs and fails as if it were served alone, and what it appends to the page, complete or
broken off, is the text that it leaves when it is served alone.  So the page holds in the end what
it held at first and the texts of the single requests. -/
theorem renderAll_eq_alone (d : Dialect) (requests : List (Except Malformed Request))
    (found : Text) :
    (∀ i : Nat, (d.renderAll requests found)[i]? = requests[i]?.map fun request =>
        { state := d.pageAfter (requests.take i) found ++ (d.alone request).state
          log := (d.alone request).log
          failure := (d.alone request).failure })
      ∧ ((d.renderAll requests found).map Outcome.state).getLastD found
          = d.pageAfter requests found := by
  induction requests generalizing found with
  | nil => simp [renderAll, pageAfter]
  | cons request rest ih =>
    obtain ⟨each, last⟩ := ih (found ++ (d.alone request).state)
    rw [renderAll_cons]
    constructor
    · intro i
      cases i with
      | zero => simp [Outcome.map, pageAfter]
      | succ i =>
        rw [List.getElem?_cons_succ, List.getElem?_cons_succ, List.take_succ_cons, each,
          pageAfter_cons]
    · rw [List.map_cons, List.getLastD_cons, pageAfter_cons]
      exact last

end Dialect

end DocMarkdown
