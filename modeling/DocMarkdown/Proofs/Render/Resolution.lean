import DocMarkdown.Proofs.Script.Congruence
import DocMarkdown.Proofs.Script.Frame
import DocMarkdown.Render

/-!
# Resolving links ahead of a rendering

Links to declarations are resolved while a tree is written.  They could as well be resolved before:
`Link.resolved` gives the link that is left when a resolver has done its work, which has an address
or a text and never a declaration.  A rendering that is not strict writes the same for a tree and
for the tree with its links resolved, or stops at the same place for the same reason
(`Dialect.render_mapLinks_resolved`).  Only what is logged about the links is lost.
-/

namespace DocMarkdown

/-! ## Resolved links -/

/-- **Resolved link.** What is left of a link when its declaration is looked up: a link to the
target's address under its label, or nothing if the label is empty; the text alone if the
declaration is not known.  A link without a declaration stays as it is. -/
def Link.resolved (resolver : Reference → Option Target) (l : Link) : Link :=
  match l.declaration with
  | none => l
  | some reference =>
    match resolver reference with
    | none => ⟨none, none, l.text⟩
    | some target =>
      if (l.label target).isEmpty then ⟨none, none, none⟩
      else ⟨none, some target.url, some (l.label target)⟩

/-! ## Muted scripts -/

namespace Outcome

variable {σ : Type}

/-- The outcome with its log emptied. -/
def mute (o : Outcome σ) : Outcome σ := { o with log := [] }

lemma mute_of_log {o : Outcome σ} (quiet : o.log = []) : o.mute = o := by
  rw [mute, ← quiet]

lemma mute_andThen (first : Outcome σ) (next : σ → Outcome σ) :
    (first.andThen next).mute = first.mute.andThen fun state => (next state).mute := by
  obtain ⟨state, log, _ | _⟩ := first <;> rfl

lemma mute_leave (outdent? : σ → Option σ) (o : Outcome σ) :
    (o.leave outdent?).mute = o.mute.leave outdent? := by
  simp only [leave, mute]
  cases outdent? o.state <;> rfl

end Outcome

namespace Script

/-- A script mutes another one if it does the same from every writer, and logs nothing. -/
def Mutes (muted script : Script) : Prop := ∀ w, muted.run w = (script.run w).mute

/-- **Muting is a congruence.** -/
theorem congruence_mutes : Congruence fun script muted => Mutes muted script where
  nil w := rfl
  plain plain w := (Outcome.mute_of_log (log_run_of_isPlain plain w)).symm
  append := by
    intro a a' b b' first second w
    rw [run_append, run_append, Outcome.mute_andThen, first w]
    congr 1
    exact funext second
  quoted inside w := by
    rw [run_indented, run_indented, Outcome.mute_leave, inside]

end Script

/-! ## Links -/

namespace Renderer

variable {d : Dialect} {resolver : Reference → Option Target}

/-- A link with an address and a text is written as such. -/
lemma link_of_url (r : Renderer) (style : Style) {url : Text} (addressed : url ≠ []) (label : Text) :
    r.link style ⟨none, some url, some label⟩ = r.markdownLink label url := by
  have nonempty : url.isEmpty = false := by simpa using addressed
  simp [link, nonempty, urlLink]

/-- **Links.** For the resolved link the same is written as for the link itself, and nothing is
logged. -/
lemma mutes_link_resolved (pages : d.resolver? = some resolver)
    (addressed : ∀ reference target, resolver reference = some target → target.url ≠ [])
    (style : Style) (l : Link) :
    Script.Mutes (link ⟨d, false⟩ style (l.resolved resolver)) (link ⟨d, false⟩ style l) := by
  cases declared : l.declaration with
  | none =>
    have unchanged : l.resolved resolver = l := by simp [Link.resolved, declared]
    rw [unchanged, link, declared]
    dsimp only [Option.isSome]
    split
    next no => exact absurd no Bool.false_ne_true
    next =>
      split
      · exact Script.congruence_mutes.self (isPlain_linkText ⟨d, false⟩ style l)
      · exact Script.congruence_mutes.plain rfl
  | some reference =>
    cases found : resolver reference with
    | none =>
      have written : link ⟨d, false⟩ style l
          = .log (.unresolved reference.tsdoc) :: linkText ⟨d, false⟩ style l := by
        simp [link, declarationLink, declared, pages, found, unresolvedLink]
      have resolved : l.resolved resolver = ⟨none, none, l.text⟩ := by
        simp only [Link.resolved, declared, found]
      have logged : Script.Mutes [] [.log (.unresolved reference.tsdoc)] := fun w => rfl
      rw [written, resolved]
      exact Script.congruence_mutes.append logged
        (Script.congruence_mutes.self (isPlain_linkText ⟨d, false⟩ style l))
    | some target =>
      have written : link ⟨d, false⟩ style l = if (l.label target).isEmpty
          then [.log (.unlabelled reference.tsdoc)]
          else markdownLink ⟨d, false⟩ (l.label target) target.url := by
        simp [link, declarationLink, declared, pages, found, resolvedLink_eq]
      simp only [written, Link.resolved, declared, found]
      split
      · exact fun w => rfl
      · rw [link_of_url _ _ (addressed reference target found)]
        exact Script.congruence_mutes.plain rfl

end Renderer

/-! ## Renderings -/

namespace Dialect

/-- **Resolving ahead.**  A lenient rendering of a tree whose links to declarations were resolved
before leaves the same text as a lenient rendering of the tree, and fails alike if that fails.  It
warns of nothing. -/
theorem render_mapLinks_resolved {d : Dialect} {resolver : Reference → Option Target}
    (pages : d.resolver? = some resolver)
    (addressed : ∀ reference target, resolver reference = some target → target.url ≠ [])
    {options : Option Options} (lenient : d.strictness options = .ok false) (tree : Node)
    (found : Text) :
    d.render ⟨tree.mapLinks (Link.resolved resolver), options⟩ found
      = { d.render ⟨tree, options⟩ found with log := [.started tree.kind] } := by
  have written : Script.Mutes
      (Renderer.script ⟨d, false⟩ .plain (tree.mapLinks (Link.resolved resolver)))
      (Renderer.script ⟨d, false⟩ .plain tree) :=
    Script.congruence_mutes.script rfl (Renderer.mutes_link_resolved pages addressed) tree .plain
  have ended : Script.Mutes [.freshLine] [.freshLine] := Script.congruence_mutes.plain rfl
  have muted := Script.congruence_mutes.append written ended (Writer.on found)
  have begun (script : Script) (w : Writer) : Script.run (.log (.started tree.kind) :: script) w
      = { Script.run script w with log := .started tree.kind :: (Script.run script w).log } := rfl
  simp only [render, lenient, fullScript, List.cons_append, Node.kind_mapLinks, begun, muted]
  rfl

/-- Links of all kinds, in a table and behind it: to known declarations with a
text, without one and with nothing to show, and to an unknown one that has an address. -/
def linksOfAllKinds : Node :=
  .group [.table none [.row [.cell (.paragraph [.plainText " ".toList,
      .emphasis ⟨true, false⟩ [.link ⟨some ⟨none, none, [⟨"No".toList, none⟩]⟩,
        some "no.md".toList, some "a".toList⟩]]),
      .cell (.link ⟨some ⟨none, none, [⟨"Yes".toList, none⟩]⟩, none, some "b".toList⟩)]],
    .link ⟨some ⟨none, none, [⟨"Yes".toList, none⟩]⟩, none, some []⟩,
    .link ⟨some ⟨none, none, [⟨"Blank".toList, none⟩]⟩, none, none⟩]

/-- Its rendering, and that of the same tree with the links resolved. -/
theorem render_mapLinks_resolved_linksOfAllKinds :
    let resolver : Resolver := ⟨[("Yes".toList, ⟨"yes.md".toList, "Y".toList⟩),
      ("Blank".toList, ⟨"blank.md".toList, []⟩)]⟩
    let direct := (page resolver).render ⟨linksOfAllKinds, none⟩ []
    let resolved := (page resolver).render ⟨linksOfAllKinds.mapLinks (Link.resolved resolver), none⟩
    (∀ known ∈ resolver.targets, known.2.url ≠ [])
      ∧ direct.state = ("|   |  |\n|  --- | --- |\n|  <p><b>a</b></p> | [b](yes.md) |\n\n"
          ++ "[Y](yes.md)\n").toList
      ∧ direct.log = [.started .group, .unresolved "No".toList, .unlabelled "Blank".toList]
      ∧ resolved [] = { direct with log := [.started .group] } := by
  intro resolver direct resolved
  have addressed : ∀ known ∈ resolver.targets, known.2.url ≠ [] := by decide
  refine ⟨addressed, by decide, by decide, ?_⟩
  exact render_mapLinks_resolved rfl (Resolver.of_resolve_eq_some addressed) rfl linksOfAllKinds []

end Dialect

end DocMarkdown
