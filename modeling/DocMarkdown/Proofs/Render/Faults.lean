import DocMarkdown.Proofs.Script.Effect
import DocMarkdown.Proofs.Script.Gathering

/-!
# Faults of a tree

Whether a rendering fails, and how, is decided by the tree before anything is written.  A renderer
comes to some nodes of the tree, in document order (`Node.visited`), and each of these is at fault
or not by itself (`Renderer.fault?`): it is of a kind without a rule, or it is a link to a
declaration that cannot be written.  Neither the style in force nor what was written before has a
say in it, nor does the trimming of paragraphs, since plain texts and soft breaks are never at
fault.

`Renderer.failures_script` says that the script of a tree names the faults of the tree, no more and
no less.  So a rendering fails with the first of them, or succeeds if there is none.
-/

namespace DocMarkdown

namespace Renderer

variable {r : Renderer}

/-! ## Faults -/

/-- The fault of a link.  Without pages there is no way to point at a declaration; with pages, and
in strict renderings only, the declaration has to be known. -/
def linkFault? (r : Renderer) (l : Link) : Option (Fault Empty) :=
  match l.declaration, r.dialect.resolver? with
  | none, _ => none
  | some reference, none => some (.unsupportedLink (String.ofList reference.tsdoc))
  | some reference, some resolver =>
    if r.strict && (resolver reference).isNone then
      some (.unresolvedLink (String.ofList reference.tsdoc))
    else none

/-- **The fault of a node**, its parts aside. -/
def fault? (r : Renderer) (node : Node) : Option (Fault Empty) :=
  match node with
  | .link l => r.linkFault? l
  | _ => if r.dialect.writes node.kind then none else some (.unsupportedKind node.kind.name)

/-- **The faults of a tree**: those of the nodes that the renderer comes to, in document order. -/
def faults (r : Renderer) (tree : Node) : List (Fault Empty) :=
  (tree.visited r.dialect).filterMap r.fault?

/-- The failures that a script names are gathered from it. -/
lemma gathering_failures : Script.Gathering Directive.failures where
  writing {directive} writing := by cases directive <;> simp_all [Directive.isWriting]
  indented _ body := Script.failures_eq body

@[simp] lemma failures_plainText (r : Renderer) (style : Style) (t : Text) :
    Script.failures (r.plainText style t) = [] := by
  rw [Script.failures_eq, gathering_failures.plainText]

@[simp] lemma failures_linkText (r : Renderer) (style : Style) (l : Link) :
    Script.failures (r.linkText style l) = [] := by
  rw [Script.failures_eq, gathering_failures.linkText]

@[simp] lemma failures_resolvedLink (r : Renderer) (l : Link) (reference : Reference)
    (target : Target) : Script.failures (r.resolvedLink l reference target) = [] := by
  unfold resolvedLink
  split
  all_goals simp only [markdownLink]
  all_goals split <;> simp

/-- A link names its fault, if it has one. -/
lemma failures_link (r : Renderer) (style : Style) (l : Link) :
    Script.failures (r.link style l) = (r.linkFault? l).toList.map Failure.fault := by
  unfold link linkFault?
  cases declaration : l.declaration with
  | none =>
    by_cases noAddress : (l.url.getD []).isEmpty
    · simp [noAddress]
    · simp [noAddress, urlLink, markdownLink]
  | some reference =>
    simp only [Option.isSome_some, if_true, declarationLink, declaration]
    cases pages : r.dialect.resolver? with
    | none => rfl
    | some resolver =>
      cases target : resolver reference with
      | some target => simp [target]
      | none => cases strict : r.strict <;> simp [unresolvedLink, strict, target]

lemma failures_tableLine (cells : List Script) :
    Script.failures (tableLine cells) = cells.flatMap Script.failures := by
  have gathered := gathering_failures.tableLine cells
  simpa only [← Script.failures_eq] using gathered

lemma failures_table (header : List Script) (rows : List (List Script)) :
    Script.failures (table header rows)
      = header.flatMap Script.failures ++ rows.flatMap fun row => row.flatMap Script.failures := by
  have gathered := gathering_failures.table header rows
  simpa only [← Script.failures_eq] using gathered

lemma fault?_of_not_writes {node : Node} (noRule : r.dialect.writes node.kind = false) :
    r.fault? node = some (.unsupportedKind node.kind.name) := by
  cases node with
  | link l => simp [Node.kind, Dialect.writes] at noRule
  | _ => simp only [fault?, noRule, Bool.false_eq_true, if_false]

lemma fault?_of_writes {node : Node} (hasRule : r.dialect.writes node.kind = true)
    (noLink : ∀ l, node ≠ .link l) : r.fault? node = none := by
  cases node with
  | link l => exact absurd rfl (noLink l)
  | _ => simp only [fault?, hasRule, if_true]

/-- **The script of a tree names the faults of the tree**, in any style. -/
theorem failures_script (r : Renderer) (tree : Node) (bare : tree.labelFree = true)
    (style : Style) :
    Script.failures (r.script style tree) = (r.faults tree).map Failure.fault := by
  have gathered := gathering_failures.flatMap_script (r := r)
    (fun node => (r.fault? node).toList.map Failure.fault)
    (fun node noRule => by rw [fault?_of_not_writes noRule]; rfl)
    (fun style l => (Script.failures_eq _).symm.trans (r.failures_link style l))
    (fun node hasRule noLink => by rw [fault?_of_writes hasRule noLink]; rfl) tree bare style
  rw [Script.failures_eq, gathered, faults, List.filterMap_eq_flatMap_toList, List.map_flatMap]

end Renderer

/-! ## Renderings -/

/-- **A rendering fails with the first fault of its tree**, and succeeds if the tree has none.  What
the page held before does not matter. -/
theorem Dialect.failure_render_eq_first_fault (d : Dialect) {request : Request} {strict : Bool}
    (valid : d.strictness request.options = .ok strict) (bare : request.tree.labelFree = true)
    (found : Text) :
    (d.render request found).failure
      = ((Renderer.faults ⟨d, strict⟩ request.tree).map Failure.fault).head? := by
  rw [failure_render valid, Renderer.failures_script _ _ bare]

/-- A table whose header cell quotes a link to an unknown declaration in bold, and whose only other
cell holds a row, which stands there without a table of its own. -/
def tableWithTwoFaults : Node :=
  .table
    (some (.row [.cell (.noteBox (.emphasis ⟨true, false⟩
      [.link ⟨some ⟨some "pkg".toList, none, [⟨"Widget".toList, none⟩]⟩, none, none⟩]))]))
    [.row [.cell (.row [])]]

/-- Of the two faults of that table a strict rendering meets the link first. -/
theorem Dialect.failure_render_tableWithTwoFaults :
    (page Resolver.empty).strictness (some (.page true)) = .ok true
      ∧ tableWithTwoFaults.labelFree = true
      ∧ ((page Resolver.empty).render ⟨tableWithTwoFaults, some (.page true)⟩ []).failure
        = some (.fault (.unresolvedLink "pkg#Widget")) := by
  refine ⟨rfl, by decide, ?_⟩
  refine (failure_render_eq_first_fault (page Resolver.empty) rfl (by decide) []).trans ?_
  rfl

end DocMarkdown
