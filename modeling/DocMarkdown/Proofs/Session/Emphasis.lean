import DocMarkdown.Proofs.Session.Walk
import Mathlib.Data.List.Basic

/-!
# Spans inside spans

A walk that comes to emphasis sets the flags for bold and italic text, whatever they were, and puts
the old ones back when it leaves the span.  So the innermost span around a text decides, and this
module says it without flags.  `Node.flat` takes spans and groups apart: what stands in them stays
whole, in the order that it has, and each node gets a span of its own, with the emphasis of the
innermost span that it stood in.

A walk through a span does what a walk through its flat list does, in every session of a dialect
with pages (`Session.walk_emphasis_eq_flat`): it writes and logs the same, leaves the same flags
behind, and fails at the same place in the same way.
-/

namespace DocMarkdown

/-! ## Flat lists -/

namespace Node

/-- **Flat list.** The nodes that a node consists of when spans and groups are taken apart, each in
a span of its own: the emphasis is that of the innermost span, and outside all spans the one that is
given. -/
def flat (node : Node) : Emphasis → List Node :=
  node.fold fun n children e =>
    match n with
    | emphasis own _ => children.flatMap (· own)
    | group _ => children.flatMap (· e)
    | _ => [emphasis e [n]]

/-- A span has its own emphasis, not the one around it. -/
lemma flat_emphasis (own : Emphasis) (nodes : List Node) (e : Emphasis) :
    (emphasis own nodes).flat e = nodes.flatMap (·.flat own) := by
  rw [flat, fold_eq]
  exact List.flatMap_map ..

/-- A group hands the emphasis around it down. -/
lemma flat_group (nodes : List Node) (e : Emphasis) :
    (group nodes).flat e = nodes.flatMap (·.flat e) := by
  rw [flat, fold_eq]
  exact List.flatMap_map ..

/-- Text stands in two spans and in a group, and a note box is not taken apart. -/
example : (group [plainText "a".toList, emphasis ⟨false, true⟩
      [plainText "b".toList, noteBox (emphasis ⟨false, false⟩ [])]]).flat ⟨true, false⟩
    = [emphasis ⟨true, false⟩ [plainText "a".toList], emphasis ⟨false, true⟩ [plainText "b".toList],
      emphasis ⟨false, true⟩ [noteBox (emphasis ⟨false, false⟩ [])]] := by rfl

end Node

/-! ## Scripts of flat lists -/

namespace Renderer

/-- **A flat list is written as the node in its emphasis**, whatever the emphasis around it. -/
theorem flatMap_script_flat {r : Renderer} (pages : r.dialect.resolver?.isSome = true) (node : Node)
    (e : Emphasis) (style : Style) :
    (node.flat e).flatMap (r.script style)
      = r.script { style with bold := e.bold, italic := e.italic } node := by
  induction node using Node.parts_induction generalizing e style with
  | step node ofParts =>
    cases node with
    | emphasis own nodes =>
      rw [Node.flat_emphasis, List.flatMap_assoc, script_emphasis pages]
      exact List.flatMap_congr fun child member => ofParts child member own style
    | group nodes =>
      rw [Node.flat_group, List.flatMap_assoc, script_group]
      exact List.flatMap_congr fun child member => ofParts child member e style
    | _ =>
      -- Any other node is its flat list, in a span of its own.
      refine (List.flatMap_singleton ..).trans ?_
      rw [script_emphasis pages]
      exact List.flatMap_singleton ..

end Renderer

/-! ## Walks through flat lists -/

namespace Session

/-- Nodes that are walked one after the other are written as a session writes them that is given
all of them. -/
lemma inOrder_map_walk_eq_perform (nodes : List Node) (s : Session) :
    Act.inOrder (nodes.map walk) s = perform (.nodes nodes) s := by
  rw [inOrder_map_walk fun node _ => walk_eq_tell node]
  rfl

/-- **The innermost span decides.**  A span does to a session what its flat list does: to the page,
the flags and the log, and also in how it fails. -/
theorem walk_emphasis_eq_flat {s : Session} (pages : s.renderer.dialect.resolver?.isSome = true)
    (e : Emphasis) (nodes : List Node) :
    walk (.emphasis e nodes) s = Act.inOrder ((nodes.flatMap (·.flat e)).map walk) s
      ∧ perform (.nodes [.emphasis e nodes]) s = perform (.nodes (nodes.flatMap (·.flat e))) s := by
  -- The emphasis in force is not asked for, because the span has its own.
  have scripts : (nodes.flatMap (·.flat e)).flatMap (s.renderer.script s.style)
      = s.renderer.script s.style (.emphasis e nodes) := by
    rw [← Node.flat_emphasis e nodes ⟨s.style.bold, s.style.italic⟩]
    exact Renderer.flatMap_script_flat pages _ _ s.style
  have performed :
      perform (.nodes [.emphasis e nodes]) s = perform (.nodes (nodes.flatMap (·.flat e))) s := by
    simp only [perform, Operation.script, List.flatMap_singleton, scripts]
  refine ⟨?_, performed⟩
  rw [walk_eq_perform, performed, inOrder_map_walk_eq_perform]

/-- A span with a span, a note box and a table in it, behind a prefix and in italics, up to a node
of an unknown kind. -/
theorem walk_emphasis_spanOfAllKinds :
    let d := (Dialect.page Resolver.empty).annotated
    let s : Session := { start d none ⟨false, false, true⟩ [] with
      writer := (Writer.on []).indent (some "* ".toList) }
    let nodes : List Node := [.plainText "a".toList,
      .group [.emphasis ⟨false, true⟩ [.plainText "b".toList, .noteBox (.plainText "c".toList)]],
      .table none [.row [.cell (.emphasis ⟨false, false⟩ [.plainText "d".toList])]], .other "e" [],
      .plainText "f".toList]
    s.renderer.dialect.resolver?.isSome = true
      ∧ walk (.emphasis ⟨true, false⟩ nodes) s
        = Act.inOrder ((nodes.flatMap (·.flat ⟨true, false⟩)).map walk) s
      ∧ (walk (.emphasis ⟨true, false⟩ nodes) s).failure
        = some (.fault (.unsupportedKind "e"))
      ∧ (walk (.emphasis ⟨true, false⟩ nodes) s).state.style = ⟨false, false, true⟩
      ∧ (walk (.emphasis ⟨true, false⟩ nodes) s).state.writer.contents
        = ("* <b>\x7ba\x7d</b><i>\x7bb\x7d</i>\n* > <i>\x7bc\x7d</i>\n* \n* \n* |   |\n* |  --- |\n"
          ++ "* |  \x7bd\x7d |\n* \n").toList := by
  intro d s nodes
  have pages : s.renderer.dialect.resolver?.isSome = true := rfl
  obtain ⟨walked, -⟩ := walk_emphasis_eq_flat pages ⟨true, false⟩ nodes
  refine ⟨pages, walked, ?_⟩
  decide

end Session

end DocMarkdown
