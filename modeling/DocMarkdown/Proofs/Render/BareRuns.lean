import DocMarkdown.Node.Traversal
import DocMarkdown.Proofs.Script.Inline
import DocMarkdown.Proofs.Text.BareRun

/-!
# Where running text is ruled

A page of texts, paragraphs and emphasis has a bare run of hyphens exactly if one of its texts is
ruled, that is if three hyphens come together in it when its carriage returns are dropped.  Nothing
else makes a bare run: not the texts of neighbouring nodes, which are kept apart by separators and
line ends, nor soft breaks, tags or trimming.

A script *draws* a rule if it makes a bare run behind whatever spelled text stands on the page
(`Script.Draws`).  Scripts that are run one after the other draw one if any of them does, and only
texts do it themselves (`Renderer.draws_plainText`).
-/

namespace DocMarkdown

/-! ## Texts of a tree -/

namespace Node

/-- The texts that the nodes of a tree hold themselves, in document order. -/
def texts (node : Node) : List Text :=
  node.fold fun n children => n.ownText.toList ++ children.flatten

lemma texts_eq (node : Node) : node.texts = node.ownText.toList ++ node.children.flatMap texts := by
  rw [texts, fold_eq, ← List.flatMap_def]
  rfl

/-- Whether one of the texts of a tree is ruled. -/
def HasRuled (node : Node) : Prop := ∃ t ∈ node.texts, t.Ruled

lemma hasRuled_of_ownText {node : Node} {t : Text} (own : node.ownText = some t)
    (leaf : node.children = []) : node.HasRuled ↔ t.Ruled := by
  simp [HasRuled, texts_eq, own, leaf]

lemma hasRuled_of_children {node : Node} (noText : node.ownText = none) :
    node.HasRuled ↔ ∃ child ∈ node.children, child.HasRuled := by
  simp only [HasRuled, texts_eq node, noText, Option.toList_none, List.nil_append, List.mem_flatMap]
  constructor
  · rintro ⟨t, ⟨child, member, inChild⟩, ruled⟩
    exact ⟨child, member, t, inChild, ruled⟩
  · rintro ⟨child, member, t, inChild, ruled⟩
    exact ⟨t, ⟨child, member, inChild⟩, ruled⟩

lemma hasRuled_plainText (t : Text) : (plainText t).HasRuled ↔ t.Ruled :=
  hasRuled_of_ownText rfl rfl

lemma not_hasRuled_softBreak : ¬ softBreak.HasRuled := by
  have noChildren : softBreak.children = [] := rfl
  rw [hasRuled_of_children rfl, noChildren]
  simp

/-- Whether a node is of a kind that makes pages of running text. -/
def isProse : Node → Bool
  | plainText _ | escapedText .. | errorText .. | softBreak | group _ | paragraph _
  | emphasis .. => true
  | _ => false

lemma isLabelled_of_isProse {node : Node} (prose : node.isProse = true) :
    node.isLabelled = false := by
  cases node with
  | labelled kind node => exact absurd prose Bool.false_ne_true
  | _ => rfl

end Node

/-! ## Scripts -/

/-- **A script draws a rule** exactly if `rule` holds: it does not fail, and behind spelled text it
goes on spelling, with a bare run if there was one before or the rule is drawn. -/
structure Script.Draws (script : Script) (rule : Prop) : Prop where
  succeeds : Script.failures script = []
  spelled : ∀ {output : Text}, output.Spelled → (Script.extend [] script output).Spelled
  hasBareRun_iff : ∀ {output : Text}, output.Spelled →
    ((Script.extend [] script output).HasBareRun ↔ output.HasBareRun ∨ rule)

namespace Script.Draws

variable {first second script : Script} {p q : Prop}

lemma congr (draws : Draws script p) (same : p ↔ q) : Draws script q := propext same ▸ draws

lemma append (now : Draws first p) (later : Draws second q) : Draws (first ++ second) (p ∨ q) where
  succeeds := by rw [failures_append, now.succeeds, later.succeeds, List.append_nil]
  spelled := by
    intro output spelled
    rw [extend_append now.succeeds]
    exact later.spelled (now.spelled spelled)
  hasBareRun_iff := by
    intro output spelled
    rw [extend_append now.succeeds, later.hasBareRun_iff (now.spelled spelled),
      now.hasBareRun_iff spelled, or_assoc]

/-- A script that appends quiet texts draws no rule. -/
lemma of_appends (succeeds : failures script = []) (appends : Appends Text.Quiet script) :
    Draws script False where
  succeeds := succeeds
  spelled := by
    intro output spelled
    obtain ⟨added, quiet, adds⟩ := appends
    rw [adds]
    exact spelled.append (quiet _).spelled
  hasBareRun_iff := by
    intro output spelled
    obtain ⟨added, quiet, adds⟩ := appends
    rw [adds, (quiet _).hasBareRun_append_iff spelled, or_false]

lemma nil : Draws [] False := .of_appends rfl (.nil Text.composable_quiet)

lemma flatMap {α : Type} {items : List α} {f : α → Script} {p : α → Prop}
    (each : ∀ item ∈ items, Draws (f item) (p item)) :
    Draws (items.flatMap f) (∃ item ∈ items, p item) := by
  induction items with
  | nil => exact nil.congr (by simp)
  | cons item rest ih =>
    obtain ⟨now, later⟩ := List.forall_mem_cons.1 each
    exact (now.append (ih later)).congr (by simp)

/-! ### Directives -/

lemma write_blank {t : Text} (blank : ∀ c ∈ t, Text.isBlank c = true) :
    Draws [.write t] False := by
  refine .of_appends rfl (.write (.of_blank fun c member => ?_))
  exact blank c (List.mem_of_mem_filter member)

lemma write_mark (m : Mark) : Draws [.write m.text] False :=
  .of_appends rfl (.mark Text.composable_quiet m)

lemma softBreak : Draws [.softBreak] False := .of_appends rfl (.softBreak Text.composable_quiet)

lemma quiet_lineFeed : Text.Quiet ['\n'] := .of_blank (List.forall_mem_singleton.2 (by decide))

lemma endLine : Draws [.endLine] False := by
  refine .of_appends rfl (.of_extend ⟨fun _ => ['\n'], fun _ => quiet_lineFeed, ?_⟩)
  exact Directive.extend_endLine_nil_margin

lemma freshLine : Draws [.freshLine] False := by
  refine .of_appends rfl (.of_extend
    ⟨fun last => if last.all (· == '\n') then [] else ['\n'], fun last => ?_, fun before => ?_⟩)
  · dsimp only
    split
    · exact Text.composable_quiet.nil
    · exact quiet_lineFeed
  · rw [Directive.extend, Typing.freshLine, Typing.atLineStart, Typing.put_nil_margin]
    dsimp only
    split
    · exact (List.append_nil before).symm
    · rfl

lemma separate : Draws [.separate] False := .of_appends rfl (.separate Text.composable_quiet)

end Script.Draws

/-- A hyphen is not safe, so a text that is kept apart stands behind something else. -/
lemma Typing.getLast?_separate_ne (written : Text) : (separate [] written).getLast? ≠ some '-' := by
  unfold separate
  split
  next =>
    have last : (written ++ Writer.separator.dropReturns).getLast? = some '>' := by
      rw [List.getLast?_append]
      rfl
    rw [write_nil_margin, last]
    decide
  next safe =>
    intro last
    rw [last] at safe
    exact safe (by decide)

/-- **Text that is kept apart** draws a rule exactly if it has a bare run itself. -/
lemma Script.draws_separate_write {t : Text} (spelled : t.dropReturns.Spelled) :
    Script.Draws [.separate, .write t] t.dropReturns.HasBareRun := by
  have written (output : Text) : Script.extend [] [.separate, .write t] output
      = Script.extend [] [.separate] output ++ t.dropReturns :=
    Typing.write_nil_margin _ t
  refine ⟨rfl, fun before => ?_, fun before => ?_⟩
  · rw [written]
    exact (Draws.separate.spelled before).append spelled
  · rw [written, Text.hasBareRun_append (Draws.separate.spelled before),
      Draws.separate.hasBareRun_iff before, or_false]
    exact fun both => Typing.getLast?_separate_ne _ both.1

namespace Renderer

variable {r : Renderer}

/-! ## Texts -/

/-- **A text draws a rule exactly if it is ruled.** -/
lemma draws_plainText (escapes : r.dialect.escape = Text.escape) (style : Style) (t : Text) :
    Script.Draws (r.plainText style t) t.Ruled := by
  have lead : Script.Draws [.write (Text.surround t).lead] False :=
    .write_blank fun c => Text.isBlank_of_mem_lead
  have trail : Script.Draws [.write (Text.surround t).trail] False :=
    .write_blank fun c => Text.isBlank_of_mem_trail
  rw [← t.ruled_core]
  by_cases blank : (Text.surround t).core = []
  · have notRuled : ¬ Text.Ruled [] := by decide
    rw [plainText_of_blank blank, blank]
    exact (lead.append trail).congr (by simp [notRuled])
  · have core : Script.Draws [.separate, .write (style.openTags ++ (Text.surround t).core.escape
        ++ style.closeTags)] (Text.surround t).core.Ruled := by
      have spelled := Text.Spelled.dropReturns_escape (Text.surround t).core
      refine (Script.draws_separate_write ?_).congr ?_ <;> rw [style.dropReturns_emphasised]
      · exact Text.composable_spelled.emphasised style spelled
      · exact Text.hasBareRun_emphasised_iff style spelled
    rw [plainText_of_core blank, escapes]
    exact (lead.append (core.append trail)).congr (by simp)

/-! ## Trees -/

lemma draws_paragraph {style : Style} {content : Script} {p : Prop}
    (draws : Script.Draws content p) : Script.Draws (paragraph style content) p := by
  unfold paragraph
  split
  · exact ((Script.Draws.write_mark (.opening .paragraph)).append
      (draws.append (.write_mark (.closing .paragraph)))).congr (by simp)
  · exact (draws.append (Script.Draws.freshLine.append .endLine)).congr (by simp)

/-- The nodes of a paragraph have a ruled text among them before and after trimming, or neither. -/
lemma exists_hasRuled_trimmed_iff {nodes : List Node}
    (prose : ∀ node ∈ nodes, node.isProse = true) :
    (∃ node ∈ Node.trimmed nodes, node.HasRuled) ↔ ∃ node ∈ nodes, node.HasRuled := by
  apply Node.exists_mem_trimmed_iff
  · exact fun t => by
      rw [Node.hasRuled_plainText, Node.hasRuled_plainText, t.ruled_trimStart]
  · exact fun t => by
      rw [Node.hasRuled_plainText, Node.hasRuled_plainText, t.ruled_trimEnd]
  · intro t blank
    rw [Node.hasRuled_plainText]
    exact Text.not_ruled_of_not_mem (Text.hyphen_not_mem_of_blank (List.all_eq_true.1 blank))
  · exact Node.not_hasRuled_softBreak
  · exact fun node member => Node.isLabelled_of_isProse (prose node member)

/-- **The script of running text draws a rule exactly if one of the texts is ruled**, in any
style. -/
theorem draws_script (pages : r.dialect.resolver?.isSome = true)
    (escapes : r.dialect.escape = Text.escape) {tree : Node}
    (prose : tree.every Node.isProse = true) (style : Style) :
    Script.Draws (r.script style tree) tree.HasRuled := by
  induction tree using Node.parts_induction generalizing style with
  | step node ih =>
    have proseParts := Node.every_parts prose
    have ofParts : ∀ part ∈ node.parts, ∀ style,
        Script.Draws (r.script style part) part.HasRuled := by
      intro part member style
      exact ih part member (proseParts part member) style
    have ofSelf := Node.every_self prose
    cases node with
    | plainText t | escapedText t _ | errorText t _ =>
      exact (draws_plainText escapes style t).congr (Node.hasRuled_of_ownText rfl rfl).symm
    | softBreak =>
      exact Script.Draws.softBreak.congr (iff_of_false id Node.not_hasRuled_softBreak)
    | group nodes =>
      rw [script_group]
      have drawn := Script.Draws.flatMap fun node member => ofParts node member style
      exact drawn.congr (Node.hasRuled_of_children rfl).symm
    | emphasis e nodes =>
      rw [script_emphasis pages]
      have drawn := Script.Draws.flatMap fun node member =>
        ofParts node member { style with bold := e.bold, italic := e.italic }
      exact drawn.congr (Node.hasRuled_of_children rfl).symm
    | paragraph nodes =>
      have ofTrimmed : ∀ node ∈ Node.trimmed nodes,
          Script.Draws (r.script style node) node.HasRuled := by
        intro node member
        rcases Node.mem_trimmed member with inNodes | ⟨t, rfl⟩
        · exact ofParts node inNodes style
        · exact (draws_plainText escapes style t).congr (Node.hasRuled_plainText t).symm
      have ofNodes : ∀ node ∈ nodes, node.isProse = true := by
        intro node member
        exact Node.every_self (proseParts node member)
      have drawn := (Script.Draws.flatMap ofTrimmed).congr (exists_hasRuled_trimmed_iff ofNodes)
      have ofChildren : (Node.paragraph nodes).HasRuled ↔ ∃ node ∈ nodes, node.HasRuled :=
        Node.hasRuled_of_children rfl
      rw [script_paragraph]
      exact (draws_paragraph drawn).congr ofChildren.symm
    | _ => exact absurd ofSelf Bool.false_ne_true

end Renderer

/-! ## Renderings -/

namespace Dialect

/-- **Running text is ruled by its carriage returns alone.**  A page of running text is always
rendered, and has a bare run of hyphens exactly if one of its texts is ruled.  So it has none if no
hyphen in the texts has a carriage return behind it. -/
theorem hasBareRun_state_render_iff (resolver : Reference → Option Target) {request : Request}
    {strict : Bool} (valid : (page resolver).strictness request.options = .ok strict)
    (prose : request.tree.every Node.isProse = true) :
    ((page resolver).render request []).failure = none
      ∧ (((page resolver).render request []).state.HasBareRun ↔ ∃ t ∈ request.tree.texts, t.Ruled)
      ∧ ((∀ t ∈ request.tree.texts, ¬ ['-', '\r'] <:+: t) →
        ¬ ((page resolver).render request []).state.HasBareRun) := by
  have draws := Renderer.draws_script (r := ⟨page resolver, strict⟩) rfl rfl prose .plain
  have whole := draws.append .freshLine
  have empty : ¬ Text.HasBareRun [] := by decide
  have run : ((page resolver).render request []).state.HasBareRun
      ↔ ∃ t ∈ request.tree.texts, t.Ruled := by
    have drawn := whole.hasBareRun_iff Text.composable_spelled.nil
    rw [Script.extend_append draws.succeeds, Script.extend_singleton, or_false,
      or_iff_right empty] at drawn
    rw [state_render valid draws.succeeds, List.nil_append]
    exact drawn
  refine ⟨?_, run, fun apart => ?_⟩
  · rw [failure_render valid, draws.succeeds]
    rfl
  · rw [run]
    rintro ⟨t, member, ruled⟩
    exact Text.not_ruled_of_apart (apart t member) ruled

/-- Hyphens at the ends of neighbouring nodes, and four of them behind a carriage return. -/
def proseWithHyphens : Node :=
  .group [.plainText "--".toList, .emphasis ⟨true, false⟩ [.errorText "-".toList none],
    .paragraph [.softBreak, .plainText "\r---- ".toList], .escapedText "--".toList []]

/-- Separators, the end of a line and backslashes keep them apart. -/
theorem not_hasBareRun_render_proseWithHyphens :
    (page Resolver.empty).strictness none = .ok false ∧ proseWithHyphens.every Node.isProse = true
      ∧ ((page Resolver.empty).render ⟨proseWithHyphens, none⟩ []).failure = none
      ∧ ((page Resolver.empty).render ⟨proseWithHyphens, none⟩ []).state
        = "--<!-- --><b>-</b>\\-\\-\\--\n\n--\n".toList
      ∧ ¬ ((page Resolver.empty).render ⟨proseWithHyphens, none⟩ []).state.HasBareRun := by
  have valid : (page Resolver.empty).strictness (Request.mk proseWithHyphens none).options
      = .ok false := rfl
  have prose : (Request.mk proseWithHyphens none).tree.every Node.isProse = true := by decide
  have apart : ∀ t ∈ (Request.mk proseWithHyphens none).tree.texts, ¬ ['-', '\r'] <:+: t := by
    decide
  obtain ⟨succeeds, -, noRun⟩ := hasBareRun_state_render_iff Resolver.empty valid prose
  exact ⟨valid, prose, succeeds, by decide, noRun apart⟩

/-- Carriage returns between three hyphens are dropped, and the hyphens make a rule. -/
theorem hasBareRun_render_returns :
    ((page Resolver.empty).render ⟨.plainText "-\r-\r-".toList, none⟩ []).state = "---\n".toList
      ∧ ((page Resolver.empty).render ⟨.plainText "-\r-\r-".toList, none⟩ []).state.HasBareRun := by
  decide

end Dialect

end DocMarkdown
