import DocMarkdown.Proofs.Node.Trimming
import DocMarkdown.Render
import DocMarkdown.Renderer.Equations
import DocMarkdown.Session
import Mathlib.Data.List.DropRight

/-!
# The ends of a paragraph

`trimEnds` finds out what to keep of a list by going over it from both ends.  `Trims` says what is
kept without going anywhere: the list is cut into blank items, a part that neither begins nor ends
with a blank one, and blank items again; of that part the first item is stripped at its start and
the last one at its end, and these may be the same item.  Every list can be cut in this way, or is
blank altogether, and there is no other way to cut it (`trims_iff`).

Two things follow.  Blank items put at either end change nothing (`Trims.between`).  And because
stripping an item does not make a blank one of it, what is kept is kept as it is when it is trimmed
again (`Trims.again`).

The nodes of a paragraph are trimmed before they are written, so blank nodes at its ends leave no
trace on the page (`Node.trimmed_of_ends`).
-/

namespace DocMarkdown

/-! ## Lists -/

section Lists

variable {α : Type} {blank : α → Bool} {stripStart stripEnd : α → α} {items kept pre post : List α}

/-- **Trims.** What is kept of a list that is trimmed.

* `nothing`: the items are all blank;
* `single`: one item is kept, stripped at both ends;
* `several`: two items or more are kept, and those between the first and the last as they are. -/
inductive Trims (blank : α → Bool) (stripStart stripEnd : α → α) : List α → List α → Prop where
  | nothing {items : List α} (all : ∀ item ∈ items, blank item = true) :
      Trims blank stripStart stripEnd items []
  | single {pre post : List α} {item : α} (before : ∀ item ∈ pre, blank item = true)
      (after : ∀ item ∈ post, blank item = true) (dark : blank item = false) :
      Trims blank stripStart stripEnd (pre ++ [item] ++ post) [stripEnd (stripStart item)]
  | several {pre inner post : List α} {first last : α} (before : ∀ item ∈ pre, blank item = true)
      (after : ∀ item ∈ post, blank item = true) (darkFirst : blank first = false)
      (darkLast : blank last = false) :
      Trims blank stripStart stripEnd (pre ++ (first :: inner ++ [last]) ++ post)
        (stripStart first :: inner ++ [stripEnd last])

/-! ### Both say the same -/

lemma dropWhile_append_cons {first : α} (before : ∀ item ∈ pre, blank item = true)
    (dark : blank first = false) (rest : List α) :
    (pre ++ first :: rest).dropWhile blank = first :: rest := by
  rw [List.dropWhile_append_of_pos before, List.dropWhile_cons_of_neg (by simp [dark])]

/-- Blank items are dropped up to the first and from the last that is not blank. -/
lemma dropEnds_append {core front rest : List α} {first last : α}
    (before : ∀ item ∈ pre, blank item = true) (after : ∀ item ∈ post, blank item = true)
    (begins : core = first :: rest) (darkFirst : blank first = false)
    (ends : core = front ++ [last]) (darkLast : blank last = false) :
    dropEnds blank (pre ++ core ++ post) = core := by
  have atStart : (pre ++ core ++ post).dropWhile blank = core ++ post := by
    rw [begins, List.append_assoc, List.cons_append, dropWhile_append_cons before darkFirst]
  have after' : ∀ item ∈ post.reverse, blank item = true :=
    fun item member => after item (List.mem_reverse.1 member)
  have atEnd : (core ++ post).reverse.dropWhile blank = core.reverse := by
    rw [ends, List.reverse_append, List.reverse_concat, dropWhile_append_cons after' darkLast]
  rw [dropEnds, atStart, atEnd, List.reverse_reverse]

lemma modifyLast_concat (f : α → α) (front : List α) (last : α) :
    modifyLast f (front ++ [last]) = front ++ [f last] := by
  simp [modifyLast]

lemma Trims.trimEnds_eq (trims : Trims blank stripStart stripEnd items kept) :
    trimEnds blank stripStart stripEnd items = kept := by
  cases trims with
  | nothing all =>
    rw [trimEnds, dropEnds, List.dropWhile_eq_nil_iff.2 all]
    rfl
  | @single pre post item before after dark =>
    rw [trimEnds, dropEnds_append before after rfl dark (List.nil_append [item]).symm dark]
    rfl
  | @several pre inner post first last before after darkFirst darkLast =>
    rw [trimEnds, dropEnds_append before after (List.cons_append ..) darkFirst rfl darkLast,
      List.cons_append, List.modifyHead_cons, ← List.cons_append, modifyLast_concat]

/-- What is left of a list begins with no blank item. -/
lemma dark_of_head?_dropEnds {item : α} (first : (dropEnds blank items).head? = some item) :
    blank item = false := by
  obtain ⟨rest, isCons⟩ := List.head?_eq_some_iff.1 first
  obtain ⟨dropped, cut⟩ := List.rdropWhile_prefix blank (items.dropWhile blank)
  have started : (items.dropWhile blank).head? = some item := by
    rw [← cut, show List.rdropWhile blank (items.dropWhile blank) = item :: rest from isCons]
    rfl
  have notBlank := List.head?_dropWhile_not blank items
  rwa [started] at notBlank

/-- What is left of a list ends with no blank item. -/
lemma dark_of_getLast?_dropEnds {item : α} (last : (dropEnds blank items).getLast? = some item) :
    blank item = false := by
  rw [dropEnds, List.getLast?_reverse] at last
  have notBlank := List.head?_dropWhile_not blank (items.dropWhile blank).reverse
  rwa [last] at notBlank

lemma exists_trims (blank : α → Bool) (stripStart stripEnd : α → α) (items : List α) :
    ∃ kept, Trims blank stripStart stripEnd items kept := by
  obtain ⟨pre, post, cut, before, after⟩ := exists_dropEnds blank items
  rw [← List.append_assoc] at cut
  rw [cut]
  rcases (dropEnds blank items).eq_nil_or_concat' with none | ⟨front, last, ends⟩
  · refine ⟨[], .nothing ?_⟩
    rw [none, List.append_nil]
    exact List.forall_mem_append.2 ⟨before, after⟩
  · have darkLast : blank last = false := dark_of_getLast?_dropEnds (by rw [ends]; simp)
    cases front with
    | nil =>
      rw [ends, List.nil_append]
      exact ⟨_, .single before after darkLast⟩
    | cons first inner =>
      have darkFirst : blank first = false := dark_of_head?_dropEnds (by rw [ends]; rfl)
      rw [ends]
      exact ⟨_, .several before after darkFirst darkLast⟩

/-- **What trimming keeps is what `Trims` says**, for every list. -/
theorem trims_iff :
    Trims blank stripStart stripEnd items kept
      ↔ trimEnds blank stripStart stripEnd items = kept := by
  constructor
  · exact Trims.trimEnds_eq
  · rintro rfl
    obtain ⟨kept, trims⟩ := exists_trims blank stripStart stripEnd items
    rwa [trims.trimEnds_eq]

/-! ### Blank items at the ends -/

/-- Blank items at the ends have no say in what is kept. -/
lemma Trims.between (trims : Trims blank stripStart stripEnd items kept)
    (before : ∀ item ∈ pre, blank item = true) (after : ∀ item ∈ post, blank item = true) :
    Trims blank stripStart stripEnd (pre ++ items ++ post) kept := by
  have cut (front core back : List α) :
      pre ++ (front ++ core ++ back) ++ post = pre ++ front ++ core ++ (back ++ post) := by
    simp only [List.append_assoc]
  cases trims with
  | nothing all =>
    exact .nothing (List.forall_mem_append.2 ⟨List.forall_mem_append.2 ⟨before, all⟩, after⟩)
  | single before' after' dark =>
    rw [cut]
    exact .single (List.forall_mem_append.2 ⟨before, before'⟩)
      (List.forall_mem_append.2 ⟨after', after⟩) dark
  | several before' after' darkFirst darkLast =>
    rw [cut]
    exact .several (List.forall_mem_append.2 ⟨before, before'⟩)
      (List.forall_mem_append.2 ⟨after', after⟩) darkFirst darkLast

/-! ### Trimming again -/

/-- **Stripping.** Ways to strip an item at its start and at its end that do not change whether it
is blank, and leave an item alone that was stripped there before. -/
structure Stripping (blank : α → Bool) (stripStart stripEnd : α → α) : Prop where
  blank_start : ∀ item, blank (stripStart item) = blank item
  blank_end : ∀ item, blank (stripEnd item) = blank item
  start_start : ∀ item, stripStart (stripStart item) = stripStart item
  end_end : ∀ item, stripEnd (stripEnd item) = stripEnd item
  start_end_start : ∀ item, stripStart (stripEnd (stripStart item)) = stripEnd (stripStart item)

/-- What is kept is all kept, and not changed, when it is trimmed again. -/
lemma Trims.again (stripping : Stripping blank stripStart stripEnd)
    (trims : Trims blank stripStart stripEnd items kept) :
    Trims blank stripStart stripEnd kept kept := by
  have none : ∀ item ∈ ([] : List α), blank item = true :=
    fun item member => absurd member List.not_mem_nil
  cases trims with
  | nothing all => exact .nothing none
  | @single pre post item before after dark =>
    have stillDark : blank (stripEnd (stripStart item)) = false := by
      rw [stripping.blank_end, stripping.blank_start, dark]
    have again : Trims blank stripStart stripEnd ([] ++ [stripEnd (stripStart item)] ++ [])
        [stripEnd (stripStart (stripEnd (stripStart item)))] := .single none none stillDark
    rwa [stripping.start_end_start, stripping.end_end] at again
  | @several pre inner post first last before after darkFirst darkLast =>
    have again : Trims blank stripStart stripEnd
        ([] ++ (stripStart first :: inner ++ [stripEnd last]) ++ [])
        (stripStart (stripStart first) :: inner ++ [stripEnd (stripEnd last)]) :=
      .several none none ((stripping.blank_start first).trans darkFirst)
        ((stripping.blank_end last).trans darkLast)
    rwa [stripping.start_start, stripping.end_end, List.nil_append, List.append_nil] at again

end Lists

/-! ## Texts -/

namespace Text

lemma allBlank_trimStart (t : Text) : t.trimStart.allBlank = t.allBlank := by
  conv_rhs => rw [allBlank, ← List.takeWhile_append_dropWhile (p := isBlank) (l := t),
    List.all_append, List.all_takeWhile, Bool.true_and]
  rfl

lemma allBlank_trimEnd (t : Text) : t.trimEnd.allBlank = t.allBlank := by
  have reversed := allBlank_trimStart t.reverse
  rwa [allBlank, allBlank, List.all_reverse, ← List.all_reverse] at reversed

lemma trimStart_trimStart (t : Text) : t.trimStart.trimStart = t.trimStart :=
  List.dropWhile_idempotent isBlank t

lemma trimEnd_trimEnd (t : Text) : t.trimEnd.trimEnd = t.trimEnd :=
  List.rdropWhile_idempotent isBlank t

/-- A text that was stripped at both ends begins with no blank. -/
lemma trimStart_trimEnd_trimStart (t : Text) :
    t.trimStart.trimEnd.trimStart = t.trimStart.trimEnd := by
  cases stripped : t.trimStart.trimEnd with
  | nil => rfl
  | cons c rest =>
    have first : (dropEnds isBlank t).head? = some c := congrArg List.head? stripped
    have dark : isBlank c = false := dark_of_head?_dropEnds first
    exact List.dropWhile_cons_of_neg (by simp [dark])

end Text

/-! ## Nodes -/

namespace Node

/-- A node whose text keeps the characters that are not blank is blank if it was. -/
lemma isBlank_strip {f : Text → Text} (keeps : ∀ t, (f t).allBlank = t.allBlank) (node : Node) :
    (node.strip f).isBlank = node.isBlank := by
  rcases node.strip_cases f with ⟨t, blankness, stripped⟩ | same
  · rw [stripped, blankness]
    exact keeps t
  · rw [same]

/-- Stripping a node twice strips its text twice. -/
lemma strip_strip (f g : Text → Text) (node : Node) :
    (node.strip g).strip f = node.strip fun t => f (g t) := by
  cases isText : node.plain? with
  | none => simp only [strip, isText]
  | some t =>
    simp only [strip, isText]
    rfl

/-- Nodes are stripped as their texts are. -/
lemma stripping : Stripping isBlank stripStart stripEnd where
  blank_start := isBlank_strip Text.allBlank_trimStart
  blank_end := isBlank_strip Text.allBlank_trimEnd
  start_start node :=
    (strip_strip ..).trans (congrArg (strip · node) (funext Text.trimStart_trimStart))
  end_end node := (strip_strip ..).trans (congrArg (strip · node) (funext Text.trimEnd_trimEnd))
  start_end_start node := by
    have once : (node.strip Text.trimStart).strip Text.trimEnd
        = node.strip fun t => t.trimStart.trimEnd := strip_strip ..
    calc ((node.strip Text.trimStart).strip Text.trimEnd).strip Text.trimStart
        = node.strip fun t => t.trimStart.trimEnd.trimStart := by rw [once, strip_strip]
      _ = (node.strip Text.trimStart).strip Text.trimEnd := by
        rw [once, funext Text.trimStart_trimEnd_trimStart]

/-! ## What is written -/

/-- **Written alike.** No session and no rendering tells two nodes apart by what is written for
them, logged or reported as a failure. -/
structure WrittenAlike (node node' : Node) : Prop where
  perform_eq : ∀ s, Session.perform (.nodes [node]) s = Session.perform (.nodes [node']) s
  render_eq : ∀ (d : Dialect) (options : Option Options) (found : Text),
    d.render ⟨node, options⟩ found = d.render ⟨node', options⟩ found

/-- Nodes of one kind that have the same scripts are written alike. -/
lemma WrittenAlike.of_script {node node' : Node} (kind : node.kind = node'.kind)
    (script : ∀ (r : Renderer) style, r.script style node = r.script style node') :
    WrittenAlike node node' where
  perform_eq s := by
    simp only [Session.perform, Session.Operation.script, List.flatMap_singleton, script]
  render_eq d options found := by
    simp only [Dialect.render, Dialect.fullScript, kind, script]

/-- **The ends of a paragraph.**  What is kept of the nodes of a paragraph is what `Trims` says, and
it stays as it is when it is trimmed again.  Blank nodes that are put at either end change neither
what is kept nor what is written for the paragraph. -/
theorem trimmed_of_ends :
    (∀ nodes kept : List Node,
        trimmed nodes = kept ↔ Trims isBlank stripStart stripEnd nodes kept)
      ∧ (∀ nodes : List Node, trimmed (trimmed nodes) = trimmed nodes)
      ∧ ∀ {pre post : List Node}, (∀ node ∈ pre, node.isBlank = true) →
        (∀ node ∈ post, node.isBlank = true) →
        (∀ nodes : List Node, trimmed (pre ++ nodes ++ post) = trimmed nodes)
          ∧ ∀ {p q : Node}, p.kind = .paragraph → q.kind = .paragraph →
            q.children = pre ++ p.children ++ post → WrittenAlike q p := by
  have kept (nodes : List Node) : Trims isBlank stripStart stripEnd nodes (trimmed nodes) :=
    trims_iff.2 rfl
  refine ⟨fun nodes kept => trims_iff.symm, fun nodes => ?_, ?_⟩
  · exact ((kept nodes).again stripping).trimEnds_eq
  · intro pre post before after
    have wider (nodes : List Node) : trimmed (pre ++ nodes ++ post) = trimmed nodes :=
      ((kept nodes).between before after).trimEnds_eq
    refine ⟨wider, fun {p q} isParagraph isParagraph' children => ?_⟩
    apply WrittenAlike.of_script (isParagraph'.trans isParagraph.symm)
    intro r style
    rw [r.script_of_paragraph isParagraph', r.script_of_paragraph isParagraph, children, wider]

/-- Nodes that are blank for what they are made of, whatever their labels, are put around text that
is stripped at both ends.  The paragraph around all of them is a group by what it is made of. -/
theorem writtenAlike_padded :
    let pre : List Node := [softBreak, labelled (.other "gap") (plainText " ".toList)]
    let nodes : List Node := [labelled .errorText (plainText "\ta ".toList), softBreak,
      codeSpan "b".toList, plainText "c \n".toList]
    let post : List Node := [plainText [], labelled .heading softBreak]
    let kept : List Node :=
      [plainText "a ".toList, softBreak, codeSpan "b".toList, plainText "c".toList]
    let padded : Node := labelled .paragraph (group (pre ++ nodes ++ post))
    (∀ node ∈ pre, node.isBlank = true) ∧ (∀ node ∈ post, node.isBlank = true)
      ∧ Trims isBlank stripStart stripEnd nodes kept ∧ trimmed (trimmed nodes) = trimmed nodes
      ∧ trimmed (pre ++ nodes ++ post) = trimmed nodes
      ∧ (paragraph nodes).kind = .paragraph ∧ padded.kind = .paragraph
      ∧ padded.children = pre ++ (paragraph nodes).children ++ post
      ∧ WrittenAlike padded (paragraph nodes)
      ∧ (Dialect.core.render ⟨paragraph nodes, none⟩ []).state
        = "a `b`<!-- -->c\n\n".toList := by
  intro pre nodes post kept padded
  have before : ∀ node ∈ pre, node.isBlank = true := by decide
  have after : ∀ node ∈ post, node.isBlank = true := by decide
  obtain ⟨keeps, again, between⟩ := trimmed_of_ends
  obtain ⟨wider, alike⟩ := between before after
  have nodesKept : trimmed nodes = kept := rfl
  exact ⟨before, after, (keeps nodes kept).1 nodesKept, again nodes, wider nodes, rfl, rfl, rfl,
    alike rfl rfl rfl, by decide⟩

end Node

end DocMarkdown
