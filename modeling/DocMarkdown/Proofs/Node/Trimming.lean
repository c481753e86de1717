import DocMarkdown.Proofs.Node.Visited

/-!
# What trimming keeps

Trimming the ends of a paragraph drops blank nodes and strips plain texts, and does nothing else.
So whatever is gathered from the nodes of a paragraph without regard to blanks is gathered from the
trimmed nodes as well (`Node.flatMap_trimmed_of_strip`).
-/

namespace DocMarkdown

/-! ## Lists -/

section Lists

variable {α γ : Type} {blank : α → Bool} {f : α → List γ} {g : α → α} {items : List α}

/-- What is dropped at the ends is blank. -/
lemma exists_dropEnds (blank : α → Bool) (items : List α) :
    ∃ pre post, items = pre ++ (dropEnds blank items ++ post)
      ∧ (∀ item ∈ pre, blank item = true) ∧ ∀ item ∈ post, blank item = true := by
  have kept : dropEnds blank items
      ++ ((items.dropWhile blank).reverse.takeWhile blank).reverse = items.dropWhile blank := by
    rw [dropEnds, ← List.reverse_append, List.takeWhile_append_dropWhile, List.reverse_reverse]
  refine ⟨items.takeWhile blank, ((items.dropWhile blank).reverse.takeWhile blank).reverse,
    ?_, ?_, ?_⟩
  · rw [kept, List.takeWhile_append_dropWhile]
  · intro item member
    exact List.all_eq_true.1 List.all_takeWhile item member
  · intro item member
    exact List.all_eq_true.1 List.all_takeWhile item (List.mem_reverse.1 member)

/-- Nothing is gathered from what is dropped at the ends. -/
lemma flatMap_dropEnds (ofBlank : ∀ item ∈ items, blank item = true → f item = []) :
    (dropEnds blank items).flatMap f = items.flatMap f := by
  obtain ⟨pre, post, cut, preBlank, postBlank⟩ := exists_dropEnds blank items
  have inPre : pre.flatMap f = [] := by
    refine List.flatMap_eq_nil_iff.2 fun item member => ofBlank item ?_ (preBlank item member)
    rw [cut]
    exact List.mem_append_left _ member
  have inPost : post.flatMap f = [] := by
    refine List.flatMap_eq_nil_iff.2 fun item member => ofBlank item ?_ (postBlank item member)
    rw [cut]
    exact List.mem_append_right _ (List.mem_append_right _ member)
  calc (dropEnds blank items).flatMap f
      = pre.flatMap f ++ ((dropEnds blank items).flatMap f ++ post.flatMap f) := by
        rw [inPre, inPost, List.nil_append, List.append_nil]
    _ = items.flatMap f := by rw [← List.flatMap_append, ← List.flatMap_append, ← cut]

lemma mem_of_mem_dropEnds {item : α} (member : item ∈ dropEnds blank items) : item ∈ items := by
  obtain ⟨pre, post, cut, -, -⟩ := exists_dropEnds blank items
  rw [cut]
  exact List.mem_append_right _ (List.mem_append_left _ member)

lemma flatMap_modifyHead (keeps : ∀ item ∈ items, f (g item) = f item) :
    (items.modifyHead g).flatMap f = items.flatMap f := by
  cases items with
  | nil => rfl
  | cons item rest => simp [keeps item List.mem_cons_self]

lemma flatMap_modifyLast (keeps : ∀ item ∈ items, f (g item) = f item) :
    (modifyLast g items).flatMap f = items.flatMap f := by
  rcases items.eq_nil_or_concat with rfl | ⟨start, last, rfl⟩
  · rfl
  · have kept := keeps last (by simp)
    simp [modifyLast, kept]

lemma mem_modifyHead {item : α} (member : item ∈ items.modifyHead g) :
    item ∈ items ∨ ∃ old ∈ items, item = g old := by
  cases items with
  | nil => exact .inl member
  | cons first rest =>
    rcases List.mem_cons.1 member with rfl | inRest
    · exact .inr ⟨first, List.mem_cons_self, rfl⟩
    · exact .inl (List.mem_cons_of_mem _ inRest)

lemma mem_modifyLast {item : α} (member : item ∈ modifyLast g items) :
    item ∈ items ∨ ∃ old ∈ items, item = g old := by
  have reversed : item ∈ items.reverse.modifyHead g := List.mem_reverse.1 member
  rcases mem_modifyHead reversed with kept | ⟨old, inItems, changed⟩
  · exact .inl (List.mem_reverse.1 kept)
  · exact .inr ⟨old, List.mem_reverse.1 inItems, changed⟩

end Lists

/-! ## Paragraphs -/

namespace Node

lemma unlabelled_of_not_isLabelled {node : Node} (bare : node.isLabelled = false) :
    node.unlabelled = node := by
  cases node with
  | labelled kind node => simp [isLabelled] at bare
  | _ => rfl

/-- A blank node without a label is a blank text or a soft break. -/
lemma eq_of_isBlank {node : Node} (bare : node.isLabelled = false) (blank : node.isBlank = true) :
    (∃ t : Text, node = .plainText t ∧ t.allBlank = true) ∨ node = .softBreak := by
  rw [isBlank, unlabelled_of_not_isLabelled bare] at blank
  cases node with
  | plainText t => exact .inl ⟨t, rfl, blank⟩
  | softBreak => exact .inr rfl
  | _ => simp at blank

/-- A plain text, whatever its label, with its text changed and without the label; any other node as
it is. -/
def strip (f : Text → Text) (node : Node) : Node :=
  match node.plain? with
  | some text => plainText (f text)
  | none => node

/-- What is stripped is a plain text, and it is blank if its text is. -/
lemma strip_cases (f : Text → Text) (node : Node) :
    (∃ t : Text, node.isBlank = t.allBlank ∧ node.strip f = plainText (f t))
      ∨ node.strip f = node := by
  unfold isBlank strip plain?
  cases node.unlabelled with
  | plainText t => exact .inl ⟨t, rfl, rfl⟩
  | _ => exact .inr rfl

lemma strip_eq {f : Text → Text} {node : Node} (bare : node.isLabelled = false) :
    node.strip f = node ∨ ∃ t : Text, node = .plainText t ∧ node.strip f = .plainText (f t) := by
  unfold strip plain?
  rw [unlabelled_of_not_isLabelled bare]
  cases node with
  | plainText t => exact .inr ⟨t, rfl, rfl⟩
  | _ => exact .inl rfl

lemma isLabelled_strip {f : Text → Text} {node : Node} (bare : node.isLabelled = false) :
    (node.strip f).isLabelled = false := by
  rcases node.strip_cases f with ⟨t, -, stripped⟩ | same
  · rw [stripped]
    rfl
  · rw [same, bare]

/-- A trimmed node that is not a plain text stands among the nodes of the paragraph. -/
lemma mem_trimmed {nodes : List Node} {node : Node} (member : node ∈ trimmed nodes) :
    node ∈ nodes ∨ ∃ t, node = .plainText t := by
  have atStart : ∀ node ∈ (dropEnds isBlank nodes).modifyHead (strip Text.trimStart),
      node ∈ nodes ∨ ∃ t, node = .plainText t := by
    intro node member
    rcases mem_modifyHead member with kept | ⟨old, inNodes, rfl⟩
    · exact .inl (mem_of_mem_dropEnds kept)
    · rcases old.strip_cases Text.trimStart with ⟨t, -, isText⟩ | same
      · exact .inr ⟨_, isText⟩
      · rw [same]
        exact .inl (mem_of_mem_dropEnds inNodes)
  rcases mem_modifyLast member with kept | ⟨old, inNodes, rfl⟩
  · exact atStart node kept
  · rcases old.strip_cases Text.trimEnd with ⟨t, -, isText⟩ | same
    · exact .inr ⟨_, isText⟩
    · rw [show old.stripEnd = old from same]
      exact atStart old inNodes

/-- What holds of the nodes of a paragraph, none of which has a label, and is kept when a text is
stripped, holds of the trimmed nodes. -/
lemma forall_mem_trimmed {p : Node → Prop} (bare : ∀ node, p node → node.isLabelled = false)
    (atStart : ∀ t, p (.plainText t) → p (.plainText t.trimStart))
    (atEnd : ∀ t, p (.plainText t) → p (.plainText t.trimEnd)) {nodes : List Node}
    (all : ∀ node ∈ nodes, p node) : ∀ node ∈ trimmed nodes, p node := by
  have ofStrip {f : Text → Text} (ofText : ∀ t, p (.plainText t) → p (.plainText (f t)))
      {node : Node} (holds : p node) : p (node.strip f) := by
    rcases strip_eq (bare node holds) with same | ⟨t, rfl, stripped⟩
    · rwa [same]
    · rw [stripped]
      exact ofText t holds
  have started : ∀ node ∈ (dropEnds isBlank nodes).modifyHead stripStart, p node := by
    intro node member
    rcases mem_modifyHead member with kept | ⟨old, inNodes, rfl⟩
    · exact all node (mem_of_mem_dropEnds kept)
    · exact ofStrip atStart (all old (mem_of_mem_dropEnds inNodes))
  intro node member
  rcases mem_modifyLast member with kept | ⟨old, inNodes, rfl⟩
  · exact started node kept
  · exact ofStrip atEnd (started old inNodes)

/-- **What trimming keeps.**  Whatever is gathered from nodes is gathered from the trimmed nodes of
a paragraph as well, if it does not depend on the outer blanks of a text, and nothing is gathered
from blank texts and soft breaks. -/
theorem flatMap_trimmed_of_strip {γ : Type} {f : Node → List γ}
    (atStart : ∀ t : Text, f (.plainText t.trimStart) = f (.plainText t))
    (atEnd : ∀ t : Text, f (.plainText t.trimEnd) = f (.plainText t))
    (ofBlank : ∀ t : Text, t.allBlank = true → f (.plainText t) = []) (ofBreak : f .softBreak = [])
    {nodes : List Node} (bare : ∀ node ∈ nodes, node.isLabelled = false) :
    (trimmed nodes).flatMap f = nodes.flatMap f := by
  have ofStrip {g : Text → Text} (keeps : ∀ t : Text, f (.plainText (g t)) = f (.plainText t))
      {node : Node} (bare : node.isLabelled = false) : f (node.strip g) = f node := by
    rcases strip_eq bare with same | ⟨t, rfl, stripped⟩
    · rw [same]
    · rw [stripped, keeps]
  have started : ∀ node ∈ dropEnds isBlank nodes, f node.stripStart = f node :=
    fun node member => ofStrip atStart (bare node (mem_of_mem_dropEnds member))
  have ended : ∀ node ∈ (dropEnds isBlank nodes).modifyHead stripStart,
      f node.stripEnd = f node := by
    intro node member
    apply ofStrip atEnd
    rcases mem_modifyHead member with kept | ⟨old, inNodes, rfl⟩
    · exact bare node (mem_of_mem_dropEnds kept)
    · exact isLabelled_strip (bare old (mem_of_mem_dropEnds inNodes))
  have dropped : ∀ node ∈ nodes, node.isBlank = true → f node = [] := by
    intro node member blank
    rcases eq_of_isBlank (bare node member) blank with ⟨t, rfl, isBlank⟩ | rfl
    · exact ofBlank t isBlank
    · exact ofBreak
  rw [trimmed, trimEnds, flatMap_modifyLast ended, flatMap_modifyHead started,
    flatMap_dropEnds dropped]

/-- What is found neither in plain texts nor in soft breaks is not lost where a paragraph is
trimmed. -/
theorem flatMap_trimmed {γ : Type} {f : Node → List γ} (ofText : ∀ t, f (.plainText t) = [])
    (ofBreak : f .softBreak = []) {nodes : List Node}
    (bare : ∀ node ∈ nodes, node.isLabelled = false) :
    (trimmed nodes).flatMap f = nodes.flatMap f :=
  flatMap_trimmed_of_strip (fun t => (ofText _).trans (ofText t).symm)
    (fun t => (ofText _).trans (ofText t).symm) (fun t _ => ofText t) ofBreak bare

/-- Trimming leaves a node of some sort if there was one, if the outer blanks of a text have no say
in its sort, and neither blank texts nor soft breaks are of it. -/
lemma exists_mem_trimmed_iff {p : Node → Prop}
    (atStart : ∀ t : Text, p (.plainText t.trimStart) ↔ p (.plainText t))
    (atEnd : ∀ t : Text, p (.plainText t.trimEnd) ↔ p (.plainText t))
    (ofBlank : ∀ t : Text, t.allBlank = true → ¬ p (.plainText t)) (ofBreak : ¬ p .softBreak)
    {nodes : List Node} (bare : ∀ node ∈ nodes, node.isLabelled = false) :
    (∃ node ∈ trimmed nodes, p node) ↔ ∃ node ∈ nodes, p node := by
  classical
  let found (node : Node) : List Unit := if p node then [()] else []
  have any (nodes : List Node) : (∃ node ∈ nodes, p node) ↔ nodes.flatMap found ≠ [] := by
    simp [found, List.flatMap_eq_nil_iff]
  have same : (trimmed nodes).flatMap found = nodes.flatMap found := by
    apply flatMap_trimmed_of_strip _ _ _ _ bare
    · exact fun t => by simp only [found, atStart]
    · exact fun t => by simp only [found, atEnd]
    · exact fun t blank => if_neg (ofBlank t blank)
    · exact if_neg ofBreak
  rw [any, any, same]

end Node

end DocMarkdown
