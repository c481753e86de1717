import DocMarkdown.Node.Traversal
import DocMarkdown.Proofs.Node.Visited
import Mathlib.Data.List.Basic

/-!
# Transcripts are complete

A transcript goes through a tree by the kinds of its nodes: it records those that a comment is made
of, and goes on to the children of groups, paragraphs and everything that it does not record.  So in
a tree without labels it leaves nothing out and records nothing twice
(`Node.transcript_eq_records`): it is the list of all nodes in document order, with the record of
each that has one (`Node.record?`).

What document order is can be said without any walk.  A node stands in a tree at an *address*, the
positions of the children on the way to it (`Node.at?`), and a list of nodes is in document order if
it goes through all addresses of the tree in increasing order (`Node.InOrder`).
-/

namespace DocMarkdown

namespace Node

/-! ## Addresses -/

/-- The node at an address, if there is one: the tree itself at the empty address, and otherwise
what is found in the child that the first number counts off. -/
def at? (tree : Node) : List Nat → Option Node
  | [] => some tree
  | i :: rest => tree.children[i]?.bind fun child => child.at? rest

/-- The addresses of a tree: its own, and those of its children behind their positions. -/
def addresses (tree : Node) : List (List Nat) :=
  tree.fold fun _ children =>
    [] :: children.zipIdx.flatMap fun (inChild, i) => inChild.map (i :: ·)

lemma addresses_eq (tree : Node) : tree.addresses
    = [] :: tree.children.zipIdx.flatMap fun (child, i) => child.addresses.map (i :: ·) := by
  rw [addresses, fold_eq, List.zipIdx_map, List.flatMap_map]
  rfl

/-- **Document order.** Nodes that are found at all addresses of a tree, in increasing order: a node
comes before what is in it, and what is in a child comes before the next child. -/
def InOrder (tree : Node) (nodes : List Node) : Prop :=
  ∃ addresses : List (List Nat), addresses.Pairwise (· < ·)
    ∧ (∀ address, address ∈ addresses ↔ (tree.at? address).isSome = true)
    ∧ addresses.map tree.at? = nodes.map some

/-- The addresses are those at which there is a node. -/
lemma mem_addresses (tree : Node) (address : List Nat) :
    address ∈ tree.addresses ↔ (tree.at? address).isSome = true := by
  induction address generalizing tree with
  | nil =>
    rw [addresses_eq]
    simp [at?]
  | cons i rest ih =>
    have inChild : i :: rest ∈ tree.addresses
        ↔ ∃ child, tree.children[i]? = some child ∧ rest ∈ child.addresses := by
      rw [addresses_eq]
      simp [List.mem_zipIdx_iff_getElem?]
    rw [inChild, at?]
    cases tree.children[i]? with
    | none => simp
    | some child => simp [ih]

/-- The addresses are listed in increasing order. -/
lemma pairwise_addresses (tree : Node) : tree.addresses.Pairwise (· < ·) := by
  induction tree using children_induction with
  | step tree ofChildren =>
    rw [addresses_eq, List.pairwise_cons, List.pairwise_flatMap]
    refine ⟨?_, ?_, ?_⟩
    · intro address member
      obtain ⟨⟨child, i⟩, -, inChild⟩ := List.mem_flatMap.1 member
      obtain ⟨rest, -, rfl⟩ := List.mem_map.1 inChild
      exact List.nil_lt_cons i rest
    · rintro ⟨child, i⟩ member
      rw [List.pairwise_map]
      exact (ofChildren child (List.fst_mem_of_mem_zipIdx member)).imp List.cons_lt_cons_self.2
    · -- The positions of the children increase.
      have positions : tree.children.zipIdx.Pairwise fun x y => x.2 < y.2 := by
        rw [← List.pairwise_map (f := Prod.snd), List.zipIdx_map_snd]
        exact List.pairwise_lt_range' 1
      refine positions.imp fun less first inFirst second inSecond => ?_
      obtain ⟨rest, -, rfl⟩ := List.mem_map.1 inFirst
      obtain ⟨rest', -, rfl⟩ := List.mem_map.1 inSecond
      exact List.cons_lt_cons_iff.2 (.inl less)

/-- At the addresses stand the nodes of a walk. -/
lemma map_at?_addresses (tree : Node) : tree.addresses.map tree.at? = tree.walk.map some := by
  induction tree using children_induction with
  | step tree ofChildren =>
    have inChild : ∀ x ∈ tree.children.zipIdx, (x.1.addresses.map (x.2 :: ·)).map tree.at?
        = x.1.walk.map some := by
      rintro ⟨child, i⟩ member
      have found : tree.children[i]? = some child := List.mem_zipIdx_iff_getElem?.1 member
      rw [← ofChildren child (List.fst_mem_of_mem_zipIdx member), List.map_map]
      refine List.map_congr_left fun rest _ => ?_
      rw [Function.comp_apply, at?, found, Option.bind_some]
    have inChildren : tree.children.zipIdx.flatMap (fun x => x.1.walk.map some)
        = tree.children.flatMap fun child => child.walk.map some := by
      rw [← List.flatMap_map Prod.fst fun child : Node => child.walk.map some, List.zipIdx_map_fst]
    rw [addresses_eq, walk_eq, List.map_cons, List.map_cons, List.map_flatMap, List.map_flatMap,
      List.flatMap_congr inChild, inChildren]
    rfl

/-- **A walk is in document order.** -/
theorem inOrder_walk (tree : Node) : tree.InOrder tree.walk :=
  ⟨tree.addresses, tree.pairwise_addresses, tree.mem_addresses, tree.map_at?_addresses⟩

end Node

/-! ## Outlines -/

mutual

/-- The kinds in an outline: that of the node, and those in the outlines of its children. -/
def Outline.kinds : Outline → List Kind
  | .mk kind _ children => kind :: Outline.kindsAll children

/-- The kinds in outlines, one after the other. -/
def Outline.kindsAll : List Outline → List Kind
  | [] => []
  | outline :: rest => outline.kinds ++ Outline.kindsAll rest

end

lemma Outline.kindsAll_eq (outlines : List Outline) :
    Outline.kindsAll outlines = outlines.flatMap Outline.kinds := by
  induction outlines with
  | nil => rfl
  | cons outline rest ih => rw [kindsAll, ih, List.flatMap_cons]

namespace Node

/-- An outline lists the kinds of the nodes of a walk. -/
lemma kinds_outline (tree : Node) : tree.outline.kinds = tree.walk.map kind := by
  induction tree using children_induction with
  | step tree ofChildren =>
    rw [outline_eq, Outline.kinds, Outline.kindsAll_eq, List.flatMap_map, walk_eq, List.map_cons,
      List.map_flatMap, List.flatMap_congr ofChildren]

/-! ## Records -/

/-- **The record of a node**: its kind and its own text, where the node is of a kind that comments
are made of.  A soft break has the name of its kind for a text, a link may be without a text, and
groups and paragraphs have none of their own. -/
def record? : Node → Option (Kind × Option Text)
  | plainText text => some (.plainText, some text)
  | escapedText decoded _ => some (.escapedText, some decoded)
  | errorText text _ => some (.errorText, some text)
  | softBreak => some (.softBreak, some "soft_break".toList)
  | startTag tag => some (.startTag, some tag.html)
  | endTag name => some (.endTag, some (endTagHtml name))
  | codeSpan code => some (.codeSpan, some code)
  | fencedCode code _ => some (.fencedCode, some code)
  | link l => some (.link, l.text)
  | paragraph _ => some (.paragraph, none)
  | group _ => some (.group, none)
  | _ => none

variable {node : Node}

/-- Of a node without a label a transcript gives its record. -/
lemma entry?_eq_record? (bare : node.isLabelled = false) : node.entry? = node.record? := by
  cases node with
  | labelled kind node => cases bare
  | _ => rfl

/-- Nodes of the kinds that comments are made of have a record, and no others have. -/
lemma map_fst_record? (bare : node.isLabelled = false) : node.record?.map Prod.fst
    = if node.kind ∈ Kind.Family.comment.members then some node.kind else none := by
  cases node with
  | labelled kind node => cases bare
  | _ => rfl

/-- What a transcript does not go into has no children. -/
lemma children_eq_nil_of_not_descends (bare : node.isLabelled = false)
    (leaf : descends node.kind = false) : node.children = [] := by
  cases node with
  | labelled kind node => cases bare
  | plainText | escapedText | errorText | softBreak | startTag | endTag | codeSpan | fencedCode
    | link | heading => rfl
  | _ => cases leaf

/-- **Transcripts are complete.**  The transcript of a tree without labels is made of the records
of its nodes, in the order of a walk. -/
theorem transcript_eq_filterMap (tree : Node) (bare : tree.labelFree = true) :
    tree.transcript = tree.walk.filterMap record? := by
  induction tree using children_induction with
  | step tree ofChildren =>
    have unlabelled : tree.isLabelled = false := by simpa using every_self bare
    have below : (if descends tree.kind then (tree.children.map transcript).flatten else [])
        = tree.children.flatMap fun child => child.walk.filterMap record? := by
      cases leaf : descends tree.kind with
      | true =>
        rw [if_pos rfl, ← List.flatMap_def]
        exact List.flatMap_congr fun child member =>
          ofChildren child member (every_children bare child member)
      | false =>
        rw [children_eq_nil_of_not_descends unlabelled leaf]
        rfl
    rw [transcript_eq, below, entry?_eq_record? unlabelled, walk_eq, List.filterMap_cons,
      List.filterMap_flatMap]
    cases tree.record? <;> rfl

/-- What a transcript records are the kinds of an outline that are recorded. -/
lemma map_fst_transcript (tree : Node) (bare : tree.labelFree = true) :
    tree.transcript.map Prod.fst
      = tree.outline.kinds.filter (· ∈ Kind.Family.comment.members) := by
  have unlabelled : ∀ node ∈ tree.walk, node.isLabelled = false := by
    intro node member
    rw [labelFree, every_eq_all_walk] at bare
    simpa using List.all_eq_true.1 bare node member
  rw [transcript_eq_filterMap tree bare, kinds_outline, List.map_filterMap,
    ← List.filterMap_eq_filter, List.filterMap_map]
  refine List.filterMap_congr fun node member => ?_
  rw [map_fst_record? (unlabelled node member)]
  by_cases recorded : node.kind ∈ Kind.Family.comment.members <;> simp [Option.guard, recorded]

/-- A node that is not recorded has nothing in its transcript but those of its children. -/
lemma transcript_of_not_recorded (notRecorded : node.kind ∉ Kind.Family.comment.members) :
    node.transcript = node.children.flatMap transcript := by
  have descended : descends node.kind = true := by simp [descends, notRecorded]
  rw [transcript_eq, entry?, if_neg notRecorded, descended, if_pos rfl, List.flatMap_def]
  rfl

/-- **Each node once, in document order.**  The nodes of a walk are those at all addresses of the
tree, in increasing order, and the transcript of a tree without labels is made of their records: of
the kinds that its outline lists, those that are recorded, each with the node's own text.  Where a
node is not recorded, what is in it is all there, once: the header of a table before its rows. -/
theorem transcript_eq_records (tree : Node) (bare : tree.labelFree = true) :
    tree.InOrder tree.walk
      ∧ tree.transcript = tree.walk.filterMap record?
      ∧ tree.transcript.map Prod.fst = tree.outline.kinds.filter (· ∈ Kind.Family.comment.members)
      ∧ (∀ node ∈ tree.walk, node.kind ∉ Kind.Family.comment.members →
        node.transcript = node.children.flatMap transcript)
      ∧ ∀ header rows, table (some header) rows ∈ tree.walk →
        (table (some header) rows).transcript = header.transcript ++ rows.flatMap transcript := by
  refine ⟨tree.inOrder_walk, transcript_eq_filterMap tree bare, map_fst_transcript tree bare,
    fun node _ => transcript_of_not_recorded, fun header rows _ => ?_⟩
  have notRecorded : (table (some header) rows).kind ∉ Kind.Family.comment.members :=
    (by decide : Kind.table ∉ Kind.Family.comment.members)
  exact (transcript_of_not_recorded notRecorded).trans List.flatMap_cons

/-- Texts in a table with a header and rows of different lengths, which stands in emphasis inside a
node of an unknown kind; a link without a text, a soft break and a tag. -/
theorem transcript_eq_records_unknownOfTable :
    let tag : StartTag := ⟨"br".toList, [], true⟩
    let grid : Node := table (some (row [cell (plainText "a".toList)]))
      [row [], row [cell (noteBox (codeSpan "b".toList)), cell (group [startTag tag])]]
    let tree : Node := other "callout" [emphasis ⟨true, false⟩ [grid],
      paragraph [link ⟨none, some "u".toList, none⟩, softBreak, heading "c".toList ⟨1, by decide⟩],
      escapedText "d".toList "e".toList]
    tree.labelFree = true ∧ tree.transcript = tree.walk.filterMap record?
      ∧ tree.transcript.map Prod.fst = tree.outline.kinds.filter (· ∈ Kind.Family.comment.members)
      ∧ tree.transcript = [(.plainText, some "a".toList), (.codeSpan, some "b".toList),
        (.group, none), (.startTag, some "<br />".toList), (.paragraph, none), (.link, none),
        (.softBreak, some "soft_break".toList), (.escapedText, some "d".toList)] := by
  intro tag grid tree
  have bare : tree.labelFree = true := by decide
  obtain ⟨-, records, kinds, -, -⟩ := transcript_eq_records tree bare
  exact ⟨bare, records, kinds, by decide⟩

end Node

end DocMarkdown
