import DocMarkdown.Node.Trim
import Mathlib.Tactic.Lemma

/-!
# Changing the links of a tree

`Node.mapLinks` changes each link of a tree and nothing else: kinds, labels and the shape of the
tree stay, and paragraphs are trimmed as before (`Node.trimmed_map_mapLinks`).
-/

namespace DocMarkdown

namespace Node

variable {f : Link → Link}

mutual

/-- **The tree with its links changed**, wherever they stand. -/
def mapLinks (f : Link → Link) : Node → Node
  | link l => link (f l)
  | paragraph nodes => paragraph (mapLinksAll f nodes)
  | group nodes => group (mapLinksAll f nodes)
  | emphasis e nodes => emphasis e (mapLinksAll f nodes)
  | noteBox content => noteBox (mapLinks f content)
  | table none rows => table none (mapLinksAll f rows)
  | table (some header) rows => table (some (mapLinks f header)) (mapLinksAll f rows)
  | row cells => row (mapLinksAll f cells)
  | cell content => cell (mapLinks f content)
  | other name nodes => other name (mapLinksAll f nodes)
  | labelled kind node => labelled kind (mapLinks f node)
  | node => node

/-- The nodes with their links changed. -/
def mapLinksAll (f : Link → Link) : List Node → List Node
  | [] => []
  | node :: nodes => mapLinks f node :: mapLinksAll f nodes

end

lemma mapLinksAll_eq (f : Link → Link) (nodes : List Node) :
    mapLinksAll f nodes = nodes.map (mapLinks f) := by
  induction nodes with
  | nil => rfl
  | cons node nodes ih => rw [mapLinksAll, ih, List.map_cons]

lemma mapLinks_table (header : Option Node) (rows : List Node) :
    (table header rows).mapLinks f
      = table (header.map (mapLinks f)) (rows.map (mapLinks f)) := by
  cases header <;> simp [mapLinks, mapLinksAll_eq]

/-! ## What stays -/

@[simp] lemma kind_mapLinks (node : Node) : (node.mapLinks f).kind = node.kind := by
  cases node with
  | table header rows => cases header <;> rfl
  | _ => rfl

@[simp] lemma unlabelled_mapLinks (node : Node) :
    (node.mapLinks f).unlabelled = node.unlabelled.mapLinks f := by
  induction node using unlabelled.induct with
  | case1 kind node ih => simpa [mapLinks, unlabelled] using ih
  | case2 node notLabelled =>
    cases node with
    | labelled kind node => exact absurd rfl (notLabelled kind node)
    | table header rows => cases header <;> rfl
    | _ => rfl

@[simp] lemma children_mapLinks (node : Node) :
    (node.mapLinks f).children = node.children.map (mapLinks f) := by
  induction node using unlabelled.induct with
  | case1 kind node ih => simpa [mapLinks, children] using ih
  | case2 node notLabelled =>
    cases node with
    | labelled kind node => exact absurd rfl (notLabelled kind node)
    | table header rows => cases header <;> simp [mapLinks, mapLinksAll_eq, children]
    | _ => simp [mapLinks, mapLinksAll_eq, children]

mutual

/-- A tree whose links are changed into themselves is the tree. -/
theorem mapLinks_id (node : Node) : node.mapLinks id = node := by
  cases node with
  | paragraph nodes | group nodes | emphasis _ nodes | row nodes | other _ nodes =>
    rw [mapLinks, mapLinksAll_id nodes]
  | noteBox node | cell node | labelled _ node => rw [mapLinks, mapLinks_id node]
  | table header rows =>
    cases header with
    | none => rw [mapLinks, mapLinksAll_id rows]
    | some header => rw [mapLinks, mapLinks_id header, mapLinksAll_id rows]
  | _ => rfl

theorem mapLinksAll_id : ∀ nodes : List Node, mapLinksAll id nodes = nodes
  | [] => rfl
  | node :: nodes => by rw [mapLinksAll, mapLinks_id node, mapLinksAll_id nodes]

end

/-- Only emphasis becomes emphasis. -/
lemma exists_of_mapLinks_eq_emphasis {node : Node} {e : Emphasis} {nodes : List Node}
    (isEmphasis : node.mapLinks f = emphasis e nodes) : ∃ nodes', node = emphasis e nodes' := by
  cases node with
  | emphasis e' nodes' =>
    obtain ⟨rfl, -⟩ := emphasis.inj isEmphasis
    exact ⟨nodes', rfl⟩
  | table header rows => cases header <;> exact Node.noConfusion isEmphasis
  | _ => exact Node.noConfusion isEmphasis

/-- Only tables become tables. -/
lemma exists_of_mapLinks_eq_table {node : Node} {header : Option Node} {rows : List Node}
    (isTable : node.mapLinks f = table header rows) :
    ∃ header' rows', node = table header' rows' := by
  cases node with
  | table header' rows' => exact ⟨header', rows', rfl⟩
  | _ => exact Node.noConfusion isTable

/-! ## Paragraphs -/

/-- Texts have no links, so they are found where they were. -/
@[simp] lemma plain?_mapLinks (node : Node) : (node.mapLinks f).plain? = node.plain? := by
  unfold plain?
  rw [unlabelled_mapLinks]
  cases node.unlabelled with
  | table header rows => cases header <;> rfl
  | _ => rfl

@[simp] lemma isBlank_mapLinks (node : Node) : (node.mapLinks f).isBlank = node.isBlank := by
  unfold isBlank
  rw [unlabelled_mapLinks]
  cases node.unlabelled with
  | table header rows => cases header <;> rfl
  | _ => rfl

/-- Links may be changed before or after a paragraph is trimmed. -/
theorem trimmed_map_mapLinks (nodes : List Node) :
    trimmed (nodes.map (mapLinks f)) = (trimmed nodes).map (mapLinks f) := by
  refine trimEnds_map isBlank_mapLinks ?_ ?_ nodes
  · intro node
    unfold stripStart
    rw [plain?_mapLinks]
    cases node.plain? <;> rfl
  · intro node
    unfold stripEnd
    rw [plain?_mapLinks]
    cases node.plain? <;> rfl

end Node

end DocMarkdown
