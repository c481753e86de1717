import DocMarkdown.Node.Fold

/-!
# Equality of nodes

Two nodes are built alike if they are of one constructor with the same parts, labels included.
`Node.same` decides this (`Node.same_iff`).

## Extensions

A node with a label and a node of a kind known by name only are *extensions*.  Whoever adds one
says nothing on when two of them are equal, so an extension is equal to no node that was built apart
from it.  `Node.equal` compares two trees that were built apart.  It is a partial equivalence, and
exactly the trees without extensions are equal to their copies (`Node.equal_self_iff`).
-/

namespace DocMarkdown

namespace Node

/-! ## Nodes built alike -/

mutual

/-- Whether two nodes are built alike. -/
def same : Node → Node → Bool
  | plainText s, plainText t => s == t
  | escapedText s e, escapedText t f => s == t && e == f
  | errorText s d, errorText t e => s == t && d == e
  | softBreak, softBreak => true
  | startTag s, startTag t => s == t
  | endTag s, endTag t => s == t
  | codeSpan s, codeSpan t => s == t
  | fencedCode s l, fencedCode t m => s == t && l == m
  | link s, link t => s == t
  | paragraph ns, paragraph ms => sameAll ns ms
  | group ns, group ms => sameAll ns ms
  | emphasis s ns, emphasis t ms => s == t && sameAll ns ms
  | heading s l, heading t m => s == t && l == m
  | noteBox n, noteBox m => same n m
  | table header ns, table header' ms => sameOption header header' && sameAll ns ms
  | row ns, row ms => sameAll ns ms
  | cell n, cell m => same n m
  | other s ns, other t ms => s == t && sameAll ns ms
  | labelled k n, labelled l m => k == l && same n m
  | _, _ => false

/-- Whether two nodes that may be absent are built alike. -/
def sameOption : Option Node → Option Node → Bool
  | none, none => true
  | some n, some m => same n m
  | _, _ => false

/-- Whether two lists of nodes are built alike. -/
def sameAll : List Node → List Node → Bool
  | [], [] => true
  | n :: ns, m :: ms => same n m && sameAll ns ms
  | _, _ => false

end

mutual

theorem eq_of_same (n m : Node) (h : same n m = true) : n = m := by
  cases n <;> cases m <;> simp only [same, Bool.false_eq_true, Bool.and_eq_true, beq_iff_eq] at h
  case paragraph ns ms | group ns ms | row ns ms => rw [eq_of_sameAll ns ms h]
  case noteBox n m | cell n m => rw [eq_of_same n m h]
  case emphasis s ns t ms | other s ns t ms => rw [h.1, eq_of_sameAll ns ms h.2]
  case table header ns header' ms =>
    rw [eq_of_sameOption header header' h.1, eq_of_sameAll ns ms h.2]
  case labelled k n l m => rw [h.1, eq_of_same n m h.2]
  all_goals simp_all

theorem eq_of_sameOption : ∀ (n m : Option Node), sameOption n m = true → n = m
  | none, none, _ => rfl
  | none, some _, h => by simp [sameOption] at h
  | some _, none, h => by simp [sameOption] at h
  | some n, some m, h => by rw [eq_of_same n m (by simpa [sameOption] using h)]

theorem eq_of_sameAll : ∀ (ns ms : List Node), sameAll ns ms = true → ns = ms
  | [], [], _ => rfl
  | [], _ :: _, h => by simp [sameAll] at h
  | _ :: _, [], h => by simp [sameAll] at h
  | n :: ns, m :: ms, h => by
    simp only [sameAll, Bool.and_eq_true] at h
    rw [eq_of_same n m h.1, eq_of_sameAll ns ms h.2]

end

mutual

theorem same_self (n : Node) : same n n = true := by
  cases n <;> simp only [same, Bool.and_eq_true, beq_self_eq_true, true_and]
  case paragraph ns | group ns | row ns | emphasis _ ns | other _ ns => exact sameAll_self ns
  case noteBox n | cell n | labelled _ n => exact same_self n
  case table header ns => exact ⟨sameOption_self header, sameAll_self ns⟩

theorem sameOption_self : ∀ (n : Option Node), sameOption n n = true
  | none => rfl
  | some n => by rw [sameOption, same_self n]

theorem sameAll_self : ∀ (ns : List Node), sameAll ns ns = true
  | [] => rfl
  | n :: ns => by rw [sameAll, same_self n, sameAll_self ns]; rfl

end

/-- Nodes that are built alike are the same value. -/
theorem same_iff {n m : Node} : same n m = true ↔ n = m :=
  ⟨eq_of_same n m, fun h => h ▸ same_self n⟩

instance : DecidableEq Node := fun _ _ => decidable_of_iff _ same_iff

/-! ## Extensions -/

/-- Whether a node is an extension: a node with a label, or one of a kind known by name only. -/
def isExtension : Node → Bool
  | other .. | labelled .. => true
  | _ => false

/-- Whether a tree has no extensions. -/
def isStandard (node : Node) : Bool :=
  node.fold fun n children => !n.isExtension && children.all id

/-- A tree has no extensions if its root is none and its children have none. -/
theorem isStandard_eq (node : Node) :
    node.isStandard = (!node.isExtension && node.children.all isStandard) := by
  rw [isStandard, fold_eq, List.all_map]
  rfl

/-! ## Equality -/

/-- **Equality.** Whether two trees that were built apart are equal: they are built alike, and there
are no extensions in them. -/
def equal (n m : Node) : Bool := n.isStandard && n == m

theorem equal_iff {n m : Node} : equal n m = true ↔ n.isStandard = true ∧ n = m := by
  simp [equal]

/-- A tree is equal to a copy of it exactly if it has no extensions. -/
theorem equal_self_iff {n : Node} : equal n n = true ↔ n.isStandard = true := by
  simp [equal_iff]

theorem equal_symm {n m : Node} (h : equal n m = true) : equal m n = true := by
  obtain ⟨standard, rfl⟩ := equal_iff.1 h
  exact equal_self_iff.2 standard

theorem equal_trans {n m k : Node} (h : equal n m = true) (h' : equal m k = true) :
    equal n k = true := by
  obtain ⟨_, rfl⟩ := equal_iff.1 h
  exact h'

end Node

end DocMarkdown
