import DocMarkdown.Node.Basic

/-!
# Trimming the ends of a paragraph

Soft breaks and blank texts at either end of a paragraph are dropped; then, if the paragraph begins
with plain text, that text loses its leading blanks, and if it ends with plain text, that text
loses its trailing blanks.  Nothing between the ends changes.

The operation on lists, `trimEnds`, is stated for any type of items, with what counts as blank and
how an item is stripped as parameters; `trimEnds_map` says that it may be done before or after a
map that respects both.
-/

namespace DocMarkdown

/-! ## Lists -/

section Lists

variable {α β : Type}

/-- The list without the blank items at either end. -/
def dropEnds (blank : α → Bool) (items : List α) : List α :=
  ((items.dropWhile blank).reverse.dropWhile blank).reverse

/-- The list with its last item changed. -/
def modifyLast (f : α → α) (items : List α) : List α := (items.reverse.modifyHead f).reverse

/-- **Trimming.**  Drops the blank items at either end, then strips the first item at its start
and the last one, which may be the same, at its end. -/
def trimEnds (blank : α → Bool) (stripStart stripEnd : α → α) (items : List α) : List α :=
  modifyLast stripEnd ((dropEnds blank items).modifyHead stripStart)

theorem modifyHead_map {f : α → β} {g : α → α} {h : β → β} (commutes : ∀ a, h (f a) = f (g a))
    (items : List α) : (items.map f).modifyHead h = (items.modifyHead g).map f := by
  cases items <;> simp [commutes]

/-- Trimming may be done before or after a map that keeps what is blank and how an item is
stripped. -/
theorem trimEnds_map {f : α → β} {blank : α → Bool} {blank' : β → Bool}
    {stripStart stripEnd : α → α} {stripStart' stripEnd' : β → β}
    (isBlank : ∀ a, blank' (f a) = blank a) (atStart : ∀ a, stripStart' (f a) = f (stripStart a))
    (atEnd : ∀ a, stripEnd' (f a) = f (stripEnd a)) (items : List α) :
    trimEnds blank' stripStart' stripEnd' (items.map f)
      = (trimEnds blank stripStart stripEnd items).map f := by
  have comp : blank' ∘ f = blank := funext isBlank
  have dropped : dropEnds blank' (items.map f) = (dropEnds blank items).map f := by
    simp [dropEnds, List.dropWhile_map, comp, ← List.map_reverse]
  rw [trimEnds, dropped, modifyHead_map atStart, modifyLast, ← List.map_reverse,
    modifyHead_map atEnd, ← List.map_reverse]
  rfl

end Lists

/-! ## Paragraphs -/

namespace Node

/-- Whether a node is blank at the end of a paragraph. -/
def isBlank (node : Node) : Bool :=
  match node.unlabelled with
  | softBreak => true
  | plainText text => text.allBlank
  | _ => false

/-- The text of a plain text, whatever its label; no other node has one. -/
def plain? (node : Node) : Option Text :=
  match node.unlabelled with
  | plainText text => some text
  | _ => none

/-- Plain text without its leading blanks, and without a label; any other node as it is. -/
def stripStart (node : Node) : Node :=
  match node.plain? with
  | some text => plainText text.trimStart
  | none => node

/-- Plain text without its trailing blanks, and without a label; any other node as it is. -/
def stripEnd (node : Node) : Node :=
  match node.plain? with
  | some text => plainText text.trimEnd
  | none => node

/-- **Trimmed nodes.** The nodes of a paragraph with its ends trimmed. -/
def trimmed (nodes : List Node) : List Node := trimEnds isBlank stripStart stripEnd nodes

/-- Soft breaks go, and the text that is left at an end is stripped. -/
example : trimmed [softBreak, plainText " a".toList, softBreak, plainText "b ".toList]
    = [plainText "a".toList, softBreak, plainText "b".toList] := by rfl

end Node

end DocMarkdown
