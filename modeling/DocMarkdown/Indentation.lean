import DocMarkdown.Text.Blank

/-!
# Indentation

The prefixes that stand in front of every line of an indented stretch.  Stretches nest, so the
prefixes form a stack; what stands in front of a line is all of them, the outermost first.
`Indentation` keeps that text beside the stack, and its third field says that the two agree.
-/

namespace DocMarkdown

/-- **Indentation.** The prefixes in force, the one pushed last in front, together with the text
they make up, the one pushed first in front. -/
structure Indentation where
  stack : List Text
  text : Text
  text_eq : text = stack.reverse.flatten

namespace Indentation

/-- No indentation. -/
def none : Indentation := ⟨[], [], rfl⟩

/-- The indentation with one more prefix. -/
def push (indentation : Indentation) (pre : Text) : Indentation where
  stack := pre :: indentation.stack
  text := indentation.text ++ pre
  text_eq := by simp [indentation.text_eq]

/-- The indentation without the prefix pushed last, if there is one. -/
def pop? (indentation : Indentation) : Option Indentation :=
  match indentation.stack with
  | [] => .none
  | _ :: rest => some ⟨rest, rest.reverse.flatten, rfl⟩

/-- Indentations with the same prefixes are the same. -/
@[ext] theorem ext {a b : Indentation} (h : a.stack = b.stack) : a = b := by
  obtain ⟨s, t, ht⟩ := a
  obtain ⟨s', t', ht'⟩ := b
  obtain rfl : s = s' := h
  subst ht ht'
  rfl

/-- Popping takes back a push. -/
@[simp] theorem pop?_push (indentation : Indentation) (pre : Text) :
    (indentation.push pre).pop? = some indentation := by
  simp only [pop?, push, Option.some.injEq]
  exact ext rfl

/-- There is nothing to pop exactly when no prefix is in force. -/
theorem pop?_eq_none_iff (indentation : Indentation) :
    indentation.pop? = Option.none ↔ indentation.stack = [] := by
  unfold pop?
  split <;> simp_all

end Indentation

end DocMarkdown
