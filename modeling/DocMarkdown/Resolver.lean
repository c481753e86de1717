import DocMarkdown.Reference

/-!
# Resolving references

What finds the pages of declarations is a function from references to targets.  A `Resolver` is one
that is given by a table: it knows the pages of some declarations by their notation.
-/

namespace DocMarkdown

/-- **Target.** Where a declaration is documented, and the name to show for it. -/
structure Target where
  url : Text
  scopedName : Text
  deriving DecidableEq, Repr

/-- **Resolver.** Targets by the TSDoc notation of their declarations; of two targets for one
notation the first counts. -/
structure Resolver where
  targets : List (Text × Target)
  deriving DecidableEq, Repr

namespace Resolver

/-- The resolver that knows no declaration. -/
def empty : Resolver := ⟨[]⟩

/-- The target of a reference, if its notation is known. -/
def resolve (resolver : Resolver) (reference : Reference) : Option Target :=
  resolver.targets.lookup reference.tsdoc

/-- A resolver stands for the function that looks references up in its table. -/
instance : CoeFun Resolver fun _ => Reference → Option Target := ⟨resolve⟩

/-- What is so of all targets in the table is so of what a resolver finds. -/
theorem of_resolve_eq_some {resolver : Resolver} {P : Target → Prop}
    (all : ∀ known ∈ resolver.targets, P known.2) :
    ∀ reference target, resolver.resolve reference = some target → P target := by
  intro reference target found
  obtain ⟨before, after, split, -⟩ := List.lookup_eq_some_iff.1 found
  exact all (reference.tsdoc, target) (by simp [split])

end Resolver

end DocMarkdown
