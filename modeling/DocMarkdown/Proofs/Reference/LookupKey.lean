import DocMarkdown.Resolver
import Mathlib.Data.List.Basic
import Mathlib.Data.List.Forall2

/-!
# The notation as a key

A `Resolver` looks pages up by the notation of the declaration that they document, so it tells two
references apart only if their notations differ.  Inside a package they do, for references whose
notation can be read back (`Reference.Legible`), unless they differ in nothing but leading slashes
of the path and in parts that are empty in one and absent in the other (`Reference.Alike`).

The notation is read back from the left.  Behind the package stands a slash if there is a path, and
the path ends at the first number sign (`Reference.tsdoc_eq`).  The members are cut at their full
stops, and a member begins with a parenthesis exactly if it has a selector, which begins behind the
first colon (`Member.tsdoc_eq_iff`).
-/

namespace DocMarkdown

/-! ## Members -/

namespace Member

/-- The characters that join members, and that set a selector off from its identifier. -/
def marks : List Char := ['.', '(', ')', ':']

/-- **Legible members.** The identifier is not empty, and there are no marks in it or in the
selector. -/
structure Legible (member : Member) : Prop where
  named : member.identifier ≠ []
  identifier : ∀ c ∈ member.identifier, c ∉ marks
  selector : ∀ c ∈ member.selector.getD [], c ∉ marks

lemma legible_iff {member : Member} : member.Legible ↔ member.identifier ≠ []
    ∧ member.identifier.all (· ∉ marks) = true
    ∧ (member.selector.getD []).all (· ∉ marks) = true := by
  simp only [List.all_eq_true, decide_eq_true_eq]
  exact ⟨fun ⟨named, identifier, selector⟩ => ⟨named, identifier, selector⟩,
    fun ⟨named, identifier, selector⟩ => ⟨named, identifier, selector⟩⟩

instance (member : Member) : Decidable member.Legible := decidable_of_iff' _ legible_iff

/-- **Members that are alike** differ at most in that one has an empty selector and the other
none. -/
structure Alike (m m' : Member) : Prop where
  identifier_eq : m.identifier = m'.identifier
  selector_eq : m.selector.getD [] = m'.selector.getD []

variable {m m' : Member}

lemma tsdoc_of_no_selector (none : m.selector.getD [] = []) : m.tsdoc = m.identifier := by
  unfold tsdoc
  rw [none]

lemma tsdoc_of_selector (some : m.selector.getD [] ≠ []) :
    m.tsdoc = '(' :: (m.identifier ++ ':' :: (m.selector.getD [] ++ [')'])) := by
  unfold tsdoc
  split
  next none => exact absurd none some
  next => simp

lemma Legible.parenthesis_not_mem (h : m.Legible) : '(' ∉ m.identifier :=
  fun member => h.identifier _ member (by decide)

lemma Legible.colon_not_mem (h : m.Legible) : ':' ∉ m.identifier :=
  fun member => h.identifier _ member (by decide)

lemma Legible.tsdoc_ne_nil (h : m.Legible) : m.tsdoc ≠ [] := by
  by_cases none : m.selector.getD [] = []
  · rw [tsdoc_of_no_selector none]
    exact h.named
  · rw [tsdoc_of_selector none]
    exact List.cons_ne_nil _ _

lemma Legible.stop_not_mem_tsdoc (h : m.Legible) : '.' ∉ m.tsdoc := by
  have inIdentifier : '.' ∉ m.identifier := fun member => h.identifier _ member (by decide)
  have inSelector : '.' ∉ m.selector.getD [] := fun member => h.selector _ member (by decide)
  by_cases none : m.selector.getD [] = []
  · rwa [tsdoc_of_no_selector none]
  · simp [tsdoc_of_selector none, inIdentifier, inSelector]

/-- A member without a selector is not written as one with a selector. -/
lemma Legible.tsdoc_ne (h : m.Legible) (none : m.selector.getD [] = [])
    (some : m'.selector.getD [] ≠ []) : m.tsdoc ≠ m'.tsdoc := by
  rw [tsdoc_of_no_selector none, tsdoc_of_selector some]
  intro same
  exact h.parenthesis_not_mem (same ▸ List.mem_cons_self)

/-- **Members are written alike exactly if they are alike.** -/
theorem tsdoc_eq_iff (h : m.Legible) (h' : m'.Legible) : m.tsdoc = m'.tsdoc ↔ m.Alike m' := by
  constructor
  · intro same
    by_cases none : m.selector.getD [] = [] <;> by_cases none' : m'.selector.getD [] = []
    · rw [tsdoc_of_no_selector none, tsdoc_of_no_selector none'] at same
      exact ⟨same, none.trans none'.symm⟩
    · exact absurd same (h.tsdoc_ne none none')
    · exact absurd same.symm (h'.tsdoc_ne none' none)
    · rw [tsdoc_of_selector none, tsdoc_of_selector none', List.cons_inj_right] at same
      -- The first colon ends the identifier: there is none in it, and none behind that one.
      have noColon : ':' ∉ m.selector.getD [] ++ [')'] := by
        simpa using fun member => h.selector _ member (by decide)
      obtain ⟨identifier, -, selector⟩ :=
        (List.append_cons_inj_of_notMem h.colon_not_mem noColon).1 same
      exact ⟨identifier, List.append_cancel_right selector⟩
  · rintro ⟨identifier, selector⟩
    unfold tsdoc
    rw [identifier, selector]

end Member

/-! ## Chains -/

namespace Member

variable {members members' : List Member}

/-- Nothing is written for a chain exactly if it has no members. -/
lemma intercalate_tsdoc_eq_nil_iff (legible : ∀ member ∈ members, member.Legible) :
    List.intercalate ['.'] (members.map tsdoc) = [] ↔ members = [] := by
  cases members with
  | nil => simp
  | cons member rest =>
    have written := (legible member List.mem_cons_self).tsdoc_ne_nil
    cases rest with
    | nil => simpa using written
    | cons => simp [List.intercalate_cons_cons, written]

/-- A chain is cut at its full stops. -/
lemma splitOn_intercalate_tsdoc (legible : ∀ member ∈ members, member.Legible)
    (nonempty : members ≠ []) :
    (List.intercalate ['.'] (members.map tsdoc)).splitOn '.' = members.map tsdoc := by
  refine List.splitOn_intercalate '.' ?_ (mt List.map_eq_nil_iff.1 nonempty)
  intro written member
  obtain ⟨m, inChain, rfl⟩ := List.mem_map.1 member
  exact (legible m inChain).stop_not_mem_tsdoc

lemma map_tsdoc_eq_iff (legible : ∀ member ∈ members, member.Legible)
    (legible' : ∀ member ∈ members', member.Legible) :
    members.map tsdoc = members'.map tsdoc ↔ List.Forall₂ Alike members members' := by
  induction members generalizing members' with
  | nil => cases members' <;> simp
  | cons m rest ih =>
    cases members' with
    | nil => simp
    | cons m' rest' =>
      obtain ⟨first, others⟩ := List.forall_mem_cons.1 legible
      obtain ⟨first', others'⟩ := List.forall_mem_cons.1 legible'
      rw [List.map_cons, List.map_cons, List.cons.injEq, tsdoc_eq_iff first first',
        ih others others', List.forall₂_cons]

/-- **Chains are written alike exactly if their members are alike**, one by one. -/
theorem intercalate_tsdoc_eq_iff (legible : ∀ member ∈ members, member.Legible)
    (legible' : ∀ member ∈ members', member.Legible) :
    List.intercalate ['.'] (members.map tsdoc) = List.intercalate ['.'] (members'.map tsdoc)
      ↔ List.Forall₂ Alike members members' := by
  rw [← map_tsdoc_eq_iff legible legible']
  refine ⟨fun same => ?_, fun same => by rw [same]⟩
  by_cases empty : members = []
  · have nothing : members' = [] := by
      rw [← intercalate_tsdoc_eq_nil_iff legible', ← same, intercalate_tsdoc_eq_nil_iff legible]
      exact empty
    rw [empty, nothing]
  · have nonempty : members' ≠ [] := by
      rw [Ne, ← intercalate_tsdoc_eq_nil_iff legible', ← same, intercalate_tsdoc_eq_nil_iff legible]
      exact empty
    rw [← splitOn_intercalate_tsdoc legible empty, same,
      splitOn_intercalate_tsdoc legible' nonempty]

end Member

/-! ## Paths -/

namespace Reference

/-- Whether two texts differ in slashes at the beginning only. -/
def DifferInSlashes (s t : Text) : Prop :=
  ∃ m n rest, s = List.replicate m '/' ++ rest ∧ t = List.replicate n '/' ++ rest

lemma differInSlashes_iff {s t : Text} :
    DifferInSlashes s t ↔ s.dropWhile (· == '/') = t.dropWhile (· == '/') := by
  constructor
  · rintro ⟨m, n, rest, rfl, rfl⟩
    have dropped : ∀ k, (List.replicate k '/' ++ rest).dropWhile (· == '/')
        = rest.dropWhile (· == '/') := by
      intro k
      refine List.dropWhile_append_of_pos fun c member => ?_
      simp [List.eq_of_mem_replicate member]
    rw [dropped, dropped]
  · intro same
    have slashes : ∀ u : Text, u = List.replicate (u.takeWhile (· == '/')).length '/'
        ++ u.dropWhile (· == '/') := by
      intro u
      have all : ∀ c ∈ u.takeWhile (· == '/'), c = '/' := by
        intro c member
        simpa using List.all_eq_true.1 List.all_takeWhile c member
      rw [← List.eq_replicate_of_mem all, List.takeWhile_append_dropWhile]
    exact ⟨_, _, _, slashes s, same ▸ slashes t⟩

/-- What stands between the package and the number sign: nothing if there is no path, and else a
slash and the path without the slashes that it begins with. -/
def pathPart (reference : Reference) : Text :=
  match reference.path.getD [] with
  | [] => []
  | path => '/' :: path.dropWhile (· == '/')

/-- The paths of two references are written alike exactly if both are there or neither, and they
differ in slashes at the beginning only. -/
lemma pathPart_eq_iff {r r' : Reference} : r.pathPart = r'.pathPart
    ↔ (r.path.getD [] = [] ↔ r'.path.getD [] = [])
      ∧ DifferInSlashes (r.path.getD []) (r'.path.getD []) := by
  rw [differInSlashes_iff]
  unfold pathPart
  cases r.path.getD [] <;> cases r'.path.getD [] <;> simp

/-! ## References -/

/-- **Legible references** in a package.  There is no number sign in the path, and the members are
legible. -/
structure Legible (package : Text) (reference : Reference) : Prop where
  package_eq : reference.package = some package
  path : '#' ∉ reference.path.getD []
  members : ∀ member ∈ reference.members, member.Legible

lemma legible_iff {package : Text} {reference : Reference} : reference.Legible package
    ↔ reference.package = some package ∧ '#' ∉ reference.path.getD []
      ∧ reference.members.all (·.Legible) = true := by
  simp only [List.all_eq_true, decide_eq_true_eq]
  exact ⟨fun ⟨package_eq, path, members⟩ => ⟨package_eq, path, members⟩,
    fun ⟨package_eq, path, members⟩ => ⟨package_eq, path, members⟩⟩

instance (package : Text) (reference : Reference) : Decidable (reference.Legible package) :=
  decidable_of_iff' _ legible_iff

/-- **References that are alike** differ at most in the slashes that a path begins with, in that one
has an empty path and the other none, and in selectors that are empty or absent.  A path of nothing
but slashes is like another such path, and not like an empty one. -/
structure Alike (r r' : Reference) : Prop where
  package_eq : r.package = r'.package
  path_iff : r.path.getD [] = [] ↔ r'.path.getD [] = []
  path : DifferInSlashes (r.path.getD []) (r'.path.getD [])
  members : List.Forall₂ Member.Alike r.members r'.members

section

variable {package : Text} {r r' : Reference}

lemma Legible.sign_not_mem_pathPart (h : r.Legible package) : '#' ∉ r.pathPart := by
  have free := h.path
  unfold pathPart
  split
  next => exact List.not_mem_nil
  next path =>
    simp only [List.mem_cons, not_or]
    exact ⟨by decide, fun member => free ((List.dropWhile_sublist _).subset member)⟩

/-- What is written for a reference in a package that has a name. -/
lemma Legible.tsdoc_eq (h : r.Legible package) (named : package ≠ []) :
    r.tsdoc = package ++ (r.pathPart ++ '#' :: r.chain) := by
  obtain ⟨c, rest, rfl⟩ := List.exists_cons_of_ne_nil named
  cases path : r.path.getD [] <;> simp [tsdoc, location, pathPart, h.package_eq, path]

/-- A text is cut at the first of the signs in it in one way. -/
lemma eq_of_append_sign_eq {s s' t t' : Text} (free : '#' ∉ s) (free' : '#' ∉ s')
    (same : s ++ '#' :: t = s' ++ '#' :: t') : s = s' ∧ t = t' := by
  have cut : ∀ u v : Text, '#' ∉ u → (u ++ '#' :: v).takeWhile (· ≠ '#') = u := by
    intro u v free
    have taken : ∀ c ∈ u, decide (c ≠ '#') = true :=
      fun c member => decide_eq_true (ne_of_mem_of_not_mem member free)
    rw [List.takeWhile_append_of_pos taken]
    simp
  have fronts : s = s' := by rw [← cut s t free, same, cut s' t' free']
  subst fronts
  exact ⟨rfl, List.tail_eq_of_cons_eq (List.append_cancel_left same)⟩

/-- **Legible references of a package are written alike exactly if they are alike.** -/
lemma tsdoc_eq_iff (named : package ≠ []) (h : r.Legible package) (h' : r'.Legible package) :
    r.tsdoc = r'.tsdoc ↔ r.Alike r' := by
  have chains : r.chain = r'.chain ↔ List.Forall₂ Member.Alike r.members r'.members :=
    Member.intercalate_tsdoc_eq_iff h.members h'.members
  rw [h.tsdoc_eq named, h'.tsdoc_eq named, List.append_cancel_left_eq]
  constructor
  · intro same
    obtain ⟨paths, members⟩ :=
      eq_of_append_sign_eq h.sign_not_mem_pathPart h'.sign_not_mem_pathPart same
    obtain ⟨path_iff, path⟩ := pathPart_eq_iff.1 paths
    exact ⟨h.package_eq.trans h'.package_eq.symm, path_iff, path, chains.1 members⟩
  · rintro ⟨-, path_iff, path, members⟩
    rw [pathPart_eq_iff.2 ⟨path_iff, path⟩, chains.2 members]

end

end Reference

/-! ## Looking up -/

/-- The resolver that also knows a page of a reference. -/
def Resolver.document (resolver : Resolver) (reference : Reference) (page : Target) : Resolver :=
  ⟨(reference.tsdoc, page) :: resolver.targets⟩

/-- **The notation is a key.**  In a package that has a name, two legible references are written
alike exactly if they are alike.  So a page that is known for one of them is found for the other if
they are alike; and if they are not, it makes no difference to what is found for the other. -/
theorem Reference.tsdoc_eq_iff_alike {package : Text} (named : package ≠ []) {r r' : Reference}
    (h : r.Legible package) (h' : r'.Legible package) :
    (r.tsdoc = r'.tsdoc ↔ r.Alike r')
      ∧ ∀ (resolver : Resolver) (page : Target),
        (r.Alike r' → (resolver.document r' page).resolve r = some page)
        ∧ (¬ r.Alike r' → (resolver.document r' page).resolve r = resolver.resolve r) := by
  have key : r.tsdoc = r'.tsdoc ↔ r.Alike r' := tsdoc_eq_iff named h h'
  refine ⟨key, fun resolver page => ⟨fun alike => ?_, fun different => ?_⟩⟩
  · simp [Resolver.resolve, Resolver.document, key.2 alike]
  · have otherKey : (r.tsdoc == r'.tsdoc) = false := by simpa using mt key.1 different
    simp [Resolver.resolve, Resolver.document, List.lookup_cons, otherKey]

/-- Two spellings of one reference, with number signs in the package and in an identifier, and two
references whose paths are all slashes and empty. -/
theorem Reference.tsdoc_eq_iff_alike_slashes :
    let package : Text := "@s/w#x".toList
    let render : Member := ⟨"render#".toList, some "instance".toList⟩
    let spelled : Reference := ⟨some package, some "//lib/a".toList, [⟨['B'], some []⟩, render]⟩
    let other : Reference := ⟨some package, some "lib/a".toList, [⟨['B'], none⟩, render]⟩
    let slashes : Reference := ⟨some package, some "//".toList, [render]⟩
    let bare : Reference := ⟨some package, some [], [render]⟩
    let page : Target := ⟨"b.md".toList, []⟩
    package ≠ [] ∧ spelled.Legible package ∧ other.Legible package
      ∧ spelled.tsdoc = "@s/w#x/lib/a#B.(render#:instance)".toList
      ∧ spelled.Alike other ∧ (Resolver.document ⟨[]⟩ other page).resolve spelled = some page
      ∧ slashes.Legible package ∧ bare.Legible package
      ∧ slashes.tsdoc = "@s/w#x/#(render#:instance)".toList
      ∧ ¬ slashes.Alike bare ∧ (Resolver.document ⟨[]⟩ bare page).resolve slashes = none := by
  intro package render spelled other slashes bare page
  have named : package ≠ [] := by decide
  have legible : spelled.Legible package ∧ other.Legible package := by decide
  have legible' : slashes.Legible package ∧ bare.Legible package := by decide
  obtain ⟨key, found⟩ := tsdoc_eq_iff_alike named legible.1 legible.2
  obtain ⟨key', notFound⟩ := tsdoc_eq_iff_alike named legible'.1 legible'.2
  have alike : spelled.Alike other := key.1 (by decide)
  have different : ¬ slashes.Alike bare := mt key'.2 (by decide)
  exact ⟨named, legible.1, legible.2, by decide, alike, (found ⟨[]⟩ page).1 alike, legible'.1,
    legible'.2, by decide, different, (notFound ⟨[]⟩ page).2 different⟩

end DocMarkdown
