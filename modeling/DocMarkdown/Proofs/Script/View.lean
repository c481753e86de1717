import DocMarkdown.Proofs.Script.Effect
import Mathlib.Data.List.Basic

/-!
# What a script sees of the text before it

Whether a line is ended, a separator is set or a soft break becomes a space depends on the last two
characters before it.  `Typing.SameView` says of two texts that all these questions have the same
answers; it lasts when both texts are continued alike.  So a script that finds two such texts puts
the same behind both (`Script.local_extend`), however long it is and whatever margin it writes.

A text whose last line is blank gives the same view as no text at all (`Typing.SameView.blankLine`).
-/

namespace DocMarkdown

namespace Typing

/-! ## Views -/

/-- **Same view.** Two texts that a script cannot tell apart: both are at the beginning of a line or
neither, both end in a dark character or neither, both end in one that a symbol could merge with or
neither, and the character before the last is alike as to whether it ends a line. -/
structure SameView (before before' : Text) : Prop where
  lineStart : atLineStart before = atLineStart before'
  dark : before.getLast?.any (!Text.isBlank ·) = before'.getLast?.any (!Text.isBlank ·)
  merging : before.getLast?.any (· ∉ Writer.safeCharacters)
    = before'.getLast?.any (· ∉ Writer.safeCharacters)
  openLine : (secondLast? before).any (· != '\n') = (secondLast? before').any (· != '\n')

namespace SameView

variable {before before' : Text}

lemma refl (before : Text) : SameView before before := ⟨rfl, rfl, rfl, rfl⟩

lemma atLineStart_append (view : SameView before before') (t : Text) :
    atLineStart (before ++ t) = atLineStart (before' ++ t) := by
  rcases t.eq_nil_or_concat' with rfl | ⟨front, c, rfl⟩
  · simpa using view.lineStart
  · rw [← List.append_assoc, ← List.append_assoc, atLineStart_append_singleton,
      atLineStart_append_singleton]

/-- The view stays the same when both texts are continued alike. -/
lemma append (view : SameView before before') (t : Text) :
    SameView (before ++ t) (before' ++ t) := by
  rcases t.eq_nil_or_concat' with rfl | ⟨front, c, rfl⟩
  · simpa using view
  · have last (text : Text) : (text ++ (front ++ [c])).getLast? = some c := by simp
    refine ⟨view.atLineStart_append _, ?_, ?_, ?_⟩
    · rw [last, last]
    · rw [last, last]
    · -- The last character of each text has become the one before the last, or lies further back.
      rw [← List.append_assoc, ← List.append_assoc, secondLast?_append_singleton,
        secondLast?_append_singleton, any_ne_lineFeed, any_ne_lineFeed,
        view.atLineStart_append front]

/-- **A blank line hides what is above it**: behind one more line feed at the beginning of a line,
or behind a single one, everything looks as if nothing was written. -/
lemma blankLine (lineStart : atLineStart before = true) : SameView (before ++ ['\n']) [] := by
  have last : (before ++ ['\n']).getLast? = some '\n' := by simp
  refine ⟨?_, ?_, ?_, ?_⟩
  · rw [atLineStart_append_singleton]
    rfl
  · rw [last]
    decide
  · rw [last]
    decide
  · rw [secondLast?_append_singleton, any_ne_lineFeed, lineStart]
    rfl

end SameView

/-! ## Continuing a text -/

/-- **Local.** A way to continue a text is local if it puts the same behind texts that give the same
view. -/
structure Local (f : Text → Text) : Prop where
  exists_added : ∀ {before before' : Text}, SameView before before' →
    ∃ added, f before = before ++ added ∧ f before' = before' ++ added

namespace Local

variable {f g : Text → Text} {margin : Text}

lemma stay : Local id where
  exists_added _ := ⟨[], (List.append_nil _).symm, (List.append_nil _).symm⟩

lemma next (first : Local f) (second : Local g) : Local (g ∘ f) where
  exists_added := by
    intro before before' view
    obtain ⟨added, left, right⟩ := first.exists_added view
    obtain ⟨more, left', right'⟩ := second.exists_added (view.append added)
    refine ⟨added ++ more, ?_, ?_⟩
    · rw [Function.comp_apply, left, left', List.append_assoc]
    · rw [Function.comp_apply, right, right', List.append_assoc]

/-- A choice is local if the view decides it. -/
lemma choice {p : Text → Bool} (seen : ∀ {before before'}, SameView before before' →
    p before = p before') (yes : Local f) (no : Local g) :
    Local fun before => if p before then f before else g before where
  exists_added := by
    intro before before' view
    have same := seen view
    cases chosen : p before with
    | true => simpa [chosen, ← same] using yes.exists_added view
    | false => simpa [chosen, ← same] using no.exists_added view

lemma put (margin : Text) (c : Char) : Local (put margin · c) where
  exists_added := by
    intro before before' view
    have grown (text : Text) :
        Typing.put margin text c = text ++ ((if atLineStart text then margin else []) ++ [c]) := by
      unfold Typing.put
      split <;> simp
    refine ⟨(if atLineStart before then margin else []) ++ [c], grown before, ?_⟩
    rw [view.lineStart]
    exact grown before'

lemma write (margin t : Text) : Local (write margin · t) := by
  induction t with
  | nil => exact stay
  | cons c rest ih =>
    by_cases isReturn : c = '\r'
    · subst isReturn
      exact ih
    · have step : (Typing.write margin · (c :: rest))
          = (Typing.write margin · rest) ∘ (Typing.put margin · c) := by
        funext written
        exact write_cons_of_ne isReturn rest
      rw [step]
      exact (put margin c).next ih

lemma freshLine (margin : Text) : Local (freshLine margin) :=
  choice SameView.lineStart stay (put margin '\n')

lemma blankLine (margin : Text) : Local (blankLine margin) :=
  (freshLine margin).next (choice SameView.openLine (put margin '\n') stay)

lemma softBreak (margin : Text) : Local (softBreak margin) :=
  choice SameView.dark (write margin [' ']) stay

lemma separate (margin : Text) : Local (separate margin) :=
  choice SameView.merging (write margin Writer.separator) stay

end Local

end Typing

/-! ## Scripts -/

mutual

/-- What a directive puts behind a text depends on the view of the text alone. -/
theorem Directive.local_extend (margin : Text) (directive : Directive) :
    Typing.Local (directive.extend margin) := by
  cases directive with
  | write t => exact .write margin t
  | endLine => exact .put margin '\n'
  | freshLine => exact .freshLine margin
  | blankLine => exact .blankLine margin
  | softBreak => exact .softBreak margin
  | separate => exact .separate margin
  | indented pre body => exact Script.local_extend (margin ++ pre) body
  | log entry => exact .stay
  | fail failure => exact .stay

/-- **Scripts are local.**  What a script puts behind a text, up to its first failure, depends on
the view of the text alone. -/
theorem Script.local_extend (margin : Text) (script : Script) :
    Typing.Local (script.extend margin) := by
  cases script with
  | nil => exact .stay
  | cons directive rest =>
    have now := Directive.local_extend margin directive
    have later := Script.local_extend margin rest
    cases failures : directive.failures with
    | nil =>
      have both : Script.extend margin (directive :: rest)
          = Script.extend margin rest ∘ directive.extend margin := by
        funext written
        exact Script.extend_cons failures rest
      rw [both]
      exact now.next later
    | cons failure others =>
      have only : Script.extend margin (directive :: rest) = directive.extend margin := by
        funext written
        simp [Script.extend, failures]
      rw [only]
      exact now

end

/-- Behind a text that looks like none a script puts what it writes where nothing was written. -/
lemma Script.extend_of_sameView_nil {before : Text} (view : Typing.SameView before [])
    (margin : Text) (script : Script) :
    script.extend margin before = before ++ script.extend margin [] := by
  obtain ⟨added, behind, alone⟩ := (Script.local_extend margin script).exists_added view
  rw [behind, alone, List.nil_append]

end DocMarkdown
