import DocMarkdown.Proofs.Text.Token

/-!
# Markup in a text

A reader of markup looks for the angle brackets and the ampersands of a text, wherever they come
from. A text is marked up soundly (`Text.MarkedUp`) if each angle bracket begins a mark, each
ampersand begins an entity, and the tags among the marks are balanced.  None of this mentions
tokens: marks are looked for at every place of the text (`Text.marks`).

Tokens are spelled so that nothing is found in a spelling but the tokens themselves, so
`Token.markedUp_spell` reduces the question to the tags among the tokens.
-/

namespace DocMarkdown

/-! ## Balanced tags -/

/-- **Balanced marks.** Every element that is opened is closed, with balanced marks in between, and
nothing else is closed.  Separators do not count. -/
inductive Mark.Balanced : List Mark → Prop where
  | nil : Balanced []
  | separator {rest : List Mark} (after : Balanced rest) : Balanced (.separator :: rest)
  | element (e : Element) {inside rest : List Mark} (within : Balanced inside)
      (after : Balanced rest) : Balanced (.opening e :: (inside ++ .closing e :: rest))

lemma Mark.Balanced.append {first second : List Mark} (h : Balanced first)
    (h' : Balanced second) : Balanced (first ++ second) := by
  induction h with
  | nil => exact h'
  | separator _ ih => exact .separator ih
  | element e within _ _ ih =>
    rw [List.cons_append, List.append_assoc, List.cons_append]
    exact .element e within ih

/-! ## Marks of a text -/

namespace Text

/-- The marks that begin anywhere in a text, in order. -/
def marks : Text → List Mark
  | [] => []
  | c :: rest => (Mark.all.find? (·.text.isPrefixOf (c :: rest))).toList ++ marks rest

/-- **Sound markup.** Nothing but marks and entities can be found in the text, and its tags are
balanced. -/
structure MarkedUp (t : Text) : Prop where
  brackets : ∀ before rest, t = before ++ '<' :: rest → ∃ m : Mark, m.text <+: '<' :: rest
  ampersands : ∀ before rest, t = before ++ '&' :: rest → ∃ e : Entity, e.text <+: '&' :: rest
  balanced : Mark.Balanced t.marks

lemma marks_cons_of_ne {c : Char} (notBracket : c ≠ '<') (rest : Text) :
    marks (c :: rest) = marks rest := by
  have noMark : Mark.all.find? (·.text.isPrefixOf (c :: rest)) = none := by
    refine List.find?_eq_none.2 fun m _ begins => ?_
    obtain ⟨tail, spelled, -⟩ := m.exists_text_eq
    rw [spelled] at begins
    have isBracket := (List.cons_prefix_cons.1 (List.isPrefixOf_iff_prefix.1 begins)).1
    exact notBracket isBracket.symm
  rw [marks, noMark]
  rfl

lemma marks_append_of_not_mem {s : Text} (noBracket : '<' ∉ s) (t : Text) :
    marks (s ++ t) = marks t := by
  induction s with
  | nil => rfl
  | cons c rest ih =>
    obtain ⟨notBracket, later⟩ : '<' ≠ c ∧ '<' ∉ rest := by simpa using noBracket
    rw [List.cons_append, marks_cons_of_ne (Ne.symm notBracket), ih later]

lemma marks_mark_append (m : Mark) (t : Text) :
    marks (m.text ++ t) = m :: marks (m.text.tail ++ t) := by
  rcases m with ⟨_ | _ | _⟩ | ⟨_ | _ | _⟩ | _ <;> rfl

end Text

/-! ## Spellings -/

namespace Token

/-- A character that begins a piece stands at the beginning of a token, wherever it stands in a
spelling. -/
lemma exists_of_spell_eq {c : Char} (begins : c = '<' ∨ c = '&') {tokens : List Token}
    {before rest : Text} (spelled : spell tokens = before ++ c :: rest) :
    ∃ (token : Token) (tail : Text) (after : List Token),
      token.text = c :: tail ∧ c :: rest = token.text ++ spell after := by
  induction tokens generalizing before with
  | nil => exact absurd spelled (by simp)
  | cons token after ih =>
    obtain ⟨first, tail, isCons, harmless⟩ := exists_text_eq_cons token
    cases before with
    | nil =>
      have whole : c :: rest = token.text ++ spell after := spelled.symm
      obtain ⟨rfl, -⟩ := List.cons.inj (isCons ▸ whole)
      exact ⟨token, tail, after, isCons, whole⟩
    | cons d before =>
      rw [spell_cons, isCons] at spelled
      -- What is left of this token has no such character, so it stands in what comes after it.
      have shorter : tail ++ spell after = before ++ c :: rest := (List.cons.inj spelled).2
      rcases List.append_eq_append_iff.1 shorter with ⟨more, -, later⟩ | ⟨more, inTail, later⟩
      · exact ih later
      · cases more with
        | nil =>
          have atStart : spell after = [] ++ c :: rest := later.symm
          exact ih atStart
        | cons d more =>
          obtain ⟨rfl, -⟩ := List.cons.inj later
          have member : c ∈ tail := by simp [inTail]
          have markup : c ∈ ['<', '&', '\n', '\r'] := by
            rcases begins with rfl | rfl <;> decide
          exact absurd markup (harmless c member)

/-- **The marks of a spelling are the marks among the tokens.** -/
theorem marks_spell (tokens : List Token) : (spell tokens).marks = tokens.filterMap mark? := by
  induction tokens with
  | nil => rfl
  | cons token after ih =>
    obtain ⟨first, tail, isCons, harmless⟩ := exists_text_eq_cons token
    have noBracket : '<' ∉ tail := by
      intro member
      exact harmless '<' member List.mem_cons_self
    have behind : Text.marks (tail ++ spell after) = after.filterMap mark? := by
      rw [Text.marks_append_of_not_mem noBracket, ih]
    by_cases isBracket : first = '<'
    · subst isBracket
      obtain ⟨m, rfl⟩ := exists_mark_of_text_eq isCons
      have tailEq : m.text.tail = tail := congrArg List.tail isCons
      rw [spell_cons, text, Text.marks_mark_append, tailEq, behind]
      rfl
    · have noMark : token.mark? = none := by
        cases token with
        | mark m =>
          obtain ⟨rest, begins, -⟩ := m.exists_text_eq
          exact absurd (List.cons.inj (isCons.symm.trans begins)).1 isBracket
        | _ => rfl
      rw [spell_cons, isCons, List.cons_append, Text.marks_cons_of_ne isBracket, behind,
        List.filterMap_cons, noMark]

/-- **A spelling is marked up soundly** if the tags among its tokens are balanced. -/
theorem markedUp_spell {tokens : List Token} (balanced : Mark.Balanced (tokens.filterMap mark?)) :
    (spell tokens).MarkedUp where
  brackets before rest spelled := by
    obtain ⟨token, tail, after, isCons, begins⟩ := exists_of_spell_eq (.inl rfl) spelled
    obtain ⟨m, rfl⟩ := exists_mark_of_text_eq isCons
    rw [begins]
    exact ⟨m, List.prefix_append ..⟩
  ampersands before rest spelled := by
    obtain ⟨token, tail, after, isCons, begins⟩ := exists_of_spell_eq (.inr rfl) spelled
    obtain ⟨e, rfl⟩ := exists_entity_of_text_eq isCons
    rw [begins]
    exact ⟨e, List.prefix_append ..⟩
  balanced := by rwa [marks_spell]

end Token

end DocMarkdown
