import DocMarkdown.Proofs.Text.Token
import Mathlib.Data.List.Infix

/-!
# Bare runs of hyphens

Three hyphens in a row can become a rule across the page, or make a heading of the line above, if no
backslash stands before them.  A reader takes a text to pieces from the left: a backslash with the
character behind it, an entity, a mark, and any other character by itself (`Text.pieces`).  A text
has a *bare run* if three of its pieces in a row are hyphens (`Text.HasBareRun`).

Escaping leaves no bare run (`Text.not_hasBareRun_escape`).  But carriage returns are dropped when a
text has been escaped, and hyphens that they kept apart come together then.  A text is *ruled* if
this makes a bare run of them (`Text.Ruled`), which takes a hyphen with a carriage return behind it
(`Text.not_ruled_of_apart`).
-/

namespace DocMarkdown

/-! ## Lists -/

/-- Where two lists are put together, no run of an item comes up unless the item stands on both
sides. -/
lemma replicate_infix_append_iff {α : Type} {n : Nat} {x : α} {first second : List α}
    (apart : ¬ (first.getLast? = some x ∧ second.head? = some x)) :
    List.replicate n x <:+: first ++ second
      ↔ List.replicate n x <:+: first ∨ List.replicate n x <:+: second := by
  constructor
  · intro run
    rcases List.infix_append_iff_ne_nil.1 run with
      inFirst | inSecond | ⟨left, right, nonempty, nonempty', cut, atEnd, atStart⟩
    · exact .inl inFirst
    · exact .inr inSecond
    · -- A run across the border has the item last on the left and first on the right.
      have isItem : ∀ y ∈ left ++ right, y = x := by
        intro y member
        rw [← cut] at member
        exact List.eq_of_mem_replicate member
      have last : left.getLast nonempty = x :=
        isItem _ (List.mem_append_left right (List.getLast_mem nonempty))
      have head : right.head nonempty' = x :=
        isItem _ (List.mem_append_right left (List.head_mem nonempty'))
      obtain ⟨before, rfl⟩ := atEnd
      obtain ⟨after, rfl⟩ := atStart
      refine absurd ⟨?_, ?_⟩ apart
      · rw [List.getLast?_append, List.getLast?_eq_some_getLast nonempty, last]
        rfl
      · rw [List.head?_append, List.head?_eq_some_head nonempty', head]
        rfl
  · rintro (inFirst | inSecond)
    · exact List.infix_append_of_infix_left inFirst
    · exact List.infix_append_of_infix_right inSecond

namespace Text

/-! ## Pieces -/

/-- The spellings of several characters that are read as one piece. -/
def units : List Text :=
  Mark.all.map Mark.text ++ [Entity.ampersand, .less, .greater].map Entity.text

/-- The length of the piece that a text begins with. -/
def pieceLength (t : Text) : Nat :=
  if t.head? = some '\\' then 2 else ((units.find? (·.isPrefixOf t)).map List.length).getD 1

/-- The pieces of a text, `skip` characters of which belong to the piece before. -/
def piecesFrom : Nat → Text → List Text
  | _, [] => []
  | skip + 1, _ :: rest => piecesFrom skip rest
  | 0, c :: rest =>
    let length := pieceLength (c :: rest)
    (c :: rest).take length :: piecesFrom (length - 1) rest

/-- **The pieces of a text**, read from left to right: a backslash takes the character behind it
with it, entities and marks are read as a whole, and any other character by itself. -/
def pieces (t : Text) : List Text := piecesFrom 0 t

/-- A bracket that begins no mark is read by itself. -/
example : pieces "-\\-&lt;<b><i".toList
    = ["-".toList, "\\-".toList, "&lt;".toList, "<b>".toList, "<".toList, "i".toList] := by decide

lemma piecesFrom_length_append (s t : Text) : piecesFrom s.length (s ++ t) = pieces t := by
  induction s with
  | nil => rfl
  | cons c rest ih => exact ih

/-- What stands in a piece stands in the text. -/
lemma mem_of_mem_piecesFrom {c : Char} {piece : Text} (inPiece : c ∈ piece) {skip : Nat} {t : Text}
    (member : piece ∈ piecesFrom skip t) : c ∈ t := by
  induction t generalizing skip with
  | nil => exact absurd member (by cases skip <;> exact List.not_mem_nil)
  | cons d rest ih =>
    cases skip with
    | succ skip => exact List.mem_cons_of_mem d (ih member)
    | zero =>
      rcases List.mem_cons.1 member with rfl | later
      · exact List.mem_of_mem_take inPiece
      · exact List.mem_cons_of_mem d (ih later)

/-- A piece of a single character at the beginning is the first character. -/
lemma head?_of_head?_pieces {t : Text} {c : Char} (first : t.pieces.head? = some [c]) :
    t.head? = some c := by
  cases t with
  | nil => exact absurd first (by simp [pieces, piecesFrom])
  | cons d rest =>
    have taken : (d :: rest).take (pieceLength (d :: rest)) = [c] := Option.some.inj first
    cases length : pieceLength (d :: rest) with
    | zero => simp [length] at taken
    | succ n =>
      rw [length, List.take_succ_cons] at taken
      rw [List.head?_cons, (List.cons.inj taken).1]

lemma pieceLength_cons_of_ordinary {c : Char} (ordinary : c ∉ ['\\', '&', '<']) (rest : Text) :
    pieceLength (c :: rest) = 1 := by
  obtain ⟨notBackslash, notAmpersand, notLess⟩ : c ≠ '\\' ∧ c ≠ '&' ∧ c ≠ '<' := by
    simpa using ordinary
  have starts : ∀ u ∈ units, u.head? = some '<' ∨ u.head? = some '&' := by decide
  have noUnit : units.find? (·.isPrefixOf (c :: rest)) = none := by
    refine List.find?_eq_none.2 fun u member isPrefix => ?_
    obtain ⟨after, whole⟩ := List.isPrefixOf_iff_prefix.1 isPrefix
    rcases starts u member with isLess | isAmpersand
    · obtain ⟨tail, rfl⟩ := List.head?_eq_some_iff.1 isLess
      exact notLess (List.cons.inj whole).1.symm
    · obtain ⟨tail, rfl⟩ := List.head?_eq_some_iff.1 isAmpersand
      exact notAmpersand (List.cons.inj whole).1.symm
  simp [pieceLength, notBackslash, noUnit]

/-- A token is read as one piece, whatever comes after it. -/
lemma pieceLength_text_append (token : Token) (rest : Text) :
    pieceLength (token.text ++ rest) = token.text.length := by
  cases token with
  | plain c ordinary => exact pieceLength_cons_of_ordinary ordinary rest
  | escaped c special => rfl
  | entity e => cases e <;> rfl
  | mark m => rcases m with ⟨_ | _ | _⟩ | ⟨_ | _ | _⟩ | _ <;> rfl

lemma pieces_text_append (token : Token) (rest : Text) :
    pieces (token.text ++ rest) = token.text :: pieces rest := by
  have length := pieceLength_text_append token rest
  obtain ⟨first, tail, isCons, -⟩ := token.exists_text_eq_cons
  rw [isCons] at length ⊢
  have cut : (first :: tail ++ rest).take (first :: tail).length = first :: tail :=
    List.take_left
  rw [pieces, List.cons_append, piecesFrom, ← List.cons_append, length, cut]
  exact congrArg _ (piecesFrom_length_append tail rest)

/-- The pieces of a spelling are its tokens, and what comes after it is read by itself. -/
lemma pieces_spell_append (tokens : List Token) (rest : Text) :
    pieces (Token.spell tokens ++ rest) = tokens.map Token.text ++ pieces rest := by
  induction tokens with
  | nil => rfl
  | cons token tokens ih =>
    rw [Token.spell_cons, List.append_assoc, pieces_text_append, ih, List.map_cons,
      List.cons_append]

/-- **The pieces of a spelling are its tokens.** -/
theorem pieces_spell (tokens : List Token) :
    pieces (Token.spell tokens) = tokens.map Token.text := by
  have alone := pieces_spell_append tokens []
  rwa [List.append_nil, show pieces [] = [] from rfl, List.append_nil] at alone

/-! ## Spelled texts -/

/-- Whether a text is spelled in tokens, so that none of its pieces goes on in what follows. -/
def Spelled (t : Text) : Prop := ∃ tokens, Token.spell tokens = t

namespace Spelled

variable {s t : Text}

lemma of_ordinary (ordinary : t.Ordinary) : Spelled t := by
  obtain ⟨tokens, spelled, -, -⟩ := Token.exists_spell_eq ordinary
  exact ⟨tokens, spelled⟩

lemma append (first : Spelled s) (second : Spelled t) : Spelled (s ++ t) := by
  obtain ⟨tokens, rfl⟩ := first
  obtain ⟨more, rfl⟩ := second
  exact ⟨tokens ++ more, Token.spell_append tokens more⟩

lemma dropReturns_escape (t : Text) : Spelled t.escape.dropReturns :=
  ⟨t.tokens.filter (!·.isReturn), by rw [← spell_tokens, Token.dropReturns_spell]⟩

lemma mark (m : Mark) : Spelled m.text := ⟨[.mark m], List.append_nil _⟩

/-- A spelled text is read by itself, whatever comes after it. -/
lemma pieces_append (spelled : Spelled s) (t : Text) : pieces (s ++ t) = pieces s ++ pieces t := by
  obtain ⟨tokens, rfl⟩ := spelled
  rw [pieces_spell_append, pieces_spell]

lemma getLast?_of_getLast?_pieces (spelled : Spelled t) {c : Char}
    (last : t.pieces.getLast? = some [c]) : t.getLast? = some c := by
  obtain ⟨tokens, rfl⟩ := spelled
  rcases tokens.eq_nil_or_concat' with rfl | ⟨front, token, rfl⟩
  · exact absurd last (by simp [pieces, piecesFrom])
  · have isToken : token.text = [c] := by
      rw [pieces_spell, List.map_append, List.map_singleton, List.getLast?_concat] at last
      exact Option.some.inj last
    simp [isToken]

end Spelled

/-- That a text is spelled can be told from its parts, and everything generated is spelled. -/
lemma composable_spelled : Composable Spelled where
  nil := ⟨[], rfl⟩
  append := .append
  space := .of_ordinary (by decide)
  mark := .mark

/-! ## Bare runs -/

/-- **Bare run.** Three hyphens in a row, each a piece by itself. -/
def HasBareRun (t : Text) : Prop := List.replicate 3 ['-'] <:+: t.pieces

instance (t : Text) : Decidable t.HasBareRun := inferInstanceAs (Decidable (_ <:+: _))

/-- The hyphens of a separator are no pieces, and neither are those behind a backslash. -/
example : ¬ HasBareRun "--<!-- -->-\\---".toList ∧ HasBareRun "\\----".toList := by decide

/-- Where two texts are put together, no bare run comes up unless hyphens stand on both sides. -/
lemma hasBareRun_append {s t : Text} (spelled : s.Spelled)
    (apart : ¬ (s.getLast? = some '-' ∧ t.head? = some '-')) :
    HasBareRun (s ++ t) ↔ HasBareRun s ∨ HasBareRun t := by
  have apartPieces : ¬ (s.pieces.getLast? = some ['-'] ∧ t.pieces.head? = some ['-']) := by
    rintro ⟨last, first⟩
    exact apart ⟨spelled.getLast?_of_getLast?_pieces last, head?_of_head?_pieces first⟩
  rw [HasBareRun, spelled.pieces_append]
  exact replicate_infix_append_iff apartPieces

lemma not_hasBareRun_of_not_mem {t : Text} (noHyphen : '-' ∉ t) : ¬ HasBareRun t := by
  intro run
  have member : ['-'] ∈ t.pieces := run.subset List.mem_cons_self
  exact noHyphen (mem_of_mem_piecesFrom List.mem_cons_self member)

lemma hyphen_not_mem_of_blank {t : Text} (blank : ∀ c ∈ t, isBlank c = true) : '-' ∉ t :=
  fun member => absurd (blank '-' member) (by decide)

/-- **Quiet.** A text that makes no bare run, whatever spelled text it is written behind. -/
structure Quiet (t : Text) : Prop where
  spelled : t.Spelled
  head : t.head? ≠ some '-'
  noRun : ¬ t.HasBareRun

namespace Quiet

variable {s t : Text}

lemma of_blank (blank : ∀ c ∈ t, isBlank c = true) : Quiet t where
  spelled := .of_ordinary (ordinary_of_blank blank)
  head := fun first => hyphen_not_mem_of_blank blank (List.mem_of_mem_head? first)
  noRun := not_hasBareRun_of_not_mem (hyphen_not_mem_of_blank blank)

lemma mark (m : Mark) : Quiet m.text where
  spelled := .mark m
  head := by rcases m with ⟨_ | _ | _⟩ | ⟨_ | _ | _⟩ | _ <;> decide
  noRun := by rcases m with ⟨_ | _ | _⟩ | ⟨_ | _ | _⟩ | _ <;> decide

/-- A bare run behind which a quiet text is written was there before. -/
lemma hasBareRun_append_iff (spelled : s.Spelled) (quiet : Quiet t) :
    HasBareRun (s ++ t) ↔ HasBareRun s :=
  (hasBareRun_append spelled fun both => quiet.head both.2).trans (or_iff_left quiet.noRun)

lemma append (first : Quiet s) (second : Quiet t) : Quiet (s ++ t) where
  spelled := first.spelled.append second.spelled
  head := by
    cases s with
    | nil => exact second.head
    | cons c rest => exact first.head
  noRun := mt (second.hasBareRun_append_iff first.spelled).1 first.noRun

end Quiet

/-- That a text is quiet can be told from its parts, and everything generated is quiet. -/
lemma composable_quiet : Composable Quiet where
  nil := .of_blank (by simp)
  append := .append
  space := .of_blank (List.forall_mem_singleton.2 (by decide))
  mark := .mark

/-- Emphasis does not make bare runs. -/
lemma hasBareRun_emphasised_iff (style : Style) {t : Text} (spelled : t.Spelled) :
    HasBareRun (style.openTags ++ t ++ style.closeTags) ↔ HasBareRun t := by
  have ofMarks (marks : List Mark) : Quiet (marks.flatMap Mark.text) :=
    composable_quiet.flatMap fun m _ => .mark m
  have opening : Quiet style.openTags := style.openTags_eq ▸ ofMarks _
  have closing : Quiet style.closeTags := style.closeTags_eq ▸ ofMarks _
  have notHyphen : style.openTags.getLast? ≠ some '-' := by
    rcases style with ⟨_ | _, _ | _, _ | _⟩ <;> decide
  rw [closing.hasBareRun_append_iff (opening.spelled.append spelled),
    hasBareRun_append opening.spelled fun both => notHyphen both.1]
  exact or_iff_right opening.noRun

/-! ## Escaped text -/

lemma eq_hyphen_of_text_ofChar {c : Char} (isHyphen : (Token.ofChar c).text = ['-']) : c = '-' := by
  have member : '-' ∈ (Token.ofChar c).text := by simp [isHyphen]
  have shown := mem_meaning_of_mem_text (Token.mark?_ofChar c) (by decide) member
  rw [Token.meaning_ofChar] at shown
  exact (List.mem_singleton.1 shown).symm

/-- A hyphen that escaping leaves bare is the first character of the text. -/
lemma exists_of_map_tokens_eq {t : Text} {others : List Text}
    (begins : t.tokens.map Token.text = ['-'] :: others) :
    ∃ rest : Text, t = '-' :: rest ∧ rest.tokens.map Token.text = others := by
  fun_cases tokens t with
  | case1 => exact absurd begins (by simp [tokens])
  | case2 rest => exact absurd (List.cons.inj begins).1 (by decide)
  | case3 c rest notThree =>
    rw [tokens.eq_3 c rest notThree] at begins
    obtain ⟨isHyphen, later⟩ := List.cons.inj begins
    exact ⟨rest, by rw [eq_hyphen_of_text_ofChar isHyphen], later⟩

/-- **Escaping leaves no bare run.** -/
theorem not_hasBareRun_escape (t : Text) : ¬ HasBareRun t.escape := by
  rw [HasBareRun, ← spell_tokens, pieces_spell]
  induction t using tokens.induct with
  | case1 => decide
  | case2 rest ih =>
    intro run
    have notBare : Token.hyphen.text ≠ ['-'] := by decide
    simp only [tokens, List.map_cons, List.replicate, List.infix_cons_iff, List.cons_prefix_cons,
      notBare.symm, false_and, false_or] at run
    exact ih run
  | case3 c rest notThree ih =>
    rw [tokens.eq_3 c rest notThree, List.map_cons, List.infix_cons_iff]
    rintro (⟨later, atStart⟩ | inRest)
    · -- Three tokens that are bare hyphens would have been three hyphens of the text.
      obtain ⟨isHyphen, begins⟩ := List.cons.inj atStart
      obtain ⟨rest', rfl, begins'⟩ := exists_of_map_tokens_eq begins.symm
      obtain ⟨rest'', rfl, -⟩ := exists_of_map_tokens_eq begins'
      exact notThree rest'' (eq_hyphen_of_text_ofChar isHyphen.symm) rfl
    · exact ih inRest

/-! ## Carriage returns -/

lemma isReturn_ofChar_of_ne {c : Char} (isChar : c ≠ '\r') : (Token.ofChar c).isReturn = false := by
  have shown := Token.dropReturns_meaning (Token.ofChar c)
  rw [Token.meaning_ofChar, dropReturns_cons_of_ne isChar] at shown
  cases isReturn : (Token.ofChar c).isReturn with
  | false => rfl
  | true => simp [isReturn] at shown

/-- A text that begins with a hyphen without its carriage returns begins with one anyway, if it is
not parted from a hyphen by them. -/
lemma exists_of_dropReturns_eq {rest rest' : Text} (apart : ¬ ['-', '\r'] <:+: '-' :: rest)
    (begins : rest.dropReturns = '-' :: rest') :
    ∃ later : Text, rest = '-' :: later ∧ later.dropReturns = rest' := by
  cases rest with
  | nil => exact absurd begins (by simp)
  | cons d later =>
    by_cases isReturn : d = '\r'
    · subst isReturn
      exact absurd (List.infix_append [] ['-', '\r'] later) apart
    · rw [dropReturns_cons_of_ne isReturn] at begins
      obtain ⟨rfl, tail⟩ := List.cons.inj begins
      exact ⟨later, rfl, tail⟩

/-- If no hyphen has a carriage return behind it, the same hyphens are read together with and
without carriage returns. -/
lemma tokens_dropReturns {t : Text} (apart : ¬ ['-', '\r'] <:+: t) :
    t.dropReturns.tokens = t.tokens.filter (!·.isReturn) := by
  induction t using tokens.induct with
  | case1 => rfl
  | case2 rest ih =>
    have later : ¬ ['-', '\r'] <:+: rest :=
      fun inRest => apart (inRest.trans (List.suffix_append ['-', '-', '-'] rest).isInfix)
    have kept : Token.hyphen.isReturn = false := by decide
    rw [tokens, dropReturns_cons_of_ne (by decide), dropReturns_cons_of_ne (by decide),
      dropReturns_cons_of_ne (by decide), tokens, ih later]
    simp [kept]
  | case3 c rest notThree ih =>
    have later : ¬ ['-', '\r'] <:+: rest := fun inRest => apart (List.infix_cons inRest)
    rw [tokens.eq_3 c rest notThree]
    by_cases isReturn : c = '\r'
    · subst isReturn
      rw [dropReturns_cons_return, ih later]
      rfl
    · have stillNotThree : ∀ rest',
          c = '-' → dropReturns rest = '-' :: '-' :: rest' → False := by
        rintro rest' rfl begins
        obtain ⟨one, rfl, begins'⟩ := exists_of_dropReturns_eq apart begins
        obtain ⟨two, rfl, -⟩ := exists_of_dropReturns_eq later begins'
        exact notThree two rfl rfl
      rw [dropReturns_cons_of_ne isReturn, tokens.eq_3 c _ stillNotThree, ih later]
      simp [isReturn_ofChar_of_ne isReturn]

/-- **Ruled.** Whether dropping the carriage returns of a text that was escaped leaves a bare
run. -/
def Ruled (t : Text) : Prop := HasBareRun t.escape.dropReturns

instance (t : Text) : Decidable t.Ruled := inferInstanceAs (Decidable (HasBareRun _))

/-- **A ruled text has a hyphen with a carriage return behind it.** -/
theorem not_ruled_of_apart {t : Text} (apart : ¬ ['-', '\r'] <:+: t) : ¬ Ruled t := by
  have before : t.escape.dropReturns = t.dropReturns.escape := by
    rw [← spell_tokens, ← spell_tokens, Token.dropReturns_spell, tokens_dropReturns apart]
  rw [Ruled, before]
  exact not_hasBareRun_escape _

/-- A single carriage return may be enough. -/
example : Ruled "-\r--".toList ∧ ¬ Ruled "---\r-".toList := by decide

/-! ## Outer blanks -/

lemma not_ruled_of_not_mem {t : Text} (noHyphen : '-' ∉ t) : ¬ Ruled t :=
  not_ruled_of_apart fun inText => noHyphen (inText.subset List.mem_cons_self)

/-- A text is ruled on one side or the other, if there are hyphens on one side only. -/
lemma ruled_append {s t : Text} (apart : '-' ∉ s ∨ '-' ∉ t) :
    Ruled (s ++ t) ↔ Ruled s ∨ Ruled t := by
  have apartBefore : ¬ (s.getLast? = some '-' ∧ t.head? = some '-') := by
    rintro ⟨last, first⟩
    exact apart.elim (· (List.mem_of_getLast? last)) (· (List.mem_of_mem_head? first))
  have absent {u : Text} (noHyphen : '-' ∉ u) : '-' ∉ u.escape.dropReturns :=
    fun member => not_mem_escape (by decide) noHyphen (List.mem_filter.1 member).1
  have apartAfter : ¬ (s.escape.dropReturns.getLast? = some '-'
      ∧ t.escape.dropReturns.head? = some '-') := by
    rintro ⟨last, first⟩
    exact apart.elim (absent · (List.mem_of_getLast? last))
      (absent · (List.mem_of_mem_head? first))
  rw [Ruled, escape_append_of_apart apartBefore, dropReturns_append]
  exact hasBareRun_append (.dropReturns_escape s) apartAfter

lemma ruled_trimStart (t : Text) : Ruled t.trimStart ↔ Ruled t := by
  have noHyphen : '-' ∉ t.takeWhile isBlank :=
    hyphen_not_mem_of_blank (List.all_eq_true.1 List.all_takeWhile)
  have cut : t.takeWhile isBlank ++ t.dropWhile isBlank = t := List.takeWhile_append_dropWhile
  conv_rhs => rw [← cut]
  rw [ruled_append (.inl noHyphen), trimStart]
  exact (or_iff_right (not_ruled_of_not_mem noHyphen)).symm

lemma ruled_trimEnd (t : Text) : Ruled t.trimEnd ↔ Ruled t := by
  have noHyphen : '-' ∉ (t.reverse.takeWhile isBlank).reverse :=
    hyphen_not_mem_of_blank fun c member =>
      List.all_eq_true.1 List.all_takeWhile c (List.mem_reverse.1 member)
  have cut : t.trimEnd ++ (t.reverse.takeWhile isBlank).reverse = t := by
    rw [trimEnd, ← List.reverse_append, List.takeWhile_append_dropWhile, List.reverse_reverse]
  conv_rhs => rw [← cut]
  rw [ruled_append (.inr noHyphen)]
  exact (or_iff_left (not_ruled_of_not_mem noHyphen)).symm

/-- The outer blanks of a text have no say in whether it is ruled. -/
lemma ruled_core (t : Text) : Ruled (surround t).core ↔ Ruled t :=
  (ruled_trimEnd t.trimStart).trans (ruled_trimStart t)

end Text

end DocMarkdown
