import DocMarkdown.Dialect
import DocMarkdown.Script
import DocMarkdown.Renderer.Basic
import Mathlib.Tactic.Lemma

/-!
# Tokens of running text

What is written for running text is a sequence of tokens: characters that stand for themselves,
characters behind a backslash, character entities, and the marks that a rendering generates itself,
which are tags and separators.  A `Token` cannot be built unless it is spelled in a way that no
other token is read into, so any sequence of tokens can be told from its spelling.

Escaping is spelling: `Text.tokens` reads a text into tokens in one pass, three hyphens at a time,
and `Text.spell_tokens` says that the four passes of `Text.escape` write these tokens down, and
`Text.meaning_tokens` that the tokens mean the text.
-/

namespace DocMarkdown

/-! ## Characters of markup -/

namespace Text

/-- Whether a text has none of some characters in it. -/
def Avoids (t : Text) (markup : List Char) : Prop := ∀ c ∈ t, c ∉ markup

/-- Only the characters of the text have to be tried, not all characters. -/
instance (t : Text) (markup : List Char) : Decidable (t.Avoids markup) :=
  decidable_of_iff (t.all (· ∉ markup) = true) (by simp [Avoids])

lemma Avoids.append {s t : Text} {markup : List Char} (h : s.Avoids markup) (h' : t.Avoids markup) :
    Avoids (s ++ t) markup := by
  intro c member
  rcases List.mem_append.1 member with inFirst | inSecond
  · exact h c inFirst
  · exact h' c inSecond

/-- Whether a text has no character in it that begins a piece of markup or an escape. -/
def Ordinary (t : Text) : Prop := t.Avoids ['\\', '&', '<']

instance (t : Text) : Decidable t.Ordinary := inferInstanceAs (Decidable (t.Avoids _))

lemma ordinary_of_blank {t : Text} (blank : ∀ c ∈ t, isBlank c = true) : t.Ordinary := by
  have dark : (['\\', '&', '<'].all (!isBlank ·)) = true := by decide
  intro c member markup
  have notBlank : isBlank c = false := by simpa using List.all_eq_true.1 dark c markup
  exact Bool.false_ne_true (notBlank.symm.trans (blank c member))

lemma special_of_mem {c : Char} (member : c ∈ '\\' :: markdownSymbols) :
    c ∈ '\\' :: '-' :: markdownSymbols := by
  rcases List.mem_cons.1 member with rfl | symbol
  · exact List.mem_cons_self
  · exact List.mem_cons_of_mem _ (List.mem_cons_of_mem _ symbol)

/-- The characters that get a backslash are neither markup nor line breaks. -/
lemma special_avoids : Avoids ('\\' :: '-' :: markdownSymbols) ['<', '&', '\n', '\r', '>'] := by
  decide

end Text

/-! ## Marks and entities -/

/-- **Element.** What a rendering puts between tags. -/
inductive Element where
  | paragraph
  | bold
  | italic
  deriving DecidableEq, Repr

/-- **Mark.** What a rendering generates beside text: the tags of elements and the separator. -/
inductive Mark where
  | opening (element : Element)
  | closing (element : Element)
  | separator
  deriving DecidableEq, Repr

namespace Mark

/-- The spelling of a mark. -/
def text : Mark → Text
  | opening .paragraph => "<p>".toList
  | opening .bold => "<b>".toList
  | opening .italic => "<i>".toList
  | closing .paragraph => "</p>".toList
  | closing .bold => "</b>".toList
  | closing .italic => "</i>".toList
  | separator => Writer.separator

/-- All marks. -/
def all : List Mark :=
  [opening .paragraph, opening .bold, opening .italic, closing .paragraph, closing .bold,
    closing .italic, separator]

end Mark

/-- **Entity.** The character entities that escaping uses. -/
inductive Entity where
  | ampersand
  | less
  | greater
  deriving DecidableEq, Repr

/-- The character that an entity stands for. -/
def Entity.char : Entity → Char
  | ampersand => '&'
  | less => '<'
  | greater => '>'

/-- The spelling of an entity. -/
def Entity.text : Entity → Text
  | ampersand => "&amp;".toList
  | less => "&lt;".toList
  | greater => "&gt;".toList

/-! ## Tokens -/

/-- **Token.** The pieces that escaped text and generated marks are made of.  A character that
begins a piece of another form is not one by itself, and a backslash goes before symbols only. -/
inductive Token where
  | plain (c : Char) (ordinary : c ∉ ['\\', '&', '<'])
  | escaped (c : Char) (special : c ∈ '\\' :: '-' :: Text.markdownSymbols)
  | entity (entity : Entity)
  | mark (mark : Mark)
  deriving DecidableEq

namespace Token

/-- The spelling of a token. -/
def text : Token → Text
  | plain c _ => [c]
  | escaped c _ => ['\\', c]
  | entity e => e.text
  | mark m => m.text

/-- What a token shows: a character, or nothing if it is a mark. -/
def meaning : Token → Text
  | plain c _ => [c]
  | escaped c _ => [c]
  | entity e => [e.char]
  | mark _ => []

/-- The mark that a token is. -/
def mark? : Token → Option Mark
  | mark m => some m
  | _ => none

/-- Whether a token is a carriage return. -/
def isReturn (token : Token) : Bool := token.text == ['\r']

/-- The token that a character is escaped as, where it stands by itself. -/
def ofChar (c : Char) : Token :=
  if special : c ∈ '\\' :: Text.markdownSymbols then
    .escaped c (Text.special_of_mem special)
  else if isAmpersand : c = '&' then .entity .ampersand
  else if isLess : c = '<' then .entity .less
  else if c = '>' then .entity .greater
  else .plain c (by simp_all)

/-- A hyphen behind a backslash. -/
def hyphen : Token := .escaped '-' (by decide)

end Token

/-- The spelling of tokens. -/
def Token.spell (tokens : List Token) : Text := tokens.flatMap Token.text

/-- What tokens show. -/
def Token.meanings (tokens : List Token) : Text := tokens.flatMap Token.meaning

/-- **The tokens of a text**, read in one pass: three hyphens in a row are escaped together, and any
other character by itself. -/
def Text.tokens : Text → List Token
  | [] => []
  | '-' :: '-' :: '-' :: rest => .hyphen :: .hyphen :: .hyphen :: Text.tokens rest
  | c :: rest => .ofChar c :: Text.tokens rest

namespace Token

@[simp] lemma spell_nil : spell [] = [] := rfl

@[simp] lemma spell_cons (token : Token) (tokens : List Token) :
    spell (token :: tokens) = token.text ++ spell tokens := rfl

@[simp] lemma spell_append (first second : List Token) :
    spell (first ++ second) = spell first ++ spell second :=
  List.flatMap_append

@[simp] lemma meanings_nil : meanings [] = [] := rfl

@[simp] lemma meanings_cons (token : Token) (tokens : List Token) :
    meanings (token :: tokens) = token.meaning ++ meanings tokens := rfl

@[simp] lemma meanings_append (first second : List Token) :
    meanings (first ++ second) = meanings first ++ meanings second :=
  List.flatMap_append

@[simp] lemma meaning_ofChar (c : Char) : (ofChar c).meaning = [c] := by
  unfold ofChar
  split
  · rfl
  split
  next isAmpersand => rw [isAmpersand]; rfl
  split
  next isLess => rw [isLess]; rfl
  split
  next isGreater => rw [isGreater]; rfl
  rfl

@[simp] lemma mark?_ofChar (c : Char) : (ofChar c).mark? = none := by
  unfold ofChar
  repeat' split
  all_goals rfl

end Token

/-! ## Spellings -/

lemma Mark.exists_text_eq (m : Mark) :
    ∃ tail : Text, m.text = '<' :: tail ∧ tail.Avoids ['<', '&', '\n', '\r'] := by
  rcases m with ⟨_ | _ | _⟩ | ⟨_ | _ | _⟩ | _ <;> exact ⟨_, rfl, by decide⟩

lemma Entity.exists_text_eq (e : Entity) :
    ∃ tail : Text, e.text = '&' :: tail ∧ tail.Avoids ['<', '&', '\n', '\r'] := by
  cases e <;> exact ⟨_, rfl, by decide⟩

namespace Token

/-- What begins a piece or breaks a line stands at the beginning of a spelling, if anywhere. -/
lemma exists_text_eq_cons (token : Token) :
    ∃ (first : Char) (tail : Text), token.text = first :: tail
      ∧ tail.Avoids ['<', '&', '\n', '\r'] := by
  cases token with
  | plain c ordinary => exact ⟨c, [], rfl, by decide⟩
  | escaped c special =>
    refine ⟨'\\', [c], rfl, List.forall_mem_singleton.2 fun markup => ?_⟩
    exact Text.special_avoids c special (List.mem_append_left ['>'] markup)
  | entity e => exact ⟨'&', e.exists_text_eq⟩
  | mark m => exact ⟨'<', m.exists_text_eq⟩

lemma exists_mark_of_text_eq {token : Token} {rest : Text} (spelled : token.text = '<' :: rest) :
    ∃ m, token = mark m := by
  cases token with
  | plain c ordinary =>
    obtain ⟨rfl, -⟩ := List.cons.inj spelled
    exact absurd ordinary (by decide)
  | escaped c special => exact absurd (List.cons.inj spelled).1 (by decide)
  | entity e =>
    obtain ⟨tail, isEntity, -⟩ := e.exists_text_eq
    exact absurd (List.cons.inj (isEntity.symm.trans spelled)).1 (by decide)
  | mark m => exact ⟨m, rfl⟩

lemma exists_entity_of_text_eq {token : Token} {rest : Text} (spelled : token.text = '&' :: rest) :
    ∃ e, token = entity e := by
  cases token with
  | plain c ordinary =>
    obtain ⟨rfl, -⟩ := List.cons.inj spelled
    exact absurd ordinary (by decide)
  | escaped c special => exact absurd (List.cons.inj spelled).1 (by decide)
  | entity e => exact ⟨e, rfl⟩
  | mark m =>
    obtain ⟨tail, isMark, -⟩ := m.exists_text_eq
    exact absurd (List.cons.inj (isMark.symm.trans spelled)).1 (by decide)

/-- A line break is a token by itself. -/
lemma text_eq_singleton {token : Token} {c : Char} (isBreak : c = '\n' ∨ c = '\r')
    (member : c ∈ token.text) : token.text = [c] := by
  obtain ⟨first, tail, isCons, harmless⟩ := exists_text_eq_cons token
  have markup : c ∈ ['<', '&', '\n', '\r'] := by
    rcases isBreak with rfl | rfl <;> decide
  have isFirst : c = first := by
    rw [isCons] at member
    rcases List.mem_cons.1 member with same | inTail
    · exact same
    · exact absurd markup (harmless c inTail)
  -- Only a plain token can begin with a line break, and it has one character.
  cases token with
  | plain d ordinary =>
    have same : d = first := (List.cons.inj isCons).1
    rw [isFirst, ← same]
    rfl
  | escaped d special =>
    have isBackslash : c = '\\' := isFirst.trans (List.cons.inj isCons).1.symm
    rcases isBreak with rfl | rfl <;> exact absurd isBackslash (by decide)
  | entity e =>
    obtain ⟨rest, isEntity, -⟩ := e.exists_text_eq
    have isAmpersand : c = '&' :=
      isFirst.trans (List.cons.inj (isCons.symm.trans isEntity)).1
    rcases isBreak with rfl | rfl <;> exact absurd isAmpersand (by decide)
  | mark m =>
    obtain ⟨rest, isMark, -⟩ := m.exists_text_eq
    have isBracket : c = '<' := isFirst.trans (List.cons.inj (isCons.symm.trans isMark)).1
    rcases isBreak with rfl | rfl <;> exact absurd isBracket (by decide)

lemma return_not_mem_text {token : Token} (isChar : token.isReturn = false) :
    '\r' ∉ token.text := by
  intro member
  have isReturn : token.isReturn = true := beq_iff_eq.2 (text_eq_singleton (.inr rfl) member)
  exact Bool.false_ne_true (isChar.symm.trans isReturn)

/-- A carriage return is dropped as a whole, and no other token loses anything. -/
lemma dropReturns_text (token : Token) :
    token.text.dropReturns = if token.isReturn then [] else token.text := by
  cases isChar : token.isReturn with
  | true =>
    rw [beq_iff_eq.1 isChar]
    rfl
  | false =>
    have noReturn := return_not_mem_text isChar
    refine List.filter_eq_self.2 fun c member => ?_
    have notReturn : c ≠ '\r' := by
      rintro rfl
      exact noReturn member
    simpa using notReturn

lemma dropReturns_spell (tokens : List Token) :
    (spell tokens).dropReturns = spell (tokens.filter (!·.isReturn)) := by
  induction tokens with
  | nil => rfl
  | cons token rest ih =>
    rw [spell_cons, Text.dropReturns_append, ih, dropReturns_text, List.filter_cons]
    cases token.isReturn <;> rfl

/-- What a carriage return shows is dropped, and no other token shows one. -/
lemma dropReturns_meaning (token : Token) :
    token.meaning.dropReturns = if token.isReturn then [] else token.meaning := by
  cases token with
  | plain c ordinary => exact dropReturns_text (plain c ordinary)
  | escaped c special =>
    have notReturn : c ≠ '\r' := by
      rintro rfl
      exact Text.special_avoids _ special (by decide)
    rw [meaning, Text.dropReturns_cons_of_ne notReturn]
    rfl
  | entity e => cases e <;> decide
  | mark m =>
    rw [meaning, ite_self]
    rfl

lemma meanings_filter_isReturn (tokens : List Token) :
    meanings (tokens.filter (!·.isReturn)) = (meanings tokens).dropReturns := by
  induction tokens with
  | nil => rfl
  | cons token rest ih =>
    rw [meanings_cons, Text.dropReturns_append, ← ih, dropReturns_meaning, List.filter_cons]
    cases token.isReturn <;> rfl

end Token

/-! ## Escaping is spelling -/

namespace Text

/-- The tokens of a text mean the text. -/
theorem meaning_tokens (t : Text) : Token.meanings t.tokens = t := by
  induction t using tokens.induct with
  | case1 => rfl
  | case2 rest ih => simp [tokens, Token.hyphen, Token.meaning, ih]
  | case3 c rest notThree ih =>
    rw [tokens.eq_3 c rest notThree]
    simp [ih]

/-- What holds of a hyphen behind a backslash, and of the token of any character, holds of all
tokens of a text. -/
lemma forall_mem_tokens {p : Token → Prop} (hyphen : p .hyphen) (ofChar : ∀ c, p (.ofChar c))
    (t : Text) : ∀ token ∈ t.tokens, p token := by
  induction t using tokens.induct with
  | case1 => simp [tokens]
  | case2 rest ih => simpa [tokens, hyphen] using ih
  | case3 c rest notThree ih =>
    rw [tokens.eq_3 c rest notThree]
    exact List.forall_mem_cons.2 ⟨ofChar c, ih⟩

lemma mark?_tokens (t : Text) : ∀ token ∈ t.tokens, token.mark? = none := by
  apply forall_mem_tokens
  · rfl
  · exact Token.mark?_ofChar

/-- A text can be cut before its tokens are read, unless hyphens stand on both sides of the cut. -/
theorem tokens_append {s t : Text} (apart : ¬ (s.getLast? = some '-' ∧ t.head? = some '-')) :
    (s ++ t).tokens = s.tokens ++ t.tokens := by
  induction s using tokens.induct with
  | case1 => rfl
  | case2 rest ih =>
    have later : ¬ (rest.getLast? = some '-' ∧ t.head? = some '-') := by
      rintro ⟨last, first⟩
      exact apart ⟨by simp [List.getLast?_cons, last], first⟩
    simp [tokens, ih later]
  | case3 c rest notThree ih =>
    have later : ¬ (rest.getLast? = some '-' ∧ t.head? = some '-') := by
      rintro ⟨last, first⟩
      exact apart ⟨by simp [List.getLast?_cons, last], first⟩
    -- Hyphens that are missing behind `c` would have to come from the other side of the cut.
    have stillNotThree : ∀ rest', c = '-' → rest ++ t = '-' :: '-' :: rest' → False := by
      rintro rest' rfl begins
      rcases rest with _ | ⟨d, _ | ⟨e, rest⟩⟩
      · exact apart ⟨rfl, congrArg List.head? begins⟩
      · obtain ⟨isHyphen, second⟩ := List.cons.inj begins
        exact apart ⟨congrArg some isHyphen, congrArg List.head? second⟩
      · obtain ⟨isHyphen, second⟩ := List.cons.inj begins
        obtain ⟨isHyphen', -⟩ := List.cons.inj second
        exact notThree rest rfl (by rw [isHyphen, isHyphen'])
    rw [List.cons_append, tokens.eq_3 c (rest ++ t) stillNotThree, tokens.eq_3 c rest notThree,
      ih later, List.cons_append]

/-- The first two passes on a character: it gets a backslash if it is a backslash or a symbol. -/
def backslashed (c : Char) : Text :=
  if c ∈ '\\' :: markdownSymbols then ['\\', c] else [c]

/-- The first two passes are one: the backslashes that the first pass adds are no symbols. -/
lemma escapeSymbols_doubleBackslashes (t : Text) :
    escapeSymbols (doubleBackslashes t) = t.flatMap backslashed := by
  have onChar (c : Char) : (if c = '\\' then ['\\', '\\'] else [c]).flatMap
      (fun c => if c ∈ markdownSymbols then ['\\', c] else [c]) = backslashed c := by
    by_cases isBackslash : c = '\\'
    · subst isBackslash
      decide
    · simp [backslashed, isBackslash]
  rw [escapeSymbols, doubleBackslashes, List.flatMap_assoc]
  exact congrArg (t.flatMap ·) (funext onChar)

lemma escapeHyphens_append {s : Text} (noHyphen : '-' ∉ s) (t : Text) :
    escapeHyphens (s ++ t) = s ++ escapeHyphens t := by
  induction s with
  | nil => rfl
  | cons c rest ih =>
    obtain ⟨notHyphen, noHyphenInRest⟩ : '-' ≠ c ∧ '-' ∉ rest := by simpa using noHyphen
    have passed : escapeHyphens (c :: (rest ++ t)) = c :: escapeHyphens (rest ++ t) :=
      escapeHyphens.eq_3 c (rest ++ t) fun _ isHyphen => absurd isHyphen.symm notHyphen
    rw [List.cons_append, passed, ih noHyphenInRest, List.cons_append]

/-- The first two passes neither add a hyphen in front nor take one away. -/
lemma eq_cons_hyphen_of_flatMap_backslashed {t rest : Text}
    (begins : t.flatMap backslashed = '-' :: rest) :
    ∃ t', t = '-' :: t' ∧ t'.flatMap backslashed = rest := by
  cases t with
  | nil => exact absurd begins (by simp)
  | cons c t' =>
    by_cases symbol : c ∈ '\\' :: markdownSymbols
    · rw [List.flatMap_cons, backslashed, if_pos symbol] at begins
      exact absurd (List.cons.inj begins).1 (by decide)
    · rw [List.flatMap_cons, backslashed, if_neg symbol] at begins
      obtain ⟨rfl, tail⟩ := List.cons.inj begins
      exact ⟨t', rfl, tail⟩

/-- The last pass on a character that got its backslash writes its token. -/
lemma escapeMarkup_backslashed (c : Char) :
    escapeMarkup (backslashed c) = (Token.ofChar c).text := by
  by_cases special : c ∈ '\\' :: markdownSymbols
  · obtain ⟨notLess, notAmpersand, -, -, notGreater⟩ :
        c ≠ '<' ∧ c ≠ '&' ∧ c ≠ '\n' ∧ c ≠ '\r' ∧ c ≠ '>' := by
      simpa using special_avoids c (special_of_mem special)
    have noMarkup : escapeMarkup ['\\', c] = ['\\', c] := by
      simp [escapeMarkup, entity, notLess, notGreater, notAmpersand]
    rw [backslashed, if_pos special, noMarkup, Token.ofChar, dif_pos special]
    rfl
  · have single : escapeMarkup [c] = entity c := List.flatMap_singleton ..
    rw [backslashed, if_neg special, single, Token.ofChar, dif_neg special, entity]
    split
    · rfl
    split
    · rfl
    split <;> rfl

/-- The passes after the first two on a character that does not begin three hyphens. -/
lemma escapeHyphens_flatMap_backslashed_cons {c : Char} {rest : Text}
    (notThree : ∀ rest', c = '-' → rest = '-' :: '-' :: rest' → False) :
    escapeHyphens (backslashed c ++ rest.flatMap backslashed)
      = backslashed c ++ escapeHyphens (rest.flatMap backslashed) := by
  by_cases isHyphen : c = '-'
  · have alone : backslashed c = ['-'] := by rw [isHyphen]; decide
    -- Hyphens are not added, so what begins three of them now began three in the text.
    have noThree : ∀ rest', '-' = '-' → rest.flatMap backslashed = '-' :: '-' :: rest' → False := by
      intro rest' _ begins
      obtain ⟨tail, isCons, second⟩ := eq_cons_hyphen_of_flatMap_backslashed begins
      obtain ⟨tail', isCons', -⟩ := eq_cons_hyphen_of_flatMap_backslashed second
      exact notThree tail' isHyphen (by rw [isCons, isCons'])
    rw [alone]
    exact escapeHyphens.eq_3 '-' (rest.flatMap backslashed) noThree
  · have noHyphen : '-' ∉ backslashed c := by
      unfold backslashed
      split <;> simp [Ne.symm isHyphen]
    exact escapeHyphens_append noHyphen _

/-- **Escaping is spelling.**  The four passes write down the tokens of the text. -/
theorem spell_tokens (t : Text) : Token.spell t.tokens = escape t := by
  rw [escape, escapeSymbols_doubleBackslashes]
  induction t using tokens.induct with
  | case1 => rfl
  | case2 rest ih =>
    rw [tokens, Token.spell_cons, Token.spell_cons, Token.spell_cons, ih]
    rfl
  | case3 c rest notThree ih =>
    rw [tokens.eq_3 c rest notThree, Token.spell_cons, ih, List.flatMap_cons,
      escapeHyphens_flatMap_backslashed_cons notThree, ← escapeMarkup_backslashed]
    exact (List.flatMap_append ..).symm

/-- The characters that escaping may add to a text. -/
def escapeCharacters : List Char := "\\&ampltg;".toList

/-- A character that a token is spelled with is shown by it, unless the token is a mark or escaping
adds the character. -/
lemma mem_meaning_of_mem_text {token : Token} (noMark : token.mark? = none) {c : Char}
    (notAdded : c ∉ escapeCharacters) (member : c ∈ token.text) : c ∈ token.meaning := by
  cases token with
  | plain d ordinary => exact member
  | escaped d special =>
    rcases List.mem_cons.1 member with rfl | isChar
    · exact absurd (by decide) notAdded
    · exact isChar
  | entity e =>
    have added : e.text.all (· ∈ escapeCharacters) = true := by cases e <;> decide
    exact absurd (by simpa using List.all_eq_true.1 added c member) notAdded
  | mark m => cases noMark

/-- Escaping brings no other characters into a text. -/
lemma not_mem_escape {t : Text} {c : Char} (notAdded : c ∉ escapeCharacters) (absent : c ∉ t) :
    c ∉ t.escape := by
  rw [← spell_tokens]
  intro member
  obtain ⟨token, ofText, inToken⟩ := List.mem_flatMap.1 member
  have shown : c ∈ Token.meanings t.tokens :=
    List.mem_flatMap.2 ⟨token, ofText,
      mem_meaning_of_mem_text (t.mark?_tokens token ofText) notAdded inToken⟩
  rw [meaning_tokens] at shown
  exact absent shown

/-- A text may be cut before it is escaped, unless hyphens stand on both sides of the cut. -/
lemma escape_append_of_apart {s t : Text} (apart : ¬ (s.getLast? = some '-' ∧ t.head? = some '-')) :
    escape (s ++ t) = escape s ++ escape t := by
  rw [← spell_tokens, ← spell_tokens, ← spell_tokens, tokens_append apart, Token.spell_append]

end Text

/-! ## Ordinary and emphasised text -/

namespace Token

/-- Text of ordinary characters is the spelling of tokens that mean it and are no marks. -/
lemma exists_spell_eq {t : Text} (ordinary : t.Ordinary) :
    ∃ tokens, spell tokens = t ∧ meanings tokens = t ∧ tokens.filterMap mark? = [] := by
  induction t with
  | nil => exact ⟨[], rfl, rfl, rfl⟩
  | cons c rest ih =>
    obtain ⟨here, later⟩ := List.forall_mem_cons.1 ordinary
    obtain ⟨tokens, spelled, meant, markless⟩ := ih later
    refine ⟨plain c here :: tokens, ?_, ?_, ?_⟩
    · rw [spell_cons, spelled]
      rfl
    · rw [meanings_cons, meant]
      rfl
    · rw [List.filterMap_cons, markless]
      rfl

end Token

namespace Style

/-- The marks that begin emphasis. -/
def openMarks (style : Style) : List Mark :=
  (if style.bold then [.opening .bold] else []) ++ (if style.italic then [.opening .italic] else [])

/-- The marks that end emphasis. -/
def closeMarks (style : Style) : List Mark :=
  (if style.italic then [.closing .italic] else []) ++ (if style.bold then [.closing .bold] else [])

lemma openTags_eq (style : Style) : style.openTags = style.openMarks.flatMap Mark.text := by
  rcases style with ⟨_, _ | _, _ | _⟩ <;> rfl

lemma closeTags_eq (style : Style) : style.closeTags = style.closeMarks.flatMap Mark.text := by
  rcases style with ⟨_, _ | _, _ | _⟩ <;> rfl

/-- There are no carriage returns in the tags around emphasised text. -/
lemma dropReturns_emphasised (style : Style) (t : Text) :
    (style.openTags ++ t ++ style.closeTags).dropReturns
      = style.openTags ++ t.dropReturns ++ style.closeTags := by
  have opening : style.openTags.dropReturns = style.openTags := by
    rcases style with ⟨_, _ | _, _ | _⟩ <;> rfl
  have closing : style.closeTags.dropReturns = style.closeTags := by
    rcases style with ⟨_, _ | _, _ | _⟩ <;> rfl
  rw [Text.dropReturns_append, Text.dropReturns_append, opening, closing]

/-- The tokens of emphasised text. -/
def tokens (style : Style) (t : Text) : List Token :=
  style.openMarks.map .mark ++ (t.tokens ++ style.closeMarks.map .mark)

/-- The tokens of emphasised text are written as its escaped form between the tags of the style. -/
lemma spell_tokens (style : Style) (t : Text) :
    Token.spell (style.tokens t) = style.openTags ++ t.escape ++ style.closeTags := by
  have ofMarks (marks : List Mark) : Token.spell (marks.map .mark) = marks.flatMap Mark.text :=
    List.flatMap_map ..
  rw [tokens, Token.spell_append, Token.spell_append, ofMarks, ofMarks, Text.spell_tokens,
    openTags_eq, closeTags_eq, List.append_assoc]

lemma meanings_tokens (style : Style) (t : Text) : Token.meanings (style.tokens t) = t := by
  have silent (marks : List Mark) : Token.meanings (marks.map .mark) = [] := by
    induction marks with
    | nil => rfl
    | cons m rest ih => rw [List.map_cons, Token.meanings_cons, ih]; rfl
  rw [tokens, Token.meanings_append, Token.meanings_append, silent, silent, Text.meaning_tokens,
    List.nil_append, List.append_nil]

end Style

/-! ## Properties of texts -/

/-- What holds of nothing, and lasts when lists are put together, can be told from the parts. -/
lemma flatMap_induction {α β : Type} {P : List β → Prop} (nil : P [])
    (append : ∀ {s t : List β}, P s → P t → P (s ++ t)) {items : List α} {f : α → List β}
    (each : ∀ item ∈ items, P (f item)) : P (items.flatMap f) := by
  induction items with
  | nil => exact nil
  | cons item rest ih =>
    obtain ⟨now, later⟩ := List.forall_mem_cons.1 each
    exact append now (ih later)

/-- **Composable.** A property of texts that holds of what a rendering generates within a line, and
lasts when texts are put together. -/
structure Text.Composable (P : Text → Prop) : Prop where
  nil : P []
  append : ∀ {s t : Text}, P s → P t → P (s ++ t)
  space : P [' ']
  mark : ∀ m : Mark, P m.text

namespace Text.Composable

variable {P P' : Text → Prop} (h : Composable P)

include h

lemma and (h' : Composable P') : Composable fun t => P t ∧ P' t where
  nil := ⟨h.nil, h'.nil⟩
  append first second := ⟨h.append first.1 second.1, h'.append first.2 second.2⟩
  space := ⟨h.space, h'.space⟩
  mark m := ⟨h.mark m, h'.mark m⟩

lemma flatMap {α : Type} {items : List α} {f : α → Text} (each : ∀ item ∈ items, P (f item)) :
    P (items.flatMap f) :=
  flatMap_induction h.nil h.append each

/-- The tags around emphasised text are generated. -/
lemma emphasised (style : Style) {t : Text} (core : P t) :
    P (style.openTags ++ t ++ style.closeTags) := by
  rw [style.openTags_eq, style.closeTags_eq]
  exact h.append (h.append (h.flatMap fun m _ => h.mark m) core) (h.flatMap fun m _ => h.mark m)

end Text.Composable

end DocMarkdown
