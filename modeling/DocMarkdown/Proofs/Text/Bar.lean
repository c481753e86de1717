import DocMarkdown.Proofs.Text.Token

/-!
# Bars of a line

A reader of tables cuts a line at its bars, and takes the character behind a backslash together with
the backslash, so that an escaped bar is none (`Text.cutAtBars`, `Text.bars`).

A text is *sealed* (`Text.Sealed`) if it has no such bar in it and does not take away the first
character of what follows: the reader who comes to its end goes on as if the rest began a line.
Sealed texts can be put together, and escaped text is sealed (`Text.sealed_dropReturns_escape`),
because each of its tokens is.
-/

namespace DocMarkdown

namespace Text

/-! ## Cutting a line -/

/-- **Cutting at bars.**  The pieces of a text before, between and behind its bars; a backslash takes
the character behind it with it. -/
def cutAtBars : Text → List Text
  | [] => [[]]
  | '\\' :: c :: rest => (cutAtBars rest).modifyHead fun piece => '\\' :: c :: piece
  | '|' :: rest => [] :: cutAtBars rest
  | c :: rest => (cutAtBars rest).modifyHead (c :: ·)

/-- The number of bars in a text that no backslash takes with it. -/
def bars : Text → Nat
  | [] => 0
  | '\\' :: _ :: rest => bars rest
  | '|' :: rest => bars rest + 1
  | _ :: rest => bars rest

/-- There is one more piece than there are bars. -/
lemma length_cutAtBars (t : Text) : (cutAtBars t).length = bars t + 1 := by
  induction t using bars.induct with
  | case1 => rfl
  | case2 c rest ih => simp [cutAtBars, bars, ih]
  | case3 rest ih => simp [cutAtBars, bars, ih]
  | case4 c rest notEscape notBar ih =>
    rw [cutAtBars.eq_4 c rest notEscape notBar, bars.eq_4 c rest notEscape notBar,
      List.length_modifyHead, ih]

/-- An escaped bar is no bar, but one behind an escaped backslash is. -/
example : cutAtBars "a\\|b|c\\\\|".toList = ["a\\|b".toList, "c\\\\".toList, []] := by decide

/-! ## Sealed texts -/

/-- **Sealed.** A text that can stand before any other without changing where that is cut, and is
not cut itself. -/
def Sealed (t : Text) : Prop :=
  ∀ rest, cutAtBars (t ++ rest) = (cutAtBars rest).modifyHead (t ++ ·)

namespace Sealed

variable {s t : Text}

lemma nil : Sealed [] := by
  intro rest
  rw [List.nil_append]
  exact (congrFun List.modifyHead_id (cutAtBars rest)).symm

lemma append (first : Sealed s) (second : Sealed t) : Sealed (s ++ t) := by
  intro rest
  rw [List.append_assoc, first, second, List.modifyHead_modifyHead]
  congr 1
  funext piece
  exact (List.append_assoc s t piece).symm

lemma cons {c : Char} (ordinary : c ∉ ['\\', '|']) (h : Sealed t) : Sealed (c :: t) := by
  obtain ⟨notBackslash, notBar⟩ : c ≠ '\\' ∧ c ≠ '|' := by simpa using ordinary
  intro rest
  rw [List.cons_append, cutAtBars.eq_4 c (t ++ rest) (fun _ _ is _ => notBackslash is) notBar, h,
    List.modifyHead_modifyHead]
  rfl

/-- A text without backslashes and bars is sealed. -/
lemma of_avoids (avoids : t.Avoids ['\\', '|']) : Sealed t := by
  induction t with
  | nil => exact nil
  | cons c rest ih =>
    obtain ⟨here, later⟩ := List.forall_mem_cons.1 avoids
    exact (ih later).cons here

/-- Blanks are neither backslashes nor bars. -/
lemma of_blank (blank : ∀ c ∈ t, isBlank c = true) : Sealed t := by
  refine of_avoids fun c member markup => ?_
  have dark : (['\\', '|'].all (!isBlank ·)) = true := by decide
  have notBlank : isBlank c = false := by simpa using List.all_eq_true.1 dark c markup
  exact Bool.false_ne_true (notBlank.symm.trans (blank c member))

/-- A bar behind a sealed text cuts there. -/
lemma cutAtBars_append_bar (h : Sealed t) (rest : Text) :
    cutAtBars (t ++ '|' :: rest) = t :: cutAtBars rest := by
  rw [h]
  simp [cutAtBars]

end Sealed

end Text

/-! ## Escaped text -/

namespace Token

lemma sealed_ofChar (c : Char) : Text.Sealed (ofChar c).text := by
  unfold ofChar
  split
  · intro rest
    rfl
  split
  · exact .of_avoids (by decide)
  split
  · exact .of_avoids (by decide)
  split
  · exact .of_avoids (by decide)
  next notSpecial notAmpersand notLess notGreater =>
    -- A bar is a symbol, so it is not among the characters that stand for themselves.
    refine .of_avoids (List.forall_mem_singleton.2 fun markup => notSpecial ?_)
    rcases List.mem_cons.1 markup with rfl | isBar
    · exact List.mem_cons_self
    · obtain rfl := List.mem_singleton.1 isBar
      decide

lemma sealed_of_mem_tokens (t : Text) : ∀ token ∈ t.tokens, Text.Sealed token.text := by
  apply Text.forall_mem_tokens
  · intro rest
    rfl
  · exact sealed_ofChar

end Token

/-- That a text is sealed can be told from its parts, and everything generated is sealed. -/
lemma Text.composable_sealed : Text.Composable Text.Sealed where
  nil := .nil
  append := .append
  space := .of_avoids (by decide)
  mark m := by rcases m with ⟨_ | _ | _⟩ | ⟨_ | _ | _⟩ | _ <;> exact .of_avoids (by decide)

/-- **Escaped text is sealed**, also without its carriage returns. -/
theorem Text.sealed_dropReturns_escape (t : Text) : Text.Sealed t.escape.dropReturns := by
  rw [← spell_tokens, Token.dropReturns_spell]
  exact composable_sealed.flatMap fun token member =>
    Token.sealed_of_mem_tokens t token (List.mem_filter.1 member).1

end DocMarkdown
