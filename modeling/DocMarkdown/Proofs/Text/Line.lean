import DocMarkdown.Proofs.Text.Token
import DocMarkdown.Text.Lines

/-!
# Texts of one line

A cell of a table has to stay on its line, so no line feed may be written for it.  Escaping, trimming
and setting tags bring none into a text that had none before; squeezing a label and replacing the
breaks of code take all of them out.
-/

namespace DocMarkdown

/-! ## Running text -/

namespace Text

variable {t : Text}

lemma lineFeed_not_mem_escape (noFeed : '\n' ∉ t) : '\n' ∉ t.escape :=
  not_mem_escape (by decide) noFeed

lemma lineFeed_not_mem_dropReturns (noFeed : '\n' ∉ t) : '\n' ∉ t.dropReturns :=
  fun member => noFeed (List.mem_filter.1 member).1

lemma lineFeed_not_mem_trimStart (noFeed : '\n' ∉ t) : '\n' ∉ t.trimStart :=
  fun member => noFeed ((List.dropWhile_suffix _).subset member)

lemma lineFeed_not_mem_trimEnd (noFeed : '\n' ∉ t) : '\n' ∉ t.trimEnd := by
  intro member
  have inReverse : '\n' ∈ t.reverse := (List.dropWhile_suffix _).subset (List.mem_reverse.1 member)
  exact noFeed (List.mem_reverse.1 inReverse)

/-- The parts that a text is cut into at its outer blanks stay on the line. -/
lemma lineFeed_not_mem_surround (noFeed : '\n' ∉ t) :
    '\n' ∉ (surround t).lead ∧ '\n' ∉ (surround t).core ∧ '\n' ∉ (surround t).trail := by
  rw [← surround_join t] at noFeed
  simpa using noFeed

/-! ## Labels and code -/

/-- No blank but the space is kept by squeezing. -/
lemma blank_not_mem_squeezeFrom {c : Char} (blank : isBlank c = true) (notSpace : c ≠ ' ')
    (inRun : Bool) (t : Text) : c ∉ squeezeFrom inRun t := by
  induction t generalizing inRun with
  | nil => exact List.not_mem_nil
  | cons d rest ih =>
    rw [squeezeFrom]
    split
    · split
      · exact ih true
      · exact List.not_mem_cons_of_ne_of_not_mem notSpace (ih true)
    next dark =>
      have differ : c ≠ d := by
        rintro rfl
        exact dark blank
      exact List.not_mem_cons_of_ne_of_not_mem differ (ih false)

lemma lineFeed_not_mem_squeeze (t : Text) : '\n' ∉ t.squeeze :=
  blank_not_mem_squeezeFrom (by decide) (by decide) false t

lemma return_not_mem_squeeze (t : Text) : '\r' ∉ t.squeeze :=
  blank_not_mem_squeezeFrom (by decide) (by decide) false t

/-- All line breaks of code are replaced, also where carriage returns stand around them. -/
lemma lineFeed_not_mem_replaceBreaks {sep : Text} (noFeed : '\n' ∉ sep) (code : Text) :
    '\n' ∉ replaceBreaks sep code := by
  induction code using replaceBreaks.induct with
  | case1 => simp [replaceBreaks]
  | case2 rest ih => simp [replaceBreaks, noFeed, ih]
  | case3 rest ih => simp [replaceBreaks, noFeed, ih]
  | case4 c rest noPair noBreak ih =>
    have notFeed : '\n' ≠ c := fun isFeed => noBreak isFeed.symm
    rw [replaceBreaks.eq_4 sep c rest noPair noBreak]
    exact List.not_mem_cons_of_ne_of_not_mem notFeed ih

lemma lineFeed_not_mem_backquoted (code : Text) : '\n' ∉ Dialect.backquoted true code := by
  have replaced : '\n' ∉ replaceBreaks "`<p/>`".toList code :=
    lineFeed_not_mem_replaceBreaks (by decide) code
  simpa [Dialect.backquoted] using replaced

/-- That a text has no line feed can be told from its parts, and nothing generated has one. -/
lemma composable_lineFeed_not_mem : Composable ('\n' ∉ ·) where
  nil := List.not_mem_nil
  append first second := by simp [first, second]
  space := by decide
  mark m := by rcases m with ⟨_ | _ | _⟩ | ⟨_ | _ | _⟩ | _ <;> decide

end Text

/-! ## Tags -/

/-- Whether the strings of a tag have no line feed in them. -/
def StartTag.isOneLine (tag : StartTag) : Bool :=
  '\n' ∉ tag.name && tag.attributes.all fun a => '\n' ∉ a.name && '\n' ∉ a.value

lemma Text.lineFeed_not_mem_intercalate {sep : Text} (noFeed : '\n' ∉ sep) {parts : List Text}
    (inParts : ∀ part ∈ parts, '\n' ∉ part) : '\n' ∉ List.intercalate sep parts := by
  induction parts with
  | nil => exact List.not_mem_nil
  | cons part rest ih =>
    obtain ⟨now, later⟩ := List.forall_mem_cons.1 inParts
    cases rest with
    | nil => simpa using now
    | cons next rest =>
      have others := ih later
      rw [List.intercalate_cons_cons]
      simp [now, noFeed, others]

lemma StartTag.lineFeed_not_mem_html {tag : StartTag} (oneLine : tag.isOneLine = true) :
    '\n' ∉ tag.html := by
  obtain ⟨inName, inAttributes⟩ : '\n' ∉ tag.name
      ∧ ∀ a ∈ tag.attributes, '\n' ∉ a.name ∧ '\n' ∉ a.value := by
    simpa [isOneLine] using oneLine
  have inParts : ∀ part ∈ tag.name :: tag.attributes.map Attribute.html, '\n' ∉ part := by
    refine List.forall_mem_cons.2 ⟨inName, List.forall_mem_map.2 fun a member => ?_⟩
    obtain ⟨ofName, ofValue⟩ := inAttributes a member
    simp [Attribute.html, ofName, ofValue]
  have inside : '\n' ∉ List.intercalate [' '] (tag.name :: tag.attributes.map Attribute.html) :=
    Text.lineFeed_not_mem_intercalate (by decide) inParts
  unfold html
  cases tag.selfClosing <;> simp [inside]

lemma lineFeed_not_mem_endTagHtml {name : Text} (noFeed : '\n' ∉ name) :
    '\n' ∉ endTagHtml name := by
  simp [endTagHtml, noFeed]

end DocMarkdown
