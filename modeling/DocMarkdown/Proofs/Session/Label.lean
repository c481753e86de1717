import DocMarkdown.Proofs.Text.Escaped
import DocMarkdown.Proofs.Text.Line
import DocMarkdown.Session
import Mathlib.Data.List.SplitBy

/-!
# The label of a link

A label is read up to the first bracket that closes it, so it has to stay on its line, and no
bracket in it may stand bare.  `Text.IsLabel` says what a label has to be to stand for some text.
Its last condition is that unescaping it gives the text with one space for each run of blanks; the
runs are told without going through the text (`Text.runs`).

`Session.perform_markdownLink_eq_closed` says that a link is written with such a label, by whatever
writer and in whatever state, and that the first bare bracket behind the one that opens the label
is the one before the address.
-/

namespace DocMarkdown

namespace Text

/-! ## Runs of blanks -/

/-- Whether two characters are both blank or neither. -/
def alike (c d : Char) : Bool := isBlank c == isBlank d

/-- **Runs.** The longest stretches of a text that are all blank, or without blanks, in order. -/
def runs (t : Text) : List Text := t.splitBy alike

/-- The text with one space for each run of blanks. -/
def spaced (t : Text) : Text := t.runs.flatMap fun run => if run.allBlank then [' '] else run

/-- A run is blank if its first character is. -/
lemma isBlank_eq_of_isChain {c : Char} {run : Text}
    (chain : (c :: run).IsChain fun c d => alike c d) :
    ∀ d ∈ c :: run, isBlank d = isBlank c := by
  induction run generalizing c with
  | nil => simp
  | cons d rest ih =>
    obtain ⟨same, later⟩ := List.isChain_cons_cons.1 chain
    have ofRest := ih later
    rw [← show isBlank c = isBlank d from beq_iff_eq.1 same] at ofRest
    exact List.forall_mem_cons.2 ⟨rfl, ofRest⟩

/-- Within a run of blanks nothing more is written. -/
lemma squeezeFrom_true_append {blanks : Text} (blank : ∀ c ∈ blanks, isBlank c = true)
    (rest : Text) : squeezeFrom true (blanks ++ rest) = squeezeFrom true rest := by
  induction blanks with
  | nil => rfl
  | cons c blanks ih =>
    obtain ⟨here, later⟩ := List.forall_mem_cons.1 blank
    rw [List.cons_append, squeezeFrom, if_pos here, if_pos rfl, ih later]

/-- Characters that are not blank are kept, and no run goes on behind them. -/
lemma squeezeFrom_append_dark {c : Char} {run : Text} (dark : ∀ d ∈ c :: run, isBlank d = false)
    (inRun : Bool) (rest : Text) :
    squeezeFrom inRun (c :: run ++ rest) = c :: run ++ squeezeFrom false rest := by
  induction run generalizing c inRun with
  | nil => simp [squeezeFrom, dark c]
  | cons d run ih =>
    obtain ⟨here, later⟩ := List.forall_mem_cons.1 dark
    have stillHere : ¬ isBlank c = true := by simp [here]
    rw [List.cons_append, squeezeFrom, if_neg stillHere, ih later]
    rfl

/-- A text that does not begin with a blank is squeezed alike inside a run and outside. -/
lemma squeezeFrom_eq_of_head {t : Text} (dark : ∀ c, t.head? = some c → isBlank c = false) :
    squeezeFrom true t = squeezeFrom false t := by
  cases t with
  | nil => rfl
  | cons c rest => simp [squeezeFrom, dark c rfl]

/-- What comes behind a run of blanks does not begin with a blank, if no run is like the next. -/
lemma dark_of_apart {run : Text} {rest : List Text}
    (apart : (run :: rest).IsChain fun run next => ∃ nonempty nonempty',
      alike (run.getLast nonempty) (next.head nonempty') = false)
    (blank : ∀ c ∈ run, isBlank c = true) :
    ∀ c, rest.flatten.head? = some c → isBlank c = false := by
  intro c first
  cases rest with
  | nil => exact absurd first (by simp)
  | cons next more =>
    obtain ⟨nonempty, nonempty', differ⟩ := (List.isChain_cons_cons.1 apart).1
    have isHead : next.head nonempty' = c := by
      rw [List.flatten_cons, List.head?_append_of_ne_nil _ nonempty',
        List.head?_eq_some_head nonempty'] at first
      exact Option.some.inj first
    rw [alike, blank _ (List.getLast_mem nonempty), isHead] at differ
    simpa using differ

/-- One space is written for each run of blanks in what may be the runs of a text: no run is empty,
each is all blank or without blanks, and none is like the next one. -/
lemma squeeze_flatten {cut : List Text} (nonempty : [] ∉ cut)
    (uniform : ∀ run ∈ cut, run.IsChain fun c d => alike c d)
    (apart : cut.IsChain fun run next => ∃ nonempty nonempty',
      alike (run.getLast nonempty) (next.head nonempty') = false) :
    squeeze cut.flatten = cut.flatMap fun run => if run.allBlank then [' '] else run := by
  induction cut with
  | nil => rfl
  | cons run rest ih =>
    have ofRest := ih (List.not_mem_of_not_mem_cons nonempty)
      (fun run member => uniform run (List.mem_cons_of_mem _ member)) apart.tail
    cases run with
    | nil => exact absurd List.mem_cons_self nonempty
    | cons c run =>
      have like := isBlank_eq_of_isChain (uniform _ List.mem_cons_self)
      rw [List.flatten_cons, List.flatMap_cons, ← ofRest, squeeze, squeeze]
      cases isBlank_c : isBlank c with
      | false =>
        rw [isBlank_c] at like
        rw [squeezeFrom_append_dark like]
        simp [allBlank, isBlank_c]
      | true =>
        rw [isBlank_c] at like
        have blankRun : allBlank (c :: run) = true := List.all_eq_true.2 like
        rw [List.cons_append, squeezeFrom, if_pos isBlank_c, if_neg Bool.false_ne_true,
          squeezeFrom_true_append (fun d member => like d (List.mem_cons_of_mem c member)),
          squeezeFrom_eq_of_head (dark_of_apart apart like), blankRun]
        rfl

/-- **Squeezing writes one space for each run of blanks** of a text. -/
theorem squeeze_eq_spaced (t : Text) : squeeze t = spaced t := by
  have cut := squeeze_flatten (List.nil_notMem_splitBy _ t)
    (fun run member => List.isChain_of_mem_splitBy member) (List.isChain_getLast_head_splitBy _ t)
  rwa [List.flatten_splitBy] at cut

/-- Blanks of several kinds in a row are one run. -/
example : runs " \t\r\na b\u00a0".toList
      = [" \t\r\n".toList, "a".toList, " ".toList, "b".toList, "\u00a0".toList]
    ∧ squeeze " \t\r\na b\u00a0".toList = " a b ".toList := by decide

/-! ## Labels -/

/-- **Label.** What stands for a text between the brackets of a link.  It is on one line, none of
its pieces is a bracket, and no piece goes on in what comes behind it; unescaped it is the text with
one space for each run of blanks. -/
structure IsLabel (label shown : Text) : Prop where
  noFeed : '\n' ∉ shown
  noReturn : '\r' ∉ shown
  noOpening : ['['] ∉ shown.pieces
  noClosing : [']'] ∉ shown.pieces
  pieces_append : ∀ rest, pieces (shown ++ rest) = shown.pieces ++ pieces rest
  unescape_eq : unescape shown = spaced label

/-- Inert pieces are no brackets. -/
lemma InertPiece.ne_bracket {piece : Text} (inert : InertPiece piece) :
    piece ≠ ['['] ∧ piece ≠ [']'] := by
  cases inert with
  | backslashed special => simp
  | entity e => cases e <;> decide
  | alone harmless => constructor <;> rintro ⟨⟩ <;> exact harmless (by decide)

/-- **An escaped text whose blanks are squeezed is a label** for the text. -/
theorem isLabel_escape_squeeze (label : Text) : IsLabel label (escape (squeeze label)) := by
  have isSpelling : escape (squeeze label) = Token.spell (squeeze label).tokens :=
    (spell_tokens _).symm
  have noBracket : ∀ piece ∈ pieces (escape (squeeze label)), piece ≠ ['['] ∧ piece ≠ [']'] := by
    rw [isSpelling, pieces_spell, List.forall_mem_map]
    apply forall_mem_tokens
    · decide
    · exact fun c => (inertPiece_ofChar c).ne_bracket
  exact
    { noFeed := not_mem_escape (by decide) (lineFeed_not_mem_squeeze label)
      noReturn := not_mem_escape (by decide) (return_not_mem_squeeze label)
      noOpening := fun member => (noBracket _ member).1 rfl
      noClosing := fun member => (noBracket _ member).2 rfl
      pieces_append := fun rest => by rw [isSpelling, pieces_spell_append, pieces_spell]
      unescape_eq := by
        rw [isSpelling, unescape_spell (mark?_tokens _), meaning_tokens, squeeze_eq_spaced] }

/-- **The label of a link is closed where it should be**: the first bare bracket behind the one that
opens the label is the one before the address. -/
lemma IsLabel.pieces_link {label shown : Text} (isLabel : IsLabel label shown) (rest : Text) :
    pieces ('[' :: shown ++ "](".toList ++ rest)
      = ['['] :: shown.pieces ++ [']'] :: ['('] :: pieces rest := by
  have alone (c : Char) (ordinary : c ∉ ['\\', '&', '<']) (rest : Text) :
      pieces (c :: rest) = [c] :: pieces rest := pieces_text_append (.plain c ordinary) rest
  have cut : '[' :: shown ++ "](".toList ++ rest = '[' :: (shown ++ ']' :: '(' :: rest) := by simp
  rw [cut, alone '[' (by decide), isLabel.pieces_append, alone ']' (by decide),
    alone '(' (by decide), List.cons_append]

end Text

/-! ## Links -/

/-- Any writer puts a text of one line behind what is on the page, and behind the indentation where
a line begins. -/
lemma Writer.contents_write_of_line (w : Writer) {t : Text} (noFeed : '\n' ∉ t)
    (noReturn : '\r' ∉ t) (nonempty : t ≠ []) :
    (w.write t).contents = w.contents ++ (if w.atLineStart then w.indentation.text else []) ++ t := by
  have put : w.putIndentation.contents
      = w.contents ++ if w.atLineStart then w.indentation.text else [] := by
    unfold putIndentation
    cases w.atLineStart with
    | false => simp
    | true =>
      cases margin : w.indentation.text with
      | nil => simp
      | cons c rest => simp [append]
  rw [write, if_pos ⟨noFeed, noReturn⟩, writePart, if_neg (by simpa using nonempty), append, put]

namespace Session

/-- **A link is closed where it should be.**  In whatever state a session is, a link is written on
the line, behind the indentation if it begins the line: an opening bracket, a label for its text, a
closing bracket and the address.  A reader who goes from bracket to bracket finds the label and no
more. -/
theorem perform_markdownLink_eq_closed {s : Session}
    (escapes : s.renderer.dialect.escape = Text.escape) (label : Text) {url : Text}
    (noFeed : '\n' ∉ url) (noReturn : '\r' ∉ url) :
    let told := perform (.markdownLink label url) s
    told.failure = none ∧ told.log = [] ∧ told.state.style = s.style
      ∧ ∃ shown, Text.IsLabel label shown
        ∧ told.state.writer.contents = s.writer.contents
          ++ (if s.writer.atLineStart then s.writer.indentation.text else [])
          ++ ('[' :: shown ++ "](".toList ++ url ++ ")".toList)
        ∧ Text.pieces ('[' :: shown ++ "](".toList ++ url ++ ")".toList)
          = ['['] :: shown.pieces ++ [']'] :: ['('] :: Text.pieces (url ++ ")".toList) := by
  intro told
  have isLabel := Text.isLabel_escape_squeeze label
  refine ⟨rfl, rfl, rfl, _, isLabel, ?_, ?_⟩
  · have written : told.state.writer = s.writer.write
        ('[' :: Text.escape (Text.squeeze label) ++ "](".toList ++ url ++ ")".toList) := by
      rw [← escapes]
      rfl
    rw [written]
    apply Writer.contents_write_of_line
    · simp [isLabel.noFeed, noFeed]
    · simp [isLabel.noReturn, noReturn]
    · simp
  · rw [List.append_assoc _ url]
    exact isLabel.pieces_link _

/-- The label begins and ends with a backslash, goes over two lines and has brackets in it, and so
has the address; the link begins a quoted line. -/
theorem perform_markdownLink_labelOfBrackets :
    let d := Dialect.page Resolver.empty
    let s : Session := { start d none ⟨true, true, false⟩ "old".toList with
      writer := (Writer.on "old".toList).indent (some "> ".toList) }
    let label := "\\[a]\r\n\t[b\\".toList
    let url := "u](v".toList
    s.renderer.dialect.escape = Text.escape ∧ '\n' ∉ url ∧ '\r' ∉ url
      ∧ Text.spaced label = "\\[a] [b\\".toList
      ∧ (perform (.markdownLink label url) s).failure = none
      ∧ (perform (.markdownLink label url) s).state.writer.contents
        = "old> [\\\\\\[a\\] \\[b\\\\](u](v)".toList
      ∧ ∃ shown, Text.IsLabel label shown
        ∧ Text.pieces ('[' :: shown ++ "](".toList ++ url ++ ")".toList)
          = ['['] :: shown.pieces ++ [']'] :: ['('] :: Text.pieces (url ++ ")".toList) := by
  intro d s label url
  have noFeed : '\n' ∉ url := by decide
  have noReturn : '\r' ∉ url := by decide
  obtain ⟨succeeds, -, -, shown, isLabel, -, closed⟩ :=
    perform_markdownLink_eq_closed (s := s) rfl label noFeed noReturn
  exact ⟨rfl, noFeed, noReturn, by decide, succeeds, by decide, shown, isLabel, closed⟩

end Session

end DocMarkdown
