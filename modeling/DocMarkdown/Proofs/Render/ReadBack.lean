import DocMarkdown.Proofs.Render.Faults
import DocMarkdown.Proofs.Text.Token

/-!
# Running text survives

Running text is what texts, soft breaks, groups and emphasis make.  A rendering of it can be read
back into the text that was said (`Node.runningText`): marks are deleted, a backslash gives the
character behind it, and entities give what they stand for (`Text.readBack`).

What carries the induction over a tree is `Text.ReadsAs`, a relation between what was written so
far and what was said so far.  The first is spelled in tokens that mean the second, so that the two
can be continued independently; and both are empty or neither, and end in the same blank character
or in none.  The last is what soft breaks, separators and the end of the page depend on.  A script
that keeps the relation while nodes of the tree are said tells these nodes (`Script.Tells`), and
scripts that tell something can be run one after the other.
-/

namespace DocMarkdown

/-! ## Reading back -/

namespace Text

/-- Reads a text back, inside a tag (up to the closing bracket) or outside. -/
def readFrom : Bool → Text → Text
  | _, [] => []
  | true, c :: rest => readFrom (c != '>') rest
  | false, '<' :: rest => readFrom true rest
  | false, '\\' :: c :: rest => c :: readFrom false rest
  | false, '&' :: 'a' :: 'm' :: 'p' :: ';' :: rest => '&' :: readFrom false rest
  | false, '&' :: 'l' :: 't' :: ';' :: rest => '<' :: readFrom false rest
  | false, '&' :: 'g' :: 't' :: ';' :: rest => '>' :: readFrom false rest
  | false, c :: rest => c :: readFrom false rest

/-- **Reading back**, from left to right: an angle bracket and all up to the next closing one is
deleted, a backslash gives the character behind it, an entity gives the character it stands for, and
any other character stands for itself. -/
def readBack (t : Text) : Text := readFrom false t

lemma readBack_cons {c : Char} (ordinary : c ∉ ['\\', '&', '<']) (rest : Text) :
    readBack (c :: rest) = c :: readBack rest := by
  obtain ⟨notBackslash, notAmpersand, notLess⟩ : c ≠ '\\' ∧ c ≠ '&' ∧ c ≠ '<' := by
    simpa using ordinary
  unfold readBack
  rw [readFrom] <;> simp [notBackslash, notAmpersand, notLess]

lemma readBack_text_append (token : Token) (rest : Text) :
    readBack (token.text ++ rest) = token.meaning ++ readBack rest := by
  cases token with
  | plain c ordinary => exact readBack_cons ordinary rest
  | escaped c special => rfl
  | entity e => cases e <;> rfl
  | mark m => rcases m with ⟨_ | _ | _⟩ | ⟨_ | _ | _⟩ | _ <;> rfl

/-- **Tokens are read back into what they show.** -/
theorem readBack_spell (tokens : List Token) :
    readBack (Token.spell tokens) = Token.meanings tokens := by
  induction tokens with
  | nil => rfl
  | cons token rest ih => rw [Token.spell_cons, readBack_text_append, ih, Token.meanings_cons]

end Text

/-! ## How texts end -/

namespace Text

/-- A text ends dark if its last character is there and not blank. -/
def EndsDark (t : Text) : Prop := ∃ c, t.getLast? = some c ∧ isBlank c = false

namespace EndsDark

variable {t : Text}

lemma append_left (dark : EndsDark t) (s : Text) : EndsDark (s ++ t) := by
  obtain ⟨c, last, notBlank⟩ := dark
  refine ⟨c, ?_, notBlank⟩
  rw [List.getLast?_append, last]
  rfl

lemma dropReturns (dark : EndsDark t) : EndsDark (Text.dropReturns t) := by
  obtain ⟨c, last, notBlank⟩ := dark
  obtain ⟨front, rfl⟩ := List.getLast?_eq_some_iff.1 last
  have isChar : c ≠ '\r' := by
    rintro rfl
    exact absurd notBlank (by decide)
  refine ⟨c, ?_, notBlank⟩
  rw [dropReturns_append, dropReturns_cons_of_ne isChar, dropReturns_nil, List.getLast?_concat]

lemma core (nonempty : (surround t).core ≠ []) : EndsDark (surround t).core := by
  have kept : (trimStart t).reverse.dropWhile isBlank ≠ [] := by
    simpa [surround, trimEnd] using nonempty
  refine ⟨((trimStart t).reverse.dropWhile isBlank).head kept, ?_, ?_⟩
  · rw [surround, trimEnd, List.getLast?_reverse, List.head?_eq_some_head kept]
  · exact List.head_dropWhile_not isBlank kept

end EndsDark

/-- **Texts end alike** if both are empty, or both end in one blank character, or both end dark. -/
inductive EndsAlike : Text → Text → Prop where
  | empty : EndsAlike [] []
  | blank {s t : Text} {c : Char} (blankness : isBlank c = true) (left : s.getLast? = some c)
      (right : t.getLast? = some c) : EndsAlike s t
  | dark {s t : Text} (left : EndsDark s) (right : EndsDark t) : EndsAlike s t

namespace EndsAlike

variable {s t : Text}

lemma append_right (alike : EndsAlike s t) (u : Text) : EndsAlike (s ++ u) (t ++ u) := by
  rcases u.eq_nil_or_concat' with rfl | ⟨front, c, rfl⟩
  · rwa [List.append_nil, List.append_nil]
  · have left : (s ++ (front ++ [c])).getLast? = some c := by simp
    have right : (t ++ (front ++ [c])).getLast? = some c := by simp
    cases blankness : isBlank c with
    | true => exact blank blankness left right
    | false => exact dark ⟨c, left, blankness⟩ ⟨c, right, blankness⟩

/-- Texts that end alike are followed by a soft break in the same cases. -/
lemma any_notBlank_eq (alike : EndsAlike s t) :
    s.getLast?.any (!isBlank ·) = t.getLast?.any (!isBlank ·) := by
  cases alike with
  | empty => rfl
  | blank _ left right => rw [left, right]
  | dark left right =>
    obtain ⟨c, last, notBlank⟩ := left
    obtain ⟨d, last', notBlank'⟩ := right
    rw [last, last']
    simp [notBlank, notBlank']

/-- Texts that end alike have their last line ended in the same cases. -/
lemma all_lineFeed_eq (alike : EndsAlike s t) :
    s.getLast?.all (· == '\n') = t.getLast?.all (· == '\n') := by
  have notFeed {c : Char} (notBlank : isBlank c = false) : (c == '\n') = false := by
    refine beq_eq_false_iff_ne.2 ?_
    rintro rfl
    exact absurd notBlank (by decide)
  cases alike with
  | empty => rfl
  | blank _ left right => rw [left, right]
  | dark left right =>
    obtain ⟨c, last, notBlank⟩ := left
    obtain ⟨d, last', notBlank'⟩ := right
    rw [last, last']
    simp [notFeed notBlank, notFeed notBlank']

end EndsAlike

end Text

namespace Token

/-- A token that shows a dark character is spelled so that it ends dark, and so is a mark. -/
lemma endsDark_text {token : Token} (dark : ∀ c ∈ token.meaning, Text.isBlank c = false) :
    Text.EndsDark token.text := by
  cases token with
  | plain c ordinary => exact ⟨c, rfl, dark c List.mem_cons_self⟩
  | escaped c special => exact ⟨c, rfl, dark c List.mem_cons_self⟩
  | entity e => cases e <;> exact ⟨';', rfl, by decide⟩
  | mark m => rcases m with ⟨_ | _ | _⟩ | ⟨_ | _ | _⟩ | _ <;> exact ⟨'>', rfl, by decide⟩

lemma meaning_eq_nil_or_singleton (token : Token) :
    token.meaning = [] ∨ ∃ c, token.meaning = [c] := by
  cases token with
  | mark m => exact .inl rfl
  | plain c _ | escaped c _ => exact .inr ⟨c, rfl⟩
  | entity e => exact .inr ⟨e.char, rfl⟩

/-- Tokens that mean a text that ends dark are spelled as one. -/
lemma endsDark_spell {tokens : List Token} (dark : Text.EndsDark (meanings tokens)) :
    Text.EndsDark (spell tokens) := by
  obtain ⟨c, last, notBlank⟩ := dark
  rcases tokens.eq_nil_or_concat' with rfl | ⟨front, token, rfl⟩
  · exact absurd last (by simp)
  · rw [meanings_append, meanings_cons, meanings_nil, List.append_nil] at last
    have ofToken : ∀ d ∈ token.meaning, Text.isBlank d = false := by
      rcases meaning_eq_nil_or_singleton token with silent | ⟨d, shown⟩
      · simp [silent]
      · obtain rfl : d = c := by simpa [shown] using last
        simpa [shown] using notBlank
    rw [spell_append, spell_cons, spell_nil, List.append_nil]
    exact (endsDark_text ofToken).append_left _

end Token

/-! ## Reading what is written -/

namespace Text

/-- **What was written reads as what was said**: it is spelled in tokens that mean what was said,
and ends alike. -/
structure ReadsAs (output said : Text) : Prop where
  spelled : ∃ tokens, Token.spell tokens = output ∧ Token.meanings tokens = said
  ends : EndsAlike output said

namespace ReadsAs

variable {output said : Text}

lemma nil : ReadsAs [] [] := ⟨⟨[], rfl, rfl⟩, .empty⟩

lemma readBack_eq (h : ReadsAs output said) : readBack output = said := by
  obtain ⟨tokens, rfl, rfl⟩ := h.spelled
  exact readBack_spell tokens

lemma append_blanks (h : ReadsAs output said) {t : Text} (blank : ∀ c ∈ t, isBlank c = true) :
    ReadsAs (output ++ t) (said ++ t) := by
  obtain ⟨tokens, rfl, rfl⟩ := h.spelled
  obtain ⟨more, spelled, meant, -⟩ := Token.exists_spell_eq (ordinary_of_blank blank)
  refine ⟨⟨tokens ++ more, ?_, ?_⟩, h.ends.append_right t⟩
  · rw [Token.spell_append, spelled]
  · rw [Token.meanings_append, meant]

/-- Text that ends dark is written in any tokens that mean it. -/
lemma append_spell (h : ReadsAs output said) {tokens : List Token}
    (dark : EndsDark (Token.meanings tokens)) :
    ReadsAs (output ++ Token.spell tokens) (said ++ Token.meanings tokens) := by
  obtain ⟨before, rfl, rfl⟩ := h.spelled
  refine ⟨⟨before ++ tokens, ?_, ?_⟩, ?_⟩
  · rw [Token.spell_append]
  · rw [Token.meanings_append]
  · exact .dark ((Token.endsDark_spell dark).append_left _) (dark.append_left _)

end ReadsAs

end Text

/-! ## Separators -/

namespace Typing

/-- Text is kept apart by a token that shows nothing, or by none. -/
lemma exists_separate_eq (written : Text) :
    ∃ tokens, separate [] written = written ++ Token.spell tokens ∧ Token.meanings tokens = [] := by
  unfold separate
  split
  · refine ⟨[.mark .separator], ?_, rfl⟩
    rw [write_nil_margin]
    rfl
  · exact ⟨[], (List.append_nil _).symm, rfl⟩

end Typing

/-! ## Running text -/

namespace Node

/-- Whether a node is of a kind that makes running text. -/
def isRunning : Node → Bool
  | plainText _ | escapedText .. | errorText .. | softBreak | group _ | emphasis .. => true
  | _ => false

/-- What was said after a node, its children aside.  A text is said without its carriage returns,
and a soft break is a space unless nothing was said yet or a blank character last. -/
def say (said : Text) : Node → Text
  | plainText t | escapedText t _ | errorText t _ => said ++ t.dropReturns
  | softBreak => if said.getLast?.any (!Text.isBlank ·) then said ++ [' '] else said
  | _ => said

/-- **The running text of a tree**: what is said in document order, and the end of the last line. -/
def runningText (tree : Node) : Text :=
  let said := tree.walk.foldl say []
  if said.getLast?.all (· == '\n') then said else said ++ ['\n']

end Node

/-- **A script tells some nodes** if it does not fail, and what it adds to the page reads as what
the nodes say. -/
structure Script.Tells (script : Script) (nodes : List Node) : Prop where
  succeeds : Script.failures script = []
  reads : ∀ {output said : Text}, Text.ReadsAs output said →
    Text.ReadsAs (Script.extend [] script output) (nodes.foldl Node.say said)

namespace Script.Tells

lemma nil : Tells [] [] := ⟨rfl, id⟩

lemma append {first second : Script} {nodes nodes' : List Node} (h : Tells first nodes)
    (h' : Tells second nodes') : Tells (first ++ second) (nodes ++ nodes') where
  succeeds := by rw [failures_append, h.succeeds, h'.succeeds, List.append_nil]
  reads := by
    intro output said reads
    rw [extend_append h.succeeds, List.foldl_append]
    exact h'.reads (h.reads reads)

lemma flatMap {nodes : List Node} {f : Node → Script} {g : Node → List Node}
    (each : ∀ node ∈ nodes, Tells (f node) (g node)) :
    Tells (nodes.flatMap f) (nodes.flatMap g) := by
  induction nodes with
  | nil => exact nil
  | cons node rest ih =>
    obtain ⟨now, later⟩ := List.forall_mem_cons.1 each
    rw [List.flatMap_cons, List.flatMap_cons]
    exact now.append (ih later)

end Script.Tells

namespace Renderer

variable {r : Renderer} {output said : Text}

/-- A text that is not blank is written as tokens between its outer blanks, and the tokens mean its
core. -/
lemma exists_extend_plainText_eq (escapes : r.dialect.escape = Text.escape) (style : Style)
    {t : Text} (nonempty : (Text.surround t).core ≠ []) (output : Text) :
    ∃ tokens, Token.meanings tokens = (Text.surround t).core.dropReturns
      ∧ Script.extend [] (r.plainText style t) output
        = output ++ (Text.surround t).lead.dropReturns ++ Token.spell tokens
          ++ (Text.surround t).trail.dropReturns := by
  obtain ⟨apart, separated, silent⟩ :=
    Typing.exists_separate_eq (output ++ (Text.surround t).lead.dropReturns)
  refine ⟨apart ++ (style.tokens (Text.surround t).core).filter (!·.isReturn), ?_, ?_⟩
  · rw [Token.meanings_append, silent, Token.meanings_filter_isReturn, Style.meanings_tokens,
      List.nil_append]
  · rw [plainText_of_core nonempty, escapes, Token.spell_append, ← Token.dropReturns_spell,
      Style.spell_tokens, ← List.append_assoc, ← separated, ← Typing.write_nil_margin,
      ← Typing.write_nil_margin, ← Typing.write_nil_margin]
    rfl

/-- **A text is read back as the text without its carriage returns.** -/
lemma readsAs_plainText (escapes : r.dialect.escape = Text.escape) (style : Style)
    (h : Text.ReadsAs output said) (t : Text) :
    Text.ReadsAs (Script.extend [] (r.plainText style t) output) (said ++ t.dropReturns) := by
  have leadBlank : ∀ c ∈ (Text.surround t).lead.dropReturns, Text.isBlank c = true := by
    intro c member
    exact Text.isBlank_of_mem_lead (List.mem_of_mem_filter member)
  have trailBlank : ∀ c ∈ (Text.surround t).trail.dropReturns, Text.isBlank c = true := by
    intro c member
    exact Text.isBlank_of_mem_trail (List.mem_of_mem_filter member)
  have cut : said ++ t.dropReturns = said ++ (Text.surround t).lead.dropReturns
      ++ (Text.surround t).core.dropReturns ++ (Text.surround t).trail.dropReturns := by
    conv_lhs => rw [← Text.surround_join t]
    simp only [Text.dropReturns_append, List.append_assoc]
  have afterLead := h.append_blanks leadBlank
  rw [cut]
  -- A blank text is not kept apart from what stands before it, and its trail ends alike by itself.
  by_cases noCore : (Text.surround t).core = []
  · have written : Script.extend [] (r.plainText style t) output
        = output ++ (Text.surround t).lead.dropReturns ++ (Text.surround t).trail.dropReturns := by
      rw [plainText_of_blank noCore, ← Typing.write_nil_margin, ← Typing.write_nil_margin]
      rfl
    rw [written, noCore, Text.dropReturns_nil, List.append_nil]
    exact afterLead.append_blanks trailBlank
  · obtain ⟨tokens, meant, written⟩ := exists_extend_plainText_eq escapes style noCore output
    have dark : Text.EndsDark (Token.meanings tokens) := by
      rw [meant]
      exact (Text.EndsDark.core noCore).dropReturns
    rw [written, ← meant]
    exact (afterLead.append_spell dark).append_blanks trailBlank

/-- **A soft break is read back as the space that it is written as**, or as nothing. -/
lemma readsAs_softBreak (h : Text.ReadsAs output said) :
    Text.ReadsAs (Script.extend [] [.softBreak] output) (Node.say said .softBreak) := by
  have written : Script.extend [] [.softBreak] output
      = if said.getLast?.any (!Text.isBlank ·) then output ++ [' '] else output := by
    rw [Script.extend_cons rfl, Script.extend_nil, Directive.extend, Typing.softBreak,
      Typing.write_nil_margin, h.ends.any_notBlank_eq]
    rfl
  rw [written, Node.say]
  split
  · exact h.append_blanks (List.forall_mem_singleton.2 (by decide))
  · exact h

/-- **The script of running text tells the nodes of the tree**, in any style. -/
theorem tells_script (pages : r.dialect.resolver?.isSome = true)
    (escapes : r.dialect.escape = Text.escape) {tree : Node}
    (running : tree.every Node.isRunning = true) (style : Style) :
    Script.Tells (r.script style tree) tree.walk := by
  induction tree using Node.parts_induction generalizing style with
  | step node ih =>
    have runningParts := Node.every_parts running
    have ofParts : ∀ part ∈ node.parts, ∀ style, Script.Tells (r.script style part) part.walk := by
      intro part member style
      exact ih part member (runningParts part member) style
    have ofSelf := Node.every_self running
    cases node with
    | plainText t | escapedText t _ | errorText t _ =>
      constructor
      · exact failures_plainText r style t
      · intro output said h
        exact readsAs_plainText escapes style h t
    | softBreak =>
      constructor
      · rfl
      · intro output said h
        exact readsAs_softBreak h
    | group nodes =>
      have children : Script.Tells (nodes.flatMap (r.script style)) (nodes.flatMap Node.walk) := by
        apply Script.Tells.flatMap
        intro node member
        exact ofParts node member style
      -- A container says nothing itself, so what is told of its children is told of it.
      rw [script_group, Node.walk_eq]
      exact ⟨children.succeeds, children.reads⟩
    | emphasis e nodes =>
      let inside : Style := { style with bold := e.bold, italic := e.italic }
      have children : Script.Tells (nodes.flatMap (r.script inside)) (nodes.flatMap Node.walk) := by
        apply Script.Tells.flatMap
        intro node member
        exact ofParts node member inside
      rw [script_emphasis pages, Node.walk_eq]
      exact ⟨children.succeeds, children.reads⟩
    | _ => exact absurd ofSelf Bool.false_ne_true

end Renderer

/-! ## Renderings -/

/-- **Running text survives.**  A page of running text is read back into the text that was said, its
last line ended. -/
theorem Dialect.readBack_state_render (resolver : Reference → Option Target) {request : Request}
    {strict : Bool} (valid : (page resolver).strictness request.options = .ok strict)
    (running : request.tree.every Node.isRunning = true) :
    ((page resolver).render request []).failure = none
      ∧ Text.readBack ((page resolver).render request []).state = request.tree.runningText := by
  have tells := Renderer.tells_script (r := ⟨page resolver, strict⟩) rfl rfl running .plain
  have said := tells.reads .nil
  constructor
  · rw [failure_render valid, tells.succeeds]
    rfl
  · rw [state_render valid tells.succeeds, List.nil_append, Typing.freshLine, Typing.atLineStart,
      said.ends.all_lineFeed_eq, Node.runningText]
    split
    · exact said.readBack_eq
    · rw [Typing.put_nil_margin]
      exact (said.append_blanks (List.forall_mem_singleton.2 (by decide))).readBack_eq

/-- Emphasised text with a symbol, a bracket and a carriage return, between soft breaks. -/
def sampleRunningText : Node :=
  .group [.softBreak, .plainText "a*b ".toList, .softBreak,
    .emphasis ⟨true, false⟩
      [.escapedText "<c>\r".toList [], .group [.errorText "--- d".toList none]],
    .softBreak]

/-- The soft breaks at the start and behind a blank say nothing, and the one at the end a space. -/
theorem Dialect.readBack_render_sampleRunningText :
    (page Resolver.empty).strictness none = .ok false
      ∧ sampleRunningText.every Node.isRunning = true
      ∧ ((page Resolver.empty).render ⟨sampleRunningText, none⟩ []).failure = none
      ∧ Text.readBack ((page Resolver.empty).render ⟨sampleRunningText, none⟩ []).state
        = "a*b <c>--- d \n".toList := by
  have valid : (page Resolver.empty).strictness (Request.mk sampleRunningText none).options
      = .ok false := rfl
  have running : (Request.mk sampleRunningText none).tree.every Node.isRunning = true := by decide
  obtain ⟨succeeds, read⟩ := readBack_state_render Resolver.empty valid running
  exact ⟨valid, running, succeeds, read⟩

end DocMarkdown
