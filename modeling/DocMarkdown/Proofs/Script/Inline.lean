import DocMarkdown.Proofs.Node.Trimming
import DocMarkdown.Proofs.Render.Faults
import DocMarkdown.Proofs.Text.Token

/-!
# Writing within a line

What stands within a line is written without ending the line and without indenting.  Such a script
sees of the text before it nothing but its last character, so what it adds can be told from that
character alone; and what holds of all its texts, and of those that a rendering generates between
them, holds of what it adds.  `Script.Appends` says both.

Groups, paragraphs and emphasis put the scripts of their children together within the line, if they
stand in a table.  So a property of scripts that lasts when scripts are put together holds of the
script of such a tree as soon as it holds of the leaves (`Script.Composable.script`).
-/

namespace DocMarkdown

/-! ## Appending -/

/-- **Appending.** A way to continue a text that looks at its last character only, and adds texts of
which a property holds. -/
def Typing.Appends (P : Text → Prop) (f : Text → Text) : Prop :=
  ∃ added : Option Char → Text, (∀ last, P (added last))
    ∧ ∀ before, f before = before ++ added before.getLast?

namespace Typing.Appends

variable {P : Text → Prop} (h : Text.Composable P) {f g : Text → Text}

include h

lemma stay : Appends P id := by
  refine ⟨fun _ => [], fun _ => h.nil, fun before => ?_⟩
  rw [List.append_nil, id]

lemma next (first : Appends P f) (second : Appends P g) : Appends P (g ∘ f) := by
  obtain ⟨added, holds, adds⟩ := first
  obtain ⟨more, holds', adds'⟩ := second
  -- The second one looks at what the first one added, or at what it saw if that is nothing.
  refine ⟨fun last => added last ++ more ((added last).getLast?.or last), ?_, ?_⟩
  · exact fun last => h.append (holds last) (holds' _)
  · intro before
    rw [Function.comp_apply, adds', adds, List.getLast?_append, List.append_assoc]

omit h in
lemma write {t : Text} (holds : P t.dropReturns) : Appends P (write [] · t) :=
  ⟨fun _ => t.dropReturns, fun _ => holds, fun before => write_nil_margin before t⟩

/-- A choice that the last character decides. -/
lemma choice {p : Option Char → Bool} (yes : Appends P f) :
    Appends P fun before => if p before.getLast? then f before else before := by
  obtain ⟨added, holds, adds⟩ := yes
  refine ⟨fun last => if p last then added last else [], fun last => ?_, fun before => ?_⟩
  · dsimp only
    split
    · exact holds last
    · exact h.nil
  · dsimp only
    split
    · exact adds before
    · rw [List.append_nil]

end Typing.Appends

/-- A script appends if it continues texts that way, up to its first failure. -/
def Script.Appends (P : Text → Prop) (script : Script) : Prop :=
  Typing.Appends P (Script.extend [] script)

namespace Script.Appends

variable {P : Text → Prop} (h : Text.Composable P)

include h

lemma nil : Appends P [] := Typing.Appends.stay h

lemma append {first second : Script} (now : Appends P first) (later : Appends P second) :
    Appends P (first ++ second) := by
  by_cases succeeds : failures first = []
  · have both : extend [] (first ++ second) = extend [] second ∘ extend [] first :=
      funext fun _ => extend_append succeeds second
    rw [Appends, both]
    exact Typing.Appends.next h now later
  · have only : extend [] (first ++ second) = extend [] first :=
      funext fun _ => extend_append_of_failures succeeds second
    rw [Appends, only]
    exact now

omit h in
lemma of_extend {directive : Directive} (appends : Typing.Appends P (directive.extend [])) :
    Appends P [directive] := by
  have alone : extend [] [directive] = directive.extend [] := funext fun _ => extend_singleton _
  rwa [Appends, alone]

omit h in
lemma write {t : Text} (holds : P t.dropReturns) : Appends P [.write t] :=
  of_extend (Typing.Appends.write holds)

lemma softBreak : Appends P [.softBreak] :=
  of_extend (Typing.Appends.choice h (Typing.Appends.write h.space))

lemma separate : Appends P [.separate] :=
  of_extend (Typing.Appends.choice h (Typing.Appends.write (h.mark .separator)))

/-- What does not write adds nothing. -/
lemma log (entry : LogEntry) : Appends P [.log entry] :=
  of_extend (Typing.Appends.stay h)

lemma fail (failure : Failure) : Appends P [.fail failure] :=
  of_extend (Typing.Appends.stay h)

lemma mark (m : Mark) : Appends P [.write m.text] := by
  have kept : m.text.dropReturns = m.text := by
    rcases m with ⟨_ | _ | _⟩ | ⟨_ | _ | _⟩ | _ <;> rfl
  refine write ?_
  rw [kept]
  exact h.mark m

end Script.Appends

/-! ## Text -/

/-- A text appends what holds of its outer blanks and of its escaped core. -/
lemma Renderer.appends_plainText {P : Text → Prop} (h : Text.Composable P) {r : Renderer}
    (escapes : r.dialect.escape = Text.escape) (style : Style) {t : Text}
    (lead : P (Text.surround t).lead.dropReturns)
    (core : P (Text.surround t).core.escape.dropReturns)
    (trail : P (Text.surround t).trail.dropReturns) : Script.Appends P (r.plainText style t) := by
  by_cases blank : (Text.surround t).core = []
  · rw [plainText_of_blank blank]
    exact (Script.Appends.write lead).append h (.write trail)
  · have emphasised : P (style.openTags ++ (Text.surround t).core.escape
        ++ style.closeTags).dropReturns := by
      rw [style.dropReturns_emphasised]
      exact h.emphasised style core
    rw [plainText_of_core blank, escapes]
    exact (Script.Appends.write lead).append h ((Script.Appends.separate h).append h
      ((Script.Appends.write emphasised).append h (.write trail)))

/-! ## Trees -/

/-- **Composable.** A property of scripts that holds of generated marks, and lasts when scripts are
written one after the other. -/
structure Script.Composable (Q : Script → Prop) : Prop where
  nil : Q []
  append : ∀ {first second : Script}, Q first → Q second → Q (first ++ second)
  mark : ∀ m : Mark, Q [.write m.text]

namespace Script

lemma composable_appends {P : Text → Prop} (h : Text.Composable P) : Composable (Appends P) where
  nil := .nil h
  append := .append h
  mark := .mark h

/-- That a script names no failure can be told from its parts. -/
lemma composable_failures : Composable fun script => failures script = [] where
  nil := rfl
  append now later := by rw [failures_append, now, later, List.append_nil]
  mark _ := rfl

end Script

/-- Whether a node puts its children together and adds no more than marks, where it stands in a
table. -/
def Node.isContainer : Node → Bool
  | group _ | paragraph _ | emphasis .. => true
  | _ => false

namespace Script.Composable

variable {Q : Script → Prop} (h : Composable Q)

include h

lemma flatMap {α : Type} {items : List α} {f : α → Script} (each : ∀ item ∈ items, Q (f item)) :
    Q (items.flatMap f) :=
  flatMap_induction h.nil h.append each

/-- **Trees within a line.**  A composable property holds of the script of a tree that stands in a
table, if it holds of the scripts of all leaves that may be in the tree, also after trimming. -/
theorem script {r : Renderer} (pages : r.dialect.resolver?.isSome = true) {p : Node → Bool}
    (bare : ∀ node, p node = true → node.isLabelled = false)
    (atStart : ∀ t, p (.plainText t) = true → p (.plainText t.trimStart) = true)
    (atEnd : ∀ t, p (.plainText t) = true → p (.plainText t.trimEnd) = true)
    (leaves : ∀ node, p node = true → node.isContainer = false →
      ∀ style : Style, style.inTable = true → Q (r.script style node))
    {tree : Node} (everywhere : tree.every p = true) {style : Style}
    (inTable : style.inTable = true) : Q (r.script style tree) := by
  induction tree using Node.parts_induction generalizing style with
  | step node ofParts =>
    have ofSelf := Node.every_self everywhere
    have everywhereBelow := Node.every_parts everywhere
    cases node with
    | group nodes =>
      rw [Renderer.script_group]
      exact h.flatMap fun child member =>
        ofParts child member (everywhereBelow child member) inTable
    | emphasis e nodes =>
      rw [Renderer.script_emphasis pages]
      exact h.flatMap fun child member =>
        ofParts child member (everywhereBelow child member) inTable
    | paragraph nodes =>
      have ofTrimmed : ∀ child ∈ Node.trimmed nodes, Q (r.script style child) := by
        intro child member
        rcases Node.mem_trimmed member with inNodes | ⟨t, rfl⟩
        · exact ofParts child inNodes (everywhereBelow child inNodes) inTable
        · have ofNodes : ∀ child ∈ nodes, p child = true := by
            intro child inNodes
            exact Node.every_self (everywhereBelow child inNodes)
          have ofText := Node.forall_mem_trimmed bare atStart atEnd ofNodes _ member
          exact leaves _ ofText rfl style inTable
      rw [Renderer.script_paragraph, Renderer.paragraph, if_pos inTable]
      exact h.append (h.append (h.mark (.opening .paragraph)) (h.flatMap ofTrimmed))
        (h.mark (.closing .paragraph))
    | _ => exact leaves _ ofSelf rfl style inTable

end Script.Composable

end DocMarkdown
