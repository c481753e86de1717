import DocMarkdown.Proofs.Render.Table
import DocMarkdown.Proofs.Script.Congruence
import DocMarkdown.Proofs.Script.Effect
import DocMarkdown.Proofs.Writer.BlankLine
import DocMarkdown.Session

/-!
# Line ends of a rendering

The strings of a tree may have carriage returns and line feeds anywhere: in code and in the language
it is in, in titles, in the attributes of tags, in addresses.  A writer drops the carriage returns of
whatever it is given to write, but it puts its prefixes as they are.  So for a page without carriage
returns it takes that no prefix has one, and trees ask for no prefix but that of quotations
(`Script.Congruence.quoted`).

`Dialect.render_ends_line` says of every rendering what it leaves on the page: the text that a
session writes for the tree, without carriage returns, and with the last line ended unless the
rendering failed.
-/

namespace DocMarkdown

/-! ## Carriage returns -/

namespace Typing

variable {margin written : Text}

lemma return_not_mem_put (ofMargin : '\r' ∉ margin) (ofWritten : '\r' ∉ written) {c : Char}
    (isChar : c ≠ '\r') : '\r' ∉ put margin written c := by
  unfold put
  split <;> simp [ofMargin, ofWritten, isChar.symm]

lemma return_not_mem_write (ofMargin : '\r' ∉ margin) (ofWritten : '\r' ∉ written) (t : Text) :
    '\r' ∉ write margin written t := by
  induction t generalizing written with
  | nil => exact ofWritten
  | cons c rest ih =>
    by_cases isReturn : c = '\r'
    · rw [isReturn, write_cons_return]
      exact ih ofWritten
    · rw [write_cons_of_ne isReturn]
      exact ih (return_not_mem_put ofMargin ofWritten isReturn)

lemma return_not_mem_freshLine (ofMargin : '\r' ∉ margin) (ofWritten : '\r' ∉ written) :
    '\r' ∉ freshLine margin written := by
  unfold freshLine
  split
  · exact ofWritten
  · exact return_not_mem_put ofMargin ofWritten (by decide)

/-- A text of whole lines is empty or ends with a line feed. -/
lemma ends_freshLine :
    freshLine margin written = [] ∨ (freshLine margin written).getLast? = some '\n' := by
  have lineStart : atLineStart (freshLine margin written) = true := atLineStart_freshLine
  rcases eq_nil_or_eq_concat lineStart with empty | ⟨front, ends⟩
  · exact .inl empty
  · right
    rw [ends, List.getLast?_concat]

/-- Without a margin a fresh line is a line feed, where there is something in front of it and not a
line feed last. -/
lemma freshLine_nil_margin (written : Text) :
    freshLine [] written
      = if written ≠ [] ∧ written.getLast? ≠ some '\n' then written ++ ['\n'] else written := by
  unfold freshLine
  rw [put_nil_margin]
  rcases written.eq_nil_or_concat' with rfl | ⟨front, c, rfl⟩
  · rfl
  · by_cases isFeed : c = '\n' <;> simp [isFeed]

lemma return_not_mem_blankLine (ofMargin : '\r' ∉ margin) (ofWritten : '\r' ∉ written) :
    '\r' ∉ blankLine margin written := by
  have ofFresh := return_not_mem_freshLine ofMargin ofWritten
  unfold blankLine
  split
  · exact return_not_mem_put ofMargin ofFresh (by decide)
  · exact ofFresh

end Typing

/-- **Return-free.** A script brings no carriage return to a text, behind a margin that has none. -/
structure Script.ReturnFree (script : Script) : Prop where
  not_mem_extend : ∀ {margin written : Text}, '\r' ∉ margin → '\r' ∉ written →
    '\r' ∉ script.extend margin written

namespace Script

lemma ReturnFree.singleton {directive : Directive}
    (free : ∀ {margin written : Text}, '\r' ∉ margin → '\r' ∉ written →
      '\r' ∉ directive.extend margin written) : ReturnFree [directive] where
  not_mem_extend ofMargin ofWritten := by
    rw [extend_singleton]
    exact free ofMargin ofWritten

lemma ReturnFree.append {first second : Script} (now : ReturnFree first)
    (later : ReturnFree second) : ReturnFree (first ++ second) where
  not_mem_extend ofMargin ofWritten := by
    by_cases succeeds : failures first = []
    · rw [extend_append succeeds]
      exact later.not_mem_extend ofMargin (now.not_mem_extend ofMargin ofWritten)
    · rw [extend_append_of_failures succeeds]
      exact now.not_mem_extend ofMargin ofWritten

lemma ReturnFree.log (entry : LogEntry) : ReturnFree [.log entry] :=
  .singleton fun _ ofWritten => ofWritten

/-- Whatever is written, carriage returns are dropped from it. -/
lemma ReturnFree.of_isPlain {directive : Directive} (plain : directive.isPlain = true) :
    ReturnFree [directive] := by
  refine .singleton fun {margin written} ofMargin ofWritten => ?_
  cases directive with
  | write t => exact Typing.return_not_mem_write ofMargin ofWritten t
  | endLine => exact Typing.return_not_mem_put ofMargin ofWritten (by decide)
  | freshLine => exact Typing.return_not_mem_freshLine ofMargin ofWritten
  | blankLine => exact Typing.return_not_mem_blankLine ofMargin ofWritten
  | softBreak =>
    rw [Directive.extend, Typing.softBreak]
    split
    · exact Typing.return_not_mem_write ofMargin ofWritten _
    · exact ofWritten
  | separate =>
    rw [Directive.extend, Typing.separate]
    split
    · exact Typing.return_not_mem_write ofMargin ofWritten _
    · exact ofWritten
  | indented pre body => exact absurd plain Bool.false_ne_true
  | log entry => exact absurd plain Bool.false_ne_true
  | fail failure => exact ofWritten

/-- **Freedom of carriage returns is a congruence**, because the prefix of quotations has none. -/
theorem congruence_returnFree : Congruence fun script _ => ReturnFree script where
  nil := ⟨fun _ ofWritten => ofWritten⟩
  plain := .of_isPlain
  append := .append
  quoted inside := .singleton fun ofMargin ofWritten =>
    inside.not_mem_extend (by simp [ofMargin]) ofWritten

end Script

namespace Renderer

lemma returnFree_linkText (r : Renderer) (style : Style) (l : Link) :
    Script.ReturnFree (r.linkText style l) :=
  Script.congruence_returnFree.self (r.isPlain_linkText style l)

lemma returnFree_markdownLink (r : Renderer) (label url : Text) :
    Script.ReturnFree (r.markdownLink label url) :=
  .of_isPlain rfl

/-- Links write, log or stop. -/
lemma returnFree_link (r : Renderer) (style : Style) (l : Link) :
    Script.ReturnFree (r.link style l) := by
  have stop (failure : Failure) : Script.ReturnFree [.fail failure] := .of_isPlain rfl
  unfold link
  split
  next =>
    unfold declarationLink
    split
    · exact stop _
    · exact stop _
    · exact stop _
    · split
      · rw [resolvedLink_eq]
        split
        · exact .log _
        · exact r.returnFree_markdownLink _ _
      · unfold unresolvedLink
        split
        · exact stop _
        · exact (Script.ReturnFree.log _).append (r.returnFree_linkText style l)
  next =>
    split
    · exact r.returnFree_linkText style l
    · exact r.returnFree_markdownLink _ _

/-- **What is written for a tree has no carriage returns**, whatever the strings of the tree. -/
theorem returnFree_script (r : Renderer) (style : Style) (tree : Node) :
    Script.ReturnFree (r.script style tree) :=
  Script.congruence_returnFree.script (f := id) rfl (fun style l => r.returnFree_link style l) tree
    style

end Renderer

/-! ## Renderings -/

namespace Dialect

variable {d : Dialect} {request : Request} {strict : Bool}

/-- A session that writes a tree fails as a rendering of the tree does, and leaves on the page what
the script of the tree writes. -/
lemma perform_nodes_start (valid : d.strictness request.options = .ok strict) (found : Text) :
    let told := Session.perform (.nodes [request.tree])
      (Session.start d request.options .plain found)
    told.failure = (d.render request found).failure
      ∧ told.state.writer.contents
        = found ++ Script.extend [] (Renderer.script ⟨d, strict⟩ .plain request.tree) [] := by
  intro told
  have ran := (Renderer.script ⟨d, strict⟩ .plain request.tree).run_follows (Writer.Follows.on found)
  have isRun : told = ((Renderer.script ⟨d, strict⟩ .plain request.tree).run (Writer.on found)).map
      fun w => { Session.start d request.options .plain found with writer := w } := by
    have script : Session.Operation.script ⟨d, request.options.any Options.strict⟩ .plain
        (.nodes [request.tree]) = Renderer.script ⟨d, strict⟩ .plain request.tree := by
      rw [any_strict_of_strictness valid]
      exact List.flatMap_singleton ..
    rw [← script]
    rfl
  rw [isRun]
  exact ⟨ran.failure.trans (failure_render valid found).symm, ran.state.contents_eq⟩

/-- **A rendering ends its last line.**  Under valid options a rendering fails if a session fails
that writes the tree.  If not, it leaves on the page what the session does, and a line feed behind
it if that is not empty and does not end in one; if it fails, it leaves just what the session does.
In any case there is no carriage return in it. -/
theorem render_ends_line (valid : d.strictness request.options = .ok strict) (found : Text) :
    let o := d.render request found
    let told := Session.perform (.nodes [request.tree])
      (Session.start d request.options .plain found)
    o.failure = told.failure
      ∧ ∃ written appended, told.state.writer.contents = found ++ written
        ∧ o.state = found ++ appended ∧ '\r' ∉ appended
        ∧ (o.failure = none → (appended = [] ∨ appended.getLast? = some '\n')
          ∧ appended = if written ≠ [] ∧ written.getLast? ≠ some '\n' then written ++ ['\n']
            else written)
        ∧ (o.failure ≠ none → appended = written) := by
  intro o told
  obtain ⟨failure, contents⟩ := perform_nodes_start valid found
  have noReturn : '\r' ∉ Script.extend [] (Renderer.script ⟨d, strict⟩ .plain request.tree) [] :=
    (Renderer.returnFree_script _ .plain request.tree).not_mem_extend List.not_mem_nil
      List.not_mem_nil
  by_cases succeeds : Script.failures (Renderer.script ⟨d, strict⟩ .plain request.tree) = []
  · have noFailure : o.failure = none := by rw [failure_render valid, succeeds]; rfl
    refine ⟨failure.symm, _, _, contents, state_render valid succeeds found, ?_, fun _ => ?_, ?_⟩
    · exact Typing.return_not_mem_freshLine List.not_mem_nil noReturn
    · exact ⟨Typing.ends_freshLine, Typing.freshLine_nil_margin _⟩
    · exact fun fails => absurd noFailure fails
  · have someFailure : o.failure ≠ none := by
      rwa [failure_render valid, Ne, List.head?_eq_none_iff]
    refine ⟨failure.symm, _, _, contents, state_render_of_failures valid succeeds found, noReturn,
      fun noFailure => absurd noFailure someFailure, fun _ => rfl⟩

/-- Carriage returns in code, in a tag and in an address; behind the address the line is not ended.
With a link that is not known behind all this the rendering fails. -/
theorem render_stringsWithReturns :
    let d := (page Resolver.empty).annotated
    let nodes : List Node := [.noteBox (.fencedCode "a\r\nb\r".toList "c\r".toList),
      .startTag ⟨"p".toList, [⟨"x\r".toList, "y\n\rz".toList⟩], false⟩,
      .link ⟨none, some "u\r".toList, some "v".toList⟩]
    let unknown : Node := .link ⟨some ⟨none, none, [⟨"w".toList, none⟩]⟩, none, none⟩
    let request (nodes : List Node) : Request := ⟨.group nodes, some (.page true)⟩
    let o := d.render (request nodes) "old\r".toList
    let stopped := d.render (request (nodes ++ [unknown])) "old\r".toList
    let text := "> ```c\n> a\n> b\n> ```\n\n<p x=\"y\nz\">[\x7bv\x7d](u)"
    d.strictness (request nodes).options = .ok true
      ∧ o.failure = none ∧ o.state = ("old\r" ++ text ++ "\n").toList
      ∧ stopped.failure = some (.fault (.unresolvedLink "w"))
      ∧ stopped.state = ("old\r" ++ text).toList
      ∧ ∃ appended, o.state = "old\r".toList ++ appended ∧ '\r' ∉ appended
        ∧ (appended = [] ∨ appended.getLast? = some '\n') := by
  intro d nodes unknown request o stopped text
  have valid : d.strictness (request nodes).options = .ok true := rfl
  have succeeds : o.failure = none := by decide
  obtain ⟨-, _, appended, -, page, noReturn, ends, -⟩ := render_ends_line valid "old\r".toList
  exact ⟨valid, succeeds, by decide, by decide, by decide, appended, page, noReturn,
    (ends succeeds).1⟩

end Dialect

end DocMarkdown
