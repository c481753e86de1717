import DocMarkdown.Proofs.Render.Faults

/-!
# Pages extend comments

The dialect of pages has rules that the dialect of comments has not: for layout, and for links to
declarations.  A tree of a comment asks for none of them.  Two renderers that escape alike and write
code alike agree on such a tree (`Renderer.agree_of_isComment`), and pages are written with the
escaping and the code of comments.  So whoever renders comments can render them as pages
(`Dialect.render_page_eq_core`), with annotations in both cases or in neither.
-/

namespace DocMarkdown

/-- Whether a node is of a kind that comes from comments, and is no link to a declaration. -/
def Node.isComment : Node → Bool
  | plainText _ | escapedText .. | errorText .. | softBreak | startTag _ | endTag _ | codeSpan _
  | fencedCode .. | paragraph _ | group _ => true
  | link l => l.declaration.isNone
  | _ => false

namespace Renderer

/-- **Agreement.** Two renderers agree on a node if they have the same script for it in any style,
and it names no failure. -/
def Agree (r r' : Renderer) (node : Node) : Prop :=
  ∀ style, r'.script style node = r.script style node
    ∧ Script.failures (r.script style node) = []

variable {r r' : Renderer}

/-! ## Nodes -/

lemma plainText_eq_of_escape (escapes : r'.dialect.escape = r.dialect.escape) (style : Style)
    (t : Text) : r'.plainText style t = r.plainText style t := by
  simp only [plainText, escapes]

lemma agree_plainText (escapes : r'.dialect.escape = r.dialect.escape) (t : Text) :
    Agree r r' (.plainText t) :=
  fun style => ⟨plainText_eq_of_escape escapes style t, failures_plainText r style t⟩

/-- A link that is not to a declaration is written with the escaping alone. -/
lemma agree_link (escapes : r'.dialect.escape = r.dialect.escape) {l : Link}
    (noDeclaration : l.declaration = none) : Agree r r' (.link l) := by
  intro style
  constructor
  · simp only [script_link, link, noDeclaration, linkText, urlLink, markdownLink, escapes,
      plainText_eq_of_escape escapes]
    rfl
  · rw [script_link, failures_link, linkFault?, noDeclaration]
    rfl

/-- Renderers that agree on nodes write the same for them one after the other. -/
lemma flatMap_script_of_agree {nodes : List Node} (each : ∀ node ∈ nodes, Agree r r' node)
    (style : Style) :
    nodes.flatMap (r'.script style) = nodes.flatMap (r.script style)
      ∧ Script.failures (nodes.flatMap (r.script style)) = [] := by
  constructor
  · exact List.flatMap_congr fun node member => (each node member style).1
  · rw [Script.failures_flatMap]
    exact List.flatMap_eq_nil_iff.2 fun node member => (each node member style).2

/-! ## Trees -/

/-- **Renderers agree on comments**, if they escape alike and write code alike. -/
theorem agree_of_isComment (escapes : r'.dialect.escape = r.dialect.escape)
    (codes : r'.dialect.codeSpan = r.dialect.codeSpan) {tree : Node}
    (comment : tree.every Node.isComment = true) : Agree r r' tree := by
  induction tree using Node.parts_induction with
  | step node ih =>
    have ofParts : ∀ part ∈ node.parts, Agree r r' part := by
      intro part member
      exact ih part member (Node.every_parts comment part member)
    have ofSelf := Node.every_self comment
    cases node with
    | plainText t | escapedText t _ | errorText t _ => exact agree_plainText escapes t
    | softBreak | startTag _ | endTag _ | fencedCode _ _ => exact fun style => ⟨rfl, rfl⟩
    | codeSpan code =>
      intro style
      rw [script_codeSpan, script_codeSpan, codeSpan, codeSpan, codes]
      exact ⟨rfl, rfl⟩
    | link l => exact agree_link escapes (Option.isNone_iff_eq_none.1 ofSelf)
    | group nodes =>
      intro style
      rw [script_group, script_group]
      exact flatMap_script_of_agree ofParts style
    | paragraph nodes =>
      -- A trimmed text need not be among the nodes, but it is a text like any other.
      have ofTrimmed : ∀ node ∈ Node.trimmed nodes, Agree r r' node := by
        intro node member
        rcases Node.mem_trimmed member with inNodes | ⟨t, rfl⟩
        · exact ofParts node inNodes
        · exact agree_plainText escapes t
      intro style
      obtain ⟨same, succeeds⟩ := flatMap_script_of_agree ofTrimmed style
      rw [script_paragraph, script_paragraph, same, paragraph]
      split <;> simp [succeeds]
    | _ => exact absurd ofSelf Bool.false_ne_true

end Renderer

/-! ## Renderings -/

namespace Dialect

variable {tree : Node} {options options' : Option Options} {strict strict' : Bool}

/-- Annotations do not change which options a dialect takes. -/
lemma strictness_annotated {d : Dialect} (valid : d.strictness options = .ok strict) :
    d.annotated.strictness options = .ok strict := by
  cases options with
  | none => exact valid
  | some options =>
    by_cases refines : options.toClass.refines d.optionsClass = true
    · rw [strictness, if_pos refines] at valid
      rw [strictness, annotated, if_pos refines, valid]
    · rw [strictness, if_neg refines] at valid
      exact absurd valid (by simp)

/-- Dialects that escape alike and write code alike render comments alike. -/
lemma render_eq_of_isComment (d d' : Dialect) (escapes : d'.escape = d.escape)
    (codes : d'.codeSpan = d.codeSpan) (comment : tree.every Node.isComment = true)
    (valid : d.strictness options = .ok strict) (valid' : d'.strictness options' = .ok strict')
    (found : Text) :
    d'.render ⟨tree, options'⟩ found = d.render ⟨tree, options⟩ found
      ∧ (d.render ⟨tree, options⟩ found).failure = none := by
  have agree : Renderer.Agree ⟨d, strict⟩ ⟨d', strict'⟩ tree :=
    Renderer.agree_of_isComment escapes codes comment
  obtain ⟨same, succeeds⟩ := agree .plain
  constructor
  · simp only [render, valid, valid', fullScript, same]
  · rw [failure_render valid, succeeds]
    rfl

/-- **Pages extend comments.**  A tree of a comment is rendered as a page as it is rendered as a
comment: with the same outcome on any page, which is no failure, whatever can be resolved and
whatever the options are that each dialect takes.  The same holds with annotations in both. -/
theorem render_page_eq_core (resolver : Reference → Option Target)
    (comment : tree.every Node.isComment = true)
    (valid : core.strictness options = .ok strict)
    (valid' : (page resolver).strictness options' = .ok strict') (found : Text) :
    ((page resolver).render ⟨tree, options'⟩ found = core.render ⟨tree, options⟩ found
        ∧ (core.render ⟨tree, options⟩ found).failure = none)
      ∧ (page resolver).annotated.render ⟨tree, options'⟩ found
          = core.annotated.render ⟨tree, options⟩ found
        ∧ (core.annotated.render ⟨tree, options⟩ found).failure = none :=
  ⟨render_eq_of_isComment core (page resolver) rfl rfl comment valid valid' found,
    render_eq_of_isComment core.annotated (page resolver).annotated rfl rfl comment
      (strictness_annotated valid) (strictness_annotated valid') found⟩

/-- A comment with a node of each kind. -/
def commentOfAllKinds : Node :=
  .group [.softBreak, .paragraph [.plainText " a*b ".toList, .softBreak, .codeSpan "c".toList,
      .startTag ⟨"i".toList, [], false⟩, .escapedText "<d>".toList [], .endTag "i".toList],
    .fencedCode "e".toList "ts".toList,
    .paragraph [.link ⟨none, some "f.md".toList, some "g]".toList⟩, .errorText "h".toList none,
      .link ⟨none, none, some "---".toList⟩]]

/-- Without options, and with text on the page before. -/
theorem render_commentOfAllKinds :
    commentOfAllKinds.every Node.isComment = true
      ∧ core.strictness none = .ok false ∧ (page Resolver.empty).strictness none = .ok false
      ∧ ((page Resolver.empty).render ⟨commentOfAllKinds, none⟩ "x".toList
            = core.render ⟨commentOfAllKinds, none⟩ "x".toList
          ∧ (core.render ⟨commentOfAllKinds, none⟩ "x".toList).failure = none)
        ∧ (page Resolver.empty).annotated.render ⟨commentOfAllKinds, none⟩ "x".toList
            = core.annotated.render ⟨commentOfAllKinds, none⟩ "x".toList
          ∧ (core.annotated.render ⟨commentOfAllKinds, none⟩ "x".toList).failure = none :=
  ⟨by decide, rfl, rfl, render_page_eq_core Resolver.empty (by decide) rfl rfl "x".toList⟩

end Dialect

end DocMarkdown
