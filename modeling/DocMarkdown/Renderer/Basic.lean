import DocMarkdown.Dialect
import DocMarkdown.Node.Basic
import DocMarkdown.Script

/-!
# What is written for text, code and links

A `Renderer` is a dialect and a degree of strictness.  This module says what it writes for the
parts of a tree that hold no other nodes, given the `Style` in force where they stand.
-/

namespace DocMarkdown

/-- **Style.** Whether a table is being written, and what emphasis text gets. -/
structure Style where
  inTable : Bool
  bold : Bool
  italic : Bool
  deriving DecidableEq, Repr

/-- The style outside tables and without emphasis. -/
def Style.plain : Style := ⟨false, false, false⟩

/-- The tags that begin emphasis: bold outside, italic inside. -/
def Style.openTags (style : Style) : Text :=
  (if style.bold then "<b>".toList else []) ++ (if style.italic then "<i>".toList else [])

/-- The tags that end emphasis. -/
def Style.closeTags (style : Style) : Text :=
  (if style.italic then "</i>".toList else []) ++ (if style.bold then "</b>".toList else [])

/-- **Renderer.** A dialect, and whether a link to an unknown declaration is a fault. -/
structure Renderer where
  dialect : Dialect
  strict : Bool

namespace Renderer

/-! ## Text -/

/-- Running text: its outer blanks as they are, and its core escaped, kept apart from what stands
before it and emphasised. -/
def plainText (r : Renderer) (style : Style) (t : Text) : Script :=
  let parts := Text.surround t
  .write parts.lead ::
    (if parts.core.isEmpty then []
      else [.separate, .write (style.openTags ++ r.dialect.escape parts.core ++ style.closeTags)])
    ++ [.write parts.trail]

/-! ## Code -/

/-- Code in a line. -/
def codeSpan (r : Renderer) (style : Style) (code : Text) : Script :=
  [.write (r.dialect.codeSpan style.inTable code)]

/-- The mark of a code block. -/
def fence : Text := "```".toList

/-- A block of code between fences, each on a line of its own. -/
def fencedCode (code language : Text) : Script :=
  [.freshLine, .write (fence ++ language), .endLine, .write code, .endLine, .write fence, .endLine]

/-! ## Links -/

/-- A Markdown link.  Its label is escaped, and stays on one line because blanks are squeezed. -/
def markdownLink (r : Renderer) (label url : Text) : Script :=
  [.write ('[' :: r.dialect.escape (Text.squeeze label) ++ "](".toList ++ url ++ ")".toList)]

/-- The text of a link as running text, if it has any. -/
def linkText (r : Renderer) (style : Style) (l : Link) : Script :=
  match l.text.getD [] with
  | [] => []
  | text => r.plainText style text

/-- A link to an address, which is the label if the link has no text of its own. -/
def urlLink (r : Renderer) (l : Link) : Script :=
  r.markdownLink (l.text.getD (l.url.getD [])) (l.url.getD [])

/-- A link to a declaration whose target is known: labelled by its own text or else by the target's
name.  Without either nothing is written. -/
def resolvedLink (r : Renderer) (l : Link) (reference : Reference) (target : Target) : Script :=
  let label := match l.text.getD [] with
    | [] => target.scopedName
    | text => text
  if label.isEmpty then [.log (.unlabelled reference.tsdoc)] else r.markdownLink label target.url

/-- A link to a declaration whose target is not known: a fault, or else the text alone. -/
def unresolvedLink (r : Renderer) (style : Style) (l : Link) (reference : Reference) : Script :=
  if r.strict then [.fail (.fault (.unresolvedLink (String.ofList reference.tsdoc)))]
  else .log (.unresolved reference.tsdoc) :: r.linkText style l

/-- A link to a declaration. -/
def declarationLink (r : Renderer) (style : Style) (l : Link) : Script :=
  match r.dialect.resolver?, l.declaration with
  | none, none => [.fail (.fault (.unsupportedLink ""))]
  | none, some reference =>
    [.fail (.fault (.unsupportedLink (String.ofList reference.tsdoc)))]
  | some _, none => [.fail .noDestination]
  | some resolver, some reference =>
    match resolver reference with
    | some target => r.resolvedLink l reference target
    | none => r.unresolvedLink style l reference

/-- **Link.** A declaration is a link's first choice, an address its second; without either the
text is left. -/
def link (r : Renderer) (style : Style) (l : Link) : Script :=
  if l.declaration.isSome then r.declarationLink style l
  else if (l.url.getD []).isEmpty then r.linkText style l
  else r.urlLink l

end Renderer

end DocMarkdown
