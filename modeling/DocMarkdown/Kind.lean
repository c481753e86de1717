/-!
# Kinds of nodes

A node of a documentation tree has one `Kind`.  Eleven kinds come from documentation comments and
six from the layout of a page (`Kind.Family`); a producer may add kinds of its own, which are known
by name only (`Kind.other`).

`Kind.ofName` reads a kind off its name, and `Kind.name_ofName` says that the name is kept, whether
it is the name of a family member or not.
-/

namespace DocMarkdown

/-- **Kind.** What a node is, and so which rule writes it. -/
inductive Kind where
  | plainText
  | escapedText
  | errorText
  | startTag
  | endTag
  | codeSpan
  | link
  | paragraph
  | fencedCode
  | group
  | softBreak
  | emphasis
  | heading
  | noteBox
  | table
  | cell
  | row
  | other (name : String)
  deriving DecidableEq, Repr

namespace Kind

/-! ## Names -/

/-- The name of a kind, as trees and messages write it. -/
def name : Kind → String
  | plainText => "plain_text"
  | escapedText => "escaped_text"
  | errorText => "error_text"
  | startTag => "html_start_tag"
  | endTag => "html_end_tag"
  | codeSpan => "code_span"
  | link => "link_tag"
  | paragraph => "paragraph"
  | fencedCode => "fenced_code"
  | group => "section"
  | softBreak => "soft_break"
  | emphasis => "emphasis_span"
  | heading => "heading"
  | noteBox => "note_box"
  | table => "table"
  | cell => "table_cell"
  | row => "table_row"
  | other name => name

/-- The name of a kind as a constant: in capitals. -/
def constant (kind : Kind) : String := kind.name.toUpper

/-! ## Families -/

/-- **Family.** The kinds that come from comments, or those that lay out a page. -/
inductive Family where
  | comment
  | layout
  deriving DecidableEq, Repr

/-- The members of a family, in their fixed order. -/
def Family.members : Family → List Kind
  | .comment => [plainText, escapedText, errorText, startTag, endTag, codeSpan, link, paragraph,
      fencedCode, group, softBreak]
  | .layout => [emphasis, heading, noteBox, table, cell, row]

/-- The member of a family that has a given name. -/
def Family.find? (family : Family) (name : String) : Option Kind :=
  family.members.find? (·.name == name)

/-- The kind that has a given name: a family member, or else a kind known by name only. -/
def ofName (name : String) : Kind :=
  match Family.comment.find? name with
  | some kind => kind
  | none => (Family.layout.find? name).getD (other name)

/-- Reading a kind off a name keeps the name. -/
theorem name_ofName (name : String) : (ofName name).name = name := by
  have found : ∀ (family : Family) (kind : Kind), family.find? name = some kind →
      kind.name = name := fun family kind h => by
    simpa using List.find?_some h
  unfold ofName
  split
  · next kind h => exact found _ kind h
  · cases h : Family.layout.find? name with
    | none => rfl
    | some kind => exact found _ kind h

end Kind

end DocMarkdown
