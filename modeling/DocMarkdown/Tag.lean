import DocMarkdown.Text.Blank

/-!
# HTML tags

Tags that a comment contains are written into the page as they are: nothing in them is escaped.
-/

namespace DocMarkdown

/-- An attribute of a start tag. -/
structure Attribute where
  name : Text
  value : Text
  deriving DecidableEq, Repr

/-- **Start tag.** The element's name, its attributes in order, and whether the tag closes
itself. -/
structure StartTag where
  name : Text
  attributes : List Attribute
  selfClosing : Bool
  deriving DecidableEq, Repr

/-- The attribute as HTML: the name, and the value between double quotes. -/
def Attribute.html (a : Attribute) : Text := a.name ++ '=' :: '"' :: a.value ++ ['"']

/-- The start tag as HTML: name and attributes apart by one space. -/
def StartTag.html (tag : StartTag) : Text :=
  '<' :: List.intercalate [' '] (tag.name :: tag.attributes.map Attribute.html)
    ++ (if tag.selfClosing then " />".toList else ">".toList)

/-- The end tag of an element as HTML. -/
def endTagHtml (name : Text) : Text := '<' :: '/' :: name ++ ['>']

end DocMarkdown
