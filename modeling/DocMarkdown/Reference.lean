import DocMarkdown.Text.Blank

/-!
# References to declarations

A link in a documentation comment can point at a declaration: a package, a path inside it and a
chain of members.  `Reference.tsdoc` writes a reference in TSDoc notation, the form under which
pages are looked up and messages name the declaration.
-/

namespace DocMarkdown

/-- One step of a reference: an identifier, and the selector that tells apart declarations that
share it. -/
structure Member where
  identifier : Text
  selector : Option Text
  deriving DecidableEq, Repr

/-- **Reference.** Where a declaration is: its package, the path inside the package and the
chain of members that leads to it. -/
structure Reference where
  package : Option Text
  path : Option Text
  members : List Member
  deriving DecidableEq, Repr

/-! ## TSDoc notation -/

/-- The identifier, with a non-empty selector after a colon and both in parentheses. -/
def Member.tsdoc (member : Member) : Text :=
  match member.selector.getD [] with
  | [] => member.identifier
  | selector => '(' :: member.identifier ++ ':' :: selector ++ [')']

namespace Reference

/-- What stands before the members: the package, a slash and the path without its leading slashes.
The slash is left out where there is no package, and the empty path counts as none. -/
def location (reference : Reference) : Text :=
  match reference.package.getD [], reference.path.getD [] with
  | package, [] => package
  | [], path => path.dropWhile (· == '/')
  | package, path => package ++ '/' :: path.dropWhile (· == '/')

/-- The members, joined by full stops. -/
def chain (reference : Reference) : Text :=
  List.intercalate ['.'] (reference.members.map Member.tsdoc)

/-- **TSDoc notation.**  The location, a number sign and the members; the members alone if the
location is empty. -/
def tsdoc (reference : Reference) : Text :=
  match reference.location with
  | [] => reference.chain
  | location => location ++ '#' :: reference.chain

end Reference

end DocMarkdown
