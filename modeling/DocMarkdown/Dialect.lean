import DocMarkdown.Fault
import DocMarkdown.Resolver
import DocMarkdown.Text.Escape
import DocMarkdown.Text.Lines

/-!
# Dialects

A `Dialect` fixes what is left open about the writing of a tree: how running text is escaped, how
code stands in a line, whether there are pages to link to and lay out, and which kinds of its own a
producer may use.

* `Dialect.core` writes documentation comments alone;
* `Dialect.page` writes whole pages, with links to declarations;
* `Dialect.annotated` changes either: escaped text stands in braces, code between two backquotes,
  and callouts are written after a lead-in.
-/

namespace DocMarkdown

/-- **Dialect.**

* `resolver?` finds the targets of references and is there for pages only; without it the kinds of
  layout are not known, and no link can point at a declaration;
* `codeSpan` is the code of a line with its marks, given whether it stands inside a table;
* `leadIn` is the text before the children of a node of a kind that has the given name, for kinds
  of no family. -/
structure Dialect where
  name : String
  optionsClass : Options.Class
  resolver? : Option (Reference → Option Target)
  escape : Text → Text
  codeSpan : Bool → Text → Text
  leadIn : String → Option Text

namespace Dialect

/-- Code between backquotes.  Inside a table a line break ends the code, sets a paragraph tag and
begins the code again, because a cell has to stay on one line. -/
def backquoted (inTable : Bool) (code : Text) : Text :=
  "`".toList ++ (if inTable then Text.replaceBreaks "`<p/>`".toList code else code) ++ "`".toList

/-- The dialect of documentation comments. -/
def core : Dialect where
  name := "MarkdownEmitter"
  optionsClass := .markdown
  resolver? := none
  escape := Text.escape
  codeSpan := backquoted
  leadIn _ := none

/-- The dialect of pages, whatever finds the targets of references. -/
def page (resolver : Reference → Option Target) : Dialect :=
  { core with
    name := "CustomMarkdownEmitter"
    optionsClass := .page
    resolver? := some resolver }

/-- A dialect with annotations: it shows where text was escaped, marks code twice, and knows
callouts. -/
def annotated (d : Dialect) : Dialect :=
  { d with
    name := "Hooked" ++ d.name
    escape := fun t => "\x7b".toList ++ d.escape t ++ "\x7d".toList
    codeSpan := fun _ code => "``".toList ++ code ++ "``".toList
    leadIn := fun kind => if kind = "callout" then some "Note: ".toList else d.leadIn kind }

/-- Whether links must resolve under the options given, which have to be of the dialect's class;
no options count as that class with every field at its default. -/
def strictness (d : Dialect) : Option Options → Except Mismatch Bool
  | none => .ok (Options.default d.optionsClass).strict
  | some options =>
    if options.toClass.refines d.optionsClass then .ok options.strict
    else .error ⟨d.name, d.optionsClass, options.toClass⟩

end Dialect

end DocMarkdown
