import DocMarkdown.Program
import DocMarkdown.Renderer.Rule

/-!
# Sessions

A `Session` gives out the parts of a rendering one by one: a renderer, the style in force, and a
writer that is used in between.  Writing a node, a text or a link does not change the style; only
`Session.Operation.set` does.
-/

namespace DocMarkdown

/-- **Session.** A rendering in the middle of its work. -/
structure Session where
  renderer : Renderer
  style : Style
  writer : Writer

/-- A part of the style. -/
inductive Style.Flag where
  | inTable
  | bold
  | italic
  deriving DecidableEq, Repr

/-- The style with one part set. -/
def Style.set (style : Style) : Style.Flag → Bool → Style
  | .inTable, value => { style with inTable := value }
  | .bold, value => { style with bold := value }
  | .italic, value => { style with italic := value }

namespace Session

/-- A session on a page that holds some text.  Only options for pages can make it strict; it takes
options of any class. -/
def start (dialect : Dialect) (options : Option Options) (style : Style) (found : Text) : Session :=
  ⟨⟨dialect, options.any Options.strict⟩, style, .on found⟩

/-- **Operation.** A single thing to do in a session. -/
inductive Operation where
  | writer (operation : Writer.Operation)
  | nodes (nodes : List Node)
  | plainText (t : Text)
  | markdownLink (label url : Text)
  | declarationLink (l : Link)
  | urlLink (l : Link)
  | set (flag : Style.Flag) (value : Bool)

/-- The script of an operation; those that drive the writer themselves and those that set the style
have none. -/
def Operation.script (r : Renderer) (style : Style) : Operation → Script
  | nodes ns => ns.flatMap (r.script style)
  | plainText t => r.plainText style t
  | markdownLink label url => r.markdownLink label url
  | declarationLink l => r.declarationLink style l
  | urlLink l => r.urlLink l
  | writer _ | set .. => []

/-- Does one thing in a session. -/
def perform : Operation → Session → Outcome Session
  | .writer operation, s => (s.writer.perform operation).map fun w => { s with writer := w }
  | .set flag value, s => .done { s with style := s.style.set flag value }
  | operation, s =>
    ((operation.script s.renderer s.style).run s.writer).map fun w => { s with writer := w }

/-- The machine that a session is.  An operation that could not be built fails. -/
def machine : Machine Session (Except Malformed Operation) where
  perform := Outcome.attempt perform
  indent pre s := { s with writer := s.writer.indent pre }
  outdent? s := s.writer.outdent?.map fun w => { s with writer := w }

end Session

end DocMarkdown
