import DocMarkdown.Renderer.Rule

/-!
# Rendering

`Dialect.render` writes a tree on a page that may hold text already, and `Dialect.renderAll` serves
several requests on one page.  The options are checked before anything is logged or written; a
failure later on leaves on the page what was written before it.  A rendering that succeeds ends at
the end of a line.
-/

namespace DocMarkdown

/-- **Request.** A tree to render, and options for it if there are any. -/
structure Request where
  tree : Node
  options : Option Options

namespace Dialect

/-- The whole script of a rendering: its first log entry, the tree, and the end of the last
line. -/
def fullScript (d : Dialect) (strict : Bool) (tree : Node) : Script :=
  .log (.started tree.kind) :: Renderer.script ⟨d, strict⟩ .plain tree ++ [.freshLine]

/-- **Rendering.** Serves a request on a page; the state of the outcome is the text of the page. -/
def render (d : Dialect) (request : Request) (found : Text) : Outcome Text :=
  match d.strictness request.options with
  | .error mismatch => .failed found (.fault (.options mismatch none none))
  | .ok strict =>
    ((d.fullScript strict request.tree).run (Writer.on found)).map Writer.contents

/-- Serves requests one after the other, each on the page that the one before left.  A request
that could not be built fails; those after it are served all the same. -/
def renderAll (d : Dialect) : List (Except Malformed Request) → Text → List (Outcome Text)
  | [], _ => []
  | request :: rest, found =>
    let outcome := Outcome.attempt d.render request found
    outcome :: d.renderAll rest outcome.state

end Dialect

end DocMarkdown
