import DocMarkdown.Kind
import DocMarkdown.Text.Blank

/-!
# Log entries

What a rendering reports beside its output: that it began, and which links it could not write as
links.
-/

namespace DocMarkdown

/-- How much an entry matters. -/
inductive LogLevel where
  | debug
  | warning
  deriving DecidableEq, Repr

/-- The name of a level. -/
def LogLevel.name : LogLevel → String
  | debug => "DEBUG"
  | warning => "WARNING"

/-- **Log entry.** A rendering of a node of some kind began; a reference, in TSDoc notation, is
not known; a reference is known, but there is no text to show for it. -/
inductive LogEntry where
  | started (kind : Kind)
  | unresolved (reference : Text)
  | unlabelled (reference : Text)
  deriving DecidableEq, Repr

namespace LogEntry

/-- The level of an entry. -/
def level : LogEntry → LogLevel
  | started _ => .debug
  | unresolved _ | unlabelled _ => .warning

/-- The text of an entry. -/
def text : LogEntry → String
  | started kind => "Emitting Markdown for " ++ kind.name ++ " node"
  | unresolved reference => "Unable to resolve reference \"" ++ String.ofList reference ++ "\""
  | unlabelled reference =>
    "Unable to determine link text for \"" ++ String.ofList reference ++ "\""

end LogEntry

end DocMarkdown
