import DocMarkdown.Indentation
import DocMarkdown.Outcome
import DocMarkdown.Text.Lines

/-!
# The writer

A `Writer` appends text to a page line by line.  It puts its indentation before the first character
of a line, so that a prefix that is pushed or popped in the middle of a line applies from the next
line on.  A line that is ended while still empty gets its indentation too.

## Looking back

The page may hold text that was there before, and the writer never reads the page.  It keeps the
last two chunks that it appended itself, and answers from them what the last two characters are
(`Writer.last?`, `Writer.secondLast?`).  `Writer.freshLine` and `Writer.blankLine` are built on
these.
-/

namespace DocMarkdown

/-! ## Writers -/

/-- **Writer.** A page that is being written: its text, the last two chunks that were appended to
it, whether the next character starts a line, the indentation, and the prefix that is pushed when
none is given. -/
structure Writer where
  contents : Text
  latest? : Option Text
  previous? : Option Text
  atLineStart : Bool
  indentation : Indentation
  defaultPrefix : Text

namespace Writer

/-- A writer on a page that holds some text.  A prefix that is not given is four spaces. -/
def on (found : Text) : Writer where
  contents := found
  latest? := none
  previous? := none
  atLineStart := true
  indentation := .none
  defaultPrefix := "    ".toList

/-! ## Appending -/

/-- The writer with one more chunk on the page. -/
def append (w : Writer) (chunk : Text) : Writer :=
  { w with contents := w.contents ++ chunk, latest? := some chunk, previous? := w.latest? }

/-- The writer with the indentation put, if the next character starts a line. -/
def putIndentation (w : Writer) : Writer :=
  if w.atLineStart && !w.indentation.text.isEmpty then w.append w.indentation.text else w

/-- Writes text that holds neither a line feed nor a carriage return. -/
def writePart (w : Writer) (t : Text) : Writer :=
  if t.isEmpty then w else { w.putIndentation.append t with atLineStart := false }

/-- Ends the line. -/
def endLine (w : Writer) : Writer :=
  { w.putIndentation.append ['\n'] with atLineStart := true }

/-- **Writing.**  Writes a text; each line feed in it ends the line, and carriage returns are
dropped.  Most texts hold neither and need not be cut into lines. -/
def write (w : Writer) (t : Text) : Writer :=
  if '\n' ∉ t ∧ '\r' ∉ t then w.writePart t
  else
    t.lines.others.foldl (fun w line => w.endLine.writePart line.dropReturns)
      (w.writePart t.lines.first.dropReturns)

/-- Writes a text and ends the line. -/
def writeLine (w : Writer) (t : Text) : Writer := (w.write t).endLine

/-! ## Looking back -/

/-- The last character written. -/
def last? (w : Writer) : Option Char := w.latest?.bind List.getLast?

/-- The character written before the last one. -/
def secondLast? (w : Writer) : Option Char :=
  match w.latest? with
  | none => none
  | some chunk =>
    if 1 < chunk.length then chunk[chunk.length - 2]? else w.previous?.bind List.getLast?

/-- Whether a character, if there is one, is anything but a line feed. -/
def isOpen (c : Option Char) : Bool := c.any (· != '\n')

/-- Ends the line unless nothing stands on it. -/
def freshLine (w : Writer) : Writer := if isOpen w.last? then w.endLine else w

/-- Makes the line before the next one a blank line, unless nothing was written. -/
def blankLine (w : Writer) : Writer :=
  if isOpen w.freshLine.secondLast? then w.freshLine.endLine else w.freshLine

/-! ## Indenting -/

/-- Pushes a prefix, or the default prefix if none is given. -/
def indent (w : Writer) (pre : Option Text) : Writer :=
  { w with indentation := w.indentation.push (pre.getD w.defaultPrefix) }

/-- Pops the prefix that was pushed last. -/
def outdent? (w : Writer) : Option Writer :=
  w.indentation.pop?.map fun indentation => { w with indentation }

/-! ## Operations -/

/-- **Operation.** A single thing to do with a writer. -/
inductive Operation where
  | write (t : Text)
  | writeLine (t : Text)
  | freshLine
  | blankLine
  | indent (pre : Option Text)
  | outdent
  | setDefaultPrefix (pre : Text)
  | read
  deriving DecidableEq, Repr

/-- Does one thing with a writer. -/
def perform : Operation → Writer → Outcome Writer
  | .write t, w => .done (w.write t)
  | .writeLine t, w => .done (w.writeLine t)
  | .freshLine, w => .done w.freshLine
  | .blankLine, w => .done w.blankLine
  | .indent pre, w => .done (w.indent pre)
  | .outdent, w =>
    match w.outdent? with
    | some outdented => .done outdented
    | none => .failed w .unmatchedOutdent
  | .setDefaultPrefix pre, w => .done { w with defaultPrefix := pre }
  | .read, w => .done w

end Writer

end DocMarkdown
