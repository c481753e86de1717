import DocMarkdown.Kind
import DocMarkdown.Options
import DocMarkdown.Text.Quoted

/-!
# What can go wrong

Three types, from the outside in:

* `Malformed`: a value that cannot be built, so that no operation on it starts;
* `Fault`: a fault of this library, with a message, details and a place in a small hierarchy of
  categories (`Fault.category`, `Category.lineage`);
* `Failure`: the way in which an operation stopped, a fault or one of the plain failures.
-/

namespace DocMarkdown

/-! ## Values that cannot be built -/

/-- **Malformed values.** A heading above the topmost level, an options field that does not exist,
a name that no kind of a family has. -/
inductive Malformed where
  | headingLevel (level : Int)
  | unknownField (field : String)
  | unknownKind (family : Kind.Family) (name : String)
  deriving DecidableEq, Repr

/-- The name of a family of kinds, as messages write it. -/
def Kind.Family.name : Kind.Family → String
  | .comment => "DocNodeKind"
  | .layout => "CustomDocNodeKind"

/-- The message of a malformed value. -/
def Malformed.message : Malformed → String
  | headingLevel level => "Heading level must be at least 1, got " ++ toString level
  | unknownField field => "unexpected field " ++ String.ofList (Text.quoted field.toList)
  | unknownKind family name =>
    String.ofList (Text.quoted name.toList) ++ " is not a valid " ++ family.name

/-! ## Faults -/

/-- Options of a class that a dialect does not accept. -/
structure Mismatch where
  dialect : String
  expected : Options.Class
  received : Options.Class
  deriving DecidableEq, Repr

/-- **Fault.** What went wrong.  A fault that wraps another error keeps its text as `cause`; a
fault of validation keeps the offending value, of any type `ν`. -/
inductive Fault (ν : Type) where
  | general (message : String) (cause : Option String)
  | validation (message : String) (parameter : Option String) (value : Option ν)
      (cause : Option String)
  | options (mismatch : Mismatch) (message : Option String) (cause : Option String)
  | rendering (message : String) (stage : Option String) (cause : Option String)
  | unsupportedKind (kind : String)
  | unsupportedLink (reference : String)
  | unresolvedLink (reference : String)
  deriving DecidableEq, Repr

/-- The message that says which options were expected. -/
def Mismatch.message (m : Mismatch) : String :=
  m.dialect ++ " expected options of type '" ++ m.expected.name ++ "' but received '"
    ++ m.received.name ++ "'. Please provide the correct options type for the emitter."

namespace Fault

variable {ν : Type}

/-- The message of a fault. -/
def message : Fault ν → String
  | general message _ => message
  | validation message .. => message
  | options mismatch message _ => message.getD mismatch.message
  | rendering message .. => message
  | unsupportedKind kind => "Unsupported element kind: " ++ kind
  | unsupportedLink reference =>
    "write_link_tag_with_code_destination() is not implemented; cannot render link to '"
      ++ reference ++ "'"
  | unresolvedLink reference => "Unable to resolve reference \"" ++ reference ++ "\""

/-- The text of the error that a fault wraps. -/
def cause : Fault ν → Option String
  | general _ cause => cause
  | validation _ _ _ cause => cause
  | options _ _ cause => cause
  | rendering _ _ cause => cause
  | _ => none

/-- The stage of rendering at which a fault arose. -/
def stage : Fault ν → Option String
  | rendering _ stage _ => stage
  | unsupportedKind _ => some "write_node"
  | unsupportedLink _ => some "write_link_tag_with_code_destination"
  | unresolvedLink _ => some "write_link_tag"
  | _ => none

/-! ## Categories -/

/-- **Category.** The class of a fault. -/
inductive Category where
  | general
  | validation
  | options
  | rendering
  | unsupportedKind
  | unsupportedLink
  | unresolvedLink
  deriving DecidableEq, Repr

/-- The category that a category is a special case of; `general` is the widest. -/
def Category.parent? : Category → Option Category
  | general => none
  | validation | rendering => some general
  | options => some validation
  | unsupportedKind | unsupportedLink | unresolvedLink => some rendering

/-- A category and all that it is a special case of, narrowest first. -/
def Category.lineage : Category → List Category
  | general => [general]
  | validation => [validation, general]
  | rendering => [rendering, general]
  | options => [options, validation, general]
  | unsupportedKind => [unsupportedKind, rendering, general]
  | unsupportedLink => [unsupportedLink, rendering, general]
  | unresolvedLink => [unresolvedLink, rendering, general]

/-- The lineage of a category goes from it to its parent's lineage. -/
theorem Category.lineage_eq (c : Category) :
    c.lineage = c :: (c.parent?.map Category.lineage).getD [] := by
  cases c <;> rfl

/-- The category of a fault. -/
def category : Fault ν → Category
  | general .. => .general
  | validation .. => .validation
  | options .. => .options
  | rendering .. => .rendering
  | unsupportedKind _ => .unsupportedKind
  | unsupportedLink _ => .unsupportedLink
  | unresolvedLink _ => .unresolvedLink

end Fault

/-! ## Failures -/

/-- **Failure.** How an operation stopped: a fault (no value from outside is in it), a malformed
value, a code link without a destination, the end of an indentation that was not begun, or the
abort that a program asked for. -/
inductive Failure where
  | fault (fault : Fault Empty)
  | malformed (malformed : Malformed)
  | noDestination
  | unmatchedOutdent
  | aborted
  deriving DecidableEq, Repr

/-- The message of a failure. -/
def Failure.message : Failure → String
  | fault f => f.message
  | malformed m => m.message
  | noDestination => ""
  | unmatchedOutdent => "decrease_indent() called without a matching increase_indent()"
  | aborted => "boom"

end DocMarkdown
