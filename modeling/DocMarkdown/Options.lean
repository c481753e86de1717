/-!
# Options

Options say how strict a rendering is.  Their classes form a chain in which each refines the one
before; only the last one, for pages, has a field.  `Options.make` and `Options.update` build
options from named fields and refuse a name that the class does not have.
-/

namespace DocMarkdown

namespace Options

/-- **Class of options.**  Each class refines those before it. -/
inductive Class where
  | clone
  | base
  | markdown
  | page
  deriving DecidableEq, Repr

/-- The name of a class, as messages write it. -/
def Class.name : Class → String
  | clone => "CloneFrozenMixin"
  | base => "BaseEmitterOptions"
  | markdown => "MarkdownEmitterOptions"
  | page => "CustomMarkdownEmitterOptions"

/-- How many classes a class refines. -/
def Class.rank : Class → Nat
  | clone => 0
  | base => 1
  | markdown => 2
  | page => 3

/-- Whether options of a class can stand where options of the class `expected` are asked for. -/
def Class.refines (actual expected : Class) : Bool := expected.rank ≤ actual.rank

end Options

/-- **Options.**  Options for pages say whether a link to an unknown declaration is a fault. -/
inductive Options where
  | clone
  | base
  | markdown
  | page (failOnUnresolved : Bool)
  deriving DecidableEq, Repr

namespace Options

/-- The class of options. -/
def toClass : Options → Class
  | clone => .clone
  | base => .base
  | markdown => .markdown
  | page _ => .page

/-- Whether a link to an unknown declaration is a fault under these options. -/
def strict : Options → Bool
  | page failOnUnresolved => failOnUnresolved
  | _ => false

/-! ## Fields -/

/-- The name of the only field. -/
def fieldName : String := "fail_on_unresolved_links"

/-- The fields of options with their values. -/
def fields : Options → List (String × Bool)
  | page failOnUnresolved => [(fieldName, failOnUnresolved)]
  | _ => []

/-- The options of a class with every field at its default. -/
def default : Class → Options
  | .clone => clone
  | .base => base
  | .markdown => markdown
  | .page => page false

/-- The options with one field set, or the field's name if there is no such field. -/
def set : Options → String × Bool → Except String Options
  | page _, (field, value) => if field = fieldName then .ok (page value) else .error field
  | _, (field, _) => .error field

/-- The options with some fields set, or the first name that is no field. -/
def update (options : Options) (changes : List (String × Bool)) : Except String Options :=
  changes.foldlM set options

/-- The options of a class with the given fields, the others at their defaults. -/
def make (type : Class) (given : List (String × Bool)) : Except String Options :=
  (default type).update given

end Options

end DocMarkdown
