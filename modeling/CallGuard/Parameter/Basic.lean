import CallGuard.Declaration.Reading
import CallGuard.Failure

/-!
The parameters of a function, each with the properties declared below it. Declarations are placed
one by one: a parameter may be declared only once, and a property only after its parameter; a
property without its parameter is left out.
-/

namespace CallGuard

/-- A declared property of a parameter. -/
structure PropertyConstraint where
  name : String
  path : String
  tag : String
  description : String
  depth : Nat
  deriving DecidableEq, Repr, Inhabited

def PropertyConstraint.label (constraint : PropertyConstraint) : String :=
  constraint.name ++ "." ++ constraint.path

/-- A declared parameter with its properties. -/
structure Parameter where
  tag : String
  name : String
  description : String
  properties : List PropertyConstraint
  deriving DecidableEq, Repr, Inhabited

/-- The parameters of a function in the order of their declarations. -/
abbrev Outline := List Parameter

/-- The least depth of a property: its parameter and one segment below. -/
def leastPropertyDepth : Nat := 2

/-- What becomes of a declaration. -/
inductive Placement
  | placed (outline : Outline)
  | orphan
  | duplicate
  | tooShallow
  deriving DecidableEq, Repr

namespace Outline

def declares (outline : Outline) (name : String) : Bool :=
  outline.any fun parameter => parameter.name = name

def addParameter (outline : Outline) (d : Declaration) : Outline :=
  outline ++ [⟨d.tag, d.name, d.description, []⟩]

def addProperty (outline : Outline) (constraint : PropertyConstraint) : Outline :=
  outline.map fun parameter =>
    if parameter.name = constraint.name then
      { parameter with properties := parameter.properties ++ [constraint] }
    else parameter

def place (outline : Outline) (d : Declaration) : Placement :=
  match d.path with
  | none => if outline.declares d.name then .duplicate else .placed (outline.addParameter d)
  | some path =>
    if !outline.declares d.name then .orphan
    else if d.depth < leastPropertyDepth then .tooShallow
    else .placed (outline.addProperty ⟨d.name, path, d.tag, d.description, d.depth⟩)

end Outline

/-- What a line of a function's documentation holds. -/
inductive Entry
  | declaration (d : Declaration)
  | noHeading (line : String)
  | emptySegment (line : String)
  | nothing
  deriving DecidableEq, Repr

/-- Reads a line; a value that is no text holds nothing. -/
def Entry.ofValue : Value → Entry
  | .text line =>
    match Declaration.read line with
    | .declaration d => .declaration d
    | .noHeading => .noHeading line
    | .emptySegment => .emptySegment line
  | _ => .nothing

/-- An entry that was left out, and why. -/
inductive Omission
  | noHeading (line : String)
  | emptySegment (line : String)
  | orphan (name path : String)
  deriving DecidableEq, Repr

namespace Outline

/--
Places entries in order up to the first that cannot be placed. What is left out on the way is told
along with the outcome.
-/
def collect (function : Option String) (outline : Outline) :
    List Entry → List Omission × Except Failure Outline
  | [] => ([], .ok outline)
  | .nothing :: rest => collect function outline rest
  | .noHeading line :: rest =>
    let (omitted, outcome) := collect function outline rest
    (.noHeading line :: omitted, outcome)
  | .emptySegment line :: rest =>
    let (omitted, outcome) := collect function outline rest
    (.emptySegment line :: omitted, outcome)
  | .declaration d :: rest =>
    match outline.place d with
    | .placed outline => collect function outline rest
    | .orphan =>
      let (omitted, outcome) := collect function outline rest
      (.orphan d.name (d.path.getD "") :: omitted, outcome)
    | .duplicate => ([], .error (.duplicateParameter d.name function))
    | .tooShallow => ([], .error (.invalid [.at (.tooSmall leastPropertyDepth) "depth"]))

/-- The outline of entries in order. -/
def ofEntries (function : Option String) (entries : List Entry) : Except Failure Outline :=
  (collect function [] entries).2

end Outline

end CallGuard
