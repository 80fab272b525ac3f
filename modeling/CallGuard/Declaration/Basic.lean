import CallGuard.Text.Trim

/-!
A declaration states the type of one parameter, or of one property below a parameter, as in
`{Number} [options.limit] Maximum number of rows`.
-/

namespace CallGuard

/-- One declared type: of a parameter, or of a property at a dotted path below it. -/
structure Declaration where
  tag : String
  name : String
  path : Option String
  description : String
  depth : Nat
  deriving DecidableEq, Repr, Inhabited

namespace Declaration

def isRoot (d : Declaration) : Bool :=
  d.path.isNone

def dottedName (d : Declaration) : String :=
  match d.path with
  | none => d.name
  | some path => d.name ++ "." ++ path

def line (d : Declaration) : String :=
  "\x7b" ++ d.tag ++ "\x7d [" ++ d.dottedName ++ "] " ++ d.description

end Declaration

end CallGuard
