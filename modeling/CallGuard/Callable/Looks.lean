import CallGuard.Value.Pairs
import CallGuard.Value.Parts

/-!
What something callable looks like from outside, and what a function that stands in for it takes
over: its module, its names, its documentation, its annotations and its further attributes. What the
callable lacks the function keeps as its own; names that are no texts, annotations that are no
mapping and attributes that cannot be listed are refused.
-/

namespace CallGuard

/--
How something that can be asked for looks from outside: its name, if it has one, the name that is
shown for it, its documentation, and whether calls suspend.
-/
structure Appearance where
  name : Option String
  shown : String
  doc : Option String
  wrapped : Bool
  suspends : Bool
  deriving DecidableEq, Repr, Inhabited

namespace Callable

/-- The attribute that holds the name of something callable. -/
def ownName : String := "__name__"

/-- The attribute that holds the name that is shown for something callable. -/
def shownName : String := "__qualname__"

/-- Whether a call of a callable is known beforehand to suspend. -/
def announcesSuspension (c : Callable) : Bool :=
  match c.kind with
  | .function | .method | .application => c.suspends
  | _ => false

/-- The error of giving a function a name that is no text. -/
def badName (place : String) : Raised :=
  ⟨"TypeError", place ++ " must be set to a string object"⟩

def badAnnotations : Raised :=
  ⟨"TypeError", "__annotations__ must be set to a dict object"⟩

variable [Platform]

/-- What a callable has as an attribute, if it has it. -/
def look (c : Callable) (place : String) : Except Raised (Option Value) :=
  (Value.callable c).optionalAttribute place

/-- A name that a function takes over from a callable, if the callable has it. -/
def lentName (c : Callable) (place : String) : Except Raised (Option String) := do
  match ← c.look place with
  | none => .ok none
  | some (.text name) => .ok (some name)
  | some _ => .error (badName place)

/-- Takes over the annotations of a callable. -/
def lendAnnotations (c : Callable) : Except Raised Unit := do
  match ← c.look "__annotations__" with
  | none | some .null | some (.mapping _) => .ok ()
  | some _ => .error badAnnotations

/-- Takes over the further attributes of a callable. -/
def lendAttributes (c : Callable) : Except Raised Unit := do
  match ← c.look "__dict__" with
  | none => .ok ()
  | some attributes =>
    let _ ← attributes.toEntries
    .ok ()

/-- The names that a callable lends, if nothing that a function takes over from it is refused. -/
def lend (c : Callable) : Except Raised (Option String × Option String) := do
  let _ ← c.look "__module__"
  let name ← c.lentName ownName
  let shown ← c.lentName shownName
  c.lendAnnotations
  c.lendAttributes
  .ok (name, shown)

/-- The looks of a function with a name and a home of its own that stands in for a callable. -/
def standIn (c : Callable) (own home : String) : Except Raised Appearance := do
  let (name, shown) ← c.lend
  .ok
    { name := some (name.getD own)
      shown := shown.getD (home ++ own)
      doc := c.doc
      wrapped := true
      suspends := c.announcesSuspension }

end Callable

end CallGuard
