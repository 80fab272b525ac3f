import CallGuard.Callable.Looks
import CallGuard.Gate.Basic
import CallGuard.Table

/-!
Facades: a delegate for every symbol of a namespace. Delegates of symbols with a gate are made with
the facade, all others when they are first asked for, and each is kept. A delegate takes its looks
from what its symbol stands for when it is made. A facade is an object whose attributes can be set
and taken away, so any value can come to stand where the namespace, the gates, the title or the
delegates stood.
-/

namespace CallGuard

/-- The names of a module with their values. -/
abbrev Namespace := Table Value

/-- The place of a namespace among those of a session. -/
abbrev NamespaceId := Nat

/-- The place of a facade among those of a session. -/
abbrev FacadeId := Nat

/-- The name of a delegate that stands in for something without a name. -/
def delegateName (suspends : Bool) : String :=
  if suspends then "async_delegate" else "delegate"

/-- Where delegates are made, as it is shown in the name of one that has no name of its own. -/
def delegateHome : String := "ModuleFacade.__make_delegate.<locals>."

/-- The appearance of the delegate of a symbol that stands for a value, or for nothing. -/
def Appearance.ofMember [Platform] (symbol : String) (member : Option Value) :
    Except Raised Appearance :=
  match member with
  | some (.callable c) => c.standIn (delegateName c.announcesSuspension) delegateHome
  | _ =>
    .ok { name := some symbol, shown := symbol, doc := none, wrapped := false, suspends := false }

/--
Where delegates find what they lead to: the names at a place of the session, which may be those of a
module, or a value that was given instead.
-/
inductive Exports
  | names (place : NamespaceId) (ofModule : Bool)
  | given (v : Value)
  deriving Inhabited

/-- What the arguments of a call pass first: a gate, or a value that is called in its place. -/
inductive Check
  | gate (gate : Gate)
  | given (v : Value)
  deriving Inhabited

/--
What stands in for a symbol: what calls pass first, where the symbol is looked up, the title that
errors show, its appearance, and its number among the delegates.
-/
structure Delegate where
  symbol : String
  check : Option Check
  exports : Exports
  title : Value
  appearance : Appearance
  serial : Nat
  deriving Inhabited

/-- What a facade keeps for a symbol: a delegate, or a value that was given instead. -/
inductive Member
  | made (delegate : Delegate)
  | given (v : Value)
  deriving Inhabited

/-- The gates of a facade: those that were built, or a value that was given instead. -/
inductive Gates
  | built (gates : Table Gate)
  | given (v : Value)
  deriving Inhabited

/--
What a facade keeps its delegates in: a mapping, whose keys are symbols unless others were given, or
a value that was given instead.
-/
inductive Delegates
  | kept (members : List (Value × Member))
  | given (v : Value)
  deriving Inhabited

/--
A facade: the attributes that every facade starts with, unless they were taken away, further ones,
and another type if one was given to it.
-/
structure Facade where
  exports : Option Exports := none
  gates : Option Gates := none
  title : Option Value := none
  delegates : Option Delegates := none
  extra : List (Value × Value) := []
  type : Option Callable := none
  deriving Inhabited

/-- The check that a value given in place of a gate makes; the empty value makes none. -/
def Check.ofValue : Value → Option Check
  | .null => none
  | v => some (.given v)

namespace Facade

/-- The title of a facade without a name. -/
def untitled : String := "<module>"

/-- The title of a facade: its name unless that is empty. -/
def titleOf (name : Value) : Value :=
  if name.truthy then name else .text untitled

def reservedFront : String := "_ModuleFacade__"

def specialMark : String := "__"

/-- Whether a symbol is never looked up in the namespace. -/
def isReserved (symbol : String) : Bool :=
  symbol.startsWith reservedFront || (symbol.startsWith specialMark && symbol.endsWith specialMark)

variable [Platform]

/-- The delegates of gates in order; one whose looks are refused ends the making of them. -/
def gateDelegates (exports : Exports) (title : Value) (names : Namespace) :
    Nat → Table Gate → Except Raised (List (Value × Member))
  | _, [] => .ok []
  | serial, (symbol, gate) :: rest => do
    let appearance ← Appearance.ofMember symbol (Table.get? names symbol)
    let members ← gateDelegates exports title names (serial + 1) rest
    .ok ((.text symbol, .made ⟨symbol, some (.gate gate), exports, title, appearance, serial⟩) ::
      members)

def make (name : Value) (place : NamespaceId) (ofModule : Bool) (names : Namespace)
    (gates : Table Gate) : Except Raised Facade := do
  let exports := Exports.names place ofModule
  let title := titleOf name
  let delegates ← gateDelegates exports title names 0 gates
  .ok
    { exports := some exports
      gates := some (.built gates)
      title := some title
      delegates := some (.kept delegates) }

/-- Texts in ascending order. -/
def sorted (texts : List String) : List String :=
  texts.mergeSort fun a b => !(b < a)

end Facade

end CallGuard
