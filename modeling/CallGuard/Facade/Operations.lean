import CallGuard.Facade.Delegates
import CallGuard.Facade.Native
import CallGuard.Gate.Operations

/-!
Wrapping namespaces and calling through facades. A call first passes its arguments through the gate
of the symbol, if it has one, and then calls what the symbol stands for at that moment. A delegate
that announces suspension does both only when its result is awaited. A symbol leads to an attribute
or a part of the facade itself before it leads to a delegate.
-/

namespace CallGuard

/-- The outcome of a call: a value, or the rest of the call, which runs when it is awaited. -/
inductive Reply
  | value (v : Value)
  | suspended (rest : Run Value)

/-- The reply with a value; the suspended rest of a call is still to be awaited. -/
def Reply.ofValue (v : Value) : Reply :=
  match v with
  | .suspended .. => .suspended v.await
  | v => .value v

variable [Platform]

namespace Gate

/-- Builds the gates of the symbols that have lines, in the order of a namespace. -/
def buildAll (declarations : Table (List Value)) (registry : Option RegistryId)
    (reporter : Option Reporter) : List String → Run (Table Gate)
  | [] => pure []
  | symbol :: rest => do
    match (Table.get? declarations symbol).getD [] with
    | [] => buildAll declarations registry reporter rest
    | lines =>
      let gate ← build symbol lines registry reporter
      let gates ← buildAll declarations registry reporter rest
      pure ((symbol, gate) :: gates)

end Gate

namespace Facade

def wrapSite : Log.Site := ⟨"facade", "facade", "wrap_module"⟩

/-- A new facade over the names at a place; the looks of what its gates are for may be refused. -/
def create (name : Value) (names : NamespaceId) (ofModule : Bool) (gates : Table Gate) :
    Run FacadeId := do
  let session ← get
  let facade ← Run.ofExcept (make name names ofModule (session.namespaceAt names) gates)
  let (place, session) := session.addFacade facade
  set session
  pure place

/-- Logs that a namespace has been wrapped; a title that cannot be shown leaves no message. -/
def logWrapping (name : Value) (gates : Table Gate) (size : Nat) : Run Unit :=
  match (titleOf name).plain with
  | .error _ => pure ()
  | .ok title =>
    Run.log wrapSite infoSeverity
      ("Wrapped module " ++ title ++ ": " ++ toString gates.length ++ " of " ++ toString size ++
        " symbol(s) validated")
      [("module_name", name),
        ("validated", .list ((sorted (Table.names gates)).map Value.text))]

/-- Wraps a namespace: builds the gates for the lines of its symbols, and a facade with them. -/
def wrap (name : Value) (names : NamespaceId) (ofModule : Bool)
    (declarations : Table (List Value)) (registry : Option RegistryId)
    (reporter : Option Reporter) : Run FacadeId := do
  let session ← get
  let exports := session.namespaceAt names
  let gates ← Gate.buildAll declarations registry reporter (Table.names exports)
  logWrapping name gates exports.length
  create name names ofModule gates

/-! ### Calls of delegates -/

/-- Passes the arguments of a call through what has to be passed first, if there is anything. -/
def passCheck (check : Option Check) (arguments : Arguments) : Run Unit :=
  match check with
  | none => pure ()
  | some (.gate gate) => gate.pass arguments
  | some (.given v) => do
    let named := arguments.named.map fun (name, given) => (Value.text name, given)
    let _ ← v.call ⟨[.tuple arguments.positional, .mapping named], []⟩

/-- What the symbol of a delegate stands for now, if it can be called. -/
def member (delegate : Delegate) : Run Value := do
  match ← delegate.exports.find (.text delegate.symbol) with
  | some (.callable c) => pure (.callable c)
  | _ =>
    let _ ← Run.ofExcept (ErrorRecord.dispatch (.text delegate.symbol) delegate.title)
    throw (.noMember delegate.symbol delegate.title)

/-- Passes a call through the check of a delegate and on to what its symbol stands for. -/
def invoke (delegate : Delegate) (arguments : Arguments) : Run Value := do
  passCheck delegate.check arguments
  let target ← member delegate
  target.call arguments

def callDelegate (delegate : Delegate) (arguments : Arguments) : Run Reply :=
  if delegate.appearance.suspends then
    pure (.suspended (Run.resumed do
      let result ← invoke delegate arguments
      result.await))
  else do
    let result ← invoke delegate arguments
    pure (.ofValue result)

/-! ### What symbols lead to -/

/-- What a symbol leads to on a facade: a part of its type, a delegate, or a value that it holds. -/
inductive Target
  | part (symbol : String) (shape : Shape)
  | made (delegate : Delegate)
  | held (v : Value)
  deriving Inhabited

def Target.ofMember : Member → Target
  | .made delegate => .made delegate
  | .given v => .held v

/-- What a name stands for on a facade itself: leading parts, then attributes, then other parts. -/
def ownTarget? (facade : Facade) (names : Namespace) (name : String) : Option Target :=
  let part := (facade.shape? name).map (Target.part name)
  if leadingParts.contains name then part
  else ((facade.attribute? names name).map Target.held).or part

/-- Looks a name up on a facade of the session; what the facade has itself comes first. -/
def lookUpName (place : FacadeId) (name : String) : Run Target := do
  let facade ← stateAt place
  match facade.ownTarget? (← facade.namesOf) name, facade.type with
  | some target, _ => pure target
  | none, none => Target.ofMember <$> find place name
  | none, some _ => Run.raise (facade.noAttribute name)

def lookUp (place : FacadeId) (symbol : Value) : Run Target :=
  match symbol with
  | .text name => lookUpName place name
  | v => Run.raise v.badAttributeName

/-- Looks a symbol up among the items of a facade, which only the type of facades has. -/
def lookUpItem (place : FacadeId) (symbol : Value) : Run Target := do
  let facade ← stateAt place
  match facade.type with
  | none => lookUp place symbol
  | some c => Run.raise ⟨"TypeError", "'" ++ c.name ++ "' object is not subscriptable"⟩

/-- What a symbol leads to, as a value. -/
def Target.value (place : FacadeId) (target : Target) : Run Value :=
  match target with
  | .made delegate => pure (delegateValue delegate)
  | .held v => pure v
  | .part symbol shape => do
    let facade ← stateAt place
    Run.ofExcept (facade.partValue (← facade.namesOf) symbol shape)

def Target.appearance (place : FacadeId) (target : Target) : Run Appearance :=
  match target with
  | .made delegate => pure delegate.appearance
  | .held v => Run.ofExcept (valueAppearance v)
  | .part symbol shape => do
    let facade ← stateAt place
    pure (facade.partAppearance (← facade.namesOf) symbol shape)

/-- Whether two look-ups that lead to the given targets give the very same thing. -/
def Target.isSame : Target → Target → Bool
  | .part symbol shape, .part again _ => symbol == again && isKept symbol shape
  | .made delegate, .made again => delegate.serial == again.serial
  | .held _, .held _ => true
  | _, _ => false

/-! ### Calls of parts -/

/-- The answer of a method of a facade to arguments that are bound to its parameters. -/
def callMethod (place : FacadeId) (symbol : String) (bound : Table Value) : Run Value := do
  let given (name : String) : Value := (Table.get? bound name).getD .null
  let facade ← stateAt place
  match symbol with
  | "__init__" => do
    initialise place (given "exports") (given "gates") (given "name")
    pure .null
  | "__repr__" => .text <$> Run.ofExcept facade.text
  | "__dir__" => do
    let symbols ← Run.ofExcept (facade.allSymbols (← facade.namesOf))
    pure (.list (symbols.map Value.text))
  | "__getitem__" => do
    let target ← lookUp place (given "symbol")
    target.value place
  | "__getattr__" => memberValue <$> findAny place (given "symbol")
  | _ => memberValue <$> facade.makeDelegate (given "symbol") (Check.ofValue (given "gate")) 0

/-- Reads a name of a facade without asking for a delegate. -/
def readOwn (place : FacadeId) (name : String) : Run Value := do
  let facade ← stateAt place
  match facade.ownTarget? (← facade.namesOf) name with
  | some target => target.value place
  | none => Run.raise (facade.noAttribute name)

/-- Replaces the facade at a place by one that an operation gives. -/
def replace (place : FacadeId) (changed : Except Raised Facade) : Run Value := do
  let facade ← Run.ofExcept changed
  update place fun _ => facade
  pure .null

def callOperator (place : FacadeId) (symbol : String) (operands : List Value) : Run Value := do
  let facade ← stateAt place
  match symbol, operands with
  | "__init__", _ => pure .null
  | "__repr__", _ | "__str__", _ => .text <$> Run.ofExcept facade.text
  | "__getattribute__", [.text name] => readOwn place name
  | "__getattribute__", v :: _ => Run.raise v.badAttributeName
  | "__setattr__", [name, v] => replace place (facade.assign name v)
  | "__delattr__", [name] => replace place (facade.erase name)
  | "__hash__", _ => pure (.int 0)
  | _, _ => pure incomparable

def callPart (place : FacadeId) (symbol : String) (shape : Shape) (arguments : Arguments) :
    Run Value := do
  let facade ← stateAt place
  let names ← facade.namesOf
  match shape with
  | .plain => Run.raise (facade.plainPart names symbol).notCallable
  | .method signature => do
    let bound ← Run.ofExcept (signature.bindMethod .null arguments)
    callMethod place symbol bound
  | .operator operands _ => do
    let operands ← Run.ofExcept (operandsOf symbol operands arguments)
    callOperator place symbol operands
  | .native operands _ => do
    let operands ← Run.ofExcept (facade.nativeOperands symbol operands arguments)
    Run.ofExcept (facade.callNative names symbol operands)
  | .type =>
    match facade.type with
    | none => construct arguments
    | some c => (Value.callable c).call arguments

def callTarget (place : FacadeId) (target : Target) (arguments : Arguments) : Run Reply :=
  match target with
  | .part symbol shape => .ofValue <$> callPart place symbol shape arguments
  | .made delegate => callDelegate delegate arguments
  | .held v => .ofValue <$> v.call arguments

def call (place : FacadeId) (symbol : Value) (arguments : Arguments) : Run Reply := do
  let target ← lookUp place symbol
  callTarget place target arguments

end Facade

end CallGuard
