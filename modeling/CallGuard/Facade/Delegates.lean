import CallGuard.Facade.Attributes
import CallGuard.Session.Calls
import CallGuard.Value.Membership
import CallGuard.Value.Pairs

/-!
How a facade comes to its delegates. They are made from what the facade holds at that moment: one
for every gate when the facade is initialised, and one for every other symbol when it is first asked
for. What is made is kept, so a symbol leads to the same delegate from then on.
-/

namespace CallGuard

variable [Platform]

def Value.lookUpKey (entries : List (Value × Value)) (key : Value) :
    Except Raised (Option Value) :=
  match key.keyFault? with
  | some e => .error e
  | none => .ok (entryFor? entries key)

/-- What a symbol stands for, if anything. -/
def Exports.find (exports : Exports) (symbol : Value) : Run (Option Value) :=
  match exports, symbol with
  | .names place _, .text name => do
    let session ← get
    pure (Table.get? (session.namespaceAt place) name)
  | .names .., symbol => Run.ofExcept (Value.lookUpKey [] symbol)
  | .given (.mapping entries), symbol | .given (.view entries), symbol =>
    Run.ofExcept (Value.lookUpKey entries symbol)
  | .given v, symbol => some <$> v.callAttribute "get" [symbol]

namespace Facade

def stateAt (place : FacadeId) : Run Facade := do
  let session ← get
  pure (session.facadeAt place)

def update (place : FacadeId) (change : Facade → Facade) : Run Unit :=
  modify fun session => session.setFacade place (change (session.facadeAt place))

/-- The names that the delegates of a facade lead to, unless a value was given instead. -/
def namesOf (facade : Facade) : Run Namespace := do
  let session ← get
  match facade.exports with
  | some (.names place _) => pure (session.namespaceAt place)
  | _ => pure []

/-- Makes the delegate of a symbol; one that is no text has to stand for something callable. -/
def makeDelegate (facade : Facade) (symbol : Value) (check : Option Check) (serial : Nat) :
    Run Member := do
  let exports ← Run.ofExcept (facade.require exportsName facade.exports)
  let title ← Run.ofExcept (facade.require titleName facade.title)
  let member ← exports.find symbol
  match symbol, member with
  | .text name, member => do
    let appearance ← Run.ofExcept (Appearance.ofMember name member)
    pure (.made ⟨name, check, exports, title, appearance, serial⟩)
  | _, some (.callable c) => do
    let appearance ← Run.ofExcept (Appearance.ofMember "" (some (.callable c)))
    pure (.given (functionValue appearance.shown))
  | _, _ => Run.raise (Callable.badName Callable.ownName)

/-- Makes what a facade keeps for a symbol: a delegate, unless the facade was given a maker. -/
def makeMember (facade : Facade) (symbol : Value) (check : Option Check) (serial : Nat) :
    Run Member :=
  match Value.entryAt? facade.extra makerSymbol with
  | some maker => .given <$> maker.call ⟨[symbol, checkValue check], []⟩
  | none => facade.makeDelegate symbol check serial

/-- Makes and keeps what a symbol that is not known yet leads to. -/
def keepMember (place : FacadeId) (symbol : Value) : Run Member := do
  let facade ← stateAt place
  match ← Run.ofExcept (facade.require delegatesName facade.delegates) with
  | .kept members => do
    let member ← facade.makeMember symbol none members.length
    update place fun facade =>
      { facade with delegates := some (.kept (Value.setEntry members symbol member)) }
    pure member
  | .given v => do
    let _ ← facade.makeMember symbol none 0
    Run.raise v.refusalAtText

/-- What a facade keeps for a symbol, which is made when it is first asked for. -/
def obtain (place : FacadeId) (symbol : String) : Run Member := do
  let facade ← stateAt place
  match ← Run.ofExcept (facade.require delegatesName facade.delegates) with
  | .kept members =>
    match Value.entryAt? members symbol with
    | some member => pure member
    | none => keepMember place (.text symbol)
  | .given v => do
    let known ← Run.ofExcept (v.containsText symbol)
    if known then Member.given <$> Run.ofExcept (v.atText symbol)
    else keepMember place (.text symbol)

def find (place : FacadeId) (symbol : String) : Run Member :=
  if isReserved symbol then Run.raise ⟨"AttributeError", symbol⟩ else obtain place symbol

/-- Whether a symbol that is no text says of itself that it is never looked up. -/
def saysReserved (symbol : Value) : Run Bool := do
  let isOwn ← symbol.callAttribute "startswith" [.text reservedFront]
  if isOwn.truthy then pure true
  else
    let opens ← symbol.callAttribute "startswith" [.text specialMark]
    if opens.truthy then Value.truthy <$> symbol.callAttribute "endswith" [.text specialMark]
    else pure false

def findAny (place : FacadeId) (symbol : Value) : Run Member :=
  match symbol with
  | .text name => find place name
  | .bytes _ | .byteArray _ =>
    Run.raise ⟨"TypeError", "startswith first arg must be bytes or a tuple of bytes, not str"⟩
  | symbol => do
    if ← saysReserved symbol then
      let shown ← Run.ofExcept symbol.plain
      Run.raise ⟨"AttributeError", shown⟩
    else keepMember place symbol

/-- Makes what a facade keeps for the symbols of gates, in order. -/
def makeMembers (facade : Facade) : Nat → List (Value × Value) → Run (List (Value × Member))
  | _, [] => pure []
  | serial, (symbol, gate) :: rest => do
    let member ← facade.makeMember symbol (Check.ofValue gate) serial
    let members ← facade.makeMembers (serial + 1) rest
    pure ((symbol, member) :: members)

/-- The error of an object whose keys are not to be listed. -/
def badKeys (v keys : Value) : Raised :=
  ⟨"TypeError",
    v.typeName ++ ".keys() returned a non-iterable (type " ++ keys.fullTypeName ++ ")"⟩

/--
The entries of the mapping made from a value. An object may list keys, but it has nothing under
them.
-/
def entriesFrom (v : Value) : Run (List (Value × Value)) :=
  match v with
  | .object .. => do
    match ← Run.unlessMissing (Run.ofExcept (v.requireAttribute "keys")) with
    | none => Run.raise v.notIterable
    | some listing => do
      let keys ← listing.call ⟨[], []⟩
      match keys.items with
      | .ok [] => pure []
      | .ok _ => Run.raise v.notSubscriptable
      | .error e => Run.raise (if e.kind = "TypeError" then badKeys v keys else e)
  | v => Run.ofExcept v.toEntries

/-- Initialises a facade in steps; those before a step that fails stay done. -/
def initialise (place : FacadeId) (exports gates name : Value) : Run Unit := do
  update place fun facade => { facade with exports := some (.given exports) }
  let entries ← entriesFrom gates
  update place fun facade =>
    { facade with gates := some (.given (.view entries)), title := some (titleOf name) }
  let facade ← stateAt place
  let members ← facade.makeMembers 0 entries
  update place fun facade => { facade with delegates := some (.kept members) }

def initialiseWith (place : FacadeId) (arguments : Arguments) : Run Unit := do
  let bound ← Run.ofExcept (makingSignature.bindMethod .null arguments)
  let given (name : String) : Value := (Table.get? bound name).getD .null
  initialise place (given "exports") (given "gates") (given "name")

/-- A new facade as a value, made with the arguments of a call. -/
def construct (arguments : Arguments) : Run Value := do
  let session ← get
  let (place, session) := session.addFacade {}
  set session
  initialiseWith place arguments
  let facade ← stateAt place
  Value.described typeName <$> Run.ofExcept facade.text

end Facade

end CallGuard
