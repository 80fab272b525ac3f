import CallGuard.Facade.Part
import CallGuard.Value.Parts
import CallGuard.Value.TypeDoc

/-!
The attributes of a facade: those that it starts with and those that were set, as values. An
attribute can be set, replaced and taken away; the type of a facade and the whole of its attributes
can be replaced as well. What is missing is an error of the facade when it is needed.
-/

namespace CallGuard.Facade

def exportsName : String := reservedFront ++ "exports"

def gatesName : String := reservedFront ++ "gates"

def titleName : String := reservedFront ++ "name"

def delegatesName : String := reservedFront ++ "delegates"

/-- The error of asking an object of a facade's type for what it does not have. -/
def noAttribute (facade : Facade) (name : String) : Raised :=
  ⟨"AttributeError", "'" ++ facade.ownTypeName ++ "' object has no attribute '" ++ name ++ "'"⟩

def lacking (facade : Facade) (name : String) : Raised :=
  match facade.type with
  | none => ⟨"AttributeError", name⟩
  | some _ => facade.noAttribute name

def require {α : Type} (facade : Facade) (name : String) (attribute? : Option α) :
    Except Raised α :=
  match attribute? with
  | some a => .ok a
  | none => .error (facade.lacking name)

/-! ### Attributes as values -/

def functionText (name : String) : String :=
  "<function " ++ name ++ " at 0x0>"

def functionValue (name : String) : Value :=
  .described "function" (functionText name)

def delegateValue (delegate : Delegate) : Value :=
  functionValue delegate.appearance.shown

/-- What a facade keeps for a symbol, as a value. -/
def memberValue : Member → Value
  | .made delegate => delegateValue delegate
  | .given v => v

def gateValue (gate : Gate) : Value :=
  .described "ValidationGate" gate.text

/-- What calls pass first, as a value. -/
def checkValue : Option Check → Value
  | none => .null
  | some (.gate gate) => gateValue gate
  | some (.given v) => v

/-- What delegates lead to, as a value: the names of a module can only be seen. -/
def exportsValue (names : Namespace) : Exports → Value
  | .names _ ofModule =>
    let entries := names.map fun (name, v) => (Value.text name, v)
    if ofModule then .view entries else .mapping entries
  | .given v => v

def gatesValue : Gates → Value
  | .built gates => .view (gates.map fun (symbol, gate) => (.text symbol, gateValue gate))
  | .given v => v

def delegatesValue : Delegates → Value
  | .kept members => .mapping (members.map fun (symbol, member) => (symbol, memberValue member))
  | .given v => v

/-- The attributes of a facade in order, given the names that its delegates lead to. -/
def attributes (facade : Facade) (names : Namespace) : List (Value × Value) :=
  let entry (name : String) (v : Value) : Value × Value := (.text name, v)
  (facade.exports.map fun exports => entry exportsName (exportsValue names exports)).toList ++
    (facade.gates.map fun gates => entry gatesName (gatesValue gates)).toList ++
    (facade.title.map (entry titleName)).toList ++
    (facade.delegates.map fun delegates => entry delegatesName (delegatesValue delegates)).toList ++
    facade.extra

def attribute? (facade : Facade) (names : Namespace) (name : String) : Option Value :=
  Value.entryAt? (facade.attributes names) name

def plainPart (facade : Facade) (names : Namespace) (symbol : String) : Value :=
  match symbol with
  | "__dict__" => .mapping (facade.attributes names)
  | "__doc__" => (facade.ownTypeDoc.map Value.text).getD .null
  | "__module__" => .text facade.ownHome
  | _ => .null

/-! ### Changing attributes -/

def delegatesOf : Value → Delegates
  | .mapping entries => .kept (entries.map fun (symbol, v) => (symbol, .given v))
  | v => .given v

def setAttribute (facade : Facade) (name : String) (v : Value) : Facade :=
  if name = exportsName then { facade with exports := some (.given v) }
  else if name = gatesName then { facade with gates := some (.given v) }
  else if name = titleName then { facade with title := some v }
  else if name = delegatesName then { facade with delegates := some (delegatesOf v) }
  else { facade with extra := Value.setEntry facade.extra (.text name) v }

/-- A facade whose only attributes are the given entries. -/
def withAttributes (facade : Facade) (entries : List (Value × Value)) : Facade :=
  entries.foldl (fun facade (key, v) =>
    match key with
    | .text name => facade.setAttribute name v
    | key => { facade with extra := facade.extra ++ [(key, v)] }) { type := facade.type }

/-- The error of changing the part that tells who refers to an object. -/
def notWritable (facade : Facade) : Raised :=
  ⟨"AttributeError",
    "attribute '__weakref__' of '" ++ facade.ownTypeName ++ "' objects is not writable"⟩

/-- Sets what a name stands for on a facade: its type, all its attributes, or one of them. -/
def assign (facade : Facade) (name v : Value) : Except Raised Facade :=
  match name, v with
  | .text "__class__", .callable c =>
    if c.kind = .classObject then .ok { facade with type := some c } else .error (notType v)
  | .text "__class__", v => .error (notType v)
  | .text "__dict__", .mapping entries => .ok (facade.withAttributes entries)
  | .text "__dict__", v =>
    .error ⟨"TypeError",
      "__dict__ must be set to a dictionary, not a '" ++ v.fullTypeName ++ "'"⟩
  | .text "__weakref__", _ => .error facade.notWritable
  | .text name, v => .ok (facade.setAttribute name v)
  | name, _ => .error name.badAttributeName
where
  /-- The error of giving a facade a type that is no type. -/
  notType (v : Value) : Raised :=
    ⟨"TypeError", "__class__ must be set to a class, not '" ++ v.fullTypeName ++ "' object"⟩

/-- Takes an attribute away, if the facade has it. -/
def dropAttribute (facade : Facade) (name : String) : Facade :=
  if name = exportsName then { facade with exports := none }
  else if name = gatesName then { facade with gates := none }
  else if name = titleName then { facade with title := none }
  else if name = delegatesName then { facade with delegates := none }
  else { facade with extra := facade.extra.filter fun entry => !entry.1.sameKey (.text name) }

def erase (facade : Facade) (name : Value) : Except Raised Facade :=
  match name with
  | .text "__class__" => .error ⟨"TypeError", "can't delete __class__ attribute"⟩
  | .text "__dict__" => .ok { type := facade.type }
  | .text "__weakref__" => .error facade.notWritable
  | .text name =>
    if (facade.attribute? [] name).isSome then .ok (facade.dropAttribute name)
    else .error (facade.noAttribute name)
  | name => .error name.badAttributeName

/-! ### What a facade shows -/

def gateCount : Gates → Except Raised Nat
  | .built gates => .ok gates.length
  | .given v => v.length

variable [Platform]

def text (facade : Facade) : Except Raised String :=
  match facade.type with
  | some _ => .ok ("<" ++ facade.fullTypeName ++ " object at 0x0>")
  | none => do
    let title ← facade.require titleName facade.title
    let shown ← title.plain
    let gates ← facade.require gatesName facade.gates
    let count ← gateCount gates
    .ok ("<" ++ typeName ++ " " ++ shown ++ " (" ++ toString count ++ " validated)>")

/-- A part of a facade as a value; the one that can only be shown needs the text of the facade. -/
def partValue (facade : Facade) (names : Namespace) (symbol : String) (shape : Shape) :
    Except Raised Value :=
  match shape with
  | .plain => .ok (facade.plainPart names symbol)
  | .method signature => do
    let text ← facade.text
    .ok (.described "method" ("<bound method " ++ signature.name ++ " of " ++ text ++ ">"))
  | .operator .. =>
    .ok (.described "method-wrapper"
      ("<method-wrapper '" ++ symbol ++ "' of " ++ facade.ownTypeName ++ " object at 0x0>"))
  | .native .. =>
    .ok (.described "builtin_function_or_method"
      ("<built-in method " ++ symbol ++ " of " ++ facade.ownTypeName ++ " object at 0x0>"))
  | .type => .ok facade.typeValue

def partAppearance (facade : Facade) (names : Namespace) (symbol : String) (shape : Shape) :
    Appearance :=
  let seen (name : Option String) (doc : Option String) : Appearance :=
    { name, shown := symbol, doc, wrapped := false, suspends := false }
  match shape with
  | .plain => seen none (facade.plainPart names symbol).typeDoc
  | .method _ => seen (some (methodName symbol)) none
  | .operator _ doc | .native _ doc => seen (some symbol) (some doc)
  | .type => seen (some facade.ownTypeName) facade.ownTypeDoc

def textIn : Option Value → Option String
  | some (.text s) => some s
  | _ => none

/-- Whether a call of a value is known beforehand to suspend. -/
def announcesSuspension : Value → Bool
  | .callable c => c.announcesSuspension
  | _ => false

def valueAppearance (v : Value) : Except Raised Appearance :=
  match v with
  | .module name => .ok { name := some name, shown := name, doc := none, wrapped := false
                          suspends := false }
  | v => do
    let name ← v.optionalAttribute Callable.ownName
    let doc ← v.optionalAttribute Value.documentation
    let wrapped ← v.optionalAttribute "__wrapped__"
    .ok { name := textIn name, shown := v.typeName, doc := (textIn doc).or v.typeDoc
          wrapped := wrapped.isSome, suspends := announcesSuspension v }

/-- The symbols of gates, each with the text and the number of parameters of its gate. -/
def gateRows (facade : Facade) : Except Raised (List (Value × String × Nat)) := do
  match ← facade.require gatesName facade.gates with
  | .built gates =>
    .ok (gates.map fun (symbol, gate) => (.text symbol, gate.text, gate.outline.length))
  | .given (.mapping entries) | .given (.view entries) =>
    entries.mapM fun (symbol, v) => do
      let shown ← v.written
      .ok (symbol, shown, ← v.length)
  | .given v => .error (v.noAttribute "items")

def exportedSymbols (names : Namespace) : Exports → Except Raised (List Value)
  | .names .. => .ok ((Table.names names).map Value.text)
  | .given v => do
    let symbols ← v.items
    match symbols.findSome? Value.keyFault? with
    | some e => .error e
    | none => .ok symbols

/-- The error of putting a value in order among texts. -/
def unordered (v : Value) : Raised :=
  ⟨"TypeError", "'<' not supported between instances of '" ++ v.fullTypeName ++ "' and 'str'"⟩

/-- Symbols in order, each once; all of them have to be texts. -/
def sortedSymbols (symbols : List Value) : Except Raised (List String) := do
  let texts ← symbols.mapM fun symbol =>
    match symbol with
    | .text s => .ok s
    | v => .error (unordered v)
  .ok (sorted texts.eraseDups)

/-- The symbols that a facade lists: its attributes, its parts, and what its delegates lead to. -/
def allSymbols (facade : Facade) (names : Namespace) : Except Raised (List String) := do
  let own := (facade.attributes []).map (·.1) ++ (Table.names facade.shapes).map Value.text
  match facade.type with
  | some _ => sortedSymbols own
  | none => do
    let exports ← facade.require exportsName facade.exports
    let exported ← exportedSymbols names exports
    sortedSymbols (exported ++ own)

/-- The symbols that a facade lists, apart from those that it keeps for itself. -/
def listed (facade : Facade) (names : Namespace) : Except Raised (List String) := do
  let all ← facade.allSymbols names
  .ok (all.filter fun name => !(name.startsWith specialMark || name.startsWith "_ModuleFacade"))

end CallGuard.Facade
