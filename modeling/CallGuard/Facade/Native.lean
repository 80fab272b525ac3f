import CallGuard.Facade.Attributes

/-!
What the parts do that every object has: their operands, which are given by position, and their
answers for a facade.
-/

namespace CallGuard.Facade

def operandCount (operands given : Nat) : Raised :=
  ⟨"TypeError", (if operands > 1 then " " else "") ++ "expected " ++ toString operands ++
    (if operands = 1 then " argument, got " else " arguments, got ") ++ toString given⟩

/-- The operands of an operator, which are given by position and in the right number. -/
def operandsOf (symbol : String) (operands : Option Nat) (arguments : Arguments) :
    Except Raised (List Value) :=
  match operands with
  | none => .ok arguments.positional
  | some count =>
    if !arguments.named.isEmpty then
      .error ⟨"TypeError", "wrapper " ++ symbol ++ "() takes no keyword arguments"⟩
    else if arguments.positional.length ≠ count then
      .error (operandCount count arguments.positional.length)
    else .ok arguments.positional

/-- The operands of a native part, which are given by position and in the right number. -/
def nativeOperands (facade : Facade) (symbol : String) (operands : Option Nat)
    (arguments : Arguments) : Except Raised (List Value) :=
  let name := facade.ownTypeName ++ "." ++ symbol ++ "()"
  let given := arguments.positional.length
  let refuse (what : String) : Except Raised (List Value) :=
    .error ⟨"TypeError", what ++ " (" ++ toString given ++ " given)"⟩
  if symbol = "__new__" then .ok arguments.positional
  else if !arguments.named.isEmpty then
    .error ⟨"TypeError", (if operands.isNone then symbol ++ "()" else name) ++
      " takes no keyword arguments"⟩
  else
    match operands with
    | none => .ok arguments.positional
    | some count =>
      if given = count then .ok arguments.positional
      else if count = 0 then refuse (name ++ " takes no arguments")
      else refuse (name ++ " takes exactly one argument")

def stageBound : Nat := Nat.pow 2 31

/-- Whether a number is within the bound of the stages of reduction. -/
def isStage (n : Int) : Bool :=
  -(stageBound : Int) ≤ n && n < stageBound

/-- The state of a facade: its attributes, or the empty value when it has none. -/
def state (facade : Facade) (names : Namespace) : Value :=
  match facade.attributes names with
  | [] => .null
  | entries => .mapping entries

/-- The parts from which a facade can be put together again, in the form of a stage. -/
def reduction (facade : Facade) (names : Namespace) (stage : Int) : Value :=
  let state := facade.state names
  let type := facade.typeValue
  if stage < 2 then
    .tuple ([functionValue "_reconstructor",
      .tuple [type, .described "type" "<class 'object'>", .null]] ++
        (if state.truthy then [state] else []))
  else .tuple [functionValue "__newobj__", .tuple [type], state, .null, .null]

def stageOf (v : Value) : Except Raised Int :=
  match v with
  | .bool b => .ok (if b then 1 else 0)
  | .int n =>
    if isStage n then .ok n
    else .error ⟨"OverflowError", "Python int too large to convert to C int"⟩
  | v => .error
      ⟨"TypeError", "'" ++ v.fullTypeName ++ "' object cannot be interpreted as an integer"⟩

/-- The word for a value that is no text where a format is asked for. -/
def formatWord : Value → String
  | .null => "None"
  | v => v.fullTypeName

variable [Platform]

def callNative (facade : Facade) (names : Namespace) (symbol : String)
    (operands : List Value) : Except Raised Value :=
  match symbol, operands with
  | "__dir__", _ => do
    let symbols ← facade.allSymbols names
    .ok (.list (symbols.map Value.text))
  | "__format__", [.text ""] => .text <$> facade.text
  | "__format__", [.text _] =>
    .error ⟨"TypeError",
      "unsupported format string passed to " ++ facade.ownTypeName ++ ".__format__"⟩
  | "__format__", [v] =>
    .error ⟨"TypeError", "__format__() argument must be str, not " ++ formatWord v⟩
  | "__new__", [] => .error ⟨"TypeError", "object.__new__(): not enough arguments"⟩
  | "__new__", v :: _ =>
    .error ⟨"TypeError", "object.__new__(X): X is not a type object (" ++ v.fullTypeName ++ ")"⟩
  | "__subclasshook__", _ => .ok incomparable
  | "__sizeof__", _ => .ok (.int 24)
  | "__getstate__", _ => .ok (facade.state names)
  | "__reduce__", _ => .ok (facade.reduction names 0)
  | "__reduce_ex__", [v] => facade.reduction names <$> stageOf v
  | _, _ => .ok .null

end CallGuard.Facade
