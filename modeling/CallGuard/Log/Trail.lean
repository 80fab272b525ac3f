import CallGuard.Number.Magnitude
import CallGuard.Session.Calls
import CallGuard.Value.Parts
import CallGuard.Value.Written

/-!
The trail of an error: the steps that led to it, each with a file, a line and a name. A value set in
the place of a trail is gone along by its attributes, and the first of them that is missing or not
what it has to be is the error of going along it.
-/

namespace CallGuard.Log

open CallGuard.Number

/-- A step of a trail. -/
structure Frame where
  file : Value
  line : Value
  name : Value

/-- The error of an iteration that ends where it must not. -/
def endedIteration : Raised :=
  ⟨"RuntimeError", "generator raised StopIteration"⟩

/-- An operation inside an iteration, which must not end it. -/
def Run.iterated {α : Type} (operation : Run α) : Run α :=
  tryCatch operation fun failure =>
    match failure with
    | .raised e =>
      if e.kind = iterationEndKind then Run.raise endedIteration else throw failure
    | failure => throw failure

/-- The name of the type of a value that is compared; a view is compared as a mapping. -/
def comparedType : Value → String
  | .view _ => "dict"
  | v => v.fullTypeName

/-- The error of comparing a value with a number that it cannot be compared with. -/
def notComparable (comparison left right : String) : Raised :=
  ⟨"TypeError", "'" ++ comparison ++ "' not supported between instances of '" ++ left ++
    "' and '" ++ right ++ "'"⟩

def undefinedComparison : Raised :=
  ⟨"InvalidOperation", "[<class 'decimal.InvalidOperation'>]"⟩

/-- Whether a value is a number, or the error of comparing it with one. -/
def requireNumber (v : Value) (fault : Raised) : Except Raised Unit :=
  match v with
  | .decimal (.nan ..) => .error undefinedComparison
  | .bool _ | .int _ | .float _ | .decimal _ | .fraction .. => .ok ()
  | _ => .error fault

def isNegativeNumber : Value → Bool
  | .int n => n < 0
  | .float x => x.isNegative && !x.isZero
  | .decimal (.finite negative coefficient _) => negative && coefficient ≠ 0
  | .decimal (.infinite negative) => negative
  | .fraction num _ => num < 0
  | _ => false

def badPlace : Raised :=
  ⟨"ValueError", "Indices for islice() must be None or an integer: 0 <= x <= sys.maxsize."⟩

/-- The error of a quotient of decimal numbers that has too many digits. -/
def longQuotient : Raised :=
  ⟨"InvalidOperation", "[<class 'decimal.DivisionImpossible'>]"⟩

/-- Whether the whole part of half a decimal number has more digits than the working precision. -/
def isHalfTooLong (coefficient : Nat) (exponent : Int) : Bool :=
  let place := exponent + digitCount coefficient - 1
  if coefficient = 0 || place < 0 then false
  else if place > workingDigits then true
  else
    let half := coefficient * Nat.pow 10 exponent.toNat / (2 * Nat.pow 10 (-exponent).toNat)
    digitCount half > workingDigits

/-- The place of the position of an instruction; two instructions share one. -/
def positionPlace (instruction : Value) : Except Raised Nat :=
  let place : Option Int :=
    match instruction with
    | .bool _ => some 0
    | .int n => some (n / 2)
    | .fraction num den => some (num / (2 * den))
    | _ => none
  match place, instruction with
  | some n, _ => if n ≤ Value.longestLength then .ok n.toNat else .error badPlace
  | none, .decimal (.finite _ coefficient exponent) =>
    .error (if isHalfTooLong coefficient exponent then longQuotient else badPlace)
  | none, _ => .error badPlace

variable [Platform]

def toldPosition (code instruction : Value) : Run Value := do
  let told ← code.callAttribute "co_positions" []
  let place ← Run.ofExcept (positionPlace instruction)
  let positions ← Run.ofExcept told.items
  match positions[place]? with
  | some position => pure position
  | none => Run.raise endedIteration

/-- A position with the line of the trail in the place of its own. -/
def withLine (line position : Value) : Except Raised Value :=
  match position with
  | .tuple items => .ok (.tuple (line :: items.drop 1))
  | .record _ fields => .ok (.tuple (line :: (fields.drop 1).map (·.2)))
  | .mapping _ | .view _ => .error ⟨"TypeError", "unhashable type: 'slice'"⟩
  | .deque _ => .error ⟨"TypeError", "sequence index must be integer, not 'slice'"⟩
  | v => .error ⟨"TypeError", "can only concatenate tuple (not \"" ++ v.fullTypeName ++
      "\") to tuple"⟩

/-- The frame of a trail and the position in it; without a line of its own it has the trail's. -/
def here (trail : Value) : Run (Value × Value) := do
  let frame ← Run.ofExcept (trail.requireAttribute "tb_frame")
  let code ← Run.ofExcept (frame.requireAttribute "f_code")
  let instruction ← Run.ofExcept (trail.requireAttribute "tb_lasti")
  Run.ofExcept (requireNumber instruction (notComparable "<" (comparedType instruction) "int"))
  let position ←
    if isNegativeNumber instruction then pure (.tuple [.null, .null, .null, .null])
    else toldPosition code instruction
  match ← Run.ofExcept (position.partAt 0) with
  | .null => do
    let line ← Run.ofExcept (trail.requireAttribute "tb_lineno")
    let position ← Run.ofExcept (withLine line position)
    pure (frame, position)
  | _ => pure (frame, position)

def positionSize : Nat := 4

/-- The line of a position, which has a number of parts. -/
def lineOf (position : Value) : Except Raised Value := do
  let items ← position.items
  if items.length < positionSize then
    .error ⟨"ValueError", "not enough values to unpack (expected " ++ toString positionSize ++
      ", got " ++ toString items.length ++ ")"⟩
  else if items.length > positionSize then
    .error ⟨"ValueError", "too many values to unpack (expected " ++ toString positionSize ++ ")"⟩
  else .ok (items.headD .null)

def moduleNameKey : String := "__name__"

def bytesFront : Raised :=
  ⟨"TypeError", "startswith first arg must be bytes or a tuple of bytes, not str"⟩

/-- Whether the names that a frame sees hold the name of a module. -/
def namesModule (names : Value) : Except Raised Bool :=
  match names with
  | .mapping entries | .view entries => .ok (Value.entryAt? entries moduleNameKey).isSome
  | .text s => .ok ((s.splitOn moduleNameKey).length > 1)
  | .list items | .tuple items | .deque items | .set items =>
    .ok (items.any fun item => item.sameKey (.text moduleNameKey))
  | .record _ fields => .ok (fields.any fun field => field.2.sameKey (.text moduleNameKey))
  | .range .. => .ok false
  | .bytes _ | .byteArray _ =>
    .error ⟨"TypeError", "a bytes-like object is required, not 'str'"⟩
  | v => .error ⟨"TypeError", "argument of type '" ++ v.fullTypeName ++ "' is not iterable"⟩

/-- Looks for what loaded the module whose names a frame sees, which only a mapping can tell. -/
def askLoader (names : Value) : Except Raised Unit := do
  let named ← if names.truthy then namesModule names else .ok false
  match named, names with
  | false, _ | true, .mapping _ | true, .view _ => .ok ()
  | true, names => .error (names.noAttribute "get")

/-- Whether a file is known to have no source: it has no name, or one in angle brackets. -/
def isSourceless (file : Value) : Run Bool :=
  match file with
  | .text s => pure (s.isEmpty || (s.startsWith "<" && s.endsWith ">"))
  | .bytes bs => if bs.isEmpty then pure true else Run.raise bytesFront
  | file =>
    if !file.truthy then pure true
    else do
      let front ← file.callAttribute "startswith" [.text "<"]
      if !front.truthy then pure false
      else do
        let back ← file.callAttribute "endswith" [.text ">"]
        pure back.truthy

def stepOf (frame position : Value) : Run Frame := do
  let line ← Run.ofExcept (lineOf position)
  let code ← Run.ofExcept (frame.requireAttribute "f_code")
  let file ← Run.ofExcept (code.requireAttribute "co_filename")
  let name ← Run.ofExcept (code.requireAttribute "co_name")
  match file.keyFault? with
  | some e => Run.raise e
  | none => do
    let names ← Run.ofExcept (frame.requireAttribute "f_globals")
    if !(← isSourceless file) then Run.ofExcept (askLoader names)
    pure ⟨file, line, name⟩

mutual

/-- The steps of a trail, which ends with nothing. -/
def steps : Value → Run (List Frame)
  | .null => pure []
  | .object type attributes raising => do
    let trail := Value.object type attributes raising
    let (frame, position) ← Run.iterated (here trail)
    let first ← stepOf frame position
    let _ ← Run.iterated (Run.ofExcept (trail.requireAttribute "tb_next"))
    let rest ← stepsAfter attributes
    pure (first :: rest)
  | trail => do
    let _ ← Run.iterated (here trail)
    pure []

/-- The steps of the trail that follows, which is one of the attributes. -/
def stepsAfter : List (String × Value) → Run (List Frame)
  | [] => pure []
  | (name, v) :: rest => if name = "tb_next" then steps v else stepsAfter rest

end

/-- Checks that the line of a step is a number, if it has one. -/
def Frame.check (frame : Frame) : Except Raised Unit :=
  match frame.line with
  | .null => .ok ()
  | .view entries => .error (notComparable ">=" (comparedType (.view entries)) "int")
  | line => requireNumber line (notComparable "<=" "int" line.fullTypeName)

/-- The steps of a trail, once all of them have been found and checked. -/
def checkedSteps (trail : Value) : Run (List Frame) := do
  let found ← steps trail
  Run.ofExcept (found.forM Frame.check)
  pure found

def Frame.row (frame : Frame) : Except Raised String := do
  let file ← frame.file.plain
  let line ← frame.line.plain
  let name ← frame.name.plain
  .ok ("  File \"" ++ file ++ "\", line " ++ line ++ ", in " ++ name ++ "\n")

/-- How often a row is shown before its repetitions are counted. -/
def shownRepetitions : Nat := 3

def repetition (count : Nat) : List String :=
  if count > shownRepetitions then
    let more := count - shownRepetitions
    ["  [Previous line repeated " ++ toString more ++ " more time" ++
      (if more > 1 then "s" else "") ++ "]\n"]
  else []

def condensed (last : String) (count : Nat) : List String → List String
  | [] => repetition count
  | row :: rest =>
    if row = last then
      (if count < shownRepetitions then [row] else []) ++ condensed last (count + 1) rest
    else repetition count ++ row :: condensed row 1 rest

/-- The text of the steps of a trail; no steps have none. -/
def stepsText (found : List Frame) : Except Raised String := do
  let rows ← found.mapM Frame.row
  .ok (if rows.isEmpty then ""
    else "Traceback (most recent call last):\n" ++ String.join (condensed "" 0 rows))

end CallGuard.Log
