import CallGuard.Log.Json
import CallGuard.Log.Template
import CallGuard.Table

/-!
Log records and their two written forms: a plain line, and a JSON object in which the extra fields
of the record follow the standard members.
-/

namespace CallGuard.Log

def recordType : String := "LogRecord"

/--
A log record. The parts that are shown as they are can be any value; it may carry the text of an
error, or a value that such a text is still to be made of. Parts can be absent when the attributes
of a record have been replaced, and its message is not its own when its type has been.
-/
structure Record where
  logger : Value
  severity : Int
  level : Value
  template : Value
  arguments : Value
  module : Value
  function : Value
  line : Value
  exception : Option String := none
  information : Option Value := none
  extra : Table Value
  absent : List String := []
  type : String := recordType
  deriving Inhabited

/-- A message: the code points of a filled template, or a value that stands for it. -/
inductive Message
  | points (all : List Nat)
  | value (v : Value)

variable [Platform]

def Message.jsonText : Message → Except Raised String
  | .points all => .ok (jsonPoints all)
  | .value v => json v

def severityNames : List (Int × String) :=
  [(0, "NOTSET"), (10, "DEBUG"), (20, "INFO"), (30, "WARNING"), (40, "ERROR"), (50, "CRITICAL")]

def severityName (severity : Int) : String :=
  (severityNames.lookup severity).getD ("Level " ++ toString severity)

/-- The severity that a name stands for; two of them have a second name. -/
def severityOf? (name : String) : Option Int :=
  if name = "WARN" then some 30
  else if name = "FATAL" then some 50
  else (severityNames.find? fun pair => pair.2 = name).map (·.1)

/-- The arguments of a record: a mapping that stands alone is used by key unless it is empty. -/
def argumentsOf (arguments : List Value) : Value :=
  match arguments with
  | [v] =>
    match entries? v with
    | some (_ :: _) => v
    | _ => .tuple [v]
  | arguments => .tuple arguments

namespace Record

/-- The error of asking a record for an attribute that it does not have. -/
def noAttribute (record : Record) (name : String) : Raised :=
  ⟨"AttributeError", "'" ++ record.type ++ "' object has no attribute '" ++ name ++ "'"⟩

/-- A part of a record under the name of its attribute, unless it is absent. -/
def part {α : Type} (record : Record) (name : String) (a : α) : Except Raised α :=
  if record.absent.contains name then .error (record.noAttribute name) else .ok a

def messenger : String := "getMessage"

/-- The message of a record: the template itself when there are no arguments. -/
def message (record : Record) : Except Raised (List Nat) := do
  if record.type ≠ recordType then .error (record.noAttribute messenger)
  let template ← record.part "msg" record.template
  let template ← template.plain
  let arguments ← record.part "args" record.arguments
  if arguments.truthy then fillTemplate template arguments else .ok (Text.pointsOf template)

/-- The names of attributes that every record has, besides the members written for them. -/
def reservedNames : List String :=
  ["args", "msg", "levelname", "levelno", "pathname", "filename", "module", "exc_info", "exc_text",
    "stack_info", "lineno", "funcName", "created", "msecs", "relativeCreated", "thread",
    "threadName", "processName", "process", "taskName", "name", "message"]

def standardNames : List String :=
  ["timestamp", "level", "logger", "message", "module", "function", "line"]

def isWritten (name : String) : Bool :=
  !standardNames.contains name && !name.startsWith "_" && !reservedNames.contains name

/-- Replaces the part that an attribute stands for; any other attribute is an extra field. -/
def replacePart (record : Record) (name : String) (v : Value) : Record :=
  if name = "msg" then { record with template := v }
  else if name = "args" then { record with arguments := v }
  else if name = "levelname" then { record with level := v }
  else if name = "name" then { record with logger := v }
  else if name = "module" then { record with module := v }
  else if name = "funcName" then { record with function := v }
  else if name = "lineno" then { record with line := v }
  else if name = "exc_info" then
    { record with exception := none, information := if v.truthy then some v else none }
  else { record with extra := Table.put record.extra name v }

/-- Sets an attribute of a record, which is then no longer absent. -/
def put (record : Record) (name : String) (v : Value) : Record :=
  { record.replacePart name v with absent := record.absent.filter (· ≠ name) }

/-- The record with the attributes that the entries of a mapping give, and no others. -/
def withAttributes (record : Record) (entries : List (Value × Value)) : Record :=
  entries.foldl (fun record entry =>
    match entry.1 with
    | .text name => record.put name entry.2
    | _ => record)
    { record with extra := [], exception := none, information := none, absent := reservedNames }

/-- Sets an attribute of a record; those of its attributes together and of its type are special. -/
def set (record : Record) (name : String) (v : Value) : Except Raised Record :=
  match name, v with
  | "__dict__", .mapping entries => .ok (record.withAttributes entries)
  | "__dict__", v => .error ⟨"TypeError",
      "__dict__ must be set to a dictionary, not a '" ++ v.fullTypeName ++ "'"⟩
  | "__class__", v =>
    match v with
    | .callable c =>
      if c.kind = .classObject then .ok { record with type := c.name } else .error (notClass v)
    | v => .error (notClass v)
  | "__weakref__", _ => .error ⟨"AttributeError",
      "attribute '__weakref__' of '" ++ record.type ++ "' objects is not writable"⟩
  | name, v => .ok (record.put name v)
where
  /-- The error of a value that is no class. -/
  notClass (v : Value) : Raised :=
    ⟨"TypeError", "__class__ must be set to a class, not '" ++ v.fullTypeName ++ "' object"⟩

/-- The parts of a record that come before its message: the level and the logger. -/
def heading (record : Record) : Except Raised (Value × Value) := do
  let level ← record.part "levelname" record.level
  let logger ← record.part "name" record.logger
  .ok (level, logger)

/-- The parts of a record that come after its message: the module, the function and the line. -/
def footing (record : Record) : Except Raised (Value × Value × Value) := do
  let module ← record.part "module" record.module
  let function ← record.part "funcName" record.function
  let line ← record.part "lineno" record.line
  .ok (module, function, line)

/-- The members of the JSON object of a record with a message, in order. -/
def members (timestamp : String) (record : Record) (message : Except Raised Message) :
    Except Raised (List (String × Except Raised String)) := do
  let (level, logger) ← record.heading
  let message ← message
  let (module, function, line) ← record.footing
  let standard : List (String × Except Raised String) :=
    [("timestamp", .ok (jsonString timestamp)), ("level", json level), ("logger", json logger),
      ("message", message.jsonText), ("module", json module), ("function", json function),
      ("line", json line)]
  let extra := (record.extra.filter fun f => isWritten f.1).map fun f => (f.1, json f.2)
  match ← record.part "exc_info" record.exception with
  | none => .ok (standard ++ extra)
  | some text => .ok (standard ++ Table.put extra "exception" (.ok (jsonString text)))

def jsonLineWith (timestamp : String) (record : Record) (message : Except Raised Message) :
    Except Raised String := do
  let members ← record.members timestamp message
  let parts ← members.mapM fun (name, text) => jsonMember name <$> text
  .ok (jsonObject parts)

def jsonLine (timestamp : String) (record : Record) : Except Raised String :=
  record.jsonLineWith timestamp (record.message.map .points)

/-- The plain line of a record, with the error on lines of its own. -/
def plainLine (timestamp : String) (record : Record) : Except Raised (List Nat) := do
  let message ← record.message
  let level ← record.level.plain
  let logger ← record.logger.plain
  let line := Text.pointsOf (timestamp ++ " " ++ level ++ " " ++ logger ++ ": ") ++ message
  match record.exception with
  | none => .ok line
  | some text => .ok (line ++ Text.pointsOf ("\n" ++ text))

end Record

end CallGuard.Log
