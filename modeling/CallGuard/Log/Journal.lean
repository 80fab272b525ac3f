import CallGuard.Log.Record

/-!
The journal of the library: the level in force, the handlers that write lines, and what has been
recorded and written so far. A record below the level leaves no trace; any other one is recorded
once and written once by each handler that can write it.
-/

namespace CallGuard.Log

/-- The name of the library's own logger, above all its other loggers. -/
def libraryLogger : String := "paramount"

/-- A handler: which one it is, and whether it writes JSON. -/
structure Handler where
  serial : Nat
  json : Bool
  deriving DecidableEq, Repr, Inhabited

/--
The state of logging. The library's level counts unless it is zero, when that of the surroundings
does. Lines are kept as code points, with the handler that wrote them.
-/
structure Journal where
  level : Int := 0
  outerLevel : Int := 30
  timestamp : String := "<time>"
  handlers : List Handler := []
  handlersMade : Nat := 0
  records : List Record := []
  written : List (Nat × List Nat) := []
  deriving Inhabited

/-- Where in the library something is logged: the logger, the part, and the activity. -/
structure Site where
  logger : String
  part : String
  activity : String
  deriving DecidableEq, Repr, Inhabited

def Site.record (site : Site) (severity : Int) (message : String)
    (extra : Table Value) : Record :=
  { logger := .text (libraryLogger ++ "." ++ site.logger)
    severity
    level := .text (severityName severity)
    template := .text message
    arguments := .tuple []
    module := .text site.part
    function := .text site.activity
    line := .int 0
    extra }

variable [Platform]

def Handler.line (handler : Handler) (timestamp : String) (record : Record) :
    Except Raised (List Nat) :=
  if handler.json then Text.pointsOf <$> record.jsonLine timestamp
  else record.plainLine timestamp

/-- The line that a handler writes for a record, if there is one, under its serial number. -/
def Handler.lineOf? (handler : Handler) (timestamp : String) (record : Record) :
    Option (Nat × List Nat) :=
  match handler.line timestamp record with
  | .ok line => some (handler.serial, line)
  | .error _ => none

namespace Journal

def threshold (journal : Journal) : Int :=
  if journal.level = 0 then journal.outerLevel else journal.level

def isEnabled (journal : Journal) (severity : Int) : Bool :=
  0 < severity && journal.threshold ≤ severity

/-- The lines that the handlers write for a record, one after another. -/
def linesFor (journal : Journal) (record : Record) : List (Nat × List Nat) :=
  journal.handlers.filterMap fun handler => handler.lineOf? journal.timestamp record

/-- Adds a record, if its severity is in force. -/
def add (journal : Journal) (record : Record) : Journal :=
  if journal.isEnabled record.severity then
    { journal with
      records := journal.records ++ [record]
      written := journal.written ++ journal.linesFor record }
  else journal

def clear (journal : Journal) : Journal :=
  { journal with handlers := [] }

/-- Adds a new handler behind those that are there. -/
def attach (journal : Journal) (json : Bool) : Journal :=
  { journal with
    handlers := journal.handlers ++ [⟨journal.handlersMade, json⟩]
    handlersMade := journal.handlersMade + 1 }

def linesOf (journal : Journal) (serial : Nat) : List (List Nat) :=
  (journal.written.filter (·.1 = serial)).map (·.2)

end Journal

end CallGuard.Log
