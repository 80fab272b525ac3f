import CallGuard.Log.ErrorInformation

/-!
Writing a record as JSON within a session. A record makes its message itself unless an attribute has
been put in the place of what makes it; that attribute is then called. A value that a record carries
as error information is looked into once all other parts are there.
-/

namespace CallGuard.Log.Record

variable [Platform]

/-- The message of a record, which may be the answer of a call. -/
def toldMessage (record : Record) : Run Message :=
  match Table.get? record.extra messenger with
  | none => .points <$> Run.ofExcept record.message
  | some v => .value <$> v.call {}

/-- The record with the text of the error information that it carries. -/
def withInformation (record : Record) : Run Record :=
  match record.information with
  | none => pure record
  | some v => do
    let text ← informationText v
    pure { record with exception := some text }

def format (timestamp : String) (record : Record) : Run String := do
  let _ ← Run.ofExcept record.heading
  let message ← record.toldMessage
  let _ ← Run.ofExcept record.footing
  let record ← record.withInformation
  Run.ofExcept (record.jsonLineWith timestamp (.ok message))

end CallGuard.Log.Record
