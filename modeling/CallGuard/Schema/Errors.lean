import CallGuard.Callable.Signature
import CallGuard.ErrorRecord
import CallGuard.Session.Calls

/-!
Errors made from fields. A general error takes a message and perhaps details; the special kinds take
what they are about and make their message and details from it. The fields have to fit the kind in
the same way as the named arguments of a call.
-/

namespace CallGuard.Schema

open CallGuard

/-- An error with the attributes that it keeps and the details that were passed in. -/
structure MadeError where
  record : ErrorRecord
  attributes : Table Value
  passed : Option (List (Value × Value))
  deriving Inhabited

def signatureOf (kind : ErrorKind) : Signature :=
  let ofMaker (owner : ErrorKind) (required optional : List String) : Signature :=
    .ofMethod (owner.name ++ ".__init__") required optional
  match kind with
  | .duplicateParameter => ofMaker kind ["parameter"] ["function"]
  | .argumentValidation =>
    ofMaker kind ["function", "parameter", "expected_type", "value"] ["description"]
  | .dispatch => ofMaker kind ["symbol"] ["module"]
  | _ => ofMaker .general ["message"] ["details"]

/-- The field of a name; one that is left out is empty. -/
def fieldOf (fields : Table Value) (name : String) : Value :=
  (Table.get? fields name).getD .null

def attributesOf (fields : Table Value) (names : List String) : Table Value :=
  names.map fun name => (name, fieldOf fields name)

variable [Platform]

/-- An error with a message and perhaps details, to which the code of its kind is added. -/
def plainError (kind : ErrorKind) (fields : Table Value) : Run MadeError := do
  let message := fieldOf fields "message"
  match fieldOf fields "details" with
  | .mapping entries =>
    let details := ErrorRecord.withCode kind entries
    pure ⟨⟨kind, message, .mapping details⟩, [], some (if entries.isEmpty then [] else details)⟩
  | v =>
    if v.truthy then do
      let _ ← v.callAttribute "setdefault" [.text ErrorRecord.codeKey, .text kind.code]
      pure ⟨⟨kind, message, v⟩, [], none⟩
    else pure ⟨⟨kind, message, .mapping (ErrorRecord.withCode kind [])⟩, [], none⟩

def errorFrom (kind : ErrorKind) (fields : Table Value) : Run MadeError :=
  match kind with
  | .duplicateParameter => do
    let record ← Run.ofExcept
      (ErrorRecord.duplicateParameter (fieldOf fields "parameter") (fieldOf fields "function"))
    pure ⟨record, attributesOf fields ["parameter", "function"], none⟩
  | .argumentValidation => do
    let fields :=
      if Table.has fields "description" then fields
      else Table.put fields "description" (.text "")
    let record ← Run.ofExcept (ErrorRecord.argumentValidation (fieldOf fields "function")
      (fieldOf fields "parameter") (fieldOf fields "expected_type") (fieldOf fields "value")
      (fieldOf fields "description"))
    pure ⟨record,
      attributesOf fields ["function", "parameter", "expected_type", "value", "description"],
      none⟩
  | .dispatch => do
    let record ← Run.ofExcept
      (ErrorRecord.dispatch (fieldOf fields "symbol") (fieldOf fields "module"))
    pure ⟨record, attributesOf fields ["symbol"], none⟩
  | kind => plainError kind fields

def errorOf (kind : ErrorKind) (fields : Table Value) : Run MadeError := do
  let bound ← Run.ofExcept ((signatureOf kind).bindMethod .null ⟨[], fields⟩)
  errorFrom kind bound

end CallGuard.Schema
