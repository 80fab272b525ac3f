import CallGuard.Log.Trail

/-!
The error information of a log record: an error, or any value set in its place, which is then taken
for a triple of kind, error and trail. The text tells the trail, the error and its notes; an error
that came from another one is told after that one.
-/

namespace CallGuard.Log

/-- Words for something of which the text could not be had. -/
def withoutText (what : String) : String :=
  "<" ++ what ++ " str() failed>"

/-- The text of an error in a record: its kind, and its message if it has one. -/
def exceptionText (e : Raised) : String :=
  let message :=
    match e.text with
    | .known message => message
    | .failing _ => withoutText "exception"
  if message.isEmpty then e.kind else e.kind ++ ": " ++ message

/-- How an error came from another one. -/
inductive Link
  | cause
  | context

/-- The words between two errors of which one came from the other. -/
def Link.text : Link → String
  | .cause => "\nThe above exception was the direct cause of the following exception:\n\n"
  | .context => "\nDuring handling of the above exception, another exception occurred:\n\n"

def ownNotes : String := "__notes__"

/-- The attribute that tells whether the context of an error is left out. -/
def hidesContext : String := "__suppress_context__"

variable [Platform]

/-- The plain form of something, or words for its failure. -/
def plainOr (what : String) (v : Value) : String :=
  match v.plain with
  | .ok s => s
  | .error _ => withoutText what

/-- Words for notes of which the written form could not be had. -/
def withoutForm : String :=
  "<" ++ ownNotes ++ " repr() failed>"

def noteText (v : Value) : String :=
  plainOr "note" v ++ "\n"

/-- The notes of an error; only a sequence holds several of them. -/
def notesText (notes : Value) : String :=
  match notes with
  | .null => ""
  | .text _ | .bytes _ | .byteArray _ | .list _ | .tuple _ | .record .. | .deque _ | .range .. =>
    match notes.items with
    | .ok items => String.join (items.map noteText)
    | .error _ => ""
  | notes =>
    match notes.written with
    | .ok s => s
    | .error _ => withoutForm

/-- The written form of an error about a text, if it has one. -/
def raisedText (e : Raised) : String :=
  match e.text with
  | .known text => e.kind ++ "(" ++ (if e.kind = "KeyError" then text else Text.quoted text) ++ ")"
  | .failing _ => withoutForm

def notesOf (v : Value) : String :=
  match v.attribute? ownNotes with
  | .ok none => ""
  | .ok (some notes) => notesText notes
  | .error e =>
    if e.kind = attributeErrorKind then ""
    else "Ignored error getting " ++ ownNotes ++ ": " ++ raisedText e ++ "\n"

/-- What is told about one error: the steps of its trail, its own line, and its notes. -/
structure Account where
  found : List Frame
  line : String
  notes : String

def Account.text (account : Account) : Except Raised String := do
  let told ← stepsText account.found
  .ok (told ++ account.line ++ "\n" ++ account.notes)

/-- The account of an error with a trail, apart from those that the error came from. -/
def accountOf (error trail : Value) : Run Account := do
  let found ← checkedSteps trail
  let line := exceptionText ⟨error.typeName, plainOr "exception" error⟩
  match error with
  | .null => pure ⟨found, line, ""⟩
  | error => do
    let _ ← Run.ofExcept (error.requireAttribute hidesContext)
    pure ⟨found, line, notesOf error⟩

/-- The account of an error that another one came from, with its own trail. -/
def linkedAccount (error : Value) : Run Account := do
  let trail ← Run.ofExcept (error.requireAttribute "__traceback__")
  accountOf error trail

mutual

/-- The accounts of the errors that an error came from, one from another, the nearest one first. -/
def origins : Value → Run (List (Link × Account))
  | .object type attributes raising => do
    let error := Value.object type attributes raising
    match ← Run.ofExcept (error.requireAttribute "__cause__") with
    | .null => do
      let hidden ← Run.ofExcept (error.requireAttribute hidesContext)
      match ← Run.ofExcept (error.requireAttribute "__context__") with
      | .null => pure []
      | context =>
        if hidden.truthy then pure []
        else do
          let account ← linkedAccount context
          let further ← originsAt "__context__" attributes
          pure ((.context, account) :: further)
    | cause => do
      let account ← linkedAccount cause
      let _ ← Run.ofExcept (error.requireAttribute "__context__")
      let further ← originsAt "__cause__" attributes
      pure ((.cause, account) :: further)
  | _ => pure []

def originsAt (place : String) : List (String × Value) → Run (List (Link × Account))
  | [] => pure []
  | (name, v) :: rest => if name = place then origins v else originsAt place rest

end

/-- The text of the errors that an error came from, the farthest one first. -/
def originsText : List (Link × Account) → Except Raised String
  | [] => .ok ""
  | (link, account) :: further => do
    let before ← originsText further
    let told ← account.text
    .ok (before ++ told ++ link.text)

/-- A text without the line end at its end. -/
def withoutLineEnd (s : String) : String :=
  if s.endsWith "\n" then String.ofList s.toList.dropLast else s

def informationText (v : Value) : Run String := do
  let trail ← Run.ofExcept (v.partAt 2)
  let _ ← Run.ofExcept (v.partAt 0)
  let error ← Run.ofExcept (v.partAt 1)
  let account ← accountOf error trail
  let further ← origins error
  Run.ofExcept do
    let before ← originsText further
    let told ← account.text
    .ok (withoutLineEnd (before ++ told))

end CallGuard.Log
