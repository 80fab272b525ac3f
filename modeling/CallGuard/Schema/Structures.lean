import CallGuard.Config.Settings
import CallGuard.Parameter.Basic
import CallGuard.Schema.Field
import CallGuard.Value.Path

/-!
Declarations, properties, parameters and settings as structures read from fields and shown as
fields. What is read satisfies the bounds of its structure, and no public field changes afterwards.
-/

namespace CallGuard.Schema

open CallGuard.Config

def declaration (fields : Table Value) : Checked Declaration :=
  let tag := required fields "type" nonEmptyText
  let name := required fields "name" nonEmptyText
  let path := optional fields "property_path" none textOrNothing
  let description := optional fields "description" "" text
  let depth := optional fields "depth" 1 (wholeFrom 1)
  (both tag (both name (both path (both description depth)))).map
    fun (tag, name, path, description, depth) => { tag, name, path, description, depth }

def property (fields : Table Value) : Checked PropertyConstraint :=
  let name := required fields "name" text
  let path := required fields "property_path" text
  let tag := required fields "type" text
  let description := optional fields "description" "" text
  let depth := optional fields "depth" leastPropertyDepth (wholeFrom leastPropertyDepth)
  (both name (both path (both tag (both description depth)))).map
    fun (name, path, tag, description, depth) => { name, path, tag, description, depth }

def parameter (fields : Table Value) : Checked Parameter :=
  let tag := required fields "type" text
  let name := required fields "name" text
  let description := optional fields "description" "" text
  let properties :=
    optional fields "properties" [] (tuple (structured "PropertyConstraint" property))
  (both tag (both name (both description properties))).map
    fun (tag, name, description, properties) => { tag, name, description, properties }

def settings (fields : Table Value) : Checked Settings :=
  let initial : Settings := {}
  let stage := optional fields "environment" initial.stage (choice Stage.all Stage.name)
  let level := optional fields "log_level" initial.level (choice LogLevel.all LogLevel.name)
  let jsonLogs := optional fields "json_logs" initial.jsonLogs flag
  let enabled := optional fields "enabled" initial.enabled flag
  let reporter :=
    optional fields "reporter" initial.reporter (choice ReporterMode.all ReporterMode.name)
  (both stage (both level (both jsonLogs (both enabled reporter)))).map
    fun (stage, level, jsonLogs, enabled, reporter) => { stage, level, jsonLogs, enabled, reporter }

def declarationFields (d : Declaration) : Table Value :=
  [("type", .text d.tag), ("name", .text d.name), ("property_path", .ofText? d.path),
    ("description", .text d.description), ("depth", .int d.depth)]

def propertyFields (constraint : PropertyConstraint) : Table Value :=
  [("name", .text constraint.name), ("property_path", .text constraint.path),
    ("type", .text constraint.tag), ("description", .text constraint.description),
    ("depth", .int constraint.depth)]

/-- The fields of a parameter; its properties are a tuple. -/
def parameterFields (parameter : Parameter) : Table Value :=
  [("type", .text parameter.tag), ("name", .text parameter.name),
    ("description", .text parameter.description),
    ("properties",
      .tuple (parameter.properties.map fun constraint =>
        .mapping (ErrorRecord.detail (propertyFields constraint))))]

def settingsFields (settings : Settings) : Table Value :=
  [("environment", .text settings.stage.name), ("log_level", .text settings.level.name),
    ("json_logs", .bool settings.jsonLogs), ("enabled", .bool settings.enabled),
    ("reporter", .text settings.reporter.name)]

/-- The structures that can be read by name. -/
inductive Structure
  | declaration
  | property
  | parameter
  | settings
  deriving DecidableEq, Repr

def Structure.name : Structure → String
  | .declaration => "Declaration"
  | .property => "PropertyConstraint"
  | .parameter => "ParameterNode"
  | .settings => "ParamountConfig"

def Structure.all : List Structure := [.declaration, .property, .parameter, .settings]

def Structure.read (shape : Structure) (fields : Table Value) : Checked (Table Value) :=
  match shape with
  | .declaration => (Schema.declaration fields).map declarationFields
  | .property => (Schema.property fields).map propertyFields
  | .parameter => (Schema.parameter fields).map parameterFields
  | .settings => (Schema.settings fields).map settingsFields

def classChangeError (shape : Structure) (v : Value) : Raised :=
  match v with
  | .callable c =>
    if c.kind = .classObject then
      ⟨"TypeError", "__class__ assignment: '" ++ c.name ++ "' object layout differs from '" ++
        shape.name ++ "'"⟩
    else notClass
  | _ => notClass
where
  /-- The error of a value that is no class. -/
  notClass : Raised :=
    ⟨"TypeError", "__class__ must be set to a class, not '" ++ v.fullTypeName ++ "' object"⟩

mutual

/-- A value as a structure shows it: a record is a plain tuple, also inside what holds items. -/
def shownPart : Value → Value
  | .list items => .list (shownParts items)
  | .tuple items => .tuple (shownParts items)
  | .set items => .set (shownParts items)
  | .record _ fields => .tuple (shownFields fields)
  | .mapping entries => .mapping (shownEntries entries)
  | v => v

def shownParts : List Value → List Value
  | [] => []
  | item :: rest => shownPart item :: shownParts rest

def shownFields : List (String × Value) → List Value
  | [] => []
  | (_, value) :: rest => shownPart value :: shownFields rest

/-- Entries as a structure shows them; their keys stay as they are. -/
def shownEntries : List (Value × Value) → List (Value × Value)
  | [] => []
  | (key, value) :: rest => (key, shownPart value) :: shownEntries rest

end

def badFieldName (key : Value) : Raised :=
  let what : String :=
    match key with
    | .null => "'None'"
    | key => "'" ++ key.typeName ++ "' object"
  ⟨"TypeError", what ++ " is not an instance of 'str'"⟩

/-- The names and values that the entries of a mapping give to fields. -/
def namedEntries : List (Value × Value) → Except Raised (Table Value)
  | [] => .ok []
  | (.text name, v) :: rest => ((name, v) :: ·) <$> namedEntries rest
  | (key, _) :: _ => .error (badFieldName key)

/-- The fields of a structure whose attributes have been replaced all together. -/
def replaceAll (fields : Table Value) (entries : List (Value × Value)) :
    Except Raised (Table Value) := do
  let given ← namedEntries entries
  .ok ((Table.names fields).filterMap fun name =>
    (Table.get? given name).map fun v => (name, shownPart v))

/-- The attributes of a structure that can be asked for and not set. -/
def computedAttributes : List String := ["__fields__", "__fields_set__"]

def showingAttribute : String := "__pydantic_serializer__"

variable [Platform]

/-- The error of showing a structure by a value; it has to be asked for what shows. -/
def showingError (v : Value) : Raised :=
  match v.attribute? "to_python" with
  | .error e => e
  | .ok none => v.noAttribute "to_python"
  | .ok (some held) => held.notCallable

/-- Sets an attribute of a structure: public ones are frozen, few others change what it shows. -/
def assign (shape : Structure) (fields : Table Value) (name : String) (v : Value) :
    Except Failure (Table Value) :=
  if !name.startsWith "_" then .error (.invalid [.at .frozen name])
  else if name = "__dict__" then
    match v with
    | .mapping entries => (replaceAll fields entries).mapError .raised
    | v => .error (.raised ⟨"TypeError",
        "__dict__ must be set to a dictionary, not a '" ++ v.fullTypeName ++ "'"⟩)
  else if name = "__class__" then .error (.raised (classChangeError shape v))
  else if computedAttributes.contains name then
    .error (.raised ⟨"AttributeError", "property " ++ Text.quoted name ++ " of '" ++ shape.name ++
      "' object has no setter"⟩)
  else if name = "__weakref__" then
    .error (.raised ⟨"AttributeError",
      "attribute '__weakref__' of '" ++ shape.name ++ "' objects is not writable"⟩)
  else if name = showingAttribute then .error (.raised (showingError v))
  else .ok fields

end CallGuard.Schema
