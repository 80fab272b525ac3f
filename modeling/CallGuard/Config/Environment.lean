import CallGuard.Table
import CallGuard.Value.Basic

/-!
Environments: variables with their texts. Bindings are laid over an environment one after the other;
a name without a value sets nothing, and a name or a text that no variable may have stops it there.
-/

namespace CallGuard.Config

/-- An environment: variables with their texts. -/
abbrev Environment := Table String

/-- A binding: a name, and a value unless the name stands alone. -/
abbrev Binding := String × Option String

def settingFault? (name value : String) : Option Cause :=
  if name.toList.contains '\x00' || value.toList.contains '\x00' then
    some ⟨"ValueError", "embedded null byte"⟩
  else if name.toList.contains '=' then
    some ⟨"ValueError", "illegal environment variable name"⟩
  else if name.isEmpty then some ⟨"OSError", "[Errno 22] Invalid argument"⟩
  else none

/-- Lays bindings over an environment up to the first that cannot be set. -/
def overlay (environment : Environment) : Table (Option String) → Environment × Option Cause
  | [] => (environment, none)
  | (_, none) :: rest => overlay environment rest
  | (name, some value) :: rest =>
    match settingFault? name value with
    | some fault => (environment, some fault)
    | none => overlay (Table.put environment name value) rest

end CallGuard.Config
