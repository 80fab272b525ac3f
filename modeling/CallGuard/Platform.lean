import CallGuard.Config.Environment
import CallGuard.Files.Tree

/-!
What the library takes from outside: from the language that runs it, from the values and the
callables that it is given, and from the libraries that it uses. It relies on the answers alone, so
they are left open here, and what holds of the library holds on every platform.
-/

namespace CallGuard

open Config Files

/-- The answers that the library gets from outside. -/
class Platform where
  /-- What a value has as an attribute, if anything, apart from what an object was given. -/
  attributeOf : Value → String → Except Raised (Option Value)
  /-- How a value is entered that is a mapping or a sequence because of a type of its own. -/
  entry? : Value → Option (String → Except Raised Value)
  /-- The written form of a callable. -/
  callableText : Callable → Except Raised String
  /-- Whether the arguments of a call fit the parameters of a callable whose calls suspend. -/
  binds : Callable → Arguments → Except Raised Unit
  /-- How many levels deep values can be nested in a value that is written. -/
  writtenLevels : Nat
  /-- How many levels deep values can be nested in a value that is turned into JSON. -/
  jsonLevels : Nat
  jsonLevels_pos : 0 < jsonLevels
  /-- What the reader of environment files makes of what stands at a path, by the variables. -/
  bindings : Environment → Option Content → Except Cause (List Binding)
  /-- The digest of the path of a file, which is part of the name of its module. -/
  digest : String → String

end CallGuard
