import CallGuard.Files.Tree
import CallGuard.Module.Serial
import CallGuard.Module.SourceText
import CallGuard.Text.Quoted

/-!
What the files of modules hold, by the suffixes of their names. A source file defines a module; a
file of plain bytes is a source that defines nothing but may raise an error, a compiled body, or an
extension that cannot be linked. A file that refuses to be read defines nothing either.
-/

namespace CallGuard.Module

open CallGuard.Files

/-- What a file is to the loading of modules. -/
inductive Format
  | extension
  | source
  | compiled
  deriving DecidableEq, Repr, Inhabited

def sourceSuffix : String := ".py"

/-- The suffixes of the files of modules, in the order in which they are looked for. -/
def suffixes : List (String × Format) :=
  [(".cpython-311-x86_64-linux-gnu.so", .extension), (".abi3.so", .extension),
    (".so", .extension), (sourceSuffix, .source), (".pyc", .compiled)]

def formatOf? (file : String) : Option Format :=
  (suffixes.find? fun entry => file.endsWith entry.1).map (·.2)

/-- The number of bytes at the front of an extension that describe it. -/
def headerSize : Nat := 64

def linkError (file : String) (content : Content) : Raised :=
  let reason : String :=
    match content with
    | .bytes bs => if bs.length < headerSize then "file too short" else "invalid ELF header"
    | .source _ => "invalid ELF header"
    | .refused _ => "cannot open shared object file: Permission denied"
  ⟨"ImportError", file ++ ": " ++ reason⟩

def compiledMark : List UInt8 := [0xA7, 0x0D, 0x0D, 0x0A]

def compiledHeader : Nat := 16

def codeDefinition (file : String) (code : List UInt8) : Except Raised ModuleSource :=
  match Serial.ofBytes code with
  | .error fault => .error fault.raised
  | .ok .code => .ok ⟨[], none, none⟩
  | .ok _ => .error ⟨"ImportError", "Non-code object in " ++ Text.quoted file⟩

def compiledDefinition (name file : String) (bytes : List UInt8) : Except Raised ModuleSource :=
  let mark := bytes.take compiledMark.length
  let flags := Reading.wordOf ((bytes.drop compiledMark.length).take 4)
  if mark ≠ compiledMark then
    .error ⟨"ImportError",
      "bad magic number in " ++ Text.quoted name ++ ": " ++ Text.quotedBytes mark⟩
  else if bytes.length < compiledHeader then
    .error ⟨"EOFError", "reached EOF while reading pyc header of " ++ Text.quoted name⟩
  else if flags ≥ 4 then
    .error ⟨"ImportError", "invalid flags " ++ toString flags ++ " in " ++ Text.quoted name⟩
  else codeDefinition file (bytes.drop compiledHeader)

/-- The definition in a source file: one of bytes defines nothing, and may be faulty or fail. -/
def sourceOf (file : String) : Content → Except Raised ModuleSource
  | .source source => .ok source
  | .refused e => .error e.raised
  | .bytes bs =>
    match SourceText.fault? bs with
    | some fault => .error (fault.raised file)
    | none => .ok ⟨[], none, SourceText.failure? bs⟩

/-- The definition in a file of a format, for the module of a name. -/
def definition (format : Format) (name file : String) (content : Content) :
    Except Raised ModuleSource :=
  match format, content with
  | .extension, content => .error (linkError file content)
  | .source, content => sourceOf file content
  | .compiled, .bytes bs => compiledDefinition name file bs
  | .compiled, .source _ => compiledDefinition name file "impo".toUTF8.toList
  | .compiled, .refused e => .error e.raised

end CallGuard.Module
