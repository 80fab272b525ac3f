import CallGuard.Config.Environment
import CallGuard.Files.Tree
import CallGuard.Text.Letters
import CallGuard.Text.Utf8

/-!
The reader of environment files of the standard platform. Each binding gives a name and perhaps a
value; a value may be quoted, may be followed by a comment, and may refer to variables that are set
before it.
-/

namespace CallGuard.Standard.EnvironmentFile

open CallGuard.Config CallGuard.Files CallGuard.Text

/-- A blank that does not end a line. -/
def isInlineBlank (c : Char) : Bool :=
  isBlank c && c != '\n' && c != '\r'

def isLineEnd (c : Char) : Bool :=
  c == '\n' || c == '\r'

/-- Whether a text starts with a blank that does not end a line. -/
def startsBlank (cs : List Char) : Bool :=
  cs.head?.any isInlineBlank

def dropExport (cs : List Char) : List Char :=
  if "export".toList.isPrefixOf cs && startsBlank (cs.drop 6) then
    (cs.drop 6).dropWhile isInlineBlank
  else cs

/-- Reads up to the closing quote; a backslash takes the character after it along. -/
def splitQuoted? (quote : Char) : List Char → Option (List Char × List Char)
  | [] => none
  | '\\' :: c :: rest =>
    (splitQuoted? quote rest).map fun (inner, tail) => ('\\' :: c :: inner, tail)
  | c :: rest =>
    if c = quote then some ([], rest)
    else (splitQuoted? quote rest).map fun (inner, tail) => (c :: inner, tail)

def singleEscape? (c : Char) : Option Char :=
  if c = '\\' || c = '\'' then some c else none

def doubleEscape? (c : Char) : Option Char :=
  match c with
  | '\\' | '\'' | '"' => some c
  | 'a' => some (Char.ofNat 7)
  | 'b' => some (Char.ofNat 8)
  | 'f' => some (Char.ofNat 12)
  | 'n' => some '\n'
  | 'r' => some '\r'
  | 't' => some '\t'
  | 'v' => some (Char.ofNat 11)
  | _ => none

def unescape (escape? : Char → Option Char) : List Char → List Char
  | '\\' :: c :: rest =>
    match escape? c with
    | some e => e :: unescape escape? rest
    | none => '\\' :: unescape escape? (c :: rest)
  | c :: rest => c :: unescape escape? rest
  | [] => []

/-- Cuts an unquoted value before blanks that a comment follows. -/
def cutComment : List Char → List Char
  | [] => []
  | c :: rest =>
    if isBlank c && (rest.dropWhile isBlank).head? = some '#' then [] else c :: cutComment rest

def splitText? (cs : List Char) : Option (List Char × List Char) :=
  match cs with
  | '\'' :: rest =>
    (splitQuoted? '\'' rest).map fun (inner, tail) => (unescape singleEscape? inner, tail)
  | '"' :: rest =>
    (splitQuoted? '"' rest).map fun (inner, tail) => (unescape doubleEscape? inner, tail)
  | cs =>
    let row := cs.takeWhile fun c => !isLineEnd c
    some (trimEnd (cutComment row), cs.dropWhile fun c => !isLineEnd c)

/-- Reads a value after the equals sign and blanks; a comment after blanks leaves it empty. -/
def splitValue? (cs : List Char) : Option (List Char × List Char) :=
  let start := cs.dropWhile isInlineBlank
  if startsBlank cs && start.head? = some '#' then some ([], start)
  else splitText? start

def dropLine (cs : List Char) : List Char :=
  (cs.dropWhile fun c => !isLineEnd c).drop 1

/-- Drops a comment and the end of the line, if nothing else is left on it. -/
def endLine? (cs : List Char) : Option (List Char) :=
  let rest := cs.dropWhile isInlineBlank
  match rest with
  | [] => some []
  | '#' :: _ => some (dropLine rest)
  | c :: after => if isLineEnd c then some after else none

/-- Reads the name at the front of a binding; a comment has none. -/
def splitName? (cs : List Char) : Option (Option (List Char) × List Char) :=
  match cs with
  | '#' :: _ => some (none, cs)
  | '\'' :: rest =>
    let name := rest.takeWhile (· != '\'')
    match rest.dropWhile (· != '\'') with
    | _ :: tail => if name.isEmpty then none else some (some name, tail)
    | [] => none
  | cs =>
    let stops (c : Char) : Bool := c == '=' || c == '#' || isBlank c
    let name := cs.takeWhile fun c => !stops c
    if name.isEmpty then none else some (some name, cs.dropWhile fun c => !stops c)

/-- Reads one binding; a line that cannot be read is skipped. -/
def splitBinding (cs : List Char) : Option Binding × List Char :=
  let body := dropExport (cs.dropWhile isBlank)
  if body.isEmpty then (none, [])
  else
    match splitName? body with
    | none => (none, dropLine body)
    | some (name, rest) =>
      match rest.dropWhile isInlineBlank with
      | '=' :: after =>
        match splitValue? after with
        | none => (none, dropLine (after.dropWhile isInlineBlank))
        | some (value, tail) =>
          match endLine? tail with
          | none => (none, dropLine tail)
          | some next =>
            (name.map fun n => (String.ofList n, some (String.ofList value)), next)
      | tail =>
        match endLine? tail with
        | none => (none, dropLine tail)
        | some next => (name.map fun n => (String.ofList n, none), next)

/-- The bindings of a text in order; every step takes at least one character. -/
def bindings (cs : List Char) : List Binding :=
  go cs.length cs
where
  go : Nat → List Char → List Binding
    | 0, _ => []
    | _, [] => []
    | fuel + 1, cs =>
      let (binding, rest) := splitBinding cs
      binding.toList ++ go fuel rest

/-- A reference to a variable at the front of a text: its name, its default, and what follows. -/
def splitReference? : List Char → Option (String × Option String × List Char)
  | '$' :: '\x7b' :: cs =>
    let stops (c : Char) : Bool := c == '\x7d' || c == ':'
    let name := String.ofList (cs.takeWhile fun c => !stops c)
    match cs.dropWhile fun c => !stops c with
    | '\x7d' :: rest => some (name, none, rest)
    | ':' :: '-' :: after =>
      match after.dropWhile (· != '\x7d') with
      | _ :: rest => some (name, some (String.ofList (after.takeWhile (· != '\x7d'))), rest)
      | [] => none
    | _ => none
  | _ => none

def expand (lookup : String → Option (Option String)) : Nat → List Char → List Char
  | 0, cs => cs
  | _, [] => []
  | fuel + 1, c :: cs =>
    match splitReference? (c :: cs) with
    | some (name, default, rest) =>
      let value :=
        match lookup name with
        | some found => found.getD ""
        | none => default.getD ""
      value.toList ++ expand lookup fuel rest
    | none => c :: expand lookup fuel cs

/-- A value with its references replaced; behind the last closing brace there are none. -/
def expandValue (lookup : String → Option (Option String)) (value : List Char) : List Char :=
  let isOpen (c : Char) : Bool := c != '\x7d'
  let front := (value.reverse.dropWhile isOpen).reverse
  expand lookup front.length front ++ (value.reverse.takeWhile isOpen).reverse

/-- The bindings of a file with their references replaced, in the light of an environment. -/
def expandAll (environment : Environment) (all : List Binding) : Table (Option String) :=
  all.foldl (fun known binding =>
    let look (name : String) : Option (Option String) :=
      (Table.get? known name).or ((Table.get? environment name).map some)
    Table.put known binding.1
      (binding.2.map fun v => String.ofList (expandValue look v.toList))) []

/-- Line ends of all kinds as a single feed, without a mark of byte order in front. -/
def plainLines (cs : List Char) : List Char :=
  go (match cs with
    | '\ufeff' :: rest => rest
    | cs => cs)
where
  go : List Char → List Char
    | '\r' :: '\n' :: rest => '\n' :: go rest
    | '\r' :: rest => '\n' :: go rest
    | c :: rest => c :: go rest
    | [] => []

/-- The bindings that a file sets, with references replaced. -/
def fileBindings (environment : Environment) (text : List Char) : Table (Option String) :=
  expandAll environment (bindings (plainLines text))

/-- The variable that keeps environment files from being read, and the words that do it. -/
def ignoringVariable : String × List String :=
  ("PYTHON_DOTENV_DISABLED", ["1", "true", "t", "yes", "y"])

/-- Whether environment files are not read. -/
def ignoresFiles (environment : Environment) : Bool :=
  match Table.get? environment ignoringVariable.1 with
  | some text => ignoringVariable.2.contains (String.ofList (Text.foldedCase text.toList))
  | none => false

/-- The bindings of what stands at the path of an environment file; a directory has none. -/
def read (environment : Environment) (content : Option Content) : Except Cause (List Binding) :=
  if ignoresFiles environment then .ok []
  else
    match content with
    | some (.bytes bytes) =>
      match Text.decodeUtf8 bytes with
      | .error fault => .error ⟨"UnicodeDecodeError", fault.text⟩
      | .ok text => .ok (fileBindings environment text)
    | some (.refused e) => .error e
    | _ => .ok []

end CallGuard.Standard.EnvironmentFile
