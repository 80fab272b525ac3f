import CallGuard.Text.Trim
import CallGuard.Value.Basic

/-!
Documentation text and the parameter lines in it. Before a text is searched its tabs are expanded,
the common indentation is taken off and blank lines at both ends are dropped. A parameter line
starts with the tag `@param`; its payload is the text after the tag.
-/

namespace CallGuard.Docstring

open CallGuard.Text

/-- Replaces each tab by blanks up to the next column that is a multiple of eight. -/
def expandTabs (cs : List Char) : List Char :=
  go 0 cs
where
  go (column : Nat) : List Char → List Char
    | [] => []
    | c :: rest =>
      if c = '\t' then
        let width := 8 - column % 8
        List.replicate width ' ' ++ go (column + width) rest
      else if c = '\n' || c = '\r' then c :: go 0 rest
      else c :: go (column + 1) rest

/-- The indentation of a line that is not blank. -/
def indent? (line : List Char) : Option Nat :=
  if (trimStart line).isEmpty then none else some (line.length - (trimStart line).length)

/-- The smallest indentation of the lines that are not blank. -/
def margin? (rows : List (List Char)) : Option Nat :=
  (rows.filterMap indent?).min?

/-- The lines with the common indentation taken off; that of the first line counts by itself. -/
def undented : List (List Char) → List (List Char)
  | [] => []
  | first :: rest =>
    trimStart first ::
      (match margin? rest with
        | none => rest
        | some margin => rest.map (List.drop margin))

/-- The lines without the empty ones at both ends. -/
def dropEmptyEnds (rows : List (List Char)) : List (List Char) :=
  ((rows.reverse.dropWhile List.isEmpty).reverse).dropWhile List.isEmpty

/-- The documentation text without indentation and empty ends. -/
def clean (doc : List Char) : List Char :=
  joinPieces '\n' (dropEmptyEnds (undented (pieces '\n' (expandTabs doc))))

def tag : List Char :=
  "@param".toList

/-- The payload of a parameter line: after the tag no word character may follow directly. -/
def payload? (line : List Char) : Option (List Char) :=
  let body := trimStart line
  if tag.isPrefixOf body then
    let rest := body.drop tag.length
    match rest with
    | [] => some []
    | c :: _ => if isWord c then none else some (trim rest)
  else none

/-- The payloads of the parameter lines of a text, in order. -/
def payloads (doc : List Char) : List (List Char) :=
  (lines doc).filterMap payload?

/-- The parameter lines of a documentation text; none when there are none. -/
def scan (doc : String) : Option (List String) :=
  match (payloads (clean doc.toList)).map String.ofList with
  | [] => none
  | found => some found

/-- The parameter lines of a value used as documentation: only a text has any. -/
def scanValue : Value → Option (List String)
  | .text doc => scan doc
  | _ => none

end CallGuard.Docstring

namespace CallGuard

/-- The documentation that counts for a callable: methods and classes inherit a missing one. -/
def Callable.effectiveDoc (c : Callable) : Option String :=
  match c.kind with
  | .method | .classObject => c.doc.or c.inheritedDoc
  | _ => c.doc

def Callable.parameterLines (c : Callable) : Option (List String) :=
  c.effectiveDoc.bind Docstring.scan

/-- The parameter lines of a value: only a callable has any. -/
def Value.parameterLines : Value → Option (List String)
  | .callable c => c.parameterLines
  | _ => none

end CallGuard
