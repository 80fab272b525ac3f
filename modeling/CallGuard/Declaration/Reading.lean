import CallGuard.Declaration.Basic

/-!
Reading a declaration from a line of text. The line is searched for its leftmost heading: a tag in
braces, blanks, and a dotted name in brackets. What follows on the same line is the description.
A heading whose name has an empty segment makes the whole line unusable, even when a later heading
would be well formed.
-/

namespace CallGuard.Declaration

open CallGuard.Text

def isTagChar (c : Char) : Bool :=
  c.isAlphanum

def isNameChar (c : Char) : Bool :=
  c.isAlphanum || c == '.'

/-- The heading of a declaration and the text after it. -/
structure Heading where
  tag : List Char
  name : List Char
  rest : List Char
  deriving DecidableEq, Repr

def headingAt? : List Char → Option Heading
  | '\x7b' :: cs =>
    let tag := cs.takeWhile isTagChar
    match cs.dropWhile isTagChar with
    | '\x7d' :: gap =>
      match gap.takeWhile isBlank, gap.dropWhile isBlank with
      | _ :: _, '[' :: after =>
        let name := after.takeWhile isNameChar
        match after.dropWhile isNameChar with
        | ']' :: rest => if tag.isEmpty || name.isEmpty then none else some ⟨tag, name, rest⟩
        | _ => none
      | _, _ => none
    | _ => none
  | _ => none

def heading? : List Char → Option Heading
  | [] => none
  | c :: cs => (headingAt? (c :: cs)).or (heading? cs)

/-- The description in the text after a heading: up to the end of the line that it starts on. -/
def descriptionOf (rest : List Char) : List Char :=
  trim ((trimStart rest).takeWhile (· != '\n'))

/-- What a line of text holds. -/
inductive Reading
  | declaration (d : Declaration)
  | noHeading
  | emptySegment
  deriving DecidableEq, Repr

/-- The declaration that a heading makes, unless a segment of its name is empty. -/
def ofHeading (heading : Heading) : Reading :=
  match pieces '.' heading.name with
  | [] => .emptySegment
  | root :: below =>
    if root.isEmpty || below.any List.isEmpty then .emptySegment
    else
      .declaration
        { tag := String.ofList heading.tag
          name := String.ofList root
          path := if below.isEmpty then none else some (String.ofList (joinPieces '.' below))
          description := String.ofList (descriptionOf heading.rest)
          depth := below.length + 1 }

def read (line : String) : Reading :=
  match heading? line.toList with
  | none => .noHeading
  | some heading => ofHeading heading

def ofLine? (line : String) : Option Declaration :=
  match read line with
  | .declaration d => some d
  | _ => none

end CallGuard.Declaration
