import CallGuard.Text.Trim

/-!
Path texts with slashes: joining, normal form, directory and name parts. A path is only taken apart
here; whether anything stands at it is for the file tree to say.
-/

namespace CallGuard.Files

open CallGuard.Text

def isAbsolute (path : String) : Bool :=
  path.toList.head? = some '/'

/-- A path below a directory; an absolute path stays itself. -/
def join (directory path : String) : String :=
  if isAbsolute path then path
  else if directory.isEmpty || directory.toList.getLast? = some '/' then directory ++ path
  else directory ++ "/" ++ path

def parts (path : String) : List String :=
  (pieces '/' path.toList).map String.ofList

/--
Takes one more part into a normal list of parts, latest first: empty parts and single dots vanish,
a double dot takes the part before it away unless there is none to take.
-/
def normalStep (rooted : Bool) (kept : List String) (part : String) : List String :=
  if part = "" || part = "." then kept
  else if part = ".." then
    match kept with
    | [] => if rooted then [] else [".."]
    | last :: before => if last = ".." then ".." :: kept else before
  else part :: kept

/-- The slashes that a normal path starts with: two stay two, more become one. -/
def leadingSlashes (path : String) : String :=
  match path.toList with
  | '/' :: '/' :: '/' :: _ => "/"
  | '/' :: '/' :: _ => "//"
  | '/' :: _ => "/"
  | _ => ""

def normal (path : String) : String :=
  let lead := leadingSlashes path
  let kept := (parts path).foldl (normalStep (lead ≠ "")) []
  let shown := lead ++ "/".intercalate kept.reverse
  if shown.isEmpty then "." else shown

/-- A path without empty parts and single dots; double dots stay. -/
def tidy (path : String) : String :=
  let kept := (parts path).filter fun part => part ≠ "" && part ≠ "."
  let shown := leadingSlashes path ++ "/".intercalate kept
  if shown.isEmpty then "." else shown

def absolute (workingDirectory path : String) : String :=
  normal (join workingDirectory path)

/-- The part of a path after its last slash. -/
def baseName (path : String) : String :=
  (parts path).getLast?.getD ""

/-- The part of a path up to its last slash, without slashes at its end unless it is all slashes. -/
def directoryName (path : String) : String :=
  let head := (path.toList.reverse.dropWhile (· != '/')).reverse
  if head.all (· == '/') then String.ofList head
  else String.ofList ((head.reverse.dropWhile (· == '/')).reverse)

/-- A file name without its suffix; dots at the front start no suffix. -/
def stem (name : String) : String :=
  let cs := name.toList
  let front := cs.takeWhile (· == '.')
  let body := cs.dropWhile (· == '.')
  if body.contains '.' then
    String.ofList (front ++ ((body.reverse.dropWhile (· != '.')).drop 1).reverse)
  else name

end CallGuard.Files
