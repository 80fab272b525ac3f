import CallGuard.Files.Location
import CallGuard.Value.Basic

/-!
A file tree without links. A file holds bytes, or the definition of a module: its members, the
names it exports, and the error its body ends with. A file may also refuse to be read.
-/

namespace CallGuard.Files

/-- The definition of a module in a file. -/
structure ModuleSource where
  members : List (String × Value)
  exports : Option Value
  failure : Option Raised
  deriving Inhabited

/-- The content of a file, or the error of reading one that refuses it. -/
inductive Content
  | bytes (bs : List UInt8)
  | source (m : ModuleSource)
  | refused (e : Cause)
  deriving Inhabited

/-- What stands at a place in the tree. -/
inductive Node
  | file (content : Content)
  | directory
  deriving Inhabited

/-- A file tree: the nodes by the parts of their absolute paths. The root is always there. -/
structure Tree where
  nodes : List (List String × Node)
  deriving Inhabited

namespace Tree

def node? (tree : Tree) (place : List String) : Option Node :=
  if place.isEmpty then some .directory else tree.nodes.lookup place

def isDirectoryAt (tree : Tree) (place : List String) : Bool :=
  match tree.node? place with
  | some .directory => true
  | _ => false

/-- Follows one part of a path from a place, given in reverse, that has to be a directory. -/
def follow (tree : Tree) (place : Option (List String)) (part : String) : Option (List String) :=
  match place with
  | none => none
  | some place =>
    if !tree.isDirectoryAt place.reverse then none
    else if part = "" || part = "." then some place
    else if part = ".." then some (place.drop 1)
    else some (part :: place)

/-- The place that a path starts from, in reverse. -/
def startOf (workingDirectory path : String) : List String :=
  if isAbsolute path then [] else (parts workingDirectory).filter (· ≠ "") |>.reverse

def longestName : Nat := 255

def longestPath : Nat := 4095

/--
The node that a path leads to from a working directory; every step has to exist, and a path that is
too long leads nowhere.
-/
def locate? (tree : Tree) (workingDirectory path : String) : Option Node :=
  if path.isEmpty || path.utf8ByteSize > longestPath then none
  else
    match (parts path).foldl tree.follow (some (startOf workingDirectory path)) with
    | none => none
    | some place => tree.node? place.reverse

/--
Whether a path is too long, or following it meets a name that is, after directories alone. A path
with a zero character is no path, whatever its length.
-/
def meetsLongName (tree : Tree) (workingDirectory path : String) : Bool :=
  !path.toList.contains '\x00' &&
    (path.utf8ByteSize > longestPath || go (startOf workingDirectory path) (parts path))
where
  /-- Whether following parts from a place meets a name that is too long. -/
  go (place : List String) : List String → Bool
    | [] => false
    | part :: rest =>
      match tree.follow (some place) part with
      | none => false
      | some next => part.utf8ByteSize > longestName || go next rest

def isDirectory (tree : Tree) (workingDirectory path : String) : Bool :=
  match tree.locate? workingDirectory path with
  | some .directory => true
  | _ => false

def content? (tree : Tree) (workingDirectory path : String) : Option Content :=
  match tree.locate? workingDirectory path with
  | some (.file content) => some content
  | _ => none

def isFile (tree : Tree) (workingDirectory path : String) : Bool :=
  (tree.content? workingDirectory path).isSome

def hasNode (tree : Tree) (workingDirectory path : String) : Bool :=
  (tree.locate? workingDirectory path).isSome

/-- Puts a node at a list of parts, in place of what stood there. -/
def put (tree : Tree) (place : List String) (node : Node) : Tree :=
  ⟨(place, node) :: tree.nodes.filter (·.1 ≠ place)⟩

def makeDirectory (tree : Tree) (place : List String) : Tree :=
  ((List.range (place.length + 1)).map place.take).foldl (fun tree above =>
    if (tree.node? above).isSome then tree else tree.put above .directory) tree

def writeFile (tree : Tree) (place : List String) (content : Content) : Tree :=
  (tree.makeDirectory place.dropLast).put place (.file content)

end Tree

end CallGuard.Files
