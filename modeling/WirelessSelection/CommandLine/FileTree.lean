import WirelessSelection.CommandLine.Host
import WirelessSelection.CommandLine.Path

/-! A tree of files held in memory. Its root has the directories that systems have, and the program
works in a folder among the temporary files, which no name leads to. -/

namespace WirelessSelection.CommandLine

inductive Place
  | root
  | folder
  | branch (name : String)
  deriving DecidableEq, Repr

namespace Place

def parent : Place → Place
  | root | branch _ => root
  | folder => branch "tmp"

def branches : List String :=
  ["bin", "dev", "etc", "lib", "tmp", "usr", "var"]

def inside? : Place → String → Option Place
  | root, name => if name ∈ branches then some (branch name) else none
  | folder, _ | branch _, _ => none

end Place

inductive Entry
  | directory (p : Place)
  | file (content : Bytes)
  deriving DecidableEq, Repr

structure FileTree where
  files : List ((Place × String) × Bytes) := []
  printed : List String := []
  deriving Repr

namespace FileTree

def ofFiles (files : List (String × Bytes)) : FileTree where
  files := ((.branch "dev", "null"), []) :: files.map fun f => ((.folder, f.1), f.2)

def file? (t : FileTree) (p : Place) (name : String) : Option Bytes :=
  t.files.lookup (p, name)

def maximumNameSize : Nat := 255

/-- A name is looked at only once the walk is in its directory, and then its length comes first. -/
def find (t : FileTree) (p : Place) (name : String) : Except FileError (Option Entry) :=
  if maximumNameSize < name.utf8ByteSize then .error .nameTooLong
  else .ok (((p.inside? name).map .directory) <|> (t.file? p name).map .file)

def walk (t : FileTree) : Place → List Component → Except FileError Place
  | p, [] => .ok p
  | p, .stay :: rest => t.walk p rest
  | p, .up :: rest => t.walk p.parent rest
  | p, .name s :: rest => do
    match ← t.find p s with
    | some (.directory q) => t.walk q rest
    | some (.file _) => .error .notDirectory
    | none => .error .notFound

def locate (t : FileTree) (path : String) : Except FileError (Place × Option Goal) := do
  if path.isEmpty then throw .notFound
  if Path.maximumSize < path.utf8ByteSize then throw .nameTooLong
  let parsed := Path.ofString path
  return (← t.walk (if parsed.isAbsolute then .root else .folder) parsed.way, parsed.goal)

def read (t : FileTree) (path : String) : Except FileError Bytes := do
  match ← t.locate path with
  | (_, none) => .error .isDirectory
  | (p, some goal) =>
    match ← t.find p goal.name with
    | some (.directory _) => .error .isDirectory
    | some (.file content) => if goal.isSlashed then .error .notDirectory else .ok content
    | none => .error .notFound

def isPresent (t : FileTree) (path : String) : Bool :=
  match t.read path with
  | .ok _ => true
  | .error e => e = .isDirectory

def write (t : FileTree) (path : String) (content : Bytes) : Except FileError FileTree := do
  match ← t.locate path with
  | (_, none) => .error .isDirectory
  | (p, some goal) =>
    -- What is to be made under a name with a slash is taken for a directory.
    if goal.isSlashed then throw .isDirectory
    match ← t.find p goal.name with
    | some (.directory _) => .error .isDirectory
    | _ => .ok { t with files := ((p, goal.name), content) :: t.files }

def host : Host (StateM FileTree) where
  read path := do return (← get).read path
  isPresent path := do return (← get).isPresent path
  write path content := do
    match (← get).write path content with
    | .ok t =>
      set t
      return .ok ()
    | .error e => return .error e
  print line := modify fun t => { t with printed := t.printed ++ [line] }

end FileTree

end WirelessSelection.CommandLine
