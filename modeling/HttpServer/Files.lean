import HttpServer.Outlet
import HttpServer.Path

/-!
# Files

A file system gives what stands under a path: a file with its octets, a directory, or why there is
nothing. Where all files and directories are known, a path is followed name by name.
-/

namespace HttpServer

inductive FileNode where
  | directory
  | file (content : Bytes)
deriving DecidableEq

/-- What stands under each path, or why there is nothing. -/
abbrev FileSystem := Path → Except SystemFailure FileNode

namespace FileSystem

def has (files : FileSystem) (path : Path) : Bool := (files path).isOk

/-- The octets of a file. -/
def read (files : FileSystem) (path : Path) : Except SystemFailure Bytes := do
  match ← files path with
  | .directory => throw .isADirectory
  | .file content => return content

end FileSystem

/-- All files and directories but the root, each by the names on the way to it. -/
structure FileTree where
  nodes : List (List Bytes × FileNode)
  /-- The directory from which paths start that do not start from the root. -/
  working : List Bytes := []

namespace FileTree

def standardDirectories : List String :=
  ["bin", "boot", "dev", "etc", "home", "lib", "media", "mnt", "opt", "proc", "root", "run", "sbin",
    "srv", "sys", "tmp", "usr", "var"]

/-- Files that every host has: the device that is always empty, and the list of users. -/
def standardFiles : List (List String × Bytes) :=
  [(["dev", "null"], []), (["etc", "passwd"], Utf8.encode "root:x:0:0::/:\n")]

/-- The files of a working directory, with all directories on the way to it, and what every host
has. -/
def ofFiles (working : List String) (files : List (String × Bytes)) : FileTree :=
  let directories := standardDirectories.map (fun name => [name])
    ++ (List.range working.length).map fun place => working.take (place + 1)
  let files := files.map (fun (name, content) => (working ++ [name], content)) ++ standardFiles
  { working := working.map Utf8.encode
    nodes := directories.map (fun names => (names.map Utf8.encode, .directory))
      ++ files.map fun (names, content) => (names.map Utf8.encode, .file content) }

def slash : UInt8 := 0x2F
def maximumName : Nat := 255
def maximumPath : Nat := 4095

def node? (tree : FileTree) (names : List Bytes) : Option FileNode :=
  if names.isEmpty then some .directory
  else (tree.nodes.find? fun node => node.1 = names).map Prod.snd

/-- Follows names from where others have led. An empty name and a single point lead nowhere else, two
points lead back by a name, and all three can only be followed in a directory. -/
def follow (tree : FileTree) : (here : List Bytes) → List Bytes → Except SystemFailure FileNode
  | here, [] => (tree.node? here).elim (.error .noSuchFile) .ok
  | here, name :: rest =>
    match tree.node? here with
    | none => .error .noSuchFile
    | some (.file _) => .error .notADirectory
    | some .directory =>
      if name = [] ∨ name = Bytes.ascii "." then tree.follow here rest
      else if name = Bytes.ascii ".." then tree.follow here.dropLast rest
      else if maximumName < name.length then .error .nameTooLong
      else tree.follow (here ++ [name]) rest

def toFileSystem (tree : FileTree) : FileSystem := fun path =>
  if path.isEmpty then .error .noSuchFile
  else if maximumPath < path.length then .error .nameTooLong
  else
    tree.follow (if path.head? = some slash then [] else tree.working)
      (Bytes.splitAtEach slash path)

end FileTree

end HttpServer
