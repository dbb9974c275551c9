import MediaSocket.Table

/-!
The files of a host: a tree of directories, and the walk along a path from the root or from the
working directory. Paths are walked name by name, so that the first name that leads nowhere decides
why a file cannot be read.
-/

namespace MediaSocket

inductive FileNode where
  | file (text : String)
  | directory (entries : List (String × FileNode))

inductive FileError where
  | missing
  | notDirectory
  | isDirectory
  | nameTooLong
  deriving DecidableEq, Repr

def FileError.message : FileError → String
  | .missing => "No such file or directory (os error 2)"
  | .notDirectory => "Not a directory (os error 20)"
  | .isDirectory => "Is a directory (os error 21)"
  | .nameTooLong => "File name too long (os error 36)"

namespace FileNode

def entry (node : FileNode) (name : String) : Except FileError FileNode :=
  match node with
  | .file _ => .error .notDirectory
  | .directory entries =>
    if 255 < name.utf8ByteSize then .error .nameTooLong
    else
      match Table.find name entries with
      | none => .error .missing
      | some node => .ok node

/-- The node at the end of a path without `.` and `..`. -/
def at? (node : FileNode) (names : List String) : Except FileError FileNode :=
  names.foldlM entry node

def entries : FileNode → List (String × FileNode)
  | .file _ => []
  | .directory entries => entries

/-- A directory with a file at the end of a path, and with the directories on the way. -/
def withFile (text : String) : List String → FileNode → FileNode
  | [], _ => .file text
  | name :: names, node =>
    let inner := (Table.find name node.entries).getD (.directory [])
    .directory (Table.put name (withFile text names inner) node.entries)

end FileNode

/-- The files of a host, and in which directory a program works. -/
structure Files where
  root : FileNode
  working : List String

namespace Files

/-- The names of a path: what stands between slashes. -/
def names (path : String) : List String :=
  (path.splitOn "/").filter fun name => !name.isEmpty

/-- The place that a name leads to: the directory above, this directory, or what it contains. -/
def step (f : Files) (place : List String) (name : String) : Except FileError (List String) := do
  match ← f.root.at? place with
  | .file _ => throw .notDirectory
  | .directory _ =>
    if name = "." then return place
    else if name = ".." then return place.dropLast
    else
      let _ ← f.root.at? (place ++ [name])
      return place ++ [name]

/-- The text of the file at the end of a path. A slash at the end asks for a directory; the empty
path leads nowhere. -/
def read (f : Files) (path : String) : Except FileError String := do
  if path.isEmpty then throw .missing
  if 4096 ≤ path.utf8ByteSize then throw .nameTooLong
  let start := if path.startsWith "/" then [] else f.working
  let place ← (names path).foldlM f.step start
  match ← f.root.at? place with
  | .directory _ => throw .isDirectory
  | .file text => if path.endsWith "/" then throw .notDirectory else return text

/-- The text of a file, or what is said of it. -/
def text (f : Files) (path : String) : Except String String :=
  (f.read path).mapError FileError.message

/-- Directories that every host has, of those that matter only by being there. -/
def standardDirectories : List String :=
  ["bin", "boot", "home", "lib", "media", "mnt", "opt", "proc", "root", "run", "sbin",
   "srv", "sys", "usr", "var"]

/-- The lists of users, groups and hosts. -/
def standardLists : List (String × FileNode) :=
  [("passwd", .file "root:x:0:0:root:/root:/bin/sh\n"), ("group", .file "root:x:0:\n"),
   ("hosts", .file "127.0.0.1 localhost\n")]

/-- A host with the standard directories and lists, the device that holds nothing, and a working
directory with some files. -/
def standard (files : List (String × String)) : Files :=
  let place (path : String) := (names path).filter (· != ".")
  let work := files.foldl (fun node (path, text) => node.withFile text (place path)) (.directory [])
  let known : List (String × FileNode) :=
    [("dev", .directory [("null", .file "")]), ("etc", .directory standardLists),
     ("tmp", .directory [("work", work)])]
  ⟨.directory (known ++ standardDirectories.map fun name => (name, .directory [])),
    ["tmp", "work"]⟩

end Files

end MediaSocket
