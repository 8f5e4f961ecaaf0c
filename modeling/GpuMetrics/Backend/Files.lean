import GpuMetrics.Backend.Host

/-!
# Files

The files of a machine stand in directories, and a **place** is the list of the names on the way
from the root to a file or to a directory. A **path** leads to a place from the root, or from the
directory that a program works in. It is followed name by name
(`GpuMetrics.Backend.FileTree.follow?`), so whatever it passes has to be a directory, even where
the path turns back.

Files can be read (`GpuMetrics.Backend.FileTree.read?`), and they are the commands of a machine
(`GpuMetrics.Backend.Host.ofFiles`).
-/

namespace GpuMetrics.Backend

/-- A file. -/
structure File where
  contents : List UInt8 := []
  /-- What becomes of starting the file; one that is no program may not be started. -/
  launch : Launch := .refused .permissionDenied
  deriving DecidableEq, Repr

/-- What stands at a place. -/
inductive Entry where
  | file (f : File)
  | directory
  deriving DecidableEq, Repr

/-- The names on the way from the root. -/
abbrev Place := List String

/-- The files and directories of a machine, as a program that works in one of them sees them. -/
structure FileTree where
  entries : List (Place × Entry)
  /-- Where paths start that do not start at the root. -/
  workplace : Place
  deriving DecidableEq, Repr

namespace FileTree

/-- The number of bytes that a name may have. -/
def maxNameSize : Nat := 255

/-- The number of bytes that no path may have, nor any more. -/
def pathSizeLimit : Nat := 4096

/-- What stands at a place. The root is a directory on every machine. -/
def entry? (t : FileTree) (place : Place) : Option Entry :=
  if place = [] then some .directory else t.entries.lookup place

/-- What the given names lead to from a place. An empty name and a dot stay where they are, and
two dots go back; the root goes back to itself. -/
def follow? (t : FileTree) (place : Place) : List String → Except SystemError Entry
  | [] =>
    match t.entry? place with
    | some entry => .ok entry
    | none => .error .notFound
  | name :: rest =>
    match t.entry? place with
    | none => .error .notFound
    | some (.file _) => .error .notDirectory
    | some .directory =>
      if name = "" ∨ name = "." then t.follow? place rest
      else if name = ".." then t.follow? place.dropLast rest
      else if maxNameSize < name.utf8ByteSize then .error .nameTooLong
      else t.follow? (place ++ [name]) rest

/-- What a path leads to. -/
def find? (t : FileTree) (path : String) : Except SystemError Entry :=
  if path = "" then .error .notFound
  else if pathSizeLimit ≤ path.utf8ByteSize then .error .nameTooLong
  else
    let start := if path.toList.head? = some '/' then [] else t.workplace
    t.follow? start ((path.toList.splitOn '/').map String.ofList)

/-- What reading the file that a path leads to comes to. -/
def read? (t : FileTree) (path : String) : Except SystemError (List UInt8) :=
  match t.find? path with
  | .error cause => .error cause
  | .ok (.file f) => .ok f.contents
  | .ok .directory => .error .isDirectory

/-- What becomes of starting the file that a path leads to. -/
def start (t : FileTree) (path : String) : Launch :=
  match t.find? path with
  | .error cause => .refused cause
  | .ok (.file f) => f.launch
  | .ok .directory => .refused .permissionDenied

end FileTree

/-- The machine with the given files. A command with a slash in it is a path, any other one a name
in the directory of commands. A command with a zero byte cannot even be looked up. -/
def Host.ofFiles (t : FileTree) (commands : String) : Host where
  launch command :=
    if command.toList.contains '\x00' then .refused .zeroByte
    else if command = "" ∨ command.toList.contains '/' then t.start command
    else t.start (commands ++ "/" ++ command)

end GpuMetrics.Backend
