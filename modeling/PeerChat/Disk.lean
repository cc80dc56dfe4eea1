import PeerChat.Text.Cut

/-!
The files that a program can read: directories with names in them, paths through these, and what can go wrong on the
way. A path begins at the root of the system or at the directory in which the program runs.
-/

namespace PeerChat

namespace Disk

/-- Why a file cannot be read. -/
inductive Fault
  | notFound
  | permissionDenied
  | isDirectory
  | notDirectory
  | nameTooLong
  | nulInName
  | notUtf8
deriving DecidableEq, Repr

def Fault.message : Fault → String
  | notFound => "No such file or directory (os error 2)"
  | permissionDenied => "Permission denied (os error 13)"
  | isDirectory => "Is a directory (os error 21)"
  | notDirectory => "Not a directory (os error 20)"
  | nameTooLong => "File name too long (os error 36)"
  | nulInName => "file name contained an unexpected NUL byte"
  | notUtf8 => "stream did not contain valid UTF-8"

/-- A file with its content, or a directory with the names in it. -/
inductive Node
  | file (content : ByteArray)
  | directory (entries : List (String × Node))

/-- The size that the system tells; a directory takes one block. -/
def Node.size : Node → Nat
  | file content => content.size
  | directory _ => 4096

def Node.content : Node → Except Fault ByteArray
  | file content => .ok content
  | directory _ => .error .isDirectory

def parts (path : String) : List String := (Text.splitAtChar '/' path.toList).map String.ofList

/-- The most bytes that a path can have. -/
def maxPathBytes : Nat := 4095

/-- The most bytes that a part of a path can have. -/
def maxNameBytes : Nat := 255

/-- Follows the parts of a path from a node; `above` holds the directories on the way from the root, the nearest first.
The root is above itself. -/
def follow (above : List Node) (here : Node) : List String → Except Fault Node
  | [] => .ok here
  | part :: rest =>
    match here with
    | .file _ => .error .notDirectory
    | .directory entries =>
      if part = "" ∨ part = "." then follow above here rest
      else if part = ".." then
        match above with
        | parent :: above => follow above parent rest
        | [] => follow [] here rest
      else if maxNameBytes < part.utf8ByteSize then .error .nameTooLong
      else
        match entries.lookup part with
        | some node => follow (here :: above) node rest
        | none => .error .notFound

def isAbsolute (path : String) : Bool := path.toList.head? = some '/'

end Disk

/-- What a program can read: the directory in which it runs, and the directories above it, the nearest first. -/
structure Disk where
  here : Disk.Node
  above : List Disk.Node

namespace Disk

def root (disk : Disk) : Node := disk.above.getLastD disk.here

/-- The names that every system has at its root. Nothing in the directories is known, but for the file that is always
empty. -/
def systemRoot : Node :=
  let device : String × Node := ("dev", .directory [("null", .file .empty)])
  .directory (device :: ["etc", "home", "proc", "tmp", "usr", "var"].map fun name => (name, .directory []))

/-- The disk of a program that runs in a directory with these names, of which nothing else is known. -/
def ofEntries (entries : List (String × Node)) : Disk := ⟨.directory entries, [systemRoot]⟩

def find (disk : Disk) (path : String) : Except Fault Node :=
  if path.toList.contains '\x00' then .error .nulInName
  else if path = "" then .error .notFound
  else if maxPathBytes < path.utf8ByteSize then .error .nameTooLong
  else if isAbsolute path then follow [] disk.root (parts path)
  else follow disk.above disk.here (parts path)

/-- The name of the file that a path ends in; none for a path that ends in a step upwards or in nothing. -/
def fileName? (path : String) : Option String :=
  match (parts path).filter (fun part => part ≠ "" ∧ part ≠ ".") |>.getLast? with
  | some name => if name = ".." then none else some name
  | none => none

/-- The node with an empty file under a path, unless there is something already or no directory for it. -/
def touch (node : Node) : List String → Node
  | [] => node
  | [name] =>
    match node with
    | .directory entries =>
      if (entries.lookup name).isSome then node else .directory (entries ++ [(name, .file .empty)])
    | .file _ => node
  | name :: rest =>
    match node with
    | .directory entries =>
      .directory (entries.map fun (other, child) => if other = name then (other, touch child rest) else (other, child))
    | .file _ => node

/-- The disk after the file at a path was opened for writing at its end. What happens outside of the directory in
which the program runs is not followed. -/
def opened (disk : Disk) (path : String) : Disk :=
  if isAbsolute path ∨ ["", ".", ".."].contains ((parts path).getLastD "") then disk
  else { disk with here := touch disk.here ((parts path).filter fun part => part ≠ "" ∧ part ≠ ".") }

/-- The directory with a node under a name. -/
def Node.put (node : Node) (name : String) (child : Node) : Node :=
  match node with
  | .directory entries => .directory ((name, child) :: entries.filter (·.1 ≠ name))
  | .file _ => .directory [(name, child)]

/-- The node under a name; a new directory if there is none. -/
def Node.child (node : Node) (name : String) : Node :=
  match node with
  | .directory entries => (entries.lookup name).getD (.directory [])
  | .file _ => .directory []

/-- Puts a node where the parts of a path lead, making the directories on the way; the directories above and the node
that the path began at come back. -/
def place (node : Node) (above : List Node) (here : Node) : List String → List Node × Node
  | [] => (above, node)
  | part :: rest =>
    if part = "" ∨ part = "." then place node above here rest
    else if part = ".." then
      match above with
      | [] => place node [] here rest
      | parent :: above =>
        let (above, parent) := place node above parent rest
        (parent :: above, here)
    else
      match place node (here :: above) (here.child part) rest with
      | (here :: above, child) => (above, here.put part child)
      | ([], child) => ([], here.put part child)

/-- A disk with one file, where a path leads from a directory somewhere below the root. -/
def ofFile (content : ByteArray) (path : String) : Disk :=
  let steps := parts path
  let empty : Node := .directory []
  if isAbsolute path then ⟨empty, [(place (.file content) [] empty steps).2]⟩
  else
    let ups := (steps.filter (· = "..")).length
    let (above, here) := place (.file content) (List.replicate (ups + 1) empty) empty steps
    ⟨here, above⟩

end Disk

end PeerChat
