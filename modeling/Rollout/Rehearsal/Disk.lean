import Rollout.File

/-!
# A rehearsed disk

A disk for rehearsals is a tree of directories and files. A path is walked from name to name as a
system does it: `.` stays where it is, `..` goes up, and whatever comes after a name, even if it
is only a slash, asks that name to be a directory. New files and directories can be made in all
directories but closed ones, which the system fills itself.
-/

namespace Rollout.Rehearsal

/-- What is at a place of a disk. -/
inductive Node where
  | file (data : ByteArray)
  | directory (isClosed : Bool)
deriving Inhabited

/-- A place on a disk: the names that lead there from the root. -/
abbrev Place : Type := List String

/-- A disk, with the place from which paths are walked. The root is always there. -/
structure Disk where
  nodes : List (Place × Node) := []
  here : Place := []

namespace Disk

/-! ## Looking -/

/-- What is at a place. -/
def node? (d : Disk) (place : Place) : Option Node :=
  if place.isEmpty then some (.directory false) else d.nodes.lookup place

/-- The greatest number of bytes in a name. -/
def maxName : Nat := 255

/-- The greatest number of bytes in a path. -/
def maxPath : Nat := 4095

/-- The place that names lead to from another. -/
def walk (d : Disk) (place : Place) : List String → Except PathFault Place
  | [] => .ok place
  | name :: rest =>
    match d.node? place with
    | none => .error .missing
    | some (.file _) => .error .notDirectory
    | some (.directory _) =>
      if name = "" ∨ name = "." then walk d place rest
      else if name = ".." then walk d place.dropLast rest
      else if maxName < name.utf8ByteSize then .error .tooLong
      else
        let next := place ++ [name]
        if (d.node? next).isSome then walk d next rest else .error .missing

/-- The names in a path, and the place from which they lead on. -/
def names (d : Disk) (path : String) : Place × List String :=
  (if path.startsWith "/" then [] else d.here, path.splitOn "/")

/-- What is wrong with a path wherever it leads. -/
def fault? (path : String) : Option PathFault :=
  if path.contains '\x00' then some .hasNul
  else if path.isEmpty then some .missing
  else if maxPath < path.utf8ByteSize then some .tooLong
  else none

/-- The place that a path leads to. -/
def find (d : Disk) (path : String) : Except PathFault Place :=
  match fault? path with
  | some fault => .error fault
  | none => (fun (start, names) => d.walk start names) (d.names path)

/-- What is found under a path. -/
def content (d : Disk) (path : String) : FileContent :=
  match d.find path with
  | .error fault => .nothing fault
  | .ok place =>
    match d.node? place with
    | some (.file data) => .bytes data
    | some (.directory _) => .directory
    | none => .nothing .missing

/-- Whether a path leads to a directory. -/
def isDirectory (d : Disk) (path : String) : Bool :=
  match d.content path with
  | .directory => true
  | _ => false

/-- How many entries there are in the directory at a place. -/
def count (d : Disk) (place : Place) : Nat :=
  (d.nodes.filter fun (other, _) => other.length = place.length + 1
    && other.take place.length == place).length

/-! ## Making -/

/-- Why nothing is made at a path. -/
inductive Refusal where
  | nowhere (fault : PathFault)
  /-- There is something already, or the directory is closed. -/
  | barred
deriving DecidableEq, Inhabited

/-- Makes something new at a path. -/
def make (d : Disk) (path : String) (node : Node) : Except Refusal Disk :=
  match fault? path with
  | some fault => .error (.nowhere fault)
  | none =>
    let (start, names) := d.names path
    let name := names.getLastD ""
    match d.walk start names.dropLast with
    | .error fault => .error (.nowhere fault)
    | .ok place =>
      match d.node? place with
      | some (.directory isClosed) =>
        if maxName < name.utf8ByteSize then .error (.nowhere .tooLong)
        else if isClosed || ["", ".", ".."].contains name
            || (d.node? (place ++ [name])).isSome then .error .barred
        else .ok { d with nodes := d.nodes ++ [(place ++ [name], node)] }
      | _ => .error (.nowhere .notDirectory)

/-- The path of some names. -/
def pathOf (isAbsolute : Bool) (names : List String) : String :=
  (if isAbsolute then "/" else "") ++ "/".intercalate names

/-- Makes a directory and those on the way to it that are not there, given the names on the path
in reverse. -/
def makeDirectories (d : Disk) (isAbsolute : Bool) : List String → Except Refusal Disk
  | [] => .ok d
  | name :: before =>
    let path := pathOf isAbsolute (before.reverse ++ [name])
    let settle (d : Disk) : Except Refusal Disk → Except Refusal Disk
      | .ok d => .ok d
      | .error refusal => if d.isDirectory path then .ok d else .error refusal
    match d.make path (.directory false) with
    | .error (.nowhere .missing) =>
      match makeDirectories d isAbsolute before with
      | .ok d => settle d (d.make path (.directory false))
      | .error refusal => .error refusal
    | result => settle d result

/-- Opens a file in order to add to it. It is made if it is not there. -/
def append? (d : Disk) (path : String) : Option Disk :=
  match d.content path with
  | .bytes _ => some d
  | .directory => none
  | .nothing _ => (d.make path (.file .empty)).toOption

/-- Opens a file in a directory in order to add to it. Directories that are not there are made. -/
def openIn? (d : Disk) (dir name : String) : Option Disk :=
  let path := if dir.isEmpty || dir.endsWith "/" then dir ++ name else dir ++ "/" ++ name
  match d.append? path with
  | some d => some d
  | none =>
    let names := (dir.splitOn "/").filter (fun n => n != "" && n != ".")
    match d.makeDirectories (dir.startsWith "/") names.reverse with
    | .ok d => d.append? path
    | .error _ => none

/-! ## A machine -/

/-- The directories that every machine has. -/
def systemDirectories : List Place :=
  [["bin"], ["dev"], ["etc"], ["home"], ["lib"], ["media"], ["mnt"], ["opt"], ["root"], ["run"],
    ["sbin"], ["srv"], ["tmp"], ["usr"], ["usr", "bin"], ["usr", "lib"], ["usr", "local"],
    ["usr", "sbin"], ["usr", "share"], ["var"], ["var", "lib"], ["var", "log"], ["var", "tmp"]]

/-- Directories that the system fills itself. -/
def closedDirectories : List Place := [["proc"], ["proc", "self"], ["sys"]]

/-- Files that are empty, or can be read as empty. -/
def emptyFiles : List Place := [["dev", "null"], ["dev", "stdin"]]

/-- Files with text. -/
def textFiles : List Place :=
  [["etc", "group"], ["etc", "hostname"], ["etc", "hosts"], ["etc", "os-release"],
    ["etc", "passwd"], ["etc", "resolv.conf"], ["proc", "cpuinfo"], ["proc", "loadavg"],
    ["proc", "meminfo"], ["proc", "mounts"], ["proc", "self", "cmdline"],
    ["proc", "self", "environ"], ["proc", "self", "maps"], ["proc", "self", "stat"],
    ["proc", "self", "status"], ["proc", "uptime"], ["proc", "version"]]

/-- Files with programs, which are no text. -/
def programFiles : List Place :=
  [["bin", "cat"], ["bin", "ls"], ["bin", "sh"], ["usr", "bin", "env"]]

/-- The nodes of a machine with a working directory. -/
def machineNodes (here : Place) : List (Place × Node) :=
  let all (node : Node) (places : List Place) : List (Place × Node) := places.map (·, node)
  all (.directory false) (systemDirectories ++ [here])
    ++ all (.directory true) closedDirectories
    ++ all (.file .empty) emptyFiles
    ++ all (.file "text".toUTF8) textFiles
    ++ all (.file ⟨#[0x7F, 0xFF]⟩) programFiles

/-- The working directory of rehearsals. -/
def workPlace : Place := ["tmp", "rehearsal"]

/-- The disk of a machine with files in its working directory. -/
def withFiles (files : List (String × ByteArray)) : Disk where
  here := workPlace
  nodes := machineNodes workPlace
    ++ files.map fun (name, data) => (workPlace ++ [name], .file data)

end Disk

end Rollout.Rehearsal
