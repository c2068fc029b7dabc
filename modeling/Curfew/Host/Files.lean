import Curfew.Bytes
import Curfew.IoError.Basic

/-!
# Files

A tree of files, directories, symbolic links and devices, kept as a list of absolute paths.

* **`Files.locate`** follows a path through directories and links to the place it names.
* **`Files.readAll`** is what reading a whole file by its path yields.
-/

namespace Curfew.Host

/-- A place in the tree: the names on the way from the root. -/
abbrev Place := List Bytes

inductive Device
  | null
  /-- Endless zero bytes to readers, and takes anything. -/
  | zero
  /-- Endless zero bytes to readers, and has no room for writers. -/
  | full
deriving DecidableEq, Repr

inductive Node
  | file (body : Bytes) (mode : Nat)
  | link (target : Bytes)
  | directory
  | device (d : Device)
  /-- A program of the system, by name. -/
  | program (name : String)
deriving DecidableEq, Repr

/-- The places that exist. The root always does. -/
structure Files where
  nodes : List (Place × Node)

namespace Files

/-- The longest name in a directory, in bytes. -/
def nameLimit : Nat := 255

/-- A path must have fewer bytes than this. -/
def pathLimit : Nat := 4096

/-- The most links that are followed on the way to a place. -/
def linkDepth : Nat := 40

/-- The byte of `/`. -/
def slash : UInt8 := 47

/-- The byte of `.`. -/
def dot : UInt8 := 46

def render (place : Place) : Bytes :=
  if place.isEmpty then [slash] else place.flatMap fun name => slash :: name

def find? (fs : Files) (place : Place) : Option Node :=
  if place.isEmpty then some .directory
  else (fs.nodes.find? fun entry => entry.1 == place).map Prod.snd

/-- Makes a place hold `node`. -/
def put (fs : Files) (place : Place) (node : Node) : Files :=
  ⟨(place, node) :: fs.nodes.filter fun entry => entry.1 != place⟩

def remove (fs : Files) (place : Place) : Files :=
  ⟨fs.nodes.filter fun entry => entry.1 != place⟩

/-- Removes a place and all places below it. -/
def removeTree (fs : Files) (place : Place) : Files :=
  ⟨fs.nodes.filter fun entry => !place.isPrefixOf entry.1⟩

def namesIn (fs : Files) (place : Place) : List Bytes :=
  fs.nodes.filterMap fun entry =>
    if entry.1.dropLast == place then entry.1.getLast? else none

/-- The names of a path. A slash at the end asks for a directory, as a dot there would. -/
def names (path : Bytes) : List Bytes :=
  let parts := (path.splitOn slash).filter (· ≠ [])
  if path.getLast? = some slash then parts ++ [[dot]] else parts

/-- Goes on from `here` along `rest`. A link at the very end is followed only with `follow`; a name
that is missing there is allowed with `create`. -/
def walk (fs : Files) (follow create : Bool) (links : Nat) (here : Place) (rest : List Bytes) :
    Except Errno Place :=
  match rest with
  | [] => .ok here
  | name :: rest =>
    match fs.find? here with
    | some .directory =>
      if name = [dot] then walk fs follow create links here rest
      else if name = [dot, dot] then walk fs follow create links here.dropLast rest
      else if nameLimit < name.length then .error .nameTooLong
      else
        match fs.find? (here ++ [name]) with
        | none => if create && rest.isEmpty then .ok (here ++ [name]) else .error .noEntry
        | some (.link target) =>
          if rest.isEmpty && !follow then .ok (here ++ [name])
          else
            match links with
            | 0 => .error .linkLoop
            | links + 1 =>
              let start := if target.head? = some slash then [] else here
              walk fs follow create links start (names target ++ rest)
        | some _ => walk fs follow create links (here ++ [name]) rest
    | _ => .error .notDirectory
termination_by (links, rest.length)

/-- The place that a path names, seen from the directory `cwd`. -/
def locate (fs : Files) (cwd : Place) (path : Bytes) (follow create : Bool) :
    Except Errno Place :=
  if path.isEmpty then .error .noEntry
  else if pathLimit ≤ path.length then .error .nameTooLong
  else
    walk fs follow create linkDepth (if path.head? = some slash then [] else cwd) (names path)

/-- What is at the place that a path names. -/
def lookup (fs : Files) (cwd : Place) (path : Bytes) : Except Errno (Place × Node) := do
  let place ← fs.locate cwd path true false
  match fs.find? place with
  | some node => .ok (place, node)
  | none => .error .noEntry

def readAll (fs : Files) (cwd : Place) (path : Bytes) : Except IoError Bytes :=
  if path.contains 0 then
    .error (.custom .invalidInput "file name contained an unexpected NUL byte")
  else
    match fs.lookup cwd path with
    | .error e => .error (.system e)
    | .ok (_, .file body _) => .ok body
    | .ok (_, .device .null) => .ok []
    | .ok (_, .device _) => .error (.system ⟨12⟩)
    | .ok (_, .program _) => .ok []
    | .ok (_, .link _) => .error (.system .noEntry)
    | .ok (_, .directory) => .error (.system .isDirectory)

end Files

end Curfew.Host
