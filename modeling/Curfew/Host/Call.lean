import Curfew.Host.Files
import Curfew.Host.Signal
import Curfew.Text.Octets

/-!
# What programs ask of the system

A running program is in some state; its next step is one **`Call`** to the system, and the
**`Reply`** decides its next state. A call that cannot be answered yet makes the program wait. Some
things a program may look at without asking: its **`View`**.
-/

namespace Curfew.Host

open Text (Raw)

inductive OpenMode
  | read
  | truncate
  | append
  | readWrite
deriving DecidableEq, Repr

/-- What a descriptor is to be connected with. -/
inductive Target
  | path (path : Bytes) (mode : OpenMode)
  | descriptor (fd : Nat)
  | nowhere
  | text (body : Bytes)
deriving DecidableEq, Repr

/-- What is to become of a signal. -/
inductive Disposition
  | default
  | ignore
  | catch_
deriving DecidableEq, Repr

/-- A change to the tree of files. -/
inductive FileChange
  | touch
  | makeDirectory
  /-- Removes a directory that holds nothing. -/
  | removeDirectory
  | remove
  /-- Removes a file, or a directory with all that it holds. -/
  | removeTree
deriving DecidableEq, Repr

/-- A call, by a program whose forks are in states of type `σ`. -/
inductive Call (σ : Type)
  /-- Nothing; the program works by itself for a while. -/
  | compute
  | write (fd : Nat) (bytes : Bytes)
  /-- Reads some bytes, `most` at the most; none at the end. -/
  | read (fd most : Nat)
  | readFile (path : Bytes)
  | connect (fd : Nat) (target : Target)
  | saveDescriptors
  /-- Goes back to the descriptors remembered last. -/
  | restoreDescriptors
  | pipe
  | fork (child : σ)
  | exec (path : Bytes) (args : List Raw) (env : List (Raw × Raw))
  | exit (code : Nat)
  /-- Waits for the first of some children to end. -/
  | wait (children : List Nat) (interruptible : Bool)
  | signal (target : Int) (s : Signal)
  | dispose (s : Signal) (d : Disposition)
  | sleep (nanos : Nat)
  | newSession
  | changeDirectory (path : Bytes)
  | changeFile (path : Bytes) (change : FileChange)

/-- The call of a program seen as part of a larger kind. -/
def Call.map {σ τ : Type} (f : σ → τ) : Call σ → Call τ
  | .compute => .compute
  | .write fd bytes => .write fd bytes
  | .read fd most => .read fd most
  | .readFile path => .readFile path
  | .connect fd target => .connect fd target
  | .saveDescriptors => .saveDescriptors
  | .restoreDescriptors => .restoreDescriptors
  | .pipe => .pipe
  | .fork child => .fork (f child)
  | .exec path args env => .exec path args env
  | .exit code => .exit code
  | .wait children interruptible => .wait children interruptible
  | .signal target s => .signal target s
  | .dispose s d => .dispose s d
  | .sleep nanos => .sleep nanos
  | .newSession => .newSession
  | .changeDirectory path => .changeDirectory path
  | .changeFile path change => .changeFile path change

inductive Reply
  | done
  | failed (e : Errno)
  | data (bytes : Bytes)
  | descriptors (read write : Nat)
  | child (pid : Nat)
  /-- A child has ended with a raw wait status. -/
  | exited (pid status : Nat)
  | interrupted
deriving DecidableEq, Repr

/-- What a program sees without asking. -/
structure View where
  files : Files
  cwd : Place
  open_ : List Nat

/-- Whether a file's mode lets someone run it. -/
def isExecutableMode (mode : Nat) : Bool := mode &&& 0o111 != 0

namespace View

def node? (v : View) (path : Raw) : Option Node :=
  match v.files.lookup v.cwd path.bytes with
  | .ok (_, node) => some node
  | .error _ => none

/-- Whether a path names something that can be run. -/
def isExecutable (v : View) (path : Raw) : Bool :=
  match v.node? path with
  | some (.file _ mode) => isExecutableMode mode
  | some (.program _) => true
  | _ => false

/-- The first place of a search path at which a command can be run. -/
def findCommand (v : View) (searchPath name : Raw) : Option Raw :=
  let candidates := (searchPath.splitOn ":").map fun dir =>
    if dir == "" then name else dir ++ "/" ++ name
  candidates.find? v.isExecutable

end View

end Curfew.Host
