import Curfew.Host.Image
import Curfew.Host.Registry
import Curfew.Time.Duration
import Curfew.Time.Timestamp

/-!
# A world of processes

A **`World`** is a clock, a tree of files, processes, and the pipes between them; one process, the
supervisor, is not followed but only looks on and acts from outside. Every **`Process`** has an
image and the call it is at.

* **`World.terminate`**, **`World.deliver`** and **`World.send`** say what signals do.
* **`World.complete`** hands a process the reply to its call.
-/

namespace Curfew.Host

open Text (Raw)

/-- What an open file is connected with. -/
inductive OpenFile
  | device (d : Device)
  | directory (place : Place)
  | file (place : Place) (offset : Nat) (append : Bool)
  | readEnd (pipe : Nat)
  | writeEnd (pipe : Nat)
  | text (rest : Bytes)
deriving DecidableEq, Repr

/-- The bytes on their way through a pipe. -/
structure Buffer where
  /-- Oldest first. -/
  chunks : List Bytes
  size : Nat

namespace Buffer

/-- The most bytes that are on their way at once. -/
def capacity : Nat := 65536

/-- Writes of up to so many bytes are not split. -/
def atomic : Nat := 4096

/-- Nothing on its way. -/
def empty : Buffer := ⟨[], 0⟩

def put (b : Buffer) (bytes : Bytes) : Buffer :=
  if bytes.isEmpty then b else ⟨b.chunks ++ [bytes], b.size + bytes.length⟩

/-- Takes bytes out, `most` at the most. -/
def takeFrom : Nat → List Bytes → List Bytes × List Bytes
  | _, [] => ([], [])
  | most, chunk :: rest =>
    if most = 0 then ([], chunk :: rest)
    else if chunk.length ≤ most then
      let (taken, left) := takeFrom (most - chunk.length) rest
      (chunk :: taken, left)
    else ([chunk.take most], chunk.drop most :: rest)

/-- Takes bytes out, `most` at the most. -/
def take (b : Buffer) (most : Nat) : Bytes × Buffer :=
  let (taken, left) := takeFrom most b.chunks
  let bytes := taken.flatten
  (bytes, ⟨left, b.size - bytes.length⟩)

/-- How many of `n` bytes can be put in now. -/
def room (b : Buffer) (n : Nat) : Nat :=
  let free := capacity - b.size
  if n ≤ atomic then if n ≤ free then n else 0 else min n free

end Buffer

inductive Life
  | running
  | stopped
  /-- Ended, with a raw wait status that its parent has not seen yet. -/
  | ended (raw : Nat)
deriving DecidableEq, Repr

structure Process where
  parent : Nat
  group : Nat
  session : Nat
  life : Life
  image : Image
  call : Call Image
  /-- The call takes until then at least, in nanoseconds. -/
  due : Nat
  /-- The open file behind each descriptor. -/
  descriptors : Registry Nat
  saved : List (Registry Nat)
  cwd : Place
  /-- Signals that were ignored when its program started; that cannot be changed. -/
  deaf : List Signal
  ignored : List Signal
  caught : List Signal
  /-- Signals that came in while it was stopped. -/
  held : List Signal

structure World where
  now : Instant
  wallClock : Timestamp
  files : Files
  environment : List (Raw × Raw)
  cwd : Place
  processes : Registry Process
  openFiles : Registry OpenFile
  pipes : Registry Buffer
  stdout : Option Nat
  stderr : Option Nat
  last : Nat

namespace World

/-! ## The supervisor -/

/-- The number of the supervisor, of its group and of its session. -/
def ownProcess : Nat := 1000

/-- The parent of those that have lost theirs. -/
def initProcess : Nat := 1

/-- Nothing launched yet. -/
def start (files : Files) (environment : List (Raw × Raw)) (cwd : Place) : World where
  now := ⟨1000000 * nanosPerSecond⟩
  wallClock := ⟨1700000000, 0⟩
  files := files
  environment := environment
  cwd := cwd
  processes := .empty
  openFiles := .empty
  pipes := .empty
  stdout := none
  stderr := none
  last := ownProcess

/-! ## Descriptors -/

def placeOf : Device → Place
  | .null => Files.names (Bytes.ofString "/dev/null")
  | .zero => Files.names (Bytes.ofString "/dev/zero")
  | .full => Files.names (Bytes.ofString "/dev/full")

def describe : OpenFile → Bytes
  | .device d => Files.render (placeOf d)
  | .directory place => Files.render place
  | .file place _ _ => Files.render place
  | .readEnd pipe => Bytes.ofString ("pipe:[" ++ toString pipe ++ "]")
  | .writeEnd pipe => Bytes.ofString ("pipe:[" ++ toString pipe ++ "]")
  | .text _ => Bytes.ofString "pipe:[0]"

/-- The directory of a process's own descriptors. -/
def descriptorPlace : Place := Files.names (Bytes.ofString "/proc/self/fd")

def view (w : World) (p : Process) : View :=
  let links := p.descriptors.entries.filterMap fun (fd, id) =>
    (w.openFiles.get? id).map fun file =>
      (descriptorPlace ++ [Bytes.ofString (toString fd)], Node.link (describe file))
  ⟨⟨links ++ w.files.nodes⟩, p.cwd, p.descriptors.numbers⟩

/-- The open file behind a descriptor. -/
def fileAt (w : World) (p : Process) (fd : Nat) : Option (Nat × OpenFile) :=
  match p.descriptors.get? fd with
  | none => none
  | some id => (w.openFiles.get? id).map fun file => (id, file)

/-- Whether a process keeps a file open. -/
def holds (p : Process) (id : Nat) : Bool :=
  p.descriptors.values.contains id || p.saved.any fun saved => saved.values.contains id

/-- Whether any process keeps a file open. -/
def isHeld (w : World) (id : Nat) : Bool := w.processes.values.any fun p => holds p id

/-- Whether anybody could still read from a pipe. -/
def hasReader (w : World) (pipe : Nat) : Bool :=
  w.stdout == some pipe || w.stderr == some pipe ||
    w.openFiles.entries.any fun (id, file) => file == .readEnd pipe && w.isHeld id

/-- Whether anybody could still write to a pipe. -/
def hasWriter (w : World) (pipe : Nat) : Bool :=
  w.openFiles.entries.any fun (id, file) => file == .writeEnd pipe && w.isHeld id

/-- Whether an open file belongs to a pipe. -/
def isEndOf (pipe : Nat) : OpenFile → Bool
  | .readEnd n => n == pipe
  | .writeEnd n => n == pipe
  | _ => false

/-- Forgets the files that nobody keeps open, and the pipes without ends. -/
def sweep (w : World) : World :=
  let openFiles : Registry OpenFile := ⟨w.openFiles.entries.filter fun entry => w.isHeld entry.1⟩
  let inUse (pipe : Nat) : Bool :=
    w.stdout == some pipe || w.stderr == some pipe || openFiles.values.any (isEndOf pipe)
  { w with
    openFiles := openFiles
    pipes := ⟨w.pipes.entries.filter fun entry => inUse entry.1⟩ }

def openFile (w : World) (file : OpenFile) : Nat × World :=
  let id := w.last + 1
  (id, { w with last := id, openFiles := w.openFiles.set id file })

def makePipe (w : World) : Nat × World :=
  let id := w.last + 1
  (id, { w with last := id, pipes := w.pipes.set id .empty })

/-! ## Steps of a process -/

/-- The nanoseconds that a call takes, roughly. -/
def cost : Call Image → Nat
  | .compute => 5000
  | .fork _ => 300000
  | .exec _ _ _ => 500000
  | .sleep nanos => 50000 + nanos
  | _ => 5000

def armed (w : World) (p : Process) : Process :=
  let call := (p.image.next (w.view p)).1
  { p with call := call, due := w.now.nanos + cost call }

/-- Puts a changed process in its place, at its next call. -/
def arm (w : World) (pid : Nat) (p : Process) : World :=
  { w with processes := w.processes.set pid (w.armed p) }

/-- Hands a process the reply to its call. -/
def complete (w : World) (pid : Nat) (reply : Reply) : World :=
  match w.processes.get? pid with
  | none => w
  | some p => w.arm pid { p with image := (p.image.next (w.view p)).2 reply }

/-! ## Ends -/

/-- Whether a number is the supervisor's or a process's that can still wait. -/
def canWait (w : World) (pid : Nat) : Bool :=
  pid == ownProcess ||
    match w.processes.get? pid with
    | some p =>
      match p.life with
      | .ended _ => false
      | _ => true
    | none => false

def hasEnded (p : Process) : Bool :=
  match p.life with
  | .ended _ => true
  | _ => false

/-- Whether nobody outside a group, but in its session, looks after it. -/
def isOrphaned (w : World) (group : Nat) : Bool :=
  !w.processes.values.any fun p =>
    p.group == group && !hasEnded p &&
      if p.parent == ownProcess then group != ownProcess && p.session == ownProcess
      else
        match w.processes.get? p.parent with
        | some parent => parent.group != group && parent.session == p.session
        | none => false

/-- The processes of a group, those that have ended included. -/
def members (w : World) (group : Nat) : List Nat :=
  (w.processes.entries.filter fun entry => entry.2.group == group).map Prod.fst

/-- Whether a group has a process that is stopped. -/
def hasStopped (w : World) (group : Nat) : Bool :=
  w.processes.values.any fun p => p.group == group && p.life == .stopped

/-- Ends a process with a raw wait status. Its children are looked after by another parent, which
waits for them at once; a process without one of its own that can wait leaves nothing behind. The
result also says which groups have lost their last outsider while they had a stopped process. -/
def terminate (w : World) (pid raw : Nat) : World × List Nat :=
  match w.processes.get? pid with
  | none => (w, [])
  | some p =>
    let groups := (p.group :: (w.processes.values.filter (·.parent == pid)).map (·.group)).eraseDups
    let before := groups.filter fun g => !w.isOrphaned g
    let ended : Process :=
      { p with
        life := .ended raw
        descriptors := .empty
        saved := []
        held := []
        call := .compute }
    let processes := w.processes.set pid ended
    let adopted : Registry Process :=
      ⟨processes.entries.map fun (n, q) =>
        if q.parent == pid then (n, { q with parent := initProcess }) else (n, q)⟩
    let w := { w with processes := adopted }
    let gone (q : Process) : Bool := hasEnded q && !w.canWait q.parent
    let w := { w with processes := ⟨adopted.entries.filter fun entry => !gone entry.2⟩ }.sweep
    (w, before.filter fun g => w.isOrphaned g && w.hasStopped g)

/-! ## Signals -/

/-- What a process that runs makes of a signal; the groups that this leaves stopped and alone. -/
def take (w : World) (pid : Nat) (p : Process) (s : Signal) : World × List Nat :=
  if p.caught.contains s then
    let p := { p with image := p.image.notify s }
    let w := { w with processes := w.processes.set pid p }
    match p.call with
    | .wait _ true => (w.complete pid .interrupted, [])
    | .wait _ false => (w, [])
    | .read _ _ => (w, [])
    | .write _ _ => (w, [])
    | .sleep _ => (w, [])
    | _ => ({ w with processes := w.processes.set pid { w.armed p with due := p.due } }, [])
  else
    match s.effect with
    | .terminate => w.terminate pid s
    | .ignore => (w, [])
    | .resume => (w, [])
    | .stop => ({ w with processes := w.processes.set pid { p with life := .stopped } }, [])

/-- One signal for one process: the world, the signals that follow from it, and the groups left
stopped and alone. -/
def receive (w : World) (pid : Nat) (s : Signal) : World × List (Nat × Signal) × List Nat :=
  match w.processes.get? pid with
  | none => (w, [], [])
  | some p =>
    match p.life with
    | .ended _ => (w, [], [])
    | life =>
      if s = 0 then (w, [], [])
      else if s = Signal.kill then
        let (w, groups) := w.terminate pid s
        (w, [], groups)
      else if s = Signal.stop then
        ({ w with processes := w.processes.set pid { p with life := .stopped } }, [], [])
      else if s = Signal.cont then
        let awake := { p with life := .running, held := [] }
        let w := { w with processes := w.processes.set pid awake }
        let (w, groups) := if p.ignored.contains s then (w, []) else w.take pid awake s
        (w, p.held.map fun n => (pid, n), groups)
      else if p.ignored.contains s then (w, [], [])
      else if life = .stopped then
        ({ w with processes := w.processes.set pid { p with held := p.held ++ [s] } }, [], [])
      else
        let (w, groups) := w.take pid p s
        (w, [], groups)

/-- Delivers signals in turn, at most `fuel`. A stopped group that is left alone hangs up and goes
on. -/
def deliverFor : Nat → List (Nat × Signal) → World → World
  | 0, _, w => w
  | _ + 1, [], w => w
  | fuel + 1, (pid, s) :: rest, w =>
    let (w, more, groups) := w.receive pid s
    let left := groups.flatMap fun g =>
      (w.members g).map (fun n => (n, Signal.hup)) ++ (w.members g).map fun n => (n, Signal.cont)
    deliverFor fuel (more ++ left ++ rest) w

/-- Delivers signals, and all that follow from them. -/
def deliver (w : World) (signals : List (Nat × Signal)) : World :=
  let n := w.processes.entries.length + 1
  let held := (w.processes.values.map fun p => p.held.length).foldl (· + ·) 0
  deliverFor (2 * (signals.length + held + 4 * n * n)) signals w

/-- The processes that a target of a signal means: a process, a group, or all. -/
def targets (w : World) (caller : Nat) (callerGroup : Nat) (target : Int) : List Nat :=
  if 0 < target then
    if w.processes.contains target.toNat then [target.toNat] else []
  else if target = 0 then w.members callerGroup
  else if target = -1 then w.processes.numbers.filter (· ≠ caller)
  else w.members target.natAbs

/-- Ends a process, and delivers what follows. -/
def finish (w : World) (pid raw : Nat) : World :=
  let (w, groups) := w.terminate pid raw
  w.deliver (groups.flatMap fun g =>
    (w.members g).map (fun n => (n, Signal.hup)) ++ (w.members g).map fun n => (n, Signal.cont))

end World

end Curfew.Host
