import Curfew.Host.Launch
import Curfew.Host.World

/-!
# Calls answered

How a world answers the calls of its processes, and in which order.

* **`World.isReady`** says whether a call can be answered now.
* **`World.serve`** answers one.
* **`World.proceed`** lets the process act whose call is due first.
-/

namespace Curfew.Host

open Text (Raw)

namespace World

/-! ## Files -/

/-- A path that stands for one of the caller's own descriptors. -/
def ownDescriptor? (path : Bytes) : Option Nat :=
  let text := Raw.ofBytes path
  if text == "/dev/stdin" then some 0
  else if text == "/dev/stdout" then some 1
  else if text == "/dev/stderr" then some 2
  else if text.startsWith "/dev/fd/" then (text.drop 8).toString.toNat?
  else if text.startsWith "/proc/self/fd/" then (text.drop 14).toString.toNat?
  else none

def openPath (w : World) (p : Process) (path : Bytes) (mode : OpenMode) :
    Except Errno (OpenFile × World) := do
  let creates := mode != .read
  let fs := (w.view p).files
  let place ← fs.locate p.cwd path true creates
  match fs.find? place with
  | none =>
    if creates then
      .ok (.file place 0 (mode == .append),
        { w with files := w.files.put place (.file [] 0o644) })
    else .error .noEntry
  | some .directory => if creates then .error .isDirectory else .ok (.directory place, w)
  | some (.device d) => .ok (.device d, w)
  | some (.program _) => if creates then .error ⟨26⟩ else .ok (.device .null, w)
  | some (.link _) => .error .noEntry
  | some (.file _ fileMode) =>
    let w :=
      if mode == .truncate then { w with files := w.files.put place (.file [] fileMode) } else w
    .ok (.file place 0 (mode == .append), w)

def connect (w : World) (pid : Nat) (p : Process) (fd : Nat) (target : Target) : World :=
  let link (w : World) (id : Nat) : World :=
    let p := { p with descriptors := p.descriptors.set fd id }
    { w with processes := w.processes.set pid p }.sweep.complete pid .done
  let shared (source : Nat) : Option Nat := p.descriptors.get? source
  match target with
  | .nowhere =>
    let p := { p with descriptors := p.descriptors.erase fd }
    { w with processes := w.processes.set pid p }.sweep.complete pid .done
  | .descriptor source =>
    match shared source with
    | none => w.complete pid (.failed ⟨9⟩)
    | some id => link w id
  | .text body =>
    let (id, w) := w.openFile (.text body)
    link w id
  | .path path mode =>
    match ((ownDescriptor? path).bind fun n => w.fileAt p n) with
    | some (_, .readEnd pipe) =>
      let (id, w) := w.openFile (.readEnd pipe)
      link w id
    | some (_, .writeEnd pipe) =>
      let (id, w) := w.openFile (.writeEnd pipe)
      link w id
    | some (_, .text body) =>
      let (id, w) := w.openFile (.text body)
      link w id
    | _ =>
      match w.openPath p path mode with
      | .error e => w.complete pid (.failed e)
      | .ok (file, w) =>
        let (id, w) := w.openFile file
        link w id

def bodyAt (w : World) (place : Place) : Bytes :=
  match w.files.find? place with
  | some (.file body _) => body
  | _ => []

def writeAt (w : World) (place : Place) (offset : Nat) (bytes : Bytes) : World :=
  match w.files.find? place with
  | some (.file body mode) =>
    let before := body.take offset
    let gap := List.replicate (offset - before.length) 0
    let body := before ++ gap ++ bytes ++ body.drop (offset + bytes.length)
    { w with files := w.files.put place (.file body mode) }
  | _ => w

/-- A change to the tree of files. -/
def changeFile (w : World) (p : Process) (path : Bytes) (change : FileChange) :
    Except Errno World := do
  match change with
  | .removeTree =>
    let place ← w.files.locate p.cwd path false false
    .ok { w with files := w.files.removeTree place }
  | .removeDirectory =>
    let place ← w.files.locate p.cwd path false false
    match w.files.find? place with
    | some .directory =>
      if (w.files.namesIn place).isEmpty then .ok { w with files := w.files.remove place }
      else .error ⟨39⟩
    | _ => .error .notDirectory
  | .remove =>
    let place ← w.files.locate p.cwd path false false
    match w.files.find? place with
    | some .directory => .error .isDirectory
    | _ => .ok { w with files := w.files.remove place }
  | .makeDirectory =>
    let place ← w.files.locate p.cwd path true true
    match w.files.find? place with
    | some _ => .error ⟨17⟩
    | none => .ok { w with files := w.files.put place .directory }
  | .touch =>
    let place ← w.files.locate p.cwd path true true
    match w.files.find? place with
    | some _ => .ok w
    | none => .ok { w with files := w.files.put place (.file [] 0o644) }

/-! ## Waiting -/

/-- Which of some numbers are a process's children. -/
def childrenOf (w : World) (pid : Nat) (numbers : List Nat) : List (Nat × Process) :=
  numbers.filterMap fun n =>
    match w.processes.get? n with
    | some child => if child.parent == pid then some (n, child) else none
    | none => none

/-- Whether the call of a process can be answered. Reads wait for bytes, writes for room, and waits
for the end of a child. -/
def isReady (w : World) (pid : Nat) (p : Process) : Bool :=
  match p.call with
  | .read fd _ =>
    match w.fileAt p fd with
    | some (_, .readEnd pipe) =>
      (w.pipes.get? pipe).any (fun b => 0 < b.size) || !w.hasWriter pipe
    | _ => true
  | .write fd bytes =>
    match w.fileAt p fd with
    | some (_, .writeEnd pipe) =>
      bytes.isEmpty || !w.hasReader pipe || (w.pipes.get? pipe).any fun b => 0 < b.room bytes.length
    | _ => true
  | .wait children _ =>
    let children := w.childrenOf pid children
    children.isEmpty || children.any fun child => hasEnded child.2
  | _ => true

/-! ## Answers -/

def serveRead (w : World) (pid : Nat) (p : Process) (fd most : Nat) : World :=
  match w.fileAt p fd with
  | none => w.complete pid (.failed ⟨9⟩)
  | some (id, file) =>
    match file with
    | .device .null => w.complete pid (.data [])
    | .device _ => w.complete pid (.data (List.replicate most 0))
    | .directory _ => w.complete pid (.failed .isDirectory)
    | .writeEnd _ => w.complete pid (.failed ⟨9⟩)
    | .file place offset append =>
      let bytes := ((w.bodyAt place).drop offset).take most
      let file : OpenFile := .file place (offset + bytes.length) append
      { w with openFiles := w.openFiles.set id file }.complete pid (.data bytes)
    | .text rest =>
      { w with openFiles := w.openFiles.set id (.text (rest.drop most)) }.complete pid
        (.data (rest.take most))
    | .readEnd pipe =>
      match w.pipes.get? pipe with
      | none => w.complete pid (.data [])
      | some buffer =>
        let (bytes, buffer) := buffer.take most
        { w with pipes := w.pipes.set pipe buffer }.complete pid (.data bytes)

/-- Answers a write. What a pipe has no room for yet stays to be written. -/
def serveWrite (w : World) (pid : Nat) (p : Process) (fd : Nat) (bytes : Bytes) : World :=
  match w.fileAt p fd with
  | none => w.complete pid (.failed ⟨9⟩)
  | some (id, file) =>
    match file with
    | .device .full => w.complete pid (.failed ⟨28⟩)
    | .device _ => w.complete pid .done
    | .directory _ => w.complete pid (.failed ⟨9⟩)
    | .readEnd _ => w.complete pid (.failed ⟨9⟩)
    | .text _ => w.complete pid (.failed ⟨9⟩)
    | .file place offset append =>
      let start := if append then (w.bodyAt place).length else offset
      let file : OpenFile := .file place (start + bytes.length) append
      { w.writeAt place start bytes with openFiles := w.openFiles.set id file }.complete pid .done
    | .writeEnd pipe =>
      if w.hasReader pipe then
        match w.pipes.get? pipe with
        | none => w.complete pid .done
        | some buffer =>
          let n := buffer.room bytes.length
          let w := { w with pipes := w.pipes.set pipe (buffer.put (bytes.take n)) }
          if n < bytes.length then
            let p := { p with call := .write fd (bytes.drop n) }
            { w with processes := w.processes.set pid p }
          else w.complete pid .done
      else (w.complete pid (.failed ⟨32⟩)).deliver [(pid, Signal.pipe)]

/-- Answers a call that can be answered. -/
def serve (w : World) (pid : Nat) (p : Process) : World :=
  let update (p : Process) (reply : Reply) : World :=
    { w with processes := w.processes.set pid p }.complete pid reply
  match p.call with
  | .compute => w.complete pid .done
  | .sleep _ => w.complete pid .done
  | .read fd most => w.serveRead pid p fd most
  | .write fd bytes => w.serveWrite pid p fd bytes
  | .readFile path =>
    match (w.view p).files.readAll p.cwd path with
    | .ok body => w.complete pid (.data body)
    | .error _ => w.complete pid (.failed .noEntry)
  | .connect fd target => w.connect pid p fd target
  | .saveDescriptors => update { p with saved := p.descriptors :: p.saved } .done
  | .restoreDescriptors =>
    let p := { p with descriptors := p.saved.head?.getD p.descriptors, saved := p.saved.drop 1 }
    { w with processes := w.processes.set pid p }.sweep.complete pid .done
  | .pipe =>
    let (pipe, w) := w.makePipe
    let (readId, w) := w.openFile (.readEnd pipe)
    let (writeId, w) := w.openFile (.writeEnd pipe)
    let readFd := p.descriptors.leastFree 3
    let descriptors := p.descriptors.set readFd readId
    let writeFd := descriptors.leastFree 3
    let p := { p with descriptors := descriptors.set writeFd writeId }
    { w with processes := w.processes.set pid p }.complete pid (.descriptors readFd writeFd)
  | .fork image =>
    let number := w.last + 1
    let child := { p with parent := pid, image := image, caught := [], held := [] }
    ({ w with last := number }.arm number child).complete pid (.child number)
  | .exec path args env =>
    match load (w.view p).files p.cwd interpreterDepth path args with
    | .error e => w.complete pid (.failed e)
    | .ok (name, args) =>
      w.arm pid { p with
        image := .start name pid p.parent args env
        saved := []
        deaf := p.ignored
        caught := [] }
  | .exit code => w.finish pid (code % 256 * 256)
  | .wait children _ =>
    match (w.childrenOf pid children).find? fun child => hasEnded child.2 with
    | none => w.complete pid (.failed .noChild)
    | some (n, child) =>
      match child.life with
      | .ended raw => { w with processes := w.processes.erase n }.complete pid (.exited n raw)
      | _ => w.complete pid (.failed .noChild)
  | .signal target s =>
    if Signal.greatest < s then w.complete pid (.failed .invalidArgument)
    else
      match w.targets pid p.group target with
      | [] => w.complete pid (.failed .noProcess)
      | numbers => (w.complete pid .done).deliver (numbers.map fun n => (n, s))
  | .dispose s d =>
    if p.deaf.contains s || s = Signal.kill || s = Signal.stop then w.complete pid .done
    else
      let ignored := p.ignored.filter (· ≠ s)
      let caught := p.caught.filter (· ≠ s)
      match d with
      | .default => update { p with ignored := ignored, caught := caught } .done
      | .ignore => update { p with ignored := s :: ignored, caught := caught } .done
      | .catch_ => update { p with ignored := ignored, caught := s :: caught } .done
  | .newSession =>
    if p.group = pid then w.complete pid (.failed .notPermitted)
    else update { p with group := pid, session := pid } .done
  | .changeDirectory path =>
    match (w.view p).files.lookup p.cwd path with
    | .ok (place, .directory) => update { p with cwd := place } .done
    | .ok _ => w.complete pid (.failed .notDirectory)
    | .error e => w.complete pid (.failed e)
  | .changeFile path change =>
    match w.changeFile p path change with
    | .ok w => w.complete pid .done
    | .error e => w.complete pid (.failed e)

/-! ## Turns -/

/-- The earlier of two processes to act; the first if they are equally early. -/
def earlier (a : Option (Nat × Process)) (b : Nat × Process) : Option (Nat × Process) :=
  match a with
  | none => some b
  | some a => if b.2.due < a.2.due then some b else some a

def nextToAct (w : World) : Option (Nat × Process) :=
  (w.processes.entries.filter fun (pid, p) => p.life == .running && w.isReady pid p).foldl
    earlier none

/-- Lets the process act that is due first, or lets time pass up to the limit. The clock moves on
in either case. -/
def proceed (limit : Instant) (w : World) : World :=
  let idle := { w with now := ⟨max w.now.nanos limit.nanos⟩ }
  match w.nextToAct with
  | none => idle
  | some (pid, p) =>
    let t := max (w.now.nanos + 1) p.due
    if t < limit.nanos then { w with now := ⟨t⟩ }.serve pid p else idle

end World

end Curfew.Host
