import Curfew.Host.Machine
import Curfew.Proofs.Supervisor.Execution

/-!
# Time in a world of processes

The clock of a world moves on when a program is started, and from event to event.  Nothing else
takes time: the costs of calls are paid before they are answered.

* **`serve_now`** — answering a call leaves the clock alone, and so does every part of an answer.
* **`proceed_now`** — the next event is later than now.
* **`machine_timely`** — hence a world is a machine that keeps time, and a supervisor in it shows
  restraint (`supervise_restrained`).
-/

namespace Curfew.Host

open Text (Raw)

namespace World

/-! ## What takes no time -/

@[simp] lemma sweep_now (w : World) : w.sweep.now = w.now := rfl

@[simp] lemma openFile_now (w : World) (file : OpenFile) : (w.openFile file).2.now = w.now := rfl

@[simp] lemma makePipe_now (w : World) : w.makePipe.2.now = w.now := rfl

@[simp] lemma arm_now (w : World) (pid : Nat) (p : Process) : (w.arm pid p).now = w.now := rfl

@[simp] lemma complete_now (w : World) (pid : Nat) (reply : Reply) :
    (w.complete pid reply).now = w.now := by
  rw [complete]
  split <;> rfl

/-! ### Signals -/

@[simp] lemma terminate_now (w : World) (pid raw : Nat) : (w.terminate pid raw).1.now = w.now := by
  rw [terminate]
  split <;> rfl

@[simp] lemma take_now (w : World) (pid : Nat) (p : Process) (s : Signal) :
    (w.take pid p s).1.now = w.now := by
  rw [take]
  split
  · dsimp only
    split <;> simp
  · split <;> simp

@[simp] lemma receive_now (w : World) (pid : Nat) (s : Signal) :
    (w.receive pid s).1.now = w.now := by
  rw [receive]
  cases w.processes.get? pid with
  | none => rfl
  | some p =>
      dsimp only
      split
      · rfl
      · repeat' split
        all_goals simp

lemma deliverFor_now (fuel : Nat) (signals : List (Nat × Signal)) (w : World) :
    (deliverFor fuel signals w).now = w.now := by
  induction fuel generalizing signals w with
  | zero => rfl
  | succ fuel ih =>
      cases signals with
      | nil => rfl
      | cons first rest =>
          obtain ⟨pid, s⟩ := first
          rw [deliverFor, ih, receive_now]

@[simp] lemma deliver_now (w : World) (signals : List (Nat × Signal)) :
    (w.deliver signals).now = w.now := deliverFor_now _ _ _

@[simp] lemma finish_now (w : World) (pid raw : Nat) : (w.finish pid raw).now = w.now := by
  simp [finish]

/-! ### Files -/

@[simp] lemma writeAt_now (w : World) (place : Place) (offset : Nat) (bytes : Bytes) :
    (w.writeAt place offset bytes).now = w.now := by
  rw [writeAt]
  split <;> rfl

lemma openPath_now {w v : World} {p : Process} {path : Bytes} {mode : OpenMode} {file : OpenFile}
    (h : w.openPath p path mode = .ok (file, v)) : v.now = w.now := by
  simp only [openPath] at h
  cases hplace : (w.view p).files.locate p.cwd path true (mode != .read) with
  | error e =>
      rw [hplace] at h
      cases h
  | ok place =>
      rw [hplace] at h
      simp only [bind, Except.bind] at h
      cases hnode : (w.view p).files.find? place with
      | none =>
          rw [hnode] at h
          dsimp only at h
          split at h <;> cases h
          rfl
      | some node =>
          rw [hnode] at h
          cases node with
          | directory =>
              dsimp only at h
              split at h <;> cases h
              rfl
          | device d =>
              cases h
              rfl
          | program name =>
              dsimp only at h
              split at h <;> cases h
              rfl
          | link target => cases h
          | file body fileMode =>
              cases h
              split <;> rfl

/-- A change to the tree of files changes nothing else. -/
lemma changeFile_now {w v : World} {p : Process} {path : Bytes} {change : FileChange}
    (h : w.changeFile p path change = .ok v) : v.now = w.now := by
  cases change <;> simp only [changeFile, bind, Except.bind] at h <;> (repeat' split at h) <;>
    cases h <;> rfl

@[simp] lemma connect_now (w : World) (pid : Nat) (p : Process) (fd : Nat) (target : Target) :
    (w.connect pid p fd target).now = w.now := by
  cases target with
  | nowhere => simp [connect]
  | descriptor source =>
      simp only [connect]
      cases p.descriptors.get? source <;> simp
  | text body => simp [connect]
  | path path mode =>
      simp only [connect]
      split
      · simp
      · simp
      · simp
      · split
        · simp
        · next opened => simpa using openPath_now opened

@[simp] lemma serveRead_now (w : World) (pid : Nat) (p : Process) (fd most : Nat) :
    (w.serveRead pid p fd most).now = w.now := by
  rw [serveRead]
  cases w.fileAt p fd with
  | none => exact complete_now _ _ _
  | some entry =>
      obtain ⟨id, file⟩ := entry
      cases file with
      | device d => cases d <;> exact complete_now _ _ _
      | file place offset append => simp
      | text rest => simp
      | readEnd pipe =>
          dsimp only
          cases w.pipes.get? pipe <;> simp
      | _ => exact complete_now _ _ _

@[simp] lemma serveWrite_now (w : World) (pid : Nat) (p : Process) (fd : Nat) (bytes : Bytes) :
    (w.serveWrite pid p fd bytes).now = w.now := by
  rw [serveWrite]
  cases w.fileAt p fd with
  | none => exact complete_now _ _ _
  | some entry =>
      obtain ⟨id, file⟩ := entry
      cases file with
      | device d => cases d <;> exact complete_now _ _ _
      | file place offset append => simp
      | writeEnd pipe =>
          dsimp only
          split
          · cases w.pipes.get? pipe with
            | none => exact complete_now _ _ _
            | some buffer =>
                dsimp only
                split <;> simp
          · simp
      | _ => exact complete_now _ _ _

/-- **Answering a call takes no time.** -/
theorem serve_now (w : World) (pid : Nat) (p : Process) : (w.serve pid p).now = w.now := by
  cases hcall : p.call with
  | compute => simp [serve, hcall]
  | sleep nanos => simp [serve, hcall]
  | read fd most => simp [serve, hcall]
  | write fd bytes => simp [serve, hcall]
  | readFile path =>
      simp only [serve, hcall]
      cases (w.view p).files.readAll p.cwd path <;> simp
  | connect fd target => simp [serve, hcall]
  | saveDescriptors => simp [serve, hcall]
  | restoreDescriptors => simp [serve, hcall]
  | pipe => simp [serve, hcall]
  | fork image => simp [serve, hcall]
  | exec path args env =>
      simp only [serve, hcall]
      cases load (w.view p).files p.cwd interpreterDepth path args <;> simp
  | exit code => simp [serve, hcall]
  | wait children interruptible =>
      simp only [serve, hcall]
      split
      · simp
      · split <;> simp
  | signal target s =>
      simp only [serve, hcall]
      split
      · simp
      · split <;> simp
  | dispose s d =>
      simp only [serve, hcall]
      split
      · simp
      · cases d <;> simp
  | newSession =>
      simp only [serve, hcall]
      split <;> simp
  | changeDirectory path =>
      simp only [serve, hcall]
      split <;> simp
  | changeFile path change =>
      simp only [serve, hcall]
      split
      · next changed => simpa using changeFile_now changed
      · simp

/-! ## What takes time -/

/-- Starting a program takes time, if it can be started. -/
lemma spawn_now (w : World) (s : Spawn) : w.now.nanos ≤ (w.spawn s).2.now.nanos := by
  rw [spawn]
  split
  · exact Nat.le_refl _
  · dsimp only
    split
    · exact Nat.le_refl _
    · cases s.captured
      · exact Nat.le_add_right _ _
      · exact Nat.le_add_right _ _

/-- **The next event is later than now**, unless the limit is there. -/
theorem proceed_now (w : World) (limit : Instant) :
    w.now.nanos ≤ (w.proceed limit).now.nanos ∧
      (w.now.reached limit = false → w.now.nanos < (w.proceed limit).now.nanos) := by
  have idle : w.now.nanos ≤ max w.now.nanos limit.nanos ∧
      (w.now.reached limit = false → w.now.nanos < max w.now.nanos limit.nanos) := by
    simp only [Instant.reached, decide_eq_false_iff_not]
    omega
  rw [proceed]
  cases w.nextToAct with
  | none => exact idle
  | some next =>
      obtain ⟨pid, p⟩ := next
      dsimp only
      split
      · rw [serve_now]
        have served : w.now.nanos < max (w.now.nanos + 1) p.due := by omega
        exact ⟨Nat.le_of_lt served, fun _ => served⟩
      · exact idle

/-! ## The supervisor's operations -/

lemma reap_now (w : World) (pid : Nat) : (w.reap pid).2.now = w.now := by
  rw [reap]
  cases w.processes.get? pid with
  | none => rfl
  | some p =>
      dsimp only
      split <;> rfl

lemma signal_now (w : World) (group : Int) (s : Supervisor.GroupSignal) :
    (w.signal group s).2.now = w.now := by
  rw [signal]
  split
  · rfl
  · exact deliver_now _ _

lemma read_now (w : World) (stream : Stream) : (w.read stream).2.now = w.now := by
  rw [read]
  split
  · rfl
  · dsimp only
    split <;> rfl

lemma hangUp_now (w : World) (stream : Stream) : (w.hangUp stream).now = w.now := by
  cases hpipe : w.pipeOf stream with
  | none => simp [hangUp, hpipe]
  | some pipe => cases stream <;> simp [hangUp, hpipe]

end World

/-! ## A machine to keep time on -/

open World

/-- **A world is a timely machine.** -/
theorem machine_timely : machine.Timely := by
  -- what takes no time leaves the supervisor where it is
  have still {w w' : World} (h : w'.now = w.now) : machine.Later w w' :=
    ⟨Nat.le_of_eq (congrArg Instant.nanos h.symm), rfl⟩
  exact {
    launch := fun path w => ⟨w.spawn_now _, rfl⟩
    reap := fun pid w => still (w.reap_now pid)
    signal := fun group s w => still (w.signal_now group s)
    killProcess := fun pid w => still (w.deliver_now _)
    read := fun stream w => still (w.read_now stream)
    hangUp := fun stream w => still (w.hangUp_now stream)
    proceed := fun deadline w => ⟨(w.proceed_now deadline).1, rfl⟩
    moves := fun deadline w => (w.proceed_now deadline).2 }

open Supervisor

/-- **A script that is supervised in a world** takes one of the courses of a run, and is restrained
    as long as the numbers of processes are words. -/
theorem supervise_restrained {world : World} {limits : Limits} {script : String}
    {out err : Capture.Destination} {outcome : Outcome} {t : Session World}
    (h : supervise world limits script out err = (.ok outcome, t)) :
    ∃ exchanges, Course limits script (Dialogue.turns exchanges) outcome ∧
      ((∀ e ∈ exchanges, Session.Numbered ownProcess e.turn) →
        ∀ e ∈ exchanges, ∀ force, e.turn.request.force? = some force →
          ∃ start, (readings (Dialogue.turns exchanges)).head? = some start ∧
            (Session.surroundings machine_timely).Overdue limits.timeout start e.before ∧
            ∀ group, force.group? = some group → Foreign ownProcess group) := by
  obtain ⟨exchanges, dialogue, course⟩ := Session.execute_course h
  exact ⟨exchanges, course, Session.execute_restrained machine_timely dialogue⟩

end Curfew.Host
