import Curfew.Supervisor.Run
import Curfew.Proofs.Supervisor.Dialogue

/-!
# The course of a run

What the supervisor's programs ask, answer by answer, and what comes of it.  There is one
definition for what a program can do, and one lemma which says that it can do nothing else.

* **`Killed`** — the ways an attempt to end the group of a process can go (`killGroup_ends`).
* **`WoundUp`** — the ways the drains of a script that has exited are waited for (`windUp_ends`).
* **`Expired`** — how a run goes on after its deadline has passed (`expire_ends`).
* **`Course`** — the courses of a whole run (`run_ends`), with what lies between the race and the
  captures (`Between`).
-/

namespace Curfew.Supervisor

open Program
open Capture (Captured)

/-! ## Force -/

/-- What a supervisor can do to other processes. -/
inductive Force
  | signal (group : Int) (s : GroupSignal)
  | probe (group : Int)
  | killChild
deriving DecidableEq, Repr

/-- The group that is addressed, if it is a group. -/
def Force.group? : Force → Option Int
  | .signal group _ => some group
  | .probe group => some group
  | .killChild => none

/-- What a request does to other processes. -/
def Request.force? : Request → Option Force
  | .signal group s => some (.signal group s)
  | .probe group => some (.probe group)
  | .killChild => some .killChild
  | _ => none

/-- All that was done to other processes, in order. -/
def forces (turns : List Turn) : List Force := turns.filterMap fun turn => turn.request.force?

/-- Whether a request leaves other processes alone. -/
def Request.Calm (r : Request) : Prop := r.force? = none

/-- The readings of the clock, in order. -/
def readings (turns : List Turn) : List Instant :=
  turns.filterMap fun turn =>
    match turn with
    | ⟨.clock, reading⟩ => some reading
    | _ => none

lemma forces_of_calm {turns : List Turn} (h : ∀ turn ∈ turns, turn.request.Calm) :
    forces turns = [] := List.filterMap_eq_nil_iff.mpr h

@[simp] lemma forces_append (first later : List Turn) :
    forces (first ++ later) = forces first ++ forces later := List.filterMap_append

/-- Whether a request can be made after the race: it starts nothing and runs no race. -/
def Request.Late : Request → Prop
  | .launch _ => False
  | .exitOrDeadline _ => False
  | _ => True

/-- Whether a request is one of those that end a run. -/
def Request.Final : Request → Prop
  | .clock => True
  | .collect => True
  | _ => False

/-- Whether a request can be made between the race and the captures. -/
def Request.Middle : Request → Prop
  | .launch _ => False
  | .exitOrDeadline _ => False
  | .collect => False
  | _ => True

lemma Request.Middle.late {r : Request} (h : r.Middle) : r.Late := by
  cases r <;> trivial

lemma Request.Final.calm {r : Request} (h : r.Final) : r.Calm := by
  cases r <;> first | rfl | cases h

lemma Request.Final.late {r : Request} (h : r.Final) : r.Late := by
  cases r <;> trivial

/-! ## Parts of a run -/

/-- The ways an attempt to end the group of `child` can go, with what it returns. -/
inductive Killed (child : Int) : List Turn → Except RunError Int → Prop
  | unknown (cause : Errno) :
      Killed child [⟨.groupOf child, .error cause⟩] (.error (.timeoutKill child cause))
  /-- The group is the supervisor's own. -/
  | own (group : Int) :
      Killed child [⟨.groupOf child, .ok group⟩, ⟨.ownGroup, group⟩]
        (.error (.timeoutKill group .notPermitted))
  /-- The group does not take the signal. -/
  | refused {group own : Int} (other : group ≠ own) (cause : Errno) :
      Killed child
        [⟨.groupOf child, .ok group⟩, ⟨.ownGroup, own⟩, ⟨.signal group .terminate, .error cause⟩]
        (.error (.timeoutKill group cause))
  | signalled {group own : Int} (other : group ≠ own) :
      Killed child
        [⟨.groupOf child, .ok group⟩, ⟨.ownGroup, own⟩, ⟨.signal group .terminate, .ok ()⟩]
        (.ok group)

/-- **An attempt to end a group** goes in one of these ways. -/
theorem killGroup_ends {pid : Nat} {turns : List Turn} {verdict : Except RunError Int}
    (h : (killGroup pid).Leaves turns (.done verdict)) :
    Killed (processNumber pid) turns verdict := by
  simp only [killGroup, bind_eq, pure_eq] at h
  obtain ⟨group, later, rfl, h₁⟩ := ends_request h
  cases group with
  | error cause =>
      obtain ⟨rfl, rfl⟩ := ends_done.mp h₁
      exact .unknown cause
  | ok group =>
      obtain ⟨own, later, rfl, h₂⟩ := ends_request h₁
      by_cases hown : group = own
      · rw [if_pos hown] at h₂
        obtain ⟨rfl, rfl⟩ := ends_done.mp h₂
        subst hown
        exact .own group
      · rw [if_neg hown] at h₂
        obtain ⟨result, later, rfl, h₃⟩ := ends_request h₂
        cases result with
        | error cause =>
            obtain ⟨rfl, rfl⟩ := ends_done.mp h₃
            exact .refused hown cause
        | ok _ =>
            obtain ⟨rfl, rfl⟩ := ends_done.mp h₃
            exact .signalled hown

/-- The ways the drains of a script that has exited are waited for. -/
inductive WoundUp (pid : Option Nat) (deadline : Instant) : List Turn → Prop
  | joined : WoundUp pid deadline [⟨.joinUntil deadline, true⟩]
  /-- What is left of the group is killed, and the drains are stopped. -/
  | killed {child : Nat} (hpid : pid = some child) (result : Except Errno Unit) :
      WoundUp pid deadline
        [⟨.joinUntil deadline, false⟩, ⟨.signal (processNumber child) .kill, result⟩,
          ⟨.stopDrains, ()⟩]
  /-- The drains of a child without a number are stopped. -/
  | stopped (hpid : pid = none) :
      WoundUp pid deadline [⟨.joinUntil deadline, false⟩, ⟨.stopDrains, ()⟩]

/-- **Winding up** goes in one of these ways. -/
theorem windUp_ends {pid : Option Nat} {deadline : Instant} {turns : List Turn}
    (h : (windUp pid deadline).Leaves turns (.done ())) : WoundUp pid deadline turns := by
  simp only [windUp, bind_eq, pure_eq] at h
  obtain ⟨joined, later, rfl, h₁⟩ := ends_request h
  cases joined with
  | true =>
      obtain ⟨rfl, -⟩ := ends_done.mp h₁
      exact .joined
  | false =>
      cases pid with
      | none =>
          obtain ⟨stopped, later, rfl, h₂⟩ := ends_request h₁
          obtain ⟨rfl, -⟩ := ends_done.mp h₂
          exact .stopped rfl
      | some child =>
          obtain ⟨result, later, rfl, h₂⟩ := ends_request h₁
          obtain ⟨stopped, later, rfl, h₃⟩ := ends_request h₂
          obtain ⟨rfl, -⟩ := ends_done.mp h₃
          exact .killed rfl result

/-- An instant that is found is the sum, and nothing is asked. -/
lemma later_ends {t x : Instant} {d : Duration} {turns : List Turn}
    (h : (later t d).Leaves turns (.done x)) : turns = [] ∧ t.add? d = some x := by
  rw [later] at h
  cases hs : t.add? d with
  | none =>
      rw [hs] at h
      exact absurd h ends_crash
  | some sum =>
      rw [hs] at h
      obtain ⟨rfl, rfl⟩ := ends_done.mp h
      exact ⟨rfl, rfl⟩

lemma WoundUp.leaves {pid : Option Nat} {deadline : Instant} {turns : List Turn}
    (h : WoundUp pid deadline turns) : (windUp pid deadline).Leaves turns (.done ()) := by
  cases h with
  | joined => exact .request (.start _)
  | killed hpid result =>
      subst hpid
      exact .request (.request (.request (.start _)))
  | stopped hpid =>
      subst hpid
      exact .request (.request (.start _))

/-- Winding up comes before the captures. -/
lemma windUp_asks (pid : Option Nat) (deadline : Instant) :
    (windUp pid deadline).Asks Request.Middle fun _ => True := by
  simp only [windUp, bind_eq, pure_eq]
  refine .request trivial fun joined => ?_
  cases joined with
  | true => trivial
  | false =>
      cases pid with
      | none => exact .request trivial fun _ => trivial
      | some child => exact .request trivial fun _ => .request trivial fun _ => trivial

lemma later_leaves {t x : Instant} {d : Duration} (h : t.add? d = some x) :
    (later t d).Leaves [] (.done x) := by
  rw [later, h]
  exact .start _

/-- How a run goes on after its deadline has passed, with the status that it then has. -/
inductive Expired (limits : Limits) (pid : Option Nat) : List Turn → RunStatus → Prop
  /-- A child without a number was reaped before. -/
  | reaped (hpid : pid = none) : Expired limits pid [] (.failed (.timeoutKill 0 .noProcess))
  /-- The group could not be told to end: the child alone is killed, and the drains are stopped. -/
  | spared {child : Nat} {turns : List Turn} {failure : RunError} (hpid : pid = some child)
      (killed : Killed (processNumber child) turns (.error failure)) :
      Expired limits pid (turns ++ [⟨.killChild, ()⟩, ⟨.stopDrains, ()⟩]) (.failed failure)
  | timedOut {child : Nat} {first later : List Turn} {group : Int} (hpid : pid = some child)
      (killed : Killed (processNumber child) first (.ok group)) :
      Expired limits pid (first ++ later) (.timedOut limits.timeout)

lemma killGroup_asks (pid : Nat) : (killGroup pid).Asks Request.Middle fun _ => True := by
  simp only [killGroup, bind_eq, pure_eq]
  refine .request trivial fun group => ?_
  cases group with
  | error cause => trivial
  | ok group =>
      refine .request trivial fun own => ?_
      split
      · trivial
      · refine .request trivial fun result => ?_
        cases result <;> trivial

lemma pollOnce_asks (group : Int) (deadline : Instant) :
    (pollOnce group deadline).Asks Request.Middle fun _ => True := by
  simp only [pollOnce, bind_eq, pure_eq]
  refine .request trivial fun result => ?_
  cases result with
  | error cause => trivial
  | ok _ =>
      refine .request trivial fun now => ?_
      split
      · trivial
      · exact .request trivial fun again => .request trivial fun _ => trivial

lemma pollOn_asks (group : Int) (deadline : Instant) (fuel : Nat) :
    (pollOn group deadline fuel).Asks Request.Middle fun _ => True := by
  induction fuel with
  | zero => trivial
  | succ fuel ih =>
      simp only [pollOn, bind_eq, pure_eq]
      refine .bind (pollOnce_asks group deadline) fun found _ => ?_
      cases found with
      | gone => trivial
      | outlived => trivial
      | timeLeft span => exact ih

lemma groupOutlives_asks (group : Int) (deadline : Instant) :
    (groupOutlives group deadline).Asks Request.Middle fun _ => True := by
  simp only [groupOutlives, bind_eq, pure_eq]
  refine .bind (pollOnce_asks group deadline) fun found _ => ?_
  cases found with
  | gone => trivial
  | outlived => trivial
  | timeLeft span => exact pollOn_asks group deadline _

lemma escalate_asks (group : Int) (killGrace : Duration) :
    (Supervisor.escalate group killGrace).Asks Request.Middle fun _ => True :=
  .request trivial fun _ => .request trivial fun _ => trivial

/-- The last part of a run that has timed out: the drains get their time, and are stopped. -/
def awaitDrains (limits : Limits) : Program RunStatus := do
  let now ← clock
  let drainEnd ← later now limits.killGrace
  unless ← joinUntil drainEnd do stopDrains
  return .timedOut limits.timeout

/-- What is left of a run once the group was told to end. -/
def timeOut (limits : Limits) (group : Int) : Program RunStatus := do
  let now ← clock
  let graceEnd ← later now limits.killGrace
  exitUntil graceEnd
  if limits.escalate then
    if ← groupOutlives group graceEnd then escalate group limits.killGrace
  awaitDrains limits

/-- A run whose group was told to end has timed out, whatever happens then. -/
lemma timeOut_asks (limits : Limits) (group : Int) :
    (timeOut limits group).Asks Request.Middle (· = RunStatus.timedOut limits.timeout) := by
  have drained : (awaitDrains limits).Asks Request.Middle (· = RunStatus.timedOut limits.timeout) := by
    simp only [awaitDrains, bind_eq, pure_eq]
    refine .request trivial fun now => .later fun drainEnd _ => .request trivial fun joined => ?_
    cases joined with
    | true => rfl
    | false => exact .request trivial fun _ => rfl
  refine .request trivial fun now => .later fun graceEnd _ => .request trivial fun _ => ?_
  split
  · refine .bind (groupOutlives_asks group graceEnd) fun outlived _ => ?_
    split
    · exact .bind (escalate_asks group limits.killGrace) fun _ _ => drained
    · exact drained
  · exact drained

/-- The two halves of `expire`: the group is told to end, and what is left of the run. -/
lemma expire_some (limits : Limits) (pid : Nat) :
    expire limits (some pid) = (killGroup pid).bind fun verdict =>
      match verdict with
      | .error failure => killChild.bind fun _ => stopDrains.bind fun _ => done (.failed failure)
      | .ok group => timeOut limits group := rfl

/-- What follows a deadline comes before the captures. -/
lemma expire_asks (limits : Limits) (pid : Option Nat) :
    (expire limits pid).Asks Request.Middle fun _ => True := by
  cases pid with
  | none => trivial
  | some pid =>
      rw [expire_some]
      refine .bind (killGroup_asks pid) fun verdict _ => ?_
      cases verdict with
      | error failure => exact .request trivial fun _ => .request trivial fun _ => trivial
      | ok group => exact (timeOut_asks limits group).weaken (fun _ h => h) fun _ _ => trivial

/-- **A run whose deadline has passed** goes on in one of these ways. -/
theorem expire_ends {limits : Limits} {pid : Option Nat} {turns : List Turn} {status : RunStatus}
    (h : (expire limits pid).Leaves turns (.done status)) : Expired limits pid turns status := by
  cases pid with
  | none =>
      obtain ⟨rfl, rfl⟩ := ends_done.mp h
      exact .reaped rfl
  | some child =>
      rw [expire_some] at h
      obtain ⟨first, later, verdict, rfl, h₁, h₂⟩ := ends_bind.mp h
      have killed := killGroup_ends h₁
      cases verdict with
      | error failure =>
          obtain ⟨_, later, rfl, h₃⟩ := ends_request h₂
          obtain ⟨_, later, rfl, h₄⟩ := ends_request h₃
          obtain ⟨rfl, rfl⟩ := ends_done.mp h₄
          exact .spared rfl killed
      | ok group =>
          obtain ⟨-, hstatus⟩ := (timeOut_asks limits group).of_leaves h₂
          rw [hstatus status rfl]
          exact .timedOut rfl killed

/-! ## Whole runs -/

/-- The outcome of a script that was not started. -/
def unstarted (path : Bytes) (cause : IoError) (began : Timestamp) (start now : Instant) : Outcome where
  stdout := []
  stderr := []
  status := .failed (.launch path cause)
  pid := none
  duration := now.since start
  startedAt := began

/-- The outcome of a script that was started. -/
def reported (status : RunStatus) (pid : Option Nat) (began : Timestamp) (start : Instant)
    (out err : Captured) (now : Instant) : Outcome where
  stdout := out.bytes
  stderr := err.bytes
  status := status.resolve out.failure err.failure
  pid := pid
  duration := now.since start
  startedAt := began

/-- What lies between the race and the captures, with the status that it gives the run. -/
inductive Between (limits : Limits) (pid : Option Nat) (deadline : Instant) :
    Option (Except IoError Int32) → List Turn → RunStatus → Prop
  /-- The child has exited before the deadline. -/
  | exited {turns : List Turn} (waited : Except IoError Int32)
      (wound : (windUp pid deadline).Leaves turns (.done ())) :
      Between limits pid deadline (some waited) turns (.ofWaited waited)
  /-- The deadline has passed before the child exited. -/
  | overran {turns : List Turn} {status : RunStatus}
      (expired : (expire limits pid).Leaves turns (.done status)) :
      Between limits pid deadline none turns status

def aftermath (limits : Limits) (pid : Option Nat) (began : Timestamp) (start deadline : Instant) :
    Option (Except IoError Int32) → Program Outcome
  | some waited => (windUp pid deadline).bind fun _ => conclude (.ofWaited waited) pid began start
  | none => (expire limits pid).bind fun status => conclude status pid began start

lemma Between.middle {limits : Limits} {pid : Option Nat} {deadline : Instant}
    {raced : Option (Except IoError Int32)} {turns : List Turn} {status : RunStatus}
    (h : Between limits pid deadline raced turns status) :
    ∀ turn ∈ turns, turn.request.Middle := by
  cases h with
  | exited waited wound => exact ((windUp_asks pid deadline).of_leaves wound).1
  | overran expired => exact ((expire_asks limits pid).of_leaves expired).1

/-- The courses of a run that comes to an outcome. -/
inductive Course (limits : Limits) (script : String) : List Turn → Outcome → Prop
  /-- The script has no path. -/
  | pathless (began : Timestamp) (start now : Instant) (hpath : Script.normalize script = none) :
      Course limits script
        [⟨.wallClock, began⟩, ⟨.clock, start⟩, ⟨.clock, now⟩]
        (unstarted (Bytes.ofString script) (.custom .invalidInput "empty script path") began start
          now)
  | refused {path : String} (began : Timestamp) (start now : Instant) (cause : IoError)
      (hpath : Script.normalize script = some path) :
      Course limits script
        [⟨.wallClock, began⟩, ⟨.clock, start⟩, ⟨.launch path, .error cause⟩, ⟨.clock, now⟩]
        (unstarted (Bytes.ofString path) cause began start now)
  | started {path : String} {pid : Option Nat} {start deadline : Instant}
      {raced : Option (Except IoError Int32)} {middle : List Turn} {status : RunStatus}
      (began : Timestamp) (out err : Captured) (now : Instant)
      (hpath : Script.normalize script = some path)
      (hdeadline : start.add? limits.timeout = some deadline)
      (between : Between limits pid deadline raced middle status) :
      Course limits script
        ([⟨.wallClock, began⟩, ⟨.clock, start⟩, ⟨.launch path, .ok pid⟩,
          ⟨.exitOrDeadline deadline, raced⟩] ++ middle ++ [⟨.collect, (out, err)⟩, ⟨.clock, now⟩])
        (reported status pid began start out err now)

lemma notLaunched_final (path : Bytes) (cause : IoError) (began : Timestamp) (start : Instant) :
    (notLaunched path cause began start).Asks Request.Final fun _ => True :=
  .request trivial fun _ => trivial

lemma conclude_final (status : RunStatus) (pid : Option Nat) (began : Timestamp)
    (start : Instant) : (conclude status pid began start).Asks Request.Final fun _ => True :=
  .request trivial fun _ => .request trivial fun _ => trivial

lemma notLaunched_ends {path : Bytes} {cause : IoError} {began : Timestamp} {start : Instant}
    {turns : List Turn} {outcome : Outcome}
    (h : (notLaunched path cause began start).Leaves turns (.done outcome)) :
    ∃ now, turns = [⟨.clock, now⟩] ∧ outcome = unstarted path cause began start now := by
  obtain ⟨now, later, rfl, h₁⟩ := ends_request h
  obtain ⟨rfl, rfl⟩ := ends_done.mp h₁
  exact ⟨now, rfl, rfl⟩

lemma conclude_ends {status : RunStatus} {pid : Option Nat} {began : Timestamp} {start : Instant}
    {turns : List Turn} {outcome : Outcome}
    (h : (conclude status pid began start).Leaves turns (.done outcome)) :
    ∃ out err now, turns = [⟨.collect, (out, err)⟩, ⟨.clock, now⟩] ∧
      outcome = reported status pid began start out err now := by
  obtain ⟨⟨out, err⟩, later, rfl, h₁⟩ := ends_request h
  obtain ⟨now, later, rfl, h₂⟩ := ends_request h₁
  obtain ⟨rfl, rfl⟩ := ends_done.mp h₂
  exact ⟨out, err, now, rfl, rfl⟩

/-- What follows the race makes late requests only. -/
lemma aftermath_asks (limits : Limits) (pid : Option Nat) (began : Timestamp)
    (start deadline : Instant) (raced : Option (Except IoError Int32)) :
    (aftermath limits pid began start deadline raced).Asks Request.Late fun _ => True := by
  have closing (status : RunStatus) :
      (conclude status pid began start).Asks Request.Late fun _ => True :=
    (conclude_final status pid began start).weaken (fun _ h => h.late) fun _ h => h
  cases raced with
  | some waited =>
      exact ((windUp_asks pid deadline).weaken (fun _ h => h.late) fun _ h => h).bind fun _ _ =>
        closing _
  | none =>
      exact ((expire_asks limits pid).weaken (fun _ h => h.late) fun _ h => h).bind fun status _ =>
        closing status

/-- What follows the race is what lies between it and the captures, and the captures. -/
lemma aftermath_ends {limits : Limits} {pid : Option Nat} {began : Timestamp}
    {start deadline : Instant} {raced : Option (Except IoError Int32)} {turns : List Turn}
    {outcome : Outcome} :
    (aftermath limits pid began start deadline raced).Leaves turns (.done outcome) ↔
      ∃ middle status out err now, turns = middle ++ [⟨.collect, (out, err)⟩, ⟨.clock, now⟩] ∧
        Between limits pid deadline raced middle status ∧
        outcome = reported status pid began start out err now := by
  constructor
  · intro h
    cases raced with
    | some waited =>
        obtain ⟨middle, later, _, rfl, wound, h₁⟩ := ends_bind.mp h
        obtain ⟨out, err, now, rfl, rfl⟩ := conclude_ends h₁
        exact ⟨middle, _, out, err, now, rfl, .exited waited wound, rfl⟩
    | none =>
        obtain ⟨middle, later, status, rfl, expired, h₁⟩ := ends_bind.mp h
        obtain ⟨out, err, now, rfl, rfl⟩ := conclude_ends h₁
        exact ⟨middle, status, out, err, now, rfl, .overran expired, rfl⟩
  · rintro ⟨middle, status, out, err, now, rfl, between, rfl⟩
    cases between with
    | exited waited wound =>
        exact ends_bind.mpr ⟨middle, _, (), rfl, wound, .request (.request (.start _))⟩
    | overran expired =>
        exact ends_bind.mpr ⟨middle, _, status, rfl, expired, .request (.request (.start _))⟩

/-- **A run that comes to an outcome** takes one of these courses. -/
theorem run_ends {limits : Limits} {script : String} {turns : List Turn} {outcome : Outcome}
    (h : (run limits script).Leaves turns (.done outcome)) :
    Course limits script turns outcome := by
  simp only [run, bind_eq] at h
  obtain ⟨began, later, rfl, h₁⟩ := ends_request h
  obtain ⟨start, later, rfl, h₂⟩ := ends_request h₁
  cases hpath : Script.normalize script with
  | none =>
      simp only [hpath] at h₂
      obtain ⟨now, rfl, rfl⟩ := notLaunched_ends h₂
      exact .pathless began start now hpath
  | some path =>
      simp only [hpath] at h₂
      obtain ⟨launched, later, rfl, h₃⟩ := ends_request h₂
      cases launched with
      | error cause =>
          obtain ⟨now, rfl, rfl⟩ := notLaunched_ends h₃
          exact .refused began start now cause hpath
      | ok pid =>
          obtain ⟨_, later, deadline, rfl, hlater, h₄⟩ := ends_bind.mp h₃
          obtain ⟨rfl, hdeadline⟩ := later_ends hlater
          obtain ⟨raced, later, rfl, h₅⟩ := ends_request h₄
          have h₆ : (aftermath limits pid began start deadline raced).Leaves later (.done outcome) := by
            cases raced <;> exact h₅
          obtain ⟨middle, status, out, err, now, rfl, between, rfl⟩ := aftermath_ends.mp h₆
          exact .started began out err now hpath hdeadline between

/-- **Each of these courses can be taken.** -/
theorem Course.leaves {limits : Limits} {script : String} {turns : List Turn} {outcome : Outcome}
    (h : Course limits script turns outcome) :
    (run limits script).Leaves turns (.done outcome) := by
  cases h with
  | pathless began start now hpath =>
      refine .request (.request ?_)
      simp only [hpath]
      exact .request (.start _)
  | refused began start now cause hpath =>
      refine .request (.request ?_)
      simp only [hpath]
      exact .request (.request (.start _))
  | @started _ pid start deadline raced middle status began out err now hpath hdeadline between =>
      have ends : (aftermath limits pid began start deadline raced).Leaves
          (middle ++ [⟨.collect, (out, err)⟩, ⟨.clock, now⟩])
          (.done (reported status pid began start out err now)) :=
        aftermath_ends.mpr ⟨middle, status, out, err, now, rfl, between, rfl⟩
      refine .request (.request ?_)
      simp only [hpath]
      refine .request (ends_bind.mpr ⟨[], _, _, rfl, later_leaves hdeadline, .request ?_⟩)
      cases raced <;> exact ends

/-- A launch or a race among these turns is not late. -/
lemma mem_early {first middle last : List Turn} {turn : Turn}
    (late : ∀ turn ∈ middle, turn.request.Late) (early : ¬ turn.request.Late)
    (h : turn ∈ first ++ middle ++ last) : turn ∈ first ++ last := by
  rcases List.mem_append.mp h with h | h
  · rcases List.mem_append.mp h with h | h
    · exact List.mem_append_left _ h
    · exact absurd (late turn h) early
  · exact List.mem_append_right _ h

section Started

variable {limits : Limits} {path : String} {pid : Option Nat} {began : Timestamp}
  {start deadline now : Instant} {raced : Option (Except IoError Int32)} {middle : List Turn}
  {status : RunStatus} {both : Captured × Captured}

/-- There is only one race in a run that was started. -/
lemma Between.race_unique (h : Between limits pid deadline raced middle status) {d : Instant}
    {winner : Option (Except IoError Int32)}
    (hm : ⟨.exitOrDeadline d, winner⟩ ∈
      [⟨.wallClock, began⟩, ⟨.clock, start⟩, ⟨.launch path, .ok pid⟩,
        ⟨.exitOrDeadline deadline, raced⟩] ++ middle ++ [⟨.collect, both⟩, ⟨.clock, now⟩]) :
    d = deadline ∧ winner = raced := by
  have early := mem_early (fun turn ht => (h.middle turn ht).late) id hm
  simpa using early

/-- There is only one launch in a run that was started. -/
lemma Between.launch_unique (h : Between limits pid deadline raced middle status) {p : String}
    {answer : Except IoError (Option Nat)}
    (hm : ⟨.launch p, answer⟩ ∈
      [⟨.wallClock, began⟩, ⟨.clock, start⟩, ⟨.launch path, .ok pid⟩,
        ⟨.exitOrDeadline deadline, raced⟩] ++ middle ++ [⟨.collect, both⟩, ⟨.clock, now⟩]) :
    p = path ∧ answer = .ok pid := by
  have early := mem_early (fun turn ht => (h.middle turn ht).late) id hm
  simpa using early

end Started

/-- The script was not started: it has no path, or the launch was refused. -/
def Unlaunched (script : String) (turns : List Turn) : Prop :=
  Script.normalize script = none ∨ ∃ path cause, ⟨.launch path, .error cause⟩ ∈ turns

end Curfew.Supervisor
