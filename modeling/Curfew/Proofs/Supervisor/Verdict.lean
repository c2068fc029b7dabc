import Curfew.Proofs.Supervisor.Course
import Curfew.Proofs.Supervisor.Scene

/-!
# The verdict of a run

How the outcome of a whole run follows from the answers it got and from what its drains have left.

* **`Base`** — the status before the captures are in: what the exit says if the child was first,
  and how the group took its signal if the deadline was.
* **`Precedence`** — what the failures of the captures make of it (`resolve_precedence`).
* **`Gives`** — the bytes and the failure that an outcome has from the task of a stream.
* **`outcome_classified`** — the verdict.
-/

namespace Curfew

/-- What the failures of the captures make of a status.  Failures and execution errors stand, and
    otherwise stdout comes first. -/
structure RunStatus.Precedence (base : RunStatus) (out err : Option IoError) (status : RunStatus) :
    Prop where
  failed : ∀ error, base = .failed error → status = base
  executionError : ∀ code signal, base = .executionError code signal → status = base
  stdout : base = .success ∨ (∃ timeout, base = .timedOut timeout) →
    ∀ cause, out = some cause → status = .failed (.capture .stdout cause)
  stderr : base = .success ∨ (∃ timeout, base = .timedOut timeout) →
    out = none → ∀ cause, err = some cause → status = .failed (.capture .stderr cause)
  clean : out = none → err = none → status = base

/-- **Resolving a status** keeps to this order. -/
theorem RunStatus.resolve_precedence (base : RunStatus) (out err : Option IoError) :
    Precedence base out err (base.resolve out err) where
  failed := by
    rintro error rfl
    rfl
  executionError := by
    rintro code signal rfl
    rfl
  stdout := by
    rintro (rfl | ⟨timeout, rfl⟩) cause rfl <;> rfl
  stderr := by
    rintro (rfl | ⟨timeout, rfl⟩) rfl cause rfl <;> rfl
  clean := by
    rintro rfl rfl
    cases base <;> rfl

/-- `result.Gives bytes failure`: these are the bytes and the failure of a stream whose task has
    left this result.  A task that has crashed gives no bytes, and the report of its crash. -/
inductive Capture.DrainResult.Gives : DrainResult → Bytes → Option IoError → Prop
  | drained (captured : Bytes) (failure : Option IoError) :
      Gives (.drained captured failure) captured failure
  | crashed (report : String) : Gives (.crashed report) [] (some (.custom .other report))

lemma Capture.DrainResult.gives_captured (result : DrainResult) :
    result.Gives (Captured.ofResult result).bytes (Captured.ofResult result).failure := by
  cases result with
  | drained captured failure => exact .drained captured failure
  | crashed report => exact .crashed report

/-- Resolving makes no launch fail. -/
lemma RunStatus.resolve_launch {base : RunStatus} {out err : Option IoError} {path : Bytes}
    {cause : IoError} (h : base.resolve out err = .failed (.launch path cause)) :
    base = .failed (.launch path cause) := by
  cases base with
  | failed error => exact h
  | executionError code signal => cases h
  | success => cases out <;> cases err <;> cases h
  | timedOut timeout => cases out <;> cases err <;> cases h

/-- A raw status that is not 0 is that of an execution error. -/
lemma RunStatus.ofWaitStatus_ne {raw : Int32} (h : raw ≠ 0) :
    ∃ code signal, ofWaitStatus raw = .executionError code signal := by
  have hne : raw.toInt ≠ 0 := by
    intro h0
    exact h (Int32.toInt_inj.mp h0)
  simp only [ofWaitStatus, if_neg hne]
  split
  · exact ⟨_, _, rfl⟩
  · split <;> exact ⟨_, _, rfl⟩

namespace Supervisor

open Capture

/-- The status before the captures are in. -/
structure Base (limits : Limits) (child : Nat) (turns : List Turn) (base : RunStatus) : Prop where
  raced : ∃ deadline winner, ⟨.exitOrDeadline deadline, winner⟩ ∈ turns
  /-- The child has won the race. -/
  success : ∀ deadline, ⟨.exitOrDeadline deadline, some (.ok 0)⟩ ∈ turns → base = .success
  executionError : ∀ deadline raw, ⟨.exitOrDeadline deadline, some (.ok raw)⟩ ∈ turns → raw ≠ 0 →
    ∃ code signal, base = .executionError code signal ∧ base = .ofWaitStatus raw
  waitFailed : ∀ deadline cause, ⟨.exitOrDeadline deadline, some (.error cause)⟩ ∈ turns →
    base = .failed (.wait cause)
  /-- The deadline has won it. -/
  overran : ∀ deadline, ⟨.exitOrDeadline deadline, none⟩ ∈ turns →
    ∃ killing verdict, killing <:+: turns ∧ Killed (processNumber child) killing verdict ∧
      ((∃ group, verdict = .ok group ∧ base = .timedOut limits.timeout) ∨
        ∃ group cause, verdict = .error (.timeoutKill group cause) ∧
          base = .failed (.timeoutKill group cause))

/-- A failed attempt to end the group names the group and the cause. -/
lemma Killed.failure {child : Int} {turns : List Turn} {failure : RunError}
    (h : Killed child turns (.error failure)) :
    ∃ group cause, failure = .timeoutKill group cause := by
  cases h with
  | unknown cause => exact ⟨_, _, rfl⟩
  | own group => exact ⟨_, _, rfl⟩
  | refused other cause => exact ⟨_, _, rfl⟩

/-- **What lies between the race and the captures** gives the run its base status. -/
theorem Between.base {limits : Limits} {child : Nat} {deadline : Instant}
    {raced : Option (Except IoError Int32)} {middle : List Turn} {status : RunStatus}
    {path : String} {began : Timestamp} {start now : Instant} {both : Captured × Captured}
    (h : Between limits (some child) deadline raced middle status) :
    Base limits child
      ([⟨.wallClock, began⟩, ⟨.clock, start⟩, ⟨.launch path, .ok (some child)⟩,
        ⟨.exitOrDeadline deadline, raced⟩] ++ middle ++ [⟨.collect, both⟩, ⟨.clock, now⟩])
      status := by
  refine ⟨⟨deadline, raced, by simp⟩, ?_, ?_, ?_, ?_⟩
  · intro d hm
    obtain ⟨-, rfl⟩ := h.race_unique hm
    cases h with
    | exited waited wound => rfl
  · intro d raw hm hraw
    obtain ⟨-, rfl⟩ := h.race_unique hm
    cases h with
    | exited waited wound =>
        obtain ⟨code, signal, hstatus⟩ := RunStatus.ofWaitStatus_ne hraw
        exact ⟨code, signal, hstatus, rfl⟩
  · intro d cause hm
    obtain ⟨-, rfl⟩ := h.race_unique hm
    cases h with
    | exited waited wound => rfl
  · intro d hm
    obtain ⟨-, rfl⟩ := h.race_unique hm
    cases h with
    | overran expired =>
        have within {part : List Turn} (hpart : part <+: middle) : part <:+:
            [⟨.wallClock, began⟩, ⟨.clock, start⟩, ⟨.launch path, .ok (some child)⟩,
              ⟨.exitOrDeadline deadline, none⟩] ++ middle ++ [⟨.collect, both⟩, ⟨.clock, now⟩] :=
          hpart.isInfix.trans (List.infix_append _ _ _)
        cases expire_ends expired with
        | reaped hpid => cases hpid
        | spared hpid killed =>
            cases hpid
            obtain ⟨group, cause, rfl⟩ := killed.failure
            exact ⟨_, _, within (List.prefix_append _ _), killed, .inr ⟨group, cause, rfl, rfl⟩⟩
        | timedOut hpid killed =>
            cases hpid
            exact ⟨_, _, within (List.prefix_append _ _), killed, .inl ⟨_, rfl, rfl⟩⟩

/-- The base status is not that of a launch that has failed. -/
lemma Base.not_launch {limits : Limits} {child : Nat} {turns : List Turn} {path : Bytes}
    {cause : IoError} (h : Base limits child turns (.failed (.launch path cause))) : False := by
  obtain ⟨deadline, winner, hm⟩ := h.raced
  rcases winner with _ | cause | raw
  · obtain ⟨_, _, -, -, ⟨_, -, hbase⟩ | ⟨_, _, -, hbase⟩⟩ := h.overran deadline hm <;> cases hbase
  · cases h.waitFailed deadline cause hm
  · by_cases hraw : raw = 0
    · subst hraw
      cases h.success deadline hm
    · obtain ⟨_, _, hbase, -⟩ := h.executionError deadline raw hm hraw
      cases hbase

/-- A run that comes to an outcome was not started, and has done nothing, or it was started and
    its base status is resolved with the captures. -/
lemma Course.verdict {limits : Limits} {script : String} {turns : List Turn} {outcome : Outcome}
    (h : Course limits script turns outcome) :
    (Unlaunched script turns ∧ (∀ turn ∈ turns, turn.Idle) ∧
      ∃ path cause began start now, outcome = unstarted path cause began start now) ∨
    (¬ Unlaunched script turns ∧
      ∃ path pid base began start out err now, Script.normalize script = some path ∧
        ⟨.launch path, .ok pid⟩ ∈ turns ∧ ⟨.collect, (out, err)⟩ ∈ turns ∧
        (∀ child, pid = some child → Base limits child turns base) ∧
        outcome = reported base pid began start out err now) := by
  cases h with
  | pathless began start now hpath =>
      left
      exact ⟨.inl hpath, by simp [Turn.Idle], _, _, _, _, _, rfl⟩
  | @refused path began start now cause hpath =>
      left
      exact ⟨.inr ⟨path, cause, by simp⟩, by simp [Turn.Idle], _, _, _, _, _, rfl⟩
  | started began out err now hpath hdeadline between =>
      right
      refine ⟨?_, _, _, _, _, _, out, err, now, hpath, by simp, by simp, ?_, rfl⟩
      · rintro (hnone | ⟨path, cause, hm⟩)
        · rw [hpath] at hnone
          cases hnone
        · cases (between.launch_unique hm).2
      · rintro child rfl
        exact between.base

/-- **The verdict of a whole run.**  The launch has failed exactly if the script has no path or
    could not be started; then there is no number of a child, nothing was captured, and neither
    drain was touched.  Otherwise the number is that of the child, each capture is what the drain
    of its stream has left whatever the status is, and nothing if it has crashed, and the status
    follows from the base status and the failures of the drains, of which a crash is one. -/
theorem outcome_classified {limits : Limits} {script : String} {s t : Scene}
    {exchanges : List (Exchange Scene)} {outcome : Outcome} (fresh : s.Fresh)
    (course : Dialogue Scene.Answers (run limits script) s exchanges (.done outcome) t) :
    ((∃ path cause, outcome.status = .failed (.launch path cause)) ↔
      Unlaunched script (Dialogue.turns exchanges)) ∧
    (outcome.pid = none ↔ Unlaunched script (Dialogue.turns exchanges)) ∧
    (Unlaunched script (Dialogue.turns exchanges) →
      outcome.stdout = [] ∧ outcome.stderr = [] ∧ t.drains = s.drains) ∧
    (¬ Unlaunched script (Dialogue.turns exchanges) →
      ∃ path child out err outFailure errFailure base,
        Script.normalize script = some path ∧
        ⟨.launch path, .ok (some child)⟩ ∈ Dialogue.turns exchanges ∧ outcome.pid = some child ∧
        t.drains.stdout.task.result? = some out ∧ t.drains.stderr.task.result? = some err ∧
        out.Gives outcome.stdout outFailure ∧ err.Gives outcome.stderr errFailure ∧
        Base limits child (Dialogue.turns exchanges) base ∧
        base.Precedence outFailure errFailure outcome.status) := by
  rcases (run_ends course.leaves).verdict with
    ⟨hun, hidle, path, cause, began, start, now, rfl⟩ |
      ⟨hun, path, pid, base, began, start, out, err, now, hpath, hlaunch, hcollect, hbase, rfl⟩
  · exact ⟨⟨fun _ => hun, fun _ => ⟨path, cause, rfl⟩⟩, ⟨fun _ => hun, fun _ => rfl⟩,
      fun _ => ⟨rfl, rfl, Scene.idle course fresh.child hidle⟩, fun h => absurd hun h⟩
  · obtain ⟨child, rfl⟩ := Scene.numbered course hlaunch
    have hbase := hbase child rfl
    obtain ⟨outResult, hout, rfl⟩ := Scene.collected course fresh.sound hcollect .stdout
    obtain ⟨errResult, herr, rfl⟩ := Scene.collected course fresh.sound hcollect .stderr
    refine ⟨⟨?_, fun h => absurd h hun⟩,
      ⟨fun h => absurd h (by simp [reported]), fun h => absurd h hun⟩,
      fun h => absurd h hun, fun _ => ?_⟩
    · rintro ⟨path, cause, hstatus⟩
      rw [RunStatus.resolve_launch hstatus] at hbase
      exact absurd hbase.not_launch id
    · exact ⟨path, child, outResult, errResult, _, _, base, hpath, hlaunch, rfl, hout, herr,
        outResult.gives_captured, errResult.gives_captured, hbase,
        RunStatus.resolve_precedence _ _ _⟩

/-- A script writes a byte and outlives its deadline, and its group cannot be found: the byte is
    captured although the run fails. -/
theorem verdict_of_lost_group :
    ∃ (s t : Scene) (exchanges : List (Exchange Scene)) (outcome : Outcome), s.Fresh ∧
      Dialogue Scene.Answers (run ⟨.ofSeconds 1, .ofMillis 200, true⟩ "./greet") s exchanges
        (.done outcome) t ∧
      ¬ Unlaunched "./greet" (Dialogue.turns exchanges) ∧
      outcome.pid = some 7 ∧ outcome.stdout = [104] ∧ outcome.stderr = [] ∧
      outcome.status = .failed (.timeoutKill 7 .noProcess) := by
  have course : Dialogue Scene.Answers (run ⟨.ofSeconds 1, .ofMillis 200, true⟩ "./greet")
      (.opening .obliging .obliging) _ (.done _) _ :=
    .turn (.fit .refl (.wallClock _ ⟨0, 0⟩)) <|
    .turn (.fit .refl (.clock _)) <|
    .turn (.fit .refl (.launched 7 (by decide) (by decide) (by decide))) <|
    .turn (.fit
      (.head (.write .stdout .script [104] rfl rfl fun _ => rfl) <|
        .head (.drain .stdout rfl (.work (.data [104] [] rfl (by decide) (by decide)))) <|
        .head (.drain .stdout rfl (.work (.notReady _))) <|
        .head (.pass ⟨1000000000⟩ (by decide)) .refl)
      (.overran (by decide))) <|
    .turn (.fit .refl (.ungrouped _ _ .noProcess)) <|
    .turn (.fit .refl (.killChild _)) <|
    .turn (.stopDrains
      (.head (.drain .stdout rfl (.heed rfl rfl)) <|
        .head (.drain .stderr rfl (.heed rfl rfl)) .refl) rfl) <|
    .turn (.fit .refl (.collect rfl)) <|
    .turn (.fit .refl (.clock _)) <|
    .start _ _
  obtain ⟨-, hpid, -, -⟩ := outcome_classified (Scene.opening_fresh _ _) course
  exact ⟨_, _, _, _, Scene.opening_fresh _ _, course,
    fun h => absurd (hpid.mpr h) (Option.some_ne_none 7), rfl, rfl, rfl, rfl⟩

end Supervisor

end Curfew
