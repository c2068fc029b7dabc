import Curfew.Proofs.Supervisor.Overflow

/-!
# At the deadline

What a supervisor does once the deadline has passed, from the lookup of the group to the end of the
drains, whatever the system answers.

* **`Polled`** — the ways a group can be polled.  Every round but the last finds the group alive and
  time left; the last one finds it gone, or finds it alive with no time left.
* **`Escalated`**, **`Drained`** — what follows the grace period, and the drains' own.
* **`Enforced`** — the ways the deadline of a child with a number can be enforced
  (`expire_enforced`).
* **`expire_at_deadline`** — which signals are sent, and what the run is said to have come to.
-/

namespace Curfew.Supervisor

open Program

/-! ## Polling -/

/-- The ways a group can be polled until an instant, and whether it has outlived that. -/
inductive Polled (group : Int) (deadline : Instant) : List Turn → Bool → Prop
  | gone (cause : Errno) : Polled group deadline [⟨.probe group, .error cause⟩] false
  | outlived {r : Instant} (reached : r.reached deadline = true) :
      Polled group deadline [⟨.probe group, .ok ()⟩, ⟨.clock, r⟩] true
  /-- The group is alive, and there is time left. -/
  | again {r now : Instant} {later : List Turn} {outlived : Bool}
      (early : r.reached deadline = false) (rest : Polled group deadline later outlived) :
      Polled group deadline
        (⟨.probe group, .ok ()⟩ :: ⟨.clock, r⟩ :: ⟨.clock, now⟩ ::
          ⟨.pause (pollInterval.min (deadline.since now)), ()⟩ :: later) outlived

/-- One round of polling, and what follows it if there is time left. -/
lemma pollOnce_ends {group : Int} {deadline : Instant} {turns : List Turn} {outlived : Bool}
    {next : Duration → Program Bool}
    (hnext : ∀ {span later}, (next span).Leaves later (.done outlived) →
      Polled group deadline later outlived)
    (h : ((pollOnce group deadline).bind fun found =>
      match found with
      | .gone => done false
      | .outlived => done true
      | .timeLeft span => next span).Leaves turns (.done outlived)) :
    Polled group deadline turns outlived := by
  obtain ⟨first, later, found, rfl, h₁, hrest⟩ := ends_bind.mp h
  simp only [pollOnce, bind_eq, pure_eq] at h₁
  obtain ⟨result, middle, rfl, h₂⟩ := ends_request h₁
  cases result with
  | error cause =>
      obtain ⟨rfl, rfl⟩ := ends_done.mp h₂
      obtain ⟨rfl, rfl⟩ := ends_done.mp hrest
      exact .gone cause
  | ok _ =>
      obtain ⟨r, middle, rfl, h₃⟩ := ends_request h₂
      by_cases hr : r.reached deadline = true
      · rw [if_pos hr] at h₃
        obtain ⟨rfl, rfl⟩ := ends_done.mp h₃
        obtain ⟨rfl, rfl⟩ := ends_done.mp hrest
        exact .outlived hr
      · rw [if_neg hr] at h₃
        obtain ⟨now, middle, rfl, h₄⟩ := ends_request h₃
        obtain ⟨_, middle, rfl, h₅⟩ := ends_request h₄
        obtain ⟨rfl, rfl⟩ := ends_done.mp h₅
        exact .again (by simpa using hr) (hnext hrest)

lemma pollOn_ends {group : Int} {deadline : Instant} {fuel : Nat} {turns : List Turn}
    {outlived : Bool} (h : (pollOn group deadline fuel).Leaves turns (.done outlived)) :
    Polled group deadline turns outlived := by
  induction fuel generalizing turns with
  | zero => exact absurd h ends_crash
  | succ fuel ih => exact pollOnce_ends ih h

/-- **A group is polled** in one of these ways. -/
theorem groupOutlives_ends {group : Int} {deadline : Instant} {turns : List Turn}
    {outlived : Bool} (h : (groupOutlives group deadline).Leaves turns (.done outlived)) :
    Polled group deadline turns outlived := pollOnce_ends pollOn_ends h

namespace Polled

variable {group : Int} {deadline : Instant} {turns : List Turn} {outlived : Bool}

/-- Polling does nothing but probe. -/
lemma forces_eq (h : Polled group deadline turns outlived) :
    ∀ force ∈ forces turns, force = .probe group := by
  induction h with
  | gone cause => simp [forces, Request.force?]
  | outlived reached => simp [forces, Request.force?]
  | again early rest ih => simpa [forces, Request.force?] using ih

/-- A group has outlived the time exactly if every probe has found it alive. -/
lemma outlived_iff (h : Polled group deadline turns outlived) :
    outlived = true ↔ ∀ answer, ⟨.probe group, answer⟩ ∈ turns → answer = .ok () := by
  induction h with
  | gone cause => simp
  | outlived reached => simp
  | again early rest ih => simpa using ih

/-- After one of the probes the time was up, if the group has outlived it. -/
lemma last (h : Polled group deadline turns true) :
    ∃ before r, turns = before ++ [⟨.probe group, .ok ()⟩, ⟨.clock, r⟩] ∧
      r.reached deadline = true := by
  generalize ho : true = outlived at h
  induction h with
  | gone cause => cases ho
  | @outlived r reached => exact ⟨[], r, rfl, reached⟩
  | again early rest ih =>
      obtain ⟨before, r, rfl, reached⟩ := ih ho
      exact ⟨_ :: _ :: _ :: _ :: before, r, rfl, reached⟩

end Polled

/-! ## After the grace period -/

/-- The ways a group that was told to end can be treated at the end of the grace period. -/
inductive Escalated (limits : Limits) (group : Int) (graceEnd : Instant) : List Turn → Prop
  | spared (off : limits.escalate = false) : Escalated limits group graceEnd []
  | gone {turns : List Turn} (on : limits.escalate = true)
      (polled : Polled group graceEnd turns false) : Escalated limits group graceEnd turns
  | killed {turns : List Turn} (on : limits.escalate = true)
      (polled : Polled group graceEnd turns true) (answer : Except Errno Unit) :
      Escalated limits group graceEnd
        (turns ++ [⟨.signal group .kill, answer⟩, ⟨.exitWithin limits.killGrace, ()⟩])

/-- The ways the drains of a run that has timed out can be waited for. -/
inductive Drained (limits : Limits) : List Turn → Prop
  | joined {now drainEnd : Instant} (sum : now.add? limits.killGrace = some drainEnd) :
      Drained limits [⟨.clock, now⟩, ⟨.joinUntil drainEnd, true⟩]
  | stopped {now drainEnd : Instant} (sum : now.add? limits.killGrace = some drainEnd) :
      Drained limits [⟨.clock, now⟩, ⟨.joinUntil drainEnd, false⟩, ⟨.stopDrains, ()⟩]

lemma awaitDrains_ends {limits : Limits} {turns : List Turn} {status : RunStatus}
    (h : (awaitDrains limits).Leaves turns (.done status)) :
    Drained limits turns ∧ status = .timedOut limits.timeout := by
  simp only [awaitDrains, bind_eq, pure_eq] at h
  obtain ⟨now, later, rfl, h₁⟩ := ends_request h
  obtain ⟨_, later, drainEnd, rfl, hlater, h₂⟩ := ends_bind.mp h₁
  obtain ⟨rfl, sum⟩ := later_ends hlater
  obtain ⟨joined, later, rfl, h₃⟩ := ends_request h₂
  cases joined with
  | true =>
      obtain ⟨rfl, rfl⟩ := ends_done.mp h₃
      exact ⟨.joined sum, rfl⟩
  | false =>
      obtain ⟨_, later, rfl, h₄⟩ := ends_request h₃
      obtain ⟨rfl, rfl⟩ := ends_done.mp h₄
      exact ⟨.stopped sum, rfl⟩

/-- **What follows the signal to end** is the grace period, what comes of the group, and the time of
    the drains. -/
lemma timeOut_ends {limits : Limits} {group : Int} {turns : List Turn} {status : RunStatus}
    (h : (timeOut limits group).Leaves turns (.done status)) :
    ∃ now graceEnd middle last, now.add? limits.killGrace = some graceEnd ∧
      Escalated limits group graceEnd middle ∧ Drained limits last ∧
      turns = ⟨.clock, now⟩ :: ⟨.exitUntil graceEnd, ()⟩ :: (middle ++ last) ∧
      status = .timedOut limits.timeout := by
  simp only [timeOut, bind_eq] at h
  obtain ⟨now, later, rfl, h₁⟩ := ends_request h
  obtain ⟨_, later, graceEnd, rfl, hlater, h₂⟩ := ends_bind.mp h₁
  obtain ⟨rfl, sum⟩ := later_ends hlater
  obtain ⟨_, later, rfl, h₃⟩ := ends_request h₂
  by_cases hon : limits.escalate = true
  · rw [if_pos hon] at h₃
    obtain ⟨polls, later, outlived, rfl, h₄, h₅⟩ := ends_bind.mp h₃
    have polled := groupOutlives_ends h₄
    cases outlived with
    | false =>
        obtain ⟨drained, hstatus⟩ := awaitDrains_ends h₅
        exact ⟨now, graceEnd, polls, later, sum, .gone hon polled, drained, rfl, hstatus⟩
    | true =>
        simp only [escalate, if_true, bind_eq] at h₅
        obtain ⟨answer, later, rfl, h₆⟩ := ends_request h₅
        obtain ⟨_, later, rfl, h₇⟩ := ends_request h₆
        obtain ⟨drained, hstatus⟩ := awaitDrains_ends h₇
        exact ⟨now, graceEnd, _, later, sum, .killed hon polled answer, drained, by simp, hstatus⟩
  · rw [if_neg hon] at h₃
    obtain ⟨drained, hstatus⟩ := awaitDrains_ends h₃
    exact ⟨now, graceEnd, [], later, sum, .spared (by simpa using hon), drained, rfl, hstatus⟩

/-- The ways the deadline can be enforced on a child with a number, and the status that it gives the
    run. -/
inductive Enforced (limits : Limits) (child : Int) : List Turn → RunStatus → Prop
  /-- The group could not be told to end: the child alone is killed, and the drains are stopped. -/
  | spared {first : List Turn} {failure : RunError}
      (killed : Killed child first (.error failure)) :
      Enforced limits child (first ++ [⟨.killChild, ()⟩, ⟨.stopDrains, ()⟩]) (.failed failure)
  | timedOut {first middle last : List Turn} {group : Int} {now graceEnd : Instant}
      (killed : Killed child first (.ok group)) (sum : now.add? limits.killGrace = some graceEnd)
      (escalated : Escalated limits group graceEnd middle) (drained : Drained limits last) :
      Enforced limits child
        (first ++ ⟨.clock, now⟩ :: ⟨.exitUntil graceEnd, ()⟩ :: (middle ++ last))
        (.timedOut limits.timeout)

/-- **A deadline is enforced** in one of these ways. -/
theorem expire_enforced {limits : Limits} {pid : Nat} {turns : List Turn} {status : RunStatus}
    (h : (expire limits (some pid)).Leaves turns (.done status)) :
    Enforced limits (processNumber pid) turns status := by
  rw [expire_some] at h
  obtain ⟨first, later, verdict, rfl, h₁, h₂⟩ := ends_bind.mp h
  have killed := killGroup_ends h₁
  cases verdict with
  | error failure =>
      obtain ⟨_, later, rfl, h₃⟩ := ends_request h₂
      obtain ⟨_, later, rfl, h₄⟩ := ends_request h₃
      obtain ⟨rfl, rfl⟩ := ends_done.mp h₄
      exact .spared killed
  | ok group =>
      obtain ⟨now, graceEnd, middle, last, sum, escalated, drained, rfl, rfl⟩ := timeOut_ends h₂
      exact .timedOut killed sum escalated drained

/-! ## Signals -/

namespace Escalated

variable {limits : Limits} {group : Int} {graceEnd : Instant} {turns : List Turn}

/-- After the grace period a group is probed, and killed at most once. -/
lemma forces_eq (h : Escalated limits group graceEnd turns) :
    (∀ force ∈ forces turns, force = .probe group ∨ force = .signal group .kill) ∧
      (forces turns).count (.signal group .kill) ≤ 1 := by
  have probed {turns : List Turn} {outlived : Bool} (h : Polled group graceEnd turns outlived) :
      (∀ force ∈ forces turns, force = .probe group ∨ force = .signal group .kill) ∧
        (forces turns).count (.signal group .kill) = 0 := by
    refine ⟨fun force hf => .inl (h.forces_eq force hf), List.count_eq_zero.mpr fun hf => ?_⟩
    cases h.forces_eq _ hf
  cases h with
  | spared off => simp [forces]
  | gone on polled =>
      obtain ⟨hall, hcount⟩ := probed polled
      exact ⟨hall, by rw [hcount]; exact Nat.zero_le 1⟩
  | @killed turns on polled answer =>
      obtain ⟨hall, hcount⟩ := probed polled
      have last : forces [⟨.signal group .kill, answer⟩, ⟨.exitWithin limits.killGrace, ()⟩] =
          [.signal group .kill] := rfl
      rw [forces_append, last, List.count_append, hcount]
      refine ⟨fun force hf => ?_, by simp⟩
      rcases List.mem_append.mp hf with hf | hf
      · exact hall force hf
      · exact .inr (List.mem_singleton.mp hf)

/-- **A group is killed** exactly if that is wanted and every probe has found it alive; and then it
    was alive in a probe after which the grace period was over. -/
lemma kill_iff (h : Escalated limits group graceEnd turns) :
    (.signal group .kill ∈ forces turns ↔
      limits.escalate = true ∧ ∀ answer, ⟨.probe group, answer⟩ ∈ turns → answer = .ok ()) ∧
    (.signal group .kill ∈ forces turns → ∃ before r after,
      turns = before ++ ⟨.probe group, .ok ()⟩ :: ⟨.clock, r⟩ :: after ∧
        r.reached graceEnd = true) := by
  cases h with
  | spared off => simp [forces, off]
  | gone on polled =>
      have alive := polled.outlived_iff
      have unsent : .signal group .kill ∉ forces turns := fun hf => by cases polled.forces_eq _ hf
      refine ⟨iff_of_false unsent fun h => ?_, fun hf => absurd hf unsent⟩
      cases alive.mpr h.2
  | @killed turns on polled answer =>
      have alive := polled.outlived_iff.mp rfl
      obtain ⟨before, r, rfl, reached⟩ := polled.last
      refine ⟨iff_of_true (by simp [forces, Request.force?]) ⟨on, fun answer hm => ?_⟩,
        fun _ => ⟨before, r, _, by simp; rfl, reached⟩⟩
      rcases List.mem_append.mp hm with hm | hm
      · exact alive answer hm
      · simp at hm

/-- Where killing is wanted, a group that is not killed was found gone. -/
lemma gone_or_killed (h : Escalated limits group graceEnd turns) (on : limits.escalate = true) :
    (∃ cause, ⟨.probe group, .error cause⟩ ∈ turns) ∨ .signal group .kill ∈ forces turns := by
  cases h with
  | spared off =>
      rw [on] at off
      cases off
  | gone on polled =>
      refine .inl ?_
      by_contra unfound
      refine Bool.noConfusion (polled.outlived_iff.mpr fun answer hm => ?_)
      cases answer with
      | error cause => exact absurd ⟨cause, hm⟩ unfound
      | ok _ => rfl
  | killed on polled answer => exact .inr (by simp [forces, Request.force?])

end Escalated

lemma Drained.calm {limits : Limits} {turns : List Turn} (h : Drained limits turns) :
    ∀ turn ∈ turns, turn.request.Calm := by
  cases h <;> simp [Request.Calm, Request.force?]

namespace Killed

variable {child : Int} {first later : List Turn} {verdict : Except RunError Int}

/-- A group is told to end exactly if it is found and is not the supervisor's own. -/
lemma terminates_iff (h : Killed child first verdict)
    (quiet : ∀ g, .signal g .terminate ∉ forces later) (g : Int) :
    .signal g .terminate ∈ forces (first ++ later) ↔ ∃ own rest,
      first ++ later = ⟨.groupOf child, .ok g⟩ :: ⟨.ownGroup, own⟩ :: rest ∧ g ≠ own := by
  have told {group own : Int} (other : group ≠ own) (answer : Except Errno Unit) :
      .signal g .terminate ∈ [Force.signal group .terminate] ↔ ∃ own' rest,
        [⟨.groupOf child, .ok group⟩, ⟨.ownGroup, own⟩, ⟨.signal group .terminate, answer⟩] ++ later =
          ⟨.groupOf child, .ok g⟩ :: ⟨.ownGroup, own'⟩ :: rest ∧ g ≠ own' := by
    rw [List.mem_singleton]
    constructor
    · intro heq
      cases heq
      exact ⟨own, _, rfl, other⟩
    · rintro ⟨own', rest, heq, -⟩
      cases heq
      rfl
  rw [forces_append, List.mem_append, or_iff_left (quiet g)]
  cases h with
  | unknown cause => simp [forces, Request.force?]
  | own group =>
      refine iff_of_false List.not_mem_nil ?_
      rintro ⟨own, rest, heq, hne⟩
      cases heq
      exact hne rfl
  | refused other cause => exact told other (.error cause)
  | signalled other => exact told other (.ok ())

/-- It is told once, before anything else is done. -/
lemma terminates_once (h : Killed child first verdict)
    (quiet : ∀ g, .signal g .terminate ∉ forces later) (g : Int)
    (hf : .signal g .terminate ∈ forces (first ++ later)) :
    (forces (first ++ later)).head? = some (.signal g .terminate) ∧
      (forces (first ++ later)).count (.signal g .terminate) = 1 := by
  have told {group : Int} (hf : .signal g .terminate ∈ [Force.signal group .terminate]) :
      ([Force.signal group .terminate] ++ forces later).head? = some (.signal g .terminate) ∧
        ([Force.signal group .terminate] ++ forces later).count (.signal g .terminate) = 1 := by
    cases List.mem_singleton.mp hf
    exact ⟨rfl, by rw [List.count_append, List.count_eq_zero.mpr (quiet g)]; simp⟩
  rw [forces_append] at hf ⊢
  replace hf := (List.mem_append.mp hf).resolve_right (quiet g)
  cases h with
  | unknown cause => cases hf
  | own group => cases hf
  | refused other cause => exact told hf
  | signalled other => exact told hf

end Killed

/-! ## The deadline from end to end -/

/-- A deadline is enforced unless the end of a grace period is out of range. -/
lemma expire_crash {τ : Type} {answers : τ → Turn → τ → Prop} {now : τ → Instant}
    (keeps : Timekeeping answers now) {limits : Limits} {pid : Option Nat} {s t : τ}
    {exchanges : List (Exchange τ)} {reason : Crash}
    (course : Dialogue answers (expire limits pid) s exchanges (.crash reason) t) :
    ∃ reading ∈ readings (Dialogue.turns exchanges), reading.add? limits.killGrace = none := by
  by_contra fits
  simp only [not_exists, not_and, ← ne_eq, Option.ne_none_iff_exists'] at fits
  -- the same dialogue, in surroundings whose clock only shows instants that fit
  have narrowed : Dialogue
      (fun s turn t => answers s turn t ∧
        ∀ r ∈ readings [turn], ∃ sum, r.add? limits.killGrace = some sum)
      (expire limits pid) s exchanges (.crash reason) t :=
    course.mono fun e he h => ⟨h, fun r hr => fits r (mem_readings he hr)⟩
  have keeps' : Timekeeping
      (fun s turn t => answers s turn t ∧
        ∀ r ∈ readings [turn], ∃ sum, r.add? limits.killGrace = some sum) now :=
    ⟨fun h => keeps.forward h.1, fun h => keeps.reading h.1, fun h => keeps.slept h.1⟩
  exact (expire_safe keeps' (fun h => h.2 _ List.mem_cons_self) pid s).sound narrowed

/-- **What is done at the deadline**, for a child with a number, whatever the system answers.

    The group of the child is looked up, and is told to end, once and before anything else is done
    to it, exactly if it is found and is not the supervisor's own.  Exactly if it takes that signal,
    the run is said to have timed out, with the budget.  Otherwise it is said to have failed over
    the first step that did; then the child alone is killed and the drains are stopped at once, and
    nothing else is done.

    A group that has taken the signal is killed at most once, and exactly if killing is wanted and
    every probe has found it alive, up to one after which the grace period was over.  What comes of
    that, and of the waits, makes no difference to the status.

    All this comes to an end, unless the end of a grace period is out of range. -/
theorem expire_at_deadline (limits : Limits) (pid : Nat) :
    (∀ turns status, (expire limits (some pid)).Leaves turns (.done status) →
      (∀ g, .signal g .terminate ∈ forces turns ↔ ∃ own later,
        turns = ⟨.groupOf (processNumber pid), .ok g⟩ :: ⟨.ownGroup, own⟩ :: later ∧ g ≠ own) ∧
      (∀ g, .signal g .terminate ∈ forces turns →
        (forces turns).head? = some (.signal g .terminate) ∧
        (forces turns).count (.signal g .terminate) = 1) ∧
      (status = .timedOut limits.timeout ↔ ∃ g, ⟨.signal g .terminate, .ok ()⟩ ∈ turns) ∧
      (status ≠ .timedOut limits.timeout →
        (∃ cause, turns = [⟨.groupOf (processNumber pid), .error cause⟩, ⟨.killChild, ()⟩,
            ⟨.stopDrains, ()⟩] ∧
          status = .failed (.timeoutKill (processNumber pid) cause)) ∨
        (∃ g, turns = [⟨.groupOf (processNumber pid), .ok g⟩, ⟨.ownGroup, g⟩, ⟨.killChild, ()⟩,
            ⟨.stopDrains, ()⟩] ∧
          status = .failed (.timeoutKill g .notPermitted)) ∨
        ∃ g own cause, g ≠ own ∧
          turns = [⟨.groupOf (processNumber pid), .ok g⟩, ⟨.ownGroup, own⟩,
            ⟨.signal g .terminate, .error cause⟩, ⟨.killChild, ()⟩, ⟨.stopDrains, ()⟩] ∧
          status = .failed (.timeoutKill g cause)) ∧
      ∀ g, ⟨.signal g .terminate, .ok ()⟩ ∈ turns → ∃ own now graceEnd later,
        turns = [⟨.groupOf (processNumber pid), .ok g⟩, ⟨.ownGroup, own⟩,
          ⟨.signal g .terminate, .ok ()⟩, ⟨.clock, now⟩, ⟨.exitUntil graceEnd, ()⟩] ++ later ∧
        now.add? limits.killGrace = some graceEnd ∧
        (∀ force ∈ forces later, force = .probe g ∨ force = .signal g .kill) ∧
        (forces later).count (.signal g .kill) ≤ 1 ∧
        (.signal g .kill ∈ forces later ↔
          limits.escalate = true ∧ (∀ answer, ⟨.probe g, answer⟩ ∈ later → answer = .ok ()) ∧
          ∃ before r after, later = before ++ ⟨.probe g, .ok ()⟩ :: ⟨.clock, r⟩ :: after ∧
            r.reached graceEnd = true) ∧
        (limits.escalate = true →
          (∃ cause, ⟨.probe g, .error cause⟩ ∈ later) ∨ .signal g .kill ∈ forces later)) ∧
    ∀ {τ : Type} {answers : τ → Turn → τ → Prop} {now : τ → Instant}, Timekeeping answers now →
      ∀ s t exchanges reason,
        Dialogue answers (expire limits (some pid)) s exchanges (.crash reason) t →
        ∃ reading ∈ readings (Dialogue.turns exchanges), reading.add? limits.killGrace = none := by
  refine ⟨fun turns status h => ?_, fun keeps s t exchanges reason => expire_crash keeps⟩
  cases expire_enforced h with
  | spared killed =>
      have quiet : ∀ g, .signal g .terminate ∉ forces [⟨.killChild, ()⟩, ⟨.stopDrains, ()⟩] := by
        simp [forces, Request.force?]
      refine ⟨killed.terminates_iff quiet, killed.terminates_once quiet, ?_⟩
      cases killed with
      | unknown cause => exact ⟨by simp, fun _ => .inl ⟨cause, rfl, rfl⟩, by simp⟩
      | own group => exact ⟨by simp, fun _ => .inr (.inl ⟨group, rfl, rfl⟩), by simp⟩
      | @refused group own other cause =>
          exact ⟨by simp, fun _ => .inr (.inr ⟨group, own, cause, other, rfl, rfl⟩), by simp⟩
  | @timedOut first middle last group now graceEnd killed sum escalated drained =>
      have later_forces : forces (middle ++ last) = forces middle := by
        rw [forces_append, forces_of_calm drained.calm, List.append_nil]
      have quiet : ∀ g, .signal g .terminate ∉
          forces (⟨.clock, now⟩ :: ⟨.exitUntil graceEnd, ()⟩ :: (middle ++ last)) := by
        intro g hf
        have hm : .signal g .terminate ∈ forces middle := later_forces ▸ hf
        rcases escalated.forces_eq.1 _ hm with h | h <;> cases h
      have once := killed.terminates_once quiet
      refine ⟨killed.terminates_iff quiet, once, ?_⟩
      cases killed with
      | @signalled _ own other =>
          refine ⟨iff_of_true rfl ⟨group, by simp⟩, fun hne => absurd rfl hne, fun g hg => ?_⟩
          obtain rfl : group = g := by
            have head := (once g (List.mem_filterMap.mpr ⟨_, hg, rfl⟩)).1
            cases head
            rfl
          refine ⟨own, now, graceEnd, middle ++ last, rfl, sum, ?_⟩
          have probed {answer : Except Errno Unit} :
              ⟨.probe group, answer⟩ ∈ middle ++ last ↔ ⟨.probe group, answer⟩ ∈ middle := by
            rw [List.mem_append, or_iff_left]
            intro hm
            cases drained.calm _ hm
          obtain ⟨killed_iff, reached⟩ := escalated.kill_iff
          rw [later_forces]
          simp only [probed]
          refine ⟨escalated.forces_eq.1, escalated.forces_eq.2, ⟨fun hf => ?_, fun h => ?_⟩,
            escalated.gone_or_killed⟩
          · obtain ⟨before, r, after, rfl, hr⟩ := reached hf
            exact ⟨(killed_iff.mp hf).1, (killed_iff.mp hf).2, before, r, after ++ last, by simp, hr⟩
          · exact killed_iff.mpr ⟨h.1, h.2.1⟩

/-- A group that is alive when its grace period is over is told to end once and killed, and the run
    has timed out, although the group is gone by then and the drains have to be stopped. -/
theorem group_killed_after_grace :
    ∃ turns, (expire ⟨.ofSeconds 1, ⟨20⟩, true⟩ (some 7)).Leaves turns
        (.done (.timedOut (.ofSeconds 1))) ∧
      ⟨.signal 7 .kill, .error .noProcess⟩ ∈ turns ∧ ⟨.stopDrains, ()⟩ ∈ turns ∧
      (forces turns).count (.signal 7 .terminate) = 1 ∧
      ∀ s t exchanges reason,
        Dialogue Scene.Answers (expire ⟨.ofSeconds 1, ⟨20⟩, true⟩ (some 7)) s exchanges
          (.crash reason) t →
        ∃ reading ∈ readings (Dialogue.turns exchanges),
          reading.add? ⟨20⟩ = none := by
  obtain ⟨ends, returns⟩ := expire_at_deadline ⟨.ofSeconds 1, ⟨20⟩, true⟩ 7
  have course : (expire ⟨.ofSeconds 1, ⟨20⟩, true⟩ (some 7)).Leaves
      [⟨.groupOf 7, .ok 7⟩, ⟨.ownGroup, 3⟩, ⟨.signal 7 .terminate, .ok ()⟩, ⟨.clock, ⟨0⟩⟩,
        ⟨.exitUntil ⟨20⟩, ()⟩, ⟨.probe 7, .ok ()⟩, ⟨.clock, ⟨18⟩⟩, ⟨.clock, ⟨19⟩⟩, ⟨.pause ⟨1⟩, ()⟩,
        ⟨.probe 7, .ok ()⟩, ⟨.clock, ⟨20⟩⟩, ⟨.signal 7 .kill, .error .noProcess⟩,
        ⟨.exitWithin ⟨20⟩, ()⟩, ⟨.clock, ⟨30⟩⟩, ⟨.joinUntil ⟨50⟩, false⟩, ⟨.stopDrains, ()⟩]
      (.done (.timedOut (.ofSeconds 1))) :=
    .turn <| .turn <| .turn <| .turn <| .turn <| .turn <| .turn <| .turn <| .turn <| .turn <|
    .turn <| .turn <| .turn <| .turn <| .turn <| .turn <| .start _
  obtain ⟨-, once, -⟩ := ends _ _ course
  refine ⟨_, course, by simp, by simp, (once 7 ?_).2, returns Scene.timekeeping⟩
  exact List.mem_filterMap.mpr ⟨⟨.signal 7 .terminate, .ok ()⟩, by simp, rfl⟩

end Curfew.Supervisor
