import Curfew.Proofs.Supervisor.Course
import Curfew.Proofs.Supervisor.Scene

/-!
# Fidelity of a run that succeeds

A run reports success if the script has exited with code 0 before the deadline and neither drain
has failed.  What has reached the captures and the destinations then?

* **`success_faithful`** — of each stream a first part; and everything, unless its drain was cut
  off, which only happens if the drains have not ended when the deadline passes.
* **`success_not_exact`** — that a drain was cut off does not show in the status.

The drain of a stream that descendants of the script keep open, or whose destination does not take
what it is offered, is cut off at the deadline rather than waited for.
-/

namespace Curfew

def Outcome.captured (o : Outcome) (stream : Stream) : Bytes := stream.pick (o.stdout, o.stderr)

/-- A status that is success in the end was so before the captures were in, and these had no
    failure. -/
lemma RunStatus.resolve_success {status : RunStatus} {out err : Option IoError}
    (h : status.resolve out err = .success) : status = .success ∧ out = none ∧ err = none := by
  cases status with
  | success =>
      cases out with
      | none =>
          cases err with
          | none => exact ⟨rfl, rfl, rfl⟩
          | some cause => cases h
      | some cause => cases h
  | executionError code signal => cases h
  | timedOut timeout =>
      cases out with
      | none => cases err <;> cases h
      | some cause => cases h
  | failed error => cases h

namespace Supervisor

open Capture

/-- A run that succeeds has seen the child exit, and reports captures without a failure. -/
lemma Course.success {limits : Limits} {script : String} {turns : List Turn} {outcome : Outcome}
    (h : Course limits script turns outcome) (success : outcome.status = .success) :
    ∃ deadline raw out err,
      ⟨.exitOrDeadline deadline, some (.ok raw)⟩ ∈ turns ∧ ⟨.collect, (out, err)⟩ ∈ turns ∧
      outcome.stdout = out.bytes ∧ outcome.stderr = err.bytes ∧
      out.failure = none ∧ err.failure = none := by
  cases h with
  | pathless began start now hpath => cases success
  | refused began start now cause hpath => cases success
  | @started path pid start deadline raced middle status began out err now hpath hdeadline between =>
      obtain ⟨hstatus, hout, herr⟩ := RunStatus.resolve_success success
      cases between with
      | exited waited wound =>
          cases waited with
          | error cause => cases hstatus
          | ok raw => exact ⟨deadline, raw, out, err, by simp, by simp, rfl, rfl, hout, herr⟩
      | overran expired =>
          subst hstatus
          cases expire_ends expired

/-- A run whose child has exited stops its drains only if they have not ended in time. -/
lemma Course.joined {limits : Limits} {script : String} {turns : List Turn} {outcome : Outcome}
    {deadline d : Instant} {waited : Except IoError Int32}
    (h : Course limits script turns outcome)
    (exited : ⟨.exitOrDeadline deadline, some waited⟩ ∈ turns)
    (joined : ⟨.joinUntil d, true⟩ ∈ turns) : ∀ turn ∈ turns, turn.request ≠ .stopDrains := by
  cases h with
  | pathless began start now hpath => simp at exited
  | refused began start now cause hpath => simp at exited
  | started began out err now hpath hdeadline between =>
      cases between with
      | exited waited wound =>
          cases windUp_ends wound with
          | joined => simp
          | killed hpid result => simp at joined
          | stopped hpid => simp at joined
      | overran expired => cases (Between.overran expired).race_unique exited |>.2

/-- **What a run that succeeds has captured and delivered.**  The script has exited.  What was
    captured of a stream is a first part of what was written to it, and what its destination has
    accepted a first part of what was captured.  Unless its drain was cut off, both are all that
    was written, which is what the script itself has written if it kept the stream to itself.  No
    drain is cut off if both have ended by the deadline. -/
theorem success_faithful {limits : Limits} {script : String} {s t : Scene}
    {exchanges : List (Exchange Scene)} {outcome : Outcome} (fresh : s.Fresh)
    (course : Dialogue Scene.Answers (run limits script) s exchanges (.done outcome) t)
    (success : outcome.status = .success) (stream : Stream) :
    t.exited = true ∧
      outcome.captured stream <+: (t.channels stream).bytes ∧
      (t.drains.lane stream).task.delivered <+: outcome.captured stream ∧
      ((t.drains.lane stream).task.phase ≠ .cutOff →
        outcome.captured stream = (t.channels stream).bytes ∧
          (t.drains.lane stream).task.delivered = (t.channels stream).bytes) ∧
      ((∀ entry ∈ (t.channels stream).written, entry.1 = .script) →
        (t.channels stream).bytes = (t.channels stream).scriptBytes) ∧
      ((∃ deadline, ⟨.joinUntil deadline, true⟩ ∈ Dialogue.turns exchanges) →
        (t.drains.lane stream).task.phase ≠ .cutOff) := by
  have taken := run_ends course.leaves
  obtain ⟨deadline, raw, out, err, hexit, hcollect, hout, herr, houtf, herrf⟩ :=
    taken.success success
  have sound := Scene.lasting_sound.dialogue course fresh.sound stream
  obtain ⟨result, hresult, hpick⟩ := Scene.collected course fresh.sound hcollect stream
  -- the drain has left its copy and no failure
  have hcaptured : outcome.captured stream = (stream.pick (out, err)).bytes := by
    cases stream with
    | stdout => exact hout
    | stderr => exact herr
  have hfailure : (stream.pick (out, err)).failure = none := by
    cases stream with
    | stdout => exact houtf
    | stderr => exact herrf
  have hleft : result = .drained (outcome.captured stream) none := by
    rw [hcaptured, hpick]
    rw [hpick] at hfailure
    cases result with
    | drained captured failure => exact congrArg _ hfailure
    | crashed => cases hfailure
  rw [hleft] at hresult
  obtain ⟨hcap, hdel, hall⟩ := sound.served hresult
  refine ⟨Scene.observed course hexit, hcap, hdel, hall, Channel.bytes_of_script, ?_⟩
  rintro ⟨d, hjoin⟩ hcut
  have untold : t.drains.stop = false :=
    Dialogue.preserves (I := fun u => u.drains.stop = false) course (fun turn hm answered hs => by
      rw [answered.stop (taken.joined hexit hjoin turn hm)]
      exact hs) fresh.stop
  rw [sound.told hcut] at untold
  cases untold

/-- A script writes two bytes, which are forwarded, and exits: all there is to forward has been. -/
theorem success_of_greeting :
    ∃ (s t : Scene) (exchanges : List (Exchange Scene)) (outcome : Outcome), s.Fresh ∧
      Dialogue Scene.Answers (run ⟨.ofSeconds 1, .ofMillis 200, true⟩ "./greet") s exchanges
        (.done outcome) t ∧
      outcome.status = .success ∧ (t.drains.lane .stdout).task.phase ≠ .cutOff ∧
      outcome.captured .stdout = [104, 105] ∧
      (t.drains.lane .stdout).task.delivered = (t.channels .stdout).scriptBytes := by
  have course : Dialogue Scene.Answers (run ⟨.ofSeconds 1, .ofMillis 200, true⟩ "./greet")
      (.opening .obliging .obliging) _ (.done _) _ :=
    .turn (.fit .refl (.wallClock _ ⟨0, 0⟩)) <|
    .turn (.fit .refl (.clock _)) <|
    .turn (.fit .refl (.launched 7 (by decide) (by decide) (by decide))) <|
    .turn (.fit
      (.head (.write .stdout .script [104, 105] rfl rfl fun _ => rfl) <|
        .head (.exit rfl) .refl)
      (.exited _ 0 rfl)) <|
    .turn (.fit
      (.head (.shut .stdout rfl) <| .head (.shut .stderr rfl) <|
        -- stdout: a read, its forward, the end, the flush
        .head (.drain .stdout rfl (.work (.data [104, 105] [] rfl (by decide) (by decide)))) <|
        .head (.drain .stdout rfl (.work (.notReady _))) <|
        .head (.drain .stdout rfl (.work (.closed rfl rfl))) <|
        .head (.drain .stdout rfl (.work (.notReady _))) <|
        -- stderr: the end, the flush
        .head (.drain .stderr rfl (.work (.closed rfl rfl))) <|
        .head (.drain .stderr rfl (.work (.notReady _))) .refl)
      (.join rfl fun h => Bool.noConfusion h)) <|
    .turn (.fit .refl (.collect rfl)) <|
    .turn (.fit .refl (.clock _)) <|
    .start _ _
  obtain ⟨-, -, -, hall, hscript, hjoined⟩ :=
    success_faithful (Scene.opening_fresh _ _) course rfl .stdout
  have hcut := hjoined ⟨_, .tail _ <| .tail _ <| .tail _ <| .tail _ <| .head _⟩
  have hdelivered := (hall hcut).2
  rw [hscript (by decide)] at hdelivered
  exact ⟨_, _, _, _, Scene.opening_fresh _ _, course, rfl, hcut, rfl, hdelivered⟩

/-- A run of `./greet` with a second of time, with destinations that behave like this, which ends
    in success. -/
def Succeeds (out err : Behaviour) (outcome : Outcome) (t : Scene) : Prop :=
  outcome.status = .success ∧ t.exited = true ∧
    ∃ exchanges, Dialogue Scene.Answers (run ⟨.ofSeconds 1, .ofMillis 200, true⟩ "./greet")
      (.opening out err) exchanges (.done outcome) t

/-- **Success does not mean that exactly the output of the script was captured and delivered.**
    A destination that takes nothing holds up its drain until the deadline, when it is cut off: of
    two bytes that the script has written, one is captured and none delivered.  And what another
    process writes into a stream that it has from the script is captured as well. -/
theorem success_not_exact :
    (∃ outcome t, Succeeds ⟨fun _ => .stall, fun _ => .stall, ""⟩ .obliging outcome t ∧
      (∀ entry ∈ (t.channels .stdout).written, entry.1 = .script) ∧
      (t.channels .stdout).scriptBytes = [104, 105] ∧ outcome.captured .stdout = [104] ∧
      (t.drains.lane .stdout).task.delivered = []) ∧
    ∃ outcome t, Succeeds .obliging .obliging outcome t ∧
      (t.channels .stdout).scriptBytes = [104] ∧ outcome.captured .stdout = [104, 105] := by
  constructor
  · have course : Dialogue Scene.Answers (run ⟨.ofSeconds 1, .ofMillis 200, true⟩ "./greet")
        (.opening ⟨fun _ => .stall, fun _ => .stall, ""⟩ .obliging) _ (.done _) _ :=
      .turn (.fit .refl (.wallClock _ ⟨0, 0⟩)) <|
      .turn (.fit .refl (.clock _)) <|
      .turn (.fit .refl (.launched 7 (by decide) (by decide) (by decide))) <|
      .turn (.fit
        (.head (.write .stdout .script [104] rfl rfl fun _ => rfl) <|
          .head (.drain .stdout rfl (.work (.data [104] [] rfl (by decide) (by decide)))) <|
          .head (.write .stdout .script [105] rfl rfl fun _ => rfl) <|
          .head (.drain .stdout rfl (.work (.notReady _))) <|
          .head (.exit rfl) .refl)
        (.exited _ 0 rfl)) <|
      .turn (.fit (.head (.pass ⟨1000000000⟩ (by decide)) .refl) (.join rfl fun _ => by decide)) <|
      .turn (.fit .refl (.signal _ 7 .kill (.ok ()))) <|
      .turn (.stopDrains
        (.head (.drain .stdout rfl (.heed rfl rfl)) <|
          .head (.drain .stderr rfl (.heed rfl rfl)) .refl) rfl) <|
      .turn (.fit .refl (.collect rfl)) <|
      .turn (.fit .refl (.clock _)) <|
      .start _ _
    exact ⟨_, _, ⟨rfl, rfl, _, course⟩, by decide, rfl, rfl, rfl⟩
  · have course : Dialogue Scene.Answers (run ⟨.ofSeconds 1, .ofMillis 200, true⟩ "./greet")
        (.opening .obliging .obliging) _ (.done _) _ :=
      .turn (.fit .refl (.wallClock _ ⟨0, 0⟩)) <|
      .turn (.fit .refl (.clock _)) <|
      .turn (.fit .refl (.launched 7 (by decide) (by decide) (by decide))) <|
      .turn (.fit
        (.head (.write .stdout .script [104] rfl rfl fun _ => rfl) <|
          .head (.exit rfl) <|
          .head (.write .stdout .heir [105] rfl rfl fun h => Writer.noConfusion h) .refl)
        (.exited _ 0 rfl)) <|
      .turn (.fit
        (.head (.shut .stdout rfl) <| .head (.shut .stderr rfl) <|
          .head (.drain .stdout rfl (.work (.data [104, 105] [] rfl (by decide) (by decide)))) <|
          .head (.drain .stdout rfl (.work (.notReady _))) <|
          .head (.drain .stdout rfl (.work (.closed rfl rfl))) <|
          .head (.drain .stdout rfl (.work (.notReady _))) <|
          .head (.drain .stderr rfl (.work (.closed rfl rfl))) <|
          .head (.drain .stderr rfl (.work (.notReady _))) .refl)
        (.join rfl fun h => Bool.noConfusion h)) <|
      .turn (.fit .refl (.collect rfl)) <|
      .turn (.fit .refl (.clock _)) <|
      .start _ _
    exact ⟨_, _, ⟨rfl, rfl, _, course⟩, rfl, rfl⟩

end Supervisor

end Curfew
