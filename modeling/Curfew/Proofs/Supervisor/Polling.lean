import Mathlib.Algebra.Order.Floor.Div
import Curfew.Proofs.Host.Time
import Curfew.Proofs.Supervisor.Overflow

/-!
# Polling a group

A group is polled in rounds.  Each round probes the group, looks at the clock, and pauses if there
is time left.  The pause is measured by a second look at the clock, which may have moved past the
deadline in between.

* **`Round`** — a round after which polling goes on.  It is determined by its two readings.
* **`LastRound`** — how far the last round has come, and what the polling has come to with it.
* `groupOutlives_rounds` — all that polling can do, in any surroundings: rounds that find time left,
  and a last one.
* `paced` — where time does not go back and pauses last, the checks of successive rounds lie an
  interval apart, hence only so many of them find time left.
* **`group_polled`** — polling comes to an end, after so many probes; and what it comes to.
-/

namespace Curfew.Supervisor

open Program

/-! ## Rounds -/

/-- A round of polling that has found the group alive and time left: the readings of the clock at
    the check and before the pause. -/
structure Round where
  checked : Instant
  again : Instant

namespace Round

/-- The pause that ends the round. -/
def rest (deadline : Instant) (x : Round) : Duration := pollInterval.min (deadline.since x.again)

def turns (group : Int) (deadline : Instant) (x : Round) : List Turn :=
  [⟨.probe group, .ok ()⟩, ⟨.clock, x.checked⟩, ⟨.clock, x.again⟩, ⟨.pause (x.rest deadline), ()⟩]

/-- A pause is no longer than an interval, and does not go past the deadline.  Once the deadline has
    passed there is nothing left to pause for. -/
lemma rest_eq (deadline : Instant) (x : Round) :
    ((x.rest deadline).nanos : Int) =
      min (pollInterval.nanos : Int) (max 0 (deadline.nanos - x.again.nanos)) := by
  change ((min pollInterval.nanos (deadline.nanos - x.again.nanos) : Nat) : Int) = _
  omega

end Round

/-- How far the last round of polling has come, and what the polling has come to with it: whether
    the group has outlived the time, or nothing yet. -/
inductive LastRound (group : Int) (deadline : Instant) : List Turn → Option Bool → Prop
  | due : LastRound group deadline [] none
  | alive : LastRound group deadline [⟨.probe group, .ok ()⟩] none
  | early {r : Instant} (early : r.reached deadline = false) :
      LastRound group deadline [⟨.probe group, .ok ()⟩, ⟨.clock, r⟩] none
  | timed {r now : Instant} (early : r.reached deadline = false) :
      LastRound group deadline [⟨.probe group, .ok ()⟩, ⟨.clock, r⟩, ⟨.clock, now⟩] none
  | gone (cause : Errno) : LastRound group deadline [⟨.probe group, .error cause⟩] (some false)
  | outlived {r : Instant} (reached : r.reached deadline = true) :
      LastRound group deadline [⟨.probe group, .ok ()⟩, ⟨.clock, r⟩] (some true)

/-- Polling has come so far by these turns: rounds that have found time left, and a last one. -/
def PolledSoFar (group : Int) (deadline : Instant) (turns : List Turn) (rounds : List Round)
    (found : Option Bool) : Prop :=
  ∃ last, turns = rounds.flatMap (Round.turns group deadline) ++ last ∧
    (∀ x ∈ rounds, x.checked.reached deadline = false) ∧ LastRound group deadline last found

variable {group : Int} {deadline : Instant}

/-- One round of polling, and what follows it if there is time left. -/
lemma pollOnce_rounds {turns : List Turn} {q : Program Bool} {next : Duration → Program Bool}
    (hnext : ∀ {span later q}, (next span).Leaves later q →
      ∃ rounds found, PolledSoFar group deadline later rounds found ∧
        ∀ outlived, q = .done outlived ↔ found = some outlived)
    (h : ((pollOnce group deadline).bind fun found =>
      match found with
      | .gone => done false
      | .outlived => done true
      | .timeLeft span => next span).Leaves turns q) :
    ∃ rounds found, PolledSoFar group deadline turns rounds found ∧
      ∀ outlived, q = .done outlived ↔ found = some outlived := by
  -- a run that stops within this round
  have within {last : List Turn} {found : Option Bool}
      (hlast : LastRound group deadline last found) :
      PolledSoFar group deadline last [] found :=
    ⟨last, rfl, fun x hx => absurd hx List.not_mem_nil, hlast⟩
  simp only [pollOnce, bind_eq, pure_eq, probe, clock, pause, request, Program.bind] at h
  rcases leaves_ask.mp h with ⟨rfl, rfl⟩ | ⟨result, later, rfl, h₁⟩
  · exact ⟨[], none, within .due, by simp⟩
  cases result with
  | error cause =>
      obtain ⟨rfl, rfl⟩ := leaves_done.mp h₁
      exact ⟨[], some false, within (.gone cause), by simp [eq_comm]⟩
  | ok _ =>
      rcases leaves_ask.mp h₁ with ⟨rfl, rfl⟩ | ⟨r, later, rfl, h₂⟩
      · exact ⟨[], none, within .alive, by simp⟩
      by_cases hr : r.reached deadline = true
      · simp only [if_pos hr] at h₂
        obtain ⟨rfl, rfl⟩ := leaves_done.mp h₂
        exact ⟨[], some true, within (.outlived hr), by simp [eq_comm]⟩
      · have early : r.reached deadline = false := by simpa using hr
        simp only [if_neg hr] at h₂
        rcases leaves_ask.mp h₂ with ⟨rfl, rfl⟩ | ⟨now, later, rfl, h₃⟩
        · exact ⟨[], none, within (.early early), by simp⟩
        rcases leaves_ask.mp h₃ with ⟨rfl, rfl⟩ | ⟨_, later, rfl, h₄⟩
        · exact ⟨[], none, within (.timed early), by simp⟩
        obtain ⟨rounds, found, ⟨last, rfl, hrounds, hlast⟩, hq⟩ := hnext h₄
        refine ⟨⟨r, now⟩ :: rounds, found, ⟨last, rfl, fun x hx => ?_, hlast⟩, hq⟩
        rcases List.mem_cons.mp hx with rfl | hx
        · exact early
        · exact hrounds x hx

/-- **All that polling can do**, whatever is answered: rounds that find the group alive and time
    left, and a last one. -/
theorem groupOutlives_rounds {turns : List Turn} {q : Program Bool}
    (h : (groupOutlives group deadline).Leaves turns q) :
    ∃ rounds found, PolledSoFar group deadline turns rounds found ∧
      ∀ outlived, q = .done outlived ↔ found = some outlived := by
  have further {fuel : Nat} {turns : List Turn} {q : Program Bool}
      (h : (pollOn group deadline fuel).Leaves turns q) :
      ∃ rounds found, PolledSoFar group deadline turns rounds found ∧
        ∀ outlived, q = .done outlived ↔ found = some outlived := by
    induction fuel generalizing turns q with
    | zero =>
        obtain ⟨rfl, rfl⟩ := leaves_crash.mp h
        exact ⟨[], none, ⟨[], rfl, fun x hx => absurd hx List.not_mem_nil, .due⟩, by simp⟩
    | succ fuel ih => exact pollOnce_rounds ih h
  exact pollOnce_rounds further h

/-! ## The clock -/

section Timekeeping

variable {τ α : Type} {answers : τ → Turn → τ → Prop} {now : τ → Instant}

/-- A round takes an interval, or all the time there is left. -/
lemma Round.paced (keeps : Timekeeping answers now) {x : Round} {p q : Program α} {s t : τ}
    {exchanges : List (Exchange τ)} {later : List Turn}
    (course : Dialogue answers p s exchanges q t)
    (hturns : Dialogue.turns exchanges = x.turns group deadline ++ later) :
    ∃ p₁ s₁ rest, Dialogue answers p₁ s₁ rest q t ∧ Dialogue.turns rest = later ∧
      (now s).nanos ≤ x.checked.nanos ∧
      min (x.checked.nanos + pollInterval.nanos) deadline.nanos ≤ (now s₁).nanos := by
  obtain ⟨_, s₁, _, probed, course, hturns⟩ := course.of_turns_cons hturns
  obtain ⟨_, s₂, _, checked, course, hturns⟩ := course.of_turns_cons hturns
  obtain ⟨_, s₃, _, again, course, hturns⟩ := course.of_turns_cons hturns
  obtain ⟨p₁, s₄, rest, slept, course, hturns⟩ := course.of_turns_cons hturns
  have hprobed := keeps.forward probed
  have hchecked := keeps.reading checked
  have hagain := keeps.reading again
  have hslept := keeps.slept slept
  change (now s₃).nanos + min pollInterval.nanos (deadline.nanos - x.again.nanos) ≤ _ at hslept
  exact ⟨p₁, s₄, rest, course, hturns, by omega, by omega⟩

/-- **Successive checks lie an interval apart**, as long as they find time left. -/
lemma paced (keeps : Timekeeping answers now) {x : Round} {rounds : List Round} {p q : Program α}
    {s t : τ} {exchanges : List (Exchange τ)} {last : List Turn}
    (course : Dialogue answers p s exchanges q t)
    (hturns : Dialogue.turns exchanges =
      (x :: rounds).flatMap (Round.turns group deadline) ++ last)
    (early : ∀ y ∈ x :: rounds, y.checked.reached deadline = false) :
    (now s).nanos ≤ x.checked.nanos ∧
      x.checked.nanos + rounds.length * pollInterval.nanos < deadline.nanos := by
  induction rounds generalizing x p s exchanges with
  | nil =>
      obtain ⟨-, -, -, -, -, hfirst, -⟩ := Round.paced keeps course (by simpa using hturns)
      have hx := early x List.mem_cons_self
      rw [Instant.reached, decide_eq_false_iff_not] at hx
      exact ⟨hfirst, by simpa using hx⟩
  | cons y rounds ih =>
      rw [List.flatMap_cons, List.append_assoc] at hturns
      obtain ⟨p₁, s₁, rest, course₁, hrest, hfirst, hlate⟩ := Round.paced keeps course hturns
      obtain ⟨hnext, hbound⟩ := ih course₁ hrest fun z hz => early z (List.mem_cons_of_mem _ hz)
      have hy := early y (by simp)
      rw [Instant.reached, decide_eq_false_iff_not] at hy
      rw [List.length_cons, Nat.succ_mul]
      exact ⟨hfirst, by omega⟩

end Timekeeping

/-! ## What polling comes to -/

/-- The number of probes. -/
def probes (group : Int) (turns : List Turn) : Nat :=
  turns.countP fun turn => turn.request = .probe group

namespace LastRound

variable {last : List Turn} {found : Option Bool}

lemma probes_le (h : LastRound group deadline last found) : probes group last ≤ 1 := by
  cases h <;> simp [probes]

lemma length_le (h : LastRound group deadline last found) :
    last.length ≤ 3 * probes group last := by
  cases h <;> simp [probes]

/-- A probe that fails is the last turn. -/
lemma gone_iff (h : LastRound group deadline last found) (cause : Errno) :
    ⟨.probe group, .error cause⟩ ∈ last ↔ last = [⟨.probe group, .error cause⟩] := by
  cases h with
  | gone other =>
      rw [List.mem_singleton]
      exact ⟨fun h => by rw [h], fun h => (List.cons.inj h).1.symm⟩
  | _ => simp

/-- The last turns of polling that has come to something. -/
lemma ended {outlived : Bool} (h : LastRound group deadline last (some outlived)) :
    (∃ answer later, last = ⟨.probe group, answer⟩ :: later) ∧
      (outlived = false ↔ ∃ cause, last = [⟨.probe group, .error cause⟩]) ∧
      (outlived = true ↔ ∃ r, r.reached deadline = true ∧
        last = [⟨.probe group, .ok ()⟩, ⟨.clock, r⟩]) := by
  cases h with
  | gone cause => exact ⟨⟨_, _, rfl⟩, by simp, by simp⟩
  | @outlived r reached => exact ⟨⟨_, _, rfl⟩, by simp, by simpa using reached⟩

end LastRound

namespace PolledSoFar

variable {turns : List Turn} {rounds : List Round} {found : Option Bool}

/-- Every round probes once. -/
lemma probes_rounds (rounds : List Round) :
    probes group (rounds.flatMap (Round.turns group deadline)) = rounds.length := by
  induction rounds with
  | nil => rfl
  | cons x rounds ih =>
      rw [probes] at ih ⊢
      rw [List.flatMap_cons, List.countP_append, ih, List.length_cons, Nat.add_comm]
      simp [Round.turns]

lemma probes_le (h : PolledSoFar group deadline turns rounds found) :
    probes group turns ≤ rounds.length + 1 := by
  obtain ⟨last, rfl, -, hlast⟩ := h
  have hrounds := @probes_rounds group deadline rounds
  have hle := hlast.probes_le
  rw [probes] at hrounds hle ⊢
  rw [List.countP_append, hrounds]
  omega

lemma length_le (h : PolledSoFar group deadline turns rounds found) :
    turns.length ≤ 4 * probes group turns := by
  obtain ⟨last, rfl, -, hlast⟩ := h
  have hlength : (rounds.flatMap (Round.turns group deadline)).length = 4 * rounds.length := by
    induction rounds with
    | nil => rfl
    | cons x rounds ih =>
        rw [List.flatMap_cons, List.length_append, ih, List.length_cons]
        simp only [Round.turns, List.length_cons, List.length_nil]
        omega
  have hrounds := @probes_rounds group deadline rounds
  have hle := hlast.length_le
  rw [probes] at hrounds hle ⊢
  rw [List.length_append, List.countP_append, hrounds, hlength]
  omega

/-- A round that finds time left has looked at the clock. -/
lemma first_reading {x : Round} (h : PolledSoFar group deadline turns (x :: rounds) found) :
    (readings turns).head? = some x.checked := by
  obtain ⟨last, rfl, -, -⟩ := h
  rfl

/-- A probe that fails is the last turn, and the first probe to fail. -/
lemma gone_iff (h : PolledSoFar group deadline turns rounds found) (cause : Errno) :
    ⟨.probe group, .error cause⟩ ∈ turns ↔
      turns = rounds.flatMap (Round.turns group deadline) ++ [⟨.probe group, .error cause⟩] := by
  obtain ⟨last, rfl, -, hlast⟩ := h
  have sound : ⟨.probe group, .error cause⟩ ∉ rounds.flatMap (Round.turns group deadline) := by
    intro hm
    obtain ⟨x, -, hx⟩ := List.mem_flatMap.mp hm
    simp [Round.turns] at hx
  rw [List.mem_append, or_iff_right sound, List.append_cancel_left_eq]
  exact hlast.gone_iff cause

end PolledSoFar

/-- **Polling a group** until a deadline, in surroundings where time does not go back and a pause
    lasts as long as it was asked to, whatever the probes find.

    It never gives up, and has at most four turns to a probe.  There is at most one probe for every
    interval begun between the first reading of the clock and the deadline, and one more.  It goes
    in rounds that find the group alive and time left, each with a pause that does not go past the
    deadline even if the clock has moved past it since the check.  The group is said to be gone
    exactly if a probe has failed, which is then the last turn; and to have outlived the deadline
    exactly if every probe has succeeded, up to the first one after which the clock has reached the
    deadline.

    Hence a machine that keeps time executes it to the end. -/
theorem group_polled (group : Int) (deadline : Instant) :
    (∀ {τ : Type} {answers : τ → Turn → τ → Prop} {now : τ → Instant}, Timekeeping answers now →
      ∀ s t exchanges q, Dialogue answers (groupOutlives group deadline) s exchanges q t →
        (∀ reason, q ≠ .crash reason) ∧
        exchanges.length ≤ 4 * probes group (Dialogue.turns exchanges) ∧
        (readings (Dialogue.turns exchanges) = [] → probes group (Dialogue.turns exchanges) ≤ 1) ∧
        (∀ first, (readings (Dialogue.turns exchanges)).head? = some first →
          probes group (Dialogue.turns exchanges) ≤
            (deadline.since first).nanos ⌈/⌉ (Duration.ofMillis 10).nanos + 1) ∧
        ∃ rounds found, PolledSoFar group deadline (Dialogue.turns exchanges) rounds found ∧
          (∀ x ∈ rounds, x.checked.reached deadline = false ∧
            ((x.rest deadline).nanos : Int) =
              min ((Duration.ofMillis 10).nanos : Int) (max 0 (deadline.nanos - x.again.nanos))) ∧
          ∀ outlived, q = .done outlived →
            (∃ answer later, Dialogue.turns exchanges = ⟨.probe group, answer⟩ :: later) ∧
            (outlived = false ↔ ∃ cause,
              ⟨.probe group, .error cause⟩ ∈ Dialogue.turns exchanges) ∧
            (∀ cause, ⟨.probe group, .error cause⟩ ∈ Dialogue.turns exchanges →
              Dialogue.turns exchanges =
                rounds.flatMap (Round.turns group deadline) ++ [⟨.probe group, .error cause⟩]) ∧
            (outlived = true ↔ ∃ r, r.reached deadline = true ∧ Dialogue.turns exchanges =
              rounds.flatMap (Round.turns group deadline) ++
                [⟨.probe group, .ok ()⟩, ⟨.clock, r⟩])) ∧
    ∀ {σ : Type} {m : Machine σ}, m.Timely → ∀ s : Session σ,
      ∃ outlived, (s.execute m (groupOutlives group deadline)).1 = .ok outlived := by
  refine ⟨fun {τ answers now} keeps s t exchanges q course => ?_, fun {σ m} timely s => ?_⟩
  · have sure := (groupOutlives_safe keeps group deadline s).sound course
    obtain ⟨rounds, found, polled, hfound⟩ := groupOutlives_rounds course.leaves
    have hprobes := polled.probes_le
    refine ⟨?_, ?_, fun hnone => ?_, fun first hfirst => ?_, rounds, found, polled, ?_, ?_⟩
    · rintro reason rfl
      exact sure
    · have hlength := polled.length_le
      rwa [Dialogue.turns, List.length_map] at hlength
    · cases rounds with
      | nil => exact hprobes
      | cons x rounds =>
          have hx := polled.first_reading
          rw [hnone] at hx
          cases hx
    · cases rounds with
      | nil => exact hprobes.trans (Nat.le_add_left 1 _)
      | cons x rounds =>
          obtain rfl : x.checked = first := Option.some.inj (polled.first_reading.symm.trans hfirst)
          obtain ⟨last, hturns, early, -⟩ := polled
          have hbound := (paced keeps course hturns early).2
          refine hprobes.trans (Nat.succ_le_succ (Nat.lt_of_not_le fun hle => ?_))
          rw [ceilDiv_le_iff_le_mul (by decide), Nat.mul_comm] at hle
          simp only [Instant.since, pollInterval] at hle hbound
          omega
    · obtain ⟨-, -, early, -⟩ := polled
      exact fun x hx => ⟨early x hx, x.rest_eq deadline⟩
    · intro outlived hq
      have hgone := polled.gone_iff
      obtain ⟨last, hturns, -, hlast⟩ := polled
      rw [(hfound outlived).mp hq] at hlast
      obtain ⟨hprobe, hfalse, htrue⟩ := hlast.ended
      refine ⟨?_, ?_, fun cause => (hgone cause).mp, ?_⟩
      · rw [hturns]
        cases rounds with
        | nil => exact hprobe
        | cons x rounds => exact ⟨_, _, rfl⟩
      · simp only [hfalse, hgone]
        rw [hturns]
        simp only [List.append_cancel_left_eq]
      · simp only [htrue, hturns, List.append_cancel_left_eq]
  · obtain ⟨exchanges, course⟩ := s.execute_dialogue m (groupOutlives group deadline)
    have sure := (groupOutlives_safe (Session.timekeeping timely) group deadline s).sound course
    cases hrun : (s.execute m (groupOutlives group deadline)).1 with
    | ok outlived => exact ⟨outlived, rfl⟩
    | error reason =>
        rw [hrun] at sure
        exact sure.elim

/-- A group that is probed twice, since the deadline passes between the check and the pause, for
    which nothing is left then; and a world in which it is polled to the end. -/
theorem probed_after_deadline :
    ∃ (s t : Scene) (exchanges : List (Exchange Scene)),
      Dialogue Scene.Answers (groupOutlives 7 ⟨20⟩) s exchanges (.done true) t ∧
      Dialogue.turns exchanges =
        [⟨.probe 7, .ok ()⟩, ⟨.clock, ⟨4⟩⟩, ⟨.clock, ⟨30⟩⟩, ⟨.pause ⟨0⟩, ()⟩,
          ⟨.probe 7, .ok ()⟩, ⟨.clock, ⟨30⟩⟩] ∧
      probes 7 (Dialogue.turns exchanges) ≤
        ((⟨20⟩ : Instant).since ⟨4⟩).nanos ⌈/⌉ (Duration.ofMillis 10).nanos + 1 ∧
      (∃ (rounds : List Round) (r : Instant), r.reached ⟨20⟩ = true ∧ Dialogue.turns exchanges =
        rounds.flatMap (Round.turns 7 ⟨20⟩) ++ [⟨.probe 7, .ok ()⟩, ⟨.clock, r⟩]) ∧
      ∀ s : Session Host.World,
        ∃ outlived, (s.execute Host.machine (groupOutlives 7 ⟨20⟩)).1 = .ok outlived := by
  let late : Scene := { Scene.opening .obliging .obliging with now := ⟨30⟩ }
  have round {next : Poll → Program Bool} {exchanges : List (Exchange Scene)}
      (rest : Dialogue Scene.Answers (next (.timeLeft ⟨16⟩)) late exchanges (.done true) late) :
      ∃ all, Dialogue Scene.Answers ((pollOnce 7 ⟨20⟩).bind next) (.opening .obliging .obliging) all
          (.done true) late ∧
        Dialogue.turns all = Round.turns 7 ⟨20⟩ ⟨⟨4⟩, ⟨30⟩⟩ ++ Dialogue.turns exchanges :=
    ⟨_, .turn (.fit .refl (.probe _ 7 (.ok ()))) <|
      .turn (.fit (.head (.pass ⟨4⟩ (by decide)) .refl) (.clock _)) <|
      .turn (.fit (.head (.pass ⟨30⟩ (by decide)) .refl) (.clock _)) <|
      .turn (.pause .refl (by decide)) rest, rfl⟩
  have last : Dialogue Scene.Answers (pollOn 7 ⟨20⟩ 1) late _ (.done true) late :=
    .turn (.fit .refl (.probe _ 7 (.ok ()))) <| .turn (.fit .refl (.clock _)) <| .start _ _
  obtain ⟨exchanges, course, hturns⟩ : ∃ exchanges,
      Dialogue Scene.Answers (groupOutlives 7 ⟨20⟩) (.opening .obliging .obliging) exchanges
        (.done true) late ∧ Dialogue.turns exchanges = _ := round last
  obtain ⟨polls, executes⟩ := group_polled 7 ⟨20⟩
  obtain ⟨-, -, -, bound, rounds, found, -, -, ended⟩ := polls Scene.timekeeping _ _ _ _ course
  obtain ⟨-, -, -, outlived⟩ := ended true rfl
  exact ⟨_, _, _, course, hturns, bound _ (by rw [hturns]; rfl), ⟨rounds, outlived.mp rfl⟩,
    executes Host.machine_timely⟩

end Curfew.Supervisor
