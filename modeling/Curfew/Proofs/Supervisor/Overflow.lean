import Curfew.Settings.Basic
import Curfew.Proofs.Supervisor.Execution

/-!
# Instants out of range

A supervised run adds a span to an instant in three places, and crashes where the sum is out of
range.  It also gives up polling a group if the clock does not move on over its pauses.

* **`Timekeeping`** — surroundings in which time does not go back and a pause lasts as long as it
  was asked to.  Scenes are such surroundings (`Scene.timekeeping`), and so are sessions on a
  timely machine (`Session.timekeeping`).
* **`Program.Sure`** — a program that does not crash.  `pollOn_sure` counts the rounds of polling:
  each of them takes an interval off the time that is left.
* **`overflow_only_at_launch`** — for all settings the grace period fits, and the only crash is
  that of a budget that does not fit, right after the launch.
-/

namespace Curfew

/-! ## Sums -/

namespace Instant

/-- In the first half of the range of instants. -/
def Early (t : Instant) : Prop := t.nanos < limit / 2 * nanosPerSecond

instance (t : Instant) : Decidable t.Early :=
  inferInstanceAs (Decidable (t.nanos < limit / 2 * nanosPerSecond))

lemma add?_eq_none {t : Instant} {d : Duration} :
    t.add? d = none ↔ limit * nanosPerSecond ≤ t.nanos + d.nanos := by
  simp only [add?]
  split <;> simp_all

lemma add?_of_lt {t : Instant} {d : Duration} (h : t.nanos + d.nanos < limit * nanosPerSecond) :
    t.add? d = some ⟨t.nanos + d.nanos⟩ := if_pos h

end Instant

namespace Limits

/-- Every grace period fits behind an early instant. -/
lemma grace_fits (s : Settings) {t : Instant} (h : t.Early) :
    ∃ sum, t.add? (ofSettings s).killGrace = some sum := by
  have hmillis : s.killGraceMillis.toNat < 18446744073709551616 := s.killGraceMillis.toNat_lt
  refine ⟨_, Instant.add?_of_lt ?_⟩
  simp only [ofSettings, Duration.ofMillis, Instant.Early, Instant.limit, nanosPerMilli,
    nanosPerSecond] at h ⊢
  omega

/-- So does a budget of at most half of the range. -/
lemma timeout_fits (s : Settings) (hs : s.timeoutSecs.toInt ≤ 4611686018427387904) {t : Instant}
    (h : t.Early) : ∃ sum, t.add? (ofSettings s).timeout = some sum := by
  have hseconds : s.timeoutSecs.toNatClampNeg ≤ 4611686018427387904 := by
    rw [← Int64.toNat_toInt]
    omega
  refine ⟨_, Instant.add?_of_lt ?_⟩
  simp only [ofSettings, Settings.effectiveTimeout, Settings.defaultTimeout, Duration.ofSeconds,
    Instant.Early, Instant.limit, nanosPerSecond] at h ⊢
  split
  · simp only
    omega
  · simp only
    omega

end Limits

namespace Supervisor

open Program
open Capture (Behaviour)

/-! ## Programs that do not crash -/

section Sure

variable {τ α β : Type} {answers : τ → Turn → τ → Prop}

/-- However the requests of a program are answered in these surroundings, it does not crash, and
    if it ends, its result and what the surroundings are then satisfy `Q`. -/
def Program.Sure (answers : τ → Turn → τ → Prop) (Q : α → τ → Prop) : Program α → τ → Prop
  | .done x, s => Q x s
  | .crash _, _ => False
  | .ask r next, s => ∀ a s', answers s ⟨r, a⟩ s' → Program.Sure answers Q (next a) s'

namespace Program.Sure

variable {Q : β → τ → Prop} {s : τ}

/-- What is left of a program that does not crash does not crash. -/
theorem sound {p q : Program β} {t : τ} {exchanges : List (Exchange τ)} (h : p.Sure answers Q s)
    (d : Dialogue answers p s exchanges q t) : q.Sure answers Q t := by
  induction d with
  | start p s => exact h
  | turn answered rest ih => exact ih (h _ _ answered)

/-- The rule for one program after another. -/
theorem bind {R : α → τ → Prop} {p : Program α} {f : α → Program β} (hp : p.Sure answers R s)
    (hf : ∀ x t, R x t → (f x).Sure answers Q t) : (p.bind f).Sure answers Q s := by
  induction p generalizing s with
  | done x => exact hf x s hp
  | crash reason => exact hp.elim
  | ask r next ih => exact fun a s' ha => ih a (hp a s' ha)

theorem request {r : Request} {f : r.Answer → Program β}
    (h : ∀ a s', answers s ⟨r, a⟩ s' → (f a).Sure answers Q s') :
    ((Program.request r).bind f).Sure answers Q s := h

/-- An instant that is in range is found. -/
theorem later {t : Instant} {d : Duration} {f : Instant → Program β}
    (fits : ∃ sum, t.add? d = some sum) (h : ∀ sum, (f sum).Sure answers Q s) :
    ((Program.later t d).bind f).Sure answers Q s := by
  obtain ⟨sum, hsum⟩ := fits
  rw [Program.later, hsum]
  exact h sum

end Program.Sure

/-- A program that has crashed takes part in nothing. -/
lemma Dialogue.of_crash {reason : Crash} {q : Program α} {s t : τ}
    {exchanges : List (Exchange τ)} (h : Dialogue answers (.crash reason) s exchanges q t) :
    exchanges = [] ∧ q = .crash reason := by
  cases h
  exact ⟨rfl, rfl⟩

end Sure

/-! ## Time in the surroundings -/

/-- Surroundings in which time does not go back, and a pause lasts. -/
structure Timekeeping {τ : Type} (answers : τ → Turn → τ → Prop) (now : τ → Instant) : Prop where
  forward : ∀ {s t turn}, answers s turn t → (now s).nanos ≤ (now t).nanos
  reading : ∀ {s t r}, answers s ⟨.clock, r⟩ t → (now s).nanos ≤ r.nanos ∧ r.nanos ≤ (now t).nanos
  slept : ∀ {s t span}, answers s ⟨.pause span, ()⟩ t →
    (now s).nanos + span.nanos ≤ (now t).nanos

lemma Scene.timekeeping : Timekeeping Scene.Answers Scene.now where
  forward := Scene.surroundings.forward
  reading := Scene.surroundings.reading
  slept := by
    intro s t span h
    cases h with
    | fit meanwhile fits => cases fits
    | pause meanwhile slept => exact slept

/-- Waiting for nothing comes to nothing. -/
lemma Session.awaitFor_idle {σ : Type} (m : Machine σ) (deadline : Instant) (fuel : Nat)
    (s : Session σ) :
    (awaitFor m deadline (fun s : Session σ => ((none : Option Unit), s)) fuel s).1 = none := by
  induction fuel generalizing s with
  | zero => rfl
  | succ fuel ih =>
      rw [awaitFor]
      dsimp only
      split
      · rfl
      · exact ih _

lemma Session.timekeeping {σ : Type} {m : Machine σ} (timely : m.Timely) :
    Timekeeping (Session.Answers m) fun s => m.clock s.world where
  forward := by
    intro s t turn h
    have later := answer_later timely s turn.request
    rw [h] at later
    exact later.forward
  reading := by
    intro s t r h
    cases h
    exact ⟨Nat.le_refl _, Nat.le_refl _⟩
  slept := by
    intro s t span h
    have idled : (s.await m (s.fromNow m span) fun s => ((none : Option Unit), s)).2 = t :=
      congrArg Prod.snd h
    have late := await_late timely (fun s => .refl s.world) (awaitFor_idle m (s.fromNow m span) _ s)
    rw [← idled]
    rw [Instant.reached, decide_eq_true_eq] at late
    exact late

section Timekeeping

variable {τ α : Type} {answers : τ → Turn → τ → Prop} {now : τ → Instant}

/-- A program that does not crash, whenever it starts. -/
def Program.Safe (answers : τ → Turn → τ → Prop) (p : Program α) : Prop :=
  ∀ s, p.Sure answers (fun _ _ => True) s

/-! ### Polling -/

/-- A round of polling that finds time left has taken an interval off it. -/
lemma pollOnce_sure (keeps : Timekeeping answers now) (group : Int) (deadline : Instant) (s : τ) :
    (pollOnce group deadline).Sure answers (fun found t => ∀ span, found = .timeLeft span →
      ∃ r : Instant, (now s).nanos ≤ r.nanos ∧ r.nanos < deadline.nanos ∧
        span = deadline.since r ∧
        min (r.nanos + pollInterval.nanos) deadline.nanos ≤ (now t).nanos) s := by
  simp only [pollOnce, bind_eq, pure_eq]
  refine .request fun result s₁ h₁ => ?_
  cases result with
  | error cause => exact fun _ h => by cases h
  | ok _ =>
      refine .request fun r s₂ h₂ => ?_
      by_cases hreached : r.reached deadline = true
      · rw [if_pos hreached]
        exact fun _ h => by cases h
      · rw [if_neg hreached]
        refine .request fun again s₃ h₃ => .request fun _ s₄ h₄ => ?_
        intro span hspan
        cases hspan
        rw [Instant.reached, decide_eq_true_eq] at hreached
        have hr := keeps.reading h₂
        have hagain := keeps.reading h₃
        have hslept := keeps.slept h₄
        have hfirst := keeps.forward h₁
        change (now s₃).nanos + min pollInterval.nanos (deadline.nanos - again.nanos) ≤ _ at hslept
        exact ⟨r, by omega, by omega, rfl, by omega⟩

/-- **Polling has rounds enough**: each of them takes an interval off the time that is left. -/
lemma pollOn_sure (keeps : Timekeeping answers now) (group : Int) (deadline : Instant)
    {fuel : Nat} (pos : 0 < fuel) {s : τ}
    (enough : deadline.nanos + pollInterval.nanos ≤ (now s).nanos + fuel * pollInterval.nanos) :
    (pollOn group deadline fuel).Sure answers (fun _ _ => True) s := by
  induction fuel generalizing s with
  | zero => exact absurd pos (Nat.lt_irrefl 0)
  | succ fuel ih =>
      simp only [pollOn, bind_eq, pure_eq]
      refine .bind (pollOnce_sure keeps group deadline s) fun found t hfound => ?_
      cases found with
      | gone => trivial
      | outlived => trivial
      | timeLeft span =>
          obtain ⟨r, hs, hr, -, ht⟩ := hfound span rfl
          rw [Nat.succ_mul] at enough
          -- with no round left, the time would have been up
          have more : 0 < fuel := by
            rcases Nat.eq_zero_or_pos fuel with rfl | h
            · omega
            · exact h
          obtain ⟨rounds, rfl⟩ : ∃ n, fuel = n + 1 := ⟨fuel - 1, by omega⟩
          refine ih more ?_
          rw [Nat.succ_mul] at enough ⊢
          omega

lemma groupOutlives_safe (keeps : Timekeeping answers now) (group : Int) (deadline : Instant) :
    (groupOutlives group deadline).Safe answers := by
  intro s
  simp only [groupOutlives, bind_eq, pure_eq]
  refine .bind (pollOnce_sure keeps group deadline s) fun found t hfound => ?_
  cases found with
  | gone => trivial
  | outlived => trivial
  | timeLeft span =>
      obtain ⟨r, -, hr, rfl, ht⟩ := hfound span rfl
      have hpos : 0 < pollInterval.nanos := by decide
      have hspan : (deadline.since r).nanos = deadline.nanos - r.nanos := rfl
      -- the number of rounds is that of the intervals begun
      have hrounds : (deadline.since r).nanos ≤ roundsWithin (deadline.since r) * pollInterval.nanos := by
        have h := Nat.div_add_mod ((deadline.since r).nanos + (pollInterval.nanos - 1))
          pollInterval.nanos
        have hmod := Nat.mod_lt ((deadline.since r).nanos + (pollInterval.nanos - 1)) hpos
        rw [Nat.mul_comm] at h
        simp only [roundsWithin]
        omega
      have more : 0 < roundsWithin (deadline.since r) := by
        rcases Nat.eq_zero_or_pos (roundsWithin (deadline.since r)) with h | h
        · rw [h] at hrounds
          omega
        · exact h
      obtain ⟨rounds, hsucc⟩ : ∃ n, roundsWithin (deadline.since r) = n + 1 :=
        ⟨roundsWithin (deadline.since r) - 1, by omega⟩
      refine pollOn_sure keeps group deadline more ?_
      rw [hsucc, Nat.succ_mul] at hrounds ⊢
      omega

/-! ### Whole runs -/

namespace Program.Safe

variable {β : Type}

lemma bind {p : Program α} {f : α → Program β} (hp : p.Safe answers)
    (hf : ∀ x, (f x).Safe answers) : (p.bind f).Safe answers :=
  fun s => .bind (hp s) fun x t _ => hf x t

lemma request {r : Request} {f : r.Answer → Program β} (hf : ∀ a, (f a).Safe answers) :
    ((Program.request r).bind f).Safe answers := fun _ a t _ => hf a t

/-- The instant a span after a reading of the clock, if that is in range. -/
lemma clockLater {d : Duration} {f : Instant → Program β}
    (fits : ∀ {s t r}, answers s ⟨.clock, r⟩ t → ∃ sum, r.add? d = some sum)
    (hf : ∀ sum, (f sum).Safe answers) :
    (clock.bind fun now => (Program.later now d).bind f).Safe answers :=
  fun _ _ t h => .later (fits h) fun sum => hf sum t

end Program.Safe

lemma killGroup_safe (pid : Nat) : (killGroup pid).Safe answers := by
  simp only [killGroup, bind_eq, pure_eq]
  refine .request fun group => ?_
  cases group with
  | error cause => exact fun _ => trivial
  | ok group =>
      refine .request fun own => ?_
      split
      · exact fun _ => trivial
      · refine .request fun result => ?_
        cases result <;> exact fun _ => trivial

lemma windUp_safe (pid : Option Nat) (deadline : Instant) : (windUp pid deadline).Safe answers := by
  simp only [windUp, bind_eq, pure_eq]
  refine .request fun joined => ?_
  cases joined with
  | true => exact fun _ => trivial
  | false =>
      cases pid with
      | none => exact fun _ _ _ _ => trivial
      | some child => exact .request fun _ _ _ _ _ => trivial

lemma conclude_safe (status : RunStatus) (pid : Option Nat) (began : Timestamp) (start : Instant) :
    (conclude status pid began start).Safe answers := by
  simp only [conclude, bind_eq, pure_eq]
  exact .request fun both => .request fun now _ => trivial

lemma notLaunched_safe (path : Bytes) (cause : IoError) (began : Timestamp) (start : Instant) :
    (notLaunched path cause began start).Safe answers := by
  simp only [notLaunched, bind_eq, pure_eq]
  exact .request fun now _ => trivial

section Grace

variable {limits : Limits}

lemma timeOut_safe (keeps : Timekeeping answers now)
    (fits : ∀ {s t r}, answers s ⟨.clock, r⟩ t → ∃ sum, r.add? limits.killGrace = some sum)
    (group : Int) : (timeOut limits group).Safe answers := by
  have drained : (awaitDrains limits).Safe answers := by
    simp only [awaitDrains, bind_eq, pure_eq]
    refine .clockLater fits fun drainEnd => .request fun joined => ?_
    cases joined with
    | true => exact fun _ => trivial
    | false => exact .request fun _ _ => trivial
  simp only [timeOut, bind_eq]
  refine .clockLater fits fun graceEnd => .request fun _ => ?_
  split
  · refine .bind (groupOutlives_safe keeps group graceEnd) fun outlived => ?_
    split
    · exact .request fun _ => .request fun _ => drained
    · exact drained
  · exact drained

/-- What follows a deadline does not crash. -/
lemma expire_safe (keeps : Timekeeping answers now)
    (fits : ∀ {s t r}, answers s ⟨.clock, r⟩ t → ∃ sum, r.add? limits.killGrace = some sum)
    (pid : Option Nat) : (expire limits pid).Safe answers := by
  cases pid with
  | none => exact fun _ => trivial
  | some child =>
      rw [expire_some]
      refine .bind (killGroup_safe child) fun verdict => ?_
      cases verdict with
      | error failure => exact .request fun _ => .request fun _ _ => trivial
      | ok group => exact timeOut_safe keeps fits group

/-- **A run that crashes** crashes right after the launch, because its deadline is out of range. -/
theorem run_crash (keeps : Timekeeping answers now)
    (fits : ∀ {s t r}, answers s ⟨.clock, r⟩ t → ∃ sum, r.add? limits.killGrace = some sum)
    {script : String} {reason : Crash} {s t : τ} {exchanges : List (Exchange τ)}
    (course : Dialogue answers (run limits script) s exchanges (.crash reason) t) :
    reason = .instantOverflow ∧ ∃ began start path pid,
      Dialogue.turns exchanges =
        [⟨.wallClock, began⟩, ⟨.clock, start⟩, ⟨.launch path, .ok pid⟩] ∧
      start.add? limits.timeout = none := by
  -- what does not crash is not left crashed
  have safe {p : Program Outcome} {u : τ} {later : List (Exchange τ)} (hp : p.Safe answers)
      (rest : Dialogue answers p u later (.crash reason) t) : False := (hp u).sound rest
  simp only [run, bind_eq] at course
  rcases course.of_request with rfl | ⟨began, s₁, later, -, rfl, rest₁⟩
  · cases course
  rcases rest₁.of_request with rfl | ⟨start, s₂, later, -, rfl, rest₂⟩
  · cases rest₁
  cases hpath : Script.normalize script with
  | none =>
      simp only [hpath] at rest₂
      exact (safe (notLaunched_safe _ _ _ _) rest₂).elim
  | some path =>
      simp only [hpath] at rest₂
      rcases rest₂.of_request with rfl | ⟨launched, s₃, later, -, rfl, rest₃⟩
      · cases rest₂
      cases launched with
      | error cause => exact (safe (notLaunched_safe _ _ _ _) rest₃).elim
      | ok pid =>
          cases hdeadline : start.add? limits.timeout with
          | none =>
              simp only [Program.later, hdeadline] at rest₃
              obtain ⟨rfl, hcrash⟩ := rest₃.of_crash
              cases hcrash
              exact ⟨rfl, began, start, path, pid, rfl, hdeadline⟩
          | some deadline =>
              simp only [Program.later, hdeadline] at rest₃
              refine (safe (.request fun raced => ?_) rest₃).elim
              cases raced with
              | some waited =>
                  exact .bind (windUp_safe pid deadline) fun _ => conclude_safe _ _ _ _
              | none =>
                  exact .bind (expire_safe keeps fits pid) fun _ => conclude_safe _ _ _ _

end Grace

end Timekeeping

/-! ## All settings -/

/-- A reading in an exchange is a reading of the dialogue. -/
lemma mem_readings {τ : Type} {exchanges : List (Exchange τ)} {e : Exchange τ} {r : Instant}
    (he : e ∈ exchanges) (hr : r ∈ readings [e.turn]) :
    r ∈ readings (Dialogue.turns exchanges) := by
  obtain ⟨turn, hturn, hreading⟩ := List.mem_filterMap.mp hr
  rw [List.mem_singleton.mp hturn] at hreading
  exact List.mem_filterMap.mpr ⟨e.turn, List.mem_map_of_mem he, hreading⟩

/-- The launch was the last that a run did: after it, a child was left to itself. -/
def Abandons (limits : Limits) (turns : List Turn) : Prop :=
  ∃ began start path pid,
    turns = [⟨.wallClock, began⟩, ⟨.clock, start⟩, ⟨.launch path, .ok pid⟩] ∧
    Instant.limit * nanosPerSecond ≤ start.nanos + limits.timeout.nanos

/-- A run that has abandoned its child does nothing more. -/
lemma Abandons.last {limits : Limits} {script : String} {turns later : List Turn}
    {p : Program Outcome} (h : Abandons limits turns)
    (course : (run limits script).Leaves (turns ++ later) p) :
    later = [] ∧ p = .crash .instantOverflow := by
  obtain ⟨began, start, path, pid, rfl, hoverflow⟩ := h
  simp only [run, bind_eq] at course
  obtain hnil | ⟨_, _, h₁, rest₁⟩ := leaves_request course
  · cases hnil
  cases h₁
  obtain hnil | ⟨_, _, h₂, rest₂⟩ := leaves_request rest₁
  · cases hnil
  cases h₂
  cases hpath : Script.normalize script with
  | none =>
      simp only [hpath] at rest₂
      obtain hnil | ⟨_, _, h₃, -⟩ := leaves_request rest₂
      · cases hnil
      · cases h₃
  | some path =>
      simp only [hpath] at rest₂
      obtain hnil | ⟨_, _, h₃, rest₃⟩ := leaves_request rest₂
      · cases hnil
      cases h₃
      simp only [Program.later, Instant.add?_eq_none.mpr hoverflow] at rest₃
      exact leaves_crash.mp rest₃

/-- **A script that was launched is abandoned only at the launch, and only over a budget that does
    not fit behind the first reading of the clock.**  For all settings, as long as the clock is in
    the first half of its range:

    * the ends of the grace period are in range, and the deadline is if the budget takes up at most
      half of the range;
    * no run crashes but for a deadline out of range, right after the launch; and then it does;
    * a run that is executed comes to an outcome, with that exception. -/
theorem overflow_only_at_launch (settings : Settings) (script : String) :
    (∀ reading : Instant, reading.Early →
      (∃ sum, reading.add? (Limits.ofSettings settings).killGrace = some sum) ∧
      (reading.add? (Limits.ofSettings settings).timeout = none ↔
        Instant.limit * nanosPerSecond ≤
          reading.nanos + (Limits.ofSettings settings).timeout.nanos) ∧
      (settings.timeoutSecs.toInt ≤ 4611686018427387904 →
        ∃ sum, reading.add? (Limits.ofSettings settings).timeout = some sum)) ∧
    (∀ {τ : Type} {answers : τ → Turn → τ → Prop} {now : τ → Instant}, Timekeeping answers now →
      ∀ s t exchanges reason,
        Dialogue answers (run (Limits.ofSettings settings) script) s exchanges (.crash reason) t →
        (∀ reading ∈ readings (Dialogue.turns exchanges), reading.Early) →
        reason = .instantOverflow ∧
          Abandons (Limits.ofSettings settings) (Dialogue.turns exchanges)) ∧
    (∀ turns, Abandons (Limits.ofSettings settings) turns → ∀ later p,
      (run (Limits.ofSettings settings) script).Leaves (turns ++ later) p →
      later = [] ∧ p = .crash .instantOverflow) ∧
    (∀ {σ : Type} {m : Machine σ}, m.Timely → ∀ s,
      (∃ outcome, (s.execute m (run (Limits.ofSettings settings) script)).1 = .ok outcome) ∨
      ∃ exchanges reason t,
        s.execute m (run (Limits.ofSettings settings) script) = (.error reason, t) ∧
        Dialogue (Session.Answers m) (run (Limits.ofSettings settings) script) s exchanges
          (.crash reason) t ∧
        ((∀ reading ∈ readings (Dialogue.turns exchanges), reading.Early) →
          reason = .instantOverflow ∧
            Abandons (Limits.ofSettings settings) (Dialogue.turns exchanges))) := by
  have crashed {τ : Type} {answers : τ → Turn → τ → Prop} {now : τ → Instant}
      (keeps : Timekeeping answers now) {s t : τ} {exchanges : List (Exchange τ)} {reason : Crash}
      (course : Dialogue answers (run (Limits.ofSettings settings) script) s exchanges
        (.crash reason) t)
      (early : ∀ reading ∈ readings (Dialogue.turns exchanges), reading.Early) :
      reason = .instantOverflow ∧
        Abandons (Limits.ofSettings settings) (Dialogue.turns exchanges) := by
    -- the same dialogue, in surroundings whose clock only shows early instants
    have narrowed : Dialogue (fun s turn t => answers s turn t ∧ ∀ r ∈ readings [turn], r.Early)
        (run (Limits.ofSettings settings) script) s exchanges (.crash reason) t :=
      course.mono fun e he h => ⟨h, fun r hr => early r (mem_readings he hr)⟩
    have keeps' : Timekeeping
        (fun s turn t => answers s turn t ∧ ∀ r ∈ readings [turn], r.Early) now :=
      ⟨fun h => keeps.forward h.1, fun h => keeps.reading h.1, fun h => keeps.slept h.1⟩
    obtain ⟨hreason, began, start, path, pid, hturns, hdeadline⟩ :=
      run_crash keeps' (fun h => Limits.grace_fits settings (h.2 _ List.mem_cons_self)) narrowed
    exact ⟨hreason, began, start, path, pid, hturns, Instant.add?_eq_none.mp hdeadline⟩
  refine ⟨fun reading early => ⟨Limits.grace_fits settings early, Instant.add?_eq_none,
    fun half => Limits.timeout_fits settings half early⟩,
    fun keeps s t exchanges reason course early => crashed keeps course early,
    fun turns abandons later p course => abandons.last course, fun {σ m} timely s => ?_⟩
  obtain ⟨exchanges, course⟩ := s.execute_dialogue m (run (Limits.ofSettings settings) script)
  rcases hrun : s.execute m (run (Limits.ofSettings settings) script) with ⟨reason | outcome, t⟩
  · rw [hrun] at course
    exact .inr ⟨exchanges, reason, t, rfl, course,
      fun early => crashed (Session.timekeeping timely) course early⟩
  · exact .inl ⟨outcome, rfl⟩

/-- With the longest budget there is, and a clock that has run for a second, a script is launched
    and abandoned while it runs, although its grace period would be in range. -/
theorem launched_and_abandoned :
    ∃ (s t : Scene) (exchanges : List (Exchange Scene)), s.Fresh ∧
      Dialogue Scene.Answers (run (Limits.ofSettings ⟨9223372036854775807, 200, true⟩) "./greet") s
        exchanges (.crash .instantOverflow) t ∧
      (∀ reading ∈ readings (Dialogue.turns exchanges), reading.Early) ∧
      t.child = some 7 ∧ t.exited = false ∧
      Abandons (Limits.ofSettings ⟨9223372036854775807, 200, true⟩) (Dialogue.turns exchanges) ∧
      ∃ sum, Instant.add? ⟨1000000000⟩
        (Limits.ofSettings ⟨9223372036854775807, 200, true⟩).killGrace = some sum := by
  have course : Dialogue Scene.Answers
      (run (Limits.ofSettings ⟨9223372036854775807, 200, true⟩) "./greet")
      (.opening .obliging .obliging) _ (.crash .instantOverflow) _ :=
    .turn (.fit .refl (.wallClock _ ⟨0, 0⟩)) <|
    .turn (.fit (.head (.pass ⟨1000000000⟩ (by decide)) .refl) (.clock _)) <|
    .turn (.fit .refl (.launched 7 (by decide) (by decide) (by decide))) <|
    .start _ _
  have early : ∀ reading ∈ [(⟨1000000000⟩ : Instant)], reading.Early := by decide
  obtain ⟨sums, crashes, -⟩ :=
    overflow_only_at_launch ⟨9223372036854775807, 200, true⟩ "./greet"
  exact ⟨_, _, _, Scene.opening_fresh _ _, course, early, rfl, rfl,
    (crashes Scene.timekeeping _ _ _ _ course early).2, (sums _ (by decide)).1⟩

end Supervisor

end Curfew
