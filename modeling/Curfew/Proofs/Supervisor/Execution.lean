import Curfew.Supervisor.Session
import Curfew.Proofs.Capture.Custody
import Curfew.Proofs.Supervisor.Restraint

/-!
# Programs that are executed

A dialogue leaves the answers open.  A session on a machine computes them.  This file says that
what is executed is a dialogue, so that what holds of every dialogue holds of it.

* **`execute_dialogue`** — executing a program is one of its dialogues.
* **`execute_course`** — a supervised run that is executed takes one of the courses of a run.
* **`Machine.Timely`** — the machine's clock does not go back, and moves on from event to event.
* **`Session.surroundings`** — sessions on such a machine are surroundings that keep time.  What
  `Surroundings` demands of deadlines is proved here of the waiting that a session does
  (`await_late`), so that what is executed is restrained (`execute_restrained`).
-/

namespace Curfew.Supervisor

open Program
open Capture (Drain Drains Lane ReadReply)

variable {σ α : Type}

/-! ## Execution as a dialogue -/

/-- The program that is left of one with this result. -/
def Program.ofResult : Except Crash α → Program α
  | .ok x => .done x
  | .error reason => .crash reason

namespace Session

/-- The turns in which a session on a machine takes part. -/
def Answers (m : Machine σ) (s : Session σ) (turn : Turn) (t : Session σ) : Prop :=
  s.answer m turn.request = (turn.answer, t)

/-- **Executing a program is one of its dialogues**, up to its result or its crash. -/
theorem execute_dialogue (m : Machine σ) (p : Program α) (s : Session σ) :
    ∃ exchanges, Dialogue (Answers m) p s exchanges (.ofResult (s.execute m p).1)
      (s.execute m p).2 := by
  induction p generalizing s with
  | done result => exact ⟨[], .start _ _⟩
  | crash reason => exact ⟨[], .start _ _⟩
  | ask r next ih =>
      rcases hanswer : s.answer m r with ⟨a, t⟩
      obtain ⟨exchanges, rest⟩ := ih a t
      have step : s.execute m (.ask r next) = t.execute m (next a) := by
        rw [execute, hanswer]
      rw [step]
      exact ⟨_, .turn hanswer rest⟩

/-- **A supervised run that is executed** takes one of the courses of a run. -/
theorem execute_course {m : Machine σ} {limits : Limits} {script : String} {s t : Session σ}
    {outcome : Outcome} (h : s.execute m (run limits script) = (.ok outcome, t)) :
    ∃ exchanges, Dialogue (Answers m) (run limits script) s exchanges (.done outcome) t ∧
      Course limits script (Dialogue.turns exchanges) outcome := by
  obtain ⟨exchanges, course⟩ := s.execute_dialogue m (run limits script)
  rw [h] at course
  exact ⟨exchanges, course, run_ends course.leaves⟩

end Session

/-! ## Time on a machine -/

namespace Machine

/-- `w'` is not before `w`, and its supervisor is in the same group. -/
structure Later (m : Machine σ) (w w' : σ) : Prop where
  forward : (m.clock w).nanos ≤ (m.clock w').nanos
  settled : m.ownGroup w' = m.ownGroup w

/-- A machine on which time does not go back, and which moves on as long as a deadline has not
    come. -/
structure Timely (m : Machine σ) : Prop where
  launch : ∀ path w, m.Later w (m.launch path w).2
  reap : ∀ pid w, m.Later w (m.reap pid w).2
  signal : ∀ group s w, m.Later w (m.signal group s w).2
  killProcess : ∀ pid w, m.Later w (m.killProcess pid w)
  read : ∀ stream w, m.Later w (m.read stream w).2
  hangUp : ∀ stream w, m.Later w (m.hangUp stream w)
  proceed : ∀ deadline w, m.Later w (m.proceed deadline w)
  moves : ∀ deadline w, (m.clock w).reached deadline = false →
    (m.clock w).nanos < (m.clock (m.proceed deadline w)).nanos

variable {m : Machine σ}

lemma Later.refl (w : σ) : m.Later w w := ⟨Nat.le_refl _, rfl⟩

lemma Later.trans {u v w : σ} (h : m.Later u v) (h' : m.Later v w) : m.Later u w :=
  ⟨Nat.le_trans h.forward h'.forward, h'.settled.trans h.settled⟩

lemma Later.reached {v w : σ} {deadline : Instant} (h : m.Later v w)
    (hv : (m.clock v).reached deadline = true) : (m.clock w).reached deadline = true := by
  rw [Instant.reached, decide_eq_true_eq] at hv ⊢
  exact Nat.le_trans hv h.forward

end Machine

namespace Session

open Machine (Later)

variable {m : Machine σ}

/-! ### Waiting -/

/-- Letting both drains do what they can changes the world by reading only. -/
lemma drains_later (timely : m.Timely) (fuel : Nat) (d : Drains) (w : σ) :
    m.Later w (d.settle m.read fuel w).2 := by
  have drained (stream : Stream) (d : Drain) (stop : Bool) (w : σ) :
      m.Later w (d.settle (m.read stream) stop fuel w).2 := by
    obtain ⟨_, _, -, run⟩ := Drain.settle_run (m.read stream) stop fuel d w
    exact run.source Later.refl Later.trans (timely.read stream)
  exact (drained .stdout _ _ _).trans (drained .stderr _ _ _)

lemma hangUp_later (timely : m.Timely) (stream : Stream) (lane : Lane) (w : σ) :
    m.Later w (hangUp m stream lane w) := by
  rw [hangUp]
  split
  · exact timely.hangUp stream w
  · exact .refl w

lemma settle_later (timely : m.Timely) (s : Session σ) : m.Later s.world (s.settle m).world := by
  cases hchild : s.child with
  | none =>
      simp only [settle, hchild]
      exact .refl _
  | some child =>
      simp only [settle, hchild]
      refine (drains_later timely m.steps s.drains s.world).trans ?_
      exact (hangUp_later timely .stderr _ _).trans (hangUp_later timely .stdout _ _)

section Await

variable {check : Session σ → Option α × Session σ} {deadline : Instant}

lemma awaitFor_later (timely : m.Timely) (checks : ∀ s, m.Later s.world (check s).2.world)
    (fuel : Nat) (s : Session σ) : m.Later s.world (awaitFor m deadline check fuel s).2.world := by
  induction fuel generalizing s with
  | zero => exact (settle_later timely s).trans (checks _)
  | succ fuel ih =>
      have tried := (settle_later timely s).trans (checks _)
      rw [awaitFor]
      rcases hcheck : check (s.settle m) with ⟨_ | a, t⟩
      · rw [hcheck] at tried
        simp only
        split
        · exact tried
        · have proceeded := ih { t with world := m.proceed deadline t.world }
          exact tried.trans ((timely.proceed deadline t.world).trans proceeded)
      · rw [hcheck] at tried
        exact tried

/-- Waiting for nothing ends at the deadline, if there were as many turns as nanoseconds left. -/
lemma awaitFor_late (timely : m.Timely) (checks : ∀ s, m.Later s.world (check s).2.world)
    {fuel : Nat} {s : Session σ} (enough : deadline.nanos < (m.clock s.world).nanos + fuel)
    (h : (awaitFor m deadline check fuel s).1 = none) :
    (m.clock (awaitFor m deadline check fuel s).2.world).reached deadline = true := by
  induction fuel generalizing s with
  | zero =>
      refine (awaitFor_later timely checks 0 s).reached ?_
      rw [Instant.reached, decide_eq_true_eq]
      omega
  | succ fuel ih =>
      have tried := (settle_later timely s).trans (checks _)
      rw [awaitFor] at h ⊢
      rcases hcheck : check (s.settle m) with ⟨_ | a, t⟩
      · rw [hcheck] at tried h
        simp only at tried h ⊢
        by_cases hreached : (m.clock t.world).reached deadline = true
        · rw [if_pos hreached]
          exact hreached
        · rw [if_neg hreached] at h ⊢
          -- every event leaves fewer nanoseconds
          have moved := timely.moves deadline t.world (by simpa using hreached)
          have forward := tried.forward
          exact ih (by simp only; omega) h
      · rw [hcheck] at h
        cases h

lemma await_later (timely : m.Timely) (checks : ∀ s, m.Later s.world (check s).2.world)
    (s : Session σ) : m.Later s.world (s.await m deadline check).2.world :=
  awaitFor_later timely checks _ s

/-- **Waiting that comes to nothing** has lasted until the deadline. -/
theorem await_late (timely : m.Timely) (checks : ∀ s, m.Later s.world (check s).2.world)
    {s : Session σ} (h : (s.await m deadline check).1 = none) :
    (m.clock (s.await m deadline check).2.world).reached deadline = true := by
  refine awaitFor_late timely checks ?_ h
  simp only [Instant.since]
  omega

end Await

lemma reap_later (timely : m.Timely) (s : Session σ) : m.Later s.world (s.reap m).2.world := by
  rcases hexit : s.exit with _ | waited
  · rcases hchild : s.child with _ | child
    · simp only [reap, hexit, hchild]
      exact .refl _
    · simp only [reap, hexit, hchild]
      exact timely.reap child s.world
  · simp only [reap, hexit]
    exact .refl _

lemma collectUntil_later (timely : m.Timely) (deadline : Instant) (s : Session σ) :
    m.Later s.world (s.collectUntil m deadline).2.world :=
  await_later timely (fun s => .refl s.world) s

lemma join_world (s : Session σ) : (join s).2.world = s.world := rfl

/-! ### Answers -/

/-- **Time does not go back over an answer**, and the supervisor stays in its group. -/
theorem answer_later (timely : m.Timely) (s : Session σ) (r : Request) :
    m.Later s.world (s.answer m r).2.world := by
  cases r with
  | launch path =>
      have launched := timely.launch path s.world
      simp only [answer]
      rcases hlaunch : m.launch path s.world with ⟨cause | pid, w⟩
      · rw [hlaunch] at launched
        exact launched
      · rw [hlaunch] at launched
        exact launched
  | killChild =>
      simp only [answer]
      split
      · exact .refl _
      · split
        · exact .refl _
        · exact timely.killProcess _ s.world
  | signal group sig => exact timely.signal group sig s.world
  | exitOrDeadline deadline => exact await_later timely (reap_later timely) s
  | exitUntil deadline => exact await_later timely (reap_later timely) s
  | exitWithin span => exact await_later timely (reap_later timely) s
  | pause span => exact await_later timely (fun s => .refl s.world) s
  | joinUntil deadline => exact await_later timely (fun s => .refl s.world) s
  | collect => exact collectUntil_later timely _ s
  | stopDrains =>
      show m.Later s.world ({ s with drains := s.drains.requestStop }.settle m).join.2.world
      rw [join_world]
      exact settle_later timely { s with drains := s.drains.requestStop }
  | wallClock => exact .refl _
  | clock => exact .refl _
  | groupOf process => exact .refl _
  | ownGroup => exact .refl _
  | probe group => exact .refl _

/-- The numbers in an answer are positive, and words; that of a child is not that of the group of
    the supervisor. -/
def Numbered (own : Int) : Turn → Prop
  | ⟨.launch _, .ok (some pid)⟩ => 0 < pid ∧ pid < 2147483648 ∧ (pid : Int) ≠ own
  | ⟨.groupOf _, .ok group⟩ => 0 < group ∧ group < 2147483648
  | _ => True

/-- Sessions on a timely machine are surroundings that keep time, as far as the machine numbers
    processes as the system does. -/
def surroundings (timely : m.Timely) : Surroundings (Session σ) where
  answers := fun s turn t => Answers m s turn t ∧ Numbered (m.ownGroup s.world) turn
  now := fun s => m.clock s.world
  ownGroup := fun s => m.ownGroup s.world
  forward := by
    rintro s t turn ⟨h, -⟩
    have later := answer_later timely s turn.request
    rw [h] at later
    exact later.forward
  settled := by
    rintro s t turn ⟨h, -⟩
    have later := answer_later timely s turn.request
    rw [h] at later
    exact later.settled
  reading := by
    rintro s t r ⟨h, -⟩
    cases h
    exact ⟨Nat.le_refl _, Nat.le_refl _⟩
  overran := by
    rintro s t deadline ⟨h, -⟩
    have late := await_late timely (reap_later timely) (congrArg Prod.fst h)
    rw [show s.await m deadline (reap m) = (none, t) from h] at late
    exact late
  unjoined := by
    rintro s t deadline ⟨h, -⟩
    have checks (s : Session σ) : m.Later s.world (join s).2.world := .refl s.world
    have unjoined : (s.await m deadline join).1.isSome = false := congrArg Prod.fst h
    have gaveUp : (s.await m deadline join).1 = none :=
      Option.not_isSome_iff_eq_none.mp (by simp [unjoined])
    have late := await_late timely checks gaveUp
    rw [show (s.await m deadline join).2 = t from congrArg Prod.snd h] at late
    exact late
  own := by
    rintro s t group ⟨h, -⟩
    exact (congrArg Prod.fst h).symm
  numbered := fun h => h.2
  grouped := fun h => h.2

/-- **A supervised run that is executed is restrained**, if the machine keeps time and numbers
    processes as the system does. -/
theorem execute_restrained (timely : m.Timely) {limits : Limits} {script : String}
    {s t : Session σ} {exchanges : List (Exchange (Session σ))} {p : Program Outcome}
    (course : Dialogue (Answers m) (run limits script) s exchanges p t)
    (numbered : ∀ e ∈ exchanges, Numbered (m.ownGroup e.before.world) e.turn) :
    ∀ e ∈ exchanges, ∀ force, e.turn.request.force? = some force →
      ∃ start, (readings (Dialogue.turns exchanges)).head? = some start ∧
        (surroundings timely).Overdue limits.timeout start e.before ∧
        ∀ group, force.group? = some group → Foreign (m.ownGroup e.before.world) group := by
  have answered : Dialogue (surroundings timely).answers (run limits script) s exchanges p t :=
    course.mono fun e he h => ⟨h, numbered e he⟩
  exact Surroundings.run_restrained answered

end Session

end Curfew.Supervisor
