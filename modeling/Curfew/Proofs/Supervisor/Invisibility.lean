import Curfew.Proofs.Supervisor.Twins
import Curfew.Proofs.Supervisor.Verdict

/-!
# Destinations that the run does not see

Two runs of the same script on the same machine, whose destinations take what they are offered, or
fail, as they like, but at once.  The runs ask for the same, in the same worlds, and differ in
their status only, where a failure of a destination stands in for a success or a timeout.

* **`Akin`** — programs that go on alike, whatever captures they take over (`run_akin`).
* **`Execution`** — a run that is over, and **`Alike`** what two of them have in common.
* **`execute_twin`** — programs that are akin ask twins the same.
* `Course.alike` — runs with the same turns but for the captures have the same base status.
* **`Unaffected`** — what the two runs have in common, and **`RunStatus.Settled`** what each of them
  makes of the base status.
* **`destinations_invisible`** — the whole run.
-/

namespace Curfew

open Filter

/-- What a run makes of its base status: the failures of its own drains are all that is added. -/
structure RunStatus.Settled (base : RunStatus) (drains : Capture.Drains) (status : RunStatus) :
    Prop where
  resolved : status = base.resolve drains.stdout.task.failure drains.stderr.task.failure
  /-- Failures and execution errors stand. -/
  stands : base ≠ .success → (∀ timeout, base ≠ .timedOut timeout) → status = base
  /-- A success or a timeout gives way exactly if a drain has met a failure. -/
  yields : base = .success ∨ (∃ timeout, base = .timedOut timeout) →
    ((∀ stream, (drains.lane stream).task.failure = none) ∧ status = base) ∨
      ∃ stream cause, (drains.lane stream).task.failure = some cause ∧
        status = .failed (.capture stream cause)

/-- Resolving a status settles it. -/
theorem RunStatus.resolve_settled (base : RunStatus) (drains : Capture.Drains) :
    Settled base drains
      (base.resolve drains.stdout.task.failure drains.stderr.task.failure) where
  resolved := rfl
  stands := by
    intro hsuccess htimeout
    cases base with
    | success => exact absurd rfl hsuccess
    | timedOut timeout => exact absurd rfl (htimeout timeout)
    | executionError code signal => rfl
    | failed error => rfl
  yields := by
    intro hbase
    have precedence :=
      base.resolve_precedence drains.stdout.task.failure drains.stderr.task.failure
    cases hout : drains.stdout.task.failure with
    | some cause =>
        rw [hout] at precedence
        exact .inr ⟨.stdout, cause, hout, precedence.stdout hbase cause rfl⟩
    | none =>
        cases herr : drains.stderr.task.failure with
        | some cause =>
            rw [hout, herr] at precedence
            exact .inr ⟨.stderr, cause, herr, precedence.stderr hbase rfl cause rfl⟩
        | none =>
            rw [hout, herr] at precedence
            refine .inl ⟨fun stream => ?_, precedence.clean rfl rfl⟩
            cases stream with
            | stdout => exact hout
            | stderr => exact herr

namespace Supervisor

open Capture (Behaviour Captured Destination Drains Lane)

variable {σ α β : Type}

/-! ## Programs that go on alike -/

/-- Programs that go on alike, whatever captures they take over. -/
inductive Akin : Program α → Program α → Prop
  | done (x y : α) : Akin (.done x) (.done y)
  | crash (reason : Crash) : Akin (.crash reason) (.crash reason)
  | ask {r : Request} {next next' : r.Answer → Program α} (hr : r ≠ .collect)
      (alike : ∀ a, Akin (next a) (next' a)) : Akin (.ask r next) (.ask r next')
  | collect {next next' : Captured × Captured → Program α}
      (alike : ∀ both both', Akin (next both) (next' both')) :
      Akin (.ask .collect next) (.ask .collect next')

namespace Akin

/-- A part that takes over no captures, and what follows it. -/
lemma bind {Q : α → Prop} {p : Program α} {f g : α → Program β}
    (hp : p.Asks (· ≠ .collect) Q) (alike : ∀ x, Akin (f x) (g x)) :
    Akin (p.bind f) (p.bind g) := by
  induction p with
  | done x => exact alike x
  | crash reason => exact .crash reason
  | ask r next ih => exact .ask hp.1 fun a => ih a (hp.2 a)

lemma request {r : Request} {f g : r.Answer → Program α} (hr : r ≠ .collect)
    (alike : ∀ a, Akin (f a) (g a)) :
    Akin ((Program.request r).bind f) ((Program.request r).bind g) := .ask hr alike

end Akin

lemma Request.Middle.ne_collect {r : Request} (h : r.Middle) : r ≠ .collect := by
  rintro rfl
  exact h

/-- What comes before the captures takes over none. -/
lemma Program.Asks.uncaptured {Q : α → Prop} {p : Program α} (h : p.Asks Request.Middle Q) :
    p.Asks (· ≠ .collect) Q :=
  h.weaken (fun _ hr => hr.ne_collect) fun _ hx => hx

lemma notLaunched_akin (path : Bytes) (cause : IoError) (began : Timestamp) (start : Instant) :
    Akin (notLaunched path cause began start) (notLaunched path cause began start) :=
  .request Request.noConfusion fun _ => .done _ _

/-- A run ends alike: only its outcome looks at the captures. -/
lemma conclude_akin (status : RunStatus) (pid : Option Nat) (began : Timestamp) (start : Instant) :
    Akin (conclude status pid began start) (conclude status pid began start) :=
  .collect fun _ _ => .request Request.noConfusion fun _ => .done _ _

/-- **A run goes on alike**, whatever captures it takes over. -/
theorem run_akin (limits : Limits) (script : String) :
    Akin (run limits script) (run limits script) := by
  simp only [run, Program.bind_eq]
  refine .request Request.noConfusion fun began => .request Request.noConfusion fun start => ?_
  cases Script.normalize script with
  | none => exact notLaunched_akin _ _ _ _
  | some path =>
      refine .request Request.noConfusion fun launched => ?_
      cases launched with
      | error cause => exact notLaunched_akin _ _ _ _
      | ok pid =>
          have asks : (Program.later start limits.timeout).Asks (· ≠ .collect) fun _ => True := by
            rw [Program.later]
            cases start.add? limits.timeout <;> trivial
          refine .bind asks fun deadline => .request Request.noConfusion fun raced => ?_
          cases raced with
          | some waited =>
              exact .bind (windUp_asks pid deadline).uncaptured fun _ => conclude_akin _ _ _ _
          | none =>
              exact .bind (expire_asks limits pid).uncaptured fun status => conclude_akin _ _ _ _

/-! ## Executions -/

/-- A run that is over: its exchanges, what has come of it, and the session that it has left. -/
structure Execution (σ α : Type) where
  exchanges : List (Exchange (Session σ))
  result : Except Crash α
  session : Session σ

namespace Execution

def turns (e : Execution σ α) : List Turn := Dialogue.turns e.exchanges

/-- The requests, each with the worlds before and after it. -/
def asked (e : Execution σ α) : List (σ × Request × σ) :=
  e.exchanges.map fun x => (x.before.world, x.turn.request, x.after.world)

/-- An execution with one more exchange before it. -/
def before (s : Session σ) (turn : Turn) (s' : Session σ) (e : Execution σ α) : Execution σ α :=
  { e with exchanges := ⟨s, turn, s'⟩ :: e.exchanges }

/-- `e` is the execution of `p` that starts in `s`. -/
structure Of (m : Machine σ) (p : Program α) (s : Session σ) (e : Execution σ α) : Prop where
  executed : s.execute m p = (e.result, e.session)
  dialogue : Dialogue (Session.Answers m) p s e.exchanges (.ofResult e.result) e.session

lemma Of.done (m : Machine σ) (x : α) (s : Session σ) : Of m (.done x) s ⟨[], .ok x, s⟩ :=
  ⟨rfl, .start _ _⟩

lemma Of.crash (m : Machine σ) (reason : Crash) (s : Session σ) :
    Of m (.crash reason : Program α) s ⟨[], .error reason, s⟩ :=
  ⟨rfl, .start _ _⟩

lemma Of.turn {m : Machine σ} {r : Request} {next : r.Answer → Program α} {a : r.Answer}
    {s s' : Session σ} {e : Execution σ α} (answered : s.answer m r = (a, s'))
    (of : Of m (next a) s' e) : Of m (.ask r next) s (e.before s ⟨r, a⟩ s') where
  executed := by
    rw [Session.execute, answered]
    exact of.executed
  dialogue := .turn answered of.dialogue

end Execution

/-- The turns but for those that take over the captures. -/
def uncaptured (turns : List Turn) : List Turn := turns.filter fun turn => turn.request ≠ .collect

lemma uncaptured_cons {r : Request} (hr : r ≠ .collect) (a : r.Answer) (turns : List Turn) :
    uncaptured (⟨r, a⟩ :: turns) = ⟨r, a⟩ :: uncaptured turns :=
  List.filter_cons_of_pos (by simpa using hr)

lemma uncaptured_append (first last : List Turn) :
    uncaptured (first ++ last) = uncaptured first ++ uncaptured last := List.filter_append ..

lemma uncaptured_of_ne {turns : List Turn} (h : ∀ turn ∈ turns, turn.request ≠ .collect) :
    uncaptured turns = turns := List.filter_eq_self.mpr (by simpa using h)

/-- Taking over the captures uses no force. -/
lemma forces_uncaptured (turns : List Turn) : forces (uncaptured turns) = forces turns := by
  induction turns with
  | nil => rfl
  | cons turn turns ih =>
      obtain ⟨r, a⟩ := turn
      by_cases hr : r = .collect
      · subst hr
        exact ih
      · rw [uncaptured_cons hr, ← List.singleton_append, forces_append, ih, ← forces_append]
        rfl

/-- The captures that an exchange takes over are those of the session. -/
def Handed (x : Exchange (Session σ)) : Prop :=
  ∀ both, x.turn = ⟨.collect, both⟩ → both = x.after.drains.held

/-- Executions that differ in what their destinations have answered only: the same requests in the
    same worlds, the same answers to all that are not for the captures, and twins in the end. -/
structure Alike (e e' : Execution σ α) : Prop where
  asked : e.asked = e'.asked
  turns : uncaptured e.turns = uncaptured e'.turns
  handed : ∀ x ∈ e.exchanges, Handed x
  handed' : ∀ x ∈ e'.exchanges, Handed x
  crashed : ∀ reason, e.result = .error reason ↔ e'.result = .error reason
  twin : Session.Twin e.session e'.session

namespace Alike

variable {e e' : Execution σ α} {s t s' t' : Session σ}

/-- Nothing was asked, and a result is there. -/
lemma done (x y : α) (h : Session.Twin s t) : Alike ⟨[], .ok x, s⟩ ⟨[], .ok y, t⟩ where
  asked := rfl
  turns := rfl
  handed := fun _ hx => absurd hx List.not_mem_nil
  handed' := fun _ hx => absurd hx List.not_mem_nil
  crashed := by simp
  twin := h

/-- Nothing was asked, and both have crashed. -/
lemma crash (reason : Crash) (h : Session.Twin s t) :
    Alike (⟨[], .error reason, s⟩ : Execution σ α) ⟨[], .error reason, t⟩ where
  asked := rfl
  turns := rfl
  handed := fun _ hx => absurd hx List.not_mem_nil
  handed' := fun _ hx => absurd hx List.not_mem_nil
  crashed := fun _ => Iff.rfl
  twin := h

/-- One more exchange that does not take over the captures. -/
lemma before {r : Request} (hr : r ≠ .collect) (a : r.Answer) (h : Alike e e')
    (twin : Session.Twin s t) (twin' : Session.Twin s' t') :
    Alike (e.before s ⟨r, a⟩ s') (e'.before t ⟨r, a⟩ t') where
  asked := by
    show (s.world, r, s'.world) :: e.asked = (t.world, r, t'.world) :: e'.asked
    rw [h.asked, twin.world, twin'.world]
  turns := by
    show uncaptured (⟨r, a⟩ :: e.turns) = uncaptured (⟨r, a⟩ :: e'.turns)
    rw [uncaptured_cons hr, uncaptured_cons hr, h.turns]
  handed := List.forall_mem_cons.mpr
    ⟨fun both hb => absurd (congrArg Turn.request hb) hr, h.handed⟩
  handed' := List.forall_mem_cons.mpr
    ⟨fun both hb => absurd (congrArg Turn.request hb) hr, h.handed'⟩
  crashed := h.crashed
  twin := h.twin

/-- One more exchange that takes over the captures. -/
lemma beforeCollect (h : Alike e e') (twin : Session.Twin s t) (twin' : Session.Twin s' t') :
    Alike (e.before s ⟨.collect, s'.drains.held⟩ s')
      (e'.before t ⟨.collect, t'.drains.held⟩ t') where
  asked := by
    show (s.world, Request.collect, s'.world) :: e.asked = (t.world, .collect, t'.world) :: e'.asked
    rw [h.asked, twin.world, twin'.world]
  turns := h.turns
  handed := List.forall_mem_cons.mpr ⟨fun both hb => by cases hb; rfl, h.handed⟩
  handed' := List.forall_mem_cons.mpr ⟨fun both hb => by cases hb; rfl, h.handed'⟩
  crashed := h.crashed
  twin := h.twin

end Alike

/-- **Programs that are akin ask twins the same**, in the same worlds, and both end or both
    crash. -/
theorem execute_twin {m : Machine σ} (finite : m.Exhaustible) {p q : Program α} (akin : Akin p q)
    {s t : Session σ} (h : Session.Twin s t) :
    ∃ e e' : Execution σ α, Alike e e' ∧
      ∀ᶠ n in atTop, e.Of (m.granting n) p s ∧ e'.Of (m.granting n) q t := by
  induction akin generalizing s t with
  | done x y =>
      exact ⟨_, _, .done x y h, .of_forall fun n => ⟨.done _ x s, .done _ y t⟩⟩
  | crash reason =>
      exact ⟨_, _, .crash reason h, .of_forall fun n =>
        ⟨.crash _ reason s, .crash _ reason t⟩⟩
  | ask hr alike ih =>
      obtain ⟨a, s₁, t₁, twin, answered⟩ := Session.answer_twin finite h hr
      obtain ⟨e, e', same, later⟩ := ih a twin
      exact ⟨_, _, same.before hr a h twin,
        (answered.and later).mono fun n hn => ⟨hn.2.1.turn hn.1.1, hn.2.2.turn hn.1.2⟩⟩
  | collect alike ih =>
      obtain ⟨s₁, t₁, twin, answered⟩ := Session.collect_twin finite h
      obtain ⟨e, e', same, later⟩ := ih _ _ twin
      exact ⟨_, _, same.beforeCollect h twin,
        (answered.and later).mono fun n hn => ⟨hn.2.1.turn hn.1.1, hn.2.2.turn hn.1.2⟩⟩

/-! ## Courses with the same turns -/

/-- What lies between the race and the captures determines the base status. -/
lemma Between.unique {limits : Limits} {pid : Option Nat} {deadline : Instant}
    {raced : Option (Except IoError Int32)} {middle : List Turn} {status status' : RunStatus}
    (h : Between limits pid deadline raced middle status)
    (h' : Between limits pid deadline raced middle status') : status = status' := by
  cases h with
  | exited waited wound =>
      cases h' with
      | exited waited wound' => rfl
  | overran expired =>
      cases h' with
      | overran expired' =>
          have same := expired.unique expired'
          injection same

/-- The turns of a run that was started. -/
def startedTurns (path : String) (pid : Option Nat) (start deadline : Instant)
    (raced : Option (Except IoError Int32)) (middle : List Turn) (began : Timestamp)
    (both : Captured × Captured) (now : Instant) : List Turn :=
  [⟨.wallClock, began⟩, ⟨.clock, start⟩, ⟨.launch path, .ok pid⟩,
    ⟨.exitOrDeadline deadline, raced⟩] ++ middle ++ [⟨.collect, both⟩, ⟨.clock, now⟩]

lemma uncaptured_started {limits : Limits} {path : String} {pid : Option Nat}
    {start deadline : Instant} {raced : Option (Except IoError Int32)} {middle : List Turn}
    {status : RunStatus} (between : Between limits pid deadline raced middle status)
    (began : Timestamp) (both : Captured × Captured) (now : Instant) :
    uncaptured (startedTurns path pid start deadline raced middle began both now) =
      ⟨.wallClock, began⟩ :: ⟨.clock, start⟩ :: ⟨.launch path, .ok pid⟩ ::
        ⟨.exitOrDeadline deadline, raced⟩ :: (middle ++ [⟨.clock, now⟩]) := by
  have hmiddle : uncaptured middle = middle :=
    uncaptured_of_ne fun turn hm => (between.middle turn hm).ne_collect
  simp only [startedTurns, List.cons_append, List.nil_append]
  rw [uncaptured_cons Request.noConfusion, uncaptured_cons Request.noConfusion,
    uncaptured_cons Request.noConfusion, uncaptured_cons Request.noConfusion, uncaptured_append,
    hmiddle]
  rfl

/-- **Runs with the same turns but for the captures** both were not started and have the same
    outcome, or both were started and have the same base status. -/
theorem Course.alike {limits : Limits} {script : String} {turns turns' : List Turn}
    {outcome outcome' : Outcome} (h : Course limits script turns outcome)
    (h' : Course limits script turns' outcome') (same : uncaptured turns = uncaptured turns') :
    (Unlaunched script turns ∧ Unlaunched script turns' ∧ outcome = outcome') ∨
      ∃ path pid start deadline raced middle base began out err out' err' now,
        Between limits pid deadline raced middle base ∧
        turns = startedTurns path pid start deadline raced middle began (out, err) now ∧
        turns' = startedTurns path pid start deadline raced middle began (out', err') now ∧
        outcome = reported base pid began start out err now ∧
        outcome' = reported base pid began start out' err' now := by
  cases h with
  | pathless began start now hpath =>
      cases h' with
      | pathless began' start' now' hpath' =>
          rw [uncaptured_of_ne (by simp), uncaptured_of_ne (by simp)] at same
          cases same
          exact .inl ⟨.inl hpath, .inl hpath, rfl⟩
      | refused began' start' now' cause hpath' => cases hpath.symm.trans hpath'
      | started began' out err now' hpath' hdeadline between => cases hpath.symm.trans hpath'
  | @refused path began start now cause hpath =>
      cases h' with
      | pathless began' start' now' hpath' => cases hpath.symm.trans hpath'
      | refused began' start' now' cause' hpath' =>
          rw [uncaptured_of_ne (by simp), uncaptured_of_ne (by simp)] at same
          cases same
          have hun : Unlaunched script [⟨.wallClock, began⟩, ⟨.clock, start⟩,
              ⟨.launch path, .error cause⟩, ⟨.clock, now⟩] := .inr ⟨path, cause, by simp⟩
          exact .inl ⟨hun, hun, rfl⟩
      | started began' out err now' hpath' hdeadline between =>
          have unlike := same.trans (uncaptured_started between began' (out, err) now')
          rw [uncaptured_of_ne (by simp)] at unlike
          cases unlike
  | @started path pid start deadline raced middle base began out err now hpath hdeadline between =>
      have hturns :
          uncaptured (startedTurns path pid start deadline raced middle began (out, err) now) = _ :=
        uncaptured_started between began (out, err) now
      cases h' with
      | pathless began' start' now' hpath' => cases hpath.symm.trans hpath'
      | refused began' start' now' cause hpath' =>
          have unlike := same.symm.trans hturns
          rw [uncaptured_of_ne (by simp)] at unlike
          cases unlike
      | started began' out' err' now' hpath' hdeadline' between' =>
          have like := hturns.symm.trans
            (same.trans (uncaptured_started between' began' (out', err') now'))
          simp only [List.cons.injEq, Turn.mk.injEq, true_and, heq_eq_eq, Request.launch.injEq,
            Request.exitOrDeadline.injEq] at like
          obtain ⟨rfl, rfl, ⟨rfl, hpid⟩, ⟨rfl, rfl⟩, hlater⟩ := like
          obtain ⟨rfl, hlast⟩ := List.append_inj' hlater rfl
          cases hpid
          cases hlast
          obtain rfl := between.unique between'
          exact .inr ⟨_, _, _, _, _, _, _, began, out, err, out', err', now, between, rfl, rfl, rfl,
            rfl⟩

/-- A run that is started ends with the captures, and these are what the drains hold. -/
def Hands (turns : List Turn) (drains : Drains) : Prop :=
  ∀ first both now, turns = first ++ [⟨.collect, both⟩, ⟨.clock, now⟩] → both = drains.held

/-- **Runs with the same turns but for the captures**, whose drains hold the same bytes, have the
    same outcome but for the status, which each of them settles from the same base. -/
theorem Course.outcomes {limits : Limits} {script : String} {turns turns' : List Turn}
    {outcome outcome' : Outcome} (h : Course limits script turns outcome)
    (h' : Course limits script turns' outcome') (same : uncaptured turns = uncaptured turns')
    (numbered : ∀ path pid, ⟨.launch path, .ok pid⟩ ∈ turns → ∃ child, pid = some child)
    {drains drains' : Drains} (hands : Hands turns drains) (hands' : Hands turns' drains')
    (bytes : ∀ stream, (drains.lane stream).held.bytes = (drains'.lane stream).held.bytes) :
    outcome' = { outcome with status := outcome'.status } ∧
      ((Unlaunched script turns ∧ Unlaunched script turns' ∧ outcome = outcome') ∨
        ∃ child base, Base limits child turns base ∧ Base limits child turns' base ∧
          base.Settled drains outcome.status ∧ base.Settled drains' outcome'.status) := by
  rcases h.alike h' same with
    ⟨hun, hun', rfl⟩ | ⟨path, pid, start, deadline, raced, middle, base, began, out, err, out',
      err', now, between, hturns, hturns', rfl, rfl⟩
  · exact ⟨rfl, .inl ⟨hun, hun', rfl⟩⟩
  · obtain ⟨child, rfl⟩ := numbered path pid (by rw [hturns]; simp [startedTurns])
    obtain ⟨rfl, rfl⟩ := Prod.mk.inj (hands _ _ _ hturns)
    obtain ⟨rfl, rfl⟩ := Prod.mk.inj (hands' _ _ _ hturns')
    refine ⟨?_, .inr ⟨child, base, ?_, ?_, base.resolve_settled _, base.resolve_settled _⟩⟩
    · have hout : drains.stdout.held.bytes = drains'.stdout.held.bytes := bytes .stdout
      have herr : drains.stderr.held.bytes = drains'.stderr.held.bytes := bytes .stderr
      simp only [reported, hout, herr]
    · rw [hturns]
      exact between.base
    · rw [hturns']
      exact between.base

/-! ## Whole runs -/

namespace Session

/-- A session numbers every child that it launches. -/
lemma numbered {m : Machine σ} {p q : Program α} {s t : Session σ}
    {exchanges : List (Exchange (Session σ))} (course : Dialogue (Answers m) p s exchanges q t)
    {path : String} {pid : Option Nat}
    (hm : ⟨.launch path, .ok pid⟩ ∈ Dialogue.turns exchanges) : ∃ child, pid = some child := by
  obtain ⟨_, _, s₁, s₂, _, _, -, answered, -⟩ := course.split hm
  simp only [Answers, answer] at answered
  rcases hlaunch : m.launch path s₁.world with ⟨cause | child, w⟩
  · rw [hlaunch] at answered
    cases answered
  · rw [hlaunch] at answered
    cases answered
    exact ⟨child, rfl⟩

/-- Sessions that start with prompt destinations are twins. -/
lemma start_twin (w : σ) {out err out' err' : Behaviour} (hout : out.Prompt) (herr : err.Prompt)
    (hout' : out'.Prompt) (herr' : err'.Prompt) :
    Twin (.start w (.ofBehaviour out) (.ofBehaviour err))
      (.start w (.ofBehaviour out') (.ofBehaviour err')) where
  world := rfl
  child := rfl
  exit := rfl
  masked := rfl
  calm := .start hout herr
  calm' := .start hout' herr'

end Session

/-- The captures of a run that was started are those that its session has left: only the clock is
    read after them. -/
lemma Execution.Of.hands {m : Machine σ} {p : Program α} {s : Session σ} {e : Execution σ α}
    (of : e.Of m p s) (handed : ∀ x ∈ e.exchanges, Handed x) : Hands e.turns e.session.drains := by
  intro first both now h
  obtain ⟨before, last, hexchanges, -, hlast⟩ := List.map_eq_append_iff.mp h
  obtain ⟨x, last, rfl, hx, hlast⟩ := List.map_eq_cons_iff.mp hlast
  obtain ⟨y, last, rfl, hy, hlast⟩ := List.map_eq_cons_iff.mp hlast
  obtain rfl := List.map_eq_nil_iff.mp hlast
  have dialogue := of.dialogue
  rw [hexchanges] at dialogue
  obtain ⟨_, _, -, dialogue⟩ := dialogue.of_append
  obtain ⟨-, -, _, dialogue⟩ := dialogue.of_cons
  obtain ⟨-, answered, _, dialogue⟩ := dialogue.of_cons
  have unmoved : y.after = x.after := by
    rw [hy] at answered
    exact (congrArg Prod.snd answered).symm
  rw [dialogue.of_nil, unmoved]
  exact handed x (by simp [hexchanges]) both hx

/-- What two runs of a script have in common that differ in their destinations only. -/
structure Unaffected (limits : Limits) (script : String) (e e' : Execution σ Outcome) : Prop where
  /-- The same requests are made, in the same worlds, and leave the same worlds. -/
  asked : e.asked = e'.asked
  /-- The same is answered, but for the captures. -/
  answered : uncaptured e.turns = uncaptured e'.turns
  /-- The race has the same winner. -/
  raced : ∀ deadline winner, ⟨.exitOrDeadline deadline, winner⟩ ∈ e.turns ↔
    ⟨.exitOrDeadline deadline, winner⟩ ∈ e'.turns
  /-- The same signals are sent to the same processes. -/
  forced : forces e.turns = forces e'.turns
  /-- The drains have read the same chunks. -/
  read : ∀ stream, (e.session.drains.lane stream).task.sink.kept =
    (e'.session.drains.lane stream).task.sink.kept
  crashed : ∀ reason, e.result = .error reason ↔ e'.result = .error reason
  /-- The outcomes differ in their status at most, and the status before the captures is the
      same. -/
  outcomes : ∀ outcome outcome', e.result = .ok outcome → e'.result = .ok outcome' →
    outcome' = { outcome with status := outcome'.status } ∧
      ((Unlaunched script e.turns ∧ Unlaunched script e'.turns ∧ outcome = outcome') ∨
        ∃ child base, Base limits child e.turns base ∧ Base limits child e'.turns base ∧
          base.Settled e.session.drains outcome.status ∧
          base.Settled e'.session.drains outcome'.status)

namespace Alike

variable {α : Type} {e e' : Execution σ α}

lemma mem_turns (h : Alike e e') {r : Request} (hr : r ≠ .collect) (a : r.Answer) :
    ⟨r, a⟩ ∈ e.turns ↔ ⟨r, a⟩ ∈ e'.turns := by
  have kept (turns : List Turn) : ⟨r, a⟩ ∈ uncaptured turns ↔ ⟨r, a⟩ ∈ turns := by
    simp [uncaptured, hr]
  rw [← kept, h.turns, kept]

lemma forced (h : Alike e e') : forces e.turns = forces e'.turns := by
  rw [← forces_uncaptured, h.turns, forces_uncaptured]

/-- **Runs that are alike are unaffected** by their destinations. -/
theorem unaffected {m : Machine σ} {limits : Limits} {script : String} {s t : Session σ}
    {e e' : Execution σ Outcome} (h : Alike e e') (of : e.Of m (run limits script) s)
    (of' : e'.Of m (run limits script) t) : Unaffected limits script e e' where
  asked := h.asked
  answered := h.turns
  raced := fun _ winner => h.mem_turns Request.noConfusion winner
  forced := h.forced
  read := fun stream => congrArg (fun lane => lane.task.sink.kept) (h.twin.lane stream)
  crashed := h.crashed
  outcomes := by
    intro outcome outcome' hresult hresult'
    have ends {s : Session σ} {e : Execution σ Outcome} {outcome : Outcome}
        (of : e.Of m (run limits script) s) (hresult : e.result = .ok outcome) :
        Course limits script e.turns outcome := by
      have leaves := of.dialogue.leaves
      rw [hresult] at leaves
      exact run_ends leaves
    exact (ends of hresult).outcomes (ends of' hresult') h.turns
      (fun _ _ hm => Session.numbered of.dialogue hm) (of.hands h.handed) (of'.hands h.handed')
      h.twin.bytes

end Alike

/-- **Destinations that answer at once are invisible.**  Two runs of a script that start in the same
    world, with destinations that may take or fail what they like, have everything in common but
    that each reports the failures of its own destinations over a success or a timeout.

    The machine only bounds the steps that a drain takes between two events; the two runs are what
    comes of every bound that is large enough.  Here the drains come to rest before the next event;
    `invisible_on_schedule` is about drains that are scheduled in any way. -/
theorem destinations_invisible {m : Machine σ} (finite : m.Exhaustible) (limits : Limits)
    (script : String) (w : σ) {out err out' err' : Behaviour} (hout : out.Prompt)
    (herr : err.Prompt) (hout' : out'.Prompt) (herr' : err'.Prompt) :
    ∃ e e' : Execution σ Outcome,
      (∀ᶠ n in atTop,
        e.Of (m.granting n) (run limits script) (.start w (.ofBehaviour out) (.ofBehaviour err)) ∧
        e'.Of (m.granting n) (run limits script)
          (.start w (.ofBehaviour out') (.ofBehaviour err'))) ∧
      Unaffected limits script e e' := by
  obtain ⟨e, e', alike, executed⟩ :=
    execute_twin finite (run_akin limits script) (Session.start_twin w hout herr hout' herr')
  obtain ⟨n, of, of'⟩ := executed.exists
  exact ⟨e, e', executed, alike.unaffected of of'⟩

/-- A machine on which a script says what it has to say and exits. -/
def Machine.reciting : Machine (List Bytes) where
  wallClock _ := ⟨0, 0⟩
  clock _ := ⟨0⟩
  launch _ w := (.ok 7, w)
  reap _ w := (some (.ok 0), w)
  groupOf _ _ := .ok 7
  ownGroup _ := 1
  signal _ _ w := (.ok (), w)
  probe _ _ := .error .noProcess
  killProcess _ w := w
  read stream w :=
    match stream, w with
    | .stdout, chunk :: later => (.data chunk, later)
    | _, w => (.closed, w)
  hangUp _ w := w
  proceed _ w := w
  steps := 0

/-- A script has its say, and the disk that its output goes to is full in one of two runs: both
    have captured all of it, one succeeds and one fails. -/
theorem invisible_full_disk :
    ∃ (full : Behaviour) (e e' : Execution (List Bytes) Outcome) (outcome outcome' : Outcome),
      full.Prompt ∧
      (∀ᶠ n in atTop,
        e.Of (Machine.reciting.granting n) (run ⟨.ofSeconds 1, .ofMillis 200, true⟩ "./greet")
          (.start [[104], [105]] (.ofBehaviour .obliging) (.ofBehaviour .obliging)) ∧
        e'.Of (Machine.reciting.granting n) (run ⟨.ofSeconds 1, .ofMillis 200, true⟩ "./greet")
          (.start [[104], [105]] (.ofBehaviour full) (.ofBehaviour .obliging))) ∧
      Unaffected ⟨.ofSeconds 1, .ofMillis 200, true⟩ "./greet" e e' ∧
      e.result = .ok outcome ∧ e'.result = .ok outcome' ∧
      outcome.stdout = [104, 105] ∧ outcome'.stdout = [104, 105] ∧
      outcome.status = .success ∧
      outcome'.status = .failed (.capture .stdout (.plain .storageFull)) := by
  have finite : Machine.reciting.Exhaustible := by
    intro stream
    refine Subrelation.wf ?_ (measure List.length).wf
    rintro later said ⟨rfl, more⟩
    cases stream with
    | stderr => cases more
    | stdout =>
        cases said with
        | nil => cases more
        | cons chunk later => exact Nat.lt_succ_self _
  have obliging : Behaviour.obliging.Prompt :=
    ⟨fun _ => rfl, fun _ => rfl, fun n => ⟨n, Nat.le_refl n, rfl⟩⟩
  have full : Behaviour.Prompt ⟨fun _ => .fail (.plain .storageFull), fun _ => .accept none, ""⟩ :=
    ⟨fun _ => rfl, fun _ => rfl, fun n => ⟨n, Nat.le_refl n, rfl⟩⟩
  obtain ⟨e, e', executed, unaffected⟩ :=
    destinations_invisible finite ⟨.ofSeconds 1, .ofMillis 200, true⟩ "./greet" [[104], [105]]
      obliging obliging full obliging
  obtain ⟨n, ⟨of, of'⟩, enough⟩ := (executed.and (eventually_ge_atTop 9)).exists
  obtain ⟨k, rfl⟩ := Nat.exists_eq_add_of_le' enough
  have course : Execution.Of (Machine.reciting.granting (k + 9))
      (run ⟨.ofSeconds 1, .ofMillis 200, true⟩ "./greet")
      (.start [[104], [105]] (.ofBehaviour .obliging) (.ofBehaviour .obliging)) _ :=
    .turn (r := .wallClock) (a := ⟨0, 0⟩) rfl <|
    .turn (r := .clock) (a := ⟨0⟩) rfl <|
    .turn (r := .launch "./greet") (a := .ok (some 7)) rfl <|
    .turn (r := .exitOrDeadline ⟨1000000000⟩) (a := some (.ok 0)) rfl <|
    .turn (r := .joinUntil ⟨1000000000⟩) (a := true) rfl <|
    .turn (r := .collect) (a := (⟨[104, 105], none⟩, ⟨[], none⟩)) rfl <|
    .turn (r := .clock) (a := ⟨0⟩) rfl (.done _ _ _)
  have course' : Execution.Of (Machine.reciting.granting (k + 9))
      (run ⟨.ofSeconds 1, .ofMillis 200, true⟩ "./greet")
      (.start [[104], [105]]
        (.ofBehaviour ⟨fun _ => .fail (.plain .storageFull), fun _ => .accept none, ""⟩)
        (.ofBehaviour .obliging)) _ :=
    .turn (r := .wallClock) (a := ⟨0, 0⟩) rfl <|
    .turn (r := .clock) (a := ⟨0⟩) rfl <|
    .turn (r := .launch "./greet") (a := .ok (some 7)) rfl <|
    .turn (r := .exitOrDeadline ⟨1000000000⟩) (a := some (.ok 0)) rfl <|
    .turn (r := .joinUntil ⟨1000000000⟩) (a := true) rfl <|
    .turn (r := .collect) (a := (⟨[104, 105], some (.plain .storageFull)⟩, ⟨[], none⟩)) rfl <|
    .turn (r := .clock) (a := ⟨0⟩) rfl (.done _ _ _)
  have hresult := congrArg Prod.fst (of.executed.symm.trans course.executed)
  have hresult' := congrArg Prod.fst (of'.executed.symm.trans course'.executed)
  exact ⟨_, e, e', _, _, full, executed, unaffected, hresult, hresult', rfl, rfl, rfl, rfl⟩

end Supervisor

end Curfew
