import Curfew.Proofs.Supervisor.Course
import Curfew.Proofs.Supervisor.Scene

/-!
# Restraint in the use of force

When a supervisor does anything to other processes, and to which.

* **`Surroundings`** — the least that is assumed of the world: time does not go back, a deadline
  that won has passed, and the numbers of processes and groups are what they can be.  Which
  answers are given, and in what order, is left open.
* **`Surroundings.Restrained`** — an exchange in which force is used only after the deadline, and
  on no group that is the supervisor's own.
* **`run_restrained`** — so it is in every exchange of every run, finished or not.
* **`signals_restrained`** — and which runs use no force, or only one signal.
-/

namespace Curfew.Supervisor

open Program
open Capture (Captured Behaviour)

/-- Surroundings that keep time, and number processes as the system does. -/
structure Surroundings (τ : Type) where
  answers : τ → Turn → τ → Prop
  now : τ → Instant
  ownGroup : τ → Int
  forward : ∀ {s t turn}, answers s turn t → (now s).nanos ≤ (now t).nanos
  settled : ∀ {s t turn}, answers s turn t → ownGroup t = ownGroup s
  reading : ∀ {s t r}, answers s ⟨.clock, r⟩ t → (now s).nanos ≤ r.nanos ∧ r.nanos ≤ (now t).nanos
  /-- The deadline wins a race only once it has passed. -/
  overran : ∀ {s t deadline}, answers s ⟨.exitOrDeadline deadline, none⟩ t →
    (now t).reached deadline = true
  /-- Waiting for the drains is given up only once the deadline has passed. -/
  unjoined : ∀ {s t deadline}, answers s ⟨.joinUntil deadline, false⟩ t →
    (now t).reached deadline = true
  own : ∀ {s t group}, answers s ⟨.ownGroup, group⟩ t → group = ownGroup s
  /-- The number of a child is positive, and not that of the supervisor's group. -/
  numbered : ∀ {s t path pid}, answers s ⟨.launch path, .ok (some pid)⟩ t →
    0 < pid ∧ pid < 2147483648 ∧ (pid : Int) ≠ ownGroup s
  grouped : ∀ {s t process group}, answers s ⟨.groupOf process, .ok group⟩ t →
    0 < group ∧ group < 2147483648

def Scene.surroundings : Surroundings Scene where
  answers := Scene.Answers
  now := Scene.now
  ownGroup := Scene.ownGroup
  forward := fun h => (Scene.lasting_now _).answers h (Nat.le_refl _)
  settled := fun h => (Scene.lasting_ownGroup _).answers h rfl
  reading := by
    intro s t r h
    cases h with
    | fit meanwhile fits =>
        cases fits with
        | clock => exact ⟨(Scene.lasting_now _).becomes meanwhile (Nat.le_refl _), Nat.le_refl _⟩
  overran := by
    intro s t deadline h
    cases h with
    | fit meanwhile fits =>
        cases fits with
        | overran h => exact h
  unjoined := by
    intro s t deadline h
    cases h with
    | fit meanwhile fits =>
        cases fits with
        | join hj h => exact h rfl
  own := by
    intro s t group h
    cases h with
    | fit meanwhile fits =>
        cases fits with
        | ownGroup => exact (Scene.lasting_ownGroup _).becomes meanwhile rfl
  numbered := by
    intro s t path pid h
    cases h with
    | fit meanwhile fits =>
        cases fits with
        | launched pid pos word other =>
            rw [(Scene.lasting_ownGroup s.ownGroup).becomes meanwhile rfl] at other
            exact ⟨pos, word, other⟩
  grouped := by
    intro s t process group h
    cases h with
    | fit meanwhile fits =>
        cases fits with
        | grouped pos word => exact ⟨pos, word⟩

/-! ## Restraint -/

/-- The number of a child is its process number. -/
lemma processNumber_of_lt {pid : Nat} (h : pid < 2147483648) : processNumber pid = pid :=
  Int.bmod_eq_of_le_mul_two (by omega) (by omega)

/-- A group that is not the supervisor's own. -/
def Foreign (own group : Int) : Prop := 0 < group ∧ group ≠ own

namespace Surroundings

variable {τ α : Type}

/-- The deadline of a run that started then has passed. -/
def Overdue (w : Surroundings τ) (timeout : Duration) (start : Instant) (s : τ) : Prop :=
  ∃ deadline, start.add? timeout = some deadline ∧ (w.now s).reached deadline = true

/-- Force is used only after the deadline, and only on groups that are not the supervisor's own. -/
def Restrained (w : Surroundings τ) (timeout : Duration) (start : Instant) (e : Exchange τ) : Prop :=
  ∀ force, e.turn.request.force? = some force → w.Overdue timeout start e.before ∧
    ∀ group, force.group? = some group → Foreign (w.ownGroup e.before) group

/-- The deadline has passed, and this is the supervisor's own group. -/
structure Ready (w : Surroundings τ) (timeout : Duration) (start : Instant) (own : Int) (s : τ) :
    Prop where
  overdue : w.Overdue timeout start s
  own : w.ownGroup s = own

variable {w : Surroundings τ} {timeout : Duration} {start : Instant} {own : Int} {s t : τ}

lemma Overdue.after {turn : Turn} (h : w.Overdue timeout start s) (ha : w.answers s turn t) :
    w.Overdue timeout start t := by
  obtain ⟨deadline, hdeadline, hreached⟩ := h
  refine ⟨deadline, hdeadline, ?_⟩
  rw [Instant.reached, decide_eq_true_eq] at hreached ⊢
  exact Nat.le_trans hreached (w.forward ha)

/-- A request that uses no force is restrained. -/
lemma restrained_of_calm {r : Request} {a : r.Answer} (hr : r.force? = none) :
    w.Restrained timeout start ⟨s, ⟨r, a⟩, t⟩ := by
  intro force hforce
  rw [show r.force? = some force from hforce] at hr
  cases hr

/-- Restraint of a program that starts after the deadline. -/
def Patient (w : Surroundings τ) (timeout : Duration) (start : Instant) (own : Int)
    (Q : α → Prop) (p : Program α) : Prop :=
  ∀ s, w.Ready timeout start own s →
    p.Always w.answers (w.Restrained timeout start)
      (fun x t => Q x ∧ w.Ready timeout start own t) s

namespace Patient

variable {β : Type} {Q : β → Prop} {R : α → Prop}

lemma done {x : β} (h : Q x) : w.Patient timeout start own Q (.done x) := fun _ hs => ⟨h, hs⟩

lemma bind {p : Program α} {f : α → Program β} (hp : w.Patient timeout start own R p)
    (hf : ∀ x, R x → w.Patient timeout start own Q (f x)) :
    w.Patient timeout start own Q (p.bind f) :=
  fun s hs => .bind (hp s hs) fun x t hx => hf x hx.1 t hx.2

lemma later {t : Instant} {d : Duration} {f : Instant → Program β}
    (hf : ∀ sum, w.Patient timeout start own Q (f sum)) :
    w.Patient timeout start own Q ((Program.later t d).bind f) :=
  fun s hs => .later fun sum _ => hf sum s hs

/-- The rule for a request: force is used on foreign groups only.  What is known of the answer may
    be used for what comes after it. -/
lemma request {r : Request} {f : r.Answer → Program β}
    (hr : ∀ force, r.force? = some force → ∀ group, force.group? = some group → Foreign own group)
    (hf : ∀ a s t, w.Ready timeout start own s → w.answers s ⟨r, a⟩ t →
      w.Patient timeout start own Q (f a)) :
    w.Patient timeout start own Q ((Program.request r).bind f) := by
  refine fun s hs => .request fun a t ha => ⟨fun force hforce => ⟨hs.overdue, ?_⟩, ?_⟩
  · intro group hg
    rw [hs.own]
    exact hr force hforce group hg
  · exact hf a s t hs ha t ⟨hs.overdue.after ha, (w.settled ha).trans hs.own⟩

/-- The rule for a request that uses no force. -/
lemma calm {r : Request} {f : r.Answer → Program β} (hr : r.force? = none)
    (hf : ∀ a, w.Patient timeout start own Q (f a)) :
    w.Patient timeout start own Q ((Program.request r).bind f) := by
  refine request (fun force hforce => ?_) fun a _ _ _ _ => hf a
  rw [hr] at hforce
  cases hforce

/-- The rule for a signal or a probe. -/
lemma group {r : Request} {f : r.Answer → Program β} {force : Force} {g : Int}
    (hr : r.force? = some force) (hg : force.group? = some g) (foreign : Foreign own g)
    (hf : ∀ a, w.Patient timeout start own Q (f a)) :
    w.Patient timeout start own Q ((Program.request r).bind f) := by
  refine request (fun force' hforce group hgroup => ?_) fun a _ _ _ _ => hf a
  rw [hr, Option.some.injEq] at hforce
  rw [← hforce, hg, Option.some.injEq] at hgroup
  rw [← hgroup]
  exact foreign

end Patient

/-! ### After the deadline -/

/-- An attempt to end a group spares the supervisor's own, and any group that was told to end is
    foreign. -/
lemma killGroup_patient (pid : Nat) :
    w.Patient timeout start own (fun verdict => ∀ group, verdict = .ok group → Foreign own group)
      (killGroup pid) := by
  simp only [killGroup, bind_eq, pure_eq]
  refine .request (fun _ h => by cases h) fun found s t hs hfound => ?_
  cases found with
  | error cause => exact .done fun _ h => by cases h
  | ok group =>
      refine .request (fun _ h => by cases h) fun mine s t hs hmine => ?_
      have hown : mine = own := (w.own hmine).trans hs.own
      by_cases heq : group = mine
      · rw [if_pos heq]
        exact .done fun _ h => by cases h
      · rw [if_neg heq]
        have foreign : Foreign own group := ⟨(w.grouped hfound).1, hown ▸ heq⟩
        refine .group rfl rfl foreign fun result => ?_
        cases result with
        | error cause => exact .done fun _ h => by cases h
        | ok _ =>
            refine .done fun g h => ?_
            cases h
            exact foreign

lemma pollOnce_patient {group : Int} (foreign : Foreign own group) (deadline : Instant) :
    w.Patient timeout start own (fun _ => True) (pollOnce group deadline) := by
  simp only [pollOnce, bind_eq, pure_eq]
  refine .group rfl rfl foreign fun result => ?_
  cases result with
  | error cause => exact .done trivial
  | ok _ =>
      refine .calm rfl fun now => ?_
      split
      · exact .done trivial
      · exact .calm rfl fun again => .calm rfl fun _ => .done trivial

lemma pollOn_patient {group : Int} (foreign : Foreign own group) (deadline : Instant)
    (fuel : Nat) : w.Patient timeout start own (fun _ => True) (pollOn group deadline fuel) := by
  induction fuel with
  | zero => exact fun _ _ => trivial
  | succ fuel ih =>
      simp only [pollOn, bind_eq, pure_eq]
      refine .bind (pollOnce_patient foreign deadline) fun found _ => ?_
      cases found with
      | gone => exact .done trivial
      | outlived => exact .done trivial
      | timeLeft span => exact ih

lemma groupOutlives_patient {group : Int} (foreign : Foreign own group) (deadline : Instant) :
    w.Patient timeout start own (fun _ => True) (groupOutlives group deadline) := by
  simp only [groupOutlives, bind_eq, pure_eq]
  refine .bind (pollOnce_patient foreign deadline) fun found _ => ?_
  cases found with
  | gone => exact .done trivial
  | outlived => exact .done trivial
  | timeLeft span => exact pollOn_patient foreign deadline _

lemma timeOut_patient {group : Int} (foreign : Foreign own group) (limits : Limits) :
    w.Patient timeout start own (fun _ => True) (timeOut limits group) := by
  have drained : w.Patient timeout start own (fun _ => True) (awaitDrains limits) := by
    simp only [awaitDrains, bind_eq, pure_eq]
    refine .calm rfl fun now => .later fun drainEnd => .calm rfl fun joined => ?_
    cases joined with
    | true => exact .done trivial
    | false => exact .calm rfl fun _ => .done trivial
  have escalated : w.Patient timeout start own (fun _ => True)
      (escalate group limits.killGrace) := by
    simp only [escalate, bind_eq]
    refine .group rfl rfl foreign fun _ => ?_
    rw [← bind_done (exitWithin limits.killGrace)]
    exact .calm rfl fun _ => .done trivial
  simp only [timeOut, bind_eq]
  refine .calm rfl fun now => .later fun graceEnd => .calm rfl fun _ => ?_
  split
  · refine .bind (groupOutlives_patient foreign graceEnd) fun outlived _ => ?_
    split
    · exact .bind escalated fun _ _ => drained
    · exact drained
  · exact drained

/-- **What follows a deadline** is patient. -/
lemma expire_patient (limits : Limits) (pid : Option Nat) :
    w.Patient timeout start own (fun _ => True) (expire limits pid) := by
  cases pid with
  | none => exact .done trivial
  | some pid =>
      rw [expire_some]
      refine .bind (killGroup_patient pid) fun verdict hverdict => ?_
      cases verdict with
      | error failure =>
          refine .request (fun _ h g hg => ?_) fun _ _ _ _ _ => .calm rfl fun _ => .done trivial
          cases h
          cases hg
      | ok group => exact timeOut_patient (hverdict group rfl) limits

/-! ### Whole runs -/

/-- Winding up uses force only when waiting for the drains was given up, on the child's group. -/
lemma windUp_restrained {pid : Option Nat} {deadline : Instant}
    (hdeadline : start.add? timeout = some deadline) (hown : w.ownGroup s = own)
    (hpid : ∀ child, pid = some child → Foreign own (processNumber child)) :
    (windUp pid deadline).Always w.answers (w.Restrained timeout start) (fun _ _ => True) s := by
  simp only [windUp, bind_eq, pure_eq]
  refine .request fun joined t ha => ⟨restrained_of_calm rfl, ?_⟩
  cases joined with
  | true => trivial
  | false =>
      have ready : w.Ready timeout start own t :=
        ⟨⟨deadline, hdeadline, w.unjoined ha⟩, (w.settled ha).trans hown⟩
      cases pid with
      | none => exact .request fun _ u hu => ⟨restrained_of_calm rfl, trivial⟩
      | some child =>
          refine .request fun _ u hu => ⟨fun force hforce => ⟨ready.overdue, fun g hg => ?_⟩, ?_⟩
          · obtain rfl : Force.signal (processNumber child) .kill = force := Option.some.inj hforce
            obtain rfl : processNumber child = g := Option.some.inj hg
            rw [ready.own]
            exact hpid child rfl
          · exact .request fun _ v hv => ⟨restrained_of_calm rfl, trivial⟩

lemma aftermath_restrained {limits : Limits} {pid : Option Nat} {began : Timestamp}
    {deadline : Instant} {raced : Option (Except IoError Int32)}
    (hdeadline : start.add? limits.timeout = some deadline) (hown : w.ownGroup s = own)
    (hpid : ∀ child, pid = some child → Foreign own (processNumber child))
    (overran : raced = none → (w.now s).reached deadline = true) :
    (aftermath limits pid began start deadline raced).Always w.answers
      (w.Restrained limits.timeout start) (fun _ _ => True) s := by
  have concluded (status : RunStatus) (u : τ) :
      (conclude status pid began start).Always w.answers (w.Restrained limits.timeout start)
        (fun _ _ => True) u :=
    .of_asks (conclude_final _ _ _ _) (fun e he => restrained_of_calm he.calm) u
  cases raced with
  | some waited =>
      exact .bind (windUp_restrained hdeadline hown hpid) fun _ u _ => concluded _ u
  | none =>
      have ready : w.Ready limits.timeout start own s := ⟨⟨deadline, hdeadline, overran rfl⟩, hown⟩
      exact .bind (expire_patient limits pid s ready) fun status u _ => concluded status u

/-- **Every exchange of every run is restrained**: force is used only once the deadline has passed,
    which counts from the first reading of the clock, and only on groups that are not the
    supervisor's own. -/
theorem run_restrained {limits : Limits} {script : String} {p : Program Outcome}
    {exchanges : List (Exchange τ)}
    (course : Dialogue w.answers (run limits script) s exchanges p t) :
    ∀ e ∈ exchanges, ∀ force, e.turn.request.force? = some force →
      ∃ start, (readings (Dialogue.turns exchanges)).head? = some start ∧
        w.Overdue limits.timeout start e.before ∧
        ∀ group, force.group? = some group → Foreign (w.ownGroup e.before) group := by
  simp only [run, bind_eq] at course
  rcases course.of_request with rfl | ⟨began, s₁, later, -, rfl, rest₁⟩
  · exact fun e he => absurd he List.not_mem_nil
  rcases rest₁.of_request with rfl | ⟨start, s₂, later, -, rfl, rest₂⟩
  · intro e he force hforce
    rw [List.mem_singleton.mp he] at hforce
    cases hforce
  intro e he force hforce
  refine ⟨start, rfl, ?_⟩
  rcases List.mem_cons.mp he with rfl | he
  · cases hforce
  rcases List.mem_cons.mp he with rfl | he
  · cases hforce
  -- the rest of the run, with the first reading fixed
  suffices h : Program.Always w.answers (w.Restrained limits.timeout start) (fun _ _ => True) _ s₂ from
    (h.sound rest₂).1 e he force hforce
  cases hpath : Script.normalize script with
  | none => exact .of_asks (notLaunched_final _ _ _ _) (fun e he => restrained_of_calm he.calm) s₂
  | some path =>
      refine .request fun launched s₃ hlaunch => ⟨restrained_of_calm rfl, ?_⟩
      cases launched with
      | error cause =>
          exact .of_asks (notLaunched_final _ _ _ _) (fun e he => restrained_of_calm he.calm) s₃
      | ok pid =>
          refine .later fun deadline hdeadline => .request fun raced s₄ hrace =>
            ⟨restrained_of_calm rfl, ?_⟩
          have hown : w.ownGroup s₄ = w.ownGroup s₂ := (w.settled hrace).trans (w.settled hlaunch)
          have hpid (child : Nat) (h : pid = some child) :
              Foreign (w.ownGroup s₂) (processNumber child) := by
            subst h
            obtain ⟨pos, word, other⟩ := w.numbered hlaunch
            rw [processNumber_of_lt word]
            exact ⟨Int.natCast_pos.mpr pos, other⟩
          have overran (h : raced = none) : (w.now s₄).reached deadline = true := by
            subst h
            exact w.overran hrace
          have rest : (aftermath limits pid began start deadline raced).Always w.answers
              (w.Restrained limits.timeout start) (fun _ _ => True) s₄ :=
            aftermath_restrained hdeadline hown hpid overran
          cases raced <;> exact rest

end Surroundings

/-! ## Runs without force -/

lemma later_silent {t : Instant} {d : Duration} {turns : List Turn} {q : Program Instant}
    (h : (later t d).Leaves turns q) : turns = [] := by
  rw [later] at h
  cases ht : t.add? d with
  | none =>
      rw [ht] at h
      exact (leaves_crash.mp h).1
  | some sum =>
      rw [ht] at h
      exact (leaves_done.mp h).1

lemma final_forces {α : Type} {p q : Program α} {turns : List Turn}
    (hp : p.Asks Request.Final fun _ => True) (h : p.Leaves turns q) : forces turns = [] :=
  forces_of_calm fun turn hm => ((hp.of_leaves h).1 turn hm).calm

/-- Drains that end in time are wound up without force. -/
lemma windUp_calm {pid : Option Nat} {deadline d : Instant} {turns : List Turn} {q : Program Unit}
    (h : (windUp pid deadline).Leaves turns q) (joined : ⟨.joinUntil d, true⟩ ∈ turns) :
    forces turns = [] := by
  simp only [windUp, bind_eq, pure_eq] at h
  rcases leaves_request h with rfl | ⟨answer, later, rfl, h₁⟩
  · rfl
  cases answer with
  | true =>
      obtain ⟨rfl, -⟩ := leaves_done.mp h₁
      rfl
  | false =>
      -- waiting is not taken up again
      exfalso
      cases pid with
      | none =>
          rcases leaves_request h₁ with rfl | ⟨_, later, rfl, h₂⟩
          · simp at joined
          · obtain ⟨rfl, -⟩ := leaves_done.mp h₂
            simp at joined
      | some child =>
          rcases leaves_request h₁ with rfl | ⟨result, later, rfl, h₂⟩
          · simp at joined
          rcases leaves_request h₂ with rfl | ⟨_, later, rfl, h₃⟩
          · simp at joined
          · obtain ⟨rfl, -⟩ := leaves_done.mp h₃
            simp at joined

/-- What follows the exit of a script is calm if the drains end in time. -/
lemma aftermath_calm {limits : Limits} {pid : Option Nat} {began : Timestamp}
    {start deadline d : Instant} {waited : Except IoError Int32} {turns : List Turn}
    {q : Program Outcome}
    (h : (aftermath limits pid began start deadline (some waited)).Leaves turns q)
    (joined : ⟨.joinUntil d, true⟩ ∈ turns) : forces turns = [] := by
  rcases leaves_bind h with ⟨p', wound, -⟩ | ⟨first, last, _, rfl, wound, ended⟩
  · exact windUp_calm wound joined
  · rw [forces_append, final_forces (conclude_final _ _ _ _) ended, List.append_nil]
    rcases List.mem_append.mp joined with joined | joined
    · exact windUp_calm wound joined
    · exact absurd (((conclude_final _ _ _ _).of_leaves ended).1 _ joined) id

/-- A run has used no force yet, or it has come past the race of the exit with the deadline, which
    no force was used before. -/
lemma run_raced {limits : Limits} {script : String} {turns : List Turn} {q : Program Outcome}
    (h : (run limits script).Leaves turns q) :
    forces turns = [] ∨ ∃ began start path pid deadline raced later,
      Script.normalize script = some path ∧
      turns = ⟨.wallClock, began⟩ :: ⟨.clock, start⟩ :: ⟨.launch path, .ok pid⟩ ::
        ⟨.exitOrDeadline deadline, raced⟩ :: later ∧
      (aftermath limits pid began start deadline raced).Leaves later q := by
  simp only [run, bind_eq] at h
  rcases leaves_request h with rfl | ⟨began, later, rfl, h₁⟩
  · exact .inl rfl
  rcases leaves_request h₁ with rfl | ⟨start, later, rfl, h₂⟩
  · exact .inl rfl
  cases hpath : Script.normalize script with
  | none =>
      simp only [hpath] at h₂
      left
      show forces later = []
      exact final_forces (notLaunched_final _ _ _ _) h₂
  | some path =>
      simp only [hpath] at h₂
      rcases leaves_request h₂ with rfl | ⟨launched, later, rfl, h₃⟩
      · exact .inl rfl
      cases launched with
      | error cause =>
          left
          show forces later = []
          exact final_forces (notLaunched_final _ _ _ _) h₃
      | ok pid =>
          rcases leaves_bind h₃ with ⟨p', hlater, -⟩ | ⟨first, later, deadline, rfl, hlater, h₄⟩
          · rw [later_silent hlater]
            exact .inl rfl
          rw [later_silent hlater]
          rcases leaves_request h₄ with rfl | ⟨raced, later, rfl, h₅⟩
          · exact .inl rfl
          · refine .inr ⟨began, start, path, pid, deadline, raced, later, rfl, rfl, ?_⟩
            cases raced <;> exact h₅

/-- **A run uses no force** if its script is not started, or exits and has its drains end in
    time. -/
theorem run_calm {limits : Limits} {script : String} {turns : List Turn} {q : Program Outcome}
    (h : (run limits script).Leaves turns q)
    (spared : Unlaunched script turns ∨
      ((∃ deadline waited, ⟨.exitOrDeadline deadline, some waited⟩ ∈ turns) ∧
        ∃ deadline, ⟨.joinUntil deadline, true⟩ ∈ turns)) : forces turns = [] := by
  rcases run_raced h with silent |
    ⟨began, start, path, pid, deadline, raced, later, hpath, rfl, rest⟩
  · exact silent
  -- what follows the race is neither a launch nor another race
  have late := ((aftermath_asks _ _ _ _ _ _).of_leaves rest).1
  show forces later = []
  rcases spared with (hnone | ⟨p, cause, hm⟩) | ⟨⟨d, waited, hm⟩, d', joined⟩
  · rw [hpath] at hnone
    cases hnone
  · have again : ⟨.launch p, .error cause⟩ ∈ later := by simpa using hm
    exact absurd (late _ again) id
  · have hraced : raced = some waited := by
      by_contra hne
      have again : ⟨.exitOrDeadline d, some waited⟩ ∈ later := by
        simpa [Ne.symm hne] using hm
      exact late _ again
    subst hraced
    exact aftermath_calm rest (by simpa using joined)

/-! ## Runs with one signal -/

/-- The same turn, with another answer if it was a signal. -/
def Turn.redeliver (result : Except Errno Unit) : Turn → Turn
  | ⟨.signal group s, _⟩ => ⟨.signal group s, result⟩
  | turn => turn

/-- **A script that has exited but left its drains unfinished** costs its group one signal.  The
    status is that of the exit, resolved with the captures, and whether the signal is delivered
    makes no difference: the run might have gone the same way with any other answer. -/
theorem Course.leftover {limits : Limits} {script path : String} {turns : List Turn}
    {outcome : Outcome} {deadline d : Instant} {waited : Except IoError Int32} {child : Nat}
    (h : Course limits script turns outcome)
    (exited : ⟨.exitOrDeadline deadline, some waited⟩ ∈ turns)
    (unjoined : ⟨.joinUntil d, false⟩ ∈ turns)
    (launched : ⟨.launch path, .ok (some child)⟩ ∈ turns) :
    forces turns = [.signal (processNumber child) .kill] ∧
      (∃ out err, ⟨.collect, (out, err)⟩ ∈ turns ∧
        outcome.status = (RunStatus.ofWaited waited).resolve out.failure err.failure) ∧
      ∀ result, (run limits script).Leaves (turns.map (Turn.redeliver result)) (.done outcome) := by
  cases h with
  | pathless began start now hpath => simp at exited
  | refused began start now cause hpath => simp at exited
  | @started _ _ _ limit _ _ _ began out err now hpath hdeadline between =>
      obtain ⟨-, rfl⟩ := between.race_unique exited
      obtain ⟨rfl, hpid⟩ := between.launch_unique launched
      cases hpid
      cases between with
      | exited waited wound =>
          cases windUp_ends wound with
          | joined => simp at unjoined
          | stopped hpid => cases hpid
          | killed hpid answer =>
              cases hpid
              refine ⟨rfl, ⟨out, err, by simp, rfl⟩, fun result => ?_⟩
              have again : WoundUp (some child) limit _ := .killed rfl result
              exact (Course.started began out err now hpath hdeadline
                (.exited waited again.leaves)).leaves

/-! ## The restraint of a run -/

/-- **Restraint over whole runs.**  In every run, finished or not:

    * other processes are signalled, probed or killed only once the deadline has passed, which
      counts from the first reading of the clock, and never the supervisor's own group;
    * nothing is done to them if the script is not started, or exits and has its drains end in
      time.

    A run whose script exits in time but leaves a drain unfinished sends one signal, which kills
    the group that the number of the child names; whether that is delivered has no influence on
    the status, nor on anything else in the outcome.

    That a script exits in time, and that its drains end in time, is read off the answers to the
    two waits.  `force_grounded` says what these answers stand for: a child that has exited, tasks
    that have both ended. -/
theorem signals_restrained {τ : Type} {w : Surroundings τ} {limits : Limits} {script : String}
    {s t : τ} {p : Program Outcome} {exchanges : List (Exchange τ)}
    (course : Dialogue w.answers (run limits script) s exchanges p t) :
    (∀ e ∈ exchanges, ∀ force, e.turn.request.force? = some force →
      ∃ start deadline, (readings (Dialogue.turns exchanges)).head? = some start ∧
        start.add? limits.timeout = some deadline ∧
        (w.now e.before).reached deadline = true ∧
        ∀ group, force.group? = some group → 0 < group ∧ group ≠ w.ownGroup e.before) ∧
    (Unlaunched script (Dialogue.turns exchanges) ∨
      ((∃ deadline waited,
          ⟨.exitOrDeadline deadline, some waited⟩ ∈ Dialogue.turns exchanges) ∧
        ∃ deadline, ⟨.joinUntil deadline, true⟩ ∈ Dialogue.turns exchanges) →
      forces (Dialogue.turns exchanges) = []) ∧
    ∀ outcome path (child : Nat) deadline waited d, p = .done outcome →
      ⟨.launch path, .ok (some child)⟩ ∈ Dialogue.turns exchanges →
      ⟨.exitOrDeadline deadline, some waited⟩ ∈ Dialogue.turns exchanges →
      ⟨.joinUntil d, false⟩ ∈ Dialogue.turns exchanges →
      forces (Dialogue.turns exchanges) = [.signal child .kill] ∧
      (∃ out err, ⟨.collect, (out, err)⟩ ∈ Dialogue.turns exchanges ∧
        outcome.status = (RunStatus.ofWaited waited).resolve out.failure err.failure) ∧
      ∀ result, (run limits script).Leaves
        ((Dialogue.turns exchanges).map (Turn.redeliver result)) (.done outcome) := by
  refine ⟨fun e he force hforce => ?_, run_calm course.leaves, ?_⟩
  · obtain ⟨start, hstart, ⟨deadline, hdeadline, hreached⟩, hgroup⟩ :=
      Surroundings.run_restrained course e he force hforce
    exact ⟨start, deadline, hstart, hdeadline, hreached, hgroup⟩
  · rintro outcome path child deadline waited d rfl launched exited unjoined
    have leftover := (run_ends course.leaves).leftover exited unjoined launched
    obtain ⟨_, _, _, _, _, _, -, answered, -⟩ := course.split launched
    rwa [processNumber_of_lt (w.numbered answered).2.1] at leftover

/-- A script exits and leaves its streams open to another process.  At the deadline its group is
    sent one signal, which finds nobody. -/
theorem restraint_of_leftover :
    ∃ (s t : Scene) (exchanges : List (Exchange Scene)) (outcome : Outcome),
      Dialogue Scene.surroundings.answers (run ⟨.ofSeconds 1, .ofMillis 200, true⟩ "./greet") s
        exchanges (.done outcome) t ∧
      forces (Dialogue.turns exchanges) = [.signal 7 .kill] ∧
      (∃ out err, ⟨.collect, (out, err)⟩ ∈ Dialogue.turns exchanges ∧
        outcome.status = (RunStatus.ofWaited (.ok 0)).resolve out.failure err.failure) := by
  have course : Dialogue Scene.surroundings.answers
      (run ⟨.ofSeconds 1, .ofMillis 200, true⟩ "./greet") (.opening .obliging .obliging) _
      (.done _) _ :=
    .turn (.fit .refl (.wallClock _ ⟨0, 0⟩)) <|
    .turn (.fit .refl (.clock _)) <|
    .turn (.fit .refl (.launched 7 (by decide) (by decide) (by decide))) <|
    .turn (.fit (.head (.exit rfl) .refl) (.exited _ 0 rfl)) <|
    .turn (.fit (.head (.pass ⟨1000000000⟩ (by decide)) .refl) (.join rfl fun _ => by decide)) <|
    .turn (.fit .refl (.signal _ 7 .kill (.error .noProcess))) <|
    .turn (.stopDrains
      (.head (.drain .stdout rfl (.heed rfl rfl)) <|
        .head (.drain .stderr rfl (.heed rfl rfl)) .refl) rfl) <|
    .turn (.fit .refl (.collect rfl)) <|
    .turn (.fit .refl (.clock _)) <|
    .start _ _
  obtain ⟨-, -, leftover⟩ := signals_restrained course
  obtain ⟨hforces, hstatus, -⟩ := leftover _ "./greet" 7 _ (.ok 0) _ rfl
    (.tail _ <| .tail _ <| .head _) (.tail _ <| .tail _ <| .tail _ <| .head _)
    (.tail _ <| .tail _ <| .tail _ <| .tail _ <| .head _)
  exact ⟨_, _, _, _, course, hforces, hstatus⟩

end Curfew.Supervisor
