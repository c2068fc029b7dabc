import Curfew.Proofs.Supervisor.Restraint

/-!
# Whose group a number names

A script is launched to lead a process group, and the number of the group is that of the child.
The number stays with the group while the child was not waited for or the group has a member.  Then
the system may give it to a group that has nothing to do with the script.  A supervisor knows the
number only.

* **`Census`** — what the system knows of the group: whether the child was waited for, how many
  others are in it, and whose the number is.  `Census.Shifts` says what happens to it by itself.
* **`Realm`** — a scene with its census, and the turns so far.  In `Realm.Answers`, waiting for a
  child that has exited may take its number from it, and nobody can be signalled where there is
  nobody.
* **`Realm.Owned`** — how a signal is sent: a request to end, while the child was not waited for; the
  signal that kills, for one of two reasons, and once.
* **`signals_owned`** — so it is in every exchange of every run, finished or not, and the number is
  the script's unless its group is gone.
* **`strangers_killed`** — it may be gone, for either reason.
-/

namespace Curfew.Supervisor

open Program
open Capture (Behaviour)

/-! ## The group of a script -/

/-- Whose the number of the script's group is. -/
inductive Bearer
  | script
  | nobody
  /-- A group that has nothing to do with the script. -/
  | stranger
deriving DecidableEq, Repr

structure Census where
  /-- The child was launched, and was not waited for yet. -/
  unreaped : Bool
  /-- How many other processes are in the group. -/
  others : Nat
  bearer : Bearer
deriving DecidableEq, Repr

namespace Census

/-- The group exists. -/
def Alive (c : Census) : Prop := c.unreaped = true ∨ 0 < c.others

instance (c : Census) : Decidable c.Alive :=
  inferInstanceAs (Decidable (c.unreaped = true ∨ 0 < c.others))

/-- Before the launch. -/
def unborn : Census := ⟨false, 0, .nobody⟩

/-- At the launch. -/
def born : Census := ⟨true, 0, .script⟩

/-- The child was waited for. -/
def reap (c : Census) : Census := { c with unreaped := false }

/-- Something happens to the group, or to its number. -/
inductive Shifts : Census → Census → Prop
  | join {c : Census} (alive : c.Alive) : Shifts c { c with others := c.others + 1 }
  | leave {c : Census} : Shifts c { c with others := c.others - 1 }
  /-- A group that is gone gives up its number. -/
  | lapse {c : Census} (gone : ¬ c.Alive) (own : c.bearer = .script) :
      Shifts c { c with bearer := .nobody }
  | taken {c : Census} (free : c.bearer = .nobody) : Shifts c { c with bearer := .stranger }
  | vacated {c : Census} (other : c.bearer = .stranger) : Shifts c { c with bearer := .nobody }

abbrev Becomes : Census → Census → Prop := Relation.ReflTransGen Shifts

/-- The number of a group that exists is its own. -/
def Sound (c : Census) : Prop := c.Alive → c.bearer = .script

lemma Sound.of_free {c : Census} (h : c.Sound) (other : c.bearer ≠ .script) : ¬ c.Alive :=
  fun alive => other (h alive)

lemma Shifts.sound {c c' : Census} (h : Shifts c c') (hc : c.Sound) : c'.Sound := by
  cases h with
  | join alive => exact fun _ => hc alive
  | leave => exact fun alive => hc (alive.imp_right fun some => Nat.lt_of_lt_of_le some (Nat.sub_le _ _))
  | lapse gone own => exact fun alive => absurd alive gone
  | taken free => exact fun alive => absurd alive (hc.of_free (by rw [free]; exact Bearer.noConfusion))
  | vacated other =>
      exact fun alive => absurd alive (hc.of_free (by rw [other]; exact Bearer.noConfusion))

/-- Nothing that happens to a group waits for the child. -/
lemma Shifts.unreaped {c c' : Census} (h : Shifts c c') : c'.unreaped = c.unreaped := by
  cases h <;> rfl

lemma Becomes.sound {c c' : Census} (h : c.Becomes c') (hc : c.Sound) : c'.Sound := by
  induction h with
  | refl => exact hc
  | tail _ step ih => exact step.sound ih

lemma Becomes.unreaped {c c' : Census} (h : c.Becomes c') : c'.unreaped = c.unreaped := by
  induction h with
  | refl => rfl
  | tail _ step ih => exact step.unreaped.trans ih

lemma unborn_sound : unborn.Sound := fun alive => absurd alive (by decide)

lemma born_sound : born.Sound := fun _ => rfl

lemma Sound.reap {c : Census} (h : c.Sound) : c.reap.Sound :=
  fun alive => h (alive.imp_left fun unreaped => Bool.noConfusion unreaped)

end Census

/-- The number is that of the group which the child was launched to lead. -/
def Scene.Leads (s : Scene) (g : Int) : Prop := ∃ pid : Nat, s.child = some pid ∧ g = pid

/-- What a turn does to the group.  Waiting for the child can succeed only once it has exited; a
    wait that fails may mean that somebody else has waited for it.  A signal or a probe that goes
    through has found somebody. -/
def Census.Fits (s : Scene) (c : Census) (turn : Turn) (c' : Census) : Prop :=
  match turn with
  | ⟨.launch _, .ok (some _)⟩ => c' = .born
  | ⟨.exitOrDeadline _, some (.ok _)⟩ => c' = c.reap
  | ⟨.exitOrDeadline _, some (.error _)⟩ => c' = c ∨ c' = c.reap
  | ⟨.exitUntil _, _⟩ => c' = c ∨ s.exited = true ∧ c' = c.reap
  | ⟨.exitWithin _, _⟩ => c' = c ∨ s.exited = true ∧ c' = c.reap
  | ⟨.signal g _, .ok _⟩ => c' = c ∧ (s.Leads g → c.bearer ≠ .nobody)
  | ⟨.probe g, .ok _⟩ => c' = c ∧ (s.Leads g → c.bearer ≠ .nobody)
  | _ => c' = c

/-- Whether the child may have been waited for in a turn. -/
def Turn.reaps : Turn → Bool
  | ⟨.launch _, .ok (some _)⟩ => true
  | ⟨.exitOrDeadline _, some _⟩ => true
  | ⟨.exitUntil _, _⟩ => true
  | ⟨.exitWithin _, _⟩ => true
  | _ => false

namespace Census.Fits

variable {s : Scene} {c c' : Census} {turn : Turn}

lemma cases (h : c.Fits s turn c') : c' = c ∨ c' = c.reap ∨ c' = .born := by
  unfold Fits at h
  split at h
  · exact .inr (.inr h)
  · exact .inr (.inl h)
  · exact h.imp_right .inl
  · exact h.imp_right fun h => .inl h.2
  · exact h.imp_right fun h => .inl h.2
  · exact .inl h.1
  · exact .inl h.1
  · exact .inl h

lemma sound (h : c.Fits s turn c') (hc : c.Sound) : c'.Sound := by
  rcases h.cases with rfl | rfl | rfl
  · exact hc
  · exact hc.reap
  · exact born_sound

/-- In most turns the child is not waited for. -/
lemma eq (h : c.Fits s turn c') (spares : turn.reaps = false) : c' = c := by
  unfold Fits at h
  split at h
  · cases spares
  · cases spares
  · cases spares
  · cases spares
  · cases spares
  · exact h.1
  · exact h.1
  · exact h

end Census.Fits

/-! ## Scenes with a group -/

structure Realm where
  scene : Scene
  census : Census
  /-- The turns so far. -/
  past : List Turn

namespace Realm

/-- Nothing was asked yet. -/
def opening (s : Scene) : Realm := ⟨s, .unborn, []⟩

/-- If the number is that of the script's group, it is still its own. -/
def Owns (r : Realm) (g : Int) : Prop := r.scene.Leads g → r.census.bearer = .script

/-- A request is answered, after things have happened to the group for a while. -/
inductive Answers : Realm → Turn → Realm → Prop
  | answered {r : Realm} {turn : Turn} {s : Scene} {before after : Census}
      (scene : r.scene.Answers turn s) (meanwhile : r.census.Becomes before)
      (fits : before.Fits s turn after) : Answers r turn ⟨s, after, r.past ++ [turn]⟩

namespace Answers

variable {r t : Realm} {turn : Turn}

lemma past (h : r.Answers turn t) : t.past = r.past ++ [turn] := by
  cases h
  rfl

lemma sound (h : r.Answers turn t) (hr : r.census.Sound) : t.census.Sound := by
  cases h with
  | answered scene meanwhile fits => exact fits.sound (meanwhile.sound hr)

/-- A child that was just launched was not waited for. -/
lemma launched {path : String} {pid : Nat} (h : r.Answers ⟨.launch path, .ok (some pid)⟩ t) :
    t.census.unreaped = true := by
  cases h with
  | answered scene meanwhile fits =>
      obtain rfl : _ = Census.born := fits
      rfl

lemma unreaped (h : r.Answers turn t) (spares : turn.reaps = false) :
    t.census.unreaped = r.census.unreaped := by
  cases h with
  | answered scene meanwhile fits => rw [fits.eq spares, meanwhile.unreaped]

end Answers

/-! ## How signals are sent -/

/-- No group was killed. -/
def Unkilled (past : List Turn) : Prop := ∀ g answer, ⟨.signal g .kill, answer⟩ ∉ past

/-- The exit was seen before the deadline, and a drain has not ended by then. -/
def LeftOpen (past : List Turn) : Prop :=
  ∃ first deadline waited,
    past = first ++ [⟨.exitOrDeadline deadline, some waited⟩, ⟨.joinUntil deadline, false⟩]

/-- The group has taken the request to end, and the child was waited for over the grace period. -/
structure Told (g : Int) (graceEnd : Instant) (past : List Turn) : Prop where
  told : ⟨.signal g .terminate, .ok ()⟩ ∈ past
  waited : ⟨.exitUntil graceEnd, ()⟩ ∈ past

/-- Moreover, a probe has just found somebody, and the grace period was over after it. -/
def Outlived (g : Int) (graceEnd : Instant) (past : List Turn) : Prop :=
  ∃ first r, past = first ++ [⟨.probe g, .ok ()⟩, ⟨.clock, r⟩] ∧ r.reached graceEnd = true ∧
    Told g graceEnd first

/-- A group is asked to end while the child was not waited for.  It is killed for one of two reasons,
    and once. -/
def Owned (e : Exchange Realm) : Prop :=
  ∀ g s answer, e.turn = ⟨.signal g s, answer⟩ →
    match s with
    | .terminate => e.after.census.unreaped = true
    | .kill => Unkilled e.before.past ∧
        (LeftOpen e.before.past ∨ ∃ graceEnd, Outlived g graceEnd e.before.past)

lemma owned_of_quiet {e : Exchange Realm} (h : ∀ g s, e.turn.request ≠ .signal g s) : Owned e := by
  intro g s answer heq
  exact absurd (congrArg Turn.request heq) (h g s)

lemma owned_of_calm {e : Exchange Realm} (h : e.turn.request.Calm) : Owned e :=
  owned_of_quiet fun g s heq => by
    rw [Request.Calm, heq] at h
    cases h

lemma owned_of_kill {r t : Realm} {g : Int} {answer : Except Errno Unit} (unkilled : Unkilled r.past)
    (reason : LeftOpen r.past ∨ ∃ graceEnd, Outlived g graceEnd r.past) :
    Owned ⟨r, ⟨.signal g .kill, answer⟩, t⟩ := by
  intro g' s answer' heq
  cases heq
  exact ⟨unkilled, reason⟩

lemma Unkilled.snoc {past : List Turn} (h : Unkilled past) {turn : Turn}
    (quiet : ∀ g, turn.request ≠ .signal g .kill) : Unkilled (past ++ [turn]) := by
  intro g answer hm
  rcases List.mem_append.mp hm with hm | hm
  · exact h g answer hm
  · exact quiet g (congrArg Turn.request (List.mem_singleton.mp hm)).symm

lemma Answers.unkilled {r t : Realm} {turn : Turn} (h : r.Answers turn t) (hr : Unkilled r.past)
    (quiet : ∀ g, turn.request ≠ .signal g .kill) : Unkilled t.past := h.past ▸ hr.snoc quiet

lemma Told.snoc {g : Int} {graceEnd : Instant} {past : List Turn} (h : Told g graceEnd past)
    (turn : Turn) : Told g graceEnd (past ++ [turn]) :=
  ⟨List.mem_append_left _ h.told, List.mem_append_left _ h.waited⟩

section Signals

variable {r : Realm}

lemma killGroup_owned (pid : Nat) (unreaped : r.census.unreaped = true) (unkilled : Unkilled r.past) :
    (killGroup pid).Always Answers Owned
      (fun verdict t => Unkilled t.past ∧
        ∀ g, verdict = .ok g → ⟨.signal g .terminate, .ok ()⟩ ∈ t.past) r := by
  simp only [killGroup, bind_eq, pure_eq]
  refine .request fun found r₁ h₁ => ⟨owned_of_calm rfl, ?_⟩
  have unkilled₁ : Unkilled r₁.past := h₁.unkilled unkilled (by simp)
  have unreaped₁ : r₁.census.unreaped = true := (h₁.unreaped rfl).trans unreaped
  cases found with
  | error cause => exact ⟨unkilled₁, fun g h => by cases h⟩
  | ok group =>
      refine .request fun own r₂ h₂ => ⟨owned_of_calm rfl, ?_⟩
      have unkilled₂ : Unkilled r₂.past := h₂.unkilled unkilled₁ (by simp)
      have unreaped₂ : r₂.census.unreaped = true := (h₂.unreaped rfl).trans unreaped₁
      split
      · exact ⟨unkilled₂, fun g h => by cases h⟩
      · refine .request fun answer r₃ h₃ => ⟨?_, ?_⟩
        · intro g s answer' heq
          cases heq
          exact (h₃.unreaped rfl).trans unreaped₂
        · have unkilled₃ : Unkilled r₃.past := h₃.unkilled unkilled₂ (by simp)
          cases answer with
          | error cause => exact ⟨unkilled₃, fun g h => by cases h⟩
          | ok _ =>
              refine ⟨unkilled₃, fun g h => ?_⟩
              cases h
              rw [h₃.past]
              exact List.mem_append_right _ (List.mem_singleton_self _)

/-- A round of polling that finds no time left has found the group alive. -/
lemma pollOnce_owned {g : Int} {deadline : Instant} (told : Told g deadline r.past)
    (unkilled : Unkilled r.past) :
    (pollOnce g deadline).Always Answers Owned
      (fun found t => Unkilled t.past ∧
        match found with
        | .gone => True
        | .outlived => Outlived g deadline t.past
        | .timeLeft _ => Told g deadline t.past) r := by
  simp only [pollOnce, bind_eq, pure_eq]
  refine .request fun result r₁ h₁ => ⟨owned_of_quiet fun g s => by simp, ?_⟩
  have unkilled₁ : Unkilled r₁.past := h₁.unkilled unkilled (by simp)
  cases result with
  | error cause => exact ⟨unkilled₁, trivial⟩
  | ok _ =>
      refine .request fun now r₂ h₂ => ⟨owned_of_calm rfl, ?_⟩
      have unkilled₂ : Unkilled r₂.past := h₂.unkilled unkilled₁ (by simp)
      split
      · next reached =>
          refine ⟨unkilled₂, r.past, now, ?_, reached, told⟩
          rw [h₂.past, h₁.past, List.append_assoc]
          rfl
      · refine .request fun again r₃ h₃ => ⟨owned_of_calm rfl, ?_⟩
        refine .request fun _ r₄ h₄ => ⟨owned_of_calm rfl, ?_⟩
        have unkilled₃ : Unkilled r₃.past := h₃.unkilled unkilled₂ (by simp)
        have told₃ : Told g deadline r₃.past := by
          rw [h₃.past, h₂.past, h₁.past]
          exact ((told.snoc _).snoc _).snoc _
        exact ⟨h₄.unkilled unkilled₃ (by simp), h₄.past ▸ told₃.snoc _⟩

lemma pollOn_owned {g : Int} {deadline : Instant} (fuel : Nat) (told : Told g deadline r.past)
    (unkilled : Unkilled r.past) :
    (pollOn g deadline fuel).Always Answers Owned
      (fun outlived t => Unkilled t.past ∧ (outlived = true → Outlived g deadline t.past)) r := by
  induction fuel generalizing r with
  | zero => trivial
  | succ fuel ih =>
      simp only [pollOn, bind_eq, pure_eq]
      refine .bind (pollOnce_owned told unkilled) fun found t h => ?_
      cases found with
      | gone => exact ⟨h.1, fun h => by cases h⟩
      | outlived => exact ⟨h.1, fun _ => h.2⟩
      | timeLeft span => exact ih h.2 h.1

lemma groupOutlives_owned {g : Int} {deadline : Instant} (told : Told g deadline r.past)
    (unkilled : Unkilled r.past) :
    (groupOutlives g deadline).Always Answers Owned
      (fun outlived t => Unkilled t.past ∧ (outlived = true → Outlived g deadline t.past)) r := by
  simp only [groupOutlives, bind_eq, pure_eq]
  refine .bind (pollOnce_owned told unkilled) fun found t h => ?_
  cases found with
  | gone => exact ⟨h.1, fun h => by cases h⟩
  | outlived => exact ⟨h.1, fun _ => h.2⟩
  | timeLeft span => exact pollOn_owned _ h.2 h.1

lemma awaitDrains_calm (limits : Limits) :
    (awaitDrains limits).Asks Request.Calm fun _ => True := by
  simp only [awaitDrains, bind_eq, pure_eq]
  refine .request rfl fun now => .later fun drainEnd _ => .request rfl fun joined => ?_
  cases joined with
  | true => trivial
  | false => exact .request rfl fun _ => trivial

/-- A group that was told to end is killed only if it has outlived the grace period. -/
lemma timeOut_owned {g : Int} (limits : Limits) (told : ⟨.signal g .terminate, .ok ()⟩ ∈ r.past)
    (unkilled : Unkilled r.past) :
    (timeOut limits g).Always Answers Owned (fun _ _ => True) r := by
  have drained (t : Realm) : (awaitDrains limits).Always Answers Owned (fun _ _ => True) t :=
    .of_asks (awaitDrains_calm limits) (fun _ => owned_of_calm) t
  simp only [timeOut, bind_eq]
  refine .request fun now r₁ h₁ => ⟨owned_of_calm rfl, .later fun graceEnd _ => ?_⟩
  refine .request fun _ r₂ h₂ => ⟨owned_of_calm rfl, ?_⟩
  have unkilled₂ : Unkilled r₂.past := h₂.unkilled (h₁.unkilled unkilled (by simp)) (by simp)
  have told₂ : Told g graceEnd r₂.past := by
    rw [h₂.past, h₁.past]
    exact ⟨List.mem_append_left _ (List.mem_append_left _ told),
      List.mem_append_right _ (List.mem_singleton_self _)⟩
  split
  · refine .bind (groupOutlives_owned told₂ unkilled₂) fun outlived t h => ?_
    cases outlived with
    | false => exact drained t
    | true =>
        refine .bind (R := fun _ _ => True) ?_ fun _ t _ => drained t
        exact .request fun answer r₃ h₃ => ⟨owned_of_kill h.1 (.inr ⟨graceEnd, h.2 rfl⟩),
          fun _ r₄ h₄ => ⟨owned_of_calm rfl, trivial⟩⟩
  · exact drained r₂

/-- **What follows the deadline** of a child that was not waited for. -/
lemma expire_owned (limits : Limits) (pid : Option Nat)
    (unreaped : pid.isSome = true → r.census.unreaped = true) (unkilled : Unkilled r.past) :
    (expire limits pid).Always Answers Owned (fun _ _ => True) r := by
  cases pid with
  | none => trivial
  | some pid =>
      rw [expire_some]
      refine .bind (killGroup_owned pid (unreaped rfl) unkilled) fun verdict t h => ?_
      cases verdict with
      | error failure =>
          refine .request fun _ r₁ h₁ => ⟨owned_of_quiet fun g s => by simp, ?_⟩
          exact .request fun _ r₂ h₂ => ⟨owned_of_calm rfl, trivial⟩
      | ok group => exact timeOut_owned limits (h.2 group rfl) h.1

/-- What is left open by a script that has exited is killed at the deadline. -/
lemma windUp_owned {pid : Option Nat} {deadline : Instant} {first : List Turn}
    {waited : Except IoError Int32}
    (exited : r.past = first ++ [⟨.exitOrDeadline deadline, some waited⟩])
    (unkilled : Unkilled r.past) :
    (windUp pid deadline).Always Answers Owned (fun _ _ => True) r := by
  simp only [windUp, bind_eq, pure_eq]
  refine .request fun joined r₁ h₁ => ⟨owned_of_calm rfl, ?_⟩
  cases joined with
  | true => trivial
  | false =>
      have unkilled₁ : Unkilled r₁.past := h₁.unkilled unkilled (by simp)
      have leftOpen : LeftOpen r₁.past :=
        ⟨first, deadline, waited, by rw [h₁.past, exited, List.append_assoc]; rfl⟩
      cases pid with
      | none => exact .request fun _ r₂ h₂ => ⟨owned_of_calm rfl, trivial⟩
      | some child =>
          exact .request fun answer r₂ h₂ => ⟨owned_of_kill unkilled₁ (.inl leftOpen),
            .request fun _ r₃ h₃ => ⟨owned_of_calm rfl, trivial⟩⟩

/-- **Every signal of a run** is sent in such a way. -/
lemma run_owned (limits : Limits) (script : String) (s : Scene) :
    (run limits script).Always Answers Owned (fun _ _ => True) (.opening s) := by
  have concluded (status : RunStatus) (pid : Option Nat) (began : Timestamp) (start : Instant)
      (t : Realm) :
      (conclude status pid began start).Always Answers Owned (fun _ _ => True) t :=
    .of_asks (conclude_final _ _ _ _) (fun _ h => owned_of_calm h.calm) t
  have unlaunched (path : Bytes) (cause : IoError) (began : Timestamp) (start : Instant)
      (t : Realm) :
      (notLaunched path cause began start).Always Answers Owned (fun _ _ => True) t :=
    .of_asks (notLaunched_final _ _ _ _) (fun _ h => owned_of_calm h.calm) t
  have unkilled : Unkilled (opening s).past := fun _ _ h => by cases h
  simp only [run, bind_eq]
  refine .request fun began r₁ h₁ => ⟨owned_of_calm rfl, ?_⟩
  refine .request fun start r₂ h₂ => ⟨owned_of_calm rfl, ?_⟩
  have unkilled₂ : Unkilled r₂.past := h₂.unkilled (h₁.unkilled unkilled (by simp)) (by simp)
  cases Script.normalize script with
  | none => exact unlaunched _ _ _ _ r₂
  | some path =>
      refine .request fun launched r₃ h₃ => ⟨owned_of_calm rfl, ?_⟩
      cases launched with
      | error cause => exact unlaunched _ _ _ _ r₃
      | ok pid =>
          refine .later fun deadline _ => .request fun raced r₄ h₄ => ⟨owned_of_calm rfl, ?_⟩
          have unkilled₄ : Unkilled r₄.past :=
            h₄.unkilled (h₃.unkilled unkilled₂ (by simp)) (by simp)
          cases raced with
          | some waited =>
              exact .bind (windUp_owned h₄.past unkilled₄) fun _ t _ => concluded _ _ _ _ t
          | none =>
              refine .bind (expire_owned limits pid (fun launched => ?_) unkilled₄)
                fun status t _ => concluded _ _ _ _ t
              obtain ⟨child, rfl⟩ := Option.isSome_iff_exists.mp launched
              rw [h₄.unreaped rfl]
              exact h₃.launched

end Signals

lemma past_eq {α : Type} {p q : Program α} {r t : Realm} {exchanges : List (Exchange Realm)}
    (h : Dialogue Answers p r exchanges q t) : t.past = r.past ++ Dialogue.turns exchanges := by
  induction h with
  | start p s => exact (List.append_nil _).symm
  | turn answered rest ih =>
      rw [ih, answered.past, List.append_assoc]
      rfl

/-- **Whose group is signalled.**  In every run, finished or not, and whatever happens to the group of
    the script: the number that a signal is sent to is still the group's own, unless the child was
    waited for and the group has no member.  A request to end is sent only while the child was not
    waited for.  The signal that kills is sent once at most: after the exit was seen and a drain has
    not ended by the deadline; or right after a probe has found somebody when the grace period was
    over, which began with a request to end that was taken. -/
theorem signals_owned {limits : Limits} {script : String} {scene : Scene} {p : Program Outcome}
    {t : Realm} {exchanges first later : List (Exchange Realm)} {e : Exchange Realm} {g : Int}
    {s : GroupSignal} {answer : Except Errno Unit}
    (course : Dialogue Answers (run limits script) (.opening scene) exchanges p t)
    (sent : exchanges = first ++ e :: later) (signal : e.turn = ⟨.signal g s, answer⟩) :
    (e.after.census.Alive → e.after.Owns g) ∧
      (s = .terminate → e.after.census.unreaped = true ∧ e.after.Owns g) ∧
      (s = .kill → Unkilled (Dialogue.turns first) ∧
        (LeftOpen (Dialogue.turns first) ∨
          ∃ graceEnd, Outlived g graceEnd (Dialogue.turns first))) := by
  have he : e ∈ exchanges := by rw [sent]; simp
  have owned := ((run_owned limits script scene).sound course).1 e he g s answer signal
  have sound : e.after.census.Sound :=
    course.preserves_each (I := fun r => r.census.Sound) Answers.sound
      Census.unborn_sound e he
  have past : e.before.past = Dialogue.turns first := by
    rw [sent] at course
    obtain ⟨p₁, r₁, hfirst, hlast⟩ := course.of_append
    rw [hlast.of_cons.1, past_eq hfirst]
    rfl
  rw [past] at owned
  refine ⟨fun alive _ => sound alive, ?_, ?_⟩
  · rintro rfl
    exact ⟨owned, fun _ => sound (.inl owned)⟩
  · rintro rfl
    exact owned

/-- A script that overruns its budget is asked to end, and goes on; its group is killed. -/
theorem owned_of_stubborn :
    ∃ exchanges p t,
      Dialogue Answers (run ⟨.ofSeconds 1, ⟨20⟩, true⟩ "./greet")
        (.opening (.opening .obliging .obliging)) exchanges p t ∧
      (∃ first e later, exchanges = first ++ e :: later ∧
        e.turn = ⟨.signal 7 .terminate, .ok ()⟩ ∧ e.after.census.unreaped = true) ∧
      ∃ first e later, exchanges = first ++ e :: later ∧
        e.turn = ⟨.signal 7 .kill, .ok ()⟩ ∧ e.after.census.Alive ∧
        e.after.census.bearer = .script ∧ Unkilled (Dialogue.turns first) := by
  have found (s : Scene) : s.Fits ⟨.groupOf 7, .ok 7⟩ s := .grouped (by decide) (by decide)
  have course : Dialogue Answers (run ⟨.ofSeconds 1, ⟨20⟩, true⟩ "./greet")
      (.opening (.opening .obliging .obliging)) _ _ _ :=
    .turn (.answered (.fit .refl (.wallClock _ ⟨0, 0⟩)) .refl rfl) <|
    .turn (.answered (.fit .refl (.clock _)) .refl rfl) <|
    .turn (.answered (.fit .refl (.launched 7 (by decide) (by decide) (by decide))) .refl rfl) <|
    .turn (.answered (.fit (.head (.pass ⟨1000000000⟩ (by decide)) .refl) (.overran (by decide)))
      .refl rfl) <|
    .turn (.answered (.fit .refl (found _)) .refl rfl) <|
    .turn (.answered (.fit .refl (.ownGroup _)) .refl rfl) <|
    .turn (.answered (.fit .refl (.signal _ 7 .terminate (.ok ()))) .refl
      ⟨rfl, fun _ => Bearer.noConfusion⟩) <|
    .turn (.answered (.fit .refl (.clock _)) .refl rfl) <|
    .turn (.answered (.fit .refl (.exitUntil _ _)) .refl (.inl rfl)) <|
    .turn (.answered (.fit .refl (.probe _ 7 (.ok ()))) .refl
      ⟨rfl, fun _ => Bearer.noConfusion⟩) <|
    .turn (.answered (.fit (.head (.pass ⟨1000000020⟩ (by decide)) .refl) (.clock _)) .refl rfl) <|
    .turn (.answered (.fit .refl (.signal _ 7 .kill (.ok ()))) .refl
      ⟨rfl, fun _ => Bearer.noConfusion⟩) <|
    .start _ _
  have asked := (signals_owned course (by rfl : _ = [_, _, _, _, _, _] ++ _ :: _) rfl).2.1 rfl
  have killed := signals_owned course
    (by rfl : _ = [_, _, _, _, _, _, _, _, _, _, _] ++ _ :: _) rfl
  have alive : Census.born.Alive := .inl rfl
  exact ⟨_, _, _, course,
    ⟨[_, _, _, _, _, _], _, _, by rfl, rfl, asked.1⟩,
    [_, _, _, _, _, _, _, _, _, _, _], _, _, by rfl, rfl, alive,
    killed.1 alive ⟨7, rfl, rfl⟩, (killed.2.2 rfl).1⟩

/-- **Strangers may be killed.**  A script exits and leaves its streams open to a process in another
    session; its number is given away, and at the deadline the group that has it is killed.  Another
    script ends when it is told to, and its number is given away in the grace period: a probe finds
    the group that has it now, and that is killed. -/
theorem strangers_killed :
    (∃ exchanges outcome t, ∃ e ∈ exchanges,
      Dialogue Answers (run ⟨.ofSeconds 1, .ofMillis 200, true⟩ "./greet")
        (.opening (.opening .obliging .obliging)) exchanges (.done outcome) t ∧
      e.before.scene.Leads 7 ∧ e.turn = ⟨.signal 7 .kill, .ok ()⟩ ∧
      ⟨.exitOrDeadline ⟨1000000000⟩, some (.ok 0)⟩ ∈ e.before.past ∧
      e.after.census.bearer = .stranger) ∧
    ∃ exchanges outcome t, ∃ e ∈ exchanges,
      Dialogue Answers (run ⟨.ofSeconds 1, ⟨20⟩, true⟩ "./greet")
        (.opening (.opening .obliging .obliging)) exchanges (.done outcome) t ∧
      e.before.scene.Leads 7 ∧ e.turn = ⟨.signal 7 .kill, .ok ()⟩ ∧
      ⟨.signal 7 .terminate, .ok ()⟩ ∈ e.before.past ∧ e.after.census.bearer = .stranger := by
  constructor
  · have course : Dialogue Answers
        (run ⟨.ofSeconds 1, .ofMillis 200, true⟩ "./greet")
        (.opening (.opening .obliging .obliging)) _ (.done _) _ :=
      .turn (.answered (.fit .refl (.wallClock _ ⟨0, 0⟩)) .refl rfl) <|
      .turn (.answered (.fit .refl (.clock _)) .refl rfl) <|
      .turn (.answered (.fit .refl (.launched 7 (by decide) (by decide) (by decide))) .refl rfl) <|
      .turn (.answered (.fit (.head (.exit rfl) .refl) (.exited _ 0 rfl)) .refl rfl) <|
      .turn (.answered (.fit (.head (.pass ⟨1000000000⟩ (by decide)) .refl)
        (.join rfl fun _ => by decide)) .refl rfl) <|
      .turn (.answered (.fit .refl (.signal _ 7 .kill (.ok ())))
        (.head (.lapse (by decide) rfl) <| .head (.taken rfl) .refl)
        ⟨rfl, fun _ => Bearer.noConfusion⟩) <|
      .turn (.answered (.stopDrains
        (.head (.drain .stdout rfl (.heed rfl rfl)) <|
          .head (.drain .stderr rfl (.heed rfl rfl)) .refl) rfl) .refl rfl) <|
      .turn (.answered (.fit .refl (.collect rfl)) .refl rfl) <|
      .turn (.answered (.fit .refl (.clock _)) .refl rfl) <|
      .start _ _
    exact ⟨_, _, _, _, List.mem_of_getElem? (i := 5) rfl, course, ⟨7, rfl, rfl⟩, rfl,
      List.mem_of_getElem? (i := 3) rfl, rfl⟩
  · have found (s : Scene) : s.Fits ⟨.groupOf 7, .ok 7⟩ s := .grouped (by decide) (by decide)
    have course : Dialogue Answers (run ⟨.ofSeconds 1, ⟨20⟩, true⟩ "./greet")
        (.opening (.opening .obliging .obliging)) _ (.done _) _ :=
      .turn (.answered (.fit .refl (.wallClock _ ⟨0, 0⟩)) .refl rfl) <|
      .turn (.answered (.fit .refl (.clock _)) .refl rfl) <|
      .turn (.answered (.fit .refl (.launched 7 (by decide) (by decide) (by decide))) .refl rfl) <|
      .turn (.answered (.fit (.head (.pass ⟨1000000000⟩ (by decide)) .refl) (.overran (by decide)))
        .refl rfl) <|
      .turn (.answered (.fit .refl (found _)) .refl rfl) <|
      .turn (.answered (.fit .refl (.ownGroup _)) .refl rfl) <|
      .turn (.answered (.fit .refl (.signal _ 7 .terminate (.ok ()))) .refl
        ⟨rfl, fun _ => Bearer.noConfusion⟩) <|
      .turn (.answered (.fit .refl (.clock _)) .refl rfl) <|
      .turn (.answered (.fit (.head (.exit rfl) .refl) (.exitUntil _ _)) .refl (.inr ⟨rfl, rfl⟩)) <|
      .turn (.answered (.fit .refl (.probe _ 7 (.ok ())))
        (.head (.lapse (by decide) rfl) <| .head (.taken rfl) .refl)
        ⟨rfl, fun _ => Bearer.noConfusion⟩) <|
      .turn (.answered (.fit (.head (.pass ⟨1000000020⟩ (by decide)) .refl) (.clock _)) .refl rfl) <|
      .turn (.answered (.fit .refl (.signal _ 7 .kill (.ok ()))) .refl
        ⟨rfl, fun _ => Bearer.noConfusion⟩) <|
      .turn (.answered (.fit .refl (.exitWithin _ _)) .refl (.inl rfl)) <|
      .turn (.answered (.fit .refl (.clock _)) .refl rfl) <|
      .turn (.answered (.fit (.head (.pass ⟨1000000040⟩ (by decide)) .refl)
        (.join rfl fun _ => by decide)) .refl rfl) <|
      .turn (.answered (.stopDrains
        (.head (.drain .stdout rfl (.heed rfl rfl)) <|
          .head (.drain .stderr rfl (.heed rfl rfl)) .refl) rfl) .refl rfl) <|
      .turn (.answered (.fit .refl (.collect rfl)) .refl rfl) <|
      .turn (.answered (.fit .refl (.clock _)) .refl rfl) <|
      .start _ _
    exact ⟨_, _, _, _, List.mem_of_getElem? (i := 11) rfl, course, ⟨7, rfl, rfl⟩, rfl,
      List.mem_of_getElem? (i := 6) rfl, rfl⟩

end Realm

end Curfew.Supervisor
