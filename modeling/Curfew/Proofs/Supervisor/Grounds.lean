import Curfew.Proofs.Supervisor.Restraint
import Curfew.Proofs.Supervisor.Slots

/-!
# The grounds for force

A supervisor decides about force by two answers: which was first, the exit of the child or the
deadline, and whether both drains have ended in time.  This file says what these answers stand for
in the scene of a run.

* **`Lane.Noted`** — the end of a task is in its slot.  Soundness says that a slot holds nothing
  else; this is the other direction.
* **`Grounded`** — an exchange whose answer is borne out by the scene that it has led to.
* `run_forces` — the answers that a run which uses force has got.
* **`force_grounded`** — every such answer is grounded.
-/

namespace Curfew

namespace Capture

/-! ## Ends that are noted -/

/-- The end of the task is in the slot, which was not asked in vain. -/
structure Lane.Noted (l : Lane) : Prop where
  unspent : l.slot ≠ .running .spent
  noted : ∀ result, l.task.result? = some result → l.slot.left? = some result

namespace Lane.Noted

variable {l : Lane}

lemma of_pending (hslot : l.slot = .running .pending) (htask : l.task.result? = none) :
    l.Noted where
  unspent := by
    rw [hslot]
    nofun
  noted result hr := by
    rw [htask] at hr
    cases hr

/-- The end of a task is noted at once. -/
lemma carry {task : Drain} (h : l.Noted) (agrees : l.Agrees)
    (keep : ∀ result, l.task.result? = some result → task.result? = some result) :
    (l.carry task).Noted := by
  cases ht : task.result? with
  | none =>
      rw [carry_of_unended l ht]
      exact ⟨h.unspent, fun result hr => by rw [ht] at hr; cases hr⟩
  | some ended =>
      -- a result that the slot has already is that of the task, which has not changed since
      have same (earlier : DrainResult) (hleft : l.slot.left? = some earlier) :
          earlier = ended := by
        have kept := keep earlier (agrees earlier hleft)
        rw [ht] at kept
        exact (Option.some.inj kept).symm
      have hslot : (l.slot.complete ended).left? = some ended ∧
          l.slot.complete ended ≠ .running .spent := by
        cases hs : l.slot with
        | running handle =>
            cases handle with
            | pending => exact ⟨rfl, by simp [Slot.complete, Handle.complete]⟩
            | ready earlier =>
                rw [same earlier (by rw [hs]; rfl)]
                exact ⟨rfl, by simp [Slot.complete, Handle.complete]⟩
            | spent => exact absurd hs h.unspent
        | done earlier =>
            rw [same earlier (by rw [hs]; rfl)]
            exact ⟨rfl, by simp [Slot.complete]⟩
      rw [carry_of_ended l ht]
      refine ⟨hslot.2, fun result hr => ?_⟩
      rw [show task.result? = some result from hr, Option.some.injEq] at ht
      rw [ht]
      exact hslot.1

/-- Asking for the result loses nothing. -/
lemma ask (h : l.Noted) : Noted { l with slot := l.slot.finish.2 } where
  unspent := by
    have unspent := h.unspent
    cases hs : l.slot with
    | running handle =>
        cases handle with
        | pending => nofun
        | ready result => nofun
        | spent => exact absurd hs unspent
    | done result => nofun
  noted result hr := by
    rw [Slot.finish_left]
    exact h.noted result hr

end Lane.Noted

/-- A step of a drain is noted if it is the last one. -/
lemma Outlet.Step.noted {stop : Bool} {o o' : Outlet} (h : Outlet.Step stop o o')
    (agrees : o.lane.Agrees) (noted : o.lane.Noted) : o'.lane.Noted := by
  have keep (result : DrainResult) (hr : o.lane.task.result? = some result) :
      o'.lane.task.result? = some result := h.result hr
  cases h with
  | work found =>
      simp only [Outlet.work, Lane.carry_task] at keep
      exact noted.carry agrees keep
  | heed told heeds =>
      simp only [Lane.carry_task] at keep
      exact noted.carry agrees keep

/-- A slot that has no answer has no result. -/
lemma Slot.left_of_unfinished {s : Slot} (h : s.finish.1 = false) : s.left? = none := by
  cases s with
  | running handle =>
      cases handle with
      | pending => rfl
      | ready result => cases h
      | spent => rfl
  | done result => cases h

/-- If not both results are in, one of them is missing. -/
lemma Drains.left_of_unjoined {d : Drains} (h : d.join.1 = false) :
    ∃ stream, (d.lane stream).slot.left? = none := by
  simp only [join] at h
  rcases hf : d.stdout.slot.finish with ⟨_ | _, slot⟩
  · exact ⟨.stdout, Slot.left_of_unfinished (by rw [lane, hf])⟩
  · simp only [hf] at h
    exact ⟨.stderr, Slot.left_of_unfinished h⟩

end Capture

namespace Supervisor

open Program

namespace Scene

/-! ## Answers and what they stand for -/

/-- The end of a task stays noted. -/
lemma lasting_noted (stream : Stream) :
    Lasting fun s => s.Sound ∧ (s.outlet stream).lane.Noted where
  happens := by
    intro s t h hs
    refine ⟨lasting_sound.happens h hs.1, ?_⟩
    let P (o : Capture.Outlet) : Prop := o.lane.Noted
    cases h with
    | pass t later => exact hs.2
    | write other who bytes launched isOpen runs => exact outlet_put (P := P) hs.2 id
    | shut other launched => exact outlet_put (P := P) hs.2 id
    | exit launched => exact hs.2
    | drain other launched step =>
        exact outlet_put (P := P) hs.2 (step.noted (hs.1 other).agrees)
  launch := fun _ hs => hs
  ask := by
    intro s hs
    refine ⟨lasting_sound.ask hs.1, ?_⟩
    rcases outlet_ask s stream with ho | ho
    · rw [ho]
      exact hs.2
    · rw [ho]
      exact hs.2.ask
  tell := by
    intro s hs
    refine ⟨lasting_sound.tell hs.1, ?_⟩
    cases stream <;> exact hs.2

/-- An answer that decides about force is borne out by the scene. -/
structure Grounded (e : Exchange Scene) : Prop where
  /-- A child whose exit was first has exited. -/
  exited : ∀ deadline raw, e.turn = ⟨.exitOrDeadline deadline, some (.ok raw)⟩ →
    e.after.exited = true
  /-- A deadline that was first has passed. -/
  overran : ∀ deadline, e.turn = ⟨.exitOrDeadline deadline, none⟩ →
    e.after.now.reached deadline = true
  /-- Drains that have ended in time have both ended. -/
  joined : ∀ deadline, e.turn = ⟨.joinUntil deadline, true⟩ → ∀ stream, ∃ result,
    (e.after.drains.lane stream).task.result? = some result
  /-- Drains that have not, had until the deadline, and one of them has still not ended. -/
  unjoined : ∀ deadline, e.turn = ⟨.joinUntil deadline, false⟩ →
    e.after.now.reached deadline = true ∧
      ∃ stream, (e.after.drains.lane stream).task.result? = none

/-- **Every answer is grounded**, where the end of each task is noted. -/
theorem Answers.grounded {s t : Scene} {turn : Turn} (h : s.Answers turn t) (sound : s.Sound)
    (noted : ∀ stream, (s.outlet stream).lane.Noted) : Grounded ⟨s, turn, t⟩ where
  exited deadline raw hturn := by
    obtain rfl : turn = _ := hturn
    cases h with
    | fit meanwhile fits =>
        cases fits with
        | exited deadline raw h => exact h
  overran deadline hturn := by
    obtain rfl : turn = _ := hturn
    exact Scene.surroundings.overran h
  joined deadline hturn stream := by
    obtain rfl : turn = _ := hturn
    have done : (t.drains.lane stream).slot.isDone = true := h.joined stream
    cases hs : (t.drains.lane stream).slot with
    | running handle =>
        rw [hs] at done
        cases done
    | done result =>
        have left : (t.outlet stream).lane.slot.left? = some result := by
          rw [show (t.outlet stream).lane.slot = .done result from hs]
          rfl
        exact ⟨result, (lasting_sound.answers h sound stream).agrees result left⟩
  unjoined deadline hturn := by
    obtain rfl : turn = _ := hturn
    refine ⟨Scene.surroundings.unjoined h, ?_⟩
    cases h with
    | @fit u _ _ meanwhile fits =>
        cases fits with
        | join hj h =>
            obtain ⟨stream, missing⟩ := Capture.Drains.left_of_unjoined hj
            refine ⟨stream, ?_⟩
            have notedThen := ((lasting_noted stream).becomes meanwhile ⟨sound, noted stream⟩).2
            have unended : (u.outlet stream).lane.task.result? = none := by
              cases hr : (u.outlet stream).lane.task.result? with
              | none => rfl
              | some result =>
                  have left := notedThen.noted result hr
                  rw [show (u.outlet stream).lane.slot.left? = none from missing] at left
                  cases left
            -- asking for the results leaves the tasks as they are
            show (u.ask.outlet stream).lane.task.result? = none
            rcases outlet_ask u stream with ho | ho <;> rw [ho] <;> exact unended

end Scene

/-! ## Runs that use force -/

/-- What follows the exit of a script uses no force unless the drains were waited for in vain. -/
lemma windUp_forces {pid : Option Nat} {deadline : Instant} {turns : List Turn} {q : Program Unit}
    (h : (windUp pid deadline).Leaves turns q) (used : forces turns ≠ []) :
    ∃ d, ⟨.joinUntil d, false⟩ ∈ turns := by
  simp only [windUp, bind_eq, pure_eq] at h
  rcases leaves_request h with rfl | ⟨answer, later, rfl, rest⟩
  · exact absurd rfl used
  cases answer with
  | false => exact ⟨deadline, List.mem_cons_self⟩
  | true =>
      obtain ⟨rfl, -⟩ := leaves_done.mp rest
      exact absurd rfl used

/-- **A run that uses force** has found the deadline first, or has waited for its drains in
    vain. -/
theorem run_forces {limits : Limits} {script : String} {turns : List Turn} {q : Program Outcome}
    (h : (run limits script).Leaves turns q) (used : forces turns ≠ []) :
    (∃ d, ⟨.exitOrDeadline d, none⟩ ∈ turns) ∨ ∃ d, ⟨.joinUntil d, false⟩ ∈ turns := by
  rcases run_raced h with silent |
    ⟨began, start, path, pid, deadline, raced, later, -, rfl, rest⟩
  · exact absurd silent used
  cases raced with
  | none => exact .inl ⟨deadline, by simp⟩
  | some waited =>
      right
      have usedLater : forces later ≠ [] := used
      have wound : ∃ d, ⟨.joinUntil d, false⟩ ∈ later := by
        rcases leaves_bind rest with ⟨p', wound, -⟩ | ⟨first, last, _, rfl, wound, ended⟩
        · exact windUp_forces wound usedLater
        · rw [forces_append, final_forces (conclude_final _ _ _ _) ended, List.append_nil]
            at usedLater
          obtain ⟨d, hd⟩ := windUp_forces wound usedLater
          exact ⟨d, List.mem_append_left _ hd⟩
      obtain ⟨d, hd⟩ := wound
      exact ⟨d, by simp [hd]⟩

/-- **The grounds for force.**  In every run whose streams are captured, finished or not, the
    answers that decide about force are borne out by the scene.  So force is used only after a
    deadline has passed before the child was seen to exit, or while a task had not ended. -/
theorem force_grounded {limits : Limits} {script : String} {s t : Scene} {p : Program Outcome}
    {exchanges : List (Exchange Scene)} (fresh : s.Fresh)
    (captured : ∀ stream, (s.drains.lane stream).task.result? = none)
    (course : Dialogue Scene.Answers (run limits script) s exchanges p t) :
    (∀ e ∈ exchanges, Scene.Grounded e) ∧
    (forces (Dialogue.turns exchanges) ≠ [] → ∃ e ∈ exchanges, ∃ deadline,
      e.after.now.reached deadline = true ∧
        (e.turn = ⟨.exitOrDeadline deadline, none⟩ ∨
          e.turn = ⟨.joinUntil deadline, false⟩ ∧
            ∃ stream, (e.after.drains.lane stream).task.result? = none)) := by
  have starts : s.Sound ∧ ∀ stream, (s.outlet stream).lane.Noted := by
    refine ⟨fresh.sound, fun stream => .of_pending ?_ (captured stream)⟩
    obtain ⟨b, hb | hb⟩ := fresh.outlet stream <;> rw [hb] <;> rfl
  have keeps {u v : Scene} {turn : Turn} (answered : u.Answers turn v)
      (hu : u.Sound ∧ ∀ stream, (u.outlet stream).lane.Noted) :
      v.Sound ∧ ∀ stream, (v.outlet stream).lane.Noted :=
    ⟨Scene.lasting_sound.answers answered hu.1, fun stream =>
      ((Scene.lasting_noted stream).answers answered ⟨hu.1, hu.2 stream⟩).2⟩
  have grounded : ∀ e ∈ exchanges, Scene.Grounded e := by
    intro e he
    obtain ⟨⟨sound, noted⟩, answered⟩ := course.answered_each keeps starts e he
    exact answered.grounded sound noted
  refine ⟨grounded, fun used => ?_⟩
  rcases run_forces course.leaves used with ⟨d, hd⟩ | ⟨d, hd⟩
  · obtain ⟨e, he, hturn⟩ := List.mem_map.mp hd
    exact ⟨e, he, d, (grounded e he).overran d hturn, .inl hturn⟩
  · obtain ⟨e, he, hturn⟩ := List.mem_map.mp hd
    obtain ⟨late, unended⟩ := (grounded e he).unjoined d hturn
    exact ⟨e, he, d, late, .inr ⟨hturn, unended⟩⟩

end Supervisor

end Curfew
