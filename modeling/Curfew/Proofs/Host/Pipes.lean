import Curfew.Host.Machine
import Curfew.Proofs.Supervisor.Invisibility

/-!
# Pipes of a world

What is on its way in a pipe of a world is used up by reading it.  More comes when the world goes on
to its next event, and not before.

* `read_onWay` — a read that yields bytes leaves fewer of them on their way.
* **`machine_exhaustible`** — hence every pipe of a world runs dry.
* **`supervise_rests`** — hence a run whose destinations answer at once does not depend on how many
  steps its drains are let take, if there are enough.
-/

open Filter

namespace Curfew.Host

/-- What was put under a number is found there. -/
lemma Registry.get?_set {α : Type} (r : Registry α) (n : Nat) (a : α) :
    (r.set n a).get? n = some a := by
  obtain ⟨entries⟩ := r
  by_cases hc : (⟨entries⟩ : Registry α).contains n = true
  · rw [set, if_pos hc]
    simp only [get?, contains] at hc ⊢
    induction entries with
    | nil => cases hc
    | cons entry later ih =>
        rw [List.map_cons]
        by_cases he : (entry.1 == n) = true
        · rw [if_pos he, List.find?_cons, beq_self_eq_true n]
          rfl
        · rw [if_neg he, List.find?_cons, eq_false_of_ne_true he]
          rw [List.any_cons, Bool.or_eq_true] at hc
          exact ih (hc.resolve_left he)
  · have missing : entries.find? (fun entry => entry.1 == n) = none :=
      List.find?_eq_none.mpr fun entry he hn => hc (List.any_eq_true.mpr ⟨entry, he, hn⟩)
    rw [set, if_neg hc]
    simp [get?, List.find?_append, missing]

namespace World

/-- How many bytes are on their way in the pipe of a stream. -/
def onWay (stream : Stream) (w : World) : Nat :=
  match w.pipeOf stream with
  | none => 0
  | some pipe => ((w.pipes.get? pipe).getD .empty).size

/-- **A read that yields bytes** leaves fewer of them on their way. -/
theorem read_onWay {stream : Stream} {w : World} (h : (w.read stream).1.goesOn = true) :
    onWay stream (w.read stream).2 < onWay stream w := by
  cases hpipe : w.pipeOf stream with
  | none =>
      simp only [read, hpipe] at h
      cases h
  | some pipe =>
      simp only [read, hpipe] at h ⊢
      by_cases hempty : ((w.pipes.get? pipe).getD .empty).size = 0
      · rw [if_pos hempty] at h
        dsimp only at h
        split at h <;> cases h
      · rw [if_neg hempty] at h ⊢
        -- the pipe of the stream is the one that was read
        have same (pipes : Registry Buffer) : pipeOf { w with pipes := pipes } stream = some pipe := by
          rw [← hpipe]
          cases stream <;> rfl
        simp only [onWay, same, Registry.get?_set, Option.getD_some]
        simp only [Capture.ReadReply.goesOn, Bool.not_eq_true', List.isEmpty_eq_false_iff,
          ← List.length_pos_iff] at h
        simp only [Buffer.take] at h ⊢
        omega

end World

/-- **Every pipe of a world runs dry**, until something else happens. -/
theorem machine_exhaustible : machine.Exhaustible := by
  intro stream
  refine Subrelation.wf ?_ (measure (World.onWay stream)).wf
  rintro later w ⟨rfl, more⟩
  exact World.read_onWay more

open Supervisor in
/-- **A supervised run whose destinations are prompt** is the same for all numbers of steps from
    some number on. -/
theorem supervise_rests (limits : Limits) (script : String) (w : World)
    {out err : Capture.Behaviour} (hout : out.Prompt) (herr : err.Prompt) :
    ∃ e : Execution World Outcome, ∀ᶠ n in atTop, e.Of (machine.granting n) (run limits script)
      (.start w (.ofBehaviour out) (.ofBehaviour err)) := by
  obtain ⟨e, _, -, executed⟩ := execute_twin machine_exhaustible (run_akin limits script)
    (Session.start_twin w hout herr hout herr)
  exact ⟨e, executed.mono fun _ h => h.1⟩

end Curfew.Host
