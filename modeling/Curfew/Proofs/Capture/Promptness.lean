import Mathlib.Logic.Relation
import Mathlib.Order.Filter.AtTopBot.Basic
import Curfew.Proofs.Capture.Steps

/-!
# Drains with a prompt destination

A destination that answers every attempt at once never makes its drain wait.  Whether it takes what
it is offered, or part of it, or fails, the drain is back at its pipe after finitely many steps.

* **`Behaviour.Prompt`** — a destination that does not stall, crash, or put off, and does not
  interrupt for ever.
* **`Drain.Rests`** — what a drain comes to when it is let do what it can, given steps enough.
* **`Drain.Returns`** — the attempts that lead a drain back to its pipe; there are such attempts for
  every forward to a prompt destination (`push_returns`).
* **`Drawn`** — what is drawn out of a source until it has no more for now.  The destination does
  not occur in it.
* **`rests_of_drawn`** — a drain with a prompt destination takes over what is drawn out of its
  source, and ends where that ends.
-/

namespace Curfew.Capture

open Filter

/-! ## Prompt destinations -/

namespace Reply

/-- An answer that takes no time. -/
def atOnce : Reply → Bool
  | .accept _ => true
  | .fail _ => true
  | .notReady => false
  | .stall => false
  | .crash => false

end Reply

/-- A behaviour without delay: every attempt is answered at once, and a write is not interrupted
    for ever. -/
structure Behaviour.Prompt (b : Behaviour) : Prop where
  write : ∀ n, (b.write n).atOnce = true
  flush : ∀ n, (b.flush n).atOnce = true
  goesOn : ∀ n, ∃ k, n ≤ k ∧ (b.write k).interrupts = false

namespace Destination

/-- An attempt to flush is answered at once. -/
lemma flushOnce_prompt {d : Destination} (prompt : d.behaviour.Prompt) :
    d.flushOnce.2.behaviour = d.behaviour ∧
      (d.flushOnce.1 = .done ∨ ∃ cause, d.flushOnce.1 = .failed cause) := by
  have answered := prompt.flush d.flushes
  simp only [flushOnce]
  cases hf : d.behaviour.flush d.flushes with
  | accept limit => exact ⟨rfl, .inl rfl⟩
  | fail cause => exact ⟨rfl, .inr ⟨cause, rfl⟩⟩
  | _ =>
      rw [hf] at answered
      cases answered

end Destination

/-! ## Coming to rest -/

namespace Drain

variable {σ : Type} {read : σ → ReadReply × σ} {stop : Bool}

/-- A drain that is let do what it can, with steps enough, comes to rest as `d'`. -/
def Rests (read : σ → ReadReply × σ) (stop : Bool) (d : Drain) (s : σ) (d' : Drain) (s' : σ) :
    Prop :=
  ∀ᶠ fuel in atTop, d.settle read stop fuel s = (d', s')

variable {d d₁ d' : Drain} {s s₁ s' : σ}

/-- One step more takes one step more. -/
lemma Rests.of_succ (h : ∀ᶠ fuel in atTop, d.settle read stop (fuel + 1) s = (d', s')) :
    Rests read stop d s d' s' := by
  obtain ⟨enough, h⟩ := eventually_atTop.mp h
  refine eventually_atTop.mpr ⟨enough + 1, fun fuel hfuel => ?_⟩
  obtain ⟨fuel, rfl⟩ : ∃ n, fuel = n + 1 := ⟨fuel - 1, by omega⟩
  exact h fuel (by omega)

lemma Rests.moved (step : d.step read s = (.moved, d₁, s₁)) (rest : Rests read stop d₁ s₁ d' s') :
    Rests read stop d s d' s' := by
  refine .of_succ (rest.mono fun fuel h => ?_)
  rw [settle, step]
  exact h

/-- Without a request to stop, a drain that finds nothing tries again. -/
lemma Rests.again (step : d.step read s = (.notReady, d₁, s₁))
    (rest : Rests read false d₁ s₁ d' s') : Rests read false d s d' s' := by
  refine .of_succ (rest.mono fun fuel h => ?_)
  rw [settle, step]
  exact h

lemma Rests.obeyed (step : d.step read s = (.notReady, d₁, s₁)) :
    Rests read true d s d₁.heed s₁ := by
  refine .of_succ (.of_forall fun fuel => ?_)
  rw [settle, step]
  rfl

lemma Rests.stuck (step : d.step read s = (.stuck, d₁, s₁)) :
    Rests read stop d s (if stop then d₁.heed else d₁) s₁ := by
  refine .of_succ (.of_forall fun fuel => ?_)
  rw [settle, step]

lemma Rests.ended (step : d.step read s = (.ended, d₁, s₁)) : Rests read stop d s d₁ s₁ := by
  refine .of_succ (.of_forall fun fuel => ?_)
  rw [settle, step]

/-! ## Forwarding -/

/-- The drain makes an attempt, not a read, and goes on at once as `d'`. -/
def Advances (d d' : Drain) : Prop := d.phase ≠ .reading ∧ d.advance = (.moved, d')

/-- A drain that goes on has not ended. -/
lemma Advances.unended (h : Advances d d') : d'.result? = none := by
  obtain ⟨hr, hadvance⟩ := h
  have pushed {e : Drain} {rest : Bytes} (hpush : e.push rest = (.moved, d')) :
      d'.result? = none := by
    simp only [push] at hpush
    cases hq : (e.sink.destination.push rest).1 <;> rw [hq] at hpush <;> cases hpush <;> rfl
  cases hp : d.phase with
  | reading => exact absurd hp hr
  | flushing =>
      simp only [advance, hp, flush] at hadvance
      cases hf : d.sink.destination.flushOnce.1 <;> rw [hf] at hadvance <;> cases hadvance
  | holding chunk => exact pushed (by simpa only [advance, hp] using hadvance)
  | waiting rest => exact pushed (by simpa only [advance, hp] using hadvance)
  | pushing rest => exact pushed (by simpa only [advance, hp] using hadvance)
  | finished => simp [advance, hp] at hadvance
  | cutOff => simp [advance, hp] at hadvance
  | crashed => simp [advance, hp] at hadvance

/-- Attempts that are made at once only delay the rest. -/
lemma Rests.of_advances (h : Relation.ReflTransGen Advances d d₁)
    (rest : Rests read stop d₁ s d' s') : Rests read stop d s d' s' := by
  induction h using Relation.ReflTransGen.head_induction_on with
  | refl => exact rest
  | head first _ ih =>
      refine .moved ?_ ih
      rw [step_of_ne_reading first.1, first.2]

/-- The drain `d₁` is back at the pipe, and any drain that is about to offer `rest` as `d` would
    comes to it. -/
structure Returns (d : Drain) (rest : Bytes) (d₁ : Drain) : Prop where
  reading : d₁.phase = .reading
  kept : d₁.sink.kept = d.sink.kept
  behaviour : d₁.sink.destination.behaviour = d.sink.destination.behaviour
  advances : ∀ {e : Drain}, e.phase ≠ .reading → e.advance = d.push rest →
    Relation.ReflTransGen Advances e d₁

/-- One attempt that leaves something to offer, and what follows it. -/
lemma Returns.again {rest left : Bytes} {d₂ : Drain}
    (hpush : d.push rest = (.moved, d₁)) (hp : d₁.phase = .pushing left)
    (hk : d₁.sink.kept = d.sink.kept)
    (hb : d₁.sink.destination.behaviour = d.sink.destination.behaviour)
    (more : Returns d₁ left d₂) : Returns d rest d₂ where
  reading := more.reading
  kept := more.kept.trans hk
  behaviour := more.behaviour.trans hb
  advances := by
    intro e hr he
    refine .head ⟨hr, he.trans hpush⟩ (more.advances ?_ ?_)
    · rw [hp]
      exact Phase.noConfusion
    · simp only [advance, hp]

/-- An attempt at forwarding to a prompt destination is over at once: the drain is back at the pipe,
    or has less to offer, or was interrupted. -/
inductive Brief (d : Drain) (rest : Bytes) : Drain → Prop
  | back {d₁ : Drain} (reading : d₁.phase = .reading) : Brief d rest d₁
  | part {d₁ : Drain} {left : Bytes} (pushing : d₁.phase = .pushing left)
      (less : left.length < rest.length) : Brief d rest d₁
  | interrupted {d₁ : Drain} (pushing : d₁.phase = .pushing rest)
      (next : d₁.sink.destination.writes = d.sink.destination.writes + 1)
      (interrupts :
        (d.sink.destination.behaviour.write d.sink.destination.writes).interrupts = true) :
      Brief d rest d₁

lemma push_brief {d : Drain} (prompt : d.sink.destination.behaviour.Prompt) (rest : Bytes) :
    ∃ d₁, d.push rest = (.moved, d₁) ∧ d₁.sink.kept = d.sink.kept ∧
      d₁.sink.destination.behaviour = d.sink.destination.behaviour ∧ Brief d rest d₁ := by
  have pushed := d.sink.destination.push_pushed rest
  have answered := prompt.write d.sink.destination.writes
  simp only [Drain.push]
  rcases hq : d.sink.destination.push rest with ⟨progress, destination⟩
  rw [hq] at pushed
  cases pushed with
  | done same => exact ⟨_, rfl, rfl, same, .back rfl⟩
  | failed same cause => exact ⟨_, rfl, rfl, same, .back rfl⟩
  | part same left less => exact ⟨_, rfl, rfl, same, .part rfl less⟩
  | interrupted same next interrupts => exact ⟨_, rfl, rfl, same, .interrupted rfl next interrupts⟩
  | notReady same next putOff =>
      rw [putOff] at answered
      cases answered
  | stalled stall =>
      rw [stall] at answered
      cases answered
  | crashed crash =>
      rw [crash] at answered
      cases answered

/-- **A forward to a prompt destination** leads back to the pipe. -/
theorem push_returns (rest : Bytes) {d : Drain}
    (prompt : d.sink.destination.behaviour.Prompt) : ∃ d₁, Returns d rest d₁ := by
  -- by what is left to offer, and by the interruptions still to come
  obtain ⟨n, hn⟩ : ∃ n, rest.length = n := ⟨_, rfl⟩
  induction n using Nat.strong_induction_on generalizing rest d with
  | _ n ih =>
      obtain ⟨k, hle, calm⟩ := prompt.goesOn d.sink.destination.writes
      obtain ⟨m, rfl⟩ := Nat.exists_eq_add_of_le hle
      clear hle
      induction m generalizing d with
      | zero =>
          obtain ⟨d₁, hpush, hk, hb, brief⟩ := push_brief prompt rest
          cases brief with
          | back reading => exact ⟨d₁, reading, hk, hb, fun hr he => .single ⟨hr, he.trans hpush⟩⟩
          | @part left pushing less =>
              obtain ⟨d₂, more⟩ := ih left.length (hn ▸ less) left (by rw [hb]; exact prompt) rfl
              exact ⟨d₂, .again hpush pushing hk hb more⟩
          | interrupted pushing next interrupts =>
              rw [Nat.add_zero, interrupts] at calm
              cases calm
      | succ m ihm =>
          obtain ⟨d₁, hpush, hk, hb, brief⟩ := push_brief prompt rest
          cases brief with
          | back reading => exact ⟨d₁, reading, hk, hb, fun hr he => .single ⟨hr, he.trans hpush⟩⟩
          | @part left pushing less =>
              obtain ⟨d₂, more⟩ := ih left.length (hn ▸ less) left (by rw [hb]; exact prompt) rfl
              exact ⟨d₂, .again hpush pushing hk hb more⟩
          | interrupted pushing next interrupts =>
              obtain ⟨d₂, more⟩ := ihm (d := d₁) (by rw [hb]; exact prompt)
                (by rw [hb, next, Nat.add_right_comm]; exact calm)
              exact ⟨d₂, .again hpush pushing hk hb more⟩

end Drain

/-! ## What is drawn out of a source -/

/-- A reply after which reading goes on. -/
def ReadReply.goesOn : ReadReply → Bool
  | .data chunk => !chunk.isEmpty
  | .notReady => true
  | .closed => false
  | .failed _ => false
  | .stalled => false

variable {σ : Type}

/-- What is drawn out of a source until there is no more for now: the chunks, the phase in which
    that leaves a drain, and the source afterwards. -/
inductive Drawn (read : σ → ReadReply × σ) (stop : Bool) :
    σ → List Bytes → Phase → σ → Prop
  | chunk {s s₁ s' : σ} {chunk : Bytes} {chunks : List Bytes} {last : Phase}
      (found : read s = (.data chunk, s₁)) (filled : chunk.isEmpty = false)
      (rest : Drawn read stop s₁ chunks last s') : Drawn read stop s (chunk :: chunks) last s'
  | ended {s s₁ : σ} {reply : ReadReply} (found : read s = (reply, s₁))
      (ends : reply.ends = true) : Drawn read stop s [] .finished s₁
  | again {s s₁ s' : σ} {chunks : List Bytes} {last : Phase} (found : read s = (.notReady, s₁))
      (untold : stop = false) (rest : Drawn read stop s₁ chunks last s') :
      Drawn read stop s chunks last s'
  | obeyed {s s₁ : σ} (found : read s = (.notReady, s₁)) (told : stop = true) :
      Drawn read stop s [] .cutOff s₁
  | dry {s s₁ : σ} (found : read s = (.stalled, s₁)) :
      Drawn read stop s [] (if stop then .cutOff else .reading) s₁

/-- A source that has no more to give for now after finitely many reads. -/
def Exhaustible (read : σ → ReadReply × σ) : Prop :=
  WellFounded fun s₁ s => (read s).2 = s₁ ∧ (read s).1.goesOn = true

/-- Such a source can be drawn out. -/
lemma Exhaustible.drawn {read : σ → ReadReply × σ} (h : Exhaustible read) (stop : Bool) (s : σ) :
    ∃ chunks last s', Drawn read stop s chunks last s' := by
  induction s using h.induction with
  | _ s ih =>
      rcases hread : read s with ⟨reply, s₁⟩
      have more (hg : reply.goesOn = true) : ∃ chunks last s', Drawn read stop s₁ chunks last s' :=
        ih s₁ (by rw [hread]; exact ⟨rfl, hg⟩)
      cases reply with
      | data chunk =>
          cases hc : chunk.isEmpty with
          | true => exact ⟨[], _, _, .ended hread hc⟩
          | false =>
              obtain ⟨chunks, last, s', rest⟩ := more (by rw [ReadReply.goesOn, hc]; rfl)
              exact ⟨_, _, _, .chunk hread hc rest⟩
      | closed => exact ⟨[], _, _, .ended hread rfl⟩
      | failed cause => exact ⟨[], _, _, .ended hread rfl⟩
      | notReady =>
          cases hs : stop with
          | true => exact ⟨[], _, _, .obeyed hread rfl⟩
          | false =>
              subst hs
              obtain ⟨chunks, last, s', rest⟩ := more rfl
              exact ⟨_, _, _, .again hread rfl rest⟩
      | stalled => exact ⟨[], _, _, .dry hread⟩

namespace Drain

variable {read : σ → ReadReply × σ} {stop : Bool}

/-- A prompt destination is flushed at once. -/
lemma flush_rests {d : Drain} (hp : d.phase = .flushing)
    (prompt : d.sink.destination.behaviour.Prompt) (s : σ) :
    ∃ d' : Drain, Rests read stop d s d' s ∧ d'.phase = .finished ∧
      d'.sink.kept = d.sink.kept ∧
      d'.sink.destination.behaviour = d.sink.destination.behaviour := by
  obtain ⟨same, answered⟩ := Destination.flushOnce_prompt prompt
  have hstep : d.step read s = (d.flush.1, d.flush.2, s) := by
    rw [step_of_ne_reading (by rw [hp]; exact Phase.noConfusion)]
    simp only [advance, hp]
  rcases hf : d.sink.destination.flushOnce with ⟨result, destination⟩
  rw [hf] at same answered
  rcases answered with h | ⟨cause, h⟩ <;> simp only at h <;> subst h
  · have hflush : d.flush = (.ended, ⟨.finished, ⟨d.sink.kept, destination⟩, d.failure⟩) := by
      simp only [Drain.flush, hf]
    rw [hflush] at hstep
    exact ⟨_, .ended hstep, rfl, rfl, same⟩
  · have hflush : d.flush =
        (.ended, ⟨.finished, ⟨d.sink.kept, destination⟩, some (d.failure.getD cause)⟩) := by
      simp only [Drain.flush, hf, record]
    rw [hflush] at hstep
    exact ⟨_, .ended hstep, rfl, rfl, same⟩

lemma heed_reading {d : Drain} (h : d.phase = .reading) :
    d.heed = ⟨.cutOff, d.sink, d.failure⟩ := by
  simp only [heed, h]

/-- **A drain with a prompt destination** takes over what is drawn out of its source, and ends
    where that ends, whatever the destination answers. -/
theorem rests_of_drawn {d : Drain} {s s' : σ} {chunks : List Bytes} {last : Phase}
    (hr : d.phase = .reading) (prompt : d.sink.destination.behaviour.Prompt)
    (h : Drawn read stop s chunks last s') :
    ∃ d' : Drain, Rests read stop d s d' s' ∧ d'.phase = last ∧
      d'.sink.kept = chunks.reverse ++ d.sink.kept ∧
      d'.sink.destination.behaviour = d.sink.destination.behaviour := by
  induction h generalizing d with
  | @chunk s s₁ s' chunk chunks last found filled rest ih =>
      -- the chunk goes into the copy, and is forwarded
      obtain ⟨d₁, back⟩ := push_returns chunk
        (d := ⟨.holding chunk, d.sink.keep chunk, d.failure⟩) prompt
      obtain ⟨d', rests, hlast, hkept, hb⟩ := ih back.reading (by rw [back.behaviour]; exact prompt)
      have hstep : d.step read s = (.moved, ⟨.holding chunk, d.sink, d.failure⟩, s₁) := by
        rw [step_reading hr, found]
        simp only [receive, filled, Bool.false_eq_true, if_false]
      refine ⟨d', .moved hstep (.of_advances (back.advances Phase.noConfusion rfl) rests), hlast,
        ?_, hb.trans back.behaviour⟩
      rw [hkept, back.kept]
      simp [Sink.keep]
  | @ended s s₁ reply found ends =>
      have hstep : ∃ f, d.step read s = (.moved, ⟨.flushing, d.sink, f⟩, s₁) := by
        rw [step_reading hr, found]
        cases reply with
        | data chunk =>
            rw [ReadReply.ends] at ends
            simp only [receive, ends, if_true]
            exact ⟨_, rfl⟩
        | closed => exact ⟨_, rfl⟩
        | failed cause => exact ⟨_, rfl⟩
        | notReady => cases ends
        | stalled => cases ends
      obtain ⟨f, hstep⟩ := hstep
      obtain ⟨d', rests, hlast, hkept, hb⟩ :=
        flush_rests (d := ⟨.flushing, d.sink, f⟩) rfl prompt s₁
      exact ⟨d', .moved hstep rests, hlast, hkept, hb⟩
  | again found untold rest ih =>
      subst untold
      obtain ⟨d', rests, h⟩ := ih hr prompt
      refine ⟨d', .again ?_ rests, h⟩
      rw [step_reading hr, found]
      rfl
  | @obeyed s s₁ found told =>
      subst told
      have hstep : d.step read s = (.notReady, d, s₁) := by
        rw [step_reading hr, found]
        rfl
      have rests : Rests read true d s d.heed s₁ := .obeyed hstep
      rw [heed_reading hr] at rests
      exact ⟨_, rests, rfl, rfl, rfl⟩
  | @dry s s₁ found =>
      have hstep : d.step read s = (.stuck, d, s₁) := by
        rw [step_reading hr, found]
        rfl
      have rests : Rests read stop d s (if stop then d.heed else d) s₁ := .stuck hstep
      cases stop with
      | true =>
          rw [if_pos rfl, heed_reading hr] at rests
          exact ⟨_, rests, rfl, rfl, rfl⟩
      | false => exact ⟨d, rests, hr, rfl, rfl⟩

/-- A drain that has ended is at rest. -/
lemma rests_of_ended {d : Drain} (h : d.result?.isSome) (s : σ) : Rests read stop d s d s :=
  .ended (step_of_ended h s)

end Drain

end Curfew.Capture
