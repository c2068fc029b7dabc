import Curfew.Proofs.Capture.Custody

/-!
# What a step of a drain can be

A step of a drain is one read, one attempt at forwarding or at flushing, or nothing, and a single
answer decides what comes of it.

* **`Destination.Pushed`** — what can come of an attempt at forwarding.
* **`Drain.Steps`** — what a step can be.
* `Steps.ended`, `Steps.stuck`, `Steps.stalled` — a drain that says it has ended has a result; one
  that is stuck stays as it is, and is so because of a stall.
-/

namespace Curfew.Capture

/-! ## Attempts at forwarding -/

namespace Reply

/-- An answer upon which the same attempt is made again. -/
def interrupts : Reply → Bool
  | .fail cause => cause.kind = .interrupted
  | _ => false

end Reply

namespace Destination

/-- What comes of an attempt to forward `rest`: it is over, or less is left, or the attempt is to be
    made again, at once or later. -/
inductive Pushed (d : Destination) (rest : Bytes) : Forward → Destination → Prop
  | done {d' : Destination} (same : d'.behaviour = d.behaviour) : Pushed d rest .done d'
  | failed {d' : Destination} (same : d'.behaviour = d.behaviour) (cause : IoError) :
      Pushed d rest (.failed cause) d'
  | part {d' : Destination} (same : d'.behaviour = d.behaviour) (left : Bytes)
      (less : left.length < rest.length) : Pushed d rest (.again left) d'
  | interrupted {d' : Destination} (same : d'.behaviour = d.behaviour)
      (next : d'.writes = d.writes + 1)
      (interrupts : (d.behaviour.write d.writes).interrupts = true) :
      Pushed d rest (.again rest) d'
  | notReady {d' : Destination} (same : d'.behaviour = d.behaviour)
      (next : d'.writes = d.writes + 1) (putOff : d.behaviour.write d.writes = .notReady) :
      Pushed d rest (.notReady rest) d'
  | stalled (stall : d.behaviour.write d.writes = .stall) : Pushed d rest (.stalled rest) d
  | crashed {d' : Destination} (crash : d.behaviour.write d.writes = .crash) :
      Pushed d rest .crashed d'

lemma push_pushed (d : Destination) (rest : Bytes) :
    Pushed d rest (d.push rest).1 (d.push rest).2 := by
  rw [push]
  by_cases he : rest.isEmpty
  · rw [if_pos he]
    exact .done rfl
  · rw [if_neg he]
    rw [List.isEmpty_iff, ← ne_eq, ← List.length_pos_iff] at he
    simp only [offer]
    cases hw : d.behaviour.write d.writes with
    | accept limit =>
        cases hn : share limit rest.length with
        | zero =>
            simp only [hn]
            exact .failed (by rfl) _
        | succ n =>
            simp only [hn]
            by_cases hl : (rest.drop (n + 1)).isEmpty
            · rw [if_pos hl]
              exact .done (by rfl)
            · rw [if_neg hl]
              refine .part (by rfl) _ ?_
              rw [List.length_drop]
              omega
    | fail cause =>
        by_cases hk : cause.kind = .interrupted
        · simp only [if_pos hk]
          refine .interrupted (by rfl) (by rfl) ?_
          rw [hw]
          exact decide_eq_true hk
        · simp only [if_neg hk]
          exact .failed (by rfl) cause
    | notReady => exact .notReady (by rfl) (by rfl) hw
    | stall => exact .stalled hw
    | crash => exact .crashed hw

end Destination

/-! ## Sources -/

variable {σ : Type}

/-- A source of which a read that stalls leaves everything as it is. -/
def Steady (read : σ → ReadReply × σ) : Prop := ∀ s, (read s).1 = .stalled → (read s).2 = s

lemma Pipe.read_steady : Steady Pipe.read := by
  rintro ⟨items⟩ h
  cases items with
  | nil => rfl
  | cons item later =>
      cases item with
      | data bytes =>
          simp only [Pipe.read] at h
          split at h <;> cases h
      | fail cause => cases h
      | notReady => cases h
      | stall => rfl
      | close => cases h

/-! ## Steps -/

namespace Drain

variable {read : σ → ReadReply × σ} {d : Drain} {s : σ} {x : Pace × Drain × σ}

/-- What a step is: a read, an attempt at forwarding, one at flushing, or none. -/
inductive Steps (read : σ → ReadReply × σ) (d : Drain) (s : σ) : Pace × Drain × σ → Prop
  | reads (reading : d.phase = .reading) :
      Steps read d s ((d.receive (read s).1).1, (d.receive (read s).1).2, (read s).2)
  /-- The drain `d₁` is `d`, or `d` with the chunk in its hand put into the copy. -/
  | pushes {rest : Bytes} (d₁ : Drain) (same : d₁.sink.destination = d.sink.destination)
      (owes : d.phase = .holding rest ∨ d.phase = .waiting rest ∨ d.phase = .pushing rest) :
      Steps read d s ((d₁.push rest).1, (d₁.push rest).2, s)
  | flushes (flushing : d.phase = .flushing) : Steps read d s (d.flush.1, d.flush.2, s)
  | rests (ended : d.result?.isSome = true) : Steps read d s (.ended, d, s)

lemma steps (read : σ → ReadReply × σ) (d : Drain) (s : σ) : Steps read d s (d.step read s) := by
  by_cases hr : d.phase = .reading
  · rw [step_reading hr]
    exact .reads hr
  rw [step_of_ne_reading hr]
  cases hp : d.phase with
  | reading => exact absurd hp hr
  | holding chunk =>
      simp only [Drain.advance, hp]
      exact .pushes ⟨.holding chunk, d.sink.keep chunk, d.failure⟩ rfl (.inl hp)
  | waiting rest =>
      simp only [Drain.advance, hp]
      exact .pushes d rfl (.inr (.inl hp))
  | pushing rest =>
      simp only [Drain.advance, hp]
      exact .pushes d rfl (.inr (.inr hp))
  | flushing =>
      simp only [Drain.advance, hp]
      exact .flushes hp
  | finished =>
      simp only [Drain.advance, hp]
      exact .rests (by simp [result?, hp])
  | cutOff =>
      simp only [Drain.advance, hp]
      exact .rests (by simp [result?, hp])
  | crashed =>
      simp only [Drain.advance, hp]
      exact .rests (by simp [result?, hp])

/-- A drain that says it has ended has. -/
lemma Steps.ended (h : Steps read d s x) (hx : x.1 = .ended) : x.2.1.result?.isSome = true := by
  cases h with
  | reads reading => cases hs : (read s).1 <;> rw [hs] at hx <;> cases hx
  | @pushes rest d₁ same owes =>
      simp only [Drain.push] at hx ⊢
      cases hq : (d₁.sink.destination.push rest).1 <;> rw [hq] at hx <;> first | rfl | cases hx
  | flushes flushing =>
      simp only [Drain.flush] at hx ⊢
      cases hf : d.sink.destination.flushOnce.1 <;> rw [hf] at hx <;> first | rfl | cases hx
  | rests ended => exact ended

/-! ## Getting stuck -/

/-- An attempt at forwarding gets stuck at a stall, and would again. -/
lemma push_stuck {rest : Bytes} (h : (d.push rest).1 = .stuck) :
    d.sink.destination.behaviour.write d.sink.destination.writes = .stall ∧
      d.push rest = (.stuck, { d with phase := .waiting rest }) := by
  have pushed := d.sink.destination.push_pushed rest
  simp only [Drain.push] at h ⊢
  rcases hq : d.sink.destination.push rest with ⟨progress, destination⟩
  rw [hq] at pushed h
  cases pushed with
  | stalled stall => exact ⟨stall, rfl⟩
  | _ => cases h

lemma flush_stuck (h : d.flush.1 = .stuck) :
    d.sink.destination.behaviour.flush d.sink.destination.flushes = .stall ∧
      d.flush = (.stuck, d) := by
  simp only [Drain.flush, Destination.flushOnce] at h ⊢
  cases hf : d.sink.destination.behaviour.flush d.sink.destination.flushes with
  | stall => exact ⟨rfl, rfl⟩
  | _ =>
      rw [hf] at h
      cases h

/-- **A drain that is stuck stays as it is.** -/
theorem Steps.stuck (h : Steps read d s x) (steady : Steady read) (hx : x.1 = .stuck) :
    x.2.1.step read x.2.2 = x := by
  cases h with
  | reads reading =>
      cases hs : (read s).1 with
      | stalled =>
          simp only [receive, steady s hs]
          rw [step_reading reading, hs, steady s hs]
          rfl
      | _ =>
          rw [hs] at hx
          cases hx
  | @pushes rest d₁ same owes =>
      obtain ⟨-, hpush⟩ := push_stuck hx
      -- from now on it waits, and the same attempt is due
      rw [hpush, step_of_ne_reading Phase.noConfusion]
      change ((d₁.push rest).1, (d₁.push rest).2, s) = _
      rw [hpush]
  | flushes flushing =>
      obtain ⟨-, hflush⟩ := flush_stuck hx
      rw [hflush, step_of_ne_reading (by rw [flushing]; exact Phase.noConfusion)]
      simp only [Drain.advance, flushing, hflush]
  | rests ended => cases hx

/-- **It takes a stall** of its source or of its destination for a drain to get stuck. -/
theorem Steps.stalled (h : Steps read d s x) (hx : x.1 = .stuck) :
    d.phase = .reading ∧ (read s).1 = .stalled ∨
      (∃ n, d.sink.destination.behaviour.write n = .stall) ∨
      ∃ n, d.sink.destination.behaviour.flush n = .stall := by
  cases h with
  | reads reading =>
      cases hs : (read s).1 with
      | stalled => exact .inl ⟨reading, rfl⟩
      | _ =>
          rw [hs] at hx
          cases hx
  | @pushes rest d₁ same owes =>
      obtain ⟨stall, -⟩ := push_stuck hx
      rw [same] at stall
      exact .inr (.inl ⟨_, stall⟩)
  | flushes flushing => exact .inr (.inr ⟨_, (flush_stuck hx).1⟩)
  | rests ended => cases hx

end Drain

end Curfew.Capture
