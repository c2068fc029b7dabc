import Curfew.Proofs.Capture.Custody

/-!
# Delivery to the destination

The copy in a sink holds every byte of which a forward has begun.  This file says how much of it
the destination has accepted, as long as nothing has failed.

* `Destination.push_contents` — an attempt at forwarding moves bytes from the front of what is
  offered to the end of what the destination holds.
* **`Drain.Loyal`** — no failure is remembered, hence the destination holds the copy without the
  bytes that are still owed to it; and a drain that was cut off has delivered a first part.
* `advance_failed` — the first failure stays.
* `receive_loyal`, `advance_loyal`, `heed_loyal` — whatever happens keeps a drain loyal.
-/

namespace Curfew.Capture

namespace Destination

lemma share_le (limit : Option Nat) (offered : Nat) : share limit offered ≤ offered := by
  cases limit with
  | none => exact Nat.le_refl _
  | some most => exact Nat.min_le_right _ _

/-- An attempt to write adds what it took, from the front of what was offered. -/
lemma offer_contents (d : Destination) (bytes : Bytes) :
    match (d.offer bytes).1 with
    | .took n => n ≤ bytes.length ∧ (d.offer bytes).2.contents = d.contents ++ bytes.take n
    | _ => (d.offer bytes).2.contents = d.contents := by
  simp only [offer]
  cases d.behaviour.write d.writes with
  | accept limit => simp [contents, share_le]
  | _ => rfl

/-- **An attempt at forwarding** moves bytes from the front of what is offered to the end of what
    the destination holds.  Where it fails or crashes it moves none. -/
lemma push_contents (d : Destination) (rest : Bytes) :
    ∃ taken, (d.push rest).2.contents = d.contents ++ taken ∧
      match (d.push rest).1 with
      | .done => taken = rest
      | .failed _ => taken = []
      | .again left => taken ++ left = rest
      | .notReady left => taken ++ left = rest
      | .stalled left => taken ++ left = rest
      | .crashed => taken = [] := by
  have h := d.offer_contents rest
  rw [push]
  by_cases he : rest.isEmpty
  · rw [if_pos he]
    rw [List.isEmpty_iff] at he
    exact ⟨[], by simp [he]⟩
  · rw [if_neg he]
    rcases ho : d.offer rest with ⟨answer, d'⟩
    rw [ho] at h
    cases answer with
    | took n =>
        obtain ⟨-, hd⟩ := h
        cases n with
        | zero => exact ⟨[], by simpa using hd, rfl⟩
        | succ n =>
            refine ⟨rest.take (n + 1), hd, ?_⟩
            by_cases hl : (rest.drop (n + 1)).isEmpty
            · simp only [hl, if_true]
              rw [List.isEmpty_iff, List.drop_eq_nil_iff] at hl
              exact List.take_of_length_le hl
            · simp only [hl, if_false, Bool.false_eq_true]
              exact List.take_append_drop _ _
    | failed cause =>
        refine ⟨[], by simpa using h, ?_⟩
        by_cases hk : cause.kind = .interrupted <;> simp [hk]
    | notReady => exact ⟨[], by simpa using h, rfl⟩
    | stalled => exact ⟨[], by simpa using h, rfl⟩
    | crashed => exact ⟨[], by simpa using h, rfl⟩

/-- A flush moves no bytes. -/
lemma flushOnce_contents (d : Destination) : d.flushOnce.2.contents = d.contents := by
  simp only [flushOnce]
  cases d.behaviour.flush d.flushes <;> rfl

end Destination

/-- The bytes of the copy that a drain in a phase still owes to its destination. -/
def Phase.owed : Phase → Bytes
  | .waiting rest => rest
  | .pushing rest => rest
  | _ => []

/-- Whether a drain in a phase has ended without forwarding all that it copied. -/
def Phase.severed : Phase → Bool
  | .cutOff => true
  | .crashed => true
  | _ => false

namespace Drain

/-- What the destination of a drain holds. -/
def delivered (d : Drain) : Bytes := d.sink.destination.contents

/-- As long as no failure is remembered, everything in the copy was delivered but what is still
    owed.  Of a drain that was cut off, or has crashed, only a first part is promised. -/
structure Loyal (d : Drain) : Prop where
  whole : d.failure = none → d.phase.severed = false →
    d.delivered ++ d.phase.owed = d.sink.snapshot
  part : d.failure = none → d.delivered <+: d.sink.snapshot

/-- Delivering all but what is owed is delivering a first part. -/
lemma Loyal.of_whole {d : Drain}
    (h : d.failure = none → d.delivered ++ d.phase.owed = d.sink.snapshot) : d.Loyal :=
  ⟨fun hf _ => h hf, fun hf => ⟨_, h hf⟩⟩

lemma record_failure (d : Drain) (cause : IoError) : (d.record cause).failure ≠ none := by
  simp [record]

lemma Loyal.owes {d : Drain} {phase : Phase} (h : d.Loyal) (hp : d.phase = phase)
    (hs : phase.severed = false) (hf : d.failure = none) :
    d.delivered ++ phase.owed = d.sink.snapshot := by
  subst hp
  exact h.whole hf hs

/-! ### The first failure -/

lemma record_of_failed {d : Drain} {first : IoError} (h : d.failure = some first)
    (cause : IoError) : (d.record cause).failure = some first := by
  rw [record, h, Option.getD_some]

lemma push_failed {d : Drain} {first : IoError} (h : d.failure = some first) (rest : Bytes) :
    (d.push rest).2.failure = some first := by
  simp only [Drain.push]
  cases (d.sink.destination.push rest).1 with
  | failed cause => exact record_of_failed h cause
  | _ => exact h

/-- **The first failure stays.** -/
theorem advance_failed {d : Drain} {first : IoError} (h : d.failure = some first) :
    d.advance.2.failure = some first := by
  cases hp : d.phase with
  | holding chunk =>
      have kept : (⟨.holding chunk, d.sink.keep chunk, d.failure⟩ : Drain).failure = some first := h
      simp only [Drain.advance, hp]
      exact push_failed kept chunk
  | waiting rest =>
      simp only [Drain.advance, hp]
      exact push_failed h rest
  | pushing rest =>
      simp only [Drain.advance, hp]
      exact push_failed h rest
  | flushing =>
      simp only [Drain.advance, hp, Drain.flush]
      cases d.sink.destination.flushOnce.1 with
      | failed cause => exact record_of_failed h cause
      | _ => exact h
  | _ => simpa only [Drain.advance, hp] using h

/-- A drain that remembers no failure did not remember one before. -/
lemma unfailed_of_advance {d : Drain} (h : d.advance.2.failure = none) : d.failure = none := by
  cases hf : d.failure with
  | none => rfl
  | some first =>
      rw [advance_failed hf] at h
      cases h

/-! ### Loyalty -/

/-- A drain that owes `rest` and offers it is loyal afterwards. -/
lemma push_loyal {d : Drain} {rest : Bytes}
    (h : d.failure = none → d.delivered ++ rest = d.sink.snapshot) : (d.push rest).2.Loyal := by
  obtain ⟨taken, hd, hp⟩ := d.sink.destination.push_contents rest
  -- whatever the destination took is no longer owed
  have moved (left : Bytes) (hl : taken ++ left = rest) (hf : d.failure = none) :
      (d.sink.destination.push rest).2.contents ++ left = d.sink.snapshot := by
    rw [hd, List.append_assoc, hl]
    exact h hf
  simp only [Drain.push]
  cases hq : (d.sink.destination.push rest).1 with
  | done =>
      simp only [hq] at hp
      refine .of_whole fun hf => moved [] ?_ hf
      rw [hp, List.append_nil]
  | failed cause => exact .of_whole fun hf => absurd hf (record_failure _ cause)
  | again left =>
      simp only [hq] at hp
      exact .of_whole fun hf => moved left hp hf
  | notReady left =>
      simp only [hq] at hp
      exact .of_whole fun hf => moved left hp hf
  | stalled left =>
      simp only [hq] at hp
      exact .of_whole fun hf => moved left hp hf
  | crashed =>
      simp only [hq] at hp
      refine ⟨fun _ hc => Bool.noConfusion hc, fun hf => ⟨rest, moved rest ?_ hf⟩⟩
      rw [hp, List.nil_append]

/-- A flush delivers nothing, and nothing is owed when it begins. -/
lemma flush_loyal {d : Drain} (hp : d.phase = .flushing) (h : d.Loyal) : d.flush.2.Loyal := by
  have whole (hf : d.failure = none) :
      d.sink.destination.flushOnce.2.contents ++ [] = d.sink.snapshot := by
    rw [d.sink.destination.flushOnce_contents]
    exact h.owes hp rfl hf
  have howed : d.phase.owed = [] := by rw [hp]; rfl
  simp only [Drain.flush]
  cases d.sink.destination.flushOnce.1 with
  | done => exact .of_whole whole
  | failed cause => exact .of_whole fun hf => absurd hf (record_failure _ cause)
  | notReady =>
      refine .of_whole fun hf => ?_
      rw [howed]
      exact whole hf
  | stalled =>
      refine .of_whole fun hf => ?_
      rw [howed]
      exact whole hf
  | crashed => exact ⟨fun _ hc => Bool.noConfusion hc, fun hf => ⟨[], whole hf⟩⟩

/-- A read delivers nothing, and nothing is owed after it. -/
lemma receive_loyal {d : Drain} (hp : d.phase = .reading) (h : d.Loyal) (reply : ReadReply) :
    (d.receive reply).2.Loyal := by
  have whole (hf : d.failure = none) : d.delivered ++ [] = d.sink.snapshot :=
    h.owes hp rfl hf
  cases reply with
  | data chunk =>
      refine .of_whole fun hf => ?_
      have howed : (d.receive (.data chunk)).2.phase.owed = [] := by
        simp only [Drain.receive]
        split <;> rfl
      rw [howed]
      exact whole hf
  | closed => exact .of_whole whole
  | failed cause => exact .of_whole fun hf => absurd hf (record_failure _ cause)
  | notReady => exact h
  | stalled => exact h

/-- **Whatever follows a read keeps a drain loyal**, whatever the destination answers. -/
theorem advance_loyal {d : Drain} (h : d.Loyal) : d.advance.2.Loyal := by
  cases hp : d.phase with
  | holding chunk =>
      simp only [Drain.advance, hp]
      refine push_loyal fun hf => ?_
      -- the copy gets the chunk before any of it is offered
      have whole : d.delivered ++ [] = d.sink.snapshot := h.owes hp rfl hf
      show d.delivered ++ chunk = Bytes.joined (chunk :: d.sink.kept)
      rw [Bytes.joined_cons, ← List.append_nil d.delivered, whole]
      rfl
  | waiting rest =>
      simp only [Drain.advance, hp]
      exact push_loyal (h.owes hp rfl)
  | pushing rest =>
      simp only [Drain.advance, hp]
      exact push_loyal (h.owes hp rfl)
  | flushing =>
      simp only [Drain.advance, hp]
      exact flush_loyal hp h
  | _ => simpa only [Drain.advance, hp] using h

/-- **Requests to stop keep a drain loyal.**  A chunk in its hand or not yet taken by the
    destination may be given up, but nothing is delivered that the copy does not have. -/
theorem heed_loyal {d : Drain} (h : d.Loyal) : d.heed.Loyal := by
  cases hp : d.phase with
  | flushing =>
      have whole (hf : d.failure = none) : d.delivered ++ [] = d.sink.snapshot := h.owes hp rfl hf
      simp only [Drain.heed, hp]
      exact .of_whole whole
  | reading =>
      simp only [Drain.heed, hp]
      exact ⟨fun _ hc => Bool.noConfusion hc, h.part⟩
  | holding chunk =>
      simp only [Drain.heed, hp]
      exact ⟨fun _ hc => Bool.noConfusion hc, h.part⟩
  | waiting rest =>
      simp only [Drain.heed, hp]
      exact ⟨fun _ hc => Bool.noConfusion hc, h.part⟩
  | _ => simpa only [Drain.heed, hp] using h

end Drain

end Curfew.Capture
