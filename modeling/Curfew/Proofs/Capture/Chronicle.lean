import Curfew.Proofs.Capture.Delivery

/-!
# The chronicle of a drain

Everything that a drain does, in order: what it found in its pipe, what it offered to its
destination and what came of it, and where it obeyed a request to stop.

* **`Event`** and **`Drain.deeds`** — what a drain can do, and what it does in its next step.
* **`Drain.Chronicle`** — the runs of a drain, told by their events.  A request to stop is obeyed
  where the drain is `Blocked`.
* `push_delivered`, `push_failure`, `push_phase` — what an offer does to a drain, read off its
  answer.
* **`Drain.Reacts`** — all that a step can be.  What holds of every step is shown by its cases.
* **`Chronicle.log_eq`**, **`Chronicle.failure_eq`** — the attempts that a destination has seen, and
  the failure that a drain remembers, are those of the events.
* **`settle_chronicle`** — letting a drain do what it can continues its chronicle.
* **`Chronicle.staged`** — the events of a run are those of one loop, and after it either a request
  to stop or a single flush.
-/

namespace Curfew.Capture

/-! ## Events -/

/-- What was offered of a chunk, and the answer. -/
structure Offer where
  rest : Bytes
  answer : Offered
deriving DecidableEq, Repr

namespace Offer

/-- The bytes that the destination took. -/
def taken (o : Offer) : Bytes :=
  match o.answer with
  | .took n => o.rest.take n
  | _ => []

/-- The bytes that it did not take. -/
def left (o : Offer) : Bytes := o.rest.drop o.taken.length

/-- Where the forward of a chunk stands after an offer.  A destination that takes nothing has failed;
    an offer that was interrupted is made again. -/
def progress (o : Offer) : Forward :=
  match o.answer with
  | .took 0 => .failed (.plain .writeZero)
  | .took (_ + 1) => if o.left.isEmpty then .done else .again o.left
  | .failed cause => if cause.kind = .interrupted then .again o.left else .failed cause
  | .notReady => .notReady o.left
  | .stalled => .stalled o.left
  | .crashed => .crashed

/-- How the forward of a chunk ends with an offer, if it does. -/
def verdict (o : Offer) : Option (Except IoError Unit) :=
  match o.progress with
  | .done => some (.ok ())
  | .failed cause => some (.error cause)
  | _ => none

/-- The failure in which the forward of a chunk ends with an offer. -/
def failure? (o : Offer) : Option IoError :=
  match o.verdict with
  | some (.error cause) => some cause
  | _ => none

@[simp] lemma left_took (rest : Bytes) (n : Nat) : left ⟨rest, .took n⟩ = rest.drop n := by
  simp only [left, taken, List.length_take]
  rcases Nat.le_total n rest.length with hn | hn
  · rw [Nat.min_eq_left hn]
  · rw [Nat.min_eq_right hn, List.drop_length, List.drop_eq_nil_of_le hn]

@[simp] lemma taken_left (o : Offer) : o.taken ++ o.left = o.rest := by
  obtain ⟨rest, answer⟩ := o
  cases answer with
  | took n =>
      rw [left_took]
      exact List.take_append_drop n rest
  | _ => rfl

/-- What is said to be left is left, and there is some. -/
lemma progress_left {o : Offer} (hr : o.rest ≠ []) :
    match o.progress with
    | .done => o.left = []
    | .again rest => rest = o.left ∧ o.left ≠ []
    | .notReady rest => rest = o.left ∧ o.left ≠ []
    | .stalled rest => rest = o.left ∧ o.left ≠ []
    | .failed _ => True
    | .crashed => True := by
  obtain ⟨rest, answer⟩ := o
  cases answer with
  | took n =>
      cases n with
      | zero => trivial
      | succ n =>
          by_cases hl : (left ⟨rest, .took (n + 1)⟩).isEmpty
          · simp only [progress, if_pos hl]
            exact List.isEmpty_iff.mp hl
          · simp only [progress, if_neg hl]
            exact ⟨trivial, fun h => hl (List.isEmpty_iff.mpr h)⟩
  | failed cause =>
      by_cases hk : cause.kind = .interrupted
      · simp only [progress, if_pos hk]
        exact ⟨trivial, hr⟩
      · simp only [progress, if_neg hk]
  | notReady => exact ⟨rfl, hr⟩
  | stalled => exact ⟨rfl, hr⟩
  | crashed => trivial

/-- A forward that ends well leaves nothing. -/
lemma left_of_done {o : Offer} (h : o.verdict = some (.ok ())) : o.left = [] := by
  by_cases hr : o.rest = []
  · rw [left, hr, List.drop_nil]
  · have hleft := progress_left hr
    simp only [verdict] at h
    cases hp : o.progress <;> rw [hp] at h hleft <;> first | exact hleft | cases h

/-- A forward that has ended without a failure has ended well. -/
lemma done_of_unfailed {o : Offer} (ends : o.verdict.isSome = true) (h : o.failure? = none) :
    o.verdict = some (.ok ()) := by
  rw [failure?] at h
  cases hv : o.verdict with
  | none =>
      rw [hv] at ends
      cases ends
  | some result =>
      rw [hv] at h
      cases result with
      | ok => rfl
      | error cause => cases h

/-- A forward that goes on has not failed. -/
lemma unfailed_of_unended {o : Offer} (h : o.verdict = none) : o.failure? = none := by
  rw [failure?, h]

/-- A destination that takes nothing has failed. -/
lemma failure_of_nothing (rest : Bytes) :
    (⟨rest, .took 0⟩ : Offer).failure? = some (.plain .writeZero) := rfl

lemma progress_of_failure {o : Offer} {cause : IoError} (h : o.failure? = some cause) :
    o.progress = .failed cause := by
  rw [failure?, verdict] at h
  cases hp : o.progress <;> rw [hp] at h <;> cases h
  rfl

/-- An interruption ends no forward. -/
lemma failure_ne_interrupted {o : Offer} {cause : IoError} (h : o.failure? = some cause) :
    cause.kind ≠ .interrupted := by
  have hp := progress_of_failure h
  obtain ⟨rest, answer⟩ := o
  cases answer with
  | took n =>
      cases n with
      | zero =>
          cases hp
          exact fun hk => nomatch hk
      | succ n =>
          simp only [progress] at hp
          split at hp <;> cases hp
  | failed cause' =>
      simp only [progress] at hp
      split at hp
      · cases hp
      · next hk =>
          cases hp
          exact hk
  | _ => cases hp

end Offer

/-- What a drain does, or what happens to it. -/
inductive Event
  | read (reply : ReadReply)
  | offer (o : Offer)
  | flush (answer : Flushed)
  /-- Obeyed a request to stop. -/
  | stop
deriving DecidableEq, Repr

namespace Event

/-- Whether there is nothing to do but wait after an event. -/
def waits : Event → Bool
  | .read .notReady | .read .stalled => true
  | .offer ⟨_, .notReady⟩ | .offer ⟨_, .stalled⟩ => true
  | .flush .notReady | .flush .stalled => true
  | _ => false

/-- A forward has to wait only if that was the answer. -/
lemma waits_of_progress {o : Offer} {left : Bytes}
    (h : o.progress = .notReady left ∨ o.progress = .stalled left) :
    (offer o).waits = true := by
  obtain ⟨rest, answer⟩ := o
  cases answer with
  | took n =>
      cases n with
      | zero => simp [Offer.progress] at h
      | succ n =>
          simp only [Offer.progress] at h
          split at h <;> simp at h
  | failed cause =>
      simp only [Offer.progress] at h
      split at h <;> simp at h
  | notReady => rfl
  | stalled => rfl
  | crashed => simp [Offer.progress] at h

/-- Whether an event can come after the read that ends the loop. -/
def afterLoop : Event → Bool
  | .flush _ => true
  | .stop => true
  | _ => false

/-- The failure that an event brings: of a read, of the flush, or the one in which an offer ends the
    forward of its chunk. -/
def failure? : Event → Option IoError
  | .read (.failed cause) => some cause
  | .offer o => o.failure?
  | .flush (.failed cause) => some cause
  | _ => none

/-- The finished attempt that a destination remembers. -/
def attempt? : Event → Option Attempt
  | .offer ⟨rest, .took n⟩ => some (.write rest.length n)
  | .offer ⟨rest, .failed _⟩ => some (.writeFailed rest.length)
  | .flush .done => some .flush
  | .flush (.failed _) => some .flushFailed
  | _ => none

/-- Whether an event belongs to the loop of reads and forwards, and does not end it. -/
def inLoop : Event → Bool
  | .read reply => !reply.ends
  | .offer _ => true
  | .flush _ => false
  | .stop => false

end Event

/-- The last thing that was done came to nothing yet. -/
def Blocked (events : List Event) : Prop := ∃ e, events.getLast? = some e ∧ e.waits = true

/-! ## The loop and what follows it -/

/-- Whether a drain in a phase is in its loop, or has crashed there. -/
def Phase.looping : Phase → Bool
  | .reading => true
  | .holding _ => true
  | .waiting _ => true
  | .pushing _ => true
  | .flushing => false
  | .finished => false
  | .cutOff => false
  | .crashed => true

/-- What follows the loop, for a drain in a phase: nothing yet, a request to stop, or the read that
    ends the loop and one flush.  The flush is waited for as long as it is not answered. -/
inductive Closing : Phase → List Event → Prop
  | looping {phase : Phase} (within : phase.looping = true) : Closing phase []
  | cutOff : Closing .cutOff [.stop]
  | asked {reply : ReadReply} {answers : List Flushed} (ends : reply.ends = true)
      (pending : ∀ answer ∈ answers, (Event.flush answer).waits = true) :
      Closing .flushing (.read reply :: answers.map .flush)
  | answered {phase : Phase} {reply : ReadReply} {answers : List Flushed} {answer : Flushed}
      (ends : reply.ends = true)
      (pending : ∀ answer ∈ answers, (Event.flush answer).waits = true)
      (decided : (Event.flush answer).waits = false)
      (ended : phase = if answer = .crashed then .crashed else .finished) :
      Closing phase (.read reply :: (answers.map .flush ++ [.flush answer]))
  | relieved {reply : ReadReply} {answers : List Flushed} (ends : reply.ends = true)
      (pending : ∀ answer ∈ answers, (Event.flush answer).waits = true) (begun : answers ≠ []) :
      Closing .finished (.read reply :: (answers.map .flush ++ [.stop]))

/-- The events are those of the loop, and what follows it. -/
def Staged (phase : Phase) (events : List Event) : Prop :=
  ∃ loop closing, events = loop ++ closing ∧ (∀ e ∈ loop, e.inLoop = true) ∧ Closing phase closing

namespace Staged

variable {events : List Event}

/-- In a phase of the loop, nothing has followed it yet. -/
lemma within {phase : Phase} (h : Staged phase events) (hp : phase.looping = true)
    (hc : phase ≠ .crashed) : ∀ e ∈ events, e.inLoop = true := by
  obtain ⟨loop, closing, rfl, within, hclosing⟩ := h
  cases hclosing with
  | looping h =>
      rw [List.append_nil]
      exact within
  | answered ends pending decided ended =>
      split at ended
      · exact absurd ended hc
      · subst ended
        cases hp
  | cutOff => cases hp
  | asked ends pending => cases hp
  | relieved ends pending begun => cases hp

lemma of_within {phase : Phase} (hp : phase.looping = true)
    (within : ∀ e ∈ events, e.inLoop = true) : Staged phase events :=
  ⟨events, [], (List.append_nil _).symm, within, .looping hp⟩

/-- More of the loop. -/
lemma more {more : List Event} {phase phase' : Phase} (h : Staged phase events)
    (hp : phase.looping = true) (hc : phase ≠ .crashed) (hmore : ∀ e ∈ more, e.inLoop = true)
    (hp' : phase'.looping = true) : Staged phase' (events ++ more) := by
  refine .of_within hp' fun e he => ?_
  rcases List.mem_append.mp he with he | he
  · exact h.within hp hc e he
  · exact hmore e he

/-- A request to stop in the loop. -/
lemma cut {phase : Phase} (h : Staged phase events) (hp : phase.looping = true)
    (hc : phase ≠ .crashed) : Staged .cutOff (events ++ [.stop]) :=
  ⟨events, [.stop], rfl, h.within hp hc, .cutOff⟩

/-- One more answer to the flush. -/
lemma flush {phase : Phase} (h : Staged .flushing events) (answer : Flushed)
    (hp : if (Event.flush answer).waits then phase = .flushing
      else phase = if answer = .crashed then .crashed else .finished) :
    Staged phase (events ++ [.flush answer]) := by
  obtain ⟨loop, closing, rfl, within, hclosing⟩ := h
  cases hclosing with
  | looping h => cases h
  | answered ends pending decided ended => split at ended <;> cases ended
  | @asked reply answers ends pending =>
      by_cases hw : (Event.flush answer).waits = true
      · rw [if_pos hw] at hp
        subst hp
        refine ⟨loop, .read reply :: (answers ++ [answer]).map .flush, by simp, within,
          .asked ends fun a ha => ?_⟩
        rcases List.mem_append.mp ha with ha | ha
        · exact pending a ha
        · rw [List.mem_singleton.mp ha]
          exact hw
      · rw [if_neg hw] at hp
        exact ⟨loop, .read reply :: (answers.map .flush ++ [.flush answer]), by simp, within,
          .answered ends pending (by simpa using hw) hp⟩

/-- A request to stop in the flush.  A drain that is blocked there has begun it. -/
lemma relieved (h : Staged .flushing events) (blocked : Blocked events) :
    Staged .finished (events ++ [.stop]) := by
  obtain ⟨loop, closing, rfl, within, hclosing⟩ := h
  cases hclosing with
  | looping h => cases h
  | answered ends pending decided ended => split at ended <;> cases ended
  | @asked reply answers ends pending =>
      refine ⟨loop, .read reply :: (answers.map .flush ++ [.stop]), by simp, within,
        .relieved ends pending ?_⟩
      rintro rfl
      obtain ⟨e, he, hw⟩ := blocked
      rw [List.map_nil, List.getLast?_concat] at he
      cases he
      cases reply with
      | data chunk => cases hw
      | closed => cases hw
      | failed cause => cases hw
      | notReady => cases ends
      | stalled => cases ends

/-- **A drain that has returned** has asked for a flush if a read ended its loop, and only then. -/
lemma flushes_iff {phase : Phase} (h : Staged phase events)
    (hp : phase = .finished ∨ phase = .cutOff) :
    (∃ answer, .flush answer ∈ events) ↔ ∃ reply, reply.ends = true ∧ .read reply ∈ events := by
  obtain ⟨loop, closing, rfl, within, hclosing⟩ := h
  cases hclosing with
  | looping h => rcases hp with rfl | rfl <;> cases h
  | asked ends pending => rcases hp with h | h <;> cases h
  | cutOff =>
      constructor
      · rintro ⟨answer, ha⟩
        rcases List.mem_append.mp ha with ha | ha
        · cases within _ ha
        · cases List.mem_singleton.mp ha
      · rintro ⟨reply, ends, hr⟩
        rcases List.mem_append.mp hr with hr | hr
        · have inLoop := within _ hr
          simp [Event.inLoop, ends] at inLoop
        · cases List.mem_singleton.mp hr
  | @answered _ reply answers answer ends pending decided ended =>
      exact iff_of_true ⟨answer, by simp⟩ ⟨reply, ends, by simp⟩
  | @relieved reply answers ends pending begun =>
      obtain ⟨answer, ha⟩ := List.exists_mem_of_ne_nil _ begun
      exact iff_of_true ⟨answer, by simp [ha]⟩ ⟨reply, ends, by simp⟩

/-- A drain that was never told to stop returns after the answer to its flush. -/
lemma unstopped {phase : Phase} (h : Staged phase events)
    (hp : phase = .finished ∨ phase = .cutOff) (unstopped : Event.stop ∉ events) :
    phase = .finished ∧ ∃ reply answer, reply.ends = true ∧ .read reply ∈ events ∧
      .flush answer ∈ events ∧ (Event.flush answer).waits = false ∧ answer ≠ .crashed := by
  obtain ⟨loop, closing, rfl, within, hclosing⟩ := h
  cases hclosing with
  | looping h => rcases hp with rfl | rfl <;> cases h
  | asked ends pending => rcases hp with h | h <;> cases h
  | cutOff => exact absurd (by simp) unstopped
  | relieved ends pending begun => exact absurd (by simp) unstopped
  | @answered _ reply answers answer ends pending decided ended =>
      by_cases hc : answer = .crashed
      · rw [if_pos hc] at ended
        subst ended
        rcases hp with h | h <;> cases h
      · rw [if_neg hc] at ended
        exact ⟨ended, reply, answer, ends, by simp, by simp, decided, hc⟩

end Staged

/-! ## Chronicles -/

namespace Drain

/-- The offer of `rest`; nothing is not offered. -/
def offers (d : Drain) (rest : Bytes) : List Event :=
  if rest.isEmpty then [] else [.offer ⟨rest, (d.sink.destination.offer rest).1⟩]

/-- What a drain does in its next step, given what it finds if it reads. -/
def deeds (d : Drain) (reply : ReadReply) : List Event :=
  match d.phase with
  | .reading => [.read reply]
  | .holding chunk => d.offers chunk
  | .waiting rest => d.offers rest
  | .pushing rest => d.offers rest
  | .flushing => [.flush d.sink.destination.flushOnce.1]
  | .finished => []
  | .cutOff => []
  | .crashed => []

/-- What a drain becomes by its next step, given what it finds if it reads. -/
def react (d : Drain) (reply : ReadReply) : Drain :=
  match d.phase with
  | .reading => (d.receive reply).2
  | _ => d.advance.2

/-- `Chronicle d₀ events d`: the drain `d₀` has become `d` by these events.  A read may find
    anything.  A request to stop is obeyed where the drain is blocked, in a phase in which it is
    looked at. -/
inductive Chronicle (d₀ : Drain) : List Event → Drain → Prop
  | start : Chronicle d₀ [] d₀
  | step {events : List Event} {d : Drain} (earlier : Chronicle d₀ events d) (reply : ReadReply) :
      Chronicle d₀ (events ++ d.deeds reply) (d.react reply)
  | stop {events : List Event} {d : Drain} (earlier : Chronicle d₀ events d)
      (heeds : Phase.heeds d.phase = true) (blocked : Blocked events) :
      Chronicle d₀ (events ++ [.stop]) d.heed

variable {d₀ d : Drain} {events : List Event}

/-! ## One offer -/

/-- The offer that a drain makes of `rest`. -/
def offering (d : Drain) (rest : Bytes) : Offer := ⟨rest, (d.sink.destination.offer rest).1⟩

/-- Keeping a chunk changes nothing for the destination. -/
lemma offers_keep (d : Drain) (chunk rest : Bytes) :
    Drain.offers { d with sink := d.sink.keep chunk } rest = d.offers rest := rfl

lemma offers_of_ne_nil (d : Drain) {rest : Bytes} (h : rest ≠ []) :
    d.offers rest = [.offer (d.offering rest)] := by
  rw [offers, if_neg (by simpa using h)]
  rfl

/-- The destination answers the offer that the drain makes. -/
lemma push_offering (d : Drain) {rest : Bytes} (h : rest ≠ []) :
    d.sink.destination.push rest =
      ((d.offering rest).progress, (d.sink.destination.offer rest).2) := by
  rw [Destination.push, if_neg (by simpa using h), offering]
  rcases d.sink.destination.offer rest with ⟨answer, d'⟩
  cases answer with
  | took n =>
      cases n with
      | zero => rfl
      | succ n => simp only [Offer.progress, Offer.left_took]
  | _ => rfl

/-- The destination gets what it took. -/
lemma push_delivered (d : Drain) {rest : Bytes} (h : rest ≠ []) :
    (d.push rest).2.delivered = d.delivered ++ (d.offering rest).taken := by
  have hpush : (d.push rest).2.delivered = (d.sink.destination.offer rest).2.contents := by
    simp only [Drain.push, delivered, push_offering d h]
    cases (d.offering rest).progress <;> rfl
  have hoffer := d.sink.destination.offer_contents rest
  rw [hpush, offering, Offer.taken, delivered]
  cases ha : (d.sink.destination.offer rest).1 with
  | took n =>
      rw [ha] at hoffer
      exact hoffer.2
  | _ =>
      rw [ha] at hoffer
      simpa using hoffer

/-- A failure that ends the forward is remembered, unless there was one before. -/
lemma push_failure (d : Drain) {rest : Bytes} (h : rest ≠ []) :
    (d.push rest).2.failure = d.failure.or (d.offering rest).failure? := by
  simp only [Drain.push, push_offering d h, Offer.failure?, Offer.verdict]
  cases (d.offering rest).progress with
  | failed cause =>
      simp only [record]
      cases d.failure <;> rfl
  | _ => simp

/-- Where an offer leaves a drain: it goes on reading, or still owes what is left, or has
    crashed. -/
lemma push_phase (d : Drain) {rest : Bytes} (h : rest ≠ []) :
    ((d.offering rest).verdict.isSome = true ∧ (d.push rest).2.phase = .reading) ∨
      ((d.offering rest).verdict = none ∧ (d.offering rest).left ≠ [] ∧
        ((d.push rest).2.phase = .waiting (d.offering rest).left ∨
          (d.push rest).2.phase = .pushing (d.offering rest).left)) ∨
      ((d.offering rest).verdict = none ∧ (d.push rest).2.phase = .crashed) := by
  have hleft := Offer.progress_left (o := d.offering rest) h
  simp only [Drain.push, push_offering d h, Offer.verdict]
  cases hp : (d.offering rest).progress with
  | done => exact .inl ⟨rfl, rfl⟩
  | failed cause => exact .inl ⟨rfl, rfl⟩
  | again left =>
      rw [hp] at hleft
      exact .inr (.inl ⟨rfl, hleft.2, .inr (congrArg _ hleft.1)⟩)
  | notReady left =>
      rw [hp] at hleft
      exact .inr (.inl ⟨rfl, hleft.2, .inl (congrArg _ hleft.1)⟩)
  | stalled left =>
      rw [hp] at hleft
      exact .inr (.inl ⟨rfl, hleft.2, .inl (congrArg _ hleft.1)⟩)
  | crashed => exact .inr (.inr ⟨rfl, rfl⟩)

/-- An offer that was interrupted is due again. -/
lemma push_interrupted (d : Drain) {rest : Bytes} {cause : IoError} (h : rest ≠ [])
    (ha : d.offering rest = ⟨rest, .failed cause⟩) (hk : cause.kind = .interrupted) :
    (d.push rest).2.phase = .pushing rest := by
  simp only [Drain.push, push_offering d h, ha, Offer.progress, if_pos hk]
  rfl

/-! ## One step -/

lemma react_reading {d : Drain} (h : d.phase = .reading) (reply : ReadReply) :
    d.react reply = (d.receive reply).2 := by
  rw [react, h]

lemma react_of_ne_reading {d : Drain} (h : d.phase ≠ .reading) (reply : ReadReply) :
    d.react reply = d.advance.2 := by
  rw [react]
  cases hp : d.phase with
  | reading => exact absurd hp h
  | _ => rfl

/-- A drain reacts to what its source yields. -/
lemma step_react {σ : Type} (read : σ → ReadReply × σ) (d : Drain) (s : σ) :
    (d.step read s).2.1 = d.react (read s).1 := by
  by_cases hr : d.phase = .reading
  · rw [step_reading hr, react_reading hr]
  · rw [step_of_ne_reading hr, react_of_ne_reading hr]

/-- What a drain can do in a step, and what it becomes by that. -/
inductive Reacts (d : Drain) (reply : ReadReply) : List Event → Drain → Prop
  | reads (reading : d.phase = .reading) : Reacts d reply [.read reply] (d.receive reply).2
  /-- A chunk in its hand goes into the copy, and is offered. -/
  | begins {chunk : Bytes} (holding : d.phase = .holding chunk) :
      Reacts d reply (d.offers chunk) (Drain.push { d with sink := d.sink.keep chunk } chunk).2
  | resumes {rest : Bytes} (owing : d.phase = .waiting rest ∨ d.phase = .pushing rest) :
      Reacts d reply (d.offers rest) (d.push rest).2
  | flushes (flushing : d.phase = .flushing) :
      Reacts d reply [.flush d.sink.destination.flushOnce.1] d.flush.2
  | rests (ended : d.phase = .finished ∨ d.phase = .cutOff ∨ d.phase = .crashed) :
      Reacts d reply [] d

lemma reacts (d : Drain) (reply : ReadReply) : d.Reacts reply (d.deeds reply) (d.react reply) := by
  cases hp : d.phase with
  | reading =>
      rw [react_reading hp, deeds, hp]
      exact .reads hp
  | holding chunk =>
      simp only [deeds, react, Drain.advance, hp]
      exact .begins hp
  | waiting rest =>
      simp only [deeds, react, Drain.advance, hp]
      exact .resumes (.inl hp)
  | pushing rest =>
      simp only [deeds, react, Drain.advance, hp]
      exact .resumes (.inr hp)
  | flushing =>
      simp only [deeds, react, Drain.advance, hp]
      exact .flushes hp
  | finished =>
      simp only [deeds, react, Drain.advance, hp]
      exact .rests (.inl hp)
  | cutOff =>
      simp only [deeds, react, Drain.advance, hp]
      exact .rests (.inr (.inl hp))
  | crashed =>
      simp only [deeds, react, Drain.advance, hp]
      exact .rests (.inr (.inr hp))

/-- A drain does one thing in a step, if anything. -/
lemma Reacts.deeds_le {reply : ReadReply} {deeds : List Event} {d' : Drain}
    (h : d.Reacts reply deeds d') : deeds.length ≤ 1 := by
  have offers_le (rest : Bytes) : (d.offers rest).length ≤ 1 := by
    rw [offers]
    split <;> simp
  cases h with
  | begins holding => exact offers_le _
  | resumes owing => exact offers_le _
  | _ => simp

/-- A step in which something is offered. -/
lemma Reacts.offer {reply : ReadReply} {deeds : List Event} {d' : Drain} {o : Offer}
    (h : d.Reacts reply deeds d') (ho : deeds = [.offer o]) :
    ∃ d₁ : Drain, d' = (d₁.push o.rest).2 ∧ d₁.offering o.rest = o ∧ o.rest ≠ [] := by
  have of_offers {d₁ : Drain} {rest : Bytes} (ho : d₁.offers rest = [.offer o]) :
      rest = o.rest ∧ d₁.offering o.rest = o ∧ o.rest ≠ [] := by
    by_cases hr : rest = []
    · subst hr
      cases ho
    · rw [offers_of_ne_nil d₁ hr] at ho
      cases ho
      exact ⟨rfl, rfl, hr⟩
  cases h with
  | reads reading => cases ho
  | @begins chunk holding =>
      rw [← offers_keep d chunk chunk] at ho
      obtain ⟨rfl, offered⟩ := of_offers ho
      exact ⟨_, rfl, offered⟩
  | resumes owing =>
      obtain ⟨rfl, offered⟩ := of_offers ho
      exact ⟨d, rfl, offered⟩
  | flushes flushing => cases ho
  | rests ended => cases ho

/-- An offer that has to wait was answered so. -/
lemma push_waits {d : Drain} {rest : Bytes} (h : (d.push rest).1.waits = true) :
    ∃ e, d.offers rest = [e] ∧ e.waits = true := by
  by_cases hr : rest = []
  · subst hr
    cases h
  · refine ⟨_, offers_of_ne_nil d hr, ?_⟩
    simp only [Drain.push, push_offering d hr] at h
    cases hp : (d.offering rest).progress with
    | notReady left => exact Event.waits_of_progress (.inl hp)
    | stalled left => exact Event.waits_of_progress (.inr hp)
    | _ =>
        rw [hp] at h
        cases h

/-- A drain that has to wait has just done something that came to nothing. -/
lemma step_waits {σ : Type} {read : σ → ReadReply × σ} {d : Drain} {s : σ}
    (h : (d.step read s).1.waits = true) :
    ∃ e, d.deeds (read s).1 = [e] ∧ e.waits = true := by
  by_cases hr : d.phase = .reading
  · rw [step_reading hr] at h
    refine ⟨.read (read s).1, by simp only [deeds, hr], ?_⟩
    cases hs : (read s).1 <;> rw [hs] at h <;> first | rfl | cases h
  · rw [step_of_ne_reading hr] at h
    cases hp : d.phase with
    | reading => exact absurd hp hr
    | holding chunk =>
        simp only [Drain.advance, hp] at h
        simp only [deeds, hp]
        rw [← offers_keep d chunk chunk]
        rw [← hp] at h
        exact push_waits h
    | waiting rest =>
        simp only [Drain.advance, hp] at h
        simp only [deeds, hp]
        exact push_waits h
    | pushing rest =>
        simp only [Drain.advance, hp] at h
        simp only [deeds, hp]
        exact push_waits h
    | flushing =>
        simp only [Drain.advance, hp, Drain.flush] at h
        refine ⟨.flush d.sink.destination.flushOnce.1, by simp only [deeds, hp], ?_⟩
        cases hf : d.sink.destination.flushOnce.1 <;> rw [hf] at h <;> first | rfl | cases h
    | finished => simp [Drain.advance, hp, Pace.waits] at h
    | cutOff => simp [Drain.advance, hp, Pace.waits] at h
    | crashed => simp [Drain.advance, hp, Pace.waits] at h

/-! ## The attempts -/

lemma attempts_singleton (e : Event) : [e].filterMap Event.attempt? = e.attempt?.toList := by
  cases he : e.attempt? <;> simp [he]

lemma offer_log (d : Destination) (rest : Bytes) :
    (d.offer rest).2.log = d.log ++ (Event.offer ⟨rest, (d.offer rest).1⟩).attempt?.toList := by
  simp only [Destination.offer]
  cases d.behaviour.write d.writes <;> simp [Destination.log, Event.attempt?]

lemma flushOnce_log (d : Destination) :
    d.flushOnce.2.log = d.log ++ (Event.flush d.flushOnce.1).attempt?.toList := by
  simp only [Destination.flushOnce]
  cases d.behaviour.flush d.flushes <;> simp [Destination.log, Event.attempt?]

lemma flush_destination (d : Drain) :
    d.flush.2.sink.destination = d.sink.destination.flushOnce.2 := by
  simp only [Drain.flush]
  cases d.sink.destination.flushOnce.1 <;> rfl

lemma push_log (d : Drain) (rest : Bytes) :
    (d.push rest).2.sink.destination.log =
      d.sink.destination.log ++ (d.offers rest).filterMap Event.attempt? := by
  have hpush : (d.push rest).2.sink.destination = (d.sink.destination.push rest).2 := by
    simp only [Drain.push]
    cases (d.sink.destination.push rest).1 <;> rfl
  rw [hpush]
  by_cases hr : rest = []
  · subst hr
    exact (List.append_nil _).symm
  · rw [push_offering d hr, offers_of_ne_nil d hr, offer_log]
    rw [attempts_singleton]
    rfl

/-- **The destination sees the attempts that a drain makes**, and no others. -/
lemma Reacts.log {reply : ReadReply} {deeds : List Event} {d' : Drain}
    (h : d.Reacts reply deeds d') :
    d'.sink.destination.log = d.sink.destination.log ++ deeds.filterMap Event.attempt? := by
  cases h with
  | reads reading => cases reply <;> exact (List.append_nil _).symm
  | @begins chunk holding => exact push_log { d with sink := d.sink.keep chunk } chunk
  | resumes owing => exact push_log d _
  | flushes flushing =>
      rw [flush_destination, flushOnce_log, attempts_singleton]
  | rests ended => exact (List.append_nil _).symm

/-- The attempts that a destination has seen. -/
theorem Chronicle.log_eq (h : Chronicle d₀ events d) :
    d.sink.destination.log = d₀.sink.destination.log ++ events.filterMap Event.attempt? := by
  induction h with
  | start => simp
  | step earlier reply ih =>
      rw [(reacts _ reply).log, ih, List.filterMap_append, List.append_assoc]
  | stop earlier heeds blocked ih =>
      rw [heed_sink, ih, List.filterMap_append]
      exact congrArg _ (List.append_nil _).symm

/-! ## The first failure -/

/-- What is offered may fail. -/
lemma push_failures (d : Drain) (rest : Bytes) :
    (d.push rest).2.failure = d.failure.or ((d.offers rest).findSome? Event.failure?) := by
  by_cases hr : rest = []
  · subst hr
    exact (Option.or_none).symm
  · rw [push_failure d hr, offers_of_ne_nil d hr]
    simp [Event.failure?]

/-- **A step remembers the failure that it brings**, unless there was one before. -/
lemma Reacts.failure {reply : ReadReply} {deeds : List Event} {d' : Drain}
    (h : d.Reacts reply deeds d') :
    d'.failure = d.failure.or (deeds.findSome? Event.failure?) := by
  cases h with
  | reads reading =>
      cases reply with
      | failed cause => cases hf : d.failure <;> simp [Drain.receive, record, Event.failure?, hf]
      | _ => simp [Drain.receive, Event.failure?]
  | @begins chunk holding => exact push_failures { d with sink := d.sink.keep chunk } chunk
  | resumes owing => exact push_failures d _
  | flushes flushing =>
      simp only [Drain.flush]
      cases d.sink.destination.flushOnce.1 with
      | failed cause => cases hf : d.failure <;> simp [record, Event.failure?]
      | _ => simp [Event.failure?]
  | rests ended => exact (Option.or_none).symm

/-- **A drain remembers the first of its failures.** -/
theorem Chronicle.failure_eq (h : Chronicle d₀ events d) :
    d.failure = d₀.failure.or (events.findSome? Event.failure?) := by
  induction h with
  | start => simp
  | step earlier reply ih => rw [(reacts _ reply).failure, ih, List.findSome?_append, Option.or_assoc]
  | stop earlier heeds blocked ih => simp [heed_failure, ih, List.findSome?_append, Event.failure?]

/-! ## Being blocked -/

lemma push_ne_holding (d : Drain) (rest chunk : Bytes) : (d.push rest).2.phase ≠ .holding chunk := by
  simp only [Drain.push]
  cases (d.sink.destination.push rest).1 <;> exact Phase.noConfusion

/-- Only a read puts a chunk into the hand of a drain, and then there is something to do. -/
lemma Reacts.not_blocked {reply : ReadReply} {deeds : List Event} {d' : Drain} {chunk : Bytes}
    (h : d.Reacts reply deeds d') (hp : d'.phase = .holding chunk) : ¬ Blocked (events ++ deeds) := by
  cases h with
  | reads reading =>
      rintro ⟨e, he, hw⟩
      rw [List.getLast?_concat] at he
      cases he
      -- a read after which there is nothing to do leaves the drain reading
      cases reply with
      | notReady => simp [Drain.receive, reading] at hp
      | stalled => simp [Drain.receive, reading] at hp
      | _ => cases hw
  | begins holding => exact absurd hp (push_ne_holding _ _ chunk)
  | resumes owing => exact absurd hp (push_ne_holding _ _ chunk)
  | flushes flushing =>
      simp only [Drain.flush] at hp
      cases hf : d.sink.destination.flushOnce.1 <;> rw [hf] at hp <;> simp [flushing] at hp
  | rests ended => simp [hp] at ended

/-- A drain with a chunk in its hand is not blocked. -/
lemma Chronicle.not_blocked (h : Chronicle d₀ events d) (begins : d₀.phase = .reading)
    {chunk : Bytes} (hp : d.phase = .holding chunk) : ¬ Blocked events := by
  cases h with
  | start =>
      rw [begins] at hp
      cases hp
  | step earlier reply => exact (reacts _ reply).not_blocked hp
  | @stop events d earlier heeds blocked =>
      cases hd : d.phase with
      | pushing rest =>
          rw [hd] at heeds
          cases heeds
      | _ => simp [Drain.heed, hd] at hp

/-! ## What runs -/

/-- **Letting a drain do what it can continues its chronicle**, whatever it reads from.  With a
    request to stop, it obeys as soon as it is blocked. -/
theorem settle_chronicle {σ : Type} (h : Chronicle d₀ events d) (read : σ → ReadReply × σ)
    (stop : Bool) (fuel : Nat) (s : σ) :
    ∃ more, Chronicle d₀ (events ++ more) (d.settle read stop fuel s).1 := by
  induction fuel generalizing events d s with
  | zero =>
      refine ⟨[], ?_⟩
      rw [List.append_nil]
      exact h
  | succ fuel ih =>
      have next : Chronicle d₀ (events ++ d.deeds (read s).1) (d.step read s).2.1 :=
        step_react read d s ▸ h.step (read s).1
      obtain ⟨more, later⟩ := ih next (d.step read s).2.2
      -- a step after which the drain has to wait may be followed by the request
      have obeyed (hw : (d.step read s).1.waits = true) :
          Chronicle d₀ (events ++ (d.deeds (read s).1 ++ [.stop])) (d.step read s).2.1.heed := by
        obtain ⟨e, hdeed, he⟩ := step_waits hw
        rw [← List.append_assoc]
        refine next.stop ?_ ⟨e, by rw [hdeed, List.getLast?_concat], he⟩
        have hs := waits_suspended hw
        cases hp : (d.step read s).2.1.phase <;> rw [hp] at hs <;> first | rfl | cases hs
      rw [Drain.settle]
      rcases hstep : d.step read s with ⟨pace, d₁, s₁⟩
      rw [hstep] at next later obeyed
      rw [List.append_assoc] at later
      cases pace with
      | moved => exact ⟨_, later⟩
      | notReady =>
          cases stop with
          | true => exact ⟨_, obeyed rfl⟩
          | false => exact ⟨_, later⟩
      | stuck =>
          cases stop with
          | true => exact ⟨_, obeyed rfl⟩
          | false => exact ⟨_, next⟩
      | ended => exact ⟨_, next⟩

/-! ## The stages of a run -/

lemma push_looping (d : Drain) (rest : Bytes) : Phase.looping (d.push rest).2.phase = true := by
  simp only [Drain.push]
  cases (d.sink.destination.push rest).1 <;> rfl

lemma offers_inLoop (d : Drain) (rest : Bytes) : ∀ e ∈ d.offers rest, e.inLoop = true := by
  intro e he
  rw [offers] at he
  split at he
  · exact absurd he List.not_mem_nil
  · rw [List.mem_singleton.mp he]
    rfl

/-- A read ends the loop, or the drain goes on in it. -/
lemma receive_looping {d : Drain} (h : d.phase = .reading) (reply : ReadReply) :
    if reply.ends then (d.receive reply).2.phase = .flushing
    else Phase.looping (d.receive reply).2.phase = true := by
  cases reply with
  | data chunk => cases chunk <;> simp [Drain.receive, ReadReply.ends, Phase.looping]
  | closed => simp [Drain.receive, ReadReply.ends]
  | failed cause => simp [Drain.receive, ReadReply.ends]
  | notReady => simp [Drain.receive, ReadReply.ends, Phase.looping, h]
  | stalled => simp [Drain.receive, ReadReply.ends, Phase.looping, h]

/-- What a drain does next belongs to its loop, or ends it, or follows it. -/
lemma Reacts.staged {reply : ReadReply} {deeds : List Event} {d' : Drain}
    (h : d.Reacts reply deeds d') (staged : Staged d.phase events) :
    Staged d'.phase (events ++ deeds) := by
  cases h with
  | reads reading =>
      have hreceive := receive_looping reading reply
      rw [reading] at staged
      by_cases he : reply.ends = true
      · rw [if_pos he] at hreceive
        rw [hreceive]
        exact ⟨events, [.read reply], rfl, staged.within rfl Phase.noConfusion,
          .asked he fun a ha => absurd ha List.not_mem_nil⟩
      · rw [if_neg he] at hreceive
        refine staged.more rfl Phase.noConfusion (fun e hm => ?_) hreceive
        rw [List.mem_singleton.mp hm]
        simpa [Event.inLoop] using he
  | begins holding =>
      rw [holding] at staged
      exact staged.more rfl Phase.noConfusion (offers_inLoop d _) (push_looping _ _)
  | resumes owing =>
      rcases owing with owing | owing
      · rw [owing] at staged
        exact staged.more rfl Phase.noConfusion (offers_inLoop d _) (push_looping d _)
      · rw [owing] at staged
        exact staged.more rfl Phase.noConfusion (offers_inLoop d _) (push_looping d _)
  | flushes flushing =>
      rw [flushing] at staged
      refine staged.flush _ ?_
      simp only [Drain.flush]
      cases d.sink.destination.flushOnce.1 with
      | done => rfl
      | failed cause => rfl
      | notReady => exact flushing
      | stalled => exact flushing
      | crashed => rfl
  | rests ended =>
      rw [List.append_nil]
      exact staged

/-- A request to stop ends the loop, or the wait for the flush. -/
lemma heed_staged (staged : Staged d.phase events) (heeds : Phase.heeds d.phase = true)
    (blocked : Blocked events) : Staged d.heed.phase (events ++ [.stop]) := by
  cases hp : d.phase with
  | reading =>
      rw [hp] at staged
      simp only [Drain.heed, hp]
      exact staged.cut rfl Phase.noConfusion
  | holding chunk =>
      rw [hp] at staged
      simp only [Drain.heed, hp]
      exact staged.cut rfl Phase.noConfusion
  | waiting rest =>
      rw [hp] at staged
      simp only [Drain.heed, hp]
      exact staged.cut rfl Phase.noConfusion
  | flushing =>
      rw [hp] at staged
      simp only [Drain.heed, hp]
      exact staged.relieved blocked
  | _ =>
      rw [hp] at heeds
      cases heeds

/-- **The events of a drain** are those of its loop, followed by a request to stop, or by the read
    that ends the loop and one flush. -/
theorem Chronicle.staged (h : Chronicle d₀ events d) (begins : d₀.phase = .reading) :
    Staged d.phase events := by
  induction h with
  | start =>
      rw [begins]
      exact .of_within rfl fun e he => absurd he List.not_mem_nil
  | step earlier reply ih => exact (reacts _ reply).staged ih
  | stop earlier heeds blocked ih => exact heed_staged ih heeds blocked

end Drain

end Curfew.Capture
