import Curfew.Proofs.Capture.Chronicle

/-!
# What a destination receives

The chunks that a drain reads are forwarded one after the other.  Here every offer is accounted for
by the chunk that it belongs to.

* **`Forwarding`** — the offers of one chunk.  Each is of exactly what is left of it, and none
  follows an offer that ended the forward.
* **`Delivery`** — a chunk with its offers.  It carries the proof that they are such, hence what was
  taken of a chunk is a first part of it (`taken_prefix`), and all of it where the forward ended
  well (`taken_of_done`).
* **`Ledger`** — the deliveries of a drain: they are its reads and offers in order, what the
  destination holds is what was taken in them, and all but the last have ended.
* `Reacts.ledger`, `heed_ledger` — a step and a request to stop keep a ledger; `Chronicle.ledger`.
* **`delivered_in_order`** — what a destination holds, and when it is flushed.
-/

namespace Curfew.Capture

/-! ## Deliveries -/

/-- The offers of a chunk so far, and what is left of it. -/
inductive Forwarding (chunk : Bytes) : List Offer → Bytes → Prop
  | begin : Forwarding chunk [] chunk
  | offer {offers : List Offer} {rest : Bytes} (earlier : Forwarding chunk offers rest)
      (unended : ∀ o ∈ offers, o.verdict = none) (answer : Offered) :
      Forwarding chunk (offers ++ [⟨rest, answer⟩]) (Offer.left ⟨rest, answer⟩)

/-- What was taken and what is left make up the chunk. -/
lemma Forwarding.whole {chunk rest : Bytes} {offers : List Offer}
    (h : Forwarding chunk offers rest) : offers.flatMap Offer.taken ++ rest = chunk := by
  induction h with
  | begin => rfl
  | @offer offers rest earlier unended answer ih =>
      rw [List.flatMap_append, List.flatMap_singleton, List.append_assoc, Offer.taken_left]
      exact ih

/-- Every offer is of what the offers before it have left, none of which has ended the forward. -/
lemma Forwarding.offered {chunk rest : Bytes} {offers before after : List Offer} {o : Offer}
    (h : Forwarding chunk offers rest) (ho : offers = before ++ o :: after) :
    before.flatMap Offer.taken ++ o.rest = chunk ∧ ∀ o' ∈ before, o'.verdict = none := by
  induction h generalizing after with
  | begin => cases before <;> cases ho
  | @offer offers rest earlier unended answer ih =>
      rcases List.eq_nil_or_concat after with rfl | ⟨after, last, rfl⟩
      · obtain ⟨rfl, heq⟩ := List.append_inj' ho rfl
        cases heq
        exact ⟨earlier.whole, unended⟩
      · rw [List.concat_eq_append, ← List.cons_append, ← List.append_assoc] at ho
        exact ih (List.append_inj' ho rfl).1

/-- A chunk, and the offers made of it. -/
structure Delivery where
  chunk : Bytes
  offers : List Offer
  /-- What is left of the chunk. -/
  rest : Bytes
  forwarding : Forwarding chunk offers rest

namespace Delivery

/-- A chunk of which nothing was offered yet. -/
def fresh (chunk : Bytes) : Delivery := ⟨chunk, [], chunk, .begin⟩

/-- The bytes of the chunk that the destination took. -/
def taken (x : Delivery) : Bytes := x.offers.flatMap Offer.taken

def begun (x : Delivery) : Bool := !x.offers.isEmpty

/-- How the forward has ended, if it has. -/
def verdict (x : Delivery) : Option (Except IoError Unit) := x.offers.getLast?.bind Offer.verdict

/-- The failure in which the forward has ended. -/
def failure? (x : Delivery) : Option IoError := x.offers.getLast?.bind Offer.failure?

/-- The forward has ended, well or not. -/
def Settled (x : Delivery) : Prop := x.verdict.isSome = true

/-- No offer has ended the forward. -/
def Unended (x : Delivery) : Prop := ∀ o ∈ x.offers, o.verdict = none

/-- What a drain does for a chunk: it reads it, and offers it. -/
def events (x : Delivery) : List Event := .read (.data x.chunk) :: x.offers.map .offer

/-- One more offer. -/
def extend (x : Delivery) (h : x.Unended) (answer : Offered) : Delivery :=
  ⟨x.chunk, x.offers ++ [⟨x.rest, answer⟩], Offer.left ⟨x.rest, answer⟩, x.forwarding.offer h answer⟩

lemma taken_prefix (x : Delivery) : x.taken <+: x.chunk := ⟨x.rest, x.forwarding.whole⟩

lemma taken_of_fresh (chunk : Bytes) : (fresh chunk).taken = [] := rfl

lemma begun_of_taken {x : Delivery} (h : x.taken ≠ []) : x.begun = true := by
  cases ho : x.offers with
  | nil => simp [taken, ho] at h
  | cons o offers => simp [begun, ho]

/-- A forward that has ended well has delivered the chunk. -/
lemma taken_of_done {x : Delivery} (h : x.verdict = some (.ok ())) : x.taken = x.chunk := by
  obtain ⟨chunk, offers, rest, forwarding⟩ := x
  have whole := forwarding.whole
  cases forwarding with
  | begin => cases h
  | @offer offers rest earlier unended answer =>
      simp only [verdict, List.getLast?_concat, Option.bind_some] at h
      rwa [Offer.left_of_done h, List.append_nil] at whole

section Extend

variable {x : Delivery} (h : x.Unended) (answer : Offered)

@[simp] lemma extend_chunk : (x.extend h answer).chunk = x.chunk := rfl

@[simp] lemma extend_taken :
    (x.extend h answer).taken = x.taken ++ Offer.taken ⟨x.rest, answer⟩ := by
  simp [taken, extend]

@[simp] lemma extend_events :
    (x.extend h answer).events = x.events ++ [.offer ⟨x.rest, answer⟩] := by
  simp [events, extend]

@[simp] lemma extend_begun : (x.extend h answer).begun = true := by
  simp [begun, extend]

@[simp] lemma extend_verdict :
    (x.extend h answer).verdict = Offer.verdict ⟨x.rest, answer⟩ := by
  simp [verdict, extend]

end Extend

end Delivery

/-! ## Ledgers -/

/-- Whether an event brings a chunk, or offers one. -/
def Event.copies : Event → Bool
  | .read (.data chunk) => !chunk.isEmpty
  | .offer _ => true
  | _ => false

/-- The last delivery has not ended, and `rest` is what it still owes. -/
structure Owing (rest : Bytes) (earlier : List Delivery) (x : Delivery) : Prop where
  owes : x.rest = rest
  something : rest ≠ []
  unended : x.Unended
  settled : ∀ y ∈ earlier, y.Settled

/-- All deliveries have begun, but the last may have been given up. -/
def Severed (deliveries : List Delivery) : Prop :=
  (∀ x ∈ deliveries.dropLast, x.Settled) ∧ ∀ x ∈ deliveries, x.begun = true

/-- How the deliveries of a drain in a phase stand. -/
def Standing : Phase → List Delivery → Prop
  | .reading, deliveries => ∀ x ∈ deliveries, x.Settled
  | .holding chunk, deliveries =>
      ∃ earlier, deliveries = earlier ++ [.fresh chunk] ∧ Owing chunk earlier (.fresh chunk)
  | .waiting rest, deliveries =>
      ∃ earlier x, deliveries = earlier ++ [x] ∧ x.begun = true ∧ Owing rest earlier x
  | .pushing rest, deliveries =>
      ∃ earlier x, deliveries = earlier ++ [x] ∧ x.begun = true ∧ Owing rest earlier x
  | .flushing, deliveries => ∀ x ∈ deliveries, x.Settled
  | .finished, deliveries => ∀ x ∈ deliveries, x.Settled
  | .cutOff, deliveries => Severed deliveries
  | .crashed, deliveries => Severed deliveries

/-- The deliveries that a drain has made by these events. -/
structure Ledger (events : List Event) (deliveries : List Delivery) (d : Drain) : Prop where
  copies : events.filter Event.copies = deliveries.flatMap Delivery.events
  delivered : d.delivered = deliveries.flatMap Delivery.taken
  /-- The copy holds the chunks of which something was offered. -/
  captured : d.sink.snapshot = (deliveries.filter Delivery.begun).flatMap Delivery.chunk
  standing : Standing d.phase deliveries

/-- A forward that has ended has begun. -/
lemma Delivery.Settled.begun {x : Delivery} (h : x.Settled) : x.begun = true := by
  rw [Delivery.begun, Bool.not_eq_true']
  cases ho : x.offers with
  | nil => simp [Delivery.Settled, Delivery.verdict, ho] at h
  | cons o offers => rfl

/-- Where all earlier deliveries have ended and the last has begun, one may stop. -/
lemma Severed.concat {earlier : List Delivery} {x : Delivery} (settled : ∀ y ∈ earlier, y.Settled)
    (begun : x.begun = true) : Severed (earlier ++ [x]) := by
  refine ⟨by rwa [List.dropLast_concat], fun y hy => ?_⟩
  rcases List.mem_append.mp hy with hy | hy
  · exact (settled y hy).begun
  · rwa [List.mem_singleton.mp hy]

lemma Severed.of_settled {deliveries : List Delivery} (h : ∀ x ∈ deliveries, x.Settled) :
    Severed deliveries :=
  ⟨fun x hx => h x (List.dropLast_subset _ hx), fun x hx => (h x hx).begun⟩

/-- Unless a chunk is in hand, all deliveries have begun. -/
lemma Standing.severed {phase : Phase} {deliveries : List Delivery} (h : Standing phase deliveries)
    (hp : ∀ chunk, phase ≠ .holding chunk) : Severed deliveries := by
  cases phase with
  | reading => exact .of_settled h
  | holding chunk => exact absurd rfl (hp chunk)
  | waiting rest =>
      obtain ⟨earlier, x, rfl, begun, owing⟩ := h
      exact .concat owing.settled begun
  | pushing rest =>
      obtain ⟨earlier, x, rfl, begun, owing⟩ := h
      exact .concat owing.settled begun
  | flushing => exact .of_settled h
  | finished => exact .of_settled h
  | cutOff => exact h
  | crashed => exact h

/-- In any phase, all deliveries but the last have ended. -/
lemma Standing.settled {phase : Phase} {deliveries : List Delivery} (h : Standing phase deliveries) :
    ∀ x ∈ deliveries.dropLast, x.Settled := by
  by_cases hp : ∃ chunk, phase = .holding chunk
  · obtain ⟨chunk, rfl⟩ := hp
    obtain ⟨earlier, rfl, owing⟩ := h
    rw [List.dropLast_concat]
    exact owing.settled
  · exact (h.severed fun chunk hc => hp ⟨chunk, hc⟩).1

section Ledger

variable {events : List Event} {deliveries : List Delivery} {d : Drain}

/-- The offers of a delivery were made. -/
lemma Ledger.offered (h : Ledger events deliveries d) {x : Delivery}
    (hx : x ∈ deliveries) {o : Offer} (ho : o ∈ x.offers) : .offer o ∈ events := by
  have hm : Event.offer o ∈ events.filter Event.copies := by
    rw [h.copies, List.mem_flatMap]
    exact ⟨x, hx, List.mem_cons_of_mem _ (List.mem_map_of_mem ho)⟩
  exact (List.mem_filter.mp hm).1

/-- Forwards that have ended, and did not fail, have delivered their chunks. -/
lemma Ledger.taken_of_unfailed (h : Ledger events deliveries d)
    (settled : ∀ x ∈ deliveries, x.Settled) (unfailed : ∀ e ∈ events, e.failure? = none) :
    ∀ x ∈ deliveries, x.taken = x.chunk := by
  intro x hx
  refine x.taken_of_done ?_
  have hsettled := settled x hx
  rw [Delivery.Settled, Delivery.verdict] at hsettled
  rw [Delivery.verdict]
  cases hl : x.offers.getLast? with
  | none =>
      rw [hl] at hsettled
      cases hsettled
  | some o =>
      rw [hl] at hsettled
      exact Offer.done_of_unfailed hsettled
        (unfailed _ (h.offered hx (List.mem_of_getLast? hl)))

end Ledger

namespace Drain

/-- **An offer** is entered with its delivery. -/
lemma push_ledger {d : Drain} {events : List Event} {earlier : List Delivery} {x : Delivery}
    {rest : Bytes} (copies : events.filter Event.copies = (earlier ++ [x]).flatMap Delivery.events)
    (delivered : d.delivered = (earlier ++ [x]).flatMap Delivery.taken)
    (captured : d.sink.snapshot = earlier.flatMap Delivery.chunk ++ x.chunk)
    (owing : Owing rest earlier x) :
    Ledger (events ++ d.offers rest)
      (earlier ++ [x.extend owing.unended (d.offering rest).answer]) (d.push rest).2 := by
  have hoffering : (⟨x.rest, (d.offering rest).answer⟩ : Offer) = d.offering rest := by
    rw [owing.owes]
    rfl
  have begun : earlier.filter Delivery.begun = earlier :=
    List.filter_eq_self.mpr fun y hy => (owing.settled y hy).begun
  refine ⟨?_, ?_, ?_, ?_⟩
  · rw [offers_of_ne_nil d owing.something, List.filter_append, copies]
    simp [hoffering, Event.copies]
  · rw [push_delivered d owing.something, delivered]
    simp [hoffering]
  · rw [push_snapshot, captured, List.filter_append, begun]
    simp
  · rcases push_phase d owing.something with ⟨hv, hp⟩ | ⟨hv, hl, hp⟩ | ⟨-, hp⟩
    · rw [hp]
      intro y hy
      rcases List.mem_append.mp hy with hy | hy
      · exact owing.settled y hy
      · rw [List.mem_singleton.mp hy, Delivery.Settled, Delivery.extend_verdict, hoffering]
        exact hv
    · have owing' : Owing (d.offering rest).left earlier
          (x.extend owing.unended (d.offering rest).answer) := by
        refine ⟨congrArg Offer.left hoffering, hl, fun o ho => ?_, owing.settled⟩
        rcases List.mem_append.mp ho with ho | ho
        · exact owing.unended o ho
        · rw [List.mem_singleton.mp ho, hoffering]
          exact hv
      rcases hp with hp | hp
      · rw [hp]
        exact ⟨earlier, _, rfl, Delivery.extend_begun _ _, owing'⟩
      · rw [hp]
        exact ⟨earlier, _, rfl, Delivery.extend_begun _ _, owing'⟩
    · rw [hp]
      exact Severed.concat owing.settled (Delivery.extend_begun _ _)

variable {events : List Event} {deliveries : List Delivery}

/-- A read that brings no chunk changes no delivery. -/
lemma receive_idle {d : Drain} (h : Ledger events deliveries d) (hr : d.phase = .reading)
    {reply : ReadReply} (hc : (Event.read reply).copies = false) :
    Ledger (events ++ [.read reply]) deliveries (d.receive reply).2 := by
  have settled : Standing .reading deliveries := hr ▸ h.standing
  have copies : (events ++ [Event.read reply]).filter Event.copies =
      deliveries.flatMap Delivery.events := by
    rw [List.filter_append, h.copies]
    simp [hc]
  cases reply with
  | data chunk =>
      have hempty : chunk.isEmpty = true := by simpa [Event.copies] using hc
      refine ⟨copies, h.delivered, h.captured, ?_⟩
      simp only [Drain.receive, hempty, if_true]
      exact settled
  | closed => exact ⟨copies, h.delivered, h.captured, settled⟩
  | failed cause => exact ⟨copies, h.delivered, h.captured, settled⟩
  | notReady => exact ⟨copies, h.delivered, h.captured, h.standing⟩
  | stalled => exact ⟨copies, h.delivered, h.captured, h.standing⟩

/-- A chunk that was read opens a delivery. -/
lemma receive_chunk {d : Drain} (h : Ledger events deliveries d) (hr : d.phase = .reading)
    {chunk : Bytes} (hc : chunk ≠ []) :
    Ledger (events ++ [.read (.data chunk)]) (deliveries ++ [.fresh chunk])
      (d.receive (.data chunk)).2 := by
  have settled : Standing .reading deliveries := hr ▸ h.standing
  have hempty : chunk.isEmpty = false := by simpa using hc
  refine ⟨?_, ?_, ?_, ?_⟩
  · rw [List.filter_append, h.copies]
    simp [Event.copies, hempty, Delivery.events, Delivery.fresh]
  · rw [List.flatMap_append, ← h.delivered, List.flatMap_singleton, Delivery.taken_of_fresh,
      List.append_nil]
    rfl
  · have captured : (d.receive (.data chunk)).2.sink.snapshot =
        (deliveries.filter Delivery.begun).flatMap Delivery.chunk := h.captured
    rw [List.filter_append, captured]
    simp [Delivery.fresh, Delivery.begun]
  · simp only [Drain.receive, hempty, Bool.false_eq_true, if_false]
    exact ⟨deliveries, rfl, rfl, hc, fun o ho => absurd ho List.not_mem_nil, settled⟩

/-- A flush changes no delivery. -/
lemma flush_ledger {d : Drain} (h : Ledger events deliveries d) (hp : d.phase = .flushing) :
    Ledger (events ++ [.flush d.sink.destination.flushOnce.1]) deliveries d.flush.2 := by
  have settled : Standing .flushing deliveries := hp ▸ h.standing
  have copies : (events ++ [Event.flush d.sink.destination.flushOnce.1]).filter Event.copies =
      deliveries.flatMap Delivery.events := by
    rw [List.filter_append, h.copies]
    simp [Event.copies]
  have delivered : d.sink.destination.flushOnce.2.contents = deliveries.flatMap Delivery.taken := by
    rw [d.sink.destination.flushOnce_contents]
    exact h.delivered
  simp only [Drain.flush] at copies ⊢
  cases hf : d.sink.destination.flushOnce.1 with
  | done => exact ⟨hf ▸ copies, delivered, h.captured, settled⟩
  | failed cause => exact ⟨hf ▸ copies, delivered, h.captured, settled⟩
  | notReady => exact ⟨hf ▸ copies, delivered, h.captured, h.standing⟩
  | stalled => exact ⟨hf ▸ copies, delivered, h.captured, h.standing⟩
  | crashed =>
      exact ⟨hf ▸ copies, delivered, h.captured, Severed.of_settled settled⟩

/-- A chunk in hand goes into the copy, and is offered. -/
lemma holding_ledger {d : Drain} {chunk : Bytes} (h : Ledger events deliveries d)
    (hp : d.phase = .holding chunk) :
    ∃ deliveries', Ledger (events ++ d.offers chunk) deliveries'
      (Drain.push { d with sink := d.sink.keep chunk } chunk).2 := by
  obtain ⟨earlier, rfl, owing⟩ : Standing (.holding chunk) deliveries := hp ▸ h.standing
  have begun : earlier.filter Delivery.begun = earlier :=
    List.filter_eq_self.mpr fun y hy => (owing.settled y hy).begun
  have kept : (d.sink.keep chunk).snapshot = earlier.flatMap Delivery.chunk ++ chunk := by
    have captured := h.captured
    rw [List.filter_append, begun] at captured
    simp only [Delivery.fresh, Delivery.begun, List.filter_cons, List.isEmpty_nil, Bool.not_true,
      Bool.false_eq_true, if_false, List.filter_nil, List.append_nil] at captured
    rw [Sink.snapshot, Sink.keep, Bytes.joined_cons, ← captured]
    rfl
  exact ⟨_, push_ledger (d := { d with sink := d.sink.keep chunk }) h.copies h.delivered kept owing⟩

/-- What is owed is offered. -/
lemma owing_ledger {d : Drain} {rest : Bytes} (h : Ledger events deliveries d)
    (owes : ∃ earlier x, deliveries = earlier ++ [x] ∧ x.begun = true ∧ Owing rest earlier x) :
    ∃ deliveries', Ledger (events ++ d.offers rest) deliveries' (d.push rest).2 := by
  obtain ⟨earlier, x, rfl, hx, owing⟩ := owes
  have begun : earlier.filter Delivery.begun = earlier :=
    List.filter_eq_self.mpr fun y hy => (owing.settled y hy).begun
  refine ⟨_, push_ledger h.copies h.delivered ?_ owing⟩
  rw [h.captured, List.filter_append, begun]
  simp [hx]

/-- **A step keeps a ledger**, to which it may add a delivery, or an offer to the last one. -/
theorem Reacts.ledger {d d' : Drain} {reply : ReadReply} {deeds : List Event}
    (h : d.Reacts reply deeds d') (ledger : Ledger events deliveries d) :
    ∃ deliveries', Ledger (events ++ deeds) deliveries' d' := by
  cases h with
  | reads reading =>
      cases hc : (Event.read reply).copies with
      | false => exact ⟨_, receive_idle ledger reading hc⟩
      | true =>
          cases reply with
          | data chunk => exact ⟨_, receive_chunk ledger reading (by simpa [Event.copies] using hc)⟩
          | _ => cases hc
  | begins holding => exact holding_ledger ledger holding
  | resumes owing =>
      have standing := ledger.standing
      refine owing_ledger ledger ?_
      rcases owing with owing | owing
      · rwa [owing] at standing
      · rwa [owing] at standing
  | flushes flushing => exact ⟨_, flush_ledger ledger flushing⟩
  | rests ended =>
      rw [List.append_nil]
      exact ⟨_, ledger⟩

/-- **A request to stop keeps a ledger.**  It may leave the last delivery unended. -/
theorem heed_ledger {d : Drain} (h : Ledger events deliveries d)
    (hp : ∀ chunk, d.phase ≠ .holding chunk) : Ledger (events ++ [.stop]) deliveries d.heed := by
  have copies : (events ++ [Event.stop]).filter Event.copies =
      deliveries.flatMap Delivery.events := by
    rw [List.filter_append, h.copies]
    simp [Event.copies]
  have delivered : d.heed.delivered = deliveries.flatMap Delivery.taken := by
    rw [Drain.delivered, heed_sink]
    exact h.delivered
  refine ⟨copies, delivered, by rw [heed_sink]; exact h.captured, ?_⟩
  have severed := h.standing.severed hp
  have standing := h.standing
  cases hd : d.phase <;> rw [hd] at standing <;> simp only [Drain.heed, hd]
  case reading => exact severed
  case holding chunk => exact severed
  case waiting rest => exact severed
  all_goals exact standing

/-- Every drain has a ledger. -/
theorem Chronicle.ledger {d : Drain} {b : Behaviour}
    (h : Chronicle (.start (.ofBehaviour b)) events d) : ∃ deliveries, Ledger events deliveries d := by
  induction h with
  | start => exact ⟨[], rfl, rfl, rfl, fun x hx => absurd hx List.not_mem_nil⟩
  | step earlier reply ih =>
      obtain ⟨deliveries, h⟩ := ih
      exact (reacts _ reply).ledger h
  | stop earlier heeds blocked ih =>
      obtain ⟨deliveries, h⟩ := ih
      exact ⟨deliveries, heed_ledger h fun chunk hc => earlier.not_blocked rfl hc blocked⟩

/-! ## What a destination receives -/

/-- **What a destination receives from a drain**, wherever the drain stands.  Its chunks are those
    that were read, in order, each followed by its offers.  Every offer is of exactly what the
    offers before it have left of the chunk, and the destination holds what was taken in them: a
    first part of each chunk, all of it where the forward ended well, and nothing of which the sink
    has no copy.  No chunk is passed over, whatever became of the ones before it.  A flush follows
    the loop where a read has ended it, and only there.  Hence a drain that was never told to stop
    and returns without a failure has delivered what it captured. -/
theorem Chronicle.delivered_in_order {d : Drain} {b : Behaviour}
    (h : Chronicle (.start (.ofBehaviour b)) events d) :
    ∃ deliveries : List Delivery,
      events.filter Event.copies = deliveries.flatMap Delivery.events ∧
      d.delivered = deliveries.flatMap Delivery.taken ∧
      d.sink.snapshot = (deliveries.filter Delivery.begun).flatMap Delivery.chunk ∧
      (∀ x ∈ deliveries,
        x.taken <+: x.chunk ∧ (x.taken ≠ [] → x.begun = true) ∧
        (x.verdict = some (.ok ()) → x.taken = x.chunk) ∧
        ∀ before o after, x.offers = before ++ o :: after →
          before.flatMap Offer.taken ++ o.rest = x.chunk ∧ ∀ o' ∈ before, o'.verdict = none) ∧
      (∀ x ∈ deliveries.dropLast, x.verdict.isSome = true) ∧
      ((∀ chunk, d.phase ≠ .holding chunk) → ∀ x ∈ deliveries, x.begun = true) ∧
      d.sink.destination.log = events.filterMap Event.attempt? ∧
      Staged d.phase events ∧
      (∀ captured failure, d.result? = some (.drained captured failure) →
        ((∃ answer, .flush answer ∈ events) ↔ ∃ reply, reply.ends = true ∧ .read reply ∈ events)) ∧
      (∀ captured, d.result? = some (.drained captured none) → .stop ∉ events →
        d.delivered = captured ∧ captured = deliveries.flatMap Delivery.chunk ∧
        .flush .done ∈ events) := by
  obtain ⟨deliveries, ledger⟩ := h.ledger
  have staged := h.staged rfl
  refine ⟨deliveries, ledger.copies, ledger.delivered, ledger.captured, fun x _ =>
    ⟨x.taken_prefix, x.begun_of_taken, x.taken_of_done, fun before o after ho => x.forwarding.offered ho⟩,
    ledger.standing.settled, fun hp => (ledger.standing.severed hp).2, h.log_eq, staged,
    fun captured failure hd => staged.flushes_iff (result?_drained hd).2.2,
    fun captured hd hs => ?_⟩
  obtain ⟨hcaptured, hfailure, hend⟩ := result?_drained hd
  obtain ⟨hp, reply, answer, -, -, flushed, decided, sound⟩ := staged.unstopped hend hs
  have unfailed : ∀ e ∈ events, e.failure? = none := by
    have hf := h.failure_eq
    rw [← hfailure, Drain.start, Option.none_or] at hf
    exact List.findSome?_eq_none_iff.mp hf.symm
  have settled : ∀ x ∈ deliveries, x.Settled := by
    have standing := ledger.standing
    rw [hp] at standing
    exact standing
  -- what is taken of each chunk is the chunk, and every chunk is in the copy
  have taken : deliveries.flatMap Delivery.taken = deliveries.flatMap Delivery.chunk :=
    congrArg List.flatten (List.map_congr_left (ledger.taken_of_unfailed settled unfailed))
  have copied : captured = deliveries.flatMap Delivery.chunk := by
    rw [hcaptured, held_of_inHand (by rw [hp]; rfl), ledger.captured,
      List.filter_eq_self.mpr fun x hx => (settled x hx).begun]
  refine ⟨by rw [ledger.delivered, taken, copied], copied, ?_⟩
  have hanswer := unfailed _ flushed
  cases answer with
  | done => exact flushed
  | failed cause => cases hanswer
  | notReady => cases decided
  | stalled => cases decided
  | crashed => exact absurd rfl sound

/-- A destination that takes two bytes of the first chunk, is interrupted, and then takes all that
    it is offered: both chunks are delivered whole. -/
theorem delivered_of_interrupted_write :
    ∃ events d,
      Chronicle (.start (.ofBehaviour ⟨Behaviour.sequence
        [.accept (some 2), .fail (.plain .interrupted)] (.accept none), fun _ => .accept none, ""⟩))
        events d ∧
      events = [.read (.data [1, 2, 3]), .offer ⟨[1, 2, 3], .took 2⟩,
        .offer ⟨[3], .failed (.plain .interrupted)⟩, .offer ⟨[3], .took 1⟩, .read .notReady,
        .read (.data [4]), .offer ⟨[4], .took 1⟩, .read .closed, .flush .done] ∧
      d.result? = some (.drained [1, 2, 3, 4] none) ∧ d.delivered = [1, 2, 3, 4] := by
  have begun : Chronicle (.start (.ofBehaviour ⟨Behaviour.sequence
      [.accept (some 2), .fail (.plain .interrupted)] (.accept none), fun _ => .accept none, ""⟩))
      [] _ := .start
  have run := ((((((((begun.step (.data [1, 2, 3])).step .stalled).step .stalled).step
    .stalled).step .notReady).step (.data [4])).step .stalled).step .closed).step .stalled
  obtain ⟨deliveries, -, -, -, -, -, -, -, -, -, whole⟩ := Chronicle.delivered_in_order run
  exact ⟨_, _, run, rfl, rfl, (whole [1, 2, 3, 4] rfl (by decide)).1⟩

end Drain

end Curfew.Capture
