import Curfew.Proofs.Capture.Deliveries

/-!
# The failure that a drain reports

A drain goes on after a failure, hence it may meet several: of forwards, of the read that ends its
loop, of the flush.  It reports the first one.

* **`Event.forwardFailure?`**, **`readFailure?`**, **`flushFailure?`** — the three kinds.
* `Staged.failures` — no forward comes after the read that ends the loop, and the flush comes last,
  so that the first failure of all is the first of the first kind that there is.
* `Ledger.failures` — a forward fails in its last offer.
* `Chronicle.retried` — an offer that was interrupted is made again at once.
* **`reports_first_failure`** — what a drain reports.
-/

namespace Curfew.Capture

/-! ## Searching lists -/

section Lists

variable {α β γ : Type} {f g : α → Option β}

lemma findSome?_congr {l : List α} (h : ∀ x ∈ l, f x = g x) : l.findSome? f = l.findSome? g := by
  induction l with
  | nil => rfl
  | cons x l ih =>
      rw [List.findSome?_cons, List.findSome?_cons, h x List.mem_cons_self,
        ih fun y hy => h y (List.mem_cons_of_mem _ hy)]

/-- What is not found in an element need not be looked for there. -/
lemma findSome?_filter {p : α → Bool} (l : List α) (h : ∀ x, p x = false → f x = none) :
    (l.filter p).findSome? f = l.findSome? f := by
  induction l with
  | nil => rfl
  | cons x l ih =>
      cases hp : p x with
      | true => rw [List.filter_cons_of_pos hp, List.findSome?_cons, List.findSome?_cons, ih]
      | false =>
          rw [List.filter_cons_of_neg (by simp [hp]), List.findSome?_cons, h x hp, ih]

lemma findSome?_flatMap {k : γ → List α} (l : List γ) :
    (l.flatMap k).findSome? f = l.findSome? fun x => (k x).findSome? f := by
  induction l with
  | nil => rfl
  | cons x l ih =>
      rw [List.flatMap_cons, List.findSome?_append, ih, List.findSome?_cons]
      cases (k x).findSome? f <;> rfl

end Lists

/-! ## Kinds of failures -/

namespace Event

/-- The failure in which an offer ends the forward of its chunk. -/
def forwardFailure? : Event → Option IoError
  | .offer o => o.failure?
  | _ => none

def readFailure? : Event → Option IoError
  | .read (.failed cause) => some cause
  | _ => none

def flushFailure? : Event → Option IoError
  | .flush (.failed cause) => some cause
  | _ => none

/-- In the loop only forwards fail. -/
lemma failures_inLoop {e : Event} (h : e.inLoop = true) :
    e.failure? = e.forwardFailure? ∧ e.readFailure? = none ∧ e.flushFailure? = none := by
  cases e with
  | read reply =>
      cases reply with
      | failed cause => cases h
      | _ => exact ⟨rfl, rfl, rfl⟩
  | offer o => exact ⟨rfl, rfl, rfl⟩
  | flush answer => cases h
  | stop => cases h

/-- After it only the flush fails. -/
lemma failures_afterLoop {e : Event} (h : e.afterLoop = true) :
    e.failure? = e.flushFailure? ∧ e.forwardFailure? = none ∧ e.readFailure? = none := by
  cases e with
  | read reply => cases h
  | offer o => cases h
  | flush answer => cases answer <;> exact ⟨rfl, rfl, rfl⟩
  | stop => exact ⟨rfl, rfl, rfl⟩

/-- A read fails in no other way. -/
lemma failures_read (reply : ReadReply) :
    (read reply).failure? = (read reply).readFailure? ∧ (read reply).forwardFailure? = none ∧
      (read reply).flushFailure? = none := by
  cases reply <;> exact ⟨rfl, rfl, rfl⟩

end Event

variable {phase : Phase} {events : List Event}

/-- After the loop there is one read at most, and it comes first. -/
lemma Closing.first (h : Closing phase events) :
    ∃ reads after, events = reads ++ after ∧ (reads = [] ∨ ∃ reply, reads = [.read reply]) ∧
      ∀ e ∈ after, e.afterLoop = true := by
  have flushes (answers : List Flushed) : ∀ e ∈ answers.map Event.flush, e.afterLoop = true := by
    intro e he
    obtain ⟨answer, -, rfl⟩ := List.mem_map.mp he
    rfl
  have flushes_then (answers : List Flushed) {last : Event} (hl : last.afterLoop = true) :
      ∀ e ∈ answers.map Event.flush ++ [last], e.afterLoop = true := by
    intro e he
    rcases List.mem_append.mp he with he | he
    · exact flushes answers e he
    · rwa [List.mem_singleton.mp he]
  cases h with
  | looping within => exact ⟨[], [], rfl, .inl rfl, fun e he => absurd he List.not_mem_nil⟩
  | cutOff => exact ⟨[], [.stop], rfl, .inl rfl, by simp [Event.afterLoop]⟩
  | @asked reply answers ends pending => exact ⟨[_], _, rfl, .inr ⟨reply, rfl⟩, flushes answers⟩
  | @answered _ reply answers answer ends pending decided ended =>
      exact ⟨[_], _, rfl, .inr ⟨reply, rfl⟩, flushes_then answers rfl⟩
  | @relieved reply answers ends pending begun =>
      exact ⟨[_], _, rfl, .inr ⟨reply, rfl⟩, flushes_then answers rfl⟩

/-- **The first failure of a run** is of a forward, if one failed; else of the read that ended the
    loop; else of the flush. -/
lemma Staged.failures (h : Staged phase events) :
    events.findSome? Event.failure? = (events.findSome? Event.forwardFailure?).or
      ((events.findSome? Event.readFailure?).or (events.findSome? Event.flushFailure?)) := by
  obtain ⟨loop, closing, rfl, within, hclosing⟩ := h
  obtain ⟨reads, after, rfl, hreads, hafter⟩ := hclosing.first
  have none_of {f : Event → Option IoError} {l : List Event} (h : ∀ e ∈ l, f e = none) :
      l.findSome? f = none := List.findSome?_eq_none_iff.mpr h
  have loop_all := findSome?_congr fun e he => (Event.failures_inLoop (within e he)).1
  have loop_read := none_of fun e he => (Event.failures_inLoop (within e he)).2.1
  have loop_flush := none_of fun e he => (Event.failures_inLoop (within e he)).2.2
  have after_all := findSome?_congr fun e he => (Event.failures_afterLoop (hafter e he)).1
  have after_forward := none_of fun e he => (Event.failures_afterLoop (hafter e he)).2.1
  have after_read := none_of fun e he => (Event.failures_afterLoop (hafter e he)).2.2
  have reads_one : reads.findSome? Event.failure? = reads.findSome? Event.readFailure? ∧
      reads.findSome? Event.forwardFailure? = none ∧
      reads.findSome? Event.flushFailure? = none := by
    rcases hreads with rfl | ⟨reply, rfl⟩
    · exact ⟨rfl, rfl, rfl⟩
    · obtain ⟨hall, hforward, hflush⟩ := Event.failures_read reply
      simp [hall, hforward, hflush]
  simp only [List.findSome?_append, loop_all, loop_read, loop_flush, after_all, after_forward,
    after_read, reads_one.1, reads_one.2.1, reads_one.2.2, Option.or_none, Option.none_or]

/-! ## Where forwards fail -/

lemma Forwarding.failures {chunk rest : Bytes} {offers : List Offer}
    (h : Forwarding chunk offers rest) :
    offers.findSome? Offer.failure? = offers.getLast?.bind Offer.failure? := by
  cases h with
  | begin => rfl
  | @offer offers rest earlier unended answer =>
      have none_before : offers.findSome? Offer.failure? = none :=
        List.findSome?_eq_none_iff.mpr fun o ho => Offer.unfailed_of_unended (unended o ho)
      rw [List.findSome?_append, none_before, List.getLast?_concat]
      simp

/-- A delivery of which the destination took nothing in some offer has failed in that. -/
lemma Delivery.failure_of_nothing (x : Delivery) {o : Offer} (ho : o ∈ x.offers)
    (hn : o.answer = .took 0) : x.failure? = some (.plain .writeZero) := by
  obtain ⟨chunk, offers, rest, forwarding⟩ := x
  obtain ⟨bytes, answer⟩ := o
  subst hn
  cases forwarding with
  | begin => cases ho
  | @offer offers rest earlier unended answer =>
      rcases List.mem_append.mp ho with ho | ho
      · cases unended _ ho
      · cases List.mem_singleton.mp ho
        rw [Delivery.failure?, List.getLast?_concat]
        exact Offer.failure_of_nothing bytes

/-- A delivery fails in its last offer. -/
lemma Delivery.failures (x : Delivery) :
    x.events.findSome? Event.forwardFailure? = x.failure? := by
  rw [Delivery.events, List.findSome?_cons, Delivery.failure?, ← x.forwarding.failures,
    List.findSome?_map]
  rfl

/-- **The first forward that fails** is that of the first delivery that does. -/
lemma Ledger.failures {deliveries : List Delivery} {d : Drain} (h : Ledger events deliveries d) :
    events.findSome? Event.forwardFailure? = deliveries.findSome? Delivery.failure? := by
  rw [← findSome?_filter (p := Event.copies) events fun e he => ?_, h.copies, findSome?_flatMap]
  · exact findSome?_congr fun x _ => x.failures
  · cases e with
    | offer o => cases he
    | _ => rfl

/-! ## What is retried, and what is not -/

/-- A read that fails is the only one. -/
lemma Staged.readFailure (h : Staged phase events) {cause : IoError}
    (hr : .read (.failed cause) ∈ events) :
    events.findSome? Event.readFailure? = some cause := by
  obtain ⟨loop, closing, rfl, within, hclosing⟩ := h
  obtain ⟨reads, after, rfl, hreads, hafter⟩ := hclosing.first
  have loop_read : loop.findSome? Event.readFailure? = none :=
    List.findSome?_eq_none_iff.mpr fun e he => (Event.failures_inLoop (within e he)).2.1
  have one : reads = [.read (.failed cause)] := by
    rcases List.mem_append.mp hr with hr | hr
    · cases within _ hr
    · rcases List.mem_append.mp hr with hr | hr
      · rcases hreads with rfl | ⟨reply, rfl⟩
        · cases hr
        · rw [List.mem_singleton.mp hr]
      · cases hafter _ hr
  rw [List.findSome?_append, List.findSome?_append, loop_read, one]
  rfl

/-- A flush that fails is answered but once. -/
lemma Staged.flushFailure (h : Staged phase events) {cause : IoError}
    (hf : .flush (.failed cause) ∈ events) :
    events.findSome? Event.flushFailure? = some cause := by
  obtain ⟨loop, closing, rfl, within, hclosing⟩ := h
  have loop_flush : loop.findSome? Event.flushFailure? = none :=
    List.findSome?_eq_none_iff.mpr fun e he => (Event.failures_inLoop (within e he)).2.2
  replace hf : .flush (.failed cause) ∈ closing := by
    rcases List.mem_append.mp hf with hf | hf
    · cases within _ hf
    · exact hf
  have not_pending {answers : List Flushed}
      (pending : ∀ answer ∈ answers, (Event.flush answer).waits = true) :
      .flush (.failed cause) ∉ answers.map Event.flush := by
    intro hm
    obtain ⟨answer, ha, heq⟩ := List.mem_map.mp hm
    cases heq
    cases pending _ ha
  rw [List.findSome?_append, loop_flush, Option.none_or]
  cases hclosing with
  | looping within => cases hf
  | cutOff => cases List.mem_singleton.mp hf
  | asked ends pending =>
      rcases List.mem_cons.mp hf with hf | hf
      · cases hf
      · exact absurd hf (not_pending pending)
  | relieved ends pending begun =>
      rcases List.mem_cons.mp hf with hf | hf
      · cases hf
      · rcases List.mem_append.mp hf with hf | hf
        · exact absurd hf (not_pending pending)
        · cases List.mem_singleton.mp hf
  | @answered _ reply answers answer ends pending decided ended =>
      have unanswered : (answers.map Event.flush).findSome? Event.flushFailure? = none := by
        rw [List.findSome?_eq_none_iff]
        intro e he
        obtain ⟨answer, ha, rfl⟩ := List.mem_map.mp he
        have waits := pending answer ha
        cases answer with
        | failed cause => cases waits
        | _ => rfl
      have last : answer = .failed cause := by
        rcases List.mem_cons.mp hf with hf | hf
        · cases hf
        · rcases List.mem_append.mp hf with hf | hf
          · exact absurd hf (not_pending pending)
          · cases List.mem_singleton.mp hf
            rfl
      subst last
      rw [List.findSome?_cons, (Event.failures_read reply).2.2, List.findSome?_append, unanswered]
      rfl

namespace Drain

variable {d₀ d : Drain}

/-- **An offer that was interrupted is made again at once**: what follows it, if anything does, is
    the offer of the same bytes. -/
theorem Chronicle.retried (h : Chronicle d₀ events d) {before after : List Event} {rest : Bytes}
    {cause : IoError} (he : events = before ++ .offer ⟨rest, .failed cause⟩ :: after)
    (hk : cause.kind = .interrupted) :
    (after = [] ∧ d.phase = .pushing rest ∧ rest ≠ []) ∨
      ∃ answer later, after = .offer ⟨rest, answer⟩ :: later := by
  induction h generalizing after with
  | start => cases before <;> cases he
  | @step events d earlier reply ih =>
      have hle := (d.reacts reply).deeds_le
      rcases hd : d.deeds reply with _ | ⟨e, more⟩
      · -- nothing was done, hence nothing was due
        rw [hd, List.append_nil] at he
        rcases ih he with ⟨rfl, hp, hr⟩ | made
        · simp only [deeds, hp, offers_of_ne_nil d hr] at hd
          cases hd
        · exact .inr made
      · obtain rfl : more = [] := by
          rw [hd] at hle
          simpa using hle
        rw [hd] at he
        rcases List.eq_nil_or_concat after with rfl | ⟨after, last, rfl⟩
        · obtain ⟨-, heq⟩ := List.append_inj' he rfl
          cases heq
          obtain ⟨d', hreact, hoffer, hr⟩ := (d.reacts reply).offer hd
          exact .inl ⟨rfl, hreact ▸ push_interrupted d' hr hoffer hk, hr⟩
        · rw [List.concat_eq_append, ← List.cons_append, ← List.append_assoc] at he
          obtain ⟨heq, hlast⟩ := List.append_inj' he rfl
          cases hlast
          rcases ih heq with ⟨rfl, hp, hr⟩ | ⟨answer, later, rfl⟩
          · simp only [deeds, hp, offers_of_ne_nil d hr] at hd
            cases hd
            exact .inr ⟨_, [], rfl⟩
          · exact .inr ⟨answer, later ++ [e], by simp⟩
  | @stop events d earlier heeds blocked ih =>
      rcases List.eq_nil_or_concat after with rfl | ⟨after, last, rfl⟩
      · obtain ⟨-, heq⟩ := List.append_inj' he rfl
        cases heq
      · rw [List.concat_eq_append, ← List.cons_append, ← List.append_assoc] at he
        obtain ⟨heq, -⟩ := List.append_inj' he rfl
        rcases ih heq with ⟨rfl, hp, -⟩ | ⟨answer, later, rfl⟩
        · -- a drain that is to offer again does not look for the request
          rw [hp] at heeds
          cases heeds
        · exact .inr ⟨answer, later ++ [last], by simp⟩

/-! ## What a drain reports -/

/-- **What a drain reports** is the failure of the first chunk whose forward failed; else that of
    the read that ended its loop; else that of its flush.  Whatever happens later does not replace
    it, and a request to stop neither adds nor removes one.  A destination that takes nothing has
    failed; an offer that was interrupted has not, it is made again; but a read or a flush that was
    interrupted has. -/
theorem Chronicle.reports_first_failure {b : Behaviour}
    (h : Chronicle (.start (.ofBehaviour b)) events d) :
    ∃ deliveries : List Delivery, Ledger events deliveries d ∧
      d.failure = (deliveries.findSome? Delivery.failure?).or
        ((events.findSome? Event.readFailure?).or (events.findSome? Event.flushFailure?)) ∧
      (∀ captured failure, d.result? = some (.drained captured failure) → failure = d.failure) ∧
      (∀ first, d.failure = some first → ∀ more d',
        Chronicle (.start (.ofBehaviour b)) (events ++ more) d' → d'.failure = some first) ∧
      d.heed.failure = d.failure ∧
      (∀ x ∈ deliveries, ∀ o ∈ x.offers, o.answer = .took 0 →
        x.failure? = some (.plain .writeZero)) ∧
      (∀ x ∈ deliveries, ∀ cause, x.failure? = some cause → cause.kind ≠ .interrupted) ∧
      (∀ before rest cause after, events = before ++ .offer ⟨rest, .failed cause⟩ :: after →
        cause.kind = .interrupted →
        (after = [] ∧ d.phase = .pushing rest) ∨
          ∃ answer later, after = .offer ⟨rest, answer⟩ :: later) ∧
      (∀ cause, .read (.failed cause) ∈ events →
        events.findSome? Event.readFailure? = some cause) ∧
      (∀ cause, .flush (.failed cause) ∈ events →
        events.findSome? Event.flushFailure? = some cause) := by
  obtain ⟨deliveries, ledger⟩ := h.ledger
  have staged := h.staged rfl
  have first_of {events : List Event} {d : Drain}
      (h : Chronicle (.start (.ofBehaviour b)) events d) :
      d.failure = events.findSome? Event.failure? := by
    rw [h.failure_eq]
    rfl
  refine ⟨deliveries, ledger, ?_, fun captured failure hd => (result?_drained hd).2.1,
    fun first hf more d' h' => ?_, heed_failure d, fun x _ o ho hn => ?_,
    fun x _ cause hc => ?_, fun before rest cause after he hk => ?_,
    fun cause => staged.readFailure, fun cause => staged.flushFailure⟩
  · rw [first_of h, staged.failures, ledger.failures]
  · rw [first_of h', List.findSome?_append, ← first_of h, hf, Option.some_or]
  · exact x.failure_of_nothing ho hn
  · obtain ⟨o, -, ho⟩ := Option.bind_eq_some_iff.mp hc
    exact Offer.failure_ne_interrupted ho
  · rcases h.retried he hk with ⟨hafter, hp, -⟩ | made
    · exact .inl ⟨hafter, hp⟩
    · exact .inr made

/-- A destination that is interrupted and then takes nothing: whatever else happens, the drain will
    report that. -/
theorem reports_write_zero :
    ∃ events d,
      Chronicle (.start (.ofBehaviour ⟨Behaviour.sequence
        [.fail (.plain .interrupted), .accept (some 0)] (.fail (.plain .brokenPipe)),
        fun _ => .stall, ""⟩)) events d ∧
      events = [.read (.data [1]), .offer ⟨[1], .failed (.plain .interrupted)⟩,
        .offer ⟨[1], .took 0⟩] ∧
      ∀ more d', Chronicle (.start (.ofBehaviour ⟨Behaviour.sequence
        [.fail (.plain .interrupted), .accept (some 0)] (.fail (.plain .brokenPipe)),
        fun _ => .stall, ""⟩)) (events ++ more) d' → d'.failure = some (.plain .writeZero) := by
  have begun : Chronicle (.start (.ofBehaviour ⟨Behaviour.sequence
      [.fail (.plain .interrupted), .accept (some 0)] (.fail (.plain .brokenPipe)),
      fun _ => .stall, ""⟩)) [] _ := .start
  have run := ((begun.step (.data [1])).step .stalled).step .stalled
  obtain ⟨-, -, -, -, stays, -⟩ := Chronicle.reports_first_failure run
  exact ⟨_, _, run, rfl, stays (.plain .writeZero) rfl⟩

end Drain

end Curfew.Capture
