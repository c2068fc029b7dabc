import Curfew.Proofs.Capture.Chronicle

/-!
# Races with a request to stop

A request to stop may be made at any moment.  Where a drain can be suspended there are two things
that it may find: what it waits for, and the request.  It looks at them in either order, so that a
request that is already there may win over something that could be done.

* **`Drain.Move`** — what a drain does until it is suspended or has done something, told to stop or
  not.  **`Drain.Race`** — its moves one after the other, the request being made somewhere between
  them.
* `settle_races` — what runs is one of the races, in which the request is looked at last.
* **`Drain.Balanced`** — what a drain holds, with what it has let go of, is what it has read.
* **`reads_lost_to_request`** — a race costs at most the chunk of its last read, and can cost that.
-/

namespace Curfew.Capture

/-! ## The bytes of events -/

namespace Event

/-- The bytes that were read. -/
def bytes : Event → Bytes
  | .read reply => reply.chunks.flatten
  | _ => []

end Event

/-- The bytes of all the reads among some events. -/
def readBytes (events : List Event) : Bytes := events.flatMap Event.bytes

/-- The bytes of the last event, if it is a read. -/
def lastRead (events : List Event) : Bytes := (events.getLast?.map Event.bytes).getD []

/-- The bytes of a read that a request to stop has followed at once. -/
def lostBytes (events : List Event) : Bytes :=
  if events.getLast? = some .stop then lastRead events.dropLast else []

lemma readBytes_append (events more : List Event) :
    readBytes (events ++ more) = readBytes events ++ readBytes more := List.flatMap_append

@[simp] lemma lastRead_concat (events : List Event) (e : Event) :
    lastRead (events ++ [e]) = e.bytes := by
  simp [lastRead]

@[simp] lemma lostBytes_stop (events : List Event) :
    lostBytes (events ++ [.stop]) = lastRead events := by
  simp [lostBytes]

/-- Only a request to stop can lose anything. -/
lemma lostBytes_of_unstopped {events : List Event} (h : Event.stop ∉ events) :
    lostBytes events = [] := if_neg fun hl => h (List.mem_of_getLast? hl)

namespace Drain

/-! ## Moves -/

variable {σ : Type} {read : σ → ReadReply × σ}

/-- What a drain does next, told to stop or not, with its events. -/
inductive Move (read : σ → ReadReply × σ) (told : Bool) (d : Drain) (s : σ) :
    List Event → Drain → σ → Prop
  /-- Does what is due, without having to wait. -/
  | works (unended : d.result? = none) (goes : (d.step read s).1.waits = false) :
      Move read told d s (d.deeds (read s).1) (d.step read s).2.1 (d.step read s).2.2
  /-- Has to wait, and there is no request. -/
  | waits (untold : told = false) (held : (d.step read s).1.waits = true) :
      Move read told d s (d.deeds (read s).1) (d.step read s).2.1 (d.step read s).2.2
  /-- Has to wait, and then finds the request. -/
  | obeys (request : told = true) (held : (d.step read s).1.waits = true) :
      Move read told d s (d.deeds (read s).1 ++ [.stop]) (d.step read s).2.1.heed
        (d.step read s).2.2
  /-- Finds the request before it looks at anything else. -/
  | heeds (request : told = true) (heeds : Phase.heeds d.phase = true) :
      Move read told d s [.stop] d.heed s

/-- The races that begin with a drain and a source: what has happened, whether the request was made,
    and what the two have become. -/
inductive Race (read : σ → ReadReply × σ) (d₀ : Drain) (s₀ : σ) :
    List Event → Bool → Drain → σ → Prop
  | start : Race read d₀ s₀ [] false d₀ s₀
  | tell {events : List Event} {d : Drain} {s : σ} (earlier : Race read d₀ s₀ events false d s) :
      Race read d₀ s₀ events true d s
  | move {events more : List Event} {told : Bool} {d d' : Drain} {s s' : σ}
      (earlier : Race read d₀ s₀ events told d s) (next : Move read told d s more d' s') :
      Race read d₀ s₀ (events ++ more) told d' s'

variable {d₀ d d' : Drain} {s₀ s s' : σ} {events more : List Event} {told : Bool}

lemma heeds_of_suspended {phase : Phase} (h : phase.suspended = true) :
    Phase.heeds phase = true := by
  cases phase <;> first | rfl | cases h

/-- A drain that looks for a request has not ended. -/
lemma unended_of_heeds (h : Phase.heeds d.phase = true) : d.result? = none := by
  cases hp : d.phase <;> simp_all [result?, Phase.heeds]

/-- A request that is looked at ends the drain. -/
lemma heed_ended (h : Phase.heeds d.phase = true) :
    d.heed.result? = some (.drained d.sink.snapshot d.failure) := by
  cases hp : d.phase <;> simp_all [heed, result?, Phase.heeds]

lemma ended_of_heeds (h : Phase.heeds d.phase = true) : d.heed.result?.isSome = true := by
  rw [heed_ended h]
  rfl

/-- A drain that has ended does not wait. -/
lemma unended_of_waits (h : (d.step read s).1.waits = true) : d.result? = none := by
  rw [← Option.not_isSome_iff_eq_none]
  intro ended
  rw [step_of_ended ended] at h
  cases h

/-- A drain that has ended makes no move. -/
lemma Move.unended (h : Move read told d s more d' s') : d.result? = none := by
  cases h with
  | works unended goes => exact unended
  | waits untold held => exact unended_of_waits held
  | obeys request held => exact unended_of_waits held
  | heeds request heeds => exact unended_of_heeds heeds

/-- **What runs is one of the races**: a drain that is let do what it can looks for the request when
    it has to wait. -/
theorem settle_races (h : Race read d₀ s₀ events told d s) (fuel : Nat) :
    ∃ more, Race read d₀ s₀ (events ++ more) told (d.settle read told fuel s).1
      (d.settle read told fuel s).2 := by
  induction fuel generalizing events d s with
  | zero => exact ⟨[], by rw [List.append_nil]; exact h⟩
  | succ fuel ih =>
      by_cases ended : d.result?.isSome = true
      · rw [settle, step_of_ended ended]
        exact ⟨[], by rw [List.append_nil]; exact h⟩
      have onward {deeds : List Event} {d' : Drain} {s' : σ}
          (next : Move read told d s deeds d' s') :
          ∃ more, Race read d₀ s₀ (events ++ more) told (d'.settle read told fuel s').1
            (d'.settle read told fuel s').2 := by
        obtain ⟨later, race⟩ := ih (h.move next)
        exact ⟨deeds ++ later, by rwa [← List.append_assoc]⟩
      have works (goes : (d.step read s).1.waits = false) : Move read told d s
          (d.deeds (read s).1) (d.step read s).2.1 (d.step read s).2.2 :=
        .works (Option.not_isSome_iff_eq_none.mp ended) goes
      have waits (untold : told = false) (held : (d.step read s).1.waits = true) :
          Move read told d s (d.deeds (read s).1) (d.step read s).2.1 (d.step read s).2.2 :=
        .waits untold held
      have obeys (request : told = true) (held : (d.step read s).1.waits = true) :
          Move read told d s (d.deeds (read s).1 ++ [.stop]) (d.step read s).2.1.heed
            (d.step read s).2.2 :=
        .obeys request held
      rw [settle]
      rcases hstep : d.step read s with ⟨pace, d₁, s₁⟩
      rw [hstep] at works waits obeys
      cases pace with
      | moved => exact onward (works rfl)
      | notReady =>
          cases told with
          | true => exact ⟨_, h.move (obeys rfl rfl)⟩
          | false => exact onward (waits rfl rfl)
      | stuck =>
          cases told with
          | true => exact ⟨_, h.move (obeys rfl rfl)⟩
          | false => exact ⟨_, h.move (waits rfl rfl)⟩
      | ended => exact ⟨_, h.move (works rfl)⟩

/-! ## What a race costs -/

/-- What a drain holds, and what it has let go of, is what it has read.  As long as it has not
    ended, what it was the last to do tells what it has in its hand. -/
structure Balanced (events : List Event) (d : Drain) : Prop where
  held : d.held ++ lostBytes events = readBytes events
  hand : d.result? = none → .stop ∉ events ∧ lastRead events = d.phase.inHand

lemma Reacts.unstopped {reply : ReadReply} {deeds : List Event} (h : d.Reacts reply deeds d') :
    .stop ∉ deeds := by
  have offers_unstopped (rest : Bytes) : .stop ∉ d.offers rest := by
    rw [offers]
    split <;> simp
  cases h with
  | begins holding => exact offers_unstopped _
  | resumes owing => exact offers_unstopped _
  | _ => simp

/-- The bytes that a drain reads in a step. -/
lemma readBytes_deeds (d : Drain) (reply : ReadReply) :
    readBytes (d.deeds reply) = (d.newChunks reply).flatten := by
  have offered (rest : Bytes) : readBytes (d.offers rest) = [] := by
    rw [offers]
    split <;> rfl
  cases hp : d.phase <;> simp only [deeds, newChunks, hp, reduceCtorEq, if_false, if_true, offered]
  all_goals simp [readBytes, Event.bytes]

lemma lastRead_offers {d : Drain} {rest : Bytes} (h : rest = [] → lastRead events = []) :
    lastRead (events ++ d.offers rest) = [] := by
  by_cases hr : rest = []
  · subst hr
    simpa [offers] using h rfl
  · rw [offers_of_ne_nil d hr, lastRead_concat]
    rfl

/-- A chunk is in the hand of a drain from its read on until its forward begins. -/
lemma Reacts.hand {reply : ReadReply} {deeds : List Event} (h : d.Reacts reply deeds d')
    (unended : d.result? = none) (hand : lastRead events = d.phase.inHand) :
    lastRead (events ++ deeds) = d'.phase.inHand := by
  cases h with
  | reads reading =>
      rw [lastRead_concat]
      cases reply with
      | data chunk =>
          by_cases hc : chunk = [] <;>
            simp [receive, Event.bytes, ReadReply.chunks, Phase.inHand, hc]
      | _ => simp [receive, record, Event.bytes, ReadReply.chunks, Phase.inHand, reading]
  | begins holding =>
      rw [push_inHand]
      refine lastRead_offers fun hr => ?_
      rw [hand, holding, hr]
      rfl
  | resumes owing =>
      rw [push_inHand]
      refine lastRead_offers fun _ => ?_
      rcases owing with owing | owing <;> rw [hand, owing] <;> rfl
  | flushes flushing =>
      have hflush : d.flush.2.phase.inHand = [] := by
        simp only [Drain.flush]
        cases d.sink.destination.flushOnce.1 <;> simp [Phase.inHand, flushing]
      rw [lastRead_concat, hflush]
      rfl
  | rests ended => rcases ended with ended | ended | ended <;> simp [result?, ended] at unended

namespace Balanced

lemma step (h : Balanced events d) (unended : d.result? = none) (s : σ) :
    Balanced (events ++ d.deeds (read s).1) (d.step read s).2.1 := by
  obtain ⟨unstopped, hand⟩ := h.hand unended
  have hreacts := d.reacts (read s).1
  have unstopped' : .stop ∉ events ++ d.deeds (read s).1 := by
    rw [List.mem_append]
    exact fun hm => hm.elim unstopped hreacts.unstopped
  refine ⟨?_, fun _ => ⟨unstopped', ?_⟩⟩
  · have held := h.held
    rw [lostBytes_of_unstopped unstopped, List.append_nil] at held
    rw [lostBytes_of_unstopped unstopped', List.append_nil, step_held, held, readBytes_append,
      readBytes_deeds]
  · rw [step_react]
    exact hreacts.hand unended hand

/-- The chunk in its hand is what a drain lets go of when it obeys. -/
lemma heed (h : Balanced events d) (heeds : Phase.heeds d.phase = true) :
    Balanced (events ++ [.stop]) d.heed := by
  obtain ⟨unstopped, hand⟩ := h.hand (unended_of_heeds heeds)
  refine ⟨?_, fun hd => ?_⟩
  · have held := h.held
    rw [lostBytes_of_unstopped unstopped, List.append_nil, Drain.held] at held
    rw [heed_held, lostBytes_stop, hand, held, readBytes_append]
    exact (List.append_nil _).symm
  · rw [heed_ended heeds] at hd
    cases hd

end Balanced

/-- **A race keeps the balance.** -/
theorem Race.balanced {destination : Destination}
    (h : Race read (.start destination) s₀ events told d s) : Balanced events d := by
  induction h with
  | start => exact ⟨rfl, fun _ => ⟨List.not_mem_nil, rfl⟩⟩
  | tell earlier ih => exact ih
  | move earlier next ih =>
      cases next with
      | works unended goes => exact ih.step unended _
      | waits untold held => exact ih.step (unended_of_waits held) _
      | obeys request held =>
          rw [← List.append_assoc]
          exact (ih.step (unended_of_waits held) _).heed (heeds_of_suspended (waits_suspended held))
      | heeds request heeds => exact ih.heed heeds

/-- What is lost was read right before the request was obeyed. -/
lemma events_of_lostBytes (h : lostBytes events ≠ []) :
    ∃ before, events = before ++ [.read (.data (lostBytes events)), .stop] := by
  rcases List.eq_nil_or_concat events with rfl | ⟨earlier, last, rfl⟩
  · exact absurd rfl h
  rw [List.concat_eq_append] at h ⊢
  by_cases hl : last = .stop
  · subst hl
    rw [lostBytes_stop] at h ⊢
    rcases List.eq_nil_or_concat earlier with rfl | ⟨before, e, rfl⟩
    · exact absurd rfl h
    rw [List.concat_eq_append, lastRead_concat] at h ⊢
    refine ⟨before, ?_⟩
    rcases e with reply | o | answer | _
    · cases reply <;> simp_all [Event.bytes, ReadReply.chunks]
    all_goals exact absurd rfl h
  · simp [lostBytes, hl] at h

/-- **What a request to stop can cost**, whatever the drain reads from, whatever its destination
    answers, whenever the request is made and in whatever order things are looked at.

    A drain that returns has captured all that it has read; unless it has obeyed right after a read,
    before the forward of the chunk had begun.  Then it has captured all but that chunk.  This does
    happen: wherever the first read yields a chunk, there is a race that returns nothing of it. -/
theorem reads_lost_to_request (read : σ → ReadReply × σ) (destination : Destination) (s : σ) :
    (∀ events told d s', Race read (.start destination) s events told d s' →
      ∀ captured failure, d.result? = some (.drained captured failure) →
        captured = readBytes events ∨
          ∃ before chunk, chunk ≠ [] ∧ events = before ++ [.read (.data chunk), .stop] ∧
            captured ++ chunk = readBytes events) ∧
    ∀ chunk, (read s).1 = .data chunk → chunk ≠ [] →
      ∃ d, Race read (.start destination) s [.read (.data chunk), .stop] true d (read s).2 ∧
        d.result? = some (.drained [] none) ∧
        readBytes [.read (.data chunk), .stop] = chunk := by
  refine ⟨fun events told d s' race captured failure returns => ?_, fun chunk found filled => ?_⟩
  · obtain ⟨rfl, -, -⟩ := result?_drained returns
    have held := race.balanced.held
    by_cases lost : lostBytes events = []
    · rw [lost, List.append_nil] at held
      exact .inl held
    · obtain ⟨before, hevents⟩ := events_of_lostBytes lost
      exact .inr ⟨before, _, lost, hevents, held⟩
  · have hstep : (Drain.start destination).step read s =
        (.moved, ⟨.holding chunk, .ofDestination destination, none⟩, (read s).2) := by
      rw [step_reading rfl, found]
      simp [receive, Drain.start, filled]
    have reads : Move read false (.start destination) s [.read (.data chunk)]
        ⟨.holding chunk, .ofDestination destination, none⟩ (read s).2 := by
      have works (goes : ((Drain.start destination).step read s).1.waits = false) :
          Move read false (.start destination) s ((Drain.start destination).deeds (read s).1)
            ((Drain.start destination).step read s).2.1
            ((Drain.start destination).step read s).2.2 := .works rfl goes
      rw [hstep, found] at works
      exact works rfl
    refine ⟨_, .move (.tell (.move .start reads)) (.heeds rfl rfl), rfl, ?_⟩
    simp [readBytes, Event.bytes, ReadReply.chunks]

/-- Three bytes are read, and lost to a request that comes before they are forwarded; the fourth
    stays in the pipe. -/
theorem lost_before_forward :
    ∃ d, Race Pipe.read (.start (.ofBehaviour .obliging)) ⟨[.data [1, 2, 3], .data [4], .close]⟩
        [.read (.data [1, 2, 3]), .stop] true d ⟨[.data [4], .close]⟩ ∧
      d.result? = some (.drained [] none) ∧
      readBytes [.read (.data [1, 2, 3]), .stop] = [1, 2, 3] := by
  obtain ⟨-, loses⟩ := reads_lost_to_request Pipe.read (.ofBehaviour .obliging)
    ⟨[.data [1, 2, 3], .data [4], .close]⟩
  exact loses [1, 2, 3] rfl (by decide)

end Drain

end Curfew.Capture
