import Mathlib.Tactic.Lemma
import Curfew.Capture.Drain

/-!
# Custody of the bytes that a drain reads

A drain takes bytes out of a pipe and owes every one of them to the copy in its sink.  A chunk
changes hands twice: a read puts it into the drain's hand, and the copy receives it when its
forward begins.

* `Drain.Run` — the runs of a drain: its steps, one after the other, and at most one request to
  stop, obeyed in a read, a forward or the flush.  A run is labelled with the chunks it has read.
* **`step_held`** — a step adds to what the drain holds exactly the chunk that it read.
* **`step_stock`** — what the drain holds, followed by what its pipe still has to say, is the
  same after every step.  Both are equations about one step, with no invariant in them, so a
  run inherits them by a plain induction (`Run.held`, `Run.stock`).
* **`captured_eq_reads`** — what a drain captures is what it read, and all there was to read
  unless it was cut off.

Nothing in this file looks at what the destination answers: the copy is made before a chunk is
offered, and no answer takes it back.
-/

namespace Curfew.Capture

/-! ## What a pipe still has to say -/

namespace Pipe

/-- The bytes that reading these items yields, up to the end of the file, the first read that
    fails, or the point from which nothing comes any more.  An empty piece of data reads as the
    end. -/
def bytesOf : List PipeItem → Bytes
  | [] => []
  | .data bytes :: later => if bytes.isEmpty then [] else bytes ++ bytesOf later
  | .notReady :: later => bytesOf later
  | .fail _ :: _ => []
  | .stall :: _ => []
  | .close :: _ => []

/-- The bytes that a pipe still has to say. -/
def bytes (p : Pipe) : Bytes := bytesOf p.items

end Pipe

/-- The chunk in the reply to a read, if there is one. -/
def ReadReply.chunks : ReadReply → List Bytes
  | .data chunk => [chunk]
  | _ => []

def ReadReply.ends : ReadReply → Bool
  | .data chunk => chunk.isEmpty
  | .closed => true
  | .failed _ => true
  | .notReady => false
  | .stalled => false

/-- A read moves bytes from the pipe into its reply, and ends only a pipe that has no more to
    say. -/
lemma Pipe.read_bytes (p : Pipe) :
    if p.read.1.ends then p.bytes = [] else p.read.1.chunks.flatten ++ p.read.2.bytes = p.bytes := by
  obtain ⟨items⟩ := p
  cases items with
  | nil => rfl
  | cons item later =>
      cases item with
      | data bytes =>
          by_cases hb : bytes.isEmpty
          · simp [Pipe.read, Pipe.bytes, Pipe.bytesOf, hb, ReadReply.ends]
          · have hchunk : (bytes.take chunkSize).isEmpty = false := by
              simp only [List.isEmpty_eq_false_iff, ne_eq, List.take_eq_nil_iff, not_or]
              exact ⟨by decide, by simpa using hb⟩
            simp only [Pipe.read, hb, ReadReply.ends, hchunk, ReadReply.chunks, Pipe.bytes,
              Pipe.bytesOf, Bool.false_eq_true, if_false, List.flatten_singleton]
            by_cases hl : (bytes.drop chunkSize).isEmpty
            · rw [if_pos hl]
              have hall : bytes.take chunkSize = bytes := by
                rw [List.isEmpty_iff, List.drop_eq_nil_iff] at hl
                exact List.take_of_length_le hl
              rw [hall]
            · rw [if_neg hl]
              simp only [Pipe.bytesOf, hl, Bool.false_eq_true, if_false]
              rw [← List.append_assoc, List.take_append_drop]
      | fail cause => rfl
      | notReady => rfl
      | stall => rfl
      | close => rfl

/-- A read yields at least one byte and at most a chunk, where it yields any. -/
lemma Pipe.read_chunk {p : Pipe} {chunk : Bytes} (h : p.read.1 = .data chunk) :
    0 < chunk.length ∧ chunk.length ≤ chunkSize := by
  obtain ⟨items⟩ := p
  cases items with
  | nil => simp [Pipe.read] at h
  | cons item later =>
      cases item with
      | data bytes =>
          by_cases hb : bytes.isEmpty
          · simp [Pipe.read, hb] at h
          · simp only [Pipe.read, hb, Bool.false_eq_true, if_false, ReadReply.data.injEq] at h
            subst h
            have hpos : 0 < bytes.length := List.length_pos_iff.mpr (by simpa using hb)
            rw [List.length_take]
            exact ⟨by simp only [chunkSize]; omega, by omega⟩
      | fail cause => simp [Pipe.read] at h
      | notReady => simp [Pipe.read] at h
      | stall => simp [Pipe.read] at h
      | close => simp [Pipe.read] at h

/-! ## What a drain holds -/

/-- The bytes that were read in a phase and that the copy does not have yet. -/
def Phase.inHand : Phase → Bytes
  | .holding chunk => chunk
  | _ => []

/-- Whether the pipe of a drain in a phase has come to its end. -/
def Phase.pastEnd : Phase → Bool
  | .flushing => true
  | .finished => true
  | _ => false

/-- Whether a drain in a phase is in a read, in a forward that has begun, or in the flush.  These
    are the points at which it can be suspended. -/
def Phase.suspended : Phase → Bool
  | .reading => true
  | .waiting _ => true
  | .flushing => true
  | _ => false

/-- Whether a drain that makes this pace has to wait. -/
def Pace.waits : Pace → Bool
  | .notReady => true
  | .stuck => true
  | _ => false

namespace Drain

/-- Every byte that a drain has: the copy, and the chunk in its hand. -/
def held (d : Drain) : Bytes := d.sink.snapshot ++ d.phase.inHand

/-- What a drain will still find in its pipe. -/
def unread (d : Drain) (p : Pipe) : Bytes := if d.phase.pastEnd then [] else p.bytes

/-- The chunk that a drain's next step reads, if the step is a read that yields one. -/
def newChunks (d : Drain) (reply : ReadReply) : List Bytes :=
  if d.phase = .reading then reply.chunks else []

lemma held_of_inHand {d : Drain} (h : d.phase.inHand = []) : d.held = d.sink.snapshot := by
  rw [held, h, List.append_nil]

/-! ### Parts of a step -/

lemma push_snapshot (d : Drain) (rest : Bytes) :
    (d.push rest).2.sink.snapshot = d.sink.snapshot := by
  simp only [Drain.push]
  cases (d.sink.destination.push rest).1 <;> rfl

lemma push_inHand (d : Drain) (rest : Bytes) : (d.push rest).2.phase.inHand = [] := by
  simp only [Drain.push]
  cases (d.sink.destination.push rest).1 <;> rfl

lemma push_held (d : Drain) (rest : Bytes) : (d.push rest).2.held = d.sink.snapshot := by
  rw [held_of_inHand (push_inHand d rest), push_snapshot]

lemma push_pastEnd (d : Drain) (rest : Bytes) : (d.push rest).2.phase.pastEnd = false := by
  simp only [Drain.push]
  cases (d.sink.destination.push rest).1 <;> rfl

/-- A flush leaves the copy alone, and the drain past the end of its pipe unless the flush
    crashes. -/
lemma flush_held {d : Drain} (h : d.phase = .flushing) :
    d.flush.2.held = d.sink.snapshot ∧
      (d.flush.2.phase = .crashed ∨ d.flush.2.phase.pastEnd = true) := by
  simp only [Drain.flush]
  cases (d.sink.destination.flushOnce).1 <;>
    simp [held, record, Sink.snapshot, Phase.inHand, Phase.pastEnd, h]

/-- A read puts the bytes of its reply into the drain's hand. -/
lemma receive_held {d : Drain} (h : d.phase = .reading) (reply : ReadReply) :
    (d.receive reply).2.held = d.sink.snapshot ++ reply.chunks.flatten ∧
      (d.receive reply).2.phase.pastEnd = reply.ends := by
  cases reply with
  | data chunk =>
      by_cases hc : chunk.isEmpty
      · rw [List.isEmpty_iff] at hc
        subst hc
        simp [Drain.receive, held, Phase.inHand, Phase.pastEnd, ReadReply.chunks, ReadReply.ends]
      · simp [Drain.receive, held, hc, Phase.inHand, Phase.pastEnd, ReadReply.chunks,
          ReadReply.ends]
  | _ =>
      simp [Drain.receive, held, record, Sink.snapshot, h, Phase.inHand, Phase.pastEnd,
        ReadReply.chunks, ReadReply.ends]

/-- Whatever follows a read leaves what the drain holds as it is: the chunk in its hand goes into
    the copy. -/
lemma advance_held (d : Drain) : d.advance.2.held = d.held := by
  cases h : d.phase with
  | holding chunk =>
      simp only [Drain.advance, h, push_held]
      simp only [Sink.snapshot, Sink.keep, Bytes.joined_cons, held, h, Phase.inHand]
  | waiting rest =>
      simp only [Drain.advance, h, push_held]
      rw [held_of_inHand (by rw [h]; rfl)]
  | pushing rest =>
      simp only [Drain.advance, h, push_held]
      rw [held_of_inHand (by rw [h]; rfl)]
  | flushing =>
      simp only [Drain.advance, h, (flush_held h).1]
      rw [held_of_inHand (by rw [h]; rfl)]
  | _ => simp only [Drain.advance, h]

/-- What follows a read finds no end of the pipe. -/
lemma advance_pastEnd {d : Drain} (hr : d.phase ≠ .reading) (hc : d.advance.2.phase ≠ .crashed) :
    d.advance.2.phase.pastEnd = d.phase.pastEnd := by
  cases h : d.phase with
  | reading => exact absurd h hr
  | holding chunk => simp only [Drain.advance, h, push_pastEnd]; rfl
  | waiting rest => simp only [Drain.advance, h, push_pastEnd]; rfl
  | pushing rest => simp only [Drain.advance, h, push_pastEnd]; rfl
  | flushing =>
      simp only [Drain.advance, h] at hc ⊢
      exact (flush_held h).2.resolve_left hc
  | _ => simp only [Drain.advance, h]

lemma receive_ne_cutOff {d : Drain} (h : d.phase ≠ .cutOff) (reply : ReadReply) :
    (d.receive reply).2.phase ≠ .cutOff := by
  cases reply with
  | data chunk =>
      simp only [Drain.receive]
      split <;> exact Phase.noConfusion
  | _ => simp [Drain.receive, h]

lemma push_ne_cutOff (d : Drain) (rest : Bytes) : (d.push rest).2.phase ≠ .cutOff := by
  simp only [Drain.push]
  cases (d.sink.destination.push rest).1 <;> exact Phase.noConfusion

lemma advance_ne_cutOff {d : Drain} (h : d.phase ≠ .cutOff) : d.advance.2.phase ≠ .cutOff := by
  cases hp : d.phase with
  | holding chunk => simp only [Drain.advance, hp, push_ne_cutOff, ne_eq, not_false_eq_true]
  | waiting rest => simp only [Drain.advance, hp, push_ne_cutOff, ne_eq, not_false_eq_true]
  | pushing rest => simp only [Drain.advance, hp, push_ne_cutOff, ne_eq, not_false_eq_true]
  | flushing =>
      simp only [Drain.advance, hp, Drain.flush]
      cases d.sink.destination.flushOnce.1 <;> simp
  | cutOff => exact absurd hp h
  | _ => simp [Drain.advance, hp]

/-- A drain that has ended does nothing more. -/
lemma advance_of_ended {d : Drain} (h : d.result?.isSome) : d.advance = (.ended, d) := by
  cases hp : d.phase <;> simp_all [Drain.result?, Drain.advance]

/-! ## One step -/

variable {σ : Type} {read : σ → ReadReply × σ}

lemma step_reading {d : Drain} (h : d.phase = .reading) (s : σ) :
    d.step read s = ((d.receive (read s).1).1, (d.receive (read s).1).2, (read s).2) := by
  simp only [Drain.step, h]

lemma step_of_ne_reading {d : Drain} (h : d.phase ≠ .reading) (s : σ) :
    d.step read s = (d.advance.1, d.advance.2, s) := by
  cases hp : d.phase <;> simp_all [Drain.step]

/-- **A step adds to what a drain holds exactly the chunk that it read.** -/
theorem step_held (d : Drain) (s : σ) :
    (d.step read s).2.1.held = d.held ++ (d.newChunks (read s).1).flatten := by
  by_cases hr : d.phase = .reading
  · rw [step_reading hr, newChunks, if_pos hr, (receive_held hr _).1,
      held_of_inHand (by rw [hr]; rfl)]
  · rw [step_of_ne_reading hr, newChunks, if_neg hr, List.flatten_nil, List.append_nil]
    exact advance_held d

/-- **What a drain holds, followed by what its pipe still has to say, is the same after a step**
    that does not crash. -/
theorem step_stock (d : Drain) (p : Pipe) (hc : (d.step Pipe.read p).2.1.phase ≠ .crashed) :
    (d.step Pipe.read p).2.1.held ++ (d.step Pipe.read p).2.1.unread (d.step Pipe.read p).2.2
      = d.held ++ d.unread p := by
  rw [step_held, List.append_assoc]
  refine congrArg (d.held ++ ·) ?_
  by_cases hr : d.phase = .reading
  · have hread := p.read_bytes
    have hpast : d.phase.pastEnd = false := by rw [hr]; rfl
    rw [step_reading hr, newChunks, if_pos hr]
    simp only [unread, (receive_held hr _).2, hpast, Bool.false_eq_true, if_false]
    by_cases he : p.read.1.ends
    · rw [if_pos he] at hread ⊢
      rw [hread, List.append_nil]
      -- a reply that ends the reading holds no bytes
      cases h : p.read.1 <;> rw [h] at he <;> simp_all [ReadReply.ends, ReadReply.chunks]
    · rwa [if_neg he] at hread ⊢
  · rw [step_of_ne_reading hr] at hc ⊢
    rw [newChunks, if_neg hr, List.flatten_nil, List.nil_append]
    simp only [unread, advance_pastEnd hr hc]

/-! ## Requests to stop -/

@[simp] lemma heed_sink (d : Drain) : d.heed.sink = d.sink := by
  cases h : d.phase <;> simp [Drain.heed, h]

@[simp] lemma heed_failure (d : Drain) : d.heed.failure = d.failure := by
  cases h : d.phase <;> simp [Drain.heed, h]

@[simp] lemma heed_pastEnd (d : Drain) : d.heed.phase.pastEnd = d.phase.pastEnd := by
  cases h : d.phase <;> simp [Drain.heed, h, Phase.pastEnd]

/-- A drain that obeys lets go of the chunk in its hand. -/
lemma heed_held (d : Drain) : d.heed.held = d.sink.snapshot := by
  rw [held_of_inHand (by cases h : d.phase <;> simp [Drain.heed, h, Phase.inHand]), heed_sink]

/-- A suspended drain has nothing in its hand.  This is why a request to stop that it obeys then
    costs no byte. -/
lemma suspended_inHand {d : Drain} (h : d.phase.suspended = true) : d.phase.inHand = [] := by
  cases hp : d.phase with
  | holding chunk =>
      rw [hp] at h
      cases h
  | _ => rfl

/-- A drain waits only where it can be suspended. -/
lemma waits_suspended {d : Drain} {s : σ} (h : (d.step read s).1.waits = true) :
    (d.step read s).2.1.phase.suspended = true := by
  have push_waits {d : Drain} {rest : Bytes} (h : (d.push rest).1.waits = true) :
      (d.push rest).2.phase.suspended = true := by
    simp only [Drain.push] at h ⊢
    cases hp : (d.sink.destination.push rest).1 <;> rw [hp] at h <;> first | rfl | cases h
  by_cases hr : d.phase = .reading
  · rw [step_reading hr] at h ⊢
    cases hs : (read s).1 <;> simp_all [Drain.receive, Pace.waits, Phase.suspended]
  · rw [step_of_ne_reading hr] at h ⊢
    cases hp : d.phase with
    | reading => exact absurd hp hr
    | holding chunk =>
        simp only [Drain.advance, hp] at h ⊢
        exact push_waits h
    | waiting rest =>
        simp only [Drain.advance, hp] at h ⊢
        exact push_waits h
    | pushing rest =>
        simp only [Drain.advance, hp] at h ⊢
        exact push_waits h
    | flushing =>
        simp only [Drain.advance, hp, Drain.flush] at h ⊢
        cases hf : d.sink.destination.flushOnce.1 <;> rw [hf] at h <;> first | rfl | cases h
    | finished => simp [Drain.advance, hp, Pace.waits] at h
    | cutOff => simp [Drain.advance, hp, Pace.waits] at h
    | crashed => simp [Drain.advance, hp, Pace.waits] at h

/-! ## Whole runs -/

/-- The runs of a drain that reads from a source: from a drain and a source to what they have
    become.  A run tells whether the drain was asked to stop, and which chunks it has read.  The
    request is obeyed where the drain is suspended, be it that it has to wait there or not. -/
inductive Run (read : σ → ReadReply × σ) : Bool → Drain → σ → List Bytes → Drain → σ → Prop
  | still (d : Drain) (s : σ) : Run read false d s [] d s
  | work {stopped : Bool} {d d' : Drain} {s s' : σ} {chunks : List Bytes}
      (rest : Run read stopped (d.step read s).2.1 (d.step read s).2.2 chunks d' s') :
      Run read stopped d s (d.newChunks (read s).1 ++ chunks) d' s'
  | stop {d : Drain} (s : σ) (suspended : d.phase.suspended = true) :
      Run read true d s [] d.heed s

/-- A drain that has ended makes no further step. -/
lemma step_of_ended {d : Drain} (h : d.result?.isSome) (s : σ) : d.step read s = (.ended, d, s) := by
  have hr : d.phase ≠ .reading := by
    intro hr
    rw [Drain.result?, hr] at h
    cases h
  rw [step_of_ne_reading hr, advance_of_ended h]

/-- **A run adds to what a drain holds exactly the chunks that it read.** -/
theorem Run.held {stopped : Bool} {d d' : Drain} {s s' : σ} {chunks : List Bytes}
    (run : Run read stopped d s chunks d' s') : d'.held = d.held ++ chunks.flatten := by
  induction run with
  | still d s => rw [List.flatten_nil, List.append_nil]
  | work rest ih => rw [ih, step_held, List.flatten_append, List.append_assoc]
  | stop s suspended =>
      rw [heed_held, held_of_inHand (suspended_inHand suspended), List.flatten_nil, List.append_nil]

lemma Run.of_ended {stopped : Bool} {d d' : Drain} {s s' : σ} {chunks : List Bytes}
    (run : Run read stopped d s chunks d' s') (h : d.result?.isSome) : d' = d := by
  induction run with
  | still d s => rfl
  | work rest ih =>
      rw [step_of_ended h] at ih
      exact ih h
  | @stop d s suspended => cases hp : d.phase <;> simp_all [Drain.result?, Phase.suspended]

/-- **What a drain holds, followed by what its pipe still has to say, is the same after a run**
    that does not crash. -/
theorem Run.stock {stopped : Bool} {d d' : Drain} {p p' : Pipe} {chunks : List Bytes}
    (run : Run Pipe.read stopped d p chunks d' p') (hc : d'.phase ≠ .crashed) :
    d'.held ++ d'.unread p' = d.held ++ d.unread p := by
  induction run with
  | still d p => rfl
  | @work _ d d' p p' _ rest ih =>
      rw [ih hc]
      refine step_stock d p fun h => hc ?_
      rw [rest.of_ended (by simp [Drain.result?, h]), h]
  | stop p suspended =>
      rw [heed_held, held_of_inHand (suspended_inHand suspended)]
      simp only [unread, heed_pastEnd]

/-- Only a request to stop cuts a drain off. -/
lemma step_ne_cutOff {d : Drain} (h : d.phase ≠ .cutOff) (s : σ) :
    (d.step read s).2.1.phase ≠ .cutOff := by
  by_cases hr : d.phase = .reading
  · rw [step_reading hr]
    exact receive_ne_cutOff h _
  · rw [step_of_ne_reading hr]
    exact advance_ne_cutOff h

lemma Run.cutOff {stopped : Bool} {d d' : Drain} {s s' : σ} {chunks : List Bytes}
    (run : Run read stopped d s chunks d' s') (h : d.phase ≠ .cutOff) (hc : d'.phase = .cutOff) :
    stopped = true := by
  induction run with
  | still d s => exact absurd hc h
  | work rest ih => exact ih (step_ne_cutOff h _) hc
  | stop s suspended => rfl

/-- The chunks of a run over a pipe are of the sizes that reads yield. -/
lemma Run.chunk_length {stopped : Bool} {d d' : Drain} {p p' : Pipe} {chunks : List Bytes}
    (run : Run Pipe.read stopped d p chunks d' p') :
    ∀ chunk ∈ chunks, 0 < chunk.length ∧ chunk.length ≤ chunkSize := by
  have once (d : Drain) (p : Pipe) :
      ∀ chunk ∈ d.newChunks p.read.1, 0 < chunk.length ∧ chunk.length ≤ chunkSize := by
    intro chunk h
    rw [newChunks] at h
    split at h
    · cases hr : p.read.1 <;> rw [hr] at h <;> simp only [ReadReply.chunks, List.not_mem_nil,
        List.mem_singleton] at h
      subst h
      exact Pipe.read_chunk hr
    · exact absurd h List.not_mem_nil
  induction run with
  | still d p => intro chunk h; exact absurd h List.not_mem_nil
  | work rest ih =>
      intro chunk h
      rcases List.mem_append.mp h with h | h
      · exact once _ _ chunk h
      · exact ih chunk h
  | stop p suspended => intro chunk h; exact absurd h List.not_mem_nil

/-- A run changes its source by reading only. -/
lemma Run.source {R : σ → σ → Prop} (refl : ∀ s, R s s) (trans : ∀ {s t u}, R s t → R t u → R s u)
    (reads : ∀ s, R s (read s).2) {stopped : Bool} {d d' : Drain} {s s' : σ}
    {chunks : List Bytes} (run : Run read stopped d s chunks d' s') : R s s' := by
  induction run with
  | still d s => exact refl s
  | @work _ d d' s s' chunks rest ih =>
      refine trans ?_ ih
      by_cases hr : d.phase = .reading
      · rw [step_reading hr]
        exact reads s
      · rw [step_of_ne_reading hr]
        exact refl s
  | stop s suspended => exact refl s

/-- Letting a drain do what it can is one of its runs. -/
theorem settle_run (read : σ → ReadReply × σ) (stop : Bool) (fuel : Nat) (d : Drain) (s : σ) :
    ∃ stopped chunks, (stopped = true → stop = true) ∧
      Run read stopped d s chunks (d.settle read stop fuel s).1 (d.settle read stop fuel s).2 := by
  induction fuel generalizing d s with
  | zero => exact ⟨false, [], Bool.noConfusion, .still d s⟩
  | succ fuel ih =>
      -- one more step before the rest of the run, or before the drain lets it be
      have more := ih (d.step read s).2.1 (d.step read s).2.2
      have once : Run read false d s (d.newChunks (read s).1 ++ []) (d.step read s).2.1
          (d.step read s).2.2 := .work (.still _ _)
      have obeyed (h : (d.step read s).1.waits = true) : Run read true d s
          (d.newChunks (read s).1 ++ []) (d.step read s).2.1.heed (d.step read s).2.2 :=
        .work (.stop _ (waits_suspended h))
      have worked {stopped : Bool} {chunks : List Bytes} {d' : Drain} {s' : σ} :
          Run read stopped (d.step read s).2.1 (d.step read s).2.2 chunks d' s' →
            Run read stopped d s (d.newChunks (read s).1 ++ chunks) d' s' := .work
      rw [Drain.settle]
      rcases hstep : d.step read s with ⟨pace, d₁, s₁⟩
      simp only [hstep] at more once obeyed worked
      obtain ⟨stopped, chunks, hs, run⟩ := more
      cases pace with
      | moved => exact ⟨stopped, _, hs, worked run⟩
      | notReady =>
          cases stop with
          | true => exact ⟨true, _, fun _ => rfl, obeyed rfl⟩
          | false => exact ⟨stopped, _, hs, worked run⟩
      | stuck =>
          cases stop with
          | true => exact ⟨true, _, fun _ => rfl, obeyed rfl⟩
          | false => exact ⟨false, _, Bool.noConfusion, once⟩
      | ended => exact ⟨false, _, Bool.noConfusion, once⟩

/-! ## What a drain captures -/

/-- A drain that hands over its capture has copied all that it holds, and has ended in one of two
    ways. -/
lemma result?_drained {d : Drain} {captured : Bytes} {failure : Option IoError}
    (h : d.result? = some (.drained captured failure)) :
    captured = d.held ∧ failure = d.failure ∧ (d.phase = .finished ∨ d.phase = .cutOff) := by
  cases hp : d.phase with
  | finished => simp_all [Drain.result?, held, Phase.inHand]
  | cutOff => simp_all [Drain.result?, held, Phase.inHand]
  | _ => simp [Drain.result?, hp] at h

/-- What a drain has captured is its copy: nothing is left in its hand. -/
lemma result?_copied {d : Drain} {captured : Bytes} {failure : Option IoError}
    (h : d.result? = some (.drained captured failure)) : captured = d.sink.snapshot := by
  obtain ⟨rfl, -, hend⟩ := result?_drained h
  refine held_of_inHand ?_
  rcases hend with hp | hp <;> rw [hp] <;> rfl

/-- **What a drain captures is what it has read**: the chunks of its reads in order, each once, and
    each of at most `chunkSize` bytes, whatever its destination answered and wherever it was
    suspended when it obeyed a request to stop.

    A drain whose copying was not cut off has captured all that its pipe had to say, up to the end
    of the file or the first read that failed.  One that was cut off has captured what came
    first, and left the rest in the pipe.

    A request is obeyed here where the drain waits: in a read, in a forward that has begun, or in
    the flush.  A drain that has just read a chunk does not wait yet; what a request costs that it
    obeys even there is in `reads_lost_to_request`. -/
theorem captured_eq_reads {destination : Destination} {pipe pipe' : Pipe} {stopped : Bool}
    {chunks : List Bytes} {d : Drain} {captured : Bytes} {failure : Option IoError}
    (run : Run Pipe.read stopped (.start destination) pipe chunks d pipe')
    (returns : d.result? = some (.drained captured failure)) :
    captured = chunks.flatten ∧
      (∀ chunk ∈ chunks, 0 < chunk.length ∧ chunk.length ≤ chunkSize) ∧
      ((d.phase = .finished ∧ captured = pipe.bytes) ∨
        (stopped = true ∧ d.phase = .cutOff ∧ captured ++ pipe'.bytes = pipe.bytes)) := by
  obtain ⟨hcap, -, hend⟩ := result?_drained returns
  have hheld : d.held = chunks.flatten := run.held
  have hstock : d.held ++ d.unread pipe' = pipe.bytes := by
    refine run.stock ?_
    rcases hend with h | h <;> rw [h] <;> exact Phase.noConfusion
  rw [hcap]
  refine ⟨hheld, run.chunk_length, ?_⟩
  rcases hend with h | h
  · left
    simpa [unread, h, Phase.pastEnd] using hstock
  · right
    have hs : stopped = true := run.cutOff Phase.noConfusion h
    simpa [unread, h, hs, Phase.pastEnd] using hstock

/-- A destination that takes two bytes of the first chunk and is not ready for the rest when the
    request to stop comes: all of the chunk is captured, and the second piece stays in the pipe. -/
theorem captured_of_partial_forward :
    ∃ d pipe',
      Run Pipe.read true
        (.start (.ofBehaviour ⟨Behaviour.sequence [.accept (some 2)] .notReady, fun _ => .stall, ""⟩))
        ⟨[.data [1, 2, 3], .data [4], .close]⟩ [[1, 2, 3]] d pipe' ∧
      d.result? = some (.drained [1, 2, 3] none) ∧
      [1, 2, 3] ++ pipe'.bytes = Pipe.bytes ⟨[.data [1, 2, 3], .data [4], .close]⟩ := by
  have run : Run Pipe.read true
      (.start (.ofBehaviour ⟨Behaviour.sequence [.accept (some 2)] .notReady, fun _ => .stall, ""⟩))
      ⟨[.data [1, 2, 3], .data [4], .close]⟩ [[1, 2, 3]] _ _ := .work (.work (.work (.stop _ rfl)))
  refine ⟨_, _, run, rfl, ?_⟩
  obtain ⟨-, -, ⟨h, -⟩ | ⟨-, -, h⟩⟩ := captured_eq_reads run rfl
  · cases h
  · exact h

end Drain

end Curfew.Capture
