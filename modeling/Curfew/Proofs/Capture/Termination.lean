import Mathlib.Order.Lattice.Nat
import Curfew.Proofs.Capture.Promptness
import Curfew.Proofs.Capture.Race

/-!
# Drains come to an end

A drain ends by itself if neither its pipe nor its destination stalls, and it ends in any case once
it is told to stop.

* **`Behaviour.Responsive`** — a destination that does not crash, and neither puts off nor
  interrupts for ever unless it stalls.
* **`Drain.Faces`** — the drain's destination is such a one, and has not got past a stall.
* **`Nearer`** — a lexicographic measure of what is left to do: the bytes that are still to be read
  or forwarded, and then the attempts until the destination responds.
* **`Steps.nearer`** — every step is nearer to the end, unless the drain has ended or is stuck.
* `comes_to_rest`, `told_ends` — what a drain comes to that is let do what it can; and the moves of
  one that was told to stop.
* **`drain_ends`** — both, for all races of a drain with a request to stop.
-/

namespace Curfew.Capture

/-! ## Responsive destinations -/

namespace Reply

/-- An answer upon which the attempt waits. -/
def putsOff : Reply → Bool
  | .notReady => true
  | _ => false

/-- An answer upon which nothing is done but to make the same attempt again. -/
def repeats (r : Reply) : Bool := r.putsOff || r.interrupts

end Reply

/-- Unless they stall before, the answers come to one again and again that is not idle. -/
def Responds (idle : Reply → Bool) (answers : Nat → Reply) : Prop :=
  ∀ n, (∀ k < n, answers k ≠ .stall) → ∃ m, idle (answers (n + m)) = false

/-- The number of attempts until there is an answer that is not idle. -/
noncomputable def idleFor (idle : Reply → Bool) (answers : Nat → Reply) (n : Nat) : Nat :=
  sInf {m | idle (answers (n + m)) = false}

/-- An idle answer is one less to come. -/
lemma idleFor_succ {idle : Reply → Bool} {answers : Nat → Reply} {n : Nat}
    (h : Responds idle answers) (unstalled : ∀ k < n, answers k ≠ .stall)
    (now : idle (answers n) = true) : idleFor idle answers (n + 1) < idleFor idle answers n := by
  have busy : idle (answers (n + idleFor idle answers n)) = false := Nat.sInf_mem (h n unstalled)
  cases hd : idleFor idle answers n with
  | zero =>
      rw [hd, Nat.add_zero, now] at busy
      cases busy
  | succ m =>
      refine Nat.lt_succ_of_le (Nat.sInf_le ?_)
      rw [Set.mem_ofPred_eq, Nat.add_right_comm]
      rwa [hd] at busy

/-- A destination that does not crash, and neither puts off nor interrupts for ever, unless it
    stalls before. -/
structure Behaviour.Responsive (b : Behaviour) : Prop where
  write_sound : ∀ n, b.write n ≠ .crash
  flush_sound : ∀ n, b.flush n ≠ .crash
  write : Responds Reply.repeats b.write
  flush : Responds Reply.putsOff b.flush

namespace Destination

/-- The destination behaves like this, and has not got past a stall. -/
structure Follows (b : Behaviour) (d : Destination) : Prop where
  behaviour : d.behaviour = b
  writes : ∀ k < d.writes, b.write k ≠ .stall
  flushes : ∀ k < d.flushes, b.flush k ≠ .stall

variable {b : Behaviour} {d : Destination}

lemma Follows.offer (h : d.Follows b) (bytes : Bytes) : (d.offer bytes).2.Follows b := by
  obtain ⟨rfl, writes, flushes⟩ := h
  have further (passes : d.behaviour.write d.writes ≠ .stall) :
      ∀ k < d.writes + 1, d.behaviour.write k ≠ .stall :=
    Nat.forall_lt_succ_right.mpr ⟨writes, passes⟩
  simp only [Destination.offer]
  cases hw : d.behaviour.write d.writes with
  | stall => exact ⟨rfl, writes, flushes⟩
  | _ => exact ⟨rfl, further (by rw [hw]; exact Reply.noConfusion), flushes⟩

/-- An attempt at forwarding is an offer, if there is anything to forward. -/
lemma Follows.push (h : d.Follows b) (rest : Bytes) : (d.push rest).2.Follows b := by
  by_cases hr : rest = []
  · rw [hr]
    exact h
  · rw [show d.push rest = _ from (Drain.start d).push_offering hr]
    exact h.offer rest

lemma Follows.flushOnce (h : d.Follows b) : d.flushOnce.2.Follows b := by
  obtain ⟨rfl, writes, flushes⟩ := h
  have further (passes : d.behaviour.flush d.flushes ≠ .stall) :
      ∀ k < d.flushes + 1, d.behaviour.flush k ≠ .stall :=
    Nat.forall_lt_succ_right.mpr ⟨flushes, passes⟩
  simp only [Destination.flushOnce]
  cases hf : d.behaviour.flush d.flushes with
  | stall => exact ⟨rfl, writes, flushes⟩
  | _ => exact ⟨rfl, writes, further (by rw [hf]; exact Reply.noConfusion)⟩

end Destination

/-! ## What is left to do -/

namespace Pipe

/-- The load of items: four for every byte, and one for every item. -/
def loadOf : List PipeItem → Nat
  | [] => 0
  | .data bytes :: later => 4 * bytes.length + 1 + loadOf later
  | .fail _ :: later => 1 + loadOf later
  | .notReady :: later => 1 + loadOf later
  | .stall :: later => 1 + loadOf later
  | .close :: later => 1 + loadOf later

def load (p : Pipe) : Nat := loadOf p.items

/-- A read takes the load of its chunk off the pipe, and an item where it finds nothing for now. -/
lemma read_load (p : Pipe) :
    match p.read.1 with
    | .data chunk => 0 < chunk.length ∧ p.read.2.load + 4 * chunk.length ≤ p.load
    | .notReady => p.read.2.load < p.load
    | .stalled => p.read.2 = p
    | .closed => p.read.2.load ≤ p.load
    | .failed _ => p.read.2.load ≤ p.load := by
  obtain ⟨items⟩ := p
  cases items with
  | nil => rfl
  | cons item later =>
      cases item with
      | data bytes =>
          by_cases hb : bytes.isEmpty
          · simp [Pipe.read, hb, load, loadOf]
          · have hpos : 0 < bytes.length := List.length_pos_iff.mpr (by simpa using hb)
            simp only [Pipe.read, hb, Bool.false_eq_true, if_false, List.length_take, chunkSize]
            refine ⟨by omega, ?_⟩
            by_cases hl : (bytes.drop 8192).isEmpty
            · simp only [hl, if_true, load, loadOf]
              omega
            · simp only [hl, Bool.false_eq_true, if_false, load, loadOf, List.length_drop]
              have hlong : 8192 < bytes.length := by
                simpa [List.drop_eq_nil_iff] using hl
              omega
      | fail cause => simp [Pipe.read, load, loadOf]
      | notReady => simp [Pipe.read, load, loadOf]
      | stall => rfl
      | close => simp [Pipe.read]

/-- Whether reading comes to an end. -/
def endsOf : List PipeItem → Bool
  | [] => false
  | .data bytes :: later => bytes.isEmpty || endsOf later
  | .notReady :: later => endsOf later
  | .fail _ :: _ => true
  | .stall :: _ => false
  | .close :: _ => true

def comesToEnd (p : Pipe) : Bool := endsOf p.items

/-- A pipe that comes to an end does not stall before. -/
lemma read_comesToEnd {p : Pipe} (h : p.comesToEnd = true) :
    p.read.1 ≠ .stalled ∧ (p.read.1.ends = false → p.read.2.comesToEnd = true) := by
  obtain ⟨items⟩ := p
  cases items with
  | nil => cases h
  | cons item later =>
      cases item with
      | data bytes =>
          by_cases hb : bytes.isEmpty
          · simp [Pipe.read, hb, ReadReply.ends]
          · have later_ends : endsOf later = true := by
              simpa [comesToEnd, endsOf, hb] using h
            simp only [Pipe.read, hb, Bool.false_eq_true, if_false, ne_eq, reduceCtorEq,
              not_false_eq_true, true_and]
            intro _
            by_cases hl : (bytes.drop chunkSize).isEmpty
            · simp only [hl, if_true, comesToEnd, later_ends]
            · simp only [hl, Bool.false_eq_true, if_false, comesToEnd, endsOf, later_ends,
                Bool.or_true]
      | fail cause => simp [Pipe.read, ReadReply.ends]
      | notReady => exact ⟨ReadReply.noConfusion, fun _ => h⟩
      | stall => cases h
      | close => simp [Pipe.read, ReadReply.ends]

end Pipe

/-- The load of a phase: a byte that was read weighs less than in the pipe, and less again once its
    forward has begun. -/
def Phase.load : Phase → Nat
  | .reading => 2
  | .holding chunk => chunk.length + 4
  | .waiting rest => rest.length + 3
  | .pushing rest => rest.length + 3
  | .flushing => 1
  | .finished => 0
  | .cutOff => 0
  | .crashed => 0

namespace Event

/-- The bytes that an event has brought to the destination. -/
def delivers : Event → Bytes
  | .offer o => o.taken
  | _ => []

/-- An event after which there is nothing to do but wait has done nothing. -/
lemma idle_of_waits {e : Event} (h : e.waits = true) :
    e.bytes = [] ∧ e.delivers = [] ∧ e.failure? = none ∧ e.attempt? = none := by
  rcases e with reply | ⟨rest, answer⟩ | answer | _
  · cases reply with
    | notReady => exact ⟨rfl, rfl, rfl, rfl⟩
    | stalled => exact ⟨rfl, rfl, rfl, rfl⟩
    | _ => cases h
  · cases answer with
    | notReady => exact ⟨rfl, rfl, rfl, rfl⟩
    | stalled => exact ⟨rfl, rfl, rfl, rfl⟩
    | _ => cases h
  · cases answer with
    | notReady => exact ⟨rfl, rfl, rfl, rfl⟩
    | stalled => exact ⟨rfl, rfl, rfl, rfl⟩
    | _ => cases h
  · cases h

end Event

namespace Drain

/-- The number of attempts until the destination responds. -/
noncomputable def delay (b : Behaviour) (d : Drain) : Nat :=
  match d.phase with
  | .waiting _ => idleFor Reply.repeats b.write d.sink.destination.writes
  | .pushing _ => idleFor Reply.repeats b.write d.sink.destination.writes
  | .flushing => idleFor Reply.putsOff b.flush d.sink.destination.flushes
  | _ => 0

/-- Less is left to do: fewer bytes to be read or forwarded, or as many and fewer attempts. -/
def Nearer (b : Behaviour) : Drain × Pipe → Drain × Pipe → Prop :=
  InvImage (Prod.Lex (· < ·) (· < ·)) fun x => (x.2.load + x.1.phase.load, x.1.delay b)

section Nearer

variable {b : Behaviour} {x y : Drain × Pipe}

lemma nearer_wf (b : Behaviour) : WellFounded (Nearer b) :=
  InvImage.wf _ (Prod.lex Nat.lt_wfRel Nat.lt_wfRel).wf

lemma Nearer.of_load (less : x.2.load + x.1.phase.load < y.2.load + y.1.phase.load) :
    Nearer b x y := Prod.Lex.left _ _ less

lemma Nearer.of_delay (same : x.2.load + x.1.phase.load = y.2.load + y.1.phase.load)
    (less : x.1.delay b < y.1.delay b) : Nearer b x y := by
  rw [Nearer, InvImage, same]
  exact Prod.Lex.right _ less

end Nearer

/-! ## One step -/

/-- The drain forwards to a responsive destination, and has not crashed. -/
structure Faces (b : Behaviour) (d : Drain) : Prop where
  follows : d.sink.destination.Follows b
  sound : d.phase ≠ .crashed

variable {b : Behaviour} {d d' : Drain} {p p' : Pipe}

lemma Faces.start (b : Behaviour) : Faces b (.start (.ofBehaviour b)) :=
  ⟨⟨rfl, fun _ h => absurd h (Nat.not_lt_zero _), fun _ h => absurd h (Nat.not_lt_zero _)⟩,
    Phase.noConfusion⟩

lemma Faces.heed (h : Faces b d) : Faces b d.heed := by
  refine ⟨by rw [heed_sink]; exact h.follows, ?_⟩
  have hs := h.sound
  cases hp : d.phase <;> simp_all [Drain.heed]

/-- A drain that has ended without a crash has returned. -/
lemma Faces.drained (h : Faces b d) (ended : d.result?.isSome = true) :
    ∃ captured failure, d.result? = some (.drained captured failure) := by
  have hs := h.sound
  cases hp : d.phase <;> simp_all [Drain.result?]

/-- An attempt at forwarding, unless it gets stuck: there is less to forward, or as much and fewer
    attempts to make. -/
lemma push_nearer {rest : Bytes} (responsive : b.Responsive) (h : d.sink.destination.Follows b)
    (free : (d.push rest).1 ≠ .stuck) :
    (d.push rest).2.phase.load < rest.length + 3 ∨
      (d.push rest).2.phase.load = rest.length + 3 ∧ (d.push rest).2.delay b <
        idleFor Reply.repeats b.write d.sink.destination.writes := by
  obtain rfl := h.behaviour
  have later := idleFor_succ responsive.write h.writes
  have pushed := d.sink.destination.push_pushed rest
  simp only [Drain.push] at free ⊢
  rcases hq : d.sink.destination.push rest with ⟨progress, destination⟩
  rw [hq] at pushed free
  cases pushed with
  | done same => exact .inl (by simp [Phase.load])
  | failed same cause => exact .inl (by simp [Phase.load])
  | part same left less => exact .inl (Nat.add_lt_add_right less 3)
  | interrupted same next interrupts =>
      refine .inr ⟨rfl, ?_⟩
      rw [delay, show destination.writes = _ from next]
      exact later (by rw [Reply.repeats, interrupts, Bool.or_true])
  | notReady same next putOff =>
      refine .inr ⟨rfl, ?_⟩
      rw [delay, show destination.writes = _ from next]
      exact later (by rw [putOff]; rfl)
  | stalled stall => exact absurd rfl free
  | crashed crash => exact absurd crash (responsive.write_sound _)

lemma push_faces (responsive : b.Responsive) (h : d.sink.destination.Follows b) (rest : Bytes) :
    Faces b (d.push rest).2 := by
  have follows := h.push rest
  obtain rfl := h.behaviour
  have pushed := d.sink.destination.push_pushed rest
  simp only [Drain.push]
  rcases hq : d.sink.destination.push rest with ⟨progress, destination⟩
  rw [hq] at pushed follows
  cases pushed with
  | crashed crash => exact absurd crash (responsive.write_sound _)
  | _ => exact ⟨follows, Phase.noConfusion⟩

/-- A flush, unless it gets stuck: it is over, or there are fewer attempts to make. -/
lemma flush_nearer (responsive : b.Responsive) (h : d.sink.destination.Follows b)
    (hp : d.phase = .flushing) (free : d.flush.1 ≠ .stuck) :
    d.flush.2.phase.load = 0 ∨ d.flush.2.phase.load = 1 ∧ d.flush.2.delay b <
      idleFor Reply.putsOff b.flush d.sink.destination.flushes := by
  obtain rfl := h.behaviour
  have later := idleFor_succ responsive.flush h.flushes
  simp only [Drain.flush, Destination.flushOnce] at free ⊢
  cases hf : d.sink.destination.behaviour.flush d.sink.destination.flushes with
  | accept limit => exact .inl rfl
  | fail cause => exact .inl rfl
  | notReady =>
      refine .inr ⟨by simp [hp, Phase.load], ?_⟩
      simp only [delay, hp]
      exact later (by rw [hf]; rfl)
  | stall =>
      rw [hf] at free
      exact absurd rfl free
  | crash => exact absurd hf (responsive.flush_sound _)

lemma flush_faces (responsive : b.Responsive) (h : d.sink.destination.Follows b)
    (hp : d.phase = .flushing) : Faces b d.flush.2 := by
  have follows := h.flushOnce
  have sound := responsive.flush_sound d.sink.destination.flushes
  rw [← h.behaviour] at sound
  simp only [Drain.flush]
  cases hf : d.sink.destination.flushOnce.1 with
  | notReady => exact ⟨follows, by simp [hp]⟩
  | stalled => exact ⟨follows, by simp [hp]⟩
  | crashed =>
      simp only [Destination.flushOnce] at hf
      split at hf <;> simp_all
  | _ => exact ⟨follows, Phase.noConfusion⟩

/-- Whatever it does, a drain still faces its destination. -/
lemma Reacts.faces {reply : ReadReply} {deeds : List Event} (h : d.Reacts reply deeds d')
    (responsive : b.Responsive) (hd : Faces b d) : Faces b d' := by
  cases h with
  | reads reading =>
      cases reply with
      | data chunk => exact ⟨hd.follows, by simp only [receive]; split <;> exact Phase.noConfusion⟩
      | closed => exact ⟨hd.follows, Phase.noConfusion⟩
      | failed cause => exact ⟨hd.follows, Phase.noConfusion⟩
      | notReady => exact hd
      | stalled => exact hd
  | @begins chunk holding =>
      exact push_faces (d := { d with sink := d.sink.keep chunk }) responsive hd.follows chunk
  | resumes owing => exact push_faces responsive hd.follows _
  | flushes flushing => exact flush_faces responsive hd.follows flushing
  | rests ended => exact hd

lemma step_faces {σ : Type} {read : σ → ReadReply × σ} {s : σ} (responsive : b.Responsive)
    (h : Faces b d) : Faces b (d.step read s).2.1 := by
  rw [step_react]
  exact (d.reacts _).faces responsive h

/-- **Every step is nearer to the end**, unless the drain has ended or is stuck. -/
theorem Steps.nearer {x : Pace × Drain × Pipe} (h : Steps Pipe.read d p x)
    (responsive : b.Responsive) (faces : Faces b d) (unended : d.result? = none)
    (free : x.1 ≠ .stuck) : Nearer b x.2 (d, p) := by
  cases h with
  | reads reading =>
      have hread := p.read_load
      refine .of_load ?_
      simp only [reading, Phase.load]
      cases hr : p.read.1 with
      | data chunk =>
          rw [hr] at hread
          have filled : chunk.isEmpty = false := by simpa [List.length_pos_iff] using hread.1
          simp only [receive, filled, Bool.false_eq_true, if_false]
          omega
      | closed =>
          rw [hr] at hread
          exact Nat.add_lt_add_of_le_of_lt hread Nat.one_lt_two
      | failed cause =>
          rw [hr] at hread
          exact Nat.add_lt_add_of_le_of_lt hread Nat.one_lt_two
      | notReady =>
          rw [hr] at hread
          simp only [receive, reading]
          exact Nat.add_lt_add_right hread 2
      | stalled =>
          rw [hr] at free
          exact absurd rfl free
  | @pushes rest d₁ same owes =>
      have pushed := push_nearer responsive (same ▸ faces.follows) free
      rw [same] at pushed
      rcases owes with hp | hp
      · have load : d.phase.load = rest.length + 4 := by rw [hp]; rfl
        exact .of_load (by simp only [load]; omega)
      · have load : d.phase.load = rest.length + 3 := by rcases hp with hp | hp <;> rw [hp] <;> rfl
        have late : d.delay b = idleFor Reply.repeats b.write d.sink.destination.writes := by
          rcases hp with hp | hp <;> simp only [delay, hp]
        rcases pushed with less | ⟨same, fewer⟩
        · exact .of_load (by simp only [load]; omega)
        · exact .of_delay (by simp only [load, same]) (by rw [late]; exact fewer)
  | flushes flushing =>
      have load : d.phase.load = 1 := by rw [flushing]; rfl
      rcases flush_nearer responsive faces.follows flushing free with less | ⟨same, fewer⟩
      · exact .of_load (by simp only [load, less]; omega)
      · refine .of_delay (by simp only [load, same]) ?_
        simp only [delay, flushing] at fewer ⊢
        exact fewer
  | rests ended =>
      rw [unended] at ended
      cases ended

/-! ## Coming to rest -/

/-- **A drain that is let do what it can comes to rest.**  It has ended then; or it is stuck, and
    was not told to stop. -/
theorem comes_to_rest (responsive : b.Responsive) (stop : Bool) {I : Drain → Pipe → Prop}
    (keeps : ∀ {d p}, Faces b d → I d p → I (d.step Pipe.read p).2.1 (d.step Pipe.read p).2.2)
    (faces : Faces b d) (hI : I d p) :
    ∃ d' p', Rests Pipe.read stop d p d' p' ∧ Faces b d' ∧ (d'.result?.isSome = true ∨
      stop = false ∧ I d' p' ∧ d'.phase.suspended = true ∧
        d'.step Pipe.read p' = (.stuck, d', p')) := by
  obtain ⟨x, hx⟩ : ∃ x, x = (d, p) := ⟨_, rfl⟩
  induction x using (nearer_wf b).induction generalizing d p with
  | _ x ih =>
      subst hx
      by_cases ended : d.result?.isSome = true
      · exact ⟨d, p, rests_of_ended ended p, faces, .inl ended⟩
      have unended := Option.not_isSome_iff_eq_none.mp ended
      have steps := steps Pipe.read d p
      have faces' : Faces b (d.step Pipe.read p).2.1 := step_faces responsive faces
      have suspended : (d.step Pipe.read p).1.waits = true → _ := waits_suspended
      have hI' := keeps faces hI
      rcases hstep : d.step Pipe.read p with ⟨pace, d₁, p₁⟩
      rw [hstep] at steps faces' suspended hI'
      have onward (free : pace ≠ .stuck) :=
        ih (d₁, p₁) (steps.nearer responsive faces unended free) faces' hI' rfl
      -- a drain that has to wait obeys, if it was told to stop
      have obeyed (hw : pace.waits = true) := ended_of_heeds (heeds_of_suspended (suspended hw))
      cases pace with
      | moved =>
          obtain ⟨d', p', rests, h⟩ := onward Pace.noConfusion
          exact ⟨d', p', .moved hstep rests, h⟩
      | notReady =>
          cases stop with
          | true => exact ⟨_, _, .obeyed hstep, faces'.heed, .inl (obeyed rfl)⟩
          | false =>
              obtain ⟨d', p', rests, h⟩ := onward Pace.noConfusion
              exact ⟨d', p', .again hstep rests, h⟩
      | stuck =>
          have rests : Rests Pipe.read stop d p _ _ := .stuck hstep
          cases stop with
          | true => exact ⟨_, _, rests, faces'.heed, .inl (obeyed rfl)⟩
          | false =>
              exact ⟨_, _, rests, faces', .inr ⟨rfl, hI', suspended rfl,
                steps.stuck Pipe.read_steady rfl⟩⟩
      | ended => exact ⟨_, _, .ended hstep, faces', .inl (steps.ended rfl)⟩

/-- A pipe that comes to an end does so while the drain still reads from it. -/
lemma step_comesToEnd (responsive : b.Responsive) (faces : Faces b d)
    (h : d.phase.pastEnd = false → p.comesToEnd = true) :
    (d.step Pipe.read p).2.1.phase.pastEnd = false →
      (d.step Pipe.read p).2.2.comesToEnd = true := by
  have faces' : Faces b (d.step Pipe.read p).2.1 := step_faces responsive faces
  by_cases hr : d.phase = .reading
  · rw [step_reading hr]
    intro hpast
    rw [(receive_held hr _).2] at hpast
    exact (Pipe.read_comesToEnd (h (by rw [hr]; rfl))).2 hpast
  · rw [step_of_ne_reading hr] at faces' ⊢
    rw [advance_pastEnd hr faces'.sound]
    exact h

/-! ## Requests to stop -/

section Requests

variable {σ : Type} {read : σ → ReadReply × σ} {told : Bool} {s s' : σ} {more : List Event}

lemma Move.faces (h : Move read told d s more d' s') (responsive : b.Responsive)
    (hd : Faces b d) : Faces b d' := by
  cases h with
  | works unended goes => exact step_faces responsive hd
  | waits untold held => exact step_faces responsive hd
  | obeys request held => exact (step_faces responsive hd).heed
  | heeds request heeds => exact hd.heed

lemma Race.faces {d₀ : Drain} {s₀ : σ} {events : List Event}
    (h : Race read d₀ s₀ events told d s) (responsive : b.Responsive) (hd : Faces b d₀) :
    Faces b d := by
  induction h with
  | start => exact hd
  | tell earlier ih => exact ih
  | move earlier next ih => exact next.faces responsive ih

/-- A drain that was told to stop can always move, until it has ended. -/
lemma exists_move (unended : d.result? = none) (read : σ → ReadReply × σ) (s : σ) :
    ∃ more d' s', Move read true d s more d' s' := by
  by_cases held : (d.step read s).1.waits = true
  · exact ⟨_, _, _, .obeys rfl held⟩
  · exact ⟨_, _, _, .works unended (by simpa using held)⟩

/-- A drain that was told to stop does something for which it need not wait, or it ends. -/
lemma Move.goes_or_ends (h : Move read true d s more d' s') :
    (d.result? = none ∧ (d.step read s).1.waits = false ∧ (d.step read s).2 = (d', s')) ∨
      d'.result?.isSome = true := by
  cases h with
  | works unended goes => exact .inl ⟨unended, goes, rfl⟩
  | waits untold held => cases untold
  | obeys request held => exact .inr (ended_of_heeds (heeds_of_suspended (waits_suspended held)))
  | heeds request heeds => exact .inr (ended_of_heeds heeds)

end Requests

/-- **A drain that was told to stop makes only finitely many moves.** -/
theorem told_ends (responsive : b.Responsive) (faces : Faces b d) :
    Acc (fun y x : Drain × Pipe => ∃ more, Move Pipe.read true x.1 x.2 more y.1 y.2) (d, p) := by
  obtain ⟨x, hx⟩ : ∃ x, x = (d, p) := ⟨_, rfl⟩
  induction x using (nearer_wf b).induction generalizing d p with
  | _ x ih =>
      subst hx
      refine ⟨_, fun ⟨d', p'⟩ ⟨more, next⟩ => ?_⟩
      rcases next.goes_or_ends with ⟨unended, goes, hstep⟩ | ended
      · refine ih _ ?_ (next.faces responsive faces) rfl
        rw [← hstep]
        refine (steps Pipe.read d p).nearer responsive faces unended fun stuck => ?_
        rw [stuck] at goes
        cases goes
      · refine ⟨_, fun z ⟨more, later⟩ => ?_⟩
        rw [later.unended] at ended
        cases ended

/-! ## Being blocked -/

lemma push_delivers (d : Drain) (rest : Bytes) :
    (d.push rest).2.delivered = d.delivered ++ (d.offers rest).flatMap Event.delivers := by
  by_cases hr : rest = []
  · subst hr
    exact (List.append_nil _).symm
  · rw [push_delivered d hr, offers_of_ne_nil d hr, List.flatMap_singleton]
    rfl

/-- A step brings to the destination what it takes of the offers. -/
lemma Reacts.delivered {reply : ReadReply} {deeds : List Event} (h : d.Reacts reply deeds d') :
    d'.delivered = d.delivered ++ deeds.flatMap Event.delivers := by
  cases h with
  | reads reading => cases reply <;> exact (List.append_nil _).symm
  | @begins chunk holding => exact push_delivers { d with sink := d.sink.keep chunk } chunk
  | resumes owing => exact push_delivers d _
  | flushes flushing =>
      rw [Drain.delivered, flush_destination, Destination.flushOnce_contents]
      exact (List.append_nil _).symm
  | rests ended => exact (List.append_nil _).symm

/-- **A blocked drain** that tries again, and still has to wait, has changed nothing. -/
lemma step_idle (suspended : d.phase.suspended = true)
    (held : (d.step Pipe.read p).1.waits = true) :
    (d.step Pipe.read p).2.1.sink.snapshot = d.sink.snapshot ∧
      (d.step Pipe.read p).2.1.failure = d.failure ∧
      (d.step Pipe.read p).2.1.delivered = d.delivered ∧
      (d.step Pipe.read p).2.1.sink.destination.log = d.sink.destination.log ∧
      (d.step Pipe.read p).2.2.bytes = p.bytes := by
  obtain ⟨e, hdeeds, hw⟩ := step_waits held
  obtain ⟨unread, undelivered, unfailed, unattempted⟩ := Event.idle_of_waits hw
  have hreacts := d.reacts p.read.1
  rw [hdeeds, ← step_react] at hreacts
  refine ⟨?_, ?_, ?_, ?_, ?_⟩
  · have hheld : (d.step Pipe.read p).2.1.held = _ := step_held d p
    rw [← readBytes_deeds, hdeeds] at hheld
    rw [Drain.held, suspended_inHand (waits_suspended held), Drain.held,
      suspended_inHand suspended] at hheld
    simpa [readBytes, unread] using hheld
  · simpa [unfailed] using hreacts.failure
  · simpa [undelivered] using hreacts.delivered
  · simpa [unattempted] using hreacts.log
  · by_cases hr : d.phase = .reading
    · have hread := p.read_bytes
      rw [step_reading hr] at held ⊢
      cases hs : p.read.1 with
      | notReady => simpa [hs, ReadReply.ends, ReadReply.chunks] using hread
      | stalled => simpa [hs, ReadReply.ends, ReadReply.chunks] using hread
      | _ =>
          rw [hs] at held
          cases held
    · rw [step_of_ne_reading hr]

/-- A blocked drain that is told to stop returns with what it had, having at most found once more
    that it has to wait. -/
lemma Move.of_blocked {more : List Event} (h : Move Pipe.read true d p more d' p')
    (suspended : d.phase.suspended = true) (held : (d.step Pipe.read p).1.waits = true) :
    d'.result? = some (.drained d.sink.snapshot d.failure) ∧ d'.delivered = d.delivered ∧
      d'.sink.destination.log = d.sink.destination.log ∧ p'.bytes = p.bytes ∧
      (more = [.stop] ∨ ∃ e, e.waits = true ∧ more = [e, .stop]) := by
  cases h with
  | works unended goes =>
      rw [held] at goes
      cases goes
  | waits untold held => cases untold
  | obeys request _ =>
      obtain ⟨hsnapshot, hfailure, hdelivered, hlog, hbytes⟩ := step_idle suspended held
      obtain ⟨e, hdeeds, hw⟩ := step_waits held
      refine ⟨?_, ?_, ?_, hbytes, .inr ⟨e, hw, by rw [hdeeds]; rfl⟩⟩
      · rw [heed_ended (heeds_of_suspended (waits_suspended held)), hsnapshot, hfailure]
      · rw [Drain.delivered, heed_sink]
        exact hdelivered
      · rw [heed_sink]
        exact hlog
  | heeds request heeds =>
      refine ⟨heed_ended heeds, ?_, ?_, rfl, .inl rfl⟩
      · rw [Drain.delivered, heed_sink]
        rfl
      · rw [heed_sink]

/-- **A drain comes to an end**, for every pipe and every destination that neither crashes nor puts
    off or interrupts for ever, unless it stalls.

    Left alone, it comes to rest: it has returned, or it is suspended and stuck for good.  If the
    pipe comes to an end, and the destination does not stall, it has returned.

    It may be told to stop at any moment, before its first step included, and look for the request
    before or after what it waits for.  Where it is blocked then, it returns with its copy, its
    failure, and what the destination holds as they are, and has read and attempted nothing more.
    Wherever it is, it can move as long as it has not returned, but only finitely often; and where
    it has to wait the next time, it returns.  So it returns, also if it looks for the request as
    late as it can.

    That nothing is lost is said of a request which is obeyed where the drain is blocked, as it is
    when it waits for its pipe or its destination.  A race may also obey between a read and the
    forward of what was read; what it returns then is in `reads_lost_to_request`. -/
theorem drain_ends {b : Behaviour} (responsive : b.Responsive) (pipe : Pipe) :
    (∃ d p, Rests Pipe.read false (.start (.ofBehaviour b)) pipe d p ∧
      ((∃ captured failure, d.result? = some (.drained captured failure)) ∨
        d.phase.suspended = true ∧ d.step Pipe.read p = (.stuck, d, p)) ∧
      (pipe.comesToEnd = true → (∀ n, b.write n ≠ .stall) → (∀ n, b.flush n ≠ .stall) →
        ∃ captured failure, d.result? = some (.drained captured failure))) ∧
    ∀ events told d p, Race Pipe.read (.start (.ofBehaviour b)) pipe events told d p →
      (d.phase.suspended = true → (d.step Pipe.read p).1.waits = true →
        ∀ more d' p', Move Pipe.read true d p more d' p' →
          d'.result? = some (.drained d.sink.snapshot d.failure) ∧ d'.delivered = d.delivered ∧
          d'.sink.destination.log = d.sink.destination.log ∧ p'.bytes = p.bytes ∧
          (more = [.stop] ∨ ∃ e, e.waits = true ∧ more = [e, .stop])) ∧
      ((∃ captured failure, d.result? = some (.drained captured failure)) ∨
        ∃ more d' p', Move Pipe.read true d p more d' p') ∧
      Acc (fun y x : Drain × Pipe => ∃ more, Move Pipe.read true x.1 x.2 more y.1 y.2) (d, p) ∧
      ((d.step Pipe.read p).1.waits = true → ∀ more d' p', Move Pipe.read true d p more d' p' →
        ∃ captured failure, d'.result? = some (.drained captured failure)) ∧
      ∃ d' p', Rests Pipe.read true d p d' p' ∧
        ∃ captured failure, d'.result? = some (.drained captured failure) := by
  have starts : Faces b (.start (.ofBehaviour b)) := .start b
  refine ⟨?_, fun events told d p race => ?_⟩
  · let I (d : Drain) (p : Pipe) : Prop := pipe.comesToEnd = true → d.phase.pastEnd = false →
      p.comesToEnd = true
    obtain ⟨d, p, rests, faces, settled⟩ := comes_to_rest responsive false (I := I)
      (fun faces hI ends => step_comesToEnd responsive faces (hI ends)) starts
      (fun ends _ => ends)
    refine ⟨d, p, rests, ?_, fun ends writes flushes => ?_⟩
    · rcases settled with ended | ⟨-, -, suspended, stuck⟩
      · exact .inl (faces.drained ended)
      · exact .inr ⟨suspended, stuck⟩
    · rcases settled with ended | ⟨-, hI, suspended, stuck⟩
      · exact faces.drained ended
      · have stall := (steps Pipe.read d p).stalled (congrArg Prod.fst stuck)
        rw [faces.follows.behaviour] at stall
        rcases stall with ⟨reading, stalled⟩ | ⟨n, stall⟩ | ⟨n, stall⟩
        · exact absurd stalled (Pipe.read_comesToEnd (hI ends (by rw [reading]; rfl))).1
        · exact absurd stall (writes n)
        · exact absurd stall (flushes n)
  · have faces := race.faces responsive starts
    refine ⟨fun suspended held more d' p' next => next.of_blocked suspended held, ?_,
      told_ends responsive faces, fun held more d' p' next => ?_, ?_⟩
    · by_cases ended : d.result?.isSome = true
      · exact .inl (faces.drained ended)
      · exact .inr (exists_move (Option.not_isSome_iff_eq_none.mp ended) Pipe.read p)
    · rcases next.goes_or_ends with ⟨-, goes, -⟩ | ended
      · rw [held] at goes
        cases goes
      · exact (next.faces responsive faces).drained ended
    · obtain ⟨d', p', rests, faces', settled⟩ :=
        comes_to_rest (p := p) responsive true (I := fun _ _ => True) (fun _ _ => trivial) faces
          trivial
      rcases settled with ended | ⟨untold, -⟩
      · exact ⟨d', p', rests, faces'.drained ended⟩
      · cases untold

/-- A destination that takes two bytes of three, is interrupted, and stalls: told to stop then, the
    drain returns all three, and what the destination holds stays. -/
theorem stopped_in_stall :
    ∃ (b : Behaviour) (events : List Event) (d : Drain) (p : Pipe), b.Responsive ∧
      Race Pipe.read (.start (.ofBehaviour b)) ⟨[.data [1, 2, 3], .close]⟩ events false d p ∧
      d.phase = .waiting [3] ∧
      (∀ more d' p', Move Pipe.read true d p more d' p' →
        d'.result? = some (.drained [1, 2, 3] none) ∧ d'.delivered = [1, 2]) ∧
      ∃ d' p', Rests Pipe.read true d p d' p' ∧
        ∃ captured failure, d'.result? = some (.drained captured failure) := by
  let b : Behaviour :=
    ⟨Behaviour.sequence [.accept (some 2), .fail (.plain .interrupted)] .stall,
      fun _ => .accept none, ""⟩
  have responsive : b.Responsive :=
    { write_sound := by
        rintro (_ | _ | n) <;> exact Reply.noConfusion
      flush_sound := fun _ => Reply.noConfusion
      write := fun n _ => ⟨2, rfl⟩
      flush := fun n _ => ⟨0, rfl⟩ }
  have race : Race Pipe.read (.start (.ofBehaviour b)) ⟨[.data [1, 2, 3], .close]⟩ _ false _ _ :=
    .move (.move (.move (.move .start (.works rfl rfl)) (.works rfl rfl)) (.works rfl rfl))
      (.waits rfl rfl)
  obtain ⟨-, told⟩ := drain_ends responsive ⟨[.data [1, 2, 3], .close]⟩
  obtain ⟨blocked, -, -, -, rests⟩ := told _ _ _ _ race
  refine ⟨b, _, _, _, responsive, race, rfl, fun more d' p' next => ?_, rests⟩
  obtain ⟨returns, delivered, -⟩ := blocked rfl rfl more d' p' next
  exact ⟨returns, delivered⟩

end Drain

end Curfew.Capture
