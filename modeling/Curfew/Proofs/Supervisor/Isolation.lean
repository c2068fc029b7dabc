import Curfew.Proofs.Capture.Steps
import Curfew.Proofs.Supervisor.Scene

/-!
# Two drains side by side

The drains of a run are two tasks, each with a pipe and a destination of its own, and they share
the request to stop.  The system decides which of them takes the next step.  What becomes of one
of them does not depend on that, nor on the other one.

* **`Pair.Run`** — a joint run: steps of both tasks in any order, and at most one request to stop,
  which each of them may obey or overlook wherever it looks at it.
* **`Lone.run?`** — a task by itself.  It is a function of the task's own moves, among them the
  moment from which on it is told to stop.
* `Step.lone` — a step of the pair is a move of one task and nothing to the other one, and a
  request to stop is a move of both.
* **`streams_isolated`** — a joint run is, for each stream, a run of its task by itself; without a
  request to stop, its result does not even depend on the order.
-/

namespace Curfew.Capture

/-! ## Joint runs -/

/-- What happens next. -/
inductive Act
  /-- The task of a stream takes a step. -/
  | work (stream : Stream)
  /-- The task of a stream obeys the request to stop. -/
  | heed (stream : Stream)
  /-- Both are told to stop. -/
  | tell
deriving DecidableEq, Repr

/-- The drains of a run, and the sources that they read. -/
structure Pair (σ : Type) where
  drains : Drains
  sources : Stream → σ

variable {σ : Type}

namespace Pair

def task (p : Pair σ) (stream : Stream) : Drain := (p.drains.lane stream).task

/-- The task of a stream has gone on to `task`, and has left `source` to read. -/
def carry (p : Pair σ) (stream : Stream) (task : Drain) (source : σ) : Pair σ where
  drains := p.drains.put ((p.drains.lane stream).carry task) stream
  sources := Function.update p.sources stream source

/-- A step of the pair.  A task that obeys a request to stop ends by that, hence it makes no
    difference that each of them would learn of the request only once. -/
inductive Step (read : Stream → σ → ReadReply × σ) : Pair σ → Act → Pair σ → Prop
  | work (p : Pair σ) (stream : Stream) :
      Step read p (.work stream)
        (p.carry stream ((p.task stream).step (read stream) (p.sources stream)).2.1
          ((p.task stream).step (read stream) (p.sources stream)).2.2)
  | heed {p : Pair σ} (stream : Stream) (told : p.drains.stop = true)
      (heeds : Drain.Phase.heeds (p.task stream).phase = true) :
      Step read p (.heed stream) (p.carry stream (p.task stream).heed (p.sources stream))
  | tell {p : Pair σ} (untold : p.drains.stop = false) :
      Step read p .tell { p with drains := p.drains.requestStop }

/-- Steps of both tasks, in any order. -/
inductive Run (read : Stream → σ → ReadReply × σ) : Pair σ → List Act → Pair σ → Prop
  | still (p : Pair σ) : Run read p [] p
  | step {p p₁ p' : Pair σ} {act : Act} {acts : List Act} (first : Step read p act p₁)
      (rest : Run read p₁ acts p') : Run read p (act :: acts) p'

end Pair

/-! ## A task by itself -/

/-- What a task can do or meet by itself. -/
inductive Move
  | work
  | heed
  /-- From now on it is told to stop. -/
  | told
deriving DecidableEq, Repr

/-- What happens to the task of a stream by that. -/
def Act.own (stream : Stream) : Act → Option Move
  | .work s => if s = stream then some .work else none
  | .heed s => if s = stream then some .heed else none
  | .tell => some .told

/-- A task with its source, and whether it was told to stop. -/
structure Lone (σ : Type) where
  task : Drain
  source : σ
  told : Bool

namespace Lone

def step? (read : σ → ReadReply × σ) (l : Lone σ) : Move → Option (Lone σ)
  | .work =>
    let (_, task, source) := l.task.step read l.source
    some { l with task := task, source := source }
  | .heed =>
    if l.told && Drain.Phase.heeds l.task.phase then some { l with task := l.task.heed } else none
  | .told => if l.told then none else some { l with told := true }

/-- What a task becomes by these moves, if it can make them all. -/
def run? (read : σ → ReadReply × σ) : List Move → Lone σ → Option (Lone σ)
  | [], l => some l
  | move :: moves, l => (l.step? read move).bind (run? read moves)

end Lone

/-- The task of a stream, seen by itself. -/
def Pair.lone (p : Pair σ) (stream : Stream) : Lone σ :=
  ⟨p.task stream, p.sources stream, p.drains.stop⟩

namespace Pair

variable {read : Stream → σ → ReadReply × σ}

lemma carry_lone_same (p : Pair σ) (stream : Stream) (task : Drain) (source : σ) :
    (p.carry stream task source).lone stream = ⟨task, source, p.drains.stop⟩ := by
  simp [lone, carry, Pair.task]

lemma carry_lone_other (p : Pair σ) {stream other : Stream} (h : other ≠ stream) (task : Drain)
    (source : σ) : (p.carry stream task source).lone other = p.lone other := by
  simp [lone, carry, Pair.task, Drains.put_other _ _ h, Function.update_of_ne h]

/-- **A step of the pair, seen from one stream.** -/
theorem Step.lone {p p' : Pair σ} {act : Act} (h : Step read p act p') (stream : Stream) :
    match act.own stream with
    | some move => (p.lone stream).step? (read stream) move = some (p'.lone stream)
    | none => p'.lone stream = p.lone stream := by
  cases h with
  | work other =>
      by_cases hs : other = stream
      · subst hs
        simp only [Act.own, if_true, carry_lone_same]
        rfl
      · simp only [Act.own, if_neg hs]
        exact carry_lone_other p (Ne.symm hs) _ _
  | heed other told heeds =>
      by_cases hs : other = stream
      · subst hs
        simp only [Act.own, if_true]
        rw [carry_lone_same]
        simp only [Lone.step?, Pair.lone, told, heeds, Bool.and_self, if_true]
      · simp only [Act.own, if_neg hs]
        exact carry_lone_other p (Ne.symm hs) _ _
  | tell untold =>
      simp only [Act.own, Lone.step?, Pair.lone, untold, Bool.false_eq_true, if_false]
      cases stream <;> rfl

/-- **A joint run, seen from one stream**, is a run of its task by itself. -/
theorem Run.lone {p p' : Pair σ} {acts : List Act} (run : Run read p acts p') (stream : Stream) :
    Lone.run? (read stream) (acts.filterMap (Act.own stream)) (p.lone stream) =
      some (p'.lone stream) := by
  induction run with
  | still p => rfl
  | @step p p₁ p' act acts first rest ih =>
      have h := first.lone stream
      cases hown : act.own stream with
      | none =>
          rw [hown] at h
          rw [List.filterMap_cons_none hown, ← h]
          exact ih
      | some move =>
          rw [hown] at h
          rw [List.filterMap_cons_some hown, Lone.run?, h]
          exact ih

/-- Where nobody is told to stop, nobody obeys. -/
lemma Run.untold {p p' : Pair σ} {acts : List Act} (run : Run read p acts p')
    (silent : p.drains.stop = false) (quiet : .tell ∉ acts) (stream : Stream) :
    ∀ move ∈ acts.filterMap (Act.own stream), move = .work := by
  induction run with
  | still p => exact fun move hm => absurd hm List.not_mem_nil
  | @step p p₁ p' act acts first rest ih =>
      have quiet' : .tell ∉ acts := fun h => quiet (List.mem_cons_of_mem _ h)
      intro move hm
      cases first with
      | work other =>
          have hrest := ih ((Drains.put_stop _ _ _).trans silent) quiet'
          by_cases hs : other = stream
          · have hown : Act.own stream (.work other) = some .work := if_pos hs
            rw [List.filterMap_cons_some hown] at hm
            rcases List.mem_cons.mp hm with rfl | hm
            · rfl
            · exact hrest move hm
          · have hown : Act.own stream (.work other) = none := if_neg hs
            rw [List.filterMap_cons_none hown] at hm
            exact hrest move hm
      | heed other told heeds =>
          rw [silent] at told
          cases told
      | tell untold => exact absurd List.mem_cons_self quiet

end Pair

/-! ## Work alone -/

namespace Lone

variable {read : σ → ReadReply × σ}

/-- What a step of work makes of a task by itself. -/
def worked (read : σ → ReadReply × σ) (l : Lone σ) : Lone σ :=
  { l with task := (l.task.step read l.source).2.1, source := (l.task.step read l.source).2.2 }

lemma run?_work_succ (n : Nat) (l : Lone σ) :
    run? read (List.replicate (n + 1) .work) l = run? read (List.replicate n .work) (l.worked read) :=
  rfl

/-- A task that has ended stays as it is. -/
lemma run?_of_ended {l : Lone σ} (h : l.task.result?.isSome) (n : Nat) :
    run? read (List.replicate n .work) l = some l := by
  induction n with
  | zero => rfl
  | succ n ih =>
      have hworked : l.worked read = l := by rw [worked, Drain.step_of_ended h]
      rw [run?_work_succ, hworked]
      exact ih

/-- A task that has ended has ended in one way, however many steps it was given. -/
lemma run?_unique {l l₁ l₂ : Lone σ} {n₁ n₂ : Nat}
    (h₁ : run? read (List.replicate n₁ .work) l = some l₁) (ended₁ : l₁.task.result?.isSome)
    (h₂ : run? read (List.replicate n₂ .work) l = some l₂) (ended₂ : l₂.task.result?.isSome) :
    l₁ = l₂ := by
  induction n₁ generalizing n₂ l with
  | zero =>
      cases h₁
      rw [run?_of_ended ended₁] at h₂
      exact Option.some.inj h₂
  | succ n₁ ih =>
      cases n₂ with
      | zero =>
          cases h₂
          rw [run?_of_ended ended₂] at h₁
          exact (Option.some.inj h₁).symm
      | succ n₂ => exact ih h₁ h₂

end Lone

namespace Drain

variable {read : σ → ReadReply × σ}

/-- A drain that is stuck is stuck for good. -/
lemma run?_of_stuck (steady : Steady read) {d : Drain} {s : σ} (told : Bool)
    (h : (d.step read s).1 = .stuck) (n : Nat) :
    Lone.run? read (List.replicate n .work) (Lone.worked read ⟨d, s, told⟩) =
      some (Lone.worked read ⟨d, s, told⟩) := by
  induction n with
  | zero => rfl
  | succ n ih =>
      have hworked : Lone.worked read (Lone.worked read ⟨d, s, told⟩) =
          Lone.worked read ⟨d, s, told⟩ := by
        simp only [Lone.worked, (steps read d s).stuck steady h]
      rw [Lone.run?_work_succ, hworked]
      exact ih

/-- **Letting a drain do what it can** comes to what its steps by themselves have come to. -/
theorem settle_of_run {d : Drain} {s : σ} {told : Bool} {n fuel : Nat} {l : Lone σ}
    (steady : Steady read) (h : Lone.run? read (List.replicate n .work) ⟨d, s, told⟩ = some l)
    (ended : l.task.result?.isSome) (enough : n < fuel) :
    d.settle read false fuel s = (l.task, l.source) := by
  induction n generalizing d s fuel with
  | zero =>
      obtain ⟨fuel, rfl⟩ := Nat.exists_eq_add_of_lt enough
      cases h
      simp only [Drain.settle, step_of_ended ended]
  | succ n ih =>
      obtain ⟨fuel, rfl⟩ : ∃ f, fuel = f + 1 := ⟨fuel - 1, by omega⟩
      have hrest : Lone.run? read (List.replicate n .work)
          ⟨(d.step read s).2.1, (d.step read s).2.2, told⟩ = some l := h
      have more := ih hrest (Nat.lt_of_succ_lt_succ enough)
      rw [Drain.settle]
      rcases hstep : d.step read s with ⟨pace, d₁, s₁⟩
      rw [hstep] at more hrest
      cases pace with
      | moved => exact more
      | notReady => simpa using more
      | stuck =>
          -- a drain that is stuck would not have ended
          have hstuck := run?_of_stuck steady told (d := d) (s := s) (by rw [hstep]) n
          simp only [Lone.worked, hstep, hrest] at hstuck
          cases hstuck
          rfl
      | ended =>
          have hended := (steps read d s).ended (by rw [hstep])
          rw [hstep] at hended
          rw [Lone.run?_of_ended (l := ⟨d₁, s₁, told⟩) hended] at hrest
          cases hrest
          rfl

end Drain

/-! ## Isolation -/

/-- **The drains of a run are isolated from each other.**  Whatever order their steps are taken in,
    and whenever both are told to stop:

    * what has become of the task of a stream, with its copy, its failure, its destination and its
      source, is what its own moves make of it by itself, where the request to stop comes at the
      same point of them;
    * hence another joint run with the same moves of this task ends the same way for it, whatever
      the other stream reads, and whether it fails, stalls or crashes;
    * if nobody is told to stop, the moves do not matter either: any two joint runs in which the
      task ends leave the same, and that is what it comes to when it is let do what it can. -/
theorem streams_isolated {read : Stream → σ → ReadReply × σ} {p p' : Pair σ} {acts : List Act}
    (run : Pair.Run read p acts p') :
    (∀ stream, Lone.run? (read stream) (acts.filterMap (Act.own stream)) (p.lone stream) =
      some (p'.lone stream)) ∧
    (∀ read' q q' acts', Pair.Run read' q acts' q' → ∀ stream, read' stream = read stream →
      q.lone stream = p.lone stream →
      (acts'.filterMap (Act.own stream) = acts.filterMap (Act.own stream) →
        q'.lone stream = p'.lone stream) ∧
      (p.drains.stop = false → .tell ∉ acts → .tell ∉ acts' →
        (p'.task stream).result?.isSome → (q'.task stream).result?.isSome →
        q'.lone stream = p'.lone stream)) ∧
    (p.drains.stop = false → .tell ∉ acts → ∀ stream, Steady (read stream) →
      (p'.task stream).result?.isSome → ∃ enough, ∀ fuel, enough < fuel →
        (p.task stream).settle (read stream) false fuel (p.sources stream) =
          (p'.task stream, p'.sources stream)) := by
  -- where nobody is told to stop, a task only works
  have works {read : Stream → σ → ReadReply × σ} {p p' : Pair σ} {acts : List Act}
      (run : Pair.Run read p acts p') (silent : p.drains.stop = false) (quiet : .tell ∉ acts)
      (stream : Stream) : ∃ n, Lone.run? (read stream) (List.replicate n .work) (p.lone stream) =
        some (p'.lone stream) := by
    refine ⟨(acts.filterMap (Act.own stream)).length, ?_⟩
    rw [← List.eq_replicate_of_mem (run.untold silent quiet stream)]
    exact run.lone stream
  refine ⟨run.lone, fun read' q q' acts' run' stream hread hlone => ⟨fun hmoves => ?_, ?_⟩, ?_⟩
  · have alone := run.lone stream
    have alone' := run'.lone stream
    rw [hread, hlone, hmoves, alone] at alone'
    exact (Option.some.inj alone').symm
  · intro silent quiet quiet' ended ended'
    have silent' : q.drains.stop = false := (congrArg Lone.told hlone).trans silent
    obtain ⟨n, alone⟩ := works run silent quiet stream
    obtain ⟨n', alone'⟩ := works run' silent' quiet' stream
    rw [hread, hlone] at alone'
    exact Lone.run?_unique alone' ended' alone ended
  · intro silent quiet stream steady ended
    obtain ⟨n, alone⟩ := works run silent quiet stream
    exact ⟨n, fun fuel enough => Drain.settle_of_run steady alone ended enough⟩

/-- Stdout crashes while stderr is drained; in another run stdout is fine and goes first.  Stderr
    leaves the same.  In a third run both are told to stop when stderr waits for its pipe. -/
theorem isolation_of_crash :
    ∃ (p p' q q' r : Pair Pipe) (acts acts' told : List Act),
      Pair.Run (fun _ => Pipe.read) p acts p' ∧ Pair.Run (fun _ => Pipe.read) q acts' q' ∧
      Pair.Run (fun _ => Pipe.read) p told r ∧
      (p'.task .stdout).result? = some (.crashed "out of range") ∧
      (q'.task .stdout).result? = some (.drained [1] none) ∧
      (p'.task .stderr).result? = some (.drained [2] none) ∧
      q'.lone .stderr = p'.lone .stderr ∧
      (∃ enough, ∀ fuel, enough < fuel →
        (p.task .stderr).settle Pipe.read false fuel (p.sources .stderr) =
          (p'.task .stderr, p'.sources .stderr)) ∧
      (r.task .stderr).phase = .cutOff ∧
      Lone.run? Pipe.read [.work, .work, .told, .heed] (p.lone .stderr) = some (r.lone .stderr) := by
  have run : Pair.Run (fun _ => Pipe.read)
      ⟨.start (.ofBehaviour ⟨fun _ => .crash, fun _ => .crash, "out of range"⟩)
          (.ofBehaviour .obliging),
        fun stream => ⟨[.data [if stream = .stdout then 1 else 2], .close]⟩⟩ _ _ :=
    .step (.work _ .stderr) <| .step (.work _ .stdout) <| .step (.work _ .stdout) <|
    .step (.work _ .stderr) <| .step (.work _ .stderr) <| .step (.work _ .stderr) <| .still _
  have other : Pair.Run (fun _ => Pipe.read)
      ⟨.start (.ofBehaviour .obliging) (.ofBehaviour .obliging),
        fun stream => ⟨[.data [if stream = .stdout then 1 else 2], .close]⟩⟩ _ _ :=
    .step (.work _ .stdout) <| .step (.work _ .stdout) <| .step (.work _ .stdout) <|
    .step (.work _ .stdout) <| .step (.work _ .stderr) <| .step (.work _ .stderr) <|
    .step (.work _ .stderr) <| .step (.work _ .stderr) <| .still _
  have stopped : Pair.Run (fun _ => Pipe.read)
      ⟨.start (.ofBehaviour ⟨fun _ => .crash, fun _ => .crash, "out of range"⟩)
          (.ofBehaviour .obliging),
        fun stream => ⟨[.data [if stream = .stdout then 1 else 2], .close]⟩⟩ _ _ :=
    .step (.work _ .stderr) <| .step (.work _ .stdout) <| .step (.work _ .stderr) <|
    .step (.tell rfl) <| .step (.heed .stderr rfl rfl) <| .still _
  obtain ⟨-, compared, settled⟩ := streams_isolated run
  obtain ⟨-, same⟩ := compared _ _ _ _ other .stderr rfl rfl
  exact ⟨_, _, _, _, _, _, _, _, run, other, stopped, rfl, rfl, rfl,
    same rfl (by decide) (by decide) rfl rfl,
    settled rfl (by decide) .stderr Pipe.read_steady rfl, rfl,
    (streams_isolated stopped).1 .stderr⟩

end Curfew.Capture
