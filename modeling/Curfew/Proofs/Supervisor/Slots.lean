import Curfew.Proofs.Supervisor.Course
import Curfew.Proofs.Supervisor.Scene

/-!
# Waiting for results

A supervisor waits for the results of its two drains over and over: until a deadline, after it has
told them to stop, or without any bound.  A wait may be broken off wherever it is suspended, and
the next one takes up what it has left.  The slots are what makes that safe.

* `Entry` — what is on record: the ends of tasks, and every question that a handle was asked.
* **`Wait`** — one wait for both results, asking again and again while tasks end; a deadline breaks
  it off, and it may stand still for good.
* **`History`** — any calls, in any order, with anything happening in between.
* **`Tally`** — the invariant: what a slot holds is what the record says of its stream.
* **`results_kept`** — no result is lost and no handle asked after it has yielded; and a supervised
  run takes over the captures only when both are in.
-/

namespace Curfew

namespace Capture

/-! ## The record -/

/-- What is on record about the slots of a run. -/
inductive Entry
  /-- The task of a stream has ended. -/
  | ended (stream : Stream) (result : DrainResult)
  /-- The handle of a stream was asked, and has answered. -/
  | polled (stream : Stream) (answer : Polled)

namespace Entry

/-- The result in an entry that ends the task of a stream. -/
def ending? (stream : Stream) : Entry → Option DrainResult
  | .ended s result => if s = stream then some result else none
  | .polled _ _ => none

/-- The answer in an entry that asks the handle of a stream. -/
def answer? (stream : Stream) : Entry → Option Polled
  | .ended _ _ => none
  | .polled s answer => if s = stream then some answer else none

/-- The results with which the task of a stream has ended, in order. -/
def endings (stream : Stream) (record : List Entry) : List DrainResult :=
  record.filterMap (ending? stream)

/-- The answers of the handle of a stream, in order. -/
def answers (stream : Stream) (record : List Entry) : List Polled :=
  record.filterMap (answer? stream)

@[simp] lemma endings_append (stream : Stream) (record later : List Entry) :
    endings stream (record ++ later) = endings stream record ++ endings stream later :=
  List.filterMap_append

@[simp] lemma answers_append (stream : Stream) (record later : List Entry) :
    answers stream (record ++ later) = answers stream record ++ answers stream later :=
  List.filterMap_append

lemma endings_polled (stream other : Stream) (asked : List Polled) :
    endings stream (asked.map (.polled other)) = [] := by
  rw [endings, List.filterMap_map, List.filterMap_eq_nil_iff]
  exact fun _ _ => rfl

lemma answers_ended (stream other : Stream) (results : List DrainResult) :
    answers stream (results.map (.ended other)) = [] := by
  rw [answers, List.filterMap_map, List.filterMap_eq_nil_iff]
  exact fun _ _ => rfl

lemma endings_ended (stream : Stream) (results : List DrainResult) :
    endings stream (results.map (.ended stream)) = results := by
  have found : ending? stream ∘ ended stream = some := funext fun _ => if_pos rfl
  rw [endings, List.filterMap_map, found, List.filterMap_some]

lemma endings_ended_other {stream other : Stream} (h : other ≠ stream)
    (results : List DrainResult) : endings stream (results.map (.ended other)) = [] := by
  rw [endings, List.filterMap_map, List.filterMap_eq_nil_iff]
  exact fun _ _ => if_neg h

lemma answers_polled (stream : Stream) (asked : List Polled) :
    answers stream (asked.map (.polled stream)) = asked := by
  have found : answer? stream ∘ polled stream = some := funext fun _ => if_pos rfl
  rw [answers, List.filterMap_map, found, List.filterMap_some]

lemma answers_polled_other {stream other : Stream} (h : other ≠ stream) (asked : List Polled) :
    answers stream (asked.map (.polled other)) = [] := by
  rw [answers, List.filterMap_map, List.filterMap_eq_nil_iff]
  exact fun _ _ => if_neg h

end Entry

/-! ## Asking -/

/-- The question that `finish` puts to a handle, if there is one, with its answer. -/
def Slot.asks : Slot → List Polled
  | .running handle => [handle.poll.1]
  | .done _ => []

/-- The result that a task leaves for its lane by going on to `task`: the first that there is. -/
def Lane.ends (l : Lane) (task : Drain) : List DrainResult :=
  match l.slot, task.result? with
  | .running .pending, some result => [result]
  | _, _ => []

namespace Drains

/-- The questions that one `join` puts to the handles: to that of stderr only when stdout is in. -/
def asks (d : Drains) : List Entry :=
  d.stdout.slot.asks.map (.polled .stdout) ++
    if d.stdout.slot.finish.1 then d.stderr.slot.asks.map (.polled .stderr) else []

/-- The task of a stream has gone on to `task`. -/
def work (d : Drains) (stream : Stream) (task : Drain) : Drains :=
  d.put ((d.lane stream).carry task) stream

/-- What goes on record then. -/
def ends (d : Drains) (stream : Stream) (task : Drain) : List Entry :=
  ((d.lane stream).ends task).map (.ended stream)

/-- Both results are in their slots. -/
def Joined (d : Drains) : Prop := ∀ stream, (d.lane stream).slot.isDone = true

/-- Neither task has been heard of. -/
def Unheard (d : Drains) : Prop := ∀ stream, (d.lane stream).slot = .running .pending

/-- Asking tells whether both results are in afterwards. -/
lemma join_joined {d : Drains} (h : d.join.1 = true) : d.join.2.Joined := by
  have done {s : Slot} (hs : s.finish.1 = true) : s.finish.2.isDone = true := by
    cases s with
    | running handle => cases handle <;> first | rfl | cases hs
    | done result => rfl
  simp only [join] at h ⊢
  rcases hf : d.stdout.slot.finish with ⟨_ | _, slot⟩
  · rw [hf] at h
    cases h
  · rw [hf] at h
    intro stream
    cases stream with
    | stdout =>
        have hdone := done (s := d.stdout.slot) (by rw [hf])
        rwa [hf] at hdone
    | stderr => exact done h

/-- Once both results are in, asking finds them and asks nobody. -/
lemma Joined.join {d : Drains} (h : d.Joined) : d.join = (true, d) ∧ d.asks = [] := by
  obtain ⟨⟨outTask, outSlot⟩, ⟨errTask, errSlot⟩, stop⟩ := d
  have hout : outSlot.isDone = true := h .stdout
  have herr : errSlot.isDone = true := h .stderr
  cases outSlot with
  | running handle => cases hout
  | done out =>
      cases errSlot with
      | running handle => cases herr
      | done err => exact ⟨rfl, rfl⟩

/-- An asking asks the handle of a stream and fills its slot, or leaves both alone. -/
lemma join_slot (d : Drains) (stream : Stream) :
    (Entry.answers stream d.asks = (d.lane stream).slot.asks ∧
      (d.join.2.lane stream).slot = (d.lane stream).slot.finish.2) ∨
    (Entry.answers stream d.asks = [] ∧ (d.join.2.lane stream).slot = (d.lane stream).slot) := by
  rcases hf : d.stdout.slot.finish with ⟨_ | _, slot⟩
  · -- stderr is not asked before stdout is in
    cases stream with
    | stdout =>
        left
        simp [asks, join, lane, hf, Entry.answers_polled]
    | stderr =>
        right
        simp [asks, join, lane, hf, Entry.answers_polled_other]
  · left
    cases stream with
    | stdout => simp [asks, join, lane, hf, Entry.answers_polled, Entry.answers_polled_other]
    | stderr => simp [asks, join, lane, hf, Entry.answers_polled, Entry.answers_polled_other]

lemma asks_endings (d : Drains) (stream : Stream) : Entry.endings stream d.asks = [] := by
  simp only [asks, Entry.endings_append, Entry.endings_polled, List.nil_append]
  split
  · exact Entry.endings_polled _ _ _
  · rfl

/-- Both captures are there if each of them is. -/
lemma collect_iff {d : Drains} {both : Captured × Captured} :
    d.collect? = some both ↔ ∀ stream : Stream,
      (d.lane stream).slot.collect? = some (stream.pick both) := by
  obtain ⟨out, err⟩ := both
  simp only [collect?]
  constructor
  · intro h
    cases hout : d.stdout.slot.collect? <;> cases herr : d.stderr.slot.collect? <;>
      simp only [hout, herr, reduceCtorEq, Option.some.injEq, Prod.mk.injEq] at h
    obtain ⟨rfl, rfl⟩ := h
    intro stream
    cases stream with
    | stdout => exact hout
    | stderr => exact herr
  · intro h
    rw [show d.stdout.slot.collect? = some out from h .stdout,
      show d.stderr.slot.collect? = some err from h .stderr]

lemma collect_of_each {d : Drains}
    (each : ∀ stream : Stream, ∃ captured, (d.lane stream).slot.collect? = some captured) :
    ∃ both, d.collect? = some both := by
  obtain ⟨out, hout⟩ := each .stdout
  obtain ⟨err, herr⟩ := each .stderr
  refine ⟨(out, err), collect_iff.mpr fun stream => ?_⟩
  cases stream with
  | stdout => exact hout
  | stderr => exact herr

@[simp] lemma requestStop_lane (d : Drains) (stream : Stream) :
    d.requestStop.lane stream = d.lane stream := by
  cases stream <;> rfl

end Drains

/-! ## Waits -/

/-- The drains at an instant. -/
structure Moment where
  now : Instant
  drains : Drains

namespace Moment

/-- Both results are asked for once. -/
def asked (m : Moment) : Moment := { m with drains := m.drains.join.2 }

/-- What can happen while nobody asks. -/
inductive Elapses : Moment → List Entry → Moment → Prop
  | pass {m : Moment} (t : Instant) (later : m.now.nanos ≤ t.nanos) : Elapses m [] { m with now := t }
  /-- A task goes on, and may end. -/
  | work {m : Moment} (stream : Stream) (task : Drain) :
      Elapses m (m.drains.ends stream task) { m with drains := m.drains.work stream task }

/-- A wait for both results, until a deadline if there is one, with its answer if it has come to
    an end.  It is suspended wherever a result is missing; then things may happen, and it asks
    again.  A slot that is done is not asked, so that asking for both afresh comes to the same as
    going on where the wait stood.  A deadline is looked at only after the results. -/
inductive Wait (deadline : Option Instant) : Moment → List Entry → Option Bool → Moment → Prop
  | joined {m : Moment} (found : m.drains.join.1 = true) :
      Wait deadline m m.drains.asks (some true) m.asked
  /-- The deadline breaks the wait off. -/
  | late {m : Moment} {limit : Instant} (missing : m.drains.join.1 = false)
      (bounded : deadline = some limit) (reached : m.now.reached limit = true) :
      Wait deadline m m.drains.asks (some false) m.asked
  /-- The wait stands still here, for now or because its caller was dropped. -/
  | suspended {m : Moment} (missing : m.drains.join.1 = false) :
      Wait deadline m m.drains.asks none m.asked
  | idle {m m₁ m' : Moment} {between later : List Entry} {answer : Option Bool}
      (missing : m.drains.join.1 = false) (elapses : Elapses m.asked between m₁)
      (rest : Wait deadline m₁ later answer m') :
      Wait deadline m (m.drains.asks ++ between ++ later) answer m'

/-- The calls that wait for results. -/
inductive Call
  | joinUntil (deadline : Instant)
  | stop
  | join

def Call.deadline? : Call → Option Instant
  | .joinUntil deadline => some deadline
  | .stop => none
  | .join => none

/-- What a call does before it waits. -/
def enter (m : Moment) : Call → Moment
  | .stop => { m with drains := m.drains.requestStop }
  | _ => m

/-- Any calls, in any order, and what happens in between. -/
inductive History : Moment → List Entry → Moment → Prop
  | still (m : Moment) : History m [] m
  | elapse {m m₁ m' : Moment} {between later : List Entry} (elapses : Elapses m between m₁)
      (rest : History m₁ later m') : History m (between ++ later) m'
  | call {m m₁ m' : Moment} {asked later : List Entry} {answer : Option Bool} (call : Call)
      (wait : Wait call.deadline? (m.enter call) asked answer m₁) (rest : History m₁ later m') :
      History m (asked ++ later) m'

/-- What is so of the record and the drains after anything that can happen, if it was so before. -/
structure Kept (I : List Entry → Drains → Prop) : Prop where
  work : ∀ {record d} (stream : Stream) (task : Drain),
    I record d → I (record ++ d.ends stream task) (d.work stream task)
  join : ∀ {record d}, I record d → I (record ++ d.asks) d.join.2
  stop : ∀ {record d}, I record d → I record d.requestStop

namespace Kept

variable {I : List Entry → Drains → Prop} {m m' : Moment} {record entries : List Entry}

lemma elapses (kept : Kept I) (h : Elapses m entries m') (hI : I record m.drains) :
    I (record ++ entries) m'.drains := by
  cases h with
  | pass t later => rwa [List.append_nil]
  | work stream task => exact kept.work stream task hI

lemma wait {deadline : Option Instant} {answer : Option Bool} (kept : Kept I)
    (h : Wait deadline m entries answer m') (hI : I record m.drains) :
    I (record ++ entries) m'.drains := by
  induction h generalizing record with
  | joined found => exact kept.join hI
  | late missing bounded reached => exact kept.join hI
  | suspended missing => exact kept.join hI
  | idle missing elapses rest ih =>
      rw [← List.append_assoc, ← List.append_assoc]
      exact ih (kept.elapses elapses (kept.join hI))

/-- **What every step keeps, a history keeps.** -/
theorem history (kept : Kept I) (h : History m entries m') (hI : I record m.drains) :
    I (record ++ entries) m'.drains := by
  induction h generalizing record with
  | still m => rwa [List.append_nil]
  | elapse elapses rest ih =>
      rw [← List.append_assoc]
      exact ih (kept.elapses elapses hI)
  | @call m m₁ m' asked later answer call wait rest ih =>
      rw [← List.append_assoc]
      refine ih (kept.wait wait ?_)
      cases call with
      | stop => exact kept.stop hI
      | joinUntil deadline => exact hI
      | join => exact hI

end Kept

/-- A wait that finds both results leaves them in their slots. -/
lemma Wait.joined_of_true {deadline : Option Instant} {m m' : Moment} {entries : List Entry}
    (h : Wait deadline m entries (some true) m') : m'.drains.Joined := by
  generalize ha : some true = answer at h
  induction h with
  | joined found => exact Drains.join_joined found
  | late missing bounded reached => cases ha
  | suspended missing => cases ha
  | idle missing elapses rest ih => exact ih ha

/-- Once both results are in, a wait is over at once, and finds them. -/
lemma wait_of_joined {m : Moment} (h : m.drains.Joined) {deadline : Option Instant}
    {entries : List Entry} {answer : Option Bool} {m' : Moment} :
    Wait deadline m entries answer m' ↔ entries = [] ∧ answer = some true ∧ m' = m := by
  obtain ⟨hjoin, hasks⟩ := h.join
  have hasked : m.asked = m := by rw [asked, hjoin]
  have hfound : m.drains.join.1 = true := by rw [hjoin]
  constructor
  · intro hwait
    cases hwait with
    | joined found => exact ⟨hasks, rfl, hasked⟩
    | late missing bounded reached => exact absurd hfound (by rw [missing]; exact Bool.noConfusion)
    | suspended missing => exact absurd hfound (by rw [missing]; exact Bool.noConfusion)
    | idle missing elapses rest => exact absurd hfound (by rw [missing]; exact Bool.noConfusion)
  · rintro ⟨rfl, rfl, rfl⟩
    have found : Wait deadline m' m'.drains.asks (some true) m'.asked := .joined hfound
    rwa [hasks, hasked] at found

end Moment

/-! ## The tally -/

/-- **The tally of a slot**: what it holds is what the record says of its stream.  The task has
    ended at most once.  As long as the result is not in the slot, every question was in vain; the
    question that has brought it was the last. -/
def Slot.Tally (endings : List DrainResult) (answers : List Polled) : Slot → Prop
  | .running .pending => endings = [] ∧ ∀ answer ∈ answers, answer = .pending
  | .running (.ready result) => endings = [result] ∧ ∀ answer ∈ answers, answer = .pending
  | .running .spent => False
  | .done result => endings = [result] ∧
      ∃ earlier, (∀ answer ∈ earlier, answer = .pending) ∧ answers = earlier ++ [.ready result]

lemma Lane.carry_done {l : Lane} {result : DrainResult} (h : l.slot = .done result)
    (task : Drain) : (l.carry task).slot = .done result := by
  simp only [carry, noteEnd, h]
  cases task.result? <;> rfl

namespace Slot

variable {endings : List DrainResult} {answers : List Polled} {s : Slot}

lemma Tally.finish (h : s.Tally endings answers) :
    s.finish.2.Tally endings (answers ++ s.asks) := by
  cases s with
  | running handle =>
      cases handle with
      | pending =>
          refine ⟨h.1, fun answer hm => ?_⟩
          rcases List.mem_append.mp hm with hm | hm
          · exact h.2 answer hm
          · exact List.mem_singleton.mp hm
      | ready result => exact ⟨h.1, answers, h.2, rfl⟩
      | spent => exact h.elim
  | done result => rwa [show (Slot.done result).asks = [] from rfl, List.append_nil]

lemma Tally.carry {l : Lane} (h : l.slot.Tally endings answers) (task : Drain) :
    (l.carry task).slot.Tally (endings ++ l.ends task) answers := by
  obtain ⟨old, slot⟩ := l
  cases hres : task.result? with
  | none =>
      have hnone : Lane.ends ⟨old, slot⟩ task = [] := by
        simp only [Lane.ends, hres]
      rw [hnone, List.append_nil, Lane.carry_of_unended _ hres]
      exact h
  | some result =>
      rw [Lane.carry_of_ended _ hres]
      simp only [Lane.ends, hres]
      cases slot with
      | running handle =>
          cases handle with
          | pending =>
              refine ⟨?_, h.2⟩
              rw [h.1, List.nil_append]
          | ready earlier => exact ⟨(List.append_nil _).trans h.1, h.2⟩
          | spent => exact h.elim
      | done earlier => exact ⟨(List.append_nil _).trans h.1, h.2⟩

/-- No question comes after the one that was answered, and none was a misuse. -/
lemma Tally.answered (h : s.Tally endings answers) :
    answers.Pairwise (fun earlier _ => earlier = .pending) ∧ .misused ∉ answers := by
  have vain {answers : List Polled} (hall : ∀ answer ∈ answers, answer = .pending) :
      answers.Pairwise (fun earlier _ => earlier = .pending) ∧ .misused ∉ answers := by
    refine ⟨List.Pairwise.imp_of_mem (fun hm _ _ => hall _ hm)
      (List.pairwise_of_forall fun _ _ => trivial), fun hm => ?_⟩
    cases hall _ hm
  cases s with
  | running handle =>
      cases handle with
      | pending => exact vain h.2
      | ready result => exact vain h.2
      | spent => exact h.elim
  | done result =>
      obtain ⟨-, earlier, hall, rfl⟩ := h
      obtain ⟨hpair, hnone⟩ := vain hall
      refine ⟨List.pairwise_append.mpr
        ⟨hpair, List.pairwise_singleton _ _, fun _ hm _ _ => hall _ hm⟩, fun hm => ?_⟩
      rcases List.mem_append.mp hm with hm | hm
      · exact hnone hm
      · cases List.mem_singleton.mp hm

/-- A task that is on record as ended has one result. -/
lemma Tally.ended (h : s.Tally endings answers) (hended : endings ≠ []) :
    ∃ result, endings = [result] := by
  cases s with
  | running handle =>
      cases handle with
      | pending => exact absurd h.1 hended
      | ready result => exact ⟨result, h.1⟩
      | spent => exact h.elim
  | done result => exact ⟨result, h.1⟩

/-- What can be collected is the result with which the task has ended. -/
lemma Tally.collect (h : s.Tally endings answers) (captured : Captured) :
    s.collect? = some captured ↔ ∃ result, endings = [result] ∧ captured = .ofResult result := by
  cases s with
  | running handle =>
      cases handle with
      | pending => simp [collect?, h.1]
      | ready result => simp [collect?, h.1, eq_comm]
      | spent => exact h.elim
  | done result => simp [collect?, h.1, eq_comm]

end Slot

/-- The tallies of both slots. -/
def Tally (record : List Entry) (d : Drains) : Prop :=
  ∀ stream, (d.lane stream).slot.Tally (Entry.endings stream record) (Entry.answers stream record)

/-- Before anything has happened, nothing is on record. -/
lemma Drains.Unheard.tally {d : Drains} (h : d.Unheard) : Tally [] d := by
  intro stream
  rw [h stream]
  exact ⟨rfl, fun _ hm => absurd hm List.not_mem_nil⟩

/-- A task that goes on changes only its own slot, and the slot only if the task ends. -/
lemma Drains.work_tally {record : List Entry} {d : Drains} (stream : Stream) (task : Drain)
    (h : Tally record d) : Tally (record ++ d.ends stream task) (d.work stream task) := by
  intro other
  rw [Entry.endings_append, Entry.answers_append, Drains.ends, Entry.answers_ended,
    List.append_nil]
  by_cases hs : other = stream
  · subst hs
    rw [Entry.endings_ended, Drains.work, Drains.put_same]
    exact (h other).carry task
  · rw [Entry.endings_ended_other (Ne.symm hs), List.append_nil, Drains.work,
      Drains.put_other _ _ hs]
    exact h other

/-- **The tally is kept.** -/
theorem kept_tally : Moment.Kept Tally where
  work := Drains.work_tally
  join := by
    intro record d h stream
    rw [Entry.endings_append, Entry.answers_append, d.asks_endings, List.append_nil]
    rcases d.join_slot stream with ⟨hasks, hslot⟩ | ⟨hasks, hslot⟩
    · rw [hasks, hslot]
      exact (h stream).finish
    · rw [hasks, hslot, List.append_nil]
      exact h stream
  stop := by
    intro record d h stream
    rw [Drains.requestStop_lane]
    exact h stream

/-- A result that is in its slot stays there. -/
lemma kept_done (stream : Stream) (result : DrainResult) :
    Moment.Kept fun _ d => (d.lane stream).slot = .done result where
  work := by
    intro _ d other task h
    by_cases hs : stream = other
    · subst hs
      rw [Drains.work, Drains.put_same]
      exact Lane.carry_done h task
    · rw [Drains.work, Drains.put_other _ _ hs]
      exact h
  join := by
    intro _ d h
    rcases d.join_slot stream with ⟨-, hslot⟩ | ⟨-, hslot⟩
    · rw [hslot, h]
      rfl
    · rw [hslot, h]
  stop := by
    intro _ d h
    rw [Drains.requestStop_lane]
    exact h

lemma Moment.History.done {m m' : Moment} {entries : List Entry} {stream : Stream}
    {result : DrainResult} (hist : Moment.History m entries m')
    (h : (m.drains.lane stream).slot = .done result) :
    (m'.drains.lane stream).slot = .done result :=
  @Moment.Kept.history _ m m' [] entries (kept_done stream result) hist h

/-- Once both results are in their slots, they stay there. -/
lemma Drains.Joined.history {m m' : Moment} {entries : List Entry} (h : m.drains.Joined)
    (hist : Moment.History m entries m') : m'.drains.Joined := by
  intro stream
  have hdone := h stream
  cases hslot : (m.drains.lane stream).slot with
  | running handle =>
      rw [hslot] at hdone
      cases hdone
  | done result =>
      rw [hist.done hslot]
      rfl

end Capture

namespace Supervisor

open Program
open Capture (Captured Drains Polled DrainResult Moment Entry)

/-! ## Supervised runs -/

namespace Scene

lemma Answers.joined {s t : Scene} {deadline : Instant}
    (h : s.Answers ⟨.joinUntil deadline, true⟩ t) : t.drains.Joined := by
  cases h with
  | fit meanwhile fits =>
      cases fits with
      | join hj h => exact Drains.join_joined hj

lemma Answers.stopped {s t : Scene} (h : s.Answers ⟨.stopDrains, ()⟩ t) : t.drains.Joined := by
  cases h with
  | fit meanwhile fits => cases fits
  | stopDrains meanwhile joined => exact Drains.join_joined joined

/-- The captures are taken over only when both results are in. -/
def Punctual (e : Exchange Scene) : Prop := e.turn.request = .collect → e.before.drains.Joined

lemma punctual_of_middle {e : Exchange Scene} (h : e.turn.request.Middle) : Punctual e := by
  intro he
  rw [he] at h
  exact h.elim

/-- A program that has both results in when it ends, and takes over no capture before. -/
def EndsJoined {α : Type} (p : Program α) : Prop :=
  ∀ s, p.Always Answers Punctual (fun _ t => t.drains.Joined) s

/-- Waiting for the drains until a deadline, and stopping them where that was in vain. -/
lemma endsJoined_join {α : Type} {f : Bool → Program α} {deadline : Instant} {x : α}
    (found : f true = .done x) (missing : EndsJoined (f false)) :
    EndsJoined ((joinUntil deadline).bind f) := by
  refine fun s => .request fun joined t answered => ⟨punctual_of_middle trivial, ?_⟩
  cases joined with
  | true =>
      rw [found]
      exact answered.joined
  | false => exact missing t

lemma stopDrains_joined : EndsJoined stopDrains :=
  fun _ _ _ answered => ⟨punctual_of_middle trivial, answered.stopped⟩

lemma endsJoined_stop {α : Type} (x : α) : EndsJoined (stopDrains.bind fun _ => .done x) :=
  fun _ => .request fun _ _ answered => ⟨punctual_of_middle trivial, answered.stopped⟩

/-- A step before that takes over no capture. -/
lemma EndsJoined.after {α : Type} {r : Request} {f : r.Answer → Program α} (hr : r.Middle)
    (hf : ∀ a, EndsJoined (f a)) : EndsJoined ((Program.request r).bind f) :=
  fun _ => .request fun a t _ => ⟨punctual_of_middle hr, hf a t⟩

lemma windUp_joined (pid : Option Nat) (deadline : Instant) : EndsJoined (windUp pid deadline) := by
  simp only [windUp, bind_eq, pure_eq]
  refine endsJoined_join (by rfl) ?_
  cases pid with
  | none => exact stopDrains_joined
  | some child => exact .after trivial fun _ => stopDrains_joined

lemma awaitDrains_joined (limits : Limits) : EndsJoined (awaitDrains limits) := by
  simp only [awaitDrains, bind_eq, pure_eq]
  refine .after trivial fun now s => .later fun drainEnd _ => ?_
  exact endsJoined_join (by rfl) (endsJoined_stop _) s

lemma timeOut_joined (limits : Limits) (group : Int) : EndsJoined (timeOut limits group) := by
  have drained := awaitDrains_joined limits
  have unhurried {α : Type} {p : Program α} (hp : p.Asks Request.Middle fun _ => True)
      {q : α → Program RunStatus} (hq : ∀ x, EndsJoined (q x)) : EndsJoined (p.bind q) :=
    fun s => .bind (.of_asks hp (fun _ => punctual_of_middle) s) fun x t _ => hq x t
  simp only [timeOut, bind_eq]
  refine .after trivial fun now s => .later fun graceEnd _ => ?_
  refine EndsJoined.after (r := .exitUntil graceEnd) trivial (fun _ => ?_) s
  split
  · refine unhurried (groupOutlives_asks group graceEnd) fun outlived => ?_
    split
    · exact unhurried (escalate_asks group limits.killGrace) fun _ => drained
    · exact drained
  · exact drained

/-- Whatever follows the deadline of a child that has a number ends with both results in. -/
lemma expire_joined (limits : Limits) (child : Nat) : EndsJoined (expire limits (some child)) := by
  rw [expire_some]
  refine fun s => .bind (.of_asks (killGroup_asks child) (fun _ => punctual_of_middle) s)
    fun verdict t _ => ?_
  cases verdict with
  | error failure =>
      exact EndsJoined.after (r := .killChild) trivial (fun _ => endsJoined_stop _) t
  | ok group => exact timeOut_joined limits group t

/-- **Both results are in when a run takes over the captures.** -/
theorem run_joined {limits : Limits} {script : String} {p : Program Outcome} {s t : Scene}
    {exchanges : List (Exchange Scene)}
    (course : Dialogue Answers (run limits script) s exchanges p t) :
    ∀ e ∈ exchanges, Punctual e := by
  have concluded (status : RunStatus) (pid : Option Nat) (began : Timestamp) (start : Instant)
      (u : Scene) (hu : u.drains.Joined) :
      (conclude status pid began start).Always Answers Punctual (fun _ _ => True) u :=
    .request fun both v _ => ⟨fun _ => hu, .request fun now w _ => ⟨fun h => (by cases h), trivial⟩⟩
  have final (path : Bytes) (cause : IoError) (began : Timestamp) (start : Instant) (u : Scene) :
      (notLaunched path cause began start).Always Answers Punctual (fun _ _ => True) u :=
    .request fun now v _ => ⟨fun h => (by cases h), trivial⟩
  suffices h : (run limits script).Always Answers Punctual (fun _ _ => True) s from
    (h.sound course).1
  simp only [run, bind_eq]
  refine .request fun began s₁ _ => ⟨fun h => (by cases h), .request fun start s₂ _ =>
    ⟨fun h => (by cases h), ?_⟩⟩
  cases hpath : Script.normalize script with
  | none => exact final _ _ _ _ _
  | some path =>
      refine .request fun launched s₃ hlaunch => ⟨fun h => (by cases h), ?_⟩
      cases launched with
      | error cause => exact final _ _ _ _ _
      | ok pid =>
          obtain ⟨child, rfl⟩ := hlaunch.numbered
          refine .later fun deadline hdeadline => .request fun raced s₄ _ =>
            ⟨fun h => (by cases h), ?_⟩
          cases raced with
          | some waited =>
              exact .bind (windUp_joined _ deadline s₄) fun _ u hu => concluded _ _ _ _ u hu
          | none =>
              exact .bind (expire_joined limits child s₄) fun _ u hu => concluded _ _ _ _ u hu

end Scene

/-! ## The results -/

/-- **No result is lost, and none is asked for twice.**  Whatever calls wait for the results, in
    any order, broken off wherever they were suspended, and whenever the tasks end:

    * of the questions that a handle was asked only the last can have been answered, and none was
      a misuse;
    * a slot that holds a result keeps it;
    * a wait until a deadline that says so has found both results in their slots, and from then on
      such a wait finds them at once, however long its deadline has passed, and changes nothing;
    * the captures can be taken over as soon as both tasks have ended, and that of each stream is
      what its own task has left, or empty with the report of its crash if that task has crashed.

    A supervised run takes them over only when both results are in their slots. -/
theorem results_kept {m m' : Moment} {entries : List Entry} (unheard : m.drains.Unheard)
    (history : Moment.History m entries m') :
    (∀ stream, (Entry.answers stream entries).Pairwise (fun earlier _ => earlier = .pending) ∧
      .misused ∉ Entry.answers stream entries) ∧
    (∀ stream result later m₁, (m'.drains.lane stream).slot = .done result →
      Moment.History m' later m₁ → (m₁.drains.lane stream).slot = .done result) ∧
    (∀ deadline asked m₁, Moment.Wait (some deadline) m' asked (some true) m₁ →
      m₁.drains.Joined) ∧
    (m'.drains.Joined → ∀ later m₁, Moment.History m' later m₁ →
      ∀ deadline asked answer m₂, Moment.Wait (some deadline) m₁ asked answer m₂ ↔
        asked = [] ∧ answer = some true ∧ m₂ = m₁) ∧
    ((∀ stream, Entry.endings stream entries ≠ []) → ∃ both, m'.drains.collect? = some both) ∧
    (∀ both, m'.drains.collect? = some both → ∀ stream, ∃ result,
      Entry.endings stream entries = [result] ∧
      match result with
      | .drained captured failure => stream.pick both = ⟨captured, failure⟩
      | .crashed report => stream.pick both = ⟨[], some (.custom .other report)⟩) ∧
    (∀ limits script s exchanges q t,
      Dialogue Scene.Answers (run limits script) s exchanges q t →
      ∀ e ∈ exchanges, e.turn.request = .collect → e.before.drains.Joined) := by
  have tally : Capture.Tally entries m'.drains := Capture.kept_tally.history history unheard.tally
  refine ⟨fun stream => (tally stream).answered, ?_, fun _ _ _ wait => wait.joined_of_true, ?_, ?_,
    ?_, fun _ _ _ _ _ _ course => Scene.run_joined course⟩
  · intro stream result later m₁ hdone hlater
    exact hlater.done hdone
  · intro hjoined later m₁ hlater deadline asked answer m₂
    exact Moment.wait_of_joined (hjoined.history hlater)
  · intro hended
    refine Drains.collect_of_each fun stream => ?_
    obtain ⟨result, hresult⟩ := (tally stream).ended (hended stream)
    exact ⟨_, ((tally stream).collect _).mpr ⟨result, hresult, rfl⟩⟩
  · intro both hboth stream
    obtain ⟨result, hresult, hpick⟩ :=
      ((tally stream).collect _).mp (Drains.collect_iff.mp hboth stream)
    refine ⟨result, hresult, ?_⟩
    rw [hpick]
    cases result with
    | drained captured failure => rfl
    | crashed report => rfl

/-- The task of stdout ends, a wait is dropped between the two results, and the task of stderr
    crashes: the next wait finds both.  And a script that exits at once has both results in when
    its captures are taken over. -/
theorem results_of_dropped_wait :
    ∃ (m m' : Moment) (entries : List Entry) (both : Captured × Captured), m.drains.Unheard ∧
      Moment.History m entries m' ∧
      Entry.answers .stdout entries = [.ready (.drained [104] none)] ∧
      Entry.answers .stderr entries = [.pending, .ready (.crashed "out of range")] ∧
      m'.drains.collect? = some both ∧ both.1 = ⟨[104], none⟩ ∧
      both.2 = ⟨[], some (.custom .other "out of range")⟩ ∧
      ∃ (s t : Scene) (exchanges : List (Exchange Scene)) (outcome : Outcome),
        Dialogue Scene.Answers (run ⟨.ofSeconds 1, .ofMillis 200, true⟩ "./true") s exchanges
          (.done outcome) t ∧
        ∃ e ∈ exchanges, e.turn.request = .collect ∧ e.before.drains.Joined := by
  have unheard : (Drains.start (.ofBehaviour .obliging) (.ofBehaviour .obliging)).Unheard := by
    intro stream
    cases stream <;> rfl
  let failing : Capture.Behaviour := ⟨fun _ => .crash, fun _ => .accept none, "out of range"⟩
  have history : Moment.History ⟨⟨0⟩, .start (.ofBehaviour .obliging) (.ofBehaviour .obliging)⟩ _ _ :=
    .elapse (.work .stdout ⟨.finished, ⟨[[104]], .ofBehaviour .obliging⟩, none⟩) <|
    .call (.joinUntil ⟨5⟩) (.suspended rfl) <|
    .elapse (.work .stderr ⟨.crashed, .ofDestination (.ofBehaviour failing), none⟩) <|
    .call .stop (.joined rfl) <|
    .still _
  have course : Dialogue Scene.Answers (run ⟨.ofSeconds 1, .ofMillis 200, true⟩ "./true")
      (.opening .obliging .obliging) _ (.done _) _ :=
    .turn (.fit .refl (.wallClock _ ⟨0, 0⟩)) <|
    .turn (.fit .refl (.clock _)) <|
    .turn (.fit .refl (.launched 7 (by decide) (by decide) (by decide))) <|
    .turn (.fit
      (.head (.exit rfl) <|
        .head (.shut .stdout rfl) <|
        .head (.shut .stderr rfl) <|
        .head (.drain .stdout rfl (.work (.closed rfl rfl))) <|
        .head (.drain .stderr rfl (.work (.closed rfl rfl))) <|
        .head (.drain .stdout rfl (.work (.notReady _))) <|
        .head (.drain .stderr rfl (.work (.notReady _))) .refl)
      (.exited _ 0 rfl)) <|
    .turn (.fit .refl (.join rfl nofun)) <|
    .turn (.fit .refl (.collect rfl)) <|
    .turn (.fit .refl (.clock _)) <|
    .start _ _
  obtain ⟨-, -, -, -, hcollect, hboth, hrun⟩ := results_kept unheard history
  obtain ⟨both, hcollected⟩ := hcollect fun stream => by
    cases stream <;> exact List.cons_ne_nil _ _
  obtain ⟨_, hout, hpick⟩ := hboth both hcollected .stdout
  obtain ⟨_, herr, hcrashed⟩ := hboth both hcollected .stderr
  cases hout
  cases herr
  exact ⟨_, _, _, both, unheard, history, rfl, rfl, hcollected, hpick, hcrashed,
    _, _, _, _, course, _, List.mem_append_right [_, _, _, _, _] List.mem_cons_self, rfl,
    hrun _ _ _ _ _ _ course _ (List.mem_append_right [_, _, _, _, _] List.mem_cons_self) rfl⟩

end Supervisor

end Curfew
