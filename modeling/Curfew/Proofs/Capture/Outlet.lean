import Mathlib.Tactic.Common
import Curfew.Capture.Drains
import Curfew.Proofs.Capture.Delivery

/-!
# Outlets

A drain at work on a pipe that others write into.  Here the pipe is what the system makes of it: a
queue of bytes, which remembers what was written, by whom, and whether anybody still holds its
other end.

* **`Channel`** and **`Channel.Yields`** — such a pipe, and what a read may find there.  How many
  of the bytes a read yields is left open, and so is whether it fails.
* **`Outlet.Step`** — a drain on a channel takes a step, or obeys a request to stop.
* **`Outlet.Sound`** — the drain holds a first part of what was written, the rest waits in the
  channel, and a drain that has come to the end holds all.  Steps keep an outlet sound
  (`Step.sound`), and so does writing (`Sound.write`).
-/

namespace Curfew.Capture

/-! ## Channels -/

inductive Writer
  | script
  /-- A process that the script has handed its stream to. -/
  | heir
deriving DecidableEq, Repr

structure Channel where
  /-- What was written and not read yet. -/
  buffered : Bytes
  /-- Everything that was written, oldest first. -/
  written : List (Writer × Bytes)
  isOpen : Bool

namespace Channel

def fresh : Channel := ⟨[], [], true⟩

/-- All bytes that were written, in order. -/
def bytes (c : Channel) : Bytes := (c.written.map Prod.snd).flatten

/-- The bytes that the script itself has written, in order. -/
def scriptBytes (c : Channel) : Bytes :=
  ((c.written.filter fun entry => entry.1 = .script).map Prod.snd).flatten

/-- Writes at the far end. -/
def write (c : Channel) (who : Writer) (bytes : Bytes) : Channel :=
  { c with buffered := c.buffered ++ bytes, written := c.written ++ [(who, bytes)] }

/-- The last holder of the far end lets go of it. -/
def shut (c : Channel) : Channel := { c with isOpen := false }

lemma write_bytes (c : Channel) (who : Writer) (bytes : Bytes) :
    (c.write who bytes).bytes = c.bytes ++ bytes := by
  simp [write, Channel.bytes]

/-- Where nobody else has written, the bytes are those of the script. -/
lemma bytes_of_script {c : Channel} (h : ∀ entry ∈ c.written, entry.1 = .script) :
    c.bytes = c.scriptBytes := by
  have hall : c.written.filter (fun entry => entry.1 = .script) = c.written :=
    List.filter_eq_self.mpr fun entry he => decide_eq_true (h entry he)
  rw [bytes, scriptBytes, hall]

/-- What a read may find, and what it leaves. -/
inductive Yields : Channel → ReadReply → Channel → Prop
  /-- At most a chunk of the bytes that came first. -/
  | data {c : Channel} (chunk rest : Bytes) (hb : c.buffered = chunk ++ rest)
      (hpos : 0 < chunk.length) (hmax : chunk.length ≤ chunkSize) :
      Yields c (.data chunk) { c with buffered := rest }
  /-- The end, once everything is read and nobody can write any more. -/
  | closed {c : Channel} (hb : c.buffered = []) (ho : c.isOpen = false) : Yields c .closed c
  | failed (c : Channel) (cause : IoError) : Yields c (.failed cause) c
  | notReady (c : Channel) : Yields c .notReady c
  | stalled (c : Channel) : Yields c .stalled c

/-- A read takes its bytes from the front, and leaves the history alone. -/
lemma Yields.takes {c c' : Channel} {reply : ReadReply} (h : c.Yields reply c') :
    reply.chunks.flatten ++ c'.buffered = c.buffered ∧ c'.bytes = c.bytes ∧
      c'.isOpen = c.isOpen := by
  cases h with
  | data chunk rest hb hpos hmax => exact ⟨by simp [ReadReply.chunks, hb], rfl, rfl⟩
  | _ => exact ⟨rfl, rfl, rfl⟩

/-- A read that ends the reading has failed, or has found the end. -/
lemma Yields.ends {c c' : Channel} {reply : ReadReply} (h : c.Yields reply c')
    (he : reply.ends = true) :
    (∃ cause, reply = .failed cause) ∨ (c.buffered = [] ∧ c.isOpen = false) := by
  cases h with
  | data chunk rest hb hpos hmax =>
      rw [ReadReply.ends, List.isEmpty_iff] at he
      rw [he] at hpos
      exact absurd hpos (Nat.lt_irrefl 0)
  | closed hb ho => exact .inr ⟨hb, ho⟩
  | failed cause => exact .inl ⟨cause, rfl⟩
  | notReady => cases he
  | stalled => cases he

end Channel

/-! ## Lanes -/

def Slot.left? : Slot → Option DrainResult
  | .running (.ready result) => some result
  | .running .pending => none
  | .running .spent => none
  | .done result => some result

/-- Asking a slot moves its result and does not change it. -/
lemma Slot.finish_left (s : Slot) : s.finish.2.left? = s.left? := by
  cases s with
  | running handle => cases handle <;> rfl
  | done result => rfl

lemma Slot.collect_left {s : Slot} {captured : Captured} (h : s.collect? = some captured) :
    ∃ result, s.left? = some result ∧ captured = .ofResult result := by
  cases s with
  | running handle =>
      cases handle with
      | ready result => exact ⟨result, rfl, (Option.some.inj h).symm⟩
      | pending => cases h
      | spent => cases h
  | done result => exact ⟨result, rfl, (Option.some.inj h).symm⟩

namespace Lane

/-- A slot holds nothing but the result of its task. -/
def Agrees (l : Lane) : Prop := ∀ result, l.slot.left? = some result → l.task.result? = some result

/-- The lane whose task has gone on to `task`. -/
def carry (l : Lane) (task : Drain) : Lane := noteEnd { l with task := task }

@[simp] lemma carry_task (l : Lane) (task : Drain) : (l.carry task).task = task := by
  simp only [carry, noteEnd]
  cases task.result? <;> rfl

/-- A task that goes on leaves its slot alone. -/
lemma carry_of_unended (l : Lane) {task : Drain} (h : task.result? = none) :
    l.carry task = { l with task := task } := by
  simp only [carry, noteEnd, h]

/-- A task that has ended leaves its result in its slot. -/
lemma carry_of_ended (l : Lane) {task : Drain} {result : DrainResult}
    (h : task.result? = some result) : l.carry task = ⟨task, l.slot.complete result⟩ := by
  simp only [carry, noteEnd, h]

/-- A lane agrees as long as a task that has ended is left alone. -/
lemma Agrees.carry {l : Lane} {task : Drain} (h : l.Agrees)
    (keep : ∀ result, l.task.result? = some result → task.result? = some result) :
    (l.carry task).Agrees := by
  intro result hr
  rw [carry_task]
  cases ht : task.result? with
  | none =>
      rw [carry_of_unended l ht] at hr
      rw [← ht]
      exact keep result (h result hr)
  | some ended =>
      rw [carry_of_ended l ht] at hr
      obtain ⟨old, slot⟩ := l
      cases slot with
      | running handle =>
          cases handle with
          | pending => exact hr
          | ready earlier =>
              rw [← ht]
              exact keep result (h result hr)
          | spent => cases hr
      | done earlier =>
          rw [← ht]
          exact keep result (h result hr)

end Lane

/-! ## Outlets -/

/-- A lane, and the channel that its drain reads. -/
structure Outlet where
  lane : Lane
  channel : Channel

namespace Outlet

/-- The drain takes a step.  If it reads, it finds `reply`, and `left` stays in the channel. -/
def work (o : Outlet) (reply : ReadReply) (left : Channel) : Outlet :=
  let step := o.lane.task.step (fun _ => (reply, left)) o.channel
  ⟨o.lane.carry step.2.1, step.2.2⟩

/-- What a drain can do next, given whether it was told to stop.  A request to stop is obeyed
    wherever it is looked at, even if the drain could go on. -/
inductive Step (stop : Bool) : Outlet → Outlet → Prop
  | work {o : Outlet} {reply : ReadReply} {left : Channel} (found : o.channel.Yields reply left) :
      Step stop o (o.work reply left)
  | heed {o : Outlet} (told : stop = true) (heeds : Drain.Phase.heeds o.lane.task.phase = true) :
      Step stop o ⟨o.lane.carry o.lane.task.heed, o.channel⟩

/-- What is true of an outlet at any time. -/
structure Sound (stop : Bool) (o : Outlet) : Prop where
  agrees : o.lane.Agrees
  /-- What is not read yet is in the channel. -/
  live : o.lane.task.phase.pastEnd = false → o.lane.task.phase.severed = false →
    o.lane.task.held ++ o.channel.buffered = o.channel.bytes
  /-- A drain that has found the end has everything, and nothing more can come. -/
  whole : o.lane.task.phase.pastEnd = true → o.lane.task.failure = none →
    o.lane.task.held = o.channel.bytes ∧ o.channel.isOpen = false
  part : o.lane.task.held <+: o.channel.bytes
  loyal : o.lane.task.Loyal
  /-- Only a drain that was told to stop is cut off. -/
  told : o.lane.task.phase = .cutOff → stop = true

variable {stop : Bool} {o o' : Outlet}

/-- A result that a task has left stays what it is. -/
lemma Step.result {result : DrainResult} (h : Step stop o o')
    (hr : o.lane.task.result? = some result) : o'.lane.task.result? = some result := by
  cases h with
  | work found =>
      rw [Outlet.work, Lane.carry_task, Drain.step_of_ended (by rw [hr]; rfl)]
      exact hr
  | heed told heeds =>
      simp only [Lane.carry_task]
      cases hp : o.lane.task.phase <;> simp_all [Drain.result?, Drain.Phase.heeds]

/-- A step that reads keeps an outlet sound. -/
lemma Sound.read {reply : ReadReply} {left : Channel} (h : o.Sound stop)
    (hr : o.lane.task.phase = .reading) (found : o.channel.Yields reply left) :
    (o.work reply left).Sound stop := by
  obtain ⟨htake, hbytes, hopen⟩ := found.takes
  obtain ⟨hheld, hpast⟩ := Drain.receive_held hr reply
  have hlive : o.lane.task.held ++ o.channel.buffered = o.channel.bytes :=
    h.live (by rw [hr]; rfl) (by rw [hr]; rfl)
  have hread : (o.lane.task.receive reply).2.held ++ left.buffered = o.channel.bytes := by
    rw [hheld, List.append_assoc, htake, ← hlive, Drain.held_of_inHand (by rw [hr]; rfl)]
  have hwork : o.work reply left = ⟨o.lane.carry (o.lane.task.receive reply).2, left⟩ := by
    simp only [Outlet.work, Drain.step_reading hr]
  rw [hwork]
  refine ⟨h.agrees.carry fun result hres => ?_, ?_, ?_, ?_, ?_, ?_⟩
  · rw [Drain.result?, hr] at hres
    cases hres
  · intro _ _
    rw [Lane.carry_task, hread, hbytes]
  · intro hp hf
    rw [Lane.carry_task] at hp hf ⊢
    rw [hpast] at hp
    rcases found.ends hp with ⟨cause, rfl⟩ | ⟨hb, ho⟩
    · exact absurd hf (Drain.record_failure _ cause)
    · rw [hb, List.append_eq_nil_iff] at htake
      rw [htake.2, List.append_nil] at hread
      rw [hread, hbytes, hopen]
      exact ⟨rfl, ho⟩
  · rw [Lane.carry_task, hbytes]
    exact ⟨_, hread⟩
  · rw [Lane.carry_task]
    exact Drain.receive_loyal hr h.loyal reply
  · intro hc
    rw [Lane.carry_task] at hc
    exact absurd hc (Drain.receive_ne_cutOff (by rw [hr]; exact Phase.noConfusion) reply)

/-- A step that does not read keeps an outlet sound: it changes neither what the drain holds nor
    the channel. -/
lemma Sound.advance {reply : ReadReply} {left : Channel} (h : o.Sound stop)
    (hr : o.lane.task.phase ≠ .reading) : (o.work reply left).Sound stop := by
  have hwork : o.work reply left = ⟨o.lane.carry o.lane.task.advance.2, o.channel⟩ := by
    simp only [Outlet.work, Drain.step_of_ne_reading hr]
  have hheld := Drain.advance_held o.lane.task
  have hended (hres : o.lane.task.result?.isSome) : o.lane.task.advance.2 = o.lane.task := by
    rw [Drain.advance_of_ended hres]
  have hpast (hc : o.lane.task.advance.2.phase ≠ .crashed) := Drain.advance_pastEnd hr hc
  rw [hwork]
  refine ⟨h.agrees.carry fun result hres => ?_, ?_, ?_, ?_, ?_, ?_⟩
  · rw [hended (by rw [hres]; rfl)]
    exact hres
  · intro hp hs
    rw [Lane.carry_task] at hp hs ⊢
    rw [hheld]
    have hc : o.lane.task.advance.2.phase ≠ .crashed := by
      intro hc
      rw [hc] at hs
      cases hs
    refine h.live (by rw [← hpast hc, hp]) ?_
    by_contra hsev
    rw [Bool.not_eq_false] at hsev
    have hres : o.lane.task.result?.isSome := by
      cases hp : o.lane.task.phase <;> simp_all [Drain.result?, Phase.severed]
    rw [hended hres, hsev] at hs
    cases hs
  · intro hp hf
    rw [Lane.carry_task] at hp hf ⊢
    rw [hheld]
    have hc : o.lane.task.advance.2.phase ≠ .crashed := by
      intro hc
      rw [hc] at hp
      cases hp
    exact h.whole (by rw [← hpast hc, hp]) (Drain.unfailed_of_advance hf)
  · rw [Lane.carry_task, hheld]
    exact h.part
  · rw [Lane.carry_task]
    exact Drain.advance_loyal h.loyal
  · intro hcut
    rw [Lane.carry_task] at hcut
    refine h.told ?_
    by_contra hne
    exact Drain.advance_ne_cutOff hne hcut

/-- Obeying a request to stop keeps an outlet sound. -/
lemma Sound.heed (h : o.Sound stop) (told : stop = true)
    (heeds : Drain.Phase.heeds o.lane.task.phase = true) :
    Sound stop ⟨o.lane.carry o.lane.task.heed, o.channel⟩ := by
  have hheld := Drain.heed_held o.lane.task
  refine ⟨h.agrees.carry fun result hres => ?_, ?_, ?_, ?_, ?_, fun _ => told⟩
  · have kept := (Step.heed told heeds).result hres
    rwa [Lane.carry_task] at kept
  · intro hp hs
    rw [Lane.carry_task] at hp hs
    cases hph : o.lane.task.phase <;>
      simp_all [Drain.heed, Drain.Phase.heeds, Phase.pastEnd, Phase.severed]
  · intro hp hf
    rw [Lane.carry_task] at hp hf ⊢
    rw [Drain.heed_pastEnd] at hp
    rw [Drain.heed_failure] at hf
    have hin : o.lane.task.phase.inHand = [] := by
      cases hph : o.lane.task.phase <;> rw [hph] at hp <;> first | rfl | cases hp
    rw [hheld, ← Drain.held_of_inHand hin]
    exact h.whole hp hf
  · rw [Lane.carry_task, hheld]
    exact (List.prefix_append _ _).trans h.part
  · rw [Lane.carry_task]
    exact Drain.heed_loyal h.loyal

/-- **Steps keep an outlet sound.** -/
theorem Step.sound (h : Step stop o o') (hs : o.Sound stop) : o'.Sound stop := by
  cases h with
  | @work reply left found =>
      by_cases hr : o.lane.task.phase = .reading
      · exact hs.read hr found
      · exact hs.advance hr
  | heed told heeds => exact hs.heed told heeds

/-- Writing into an open channel keeps an outlet sound. -/
lemma Sound.write (h : o.Sound stop) (isOpen : o.channel.isOpen = true) (who : Writer)
    (bytes : Bytes) : Sound stop ⟨o.lane, o.channel.write who bytes⟩ := by
  refine ⟨h.agrees, fun hp hs => ?_, fun hp hf => ?_, ?_, h.loyal, h.told⟩
  · rw [Channel.write_bytes, ← h.live hp hs, List.append_assoc]
    rfl
  · have shut := (h.whole hp hf).2
    rw [isOpen] at shut
    cases shut
  · rw [Channel.write_bytes]
    exact h.part.trans (List.prefix_append _ _)

lemma Sound.shut (h : o.Sound stop) : Sound stop ⟨o.lane, o.channel.shut⟩ :=
  ⟨h.agrees, h.live, fun hp hf => ⟨(h.whole hp hf).1, rfl⟩, h.part, h.loyal, h.told⟩

/-- A request to stop makes nothing unsound by itself. -/
lemma Sound.tell (h : o.Sound stop) : o.Sound true :=
  ⟨h.agrees, h.live, h.whole, h.part, h.loyal, fun _ => rfl⟩

/-- Asking the slot keeps an outlet sound. -/
lemma Sound.ask (h : o.Sound stop) :
    Sound stop ⟨{ o.lane with slot := o.lane.slot.finish.2 }, o.channel⟩ :=
  ⟨fun result hr => h.agrees result (by rwa [Slot.finish_left] at hr), h.live, h.whole, h.part,
    h.loyal, h.told⟩

/-- An outlet about to start is sound. -/
lemma Sound.start (b : Behaviour) : Sound stop ⟨.start (.ofBehaviour b), .fresh⟩ where
  agrees := fun _ h => absurd h (by simp [Slot.left?, Lane.start])
  live := fun _ _ => rfl
  whole := fun h => Bool.noConfusion h
  part := List.prefix_refl _
  loyal := .of_whole fun _ => rfl
  told := fun h => Phase.noConfusion h

/-- So is one whose pipe was never captured, which has failed from the start. -/
lemma Sound.missing (b : Behaviour) : Sound stop ⟨.missing (.ofBehaviour b), .fresh⟩ where
  agrees := fun _ h => absurd h (by simp [Slot.left?, Lane.missing])
  live := fun h => Bool.noConfusion h
  whole := fun _ h => absurd h (by simp [Lane.missing, Drain.missing])
  part := List.prefix_refl _
  loyal := .of_whole fun _ => rfl
  told := fun h => Phase.noConfusion h

/-- **What a drain without failure leaves behind.**  What it captured is a first part of what was
    written, and what its destination accepted a first part of that.  Unless it was cut off, both
    are everything. -/
theorem Sound.served {captured : Bytes} (h : o.Sound stop)
    (hr : o.lane.task.result? = some (.drained captured none)) :
    captured <+: o.channel.bytes ∧ o.lane.task.delivered <+: captured ∧
      (o.lane.task.phase ≠ .cutOff →
        captured = o.channel.bytes ∧ o.lane.task.delivered = o.channel.bytes) := by
  obtain ⟨hcap, hf, hend⟩ := Drain.result?_drained hr
  have hsnap : captured = o.lane.task.sink.snapshot := Drain.result?_copied hr
  refine ⟨hcap ▸ h.part, hsnap ▸ h.loyal.part hf.symm, fun hcut => ?_⟩
  have hp : o.lane.task.phase = .finished := hend.resolve_right hcut
  have hall : captured = o.channel.bytes := by
    rw [hcap]
    exact (h.whole (by rw [hp]; rfl) hf.symm).1
  have hdelivered : o.lane.task.delivered ++ [] = o.lane.task.sink.snapshot :=
    h.loyal.owes hp rfl hf.symm
  rw [List.append_nil] at hdelivered
  exact ⟨hall, by rw [hdelivered, ← hsnap, hall]⟩

end Outlet

end Curfew.Capture
