import Curfew.Proofs.Supervisor.Invisibility

/-!
# Destinations that no schedule shows

Two runs of the same script whose destinations are prompt, where the drains may be scheduled in any
way: a drain may take a step or not, read as much as it likes of what is there, and look at a
request to stop before anything else.  Whatever is chosen in one run can be chosen in the other.

* **`Drain.Abreast`** — two drains of the same pipe.  They stand at the same place, or the first has
  more attempts to make before it is back at the pipe, where the second is already.
* **`Scene.Abreast`** — scenes that are the same but for what the destinations have answered.
* `Abreast.step`, `Abreast.happens`, `Abreast.answers` — whatever happens to the first can happen to
  the second, and the same is answered, but for the failures that come with the captures.
* **`invisible_on_schedule`** — every run has its match.
-/

namespace Curfew

open Relation (ReflTransGen)

namespace Capture

/-! ## Drains -/

/-- Where a drain with a prompt destination can stand, other than in the middle of a forward. -/
def Phase.atRest : Phase → Bool
  | .reading => true
  | .holding _ => true
  | .flushing => true
  | .finished => true
  | .cutOff => true
  | _ => false

/-- How two drains of the same pipe stand to each other, by their phases. -/
inductive Stance (phase phase' : Phase) : Prop
  | level (same : phase' = phase) (rests : phase.atRest = true) : Stance phase phase'
  /-- The first has still to forward what the second has forwarded already. -/
  | ahead {rest : Bytes} (pushing : phase = .pushing rest) (reading : phase' = .reading) :
      Stance phase phase'

/-- Two drains that have read the same of the same pipe, with destinations that answer at once. -/
structure Drain.Abreast (d e : Drain) : Prop where
  stance : Stance d.phase e.phase
  kept : d.sink.kept = e.sink.kept
  prompt : d.sink.destination.behaviour.Prompt
  prompt' : e.sink.destination.behaviour.Prompt

namespace Drain

variable {d e : Drain}

namespace Abreast

/-- The second leaves behind what the first does, but for the failure. -/
lemma result (h : d.Abreast e) :
    d.result?.map DrainResult.mask = e.result?.map DrainResult.mask := by
  cases h.stance with
  | level same rests =>
      rw [← mask_result, ← mask_result]
      simp only [mask, same, h.kept]
  | ahead pushing reading => simp only [result?, pushing, reading]

lemma uncrashed (h : d.Abreast e) : d.phase ≠ .crashed ∧ e.phase ≠ .crashed := by
  cases h.stance with
  | level same rests =>
      have hne : d.phase ≠ .crashed := by
        intro hp
        rw [hp] at rests
        cases rests
      exact ⟨hne, same ▸ hne⟩
  | ahead pushing reading =>
      rw [pushing, reading]
      exact ⟨Phase.noConfusion, Phase.noConfusion⟩

/-- If the first obeys a request to stop, the second can obey it as well. -/
lemma heed (h : d.Abreast e) (heeds : Drain.Phase.heeds d.phase = true) :
    Drain.Phase.heeds e.phase = true ∧ d.heed.Abreast e.heed := by
  cases h.stance with
  | level same rests =>
      have obeyed : Stance d.heed.phase e.heed.phase := by
        refine .level ?_ ?_
        · simp only [Drain.heed, same]
          cases d.phase <;> first | rfl | exact same
        · simp only [Drain.heed]
          cases d.phase <;> first | rfl | exact rests
      refine ⟨same ▸ heeds, obeyed, ?_, ?_, ?_⟩
      · rw [heed_sink, heed_sink, h.kept]
      · rw [heed_sink]
        exact h.prompt
      · rw [heed_sink]
        exact h.prompt'
  | ahead pushing reading =>
      rw [pushing] at heeds
      cases heeds

/-- Both take in what the first has read. -/
lemma receive (h : d.Abreast e) (hr : d.phase = .reading) (reply : ReadReply) :
    e.phase = .reading ∧ (d.receive reply).2.Abreast (e.receive reply).2 := by
  cases h.stance with
  | level same rests =>
      refine ⟨same.trans hr, ?_⟩
      cases reply with
      | data chunk =>
          refine ⟨.level rfl ?_, h.kept, h.prompt, h.prompt'⟩
          show Phase.atRest (if chunk.isEmpty then .flushing else .holding chunk) = true
          split <;> rfl
      | closed => exact ⟨.level rfl rfl, h.kept, h.prompt, h.prompt'⟩
      | failed cause => exact ⟨.level rfl rfl, h.kept, h.prompt, h.prompt'⟩
      | notReady => exact h
      | stalled => exact h
  | ahead pushing reading =>
      rw [pushing] at hr
      cases hr

/-- One attempt at forwarding, where the second drain has forwarded all. -/
lemma of_push (prompt : d.sink.destination.behaviour.Prompt)
    (prompt' : e.sink.destination.behaviour.Prompt) (reading : e.phase = .reading)
    (kept : d.sink.kept = e.sink.kept) (rest : Bytes) :
    (d.push rest).2.result? = none ∧ (d.push rest).2.Abreast e := by
  obtain ⟨d₁, hpush, hkept, hb, brief⟩ := push_brief prompt rest
  rw [hpush]
  have abreast (stance : Stance d₁.phase e.phase) : d₁.Abreast e :=
    ⟨stance, hkept.trans kept, by rw [hb]; exact prompt, prompt'⟩
  cases brief with
  | back back =>
      exact ⟨by simp only [result?, back],
        abreast (.level (reading.trans back.symm) (by rw [back]; rfl))⟩
  | part pushing less => exact ⟨by simp only [result?, pushing], abreast (.ahead pushing reading)⟩
  | interrupted pushing next interrupts =>
      exact ⟨by simp only [result?, pushing], abreast (.ahead pushing reading)⟩

/-- Both flush. -/
lemma flush (h : d.Abreast e) : d.flush.2.Abreast e.flush.2 := by
  have flushed {d : Drain} (prompt : d.sink.destination.behaviour.Prompt) :
      d.flush.2.phase = .finished ∧ d.flush.2.sink.kept = d.sink.kept ∧
        d.flush.2.sink.destination.behaviour.Prompt := by
    obtain ⟨same, hdone | ⟨cause, hfailed⟩⟩ := Destination.flushOnce_prompt prompt
    · simp only [Drain.flush, hdone]
      exact ⟨trivial, trivial, same ▸ prompt⟩
    · simp only [Drain.flush, hfailed, record]
      exact ⟨trivial, trivial, same ▸ prompt⟩
  obtain ⟨phase, kept, prompt⟩ := flushed h.prompt
  obtain ⟨phase', kept', prompt'⟩ := flushed h.prompt'
  exact ⟨.level (phase'.trans phase.symm) (by rw [phase]; rfl), by rw [kept, kept', h.kept],
    prompt, prompt'⟩

/-- **One attempt of the first drain**, which is not a read: the second makes one as well, or comes
    back to its pipe at once, or is there already. -/
theorem advance (h : d.Abreast e) (hr : d.phase ≠ .reading) :
    (e.phase ≠ .reading ∧ d.advance.2.Abreast e.advance.2) ∨
      d.advance.2.result? = none ∧ ∃ e', ReflTransGen Advances e e' ∧ d.advance.2.Abreast e' := by
  cases h.stance with
  | level same rests =>
      cases hp : d.phase with
      | holding chunk =>
          -- the second drain makes all the attempts that its destination needs
          have hp' : e.phase = .holding chunk := same.trans hp
          obtain ⟨e', back⟩ :=
            push_returns chunk (d := { e with sink := e.sink.keep chunk }) h.prompt'
          obtain ⟨unended, abreast⟩ :=
            of_push (d := { d with sink := d.sink.keep chunk }) h.prompt
              (by rw [back.behaviour]; exact h.prompt') back.reading
              (by rw [back.kept]; exact congrArg (chunk :: ·) h.kept) chunk
          simp only [Drain.advance, hp]
          refine .inr ⟨unended, e', back.advances ?_ ?_, abreast⟩
          · rw [hp']
            exact Phase.noConfusion
          · simp only [Drain.advance, hp']
      | flushing =>
          left
          simp only [Drain.advance, same, hp]
          exact ⟨Phase.noConfusion, h.flush⟩
      | finished =>
          left
          simp only [Drain.advance, same, hp]
          exact ⟨Phase.noConfusion, h⟩
      | cutOff =>
          left
          simp only [Drain.advance, same, hp]
          exact ⟨Phase.noConfusion, h⟩
      | reading => exact absurd hp hr
      | waiting rest =>
          rw [hp] at rests
          cases rests
      | pushing rest =>
          rw [hp] at rests
          cases rests
      | crashed =>
          rw [hp] at rests
          cases rests
  | @ahead rest pushing reading =>
      obtain ⟨unended, abreast⟩ := of_push h.prompt h.prompt' reading h.kept rest
      simp only [Drain.advance, pushing]
      exact .inr ⟨unended, e, .refl, abreast⟩

end Abreast

end Drain

/-! ## Slots -/

lemma Slot.finish_mask {s k : Slot} (same : s.mask = k.mask) :
    s.finish.1 = k.finish.1 ∧ s.finish.2.mask = k.finish.2.mask := by
  have hs := s.mask_finish
  rw [same, k.mask_finish] at hs
  obtain ⟨hjoined, hslot⟩ := Prod.mk.inj hs
  exact ⟨hjoined.symm, hslot.symm⟩

/-- Slots that are the same but for the failures hand over the same bytes. -/
lemma Slot.collect_mask {s k : Slot} {captured : Captured} (same : s.mask = k.mask)
    (h : s.collect? = some captured) :
    ∃ captured', k.collect? = some captured' ∧ captured.bytes = captured'.bytes := by
  have bytes {result result' : DrainResult} (hr : result.mask = result'.mask) :
      (Captured.ofResult result).bytes = (Captured.ofResult result').bytes := by
    cases result <;> cases result' <;> cases hr <;> rfl
  obtain ⟨result, hleft, rfl⟩ := Slot.collect_left h
  cases s with
  | running handle =>
      cases handle with
      | pending => cases h
      | spent => cases h
      | ready result =>
          cases hleft
          cases k with
          | running other =>
              cases other with
              | pending => cases same
              | spent => cases same
              | ready result' => exact ⟨_, rfl, bytes (by simpa [mask, Handle.mask] using same)⟩
          | done result' => cases same
  | done result =>
      cases hleft
      cases k with
      | running other => cases same
      | done result' => exact ⟨_, rfl, bytes (by simpa [mask] using same)⟩

/-- A task leaves in its slot what it has left, but for the failure. -/
lemma Lane.carry_mask (l : Lane) (task : Drain) :
    (l.carry task).slot.mask =
      ((task.result?.map DrainResult.mask).map l.slot.mask.complete).getD l.slot.mask := by
  cases h : task.result? with
  | none =>
      rw [carry_of_unended l h]
      rfl
  | some result =>
      rw [carry_of_ended l h]
      exact l.slot.mask_complete result

namespace Drains

variable {d e : Drains}

lemma join_task (d : Drains) (stream : Stream) :
    (d.join.2.lane stream).task = (d.lane stream).task := by
  rcases d.join_lane stream with h | h <;> rw [h]

/-- Whether both results are in does not depend on the failures. -/
lemma join_mask (same : ∀ stream, (d.lane stream).slot.mask = (e.lane stream).slot.mask) :
    d.join.1 = e.join.1 ∧
      ∀ stream, (d.join.2.lane stream).slot.mask = (e.join.2.lane stream).slot.mask := by
  obtain ⟨hout, hout'⟩ := Slot.finish_mask (same .stdout)
  obtain ⟨herr, herr'⟩ := Slot.finish_mask (same .stderr)
  simp only [lane] at hout hout' herr herr'
  simp only [join]
  rcases hd : d.stdout.slot.finish with ⟨_ | _, slot⟩ <;>
    rcases he : e.stdout.slot.finish with ⟨_ | _, slot'⟩ <;> rw [hd, he] at hout hout'
  · refine ⟨rfl, fun stream => ?_⟩
    cases stream with
    | stdout => exact hout'
    | stderr => exact same .stderr
  · cases hout
  · cases hout
  · refine ⟨herr, fun stream => ?_⟩
    cases stream with
    | stdout => exact hout'
    | stderr => exact herr'

/-- Both hand over the same bytes, or neither hands over anything. -/
lemma collect_mask (same : ∀ stream, (d.lane stream).slot.mask = (e.lane stream).slot.mask)
    {both : Captured × Captured} (h : d.collect? = some both) :
    ∃ both', e.collect? = some both' ∧
      ∀ stream : Stream, (stream.pick both).bytes = (stream.pick both').bytes := by
  simp only [collect?] at h
  cases hout : d.stdout.slot.collect? <;> cases herr : d.stderr.slot.collect? <;>
    simp only [hout, herr, reduceCtorEq, Option.some.injEq] at h
  obtain ⟨out', hout', outBytes⟩ := Slot.collect_mask (same .stdout) hout
  obtain ⟨err', herr', errBytes⟩ := Slot.collect_mask (same .stderr) herr
  simp only [lane] at hout' herr'
  refine ⟨(out', err'), by simp only [collect?, hout', herr'], fun stream => ?_⟩
  subst h
  cases stream with
  | stdout => exact outBytes
  | stderr => exact errBytes

end Drains

/-! ## Outlets -/

namespace Outlet

/-- Outlets on channels that hold the same, which differ in what the destinations have answered. -/
structure Abreast (o u : Outlet) : Prop where
  channel : o.channel = u.channel
  tasks : o.lane.task.Abreast u.lane.task
  slots : o.lane.slot.mask = u.lane.slot.mask

variable {stop : Bool} {o o' u : Outlet}

/-- The tasks have gone on. -/
lemma Abreast.carry (h : o.Abreast u) {d e : Drain} (tasks : d.Abreast e) (c : Channel) :
    Abreast ⟨o.lane.carry d, c⟩ ⟨u.lane.carry e, c⟩ where
  channel := rfl
  tasks := by
    simp only [Lane.carry_task]
    exact tasks
  slots := by
    simp only [Lane.carry_mask, tasks.result, h.slots]

/-- Attempts that are made at once are steps. -/
lemma Step.of_advances {l : Lane} {c : Channel} {e : Drain}
    (h : ReflTransGen Drain.Advances l.task e) :
    ReflTransGen (Step stop) ⟨l, c⟩ ⟨{ l with task := e }, c⟩ := by
  induction h with
  | refl => exact .refl
  | @tail e₁ e₂ _ last ih =>
      refine ih.tail ?_
      have step : Step stop ⟨{ l with task := e₁ }, c⟩ _ := .work (.notReady c)
      simp only [Outlet.work, Drain.step_of_ne_reading last.1, last.2,
        Lane.carry_of_unended _ last.unended] at step
      exact step

/-- **Whatever step the first takes**, the second can take as well, or take some more, or wait for
    the first. -/
theorem Abreast.step (h : o.Abreast u) (step : Step stop o o') :
    ∃ u', ReflTransGen (Step stop) u u' ∧ o'.Abreast u' := by
  cases step with
  | @work reply left found =>
      have found' : u.channel.Yields reply left := h.channel ▸ found
      by_cases hr : o.lane.task.phase = .reading
      · obtain ⟨hr', tasks⟩ := h.tasks.receive hr reply
        refine ⟨_, .single (.work found'), ?_⟩
        simp only [Outlet.work, Drain.step_reading hr, Drain.step_reading hr']
        exact h.carry tasks left
      · rcases h.tasks.advance hr with ⟨hr', tasks⟩ | ⟨unended, e, advances, tasks⟩
        · refine ⟨_, .single (.work found'), ?_⟩
          simp only [Outlet.work, Drain.step_of_ne_reading hr, Drain.step_of_ne_reading hr',
            h.channel]
          exact h.carry tasks _
        · refine ⟨_, Step.of_advances advances, ?_⟩
          simp only [Outlet.work, Drain.step_of_ne_reading hr, Lane.carry_of_unended _ unended]
          exact ⟨h.channel, tasks, h.slots⟩
  | heed told heeds =>
      obtain ⟨heeds', tasks⟩ := h.tasks.heed heeds
      refine ⟨_, .single (.heed told heeds'), ?_⟩
      rw [h.channel]
      exact h.carry tasks _

end Outlet

end Capture

namespace Supervisor

open Capture (Behaviour Captured Drains Outlet)

namespace Scene

/-! ## Scenes -/

/-- Scenes that differ in what the destinations have answered. -/
structure Abreast (s u : Scene) : Prop where
  now : s.now = u.now
  ownGroup : s.ownGroup = u.ownGroup
  child : s.child = u.child
  exited : s.exited = u.exited
  stop : s.drains.stop = u.drains.stop
  outlets : ∀ stream, (s.outlet stream).Abreast (u.outlet stream)

/-- Turns that differ in the failures that come with the captures. -/
inductive Same : Turn → Turn → Prop
  | turn {turn : Turn} (h : turn.request ≠ .collect) : Same turn turn
  | captures {both both' : Captured × Captured}
      (bytes : ∀ stream : Stream, (stream.pick both).bytes = (stream.pick both').bytes) :
      Same ⟨.collect, both⟩ ⟨.collect, both'⟩

lemma put_outlet (s : Scene) (stream : Stream) : s.put stream (s.outlet stream) = s := by
  cases stream <;> simp [put, outlet, Drains.put, Drains.lane]

lemma put_put (s : Scene) (stream : Stream) (o o' : Outlet) :
    (s.put stream o).put stream o' = s.put stream o' := by
  cases stream <;> simp [put, Drains.put]

/-- The steps of a drain happen one after the other. -/
lemma Becomes.of_steps {u : Scene} {stream : Stream} {o : Outlet} (launched : u.child.isSome = true)
    (steps : ReflTransGen (Outlet.Step u.drains.stop) (u.outlet stream) o) :
    u.Becomes (u.put stream o) := by
  induction steps with
  | refl => rw [put_outlet]
  | @tail o₁ o₂ _ last ih =>
      refine ih.tail ?_
      rw [← put_put u stream o₁ o₂]
      refine .drain stream launched ?_
      rw [put_stop, outlet_put_same]
      exact last

namespace Abreast

variable {s t u : Scene} {turn : Turn}

lemma put (h : s.Abreast u) {stream : Stream} {o o' : Outlet} (ho : o.Abreast o') :
    (s.put stream o).Abreast (u.put stream o') where
  now := h.now
  ownGroup := h.ownGroup
  child := h.child
  exited := h.exited
  stop := by
    rw [put_stop, put_stop]
    exact h.stop
  outlets := by
    intro other
    by_cases heq : other = stream
    · rw [heq, outlet_put_same, outlet_put_same]
      exact ho
    · rw [outlet_put_other s o heq, outlet_put_other u o' heq]
      exact h.outlets other

lemma channels (h : s.Abreast u) (stream : Stream) : s.channels stream = u.channels stream :=
  (h.outlets stream).channel

/-- **Whatever happens to the first scene** can happen to the second. -/
theorem happens (h : s.Abreast u) (step : s.Happens t) : ∃ v, u.Becomes v ∧ t.Abreast v := by
  have launched (hs : s.child.isSome = true) : u.child.isSome = true := h.child ▸ hs
  cases step with
  | pass now later =>
      exact ⟨_, .single (.pass now (h.now ▸ later)), rfl, h.ownGroup, h.child, h.exited, h.stop,
        h.outlets⟩
  | write stream who bytes hs isOpen runs =>
      refine ⟨_, .single (.write stream who bytes (launched hs) (h.channels stream ▸ isOpen)
        (h.exited ▸ runs)), h.put ⟨?_, (h.outlets stream).tasks, (h.outlets stream).slots⟩⟩
      rw [h.channels]
  | shut stream hs =>
      refine ⟨_, .single (.shut stream (launched hs)),
        h.put ⟨?_, (h.outlets stream).tasks, (h.outlets stream).slots⟩⟩
      rw [h.channels]
  | exit hs =>
      exact ⟨_, .single (.exit (launched hs)), h.now, h.ownGroup, h.child, rfl, h.stop, h.outlets⟩
  | drain stream hs step =>
      rw [h.stop] at step
      obtain ⟨o', steps, abreast⟩ := (h.outlets stream).step step
      exact ⟨_, .of_steps (launched hs) steps, h.put abreast⟩

lemma becomes (h : s.Abreast u) (meanwhile : s.Becomes t) : ∃ v, u.Becomes v ∧ t.Abreast v := by
  induction meanwhile with
  | refl => exact ⟨u, .refl, h⟩
  | tail _ last ih =>
      obtain ⟨v, hv, abreast⟩ := ih
      obtain ⟨w, hw, abreast'⟩ := abreast.happens last
      exact ⟨w, hv.trans hw, abreast'⟩

lemma slots (h : s.Abreast u) (stream : Stream) :
    (s.drains.lane stream).slot.mask = (u.drains.lane stream).slot.mask :=
  (h.outlets stream).slots

lemma ask (h : s.Abreast u) : s.ask.Abreast u.ask where
  now := h.now
  ownGroup := h.ownGroup
  child := h.child
  exited := h.exited
  stop := by
    show s.drains.join.2.stop = u.drains.join.2.stop
    rw [Drains.join_stop, Drains.join_stop, h.stop]
  outlets := by
    intro stream
    refine ⟨h.channels stream, ?_, (Drains.join_mask h.slots).2 stream⟩
    show (s.drains.join.2.lane stream).task.Abreast (u.drains.join.2.lane stream).task
    rw [Drains.join_task, Drains.join_task]
    exact (h.outlets stream).tasks

lemma tell (h : s.Abreast u) : s.tell.Abreast u.tell :=
  ⟨h.now, h.ownGroup, h.child, h.exited, rfl, fun stream => by
    cases stream with
    | stdout => exact h.outlets .stdout
    | stderr => exact h.outlets .stderr⟩

/-- An answer that fits the first scene fits the second, but for the failures of the captures. -/
lemma fits (h : s.Abreast u) (fits : s.Fits turn t) :
    ∃ turn' v, u.Fits turn' v ∧ Same turn turn' ∧ t.Abreast v := by
  have same {turn : Turn} (hr : turn.request ≠ .collect) (hu : u.Fits turn u) :
      ∃ turn' v, u.Fits turn' v ∧ Same turn turn' ∧ s.Abreast v := ⟨turn, u, hu, .turn hr, h⟩
  cases fits with
  | wallClock t => exact same Request.noConfusion (.wallClock u t)
  | clock => exact same Request.noConfusion (h.now ▸ .clock u)
  | refused path cause => exact same Request.noConfusion (.refused u path cause)
  | launched pid pos word other =>
      exact ⟨_, _, .launched pid pos word (h.ownGroup ▸ other), .turn Request.noConfusion, h.now,
        h.ownGroup, rfl, h.exited, h.stop, h.outlets⟩
  | exited deadline raw hs => exact same Request.noConfusion (.exited deadline raw (h.exited ▸ hs))
  | unobserved deadline cause => exact same Request.noConfusion (.unobserved u deadline cause)
  | overran hs => exact same Request.noConfusion (.overran (h.now ▸ hs))
  | exitUntil deadline => exact same Request.noConfusion (.exitUntil u deadline)
  | exitWithin span => exact same Request.noConfusion (.exitWithin u span)
  | ungrouped process cause => exact same Request.noConfusion (.ungrouped u process cause)
  | grouped pos word => exact same Request.noConfusion (.grouped pos word)
  | ownGroup => exact same Request.noConfusion (h.ownGroup ▸ .ownGroup u)
  | signal group sig result => exact same Request.noConfusion (.signal u group sig result)
  | probe group result => exact same Request.noConfusion (.probe u group result)
  | killChild => exact same Request.noConfusion (.killChild u)
  | join hj late =>
      have joined := (Drains.join_mask h.slots).1
      exact ⟨_, _, .join (joined.symm.trans hj) (h.now ▸ late), .turn Request.noConfusion, h.ask⟩
  | collect hc =>
      obtain ⟨both', hc', bytes⟩ := Drains.collect_mask h.slots hc
      exact ⟨_, u, .collect hc', .captures bytes, h⟩

/-- **Whatever is answered in the first scene** can be answered in the second, but for the failures
    of the captures. -/
theorem answers (h : s.Abreast u) (answered : s.Answers turn t) :
    ∃ turn' v, u.Answers turn' v ∧ Same turn turn' ∧ t.Abreast v := by
  cases answered with
  | fit meanwhile hfits =>
      obtain ⟨v, hv, abreast⟩ := h.becomes meanwhile
      obtain ⟨turn', w, hw, same, abreast'⟩ := abreast.fits hfits
      exact ⟨turn', w, .fit hv hw, same, abreast'⟩
  | pause meanwhile slept =>
      obtain ⟨v, hv, abreast⟩ := h.becomes meanwhile
      refine ⟨_, v, .pause hv ?_, .turn Request.noConfusion, abreast⟩
      rw [← h.now, ← abreast.now]
      exact slept
  | stopDrains meanwhile joined =>
      obtain ⟨v, hv, abreast⟩ := h.tell.becomes meanwhile
      have joined' := (Drains.join_mask abreast.slots).1
      exact ⟨_, _, .stopDrains hv (joined'.symm.trans joined), .turn Request.noConfusion,
        abreast.ask⟩

end Abreast

/-! ## Runs -/

/-- Exchanges in scenes that are abreast before and after them. -/
structure Alongside (x y : Exchange Scene) : Prop where
  before : x.before.Abreast y.before
  same : Same x.turn y.turn
  after : x.after.Abreast y.after

/-- **Every dialogue in the first scene** has its match in the second. -/
theorem Abreast.dialogue {α : Type} {p p' q : Program α} {s t u : Scene}
    {exchanges : List (Exchange Scene)} (h : s.Abreast u) (akin : Akin p q)
    (course : Dialogue Answers p s exchanges p' t) :
    ∃ exchanges' q' v, Dialogue Answers q u exchanges' q' v ∧
      List.Forall₂ Alongside exchanges exchanges' ∧ Akin p' q' ∧ t.Abreast v := by
  induction course generalizing q u with
  | start p s => exact ⟨[], q, u, .start q u, .nil, akin, h⟩
  | turn answered rest ih =>
      obtain ⟨turn', v, answered', same, abreast⟩ := h.answers answered
      cases akin with
      | ask hr alike =>
          cases same with
          | turn _ =>
              obtain ⟨exchanges', q', w, course', alongside, akin', abreast'⟩ :=
                ih abreast (alike _)
              exact ⟨_, q', w, .turn answered' course', .cons ⟨h, .turn hr, abreast⟩ alongside,
                akin', abreast'⟩
          | captures bytes => exact absurd rfl hr
      | collect alike =>
          cases same with
          | turn hr => exact absurd rfl hr
          | captures bytes =>
              obtain ⟨exchanges', q', w, course', alongside, akin', abreast'⟩ :=
                ih abreast (alike _ _)
              exact ⟨_, q', w, .turn answered' course',
                .cons ⟨h, .captures bytes, abreast⟩ alongside, akin', abreast'⟩

/-- Exchanges alongside each other have the same turns but for the captures. -/
lemma uncaptured_alongside {exchanges exchanges' : List (Exchange Scene)}
    (h : List.Forall₂ Alongside exchanges exchanges') :
    uncaptured (Dialogue.turns exchanges) = uncaptured (Dialogue.turns exchanges') := by
  induction h with
  | nil => rfl
  | @cons x y _ _ first later ih =>
      obtain ⟨before, turn, after⟩ := x
      obtain ⟨before', turn', after'⟩ := y
      simp only [Dialogue.turns, List.map_cons] at ih ⊢
      cases first.same with
      | turn hr => rw [uncaptured_cons hr, uncaptured_cons hr, ih]
      | captures bytes => exact ih

/-- Scenes that start with prompt destinations are abreast. -/
lemma opening_abreast {out err out' err' : Behaviour} (hout : out.Prompt) (herr : err.Prompt)
    (hout' : out'.Prompt) (herr' : err'.Prompt) :
    (opening out err).Abreast (opening out' err') where
  now := rfl
  ownGroup := rfl
  child := rfl
  exited := rfl
  stop := rfl
  outlets := by
    intro stream
    cases stream with
    | stdout => exact ⟨rfl, ⟨.level rfl rfl, rfl, hout, hout'⟩, rfl⟩
    | stderr => exact ⟨rfl, ⟨.level rfl rfl, rfl, herr, herr'⟩, rfl⟩

/-- The captures of a run that was started are what its drains have left, if none has crashed. -/
lemma hands {α : Type} {p q : Program α} {s t : Scene} {exchanges : List (Exchange Scene)}
    (course : Dialogue Answers p s exchanges q t) (sound : s.Sound)
    (uncrashed : ∀ stream, (t.drains.lane stream).task.phase ≠ .crashed) :
    Hands (Dialogue.turns exchanges) t.drains := by
  intro first both now hturns
  have held (stream : Stream) : stream.pick both = (t.drains.lane stream).held := by
    have hm : ⟨.collect, both⟩ ∈ Dialogue.turns exchanges := by
      rw [hturns]
      simp
    obtain ⟨result, hresult, hpick⟩ := collected course sound hm stream
    rw [hpick]
    exact Capture.Lane.held_of_result hresult (uncrashed stream)
  exact Prod.ext (held .stdout) (held .stderr)

end Scene

/-- What a run in one scene has in common with its match in another. -/
structure Matched (limits : Limits) (script : String) (exchanges exchanges' : List (Exchange Scene))
    (p q : Program Outcome) (t u : Scene) : Prop where
  /-- Every request is matched, and so is every answer but for the failures of the captures: the
      same time has passed, the same was written and read, the same child has exited or not. -/
  alongside : List.Forall₂ Scene.Alongside exchanges exchanges'
  left : t.Abreast u
  /-- The same signals are sent to the same processes. -/
  forced : forces (Dialogue.turns exchanges) = forces (Dialogue.turns exchanges')
  crashed : ∀ reason, p = .crash reason ↔ q = .crash reason
  /-- If one ends, so does the other, and the outcomes differ in their status at most. -/
  outcomes : ∀ outcome, p = .done outcome → ∃ outcome', q = .done outcome' ∧
    outcome' = { outcome with status := outcome'.status } ∧
      ((Unlaunched script (Dialogue.turns exchanges) ∧
          Unlaunched script (Dialogue.turns exchanges') ∧ outcome = outcome') ∨
        ∃ child base, Base limits child (Dialogue.turns exchanges) base ∧
          Base limits child (Dialogue.turns exchanges') base ∧
          base.Settled t.drains outcome.status ∧ base.Settled u.drains outcome'.status)

/-- **Destinations that answer at once are invisible on every schedule.**  Take any run of a script,
    finished or not, with any choice of what happens when, of what a drain reads and of when it
    looks at a request to stop.  With other destinations there is a run with the same choices, which
    has everything in common with it but the failures of its own destinations. -/
theorem invisible_on_schedule {limits : Limits} {script : String} {out err out' err' : Behaviour}
    (hout : out.Prompt) (herr : err.Prompt) (hout' : out'.Prompt) (herr' : err'.Prompt)
    {exchanges : List (Exchange Scene)} {p : Program Outcome} {t : Scene}
    (course : Dialogue Scene.Answers (run limits script) (.opening out err) exchanges p t) :
    ∃ exchanges' q u,
      Dialogue Scene.Answers (run limits script) (.opening out' err') exchanges' q u ∧
        Matched limits script exchanges exchanges' p q t u := by
  obtain ⟨exchanges', q, u, course', alongside, akin, abreast⟩ :=
    (Scene.opening_abreast hout herr hout' herr').dialogue (run_akin limits script) course
  have same := Scene.uncaptured_alongside alongside
  refine ⟨exchanges', q, u, course', alongside, abreast, ?_, ?_, ?_⟩
  · rw [← forces_uncaptured, same, forces_uncaptured]
  · intro reason
    cases akin <;> simp
  · intro outcome hp
    subst hp
    cases akin with
    | done _ outcome' =>
        have bytes (stream : Stream) :
            (t.drains.lane stream).held.bytes = (u.drains.lane stream).held.bytes :=
          congrArg Bytes.joined (abreast.outlets stream).tasks.kept
        exact ⟨outcome', rfl, (run_ends course.leaves).outcomes (run_ends course'.leaves) same
          (fun _ _ hm => Scene.numbered course hm)
          (Scene.hands course (Scene.opening_fresh out err).sound fun stream =>
            (abreast.outlets stream).tasks.uncrashed.1)
          (Scene.hands course' (Scene.opening_fresh out' err').sound fun stream =>
            (abreast.outlets stream).tasks.uncrashed.2)
          bytes⟩

end Supervisor

end Curfew
