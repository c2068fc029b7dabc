import Curfew.Proofs.Capture.Promptness
import Curfew.Proofs.Supervisor.Execution

/-!
# Twin sessions

Two sessions on the same machine whose destinations are prompt, and answer differently.  What the
destinations answer is kept in the drains, and nothing else looks at it.

* **`mask`** — a session without what its destinations answered.  Whatever a session does to its
  slots, it does to the masked ones.
* **`Twin`** — sessions that are the same but for the mask.
* `settle_twin`, `await_twin`, **`answer_twin`**, **`collect_twin`** — twins stay twins, and give
  the same answers, but for the failures that come with the captures.
-/

namespace Curfew

open Filter

namespace Capture

/-! ## Masks -/

def DrainResult.mask : DrainResult → DrainResult
  | .drained captured _ => .drained captured none
  | .crashed _ => .crashed ""

def Handle.mask : Handle → Handle
  | .pending => .pending
  | .ready result => .ready result.mask
  | .spent => .spent

def Slot.mask : Slot → Slot
  | .running handle => .running handle.mask
  | .done result => .done result.mask

/-- A drain as if its destination took everything. -/
def Drain.mask (d : Drain) : Drain := ⟨d.phase, ⟨d.sink.kept, .ofBehaviour .obliging⟩, none⟩

def Lane.mask (l : Lane) : Lane := ⟨l.task.mask, l.slot.mask⟩

def Drains.mask (d : Drains) : Drains := ⟨d.stdout.mask, d.stderr.mask, d.stop⟩

lemma Drain.mask_result (d : Drain) : d.mask.result? = d.result?.map DrainResult.mask := by
  cases hp : d.phase <;> simp only [Drain.result?, Drain.mask, hp] <;> rfl

lemma Slot.mask_finish (s : Slot) : s.mask.finish = (s.finish.1, s.finish.2.mask) := by
  cases s with
  | running handle => cases handle <;> rfl
  | done result => rfl

lemma Slot.mask_complete (s : Slot) (result : DrainResult) :
    (s.complete result).mask = s.mask.complete result.mask := by
  cases s with
  | running handle => cases handle <;> rfl
  | done earlier => rfl

lemma Lane.mask_noteEnd (l : Lane) : l.noteEnd.mask = l.mask.noteEnd := by
  have hresult : l.mask.task.result? = l.task.result?.map DrainResult.mask := l.task.mask_result
  simp only [noteEnd, hresult]
  cases l.task.result? with
  | none => rfl
  | some result => simp only [Option.map_some, mask, Slot.mask_complete]

lemma Drains.mask_join (d : Drains) : d.mask.join = (d.join.1, d.join.2.mask) := by
  simp only [join, mask, Lane.mask, Slot.mask_finish]
  rcases d.stdout.slot.finish with ⟨_ | _, slot⟩ <;> rfl

lemma Slot.mask_collect (s : Slot) : s.mask.collect?.isSome = s.collect?.isSome := by
  cases s with
  | running handle => cases handle <;> rfl
  | done result => rfl

lemma Drains.mask_collect (d : Drains) : d.mask.collect?.isSome = d.collect?.isSome := by
  have hout := d.stdout.slot.mask_collect
  have herr := d.stderr.slot.mask_collect
  simp only [collect?, mask, Lane.mask]
  cases h₁ : d.stdout.slot.collect? <;> cases h₂ : d.stdout.slot.mask.collect? <;>
    cases h₃ : d.stderr.slot.collect? <;> cases h₄ : d.stderr.slot.mask.collect? <;> simp_all

@[simp] lemma Drains.mask_lane (d : Drains) (stream : Stream) :
    d.mask.lane stream = (d.lane stream).mask := by
  cases stream <;> rfl

/-! ## Calm lanes -/

/-- Whether a drain in a phase has nothing to forward: it waits for its pipe, or has ended. -/
def Phase.idle : Phase → Bool
  | .reading => true
  | .finished => true
  | .cutOff => true
  | _ => false

lemma Drawn.idle {σ : Type} {read : σ → ReadReply × σ} {stop : Bool} {s s' : σ}
    {chunks : List Bytes} {last : Phase} (h : Drawn read stop s chunks last s') :
    last.idle = true := by
  induction h with
  | chunk found filled rest ih => exact ih
  | ended found ends => rfl
  | again found untold rest ih => exact ih
  | obeyed found told => rfl
  | dry found => cases stop <;> rfl

/-- A lane between two events, with a prompt destination. -/
structure Lane.Calm (l : Lane) : Prop where
  prompt : l.task.sink.destination.behaviour.Prompt
  idle : l.task.phase.idle = true
  agrees : l.Agrees

def Drains.Calm (d : Drains) : Prop := ∀ stream, (d.lane stream).Calm

namespace Lane

/-- What a lane has captured so far. -/
def held (l : Lane) : Captured := ⟨l.task.sink.snapshot, l.task.failure⟩

/-- A drain that has not crashed leaves what it has captured, with the failure that it has met. -/
lemma held_of_result {l : Lane} {result : DrainResult} (h : l.task.result? = some result)
    (hc : l.task.phase ≠ .crashed) : .ofResult result = l.held := by
  cases result with
  | drained bytes failure =>
      obtain ⟨-, rfl, -⟩ := Drain.result?_drained h
      rw [Drain.result?_copied h]
      rfl
  | crashed report =>
      cases hp : l.task.phase <;> simp only [Drain.result?, hp] at h <;>
        first | exact absurd hp hc | cases h

/-- A capture that can be taken over is the one there is. -/
lemma Calm.collect {l : Lane} (calm : l.Calm) {captured : Captured}
    (h : l.slot.collect? = some captured) : captured = l.held := by
  obtain ⟨result, hleft, rfl⟩ := Slot.collect_left h
  refine held_of_result (calm.agrees result hleft) fun hp => ?_
  have hidle := calm.idle
  rw [hp] at hidle
  cases hidle

variable {σ : Type} {read : σ → ReadReply × σ} {stop : Bool}

/-- A drain that waits for its pipe takes over what is drawn out of it. -/
lemma Calm.draws {l : Lane} (calm : l.Calm) (hr : l.task.phase = .reading) {s s' : σ}
    {chunks : List Bytes} {last : Phase} (h : Drawn read stop s chunks last s') :
    ∃ l' : Lane, l'.Calm ∧
      l'.mask = noteEnd
        ⟨⟨last, ⟨chunks.reverse ++ l.mask.task.sink.kept, .ofBehaviour .obliging⟩, none⟩,
          l.mask.slot⟩ ∧
      ∀ᶠ fuel in atTop, l.settle read stop fuel s = (l', s') := by
  obtain ⟨d', rests, hlast, hkept, hb⟩ := Drain.rests_of_drawn hr calm.prompt h
  refine ⟨l.carry d', ⟨?_, ?_, calm.agrees.carry fun result hres => ?_⟩, ?_,
    rests.mono fun fuel hsettle => ?_⟩
  · rw [carry_task, hb]
    exact calm.prompt
  · rw [carry_task, hlast]
    exact h.idle
  · rw [Drain.result?, hr] at hres
    cases hres
  · rw [carry, mask_noteEnd]
    simp only [mask, Drain.mask, hlast, hkept]
  · simp only [settle, hsettle]
    rfl

/-- A drain that has ended is left alone. -/
lemma Calm.stays {l : Lane} (calm : l.Calm) (ended : l.task.result?.isSome)
    (read : σ → ReadReply × σ) (stop : Bool) (s : σ) :
    l.noteEnd.Calm ∧ ∀ᶠ fuel in atTop, l.settle read stop fuel s = (l.noteEnd, s) := by
  have htask : l.noteEnd.task = l.task := carry_task l l.task
  have rests : Drain.Rests read stop l.task s l.task s := Drain.rests_of_ended ended s
  refine ⟨⟨?_, ?_, ?_⟩, rests.mono fun fuel hsettle => ?_⟩
  · rw [htask]
    exact calm.prompt
  · rw [htask]
    exact calm.idle
  · exact calm.agrees.carry fun _ h => h
  · simp only [settle, hsettle]

/-- **Lanes that are the same but for the mask** come to the same, but for the mask, and leave the
    same to read. -/
theorem settle_twin (finite : Exhaustible read) {l k : Lane} (same : l.mask = k.mask)
    (hl : l.Calm) (hk : k.Calm) (stop : Bool) (s : σ) :
    ∃ l' k' s', l'.mask = k'.mask ∧ l'.Calm ∧ k'.Calm ∧
      ∀ᶠ fuel in atTop, l.settle read stop fuel s = (l', s') ∧
        k.settle read stop fuel s = (k', s') := by
  have hphase : l.task.phase = k.task.phase := congrArg (fun lane => lane.task.phase) same
  by_cases hr : l.task.phase = .reading
  · obtain ⟨chunks, last, s', drawn⟩ := finite.drawn stop s
    obtain ⟨l', hl', hlmask, hlsettle⟩ := hl.draws hr drawn
    obtain ⟨k', hk', hkmask, hksettle⟩ := hk.draws (hphase ▸ hr) drawn
    refine ⟨l', k', s', ?_, hl', hk', hlsettle.and hksettle⟩
    rw [hlmask, hkmask, same]
  · have ended {j : Lane} (hj : j.Calm) (hne : j.task.phase ≠ .reading) :
        j.task.result?.isSome := by
      have hidle := hj.idle
      cases hp : j.task.phase <;> simp_all [Phase.idle, Drain.result?]
    obtain ⟨hl', hlsettle⟩ := hl.stays (ended hl hr) read stop s
    obtain ⟨hk', hksettle⟩ := hk.stays (ended hk (hphase ▸ hr)) read stop s
    refine ⟨_, _, s, ?_, hl', hk', hlsettle.and hksettle⟩
    rw [mask_noteEnd, mask_noteEnd, same]

end Lane

namespace Drains

lemma Calm.start {out err : Behaviour} (hout : out.Prompt) (herr : err.Prompt) :
    (Drains.start (.ofBehaviour out) (.ofBehaviour err)).Calm := by
  intro stream
  cases stream with
  | stdout => exact ⟨hout, rfl, fun result hr => by cases hr⟩
  | stderr => exact ⟨herr, rfl, fun result hr => by cases hr⟩

lemma Calm.join {d : Drains} (calm : d.Calm) : d.join.2.Calm := by
  intro stream
  have before := calm stream
  rcases d.join_lane stream with h | h
  · rw [h]
    exact before
  · rw [h]
    exact ⟨before.prompt, before.idle, fun result hr => before.agrees result (by
      rwa [Slot.finish_left] at hr)⟩

lemma Calm.requestStop {d : Drains} (calm : d.Calm) : d.requestStop.Calm := by
  intro stream
  have before := calm stream
  cases stream <;> exact before

/-- Both captures as they are now. -/
def held (d : Drains) : Captured × Captured := (d.stdout.held, d.stderr.held)

/-- Captures that can be taken over are those there are. -/
lemma Calm.collect {d : Drains} (calm : d.Calm) {both : Captured × Captured}
    (h : d.collect? = some both) : both = d.held := by
  simp only [collect?] at h
  cases hout : d.stdout.slot.collect? <;> cases herr : d.stderr.slot.collect? <;>
    simp only [hout, herr, reduceCtorEq, Option.some.injEq] at h
  rw [← h, held, (calm .stdout).collect hout, (calm .stderr).collect herr]
  rfl

end Drains

end Capture

namespace Supervisor

open Capture (Drains Lane Captured)

variable {σ α : Type}

namespace Machine

/-- The same machine, where drains are let take so many steps between two events. -/
def granting (m : Machine σ) (n : Nat) : Machine σ := { m with steps := n }

/-- A machine on which every pipe runs dry, until something else happens. -/
def Exhaustible (m : Machine σ) : Prop := ∀ stream, Capture.Exhaustible (m.read stream)

end Machine

namespace Session

/-- Sessions that are the same but for what their destinations have answered. -/
structure Twin (s t : Session σ) : Prop where
  world : s.world = t.world
  child : s.child = t.child
  exit : s.exit = t.exit
  masked : s.drains.mask = t.drains.mask
  calm : s.drains.Calm
  calm' : t.drains.Calm

variable {m : Machine σ} {s t : Session σ}

lemma Twin.inWorld (h : Twin s t) (w : σ) : Twin { s with world := w } { t with world := w } :=
  ⟨rfl, h.child, h.exit, h.masked, h.calm, h.calm'⟩

lemma Twin.lane (h : Twin s t) (stream : Stream) :
    (s.drains.lane stream).mask = (t.drains.lane stream).mask := by
  rw [← Drains.mask_lane, h.masked, Drains.mask_lane]

/-- Twins have captured the same. -/
lemma Twin.bytes (h : Twin s t) (stream : Stream) :
    (s.drains.lane stream).held.bytes = (t.drains.lane stream).held.bytes :=
  congrArg (fun lane => lane.task.sink.snapshot) (h.lane stream)

/-- Whether a pipe is hung up does not depend on the destination. -/
lemma hangUp_mask (m : Machine σ) (stream : Stream) (lane : Lane) (w : σ) :
    hangUp m stream lane w = hangUp m stream lane.mask w := by
  have hresult : lane.mask.task.result?.isSome = lane.task.result?.isSome := by
    rw [show lane.mask.task.result? = _ from lane.task.mask_result, Option.isSome_map]
  rw [hangUp, hangUp, hresult]

lemma settle_of_lanes {child n : Nat} {out err : Lane} {w₁ w₂ : σ} (hchild : s.child = some child)
    (ho : (s.drains.lane .stdout).settle (m.read .stdout) s.drains.stop n s.world = (out, w₁))
    (he : (s.drains.lane .stderr).settle (m.read .stderr) s.drains.stop n w₁ = (err, w₂)) :
    s.settle (m.granting n) =
      ⟨hangUp m .stdout out (hangUp m .stderr err w₂), ⟨out, err, s.drains.stop⟩, s.child,
        s.exit⟩ := by
  simp only [Drains.lane] at ho he
  simp only [settle, hchild, Drains.settle, Machine.granting, ho, he]
  rfl

/-- **Letting the drains of twins do what they can** leaves twins. -/
theorem settle_twin (finite : m.Exhaustible) (h : Twin s t) :
    ∃ s' t', Twin s' t' ∧
      ∀ᶠ n in atTop, s.settle (m.granting n) = s' ∧ t.settle (m.granting n) = t' := by
  cases hchild : s.child with
  | none =>
      have hchild' : t.child = none := h.child ▸ hchild
      refine ⟨s, t, h, .of_forall fun n => ?_⟩
      simp only [settle, hchild, hchild', and_self]
  | some child =>
      have hchild' : t.child = some child := h.child ▸ hchild
      have hstop : s.drains.stop = t.drains.stop := by
        show s.drains.mask.stop = t.drains.mask.stop
        rw [h.masked]
      obtain ⟨out, out', w₁, hout, houtCalm, houtCalm', houtSettle⟩ :=
        Lane.settle_twin (finite .stdout) (h.lane .stdout) (h.calm .stdout) (h.calm' .stdout)
          s.drains.stop s.world
      obtain ⟨err, err', w₂, herr, herrCalm, herrCalm', herrSettle⟩ :=
        Lane.settle_twin (finite .stderr) (h.lane .stderr) (h.calm .stderr) (h.calm' .stderr)
          s.drains.stop w₁
      refine ⟨⟨hangUp m .stdout out (hangUp m .stderr err w₂), ⟨out, err, s.drains.stop⟩, s.child,
          s.exit⟩, ⟨hangUp m .stdout out' (hangUp m .stderr err' w₂), ⟨out', err', t.drains.stop⟩,
          t.child, t.exit⟩, ⟨?_, h.child, h.exit, ?_, ?_, ?_⟩,
          (houtSettle.and herrSettle).mono fun n hn => ?_⟩
      · simp only [hangUp_mask m .stdout out, hangUp_mask m .stdout out',
          hangUp_mask m .stderr err, hangUp_mask m .stderr err', hout, herr]
      · simp only [Drains.mask, hout, herr, hstop]
      · intro stream
        cases stream <;> assumption
      · intro stream
        cases stream <;> assumption
      · obtain ⟨⟨ho, ho'⟩, he, he'⟩ := hn
        rw [h.world, hstop] at ho'
        rw [hstop] at he'
        exact ⟨settle_of_lanes hchild ho he, settle_of_lanes hchild' ho' he'⟩

/-! ## Waiting -/

/-- A check that looks at nothing that twins do not share.  `R` is what its answers have in
    common. -/
def Blind (R : α → α → Prop) (check : Session σ → Option α × Session σ) : Prop :=
  ∀ {s t : Session σ}, Twin s t →
    Option.Rel R (check s).1 (check t).1 ∧ Twin (check s).2 (check t).2

section Await

variable {R : α → α → Prop} {check : Session σ → Option α × Session σ}

section Turn

variable {deadline : Instant} {fuel : Nat} {s₁ s₂ : Session σ}

lemma awaitFor_found {a : α} (hsettle : s.settle m = s₁) (hcheck : check s₁ = (some a, s₂)) :
    awaitFor m deadline check (fuel + 1) s = (some a, s₂) := by
  rw [awaitFor, hsettle, hcheck]

lemma awaitFor_reached (hsettle : s.settle m = s₁) (hcheck : check s₁ = (none, s₂))
    (h : (m.clock s₂.world).reached deadline = true) :
    awaitFor m deadline check (fuel + 1) s = (none, s₂) := by
  rw [awaitFor, hsettle, hcheck]
  exact if_pos h

lemma awaitFor_proceed (hsettle : s.settle m = s₁) (hcheck : check s₁ = (none, s₂))
    (h : ¬ (m.clock s₂.world).reached deadline = true) :
    awaitFor m deadline check (fuel + 1) s =
      awaitFor m deadline check fuel { s₂ with world := m.proceed deadline s₂.world } := by
  rw [awaitFor, hsettle, hcheck]
  exact if_neg h

end Turn

lemma awaitFor_twin (finite : m.Exhaustible) (blind : Blind R check) (deadline : Instant)
    (fuel : Nat) (h : Twin s t) :
    ∃ a b s' t', Option.Rel R a b ∧ Twin s' t' ∧ ∀ᶠ n in atTop,
      awaitFor (m.granting n) deadline check fuel s = (a, s') ∧
        awaitFor (m.granting n) deadline check fuel t = (b, t') := by
  induction fuel generalizing s t with
  | zero =>
      obtain ⟨s₁, t₁, h₁, settled⟩ := settle_twin finite h
      obtain ⟨same, twin⟩ := blind h₁
      refine ⟨_, _, _, _, same, twin, settled.mono fun n hn => ?_⟩
      simp only [awaitFor, hn.1, hn.2, Prod.mk.eta, and_self]
  | succ fuel ih =>
      obtain ⟨s₁, t₁, h₁, settled⟩ := settle_twin finite h
      obtain ⟨same, twin⟩ := blind h₁
      rcases hs : check s₁ with ⟨a, s₂⟩
      rcases ht : check t₁ with ⟨b, t₂⟩
      rw [hs, ht] at same twin
      cases same with
      | some hab =>
          exact ⟨_, _, s₂, t₂, .some hab, twin, settled.mono fun n hn =>
            ⟨awaitFor_found hn.1 hs, awaitFor_found hn.2 ht⟩⟩
      | none =>
          have hworld : s₂.world = t₂.world := twin.world
          by_cases hreached : (m.clock s₂.world).reached deadline = true
          · exact ⟨_, _, s₂, t₂, .none, twin, settled.mono fun n hn =>
              ⟨awaitFor_reached hn.1 hs hreached, awaitFor_reached hn.2 ht (hworld ▸ hreached)⟩⟩
          · -- the world goes on to the same event
            obtain ⟨a, b, s', t', hab, twin', later⟩ :=
              ih (twin.inWorld (m.proceed deadline s₂.world))
            refine ⟨a, b, s', t', hab, twin', (settled.and later).mono fun n hn => ?_⟩
            rw [← hn.2.1, ← hn.2.2]
            refine ⟨awaitFor_proceed hn.1.1 hs hreached, ?_⟩
            rw [hworld]
            exact awaitFor_proceed hn.1.2 ht (hworld ▸ hreached)

/-- **Waiting** leaves twins, with answers that have in common what those of the check have. -/
theorem await_twin (finite : m.Exhaustible) (blind : Blind R check) (deadline : Instant)
    (h : Twin s t) :
    ∃ a b s' t', Option.Rel R a b ∧ Twin s' t' ∧ ∀ᶠ n in atTop,
      s.await (m.granting n) deadline check = (a, s') ∧
        t.await (m.granting n) deadline check = (b, t') := by
  obtain ⟨a, b, s', t', hab, twin, awaited⟩ := awaitFor_twin finite blind deadline
    ((deadline.since (m.clock s.world)).nanos + 1) h
  refine ⟨a, b, s', t', hab, twin, awaited.mono fun n hn => ⟨hn.1, ?_⟩⟩
  have hn' := hn.2
  rw [h.world] at hn'
  exact hn'

end Await

lemma blind_reap (m : Machine σ) : Blind Eq (reap m) := by
  intro s t h
  have rel {a : Option (Except IoError Int32)} : Option.Rel Eq a a := by
    cases a with
    | none => exact .none
    | some waited => exact .some rfl
  rcases hexit : s.exit with _ | waited
  · have hexit' : t.exit = none := h.exit ▸ hexit
    rcases hchild : s.child with _ | child
    · have hchild' : t.child = none := h.child ▸ hchild
      simp only [reap, hexit, hexit', hchild, hchild']
      exact ⟨.none, h⟩
    · have hchild' : t.child = some child := h.child ▸ hchild
      simp only [reap, hexit, hexit', hchild, hchild', ← h.world]
      exact ⟨rel, rfl, rfl, rfl, h.masked, h.calm, h.calm'⟩
  · have hexit' : t.exit = some waited := h.exit ▸ hexit
    simp only [reap, hexit, hexit']
    exact ⟨rel, h⟩

lemma blind_join : Blind Eq (join : Session σ → Option Unit × Session σ) := by
  intro s t h
  have hs := s.drains.mask_join
  have ht := t.drains.mask_join
  rw [h.masked, ht] at hs
  obtain ⟨hjoined, hmask⟩ := Prod.mk.inj hs
  refine ⟨?_, h.world, h.child, h.exit, hmask.symm, h.calm.join, h.calm'.join⟩
  show Option.Rel Eq (if s.drains.join.1 then some () else none)
    (if t.drains.join.1 then some () else none)
  rw [← hjoined]
  split
  · exact .some rfl
  · exact .none

/-- The captures are there for both twins, or for neither. -/
lemma blind_captures :
    Blind (fun _ _ => True) (captures : Session σ → Option (Captured × Captured) × Session σ) := by
  intro s t h
  have hsome : s.drains.collect?.isSome = t.drains.collect?.isSome := by
    rw [← Drains.mask_collect, h.masked, Drains.mask_collect]
  refine ⟨?_, h⟩
  show Option.Rel (fun _ _ => True) s.drains.collect? t.drains.collect?
  cases hs : s.drains.collect? with
  | none =>
      rw [hs] at hsome
      have ht : t.drains.collect? = none :=
        Option.not_isSome_iff_eq_none.mp (by rw [← hsome]; exact Bool.noConfusion)
      rw [ht]
      exact .none
  | some both =>
      rw [hs] at hsome
      obtain ⟨both', ht⟩ := Option.isSome_iff_exists.mp hsome.symm
      rw [ht]
      exact .some trivial

lemma blind_idle : Blind Eq fun s : Session σ => ((none : Option Unit), s) := fun h => ⟨.none, h⟩

/-! ## Answers -/

lemma awaitFor_captures (m : Machine σ) (deadline : Instant) (fuel : Nat) (s : Session σ) :
    (awaitFor m deadline captures fuel s).1 =
      (awaitFor m deadline captures fuel s).2.drains.collect? := by
  induction fuel generalizing s with
  | zero => rfl
  | succ fuel ih =>
      rw [awaitFor]
      rcases hcheck : captures (s.settle m) with ⟨_ | both, s₁⟩
      · simp only
        split
        · rw [← congrArg Prod.snd hcheck]
          exact (congrArg Prod.fst hcheck).symm
        · exact ih _
      · rw [← congrArg Prod.snd hcheck]
        exact (congrArg Prod.fst hcheck).symm

lemma await_captures (m : Machine σ) (deadline : Instant) (s : Session σ) :
    (s.await m deadline captures).1 = (s.await m deadline captures).2.drains.collect? :=
  awaitFor_captures m deadline _ s

/-- Taking over the captures of a calm session hands over what it has captured. -/
lemma collectUntil_calm {deadline : Instant} {both : Option (Captured × Captured)}
    {s' : Session σ} (h : s.await m deadline captures = (both, s')) (calm : s'.drains.Calm) :
    s.collectUntil m deadline = (s'.drains.held, s') := by
  have hcollect := await_captures m deadline s
  rw [h] at hcollect
  have soFar (stream : Stream) :
      captureSoFar (s'.drains.lane stream) = (s'.drains.lane stream).held := by
    rw [captureSoFar]
    cases hslot : (s'.drains.lane stream).slot.collect? with
    | none => rfl
    | some captured => exact (calm stream).collect hslot
  rw [collectUntil, h]
  cases both with
  | none =>
      show ((captureSoFar s'.drains.stdout, captureSoFar s'.drains.stderr), s') = _
      rw [show captureSoFar s'.drains.stdout = _ from soFar .stdout,
        show captureSoFar s'.drains.stderr = _ from soFar .stderr]
      rfl
  | some both => rw [calm.collect hcollect.symm]; rfl

/-- **Twins take over** what each of them has captured. -/
theorem collect_twin (finite : m.Exhaustible) (h : Twin s t) :
    ∃ s' t', Twin s' t' ∧ ∀ᶠ n in atTop,
      s.answer (m.granting n) .collect = (s'.drains.held, s') ∧
        t.answer (m.granting n) .collect = (t'.drains.held, t') := by
  obtain ⟨a, b, s', t', -, twin, awaited⟩ :=
    await_twin finite blind_captures (s.fromNow m patience) h
  refine ⟨s', t', twin, awaited.mono fun n hn => ⟨collectUntil_calm hn.1 twin.calm, ?_⟩⟩
  have hn' := hn.2
  rw [fromNow, h.world] at hn'
  exact collectUntil_calm hn' twin.calm'

/-- Twins that wait with the same answers of their checks get the same answer. -/
lemma await_same (finite : m.Exhaustible) {check : Session σ → Option α × Session σ}
    (blind : Blind Eq check) (deadline : Instant) (h : Twin s t) :
    ∃ a s' t', Twin s' t' ∧ ∀ᶠ n in atTop,
      s.await (m.granting n) deadline check = (a, s') ∧
        t.await (m.granting n) deadline check = (a, t') := by
  obtain ⟨a, b, s', t', hab, twin, awaited⟩ := await_twin finite blind deadline h
  cases hab with
  | some hab =>
      subst hab
      exact ⟨_, s', t', twin, awaited⟩
  | none => exact ⟨_, s', t', twin, awaited⟩

lemma Twin.fromNow (h : Twin s t) (span : Duration) : t.fromNow m span = s.fromNow m span := by
  rw [Session.fromNow, Session.fromNow, h.world]

lemma Twin.join (h : Twin s t) : Twin s.join.2 t.join.2 := (blind_join h).2

lemma Twin.requestStop (h : Twin s t) :
    Twin { s with drains := s.drains.requestStop } { t with drains := t.drains.requestStop } where
  world := h.world
  child := h.child
  exit := h.exit
  masked := congrArg Drains.requestStop h.masked
  calm := h.calm.requestStop
  calm' := h.calm'.requestStop

/-- **Twins answer everything else alike.** -/
theorem answer_twin (finite : m.Exhaustible) (h : Twin s t) {r : Request} (hr : r ≠ .collect) :
    ∃ a s' t', Twin s' t' ∧ ∀ᶠ n in atTop,
      s.answer (m.granting n) r = (a, s') ∧ t.answer (m.granting n) r = (a, t') := by
  have now {r : Request} {f : σ → r.Answer}
      (hf : ∀ (n : Nat) (u : Session σ), u.answer (m.granting n) r = (f u.world, u)) :
      ∃ a s' t', Twin s' t' ∧ ∀ᶠ n in atTop,
        s.answer (m.granting n) r = (a, s') ∧ t.answer (m.granting n) r = (a, t') :=
    ⟨f s.world, s, t, h, .of_forall fun n => ⟨hf n s, h.world ▸ hf n t⟩⟩
  cases r with
  | wallClock => exact now (f := m.wallClock) fun _ _ => rfl
  | clock => exact now (f := m.clock) fun _ _ => rfl
  | groupOf process => exact now (f := m.groupOf process) fun _ _ => rfl
  | ownGroup => exact now (f := m.ownGroup) fun _ _ => rfl
  | probe group => exact now (f := m.probe group) fun _ _ => rfl
  | launch path =>
      rcases hlaunch : m.launch path s.world with ⟨cause | pid, w⟩
      · refine ⟨.error cause, _, _, h.inWorld w, .of_forall fun n => ?_⟩
        simp only [answer, Machine.granting, ← h.world, hlaunch, and_self]
      · refine ⟨.ok (some pid), { s with world := w, child := some pid },
          { t with world := w, child := some pid },
          ⟨rfl, rfl, h.exit, h.masked, h.calm, h.calm'⟩, .of_forall fun n => ?_⟩
        simp only [answer, Machine.granting, ← h.world, hlaunch, and_self]
  | signal group sig =>
      refine ⟨(m.signal group sig s.world).1, _, _, h.inWorld (m.signal group sig s.world).2,
        .of_forall fun n => ⟨rfl, ?_⟩⟩
      rw [h.world]
      rfl
  | killChild =>
      rcases hchild : s.child with _ | child
      · have hchild' : t.child = none := h.child ▸ hchild
        refine ⟨(), s, t, h, .of_forall fun n => ?_⟩
        simp only [answer, hchild, hchild', and_self]
      · have hchild' : t.child = some child := h.child ▸ hchild
        by_cases hexit : s.exit.isSome = true
        · have hexit' : t.exit.isSome = true := h.exit ▸ hexit
          refine ⟨(), s, t, h, .of_forall fun n => ?_⟩
          simp only [answer, hchild, hchild', hexit, hexit', if_true, and_self]
        · have hexit' : ¬ t.exit.isSome = true := h.exit ▸ hexit
          refine ⟨(), _, _, h.inWorld (m.killProcess child s.world), .of_forall fun n => ?_⟩
          simp only [answer, hchild, hchild', hexit, hexit', ← h.world]
          exact ⟨rfl, rfl⟩
  | exitOrDeadline deadline => exact await_same finite (blind_reap m) deadline h
  | exitUntil deadline =>
      obtain ⟨a, s', t', twin, awaited⟩ := await_same finite (blind_reap m) deadline h
      exact ⟨(), s', t', twin, awaited.mono fun n hn =>
        ⟨congrArg (fun x => ((), x.2)) hn.1, congrArg (fun x => ((), x.2)) hn.2⟩⟩
  | exitWithin span =>
      obtain ⟨a, s', t', twin, awaited⟩ := await_same finite (blind_reap m) (s.fromNow m span) h
      refine ⟨(), s', t', twin, awaited.mono fun n hn =>
        ⟨congrArg (fun x => ((), x.2)) hn.1, ?_⟩⟩
      rw [← h.fromNow] at hn
      exact congrArg (fun x => ((), x.2)) hn.2
  | pause span =>
      obtain ⟨a, s', t', twin, awaited⟩ := await_same finite blind_idle (s.fromNow m span) h
      refine ⟨(), s', t', twin, awaited.mono fun n hn =>
        ⟨congrArg (fun x => ((), x.2)) hn.1, ?_⟩⟩
      rw [← h.fromNow] at hn
      exact congrArg (fun x => ((), x.2)) hn.2
  | joinUntil deadline =>
      obtain ⟨a, s', t', twin, awaited⟩ := await_same finite blind_join deadline h
      exact ⟨a.isSome, s', t', twin, awaited.mono fun n hn =>
        ⟨congrArg (fun x => (x.1.isSome, x.2)) hn.1, congrArg (fun x => (x.1.isSome, x.2)) hn.2⟩⟩
  | stopDrains =>
      obtain ⟨s', t', twin, settled⟩ := settle_twin finite h.requestStop
      refine ⟨(), s'.join.2, t'.join.2, twin.join, settled.mono fun n hn => ⟨?_, ?_⟩⟩
      · rw [← hn.1]
        rfl
      · rw [← hn.2]
        rfl
  | collect => exact absurd rfl hr

end Session

end Supervisor

end Curfew
