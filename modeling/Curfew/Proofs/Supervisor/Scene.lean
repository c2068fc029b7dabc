import Mathlib.Logic.Function.Basic
import Mathlib.Logic.Relation
import Curfew.Proofs.Capture.Outlet
import Curfew.Proofs.Supervisor.Dialogue

/-!
# The scene of a run

What a supervisor meets outside: a clock, a child that writes into two channels and may exit, and
the two drains.  Everything the system leaves open is left open.

* **`Scene.Happens`** — something happens by itself: time passes, somebody writes, closes or exits,
  a drain takes a step.
* **`Scene.Answers`** — a request is answered: things happen for a while, and the answer fits the
  scene that they have led to.
* **`Scene.Lasting`** — a fact that survives whatever happens and whatever is answered, and hence
  every dialogue.  The soundness of both outlets is such a fact (`lasting_sound`).
* `Answers.collected` — what is handed over as the captures are the results of the drains.
-/

namespace Curfew

/-- The part of a pair that belongs to a stream, stdout first. -/
def Stream.pick {α : Type} : Stream → α × α → α
  | .stdout, pair => pair.1
  | .stderr, pair => pair.2

namespace Capture.Drains

def lane (d : Drains) : Stream → Lane
  | .stdout => d.stdout
  | .stderr => d.stderr

def put (d : Drains) (l : Lane) : Stream → Drains
  | .stdout => { d with stdout := l }
  | .stderr => { d with stderr := l }

@[simp] lemma put_same (d : Drains) (l : Lane) (stream : Stream) :
    (d.put l stream).lane stream = l := by
  cases stream <;> rfl

lemma put_other (d : Drains) (l : Lane) {stream other : Stream} (h : other ≠ stream) :
    (d.put l stream).lane other = d.lane other := by
  cases stream <;> cases other <;> first | rfl | exact absurd rfl h

@[simp] lemma put_stop (d : Drains) (l : Lane) (stream : Stream) :
    (d.put l stream).stop = d.stop := by
  cases stream <;> rfl

@[simp] lemma join_stop (d : Drains) : d.join.2.stop = d.stop := by
  simp only [join]
  rcases d.stdout.slot.finish with ⟨_ | _, slot⟩ <;> rfl

/-- Asking for both results leaves the tasks alone, and asks each slot at most once. -/
lemma join_lane (d : Drains) (stream : Stream) :
    d.join.2.lane stream = d.lane stream ∨
      d.join.2.lane stream = { d.lane stream with slot := (d.lane stream).slot.finish.2 } := by
  simp only [join]
  rcases hf : d.stdout.slot.finish with ⟨_ | _, slot⟩
  · cases stream with
    | stdout => exact .inr (by simp [lane, hf])
    | stderr => exact .inl rfl
  · cases stream with
    | stdout => exact .inr (by simp [lane, hf])
    | stderr => exact .inr rfl

/-- What is handed over was left in the slots. -/
lemma collect_left {d : Drains} {both : Captured × Captured} (h : d.collect? = some both)
    (stream : Stream) :
    ∃ result, (d.lane stream).slot.left? = some result ∧ stream.pick both = .ofResult result := by
  simp only [collect?] at h
  cases hout : d.stdout.slot.collect? with
  | none => simp [hout] at h
  | some out =>
      cases herr : d.stderr.slot.collect? with
      | none => simp [hout, herr] at h
      | some err =>
          simp only [hout, herr, Option.some.injEq] at h
          subst h
          cases stream with
          | stdout => exact Slot.collect_left hout
          | stderr => exact Slot.collect_left herr

end Capture.Drains

namespace Supervisor

open Capture

/-- A turn that starts nothing. -/
def Turn.Idle : Turn → Prop
  | ⟨.wallClock, _⟩ => True
  | ⟨.clock, _⟩ => True
  | ⟨.launch _, .error _⟩ => True
  | _ => False

structure Scene where
  now : Instant
  ownGroup : Int
  /-- The child, once it was launched. -/
  child : Option Nat
  exited : Bool
  drains : Drains
  channels : Stream → Channel

namespace Scene

/-- The drain of a stream with its channel. -/
def outlet (s : Scene) (stream : Stream) : Outlet := ⟨s.drains.lane stream, s.channels stream⟩

def put (s : Scene) (stream : Stream) (o : Outlet) : Scene :=
  { s with
    drains := s.drains.put o.lane stream
    channels := Function.update s.channels stream o.channel }

@[simp] lemma outlet_put_same (s : Scene) (stream : Stream) (o : Outlet) :
    (s.put stream o).outlet stream = o := by
  simp [outlet, put]

lemma outlet_put_other (s : Scene) (o : Outlet) {stream other : Stream} (h : other ≠ stream) :
    (s.put stream o).outlet other = s.outlet other := by
  simp [outlet, put, Drains.put_other _ _ h, Function.update_of_ne h]

/-- What is so of an outlet stays so when one is replaced, if the new one keeps it. -/
lemma outlet_put {P : Outlet → Prop} {s : Scene} {stream other : Stream} {o : Outlet}
    (hs : P (s.outlet stream)) (keep : P (s.outlet other) → P o) :
    P ((s.put other o).outlet stream) := by
  by_cases heq : stream = other
  · subst heq
    rw [outlet_put_same]
    exact keep hs
  · rw [outlet_put_other s o heq]
    exact hs

@[simp] lemma put_stop (s : Scene) (stream : Stream) (o : Outlet) :
    (s.put stream o).drains.stop = s.drains.stop := Drains.put_stop _ _ _

/-- Nothing was launched, and nothing has happened yet.  A stream's pipe may turn out not to be
    captured. -/
structure Fresh (s : Scene) : Prop where
  child : s.child = none
  exited : s.exited = false
  stop : s.drains.stop = false
  outlet : ∀ stream, ∃ b : Behaviour, s.outlet stream = ⟨.start (.ofBehaviour b), .fresh⟩ ∨
    s.outlet stream = ⟨.missing (.ofBehaviour b), .fresh⟩

/-- The scene at the start of a run, with destinations that behave like this. -/
def opening (out err : Behaviour) : Scene :=
  ⟨⟨0⟩, 1, none, false, .start (.ofBehaviour out) (.ofBehaviour err), fun _ => .fresh⟩

lemma opening_fresh (out err : Behaviour) : (opening out err).Fresh where
  child := rfl
  exited := rfl
  stop := rfl
  outlet := by
    intro stream
    cases stream with
    | stdout => exact ⟨out, .inl rfl⟩
    | stderr => exact ⟨err, .inl rfl⟩

/-! ## What happens by itself -/

/-- Something happens.  Before the launch, only time passes. -/
inductive Happens : Scene → Scene → Prop
  | pass {s : Scene} (t : Instant) (later : s.now.nanos ≤ t.nanos) : Happens s { s with now := t }
  /-- Somebody writes; the script only as long as it runs. -/
  | write {s : Scene} (stream : Stream) (who : Writer) (bytes : Bytes)
      (launched : s.child.isSome = true) (isOpen : (s.channels stream).isOpen = true)
      (runs : who = .script → s.exited = false) :
      Happens s (s.put stream ⟨s.drains.lane stream, (s.channels stream).write who bytes⟩)
  | shut {s : Scene} (stream : Stream) (launched : s.child.isSome = true) :
      Happens s (s.put stream ⟨s.drains.lane stream, (s.channels stream).shut⟩)
  | exit {s : Scene} (launched : s.child.isSome = true) : Happens s { s with exited := true }
  | drain {s : Scene} (stream : Stream) {o : Outlet} (launched : s.child.isSome = true)
      (step : Outlet.Step s.drains.stop (s.outlet stream) o) : Happens s (s.put stream o)

abbrev Becomes : Scene → Scene → Prop := Relation.ReflTransGen Happens

/-! ## What is answered -/

/-- Both results are asked for once. -/
def ask (s : Scene) : Scene := { s with drains := s.drains.join.2 }

def tell (s : Scene) : Scene := { s with drains := s.drains.requestStop }

def launch (s : Scene) (pid : Nat) : Scene := { s with child := some pid }

/-- The answers that fit a scene, with what becomes of it at that moment.  What the system may
    refuse is left open: the launch, the exit that cannot be observed, the group that cannot be
    found, the signal that is not delivered. -/
inductive Fits : Scene → Turn → Scene → Prop
  | wallClock (s : Scene) (t : Timestamp) : Fits s ⟨.wallClock, t⟩ s
  | clock (s : Scene) : Fits s ⟨.clock, s.now⟩ s
  | refused (s : Scene) (path : String) (cause : IoError) : Fits s ⟨.launch path, .error cause⟩ s
  /-- A child has a number, and not that of the supervisor's group. -/
  | launched {s : Scene} {path : String} (pid : Nat) (pos : 0 < pid) (word : pid < 2147483648)
      (other : (pid : Int) ≠ s.ownGroup) : Fits s ⟨.launch path, .ok (some pid)⟩ (s.launch pid)
  | exited {s : Scene} (deadline : Instant) (raw : Int32) (h : s.exited = true) :
      Fits s ⟨.exitOrDeadline deadline, some (.ok raw)⟩ s
  | unobserved (s : Scene) (deadline : Instant) (cause : IoError) :
      Fits s ⟨.exitOrDeadline deadline, some (.error cause)⟩ s
  | overran {s : Scene} {deadline : Instant} (h : s.now.reached deadline = true) :
      Fits s ⟨.exitOrDeadline deadline, none⟩ s
  | exitUntil (s : Scene) (deadline : Instant) : Fits s ⟨.exitUntil deadline, ()⟩ s
  | exitWithin (s : Scene) (span : Duration) : Fits s ⟨.exitWithin span, ()⟩ s
  | ungrouped (s : Scene) (process : Int) (cause : Errno) :
      Fits s ⟨.groupOf process, .error cause⟩ s
  | grouped {s : Scene} {process group : Int} (pos : 0 < group) (word : group < 2147483648) :
      Fits s ⟨.groupOf process, .ok group⟩ s
  | ownGroup (s : Scene) : Fits s ⟨.ownGroup, s.ownGroup⟩ s
  | signal (s : Scene) (group : Int) (sig : GroupSignal) (result : Except Errno Unit) :
      Fits s ⟨.signal group sig, result⟩ s
  | probe (s : Scene) (group : Int) (result : Except Errno Unit) : Fits s ⟨.probe group, result⟩ s
  | killChild (s : Scene) : Fits s ⟨.killChild, ()⟩ s
  /-- Waiting for the drains is given up at the deadline only. -/
  | join {s : Scene} {deadline : Instant} {joined : Bool} (hj : s.drains.join.1 = joined)
      (h : joined = false → s.now.reached deadline = true) :
      Fits s ⟨.joinUntil deadline, joined⟩ s.ask
  | collect {s : Scene} {both : Captured × Captured} (h : s.drains.collect? = some both) :
      Fits s ⟨.collect, both⟩ s

/-- A request is answered, after things have happened for a while. -/
inductive Answers : Scene → Turn → Scene → Prop
  | fit {s t u : Scene} {turn : Turn} (meanwhile : s.Becomes t) (fits : t.Fits turn u) :
      Answers s turn u
  | pause {s t : Scene} {span : Duration} (meanwhile : s.Becomes t)
      (slept : s.now.nanos + span.nanos ≤ t.now.nanos) : Answers s ⟨.pause span, ()⟩ t
  | stopDrains {s t : Scene} (meanwhile : s.tell.Becomes t) (joined : t.drains.join.1 = true) :
      Answers s ⟨.stopDrains, ()⟩ t.ask

/-! ## What stays -/

/-- A fact that survives whatever happens and whatever is answered. -/
structure Lasting (I : Scene → Prop) : Prop where
  happens : ∀ {s t : Scene}, Happens s t → I s → I t
  launch : ∀ {s : Scene} (pid : Nat), I s → I (s.launch pid)
  ask : ∀ {s : Scene}, I s → I s.ask
  tell : ∀ {s : Scene}, I s → I s.tell

namespace Lasting

variable {I : Scene → Prop}

lemma becomes {s t : Scene} (lasting : Lasting I) (h : s.Becomes t) (hs : I s) : I t := by
  induction h with
  | refl => exact hs
  | tail _ step ih => exact lasting.happens step ih

/-- **A lasting fact survives every answer.** -/
theorem answers {s t : Scene} {turn : Turn} (lasting : Lasting I) (h : s.Answers turn t)
    (hs : I s) : I t := by
  cases h with
  | fit meanwhile fits =>
      have hu := lasting.becomes meanwhile hs
      cases fits with
      | launched pid pos word other => exact lasting.launch _ hu
      | join hj h => exact lasting.ask hu
      | _ => exact hu
  | pause meanwhile slept => exact lasting.becomes meanwhile hs
  | stopDrains meanwhile joined =>
      exact lasting.ask (lasting.becomes meanwhile (lasting.tell hs))

lemma dialogue {α : Type} {p q : Program α} {s t : Scene} {exchanges : List (Exchange Scene)}
    (lasting : Lasting I) (h : Dialogue Answers p s exchanges q t) (hs : I s) : I t :=
  h.preserves (fun _ _ => lasting.answers) hs

end Lasting

/-! ## Soundness -/

def Sound (s : Scene) : Prop := ∀ stream, (s.outlet stream).Sound s.drains.stop

lemma Fresh.sound {s : Scene} (h : s.Fresh) : s.Sound := by
  intro stream
  obtain ⟨b, ho | ho⟩ := h.outlet stream
  · rw [ho]
    exact .start b
  · rw [ho]
    exact .missing b

/-- Replacing one outlet by a sound one. -/
lemma Sound.put {s : Scene} {stream : Stream} {o : Outlet} (h : s.Sound)
    (ho : o.Sound s.drains.stop) : (s.put stream o).Sound := by
  intro other
  rw [put_stop]
  by_cases hs : other = stream
  · rw [hs, outlet_put_same]
    exact ho
  · rw [outlet_put_other s o hs]
    exact h other

/-- An outlet whose slot was asked, or was not. -/
lemma outlet_ask (s : Scene) (stream : Stream) :
    s.ask.outlet stream = s.outlet stream ∨ s.ask.outlet stream =
      ⟨{ (s.outlet stream).lane with slot := (s.outlet stream).lane.slot.finish.2 },
        (s.outlet stream).channel⟩ := by
  rcases Drains.join_lane s.drains stream with hl | hl
  · left
    rw [outlet, Scene.ask, hl]
    rfl
  · right
    rw [outlet, Scene.ask, hl]
    rfl

/-- **The outlets stay sound.** -/
theorem lasting_sound : Lasting Sound where
  happens := by
    intro s t h hs
    cases h with
    | pass t later => exact hs
    | write stream who bytes launched isOpen runs =>
        exact hs.put ((hs stream).write isOpen who bytes)
    | shut stream launched => exact hs.put (hs stream).shut
    | exit launched => exact hs
    | drain stream launched step => exact hs.put (step.sound (hs _))
  launch := fun _ hs => hs
  ask := by
    intro s hs stream
    have hstop : s.ask.drains.stop = s.drains.stop := Drains.join_stop _
    rw [hstop]
    rcases outlet_ask s stream with ho | ho
    · rw [ho]
      exact hs stream
    · rw [ho]
      exact (hs stream).ask
  tell := fun hs stream => (hs stream).tell

/-- A result that a drain has left stays. -/
lemma lasting_result (stream : Stream) (result : DrainResult) :
    Lasting fun s => (s.drains.lane stream).task.result? = some result where
  happens := by
    intro s t h hs
    let P (o : Outlet) : Prop := o.lane.task.result? = some result
    cases h with
    | pass t later => exact hs
    | write other who bytes launched isOpen runs => exact outlet_put (P := P) hs id
    | shut other launched => exact outlet_put (P := P) hs id
    | exit launched => exact hs
    | drain other launched step => exact outlet_put (P := P) hs step.result
  launch := fun _ hs => hs
  ask := by
    intro s hs
    show (s.ask.outlet stream).lane.task.result? = some result
    rcases outlet_ask s stream with ho | ho <;> rw [ho] <;> exact hs
  tell := by
    intro s hs
    cases stream <;> exact hs

lemma lasting_exited : Lasting fun s => s.exited = true where
  happens := by
    intro s t h hs
    cases h <;> first | exact hs | rfl
  launch := fun _ hs => hs
  ask := fun hs => hs
  tell := fun hs => hs

lemma lasting_ownGroup (group : Int) : Lasting fun s => s.ownGroup = group where
  happens := by
    intro s t h hs
    cases h <;> exact hs
  launch := fun _ hs => hs
  ask := fun hs => hs
  tell := fun hs => hs

/-- Time does not go back. -/
lemma lasting_now (t : Instant) : Lasting fun s => t.nanos ≤ s.now.nanos where
  happens := by
    intro s u h hs
    cases h with
    | pass t later => exact Nat.le_trans hs later
    | _ => exact hs
  launch := fun _ hs => hs
  ask := fun hs => hs
  tell := fun hs => hs

/-! ## Requests to stop -/

lemma Becomes.stop {s t : Scene} (h : s.Becomes t) : t.drains.stop = s.drains.stop := by
  induction h with
  | refl => rfl
  | tail _ step ih =>
      rw [← ih]
      cases step <;> first | rfl | exact put_stop _ _ _

/-- Only one request tells the drains to stop. -/
lemma Answers.stop {s t : Scene} {turn : Turn} (h : s.Answers turn t)
    (hturn : turn.request ≠ .stopDrains) : t.drains.stop = s.drains.stop := by
  cases h with
  | fit meanwhile fits =>
      rw [← Becomes.stop meanwhile]
      cases fits <;> first | rfl | exact Drains.join_stop _
  | pause meanwhile slept => exact Becomes.stop meanwhile
  | stopDrains meanwhile joined => exact absurd rfl hturn

/-! ## Before the launch -/

/-- Without a child, nothing happens to the drains. -/
lemma Becomes.idle {s t : Scene} (h : s.Becomes t) (hs : s.child = none) :
    t.child = none ∧ t.drains = s.drains := by
  induction h with
  | refl => exact ⟨hs, rfl⟩
  | tail _ step ih =>
      obtain ⟨hchild, hdrains⟩ := ih
      cases step with
      | pass t later => exact ⟨hchild, hdrains⟩
      | write stream who bytes launched isOpen runs => simp [hchild] at launched
      | shut stream launched => simp [hchild] at launched
      | exit launched => simp [hchild] at launched
      | drain stream launched step => simp [hchild] at launched

/-- Nothing happens to the drains in turns that start nothing. -/
lemma idle {α : Type} {p q : Program α} {s t : Scene} {exchanges : List (Exchange Scene)}
    (h : Dialogue Answers p s exchanges q t) (hs : s.child = none)
    (hturns : ∀ turn ∈ Dialogue.turns exchanges, turn.Idle) : t.drains = s.drains := by
  have kept : t.child = none ∧ t.drains = s.drains :=
    Dialogue.preserves (I := fun u => u.child = none ∧ u.drains = s.drains) h
      (fun turn hm answered hu => by
        have hidle := hturns turn hm
        cases answered with
        | fit meanwhile fits =>
            obtain ⟨hchild, hdrains⟩ := Becomes.idle meanwhile hu.1
            cases fits <;> first | exact ⟨hchild, hdrains.trans hu.2⟩ | cases hidle
        | pause meanwhile slept => cases hidle
        | stopDrains meanwhile joined => cases hidle)
      ⟨hs, rfl⟩
  exact kept.2

/-! ## The captures -/

/-- What is handed over as the captures are the results that the drains have left. -/
theorem Answers.collected {s t : Scene} {both : Captured × Captured}
    (h : s.Answers ⟨.collect, both⟩ t) (hs : s.Sound) (stream : Stream) :
    ∃ result, (t.drains.lane stream).task.result? = some result ∧
      stream.pick both = .ofResult result := by
  cases h with
  | fit meanwhile fits =>
      cases fits with
      | collect h =>
          obtain ⟨result, hleft, hpick⟩ := Drains.collect_left h stream
          exact ⟨result, (lasting_sound.becomes meanwhile hs stream).agrees result hleft, hpick⟩

/-- They stay what the drains have left. -/
lemma collected {α : Type} {p q : Program α} {s t : Scene} {exchanges : List (Exchange Scene)}
    {both : Captured × Captured} (h : Dialogue Answers p s exchanges q t) (hs : s.Sound)
    (hm : ⟨.collect, both⟩ ∈ Dialogue.turns exchanges) (stream : Stream) :
    ∃ result, (t.drains.lane stream).task.result? = some result ∧
      stream.pick both = .ofResult result := by
  obtain ⟨_, _, s₁, s₂, _, _, first, answered, later⟩ := h.split hm
  obtain ⟨result, hresult, hpick⟩ := answered.collected (lasting_sound.dialogue first hs) stream
  exact ⟨result, (lasting_result stream result).dialogue later hresult, hpick⟩

/-- A child whose exit was observed has exited. -/
lemma observed {α : Type} {p q : Program α} {s t : Scene} {exchanges : List (Exchange Scene)}
    {deadline : Instant} {raw : Int32} (h : Dialogue Answers p s exchanges q t)
    (hm : ⟨.exitOrDeadline deadline, some (.ok raw)⟩ ∈ Dialogue.turns exchanges) :
    t.exited = true := by
  obtain ⟨_, _, s₁, s₂, _, _, first, answered, later⟩ := h.split hm
  refine lasting_exited.dialogue later ?_
  cases answered with
  | fit meanwhile fits =>
      cases fits with
      | exited deadline raw h => exact h

/-- A child is launched with a number. -/
lemma Answers.numbered {s t : Scene} {path : String} {pid : Option Nat}
    (h : s.Answers ⟨.launch path, .ok pid⟩ t) : ∃ child, pid = some child := by
  cases h with
  | fit meanwhile fits =>
      cases fits with
      | launched child pos word other => exact ⟨child, rfl⟩

/-- A child that was launched has a number. -/
lemma numbered {α : Type} {p q : Program α} {s t : Scene} {exchanges : List (Exchange Scene)}
    {path : String} {pid : Option Nat} (h : Dialogue Answers p s exchanges q t)
    (hm : ⟨.launch path, .ok pid⟩ ∈ Dialogue.turns exchanges) : ∃ child, pid = some child := by
  obtain ⟨_, _, s₁, s₂, _, _, -, answered, -⟩ := h.split hm
  exact answered.numbered

end Scene

end Supervisor

end Curfew
