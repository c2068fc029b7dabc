import Curfew.Proofs.Capture.Chronicle

/-!
# Sessions with a sink

A session is a list of calls on one sink, each made with its own patience.  A call that fails, or
is given up, leaves the copy and the destination different for good; this file says by how much.

* `Destination.forward_contents` — a forward moves a first part of its bytes to the destination, and
  all of them exactly if it ends well.
* **`Call.Passes`** — what a call has got through to the destination, with what it returned.
* `Sink.call_passes` — what a single call does to the copy and to the destination.
* **`session_law`** — the copy and the destination after any number of calls.
-/

namespace Curfew.Capture

/-! ## Forwards -/

namespace Destination

/-- A forward that goes on after an attempt has bytes left to forward, and one that fails had some
    before. -/
lemma push_left (d : Destination) (rest : Bytes) :
    match (d.push rest).1 with
    | .done => True
    | .failed _ => rest ≠ []
    | .again left => left ≠ []
    | .notReady left => left ≠ []
    | .stalled left => left ≠ []
    | .crashed => rest ≠ [] := by
  by_cases hr : rest = []
  · subst hr
    trivial
  · have hleft := Offer.progress_left (o := (Drain.start d).offering rest) hr
    have hpush : d.push rest = (((Drain.start d).offering rest).progress, (d.offer rest).2) :=
      (Drain.start d).push_offering hr
    rw [hpush]
    cases hp : ((Drain.start d).offering rest).progress with
    | done => trivial
    | failed cause => exact hr
    | crashed => exact hr
    | _ =>
        rw [hp] at hleft
        obtain ⟨rfl, hne⟩ := hleft
        exact hne

/-- **A forward** moves bytes from the front of what it was given to the end of what the destination
    holds, and ends well exactly if it has moved them all. -/
theorem forward_contents (patience : Nat) (rest : Bytes) (d : Destination) :
    ∃ piece, (d.forward patience rest).2.contents = d.contents ++ piece ∧ piece <+: rest ∧
      ((d.forward patience rest).1 = .done ↔ piece = rest) := by
  induction patience generalizing rest d with
  | zero =>
      refine ⟨[], (List.append_nil _).symm, List.nil_prefix, ?_⟩
      cases rest <;> simp [forward]
  | succ patience ih =>
      obtain ⟨moved, hd, hmoved⟩ := d.push_contents rest
      have hleft := d.push_left rest
      -- the attempts that follow take their bytes from what this one has left
      have onward {left : Bytes} (hl : moved ++ left = rest) :
          ∃ piece, ((d.push rest).2.forward patience left).2.contents = d.contents ++ piece ∧
            piece <+: rest ∧
            (((d.push rest).2.forward patience left).1 = .done ↔ piece = rest) := by
        obtain ⟨piece, hcontents, hpart, hdone⟩ := ih left (d.push rest).2
        refine ⟨moved ++ piece, by rw [hcontents, hd, List.append_assoc], ?_, ?_⟩
        · rw [← hl]
          exact (List.prefix_append_right_inj moved).mpr hpart
        · rw [hdone, ← hl, List.append_cancel_left_eq]
      rcases hp : d.push rest with ⟨progress, d'⟩
      rw [hp] at hd hmoved hleft onward
      cases progress with
      | done =>
          obtain rfl : moved = rest := hmoved
          refine ⟨moved, by simpa only [forward, hp] using hd, List.prefix_rfl, ?_⟩
          simp only [forward, hp]
      | failed cause =>
          obtain rfl : moved = [] := hmoved
          refine ⟨[], by simpa only [forward, hp] using hd, List.nil_prefix, ?_⟩
          simp only [forward, hp, reduceCtorEq, false_iff]
          exact fun h => hleft h.symm
      | again left => simpa only [forward, hp] using onward hmoved
      | notReady left => simpa only [forward, hp] using onward hmoved
      | stalled left =>
          refine ⟨moved, by simpa only [forward, hp] using hd, ⟨left, hmoved⟩, ?_⟩
          simp only [forward, hp, reduceCtorEq, false_iff]
          exact fun h => hleft (List.append_right_eq_self.mp (hmoved.trans h.symm))
      | crashed =>
          obtain rfl : moved = [] := hmoved
          refine ⟨[], by simpa only [forward, hp] using hd, List.nil_prefix, ?_⟩
          simp only [forward, hp, reduceCtorEq, false_iff]
          exact fun h => hleft h.symm

/-- Nothing to forward needs no attempt. -/
lemma forward_nil (patience : Nat) (d : Destination) : d.forward patience [] = (.done, d) := by
  cases patience <;> rfl

lemma flush_contents (patience : Nat) (d : Destination) :
    (d.flush patience).2.contents = d.contents := by
  induction patience generalizing d with
  | zero => rfl
  | succ patience ih =>
      have hd := d.flushOnce_contents
      rcases hp : d.flushOnce with ⟨result, d'⟩
      rw [hp] at hd
      cases result with
      | notReady => simpa only [flush, hp] using (ih d').trans hd
      | _ => simpa only [flush, hp] using hd

end Destination

/-! ## Calls -/

namespace Call

/-- The bytes that a call hands to the sink. -/
def bytes : Call → Bytes
  | .write bytes => bytes
  | .flush => []

/-- A call has returned this, and got this piece of its bytes through to the destination: a first
    part of them, and all of them exactly if it reports their number. -/
def Passes (c : Call) (returned : Returned) (piece : Bytes) : Prop :=
  piece <+: c.bytes ∧
    match c with
    | .write bytes => ∀ n, returned = .written n ↔ piece = bytes ∧ n = bytes.length
    | .flush => ∀ n, returned ≠ .written n

end Call

namespace Sink

/-- **A single call** adds its bytes to the copy, and what it has got through to the destination. -/
theorem call_passes (patience : Nat) (c : Call) (s : Sink) :
    (s.call patience c).2.snapshot = s.snapshot ++ c.bytes ∧
      ∃ piece, (s.call patience c).2.destination.contents = s.destination.contents ++ piece ∧
        c.Passes (s.call patience c).1 piece := by
  cases c with
  | write bytes =>
      obtain ⟨piece, hcontents, hpart, hdone⟩ := s.destination.forward_contents patience bytes
      refine ⟨Bytes.joined_cons bytes s.kept, piece, hcontents, hpart, fun n => ?_⟩
      rw [← hdone]
      change Returned.ofEnding _ (s.destination.forward patience bytes).1 = _ ↔ _
      cases (s.destination.forward patience bytes).1 <;> simp [Returned.ofEnding, eq_comm]
  | flush =>
      refine ⟨(List.append_nil _).symm, [], ?_, List.prefix_rfl, fun n => ?_⟩
      · rw [List.append_nil]
        exact s.destination.flush_contents patience
      · change Returned.ofEnding _ (s.destination.flush patience).1 ≠ _
        cases (s.destination.flush patience).1 <;> simp [Returned.ofEnding]

/-- A write of nothing succeeds without an attempt. -/
lemma call_nothing (patience : Nat) (s : Sink) :
    (s.call patience (.write [])).1 = .written 0 ∧
      (s.call patience (.write [])).2.destination = s.destination := by
  simp only [call, write, keep, Destination.forward_nil]
  trivial

/-! ## Sessions -/

/-- Makes calls one after the other, each with its patience, and gathers what they return. -/
def session : List (Nat × Call) → Sink → List Returned × Sink
  | [], s => ([], s)
  | (patience, c) :: later, s =>
    let (returned, s) := s.call patience c
    let (others, s) := s.session later
    (returned :: others, s)

/-- The sink after the first calls of a session. -/
def after (s : Sink) (calls : List (Nat × Call)) (n : Nat) : Sink := (s.session (calls.take n)).2

lemma after_zero (s : Sink) (calls : List (Nat × Call)) : s.after calls 0 = s := by
  simp [after, session]

lemma after_succ (s : Sink) (patience : Nat) (c : Call) (later : List (Nat × Call)) (n : Nat) :
    s.after ((patience, c) :: later) (n + 1) = (s.call patience c).2.after later n := rfl

/-- Every call of a session is a call on the sink that the earlier ones have left. -/
lemma session_call {s : Sink} {calls : List (Nat × Call)} {n patience : Nat} {c : Call}
    (h : calls[n]? = some (patience, c)) :
    (s.session calls).1[n]? = some ((s.after calls n).call patience c).1 ∧
      s.after calls (n + 1) = ((s.after calls n).call patience c).2 := by
  induction calls generalizing s n with
  | nil => cases h
  | cons first later ih =>
      obtain ⟨patience', c'⟩ := first
      cases n with
      | zero =>
          obtain ⟨rfl, rfl⟩ : patience' = patience ∧ c' = c := by simpa using h
          exact ⟨rfl, by rw [after_succ, after_zero, after_zero]⟩
      | succ n => exact ih h

/-- What the copy and the destination hold after any number of calls. -/
lemma session_passes (s : Sink) (calls : List (Nat × Call)) :
    ∃ pieces : List Bytes, pieces.length = calls.length ∧
      (∀ n, (s.after calls n).snapshot =
        s.snapshot ++ (calls.take n).flatMap fun call => call.2.bytes) ∧
      (∀ n, (s.after calls n).destination.contents =
        s.destination.contents ++ (pieces.take n).flatten) ∧
      ∀ (n patience : Nat) (c : Call), calls[n]? = some (patience, c) →
        ∃ piece, pieces[n]? = some piece ∧
          c.Passes ((s.after calls n).call patience c).1 piece := by
  induction calls generalizing s with
  | nil =>
      refine ⟨[], rfl, fun n => ?_, fun n => ?_, fun n patience c h => by cases h⟩
      · simp [after, session]
      · simp [after, session]
  | cons first later ih =>
      obtain ⟨patience, c⟩ := first
      obtain ⟨hsnapshot, piece, hcontents, hpasses⟩ := s.call_passes patience c
      obtain ⟨pieces, hlength, hkept, hheld, hall⟩ := ih (s.call patience c).2
      refine ⟨piece :: pieces, congrArg (· + 1) hlength, fun n => ?_, fun n => ?_, ?_⟩
      · cases n with
        | zero => simp [after_zero]
        | succ n => simp [after_succ, hkept, hsnapshot]
      · cases n with
        | zero => simp [after_zero]
        | succ n => simp [after_succ, hheld, hcontents]
      · intro n patience' c' h
        cases n with
        | zero =>
            obtain ⟨rfl, rfl⟩ : patience = patience' ∧ c = c' := by simpa using h
            rw [after_zero]
            exact ⟨piece, rfl, hpasses⟩
        | succ n => exact hall n patience' c' h

end Sink

/-- **The law of a session** with a sink that nothing was written to before, whatever its
    destination does, whatever is called, and wherever calls are given up.

    After any number of calls the copy holds the bytes of all the writes so far, those that failed
    or were given up included, and its size is theirs.  The destination holds one piece of each
    call.  The piece of a write is a first part of its bytes, and all of them exactly if it has
    returned their number.  A write of nothing does so without an attempt; a flush changes neither
    the copy nor what the destination holds.  Taking the sink apart yields the two.

    Hence they are the same if all writes have succeeded. -/
theorem session_law (b : Behaviour) (calls : List (Nat × Call)) :
    let s := Sink.ofDestination (.ofBehaviour b)
    ∃ pieces : List Bytes, pieces.length = calls.length ∧
      (∀ n, (s.after calls n).snapshot = (calls.take n).flatMap (fun call => call.2.bytes) ∧
        (s.after calls n).size = ((calls.take n).flatMap fun call => call.2.bytes).length ∧
        ((s.after calls n).isEmpty = true ↔
          (calls.take n).flatMap (fun call => call.2.bytes) = []) ∧
        (s.after calls n).destination.contents = (pieces.take n).flatten ∧
        (s.after calls n).intoParts = ((s.after calls n).snapshot, (s.after calls n).destination)) ∧
      (∀ (n patience : Nat) (bytes : Bytes), calls[n]? = some (patience, .write bytes) →
        ∃ returned piece, (s.session calls).1[n]? = some returned ∧ pieces[n]? = some piece ∧
          piece <+: bytes ∧
          (∀ k, returned = .written k ↔ piece = bytes ∧ k = bytes.length) ∧
          (bytes = [] → returned = .written 0 ∧
            (s.after calls (n + 1)).destination = (s.after calls n).destination)) ∧
      (∀ n patience : Nat, calls[n]? = some (patience, .flush) →
        (s.after calls (n + 1)).snapshot = (s.after calls n).snapshot ∧
        (s.after calls (n + 1)).destination.contents = (s.after calls n).destination.contents) ∧
      ((∀ (n patience : Nat) (bytes : Bytes), calls[n]? = some (patience, .write bytes) →
          ∃ k, (s.session calls).1[n]? = some (.written k)) →
        ∀ n, (s.after calls n).destination.contents = (s.after calls n).snapshot) := by
  intro s
  obtain ⟨pieces, hlength, hkept, hheld, hall⟩ := s.session_passes calls
  replace hkept (n : Nat) :
      (s.after calls n).snapshot = (calls.take n).flatMap fun call => call.2.bytes := hkept n
  replace hheld (n : Nat) : (s.after calls n).destination.contents = (pieces.take n).flatten :=
    hheld n
  refine ⟨pieces, hlength, fun n => ⟨hkept n, ?_, ?_, hheld n, rfl⟩, ?_, ?_, ?_⟩
  · rw [Sink.size, hkept]
  · rw [Sink.isEmpty, hkept, List.isEmpty_iff]
  · intro n patience bytes h
    obtain ⟨hreturned, hafter⟩ := Sink.session_call (s := s) h
    obtain ⟨piece, hpiece, hpart, hwhole⟩ := hall n patience _ h
    refine ⟨_, piece, hreturned, hpiece, hpart, hwhole, ?_⟩
    rintro rfl
    rw [hafter]
    exact Sink.call_nothing patience _
  · intro n patience h
    obtain ⟨hsnapshot, piece, hcontents, hpart, -⟩ :=
      (s.after calls n).call_passes patience .flush
    obtain rfl : piece = [] := List.prefix_nil.mp hpart
    rw [(Sink.session_call h).2]
    exact ⟨hsnapshot.trans (List.append_nil _), hcontents.trans (List.append_nil _)⟩
  · intro succeeded n
    -- every piece is the whole of what its call handed over
    have whole : pieces = calls.map fun call => call.2.bytes := by
      refine List.ext_getElem? fun i => ?_
      rw [List.getElem?_map]
      rcases hc : calls[i]? with _ | ⟨patience, c⟩
      · simpa [hlength] using hc
      · obtain ⟨piece, hpiece, hpart, hpasses⟩ := hall i patience c hc
        rw [hpiece]
        cases c with
        | write bytes =>
            obtain ⟨k, hk⟩ := succeeded i patience bytes hc
            rw [(Sink.session_call hc).1] at hk
            exact congrArg some ((hpasses k).mp (Option.some.inj hk)).1
        | flush => exact congrArg some (List.prefix_nil.mp hpart)
    rw [hheld, hkept, whole, ← List.map_take, List.flatMap]

/-- A write that fails after two of its bytes, one that is given up after one, and one that goes
    through in two pieces around an interruption. -/
theorem session_of_failures :
    ∃ (b : Behaviour) (pieces : List Bytes),
      let s := Sink.ofDestination (.ofBehaviour b)
      let calls : List (Nat × Call) :=
        [(9, .write [1, 2, 3]), (3, .write [4, 5]), (9, .write [6, 7, 8]), (9, .flush)]
      (s.session calls).1 = [.failed (.plain .brokenPipe), .abandoned, .written 3, .flushed] ∧
      (s.after calls 4).snapshot = [1, 2, 3, 4, 5, 6, 7, 8] ∧
      (s.after calls 4).destination.contents = pieces.flatten ∧
      pieces.flatten = [1, 2, 4, 6, 7, 8] := by
  let answers : List Reply :=
    [.accept (some 2), .fail (.plain .brokenPipe), .accept (some 1), .notReady, .notReady,
      .accept (some 2), .fail (.plain .interrupted)]
  let b : Behaviour := ⟨Behaviour.sequence answers (.accept none), fun _ => .accept none, ""⟩
  obtain ⟨pieces, hlength, hheld, -⟩ :=
    session_law b [(9, .write [1, 2, 3]), (3, .write [4, 5]), (9, .write [6, 7, 8]), (9, .flush)]
  obtain ⟨hsnapshot, -, -, hcontents, -⟩ := hheld 4
  rw [List.take_of_length_le (i := 4) (Nat.le_of_eq hlength)] at hcontents
  exact ⟨b, pieces, by decide, hsnapshot, hcontents, by rw [← hcontents]; decide⟩

end Curfew.Capture
