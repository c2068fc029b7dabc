import Curfew.Outcome.Basic
import Mathlib.Algebra.Group.Int.Defs
import Mathlib.Algebra.Group.Nat.Defs
import Mathlib.Tactic.Common

/-!
# Wait statuses

A raw wait status is a signed word.  Its low seven bits (`ending`) tell an exit from a death by a
signal, and bits 8 to 15 hold the code of an exit (`exitBits`).  Statuses are read by arithmetic on
integers; here they are told by their bits.

* `toInt_low` — the low bits of a word are a remainder, whatever its sign.
* **`Decodes`** — what a raw status stands for, one constructor for each of the four cases, and
  `decodes`, which says that statuses are read so.
* `Decodes.exitCode` — the exit code that a wrapper reports, in every case.
* **`Raised`** — the raw statuses of processes that have ended.
* **`wait_status_exit`** — what a raw status comes to, and what a wrapper reports for it.
-/

namespace Curfew.RunStatus

/-! ## Bits -/

/-- The low `k` bits of a word make its remainder by `2 ^ k`, also where the word is negative. -/
theorem toInt_low (x : BitVec 32) {k : Nat} (hk : k ≤ 30) :
    (x &&& BitVec.ofNat 32 (2 ^ k - 1)).toInt = x.toInt % 2 ^ k := by
  have hpow : 2 ^ k ≤ 2 ^ 30 := Nat.pow_le_pow_right (by decide) hk
  have hmask : (x &&& BitVec.ofNat 32 (2 ^ k - 1)).toNat = x.toNat % 2 ^ k := by
    rw [BitVec.toNat_and, BitVec.toNat_ofNat, Nat.mod_eq_of_lt (by omega),
      Nat.and_two_pow_sub_one_eq_mod]
  have hlt : x.toNat % 2 ^ k < 2 ^ k := Nat.mod_lt _ (Nat.two_pow_pos k)
  have hdvd : (2 ^ k : Int) ∣ (2 ^ 32 : Nat) := by
    exact_mod_cast Nat.pow_dvd_pow 2 (by omega : k ≤ 32)
  rw [BitVec.toInt_eq_toNat_of_lt (by omega), hmask, BitVec.toInt_eq_toNat_bmod,
    ← Int.emod_emod_of_dvd _ hdvd, Int.bmod_emod, Int.emod_emod_of_dvd _ hdvd]
  norm_cast

/-- The low seven bits of a raw status: 0 for an exit, 127 for a process that is only stopped, and
    otherwise the signal that ended the process. -/
def ending (raw : Int32) : Int32 := raw &&& 127

/-- Bits 8 to 15 of a raw status: the code of an exit. -/
def exitBits (raw : Int32) : Int32 := (raw >>> 8) &&& 255

lemma toInt_ending (raw : Int32) : (ending raw).toInt = raw.toInt % 128 := by
  have hlow := toInt_low raw.toBitVec (by decide : 7 ≤ 30)
  exact hlow

lemma toInt_exitBits (raw : Int32) : (exitBits raw).toInt = raw.toInt / 256 % 256 := by
  have hlow := toInt_low (raw >>> 8).toBitVec (by decide : 8 ≤ 30)
  have hshift : (raw >>> 8).toBitVec.toInt = raw.toInt / 256 := by
    rw [Int32.toBitVec_shiftRight, BitVec.toInt_sshiftRight']
    exact Int.shiftRight_eq_div_pow raw.toInt 8
  rw [hshift] at hlow
  exact hlow

lemma ending_range (raw : Int32) : 0 ≤ (ending raw).toInt ∧ (ending raw).toInt ≤ 127 := by
  rw [toInt_ending]
  omega

lemma exitBits_range (raw : Int32) : 0 ≤ (exitBits raw).toInt ∧ (exitBits raw).toInt ≤ 255 := by
  rw [toInt_exitBits]
  omega

/-! ## What a status stands for -/

/-- What a raw status stands for.  A word that is not 0 may have no bit set in either place. -/
inductive Decodes (raw : Int32) : RunStatus → Prop
  | success : raw = 0 → Decodes raw .success
  | exited : raw ≠ 0 → ending raw = 0 →
      Decodes raw (.executionError (some (exitBits raw).toInt) none)
  | signalled : 1 ≤ ending raw → ending raw ≤ 126 →
      Decodes raw (.executionError none (some (ending raw).toInt))
  | stopped : ending raw = 127 → Decodes raw (.executionError none none)

/-- A raw status stands for something. -/
lemma decodes (raw : Int32) : Decodes raw (ofWaitStatus raw) := by
  have hrange := ending_range raw
  rw [ofWaitStatus, ← toInt_ending, ← toInt_exitBits]
  split_ifs with hraw hexit hstop
  · exact .success (Int32.toInt_inj.mp hraw)
  · exact .exited (fun h => hraw (congrArg Int32.toInt h)) (Int32.toInt_inj.mp hexit)
  · exact .stopped (Int32.toInt_inj.mp hstop)
  · refine .signalled ?_ ?_ <;> rw [Int32.le_iff_toInt_le]
    · change 1 ≤ (ending raw).toInt
      omega
    · change (ending raw).toInt ≤ 126
      omega

/-- A raw status stands for one status only. -/
lemma Decodes.eq {raw : Int32} {status : RunStatus} (h : Decodes raw status) :
    ofWaitStatus raw = status := by
  rw [ofWaitStatus, ← toInt_ending, ← toInt_exitBits]
  cases h with
  | success hraw =>
      subst hraw
      rfl
  | exited hraw hexit =>
      have hne : raw.toInt ≠ 0 := fun h => hraw (Int32.toInt_inj.mp h)
      have hending : (ending raw).toInt = 0 := congrArg Int32.toInt hexit
      rw [if_neg hne, if_pos hending]
  | signalled hone hmost =>
      have hlow : 1 ≤ (ending raw).toInt := Int32.le_iff_toInt_le.mp hone
      have hhigh : (ending raw).toInt ≤ 126 := Int32.le_iff_toInt_le.mp hmost
      have hraw : raw.toInt ≠ 0 := fun h => by rw [toInt_ending, h] at hlow; omega
      rw [if_neg hraw, if_neg (by omega), if_neg (by omega)]
  | stopped hstop =>
      have hending : (ending raw).toInt = 127 := congrArg Int32.toInt hstop
      have hraw : raw.toInt ≠ 0 := fun h => by rw [toInt_ending, h] at hending; omega
      rw [if_neg hraw, if_neg (by omega), if_pos hending]

/-- **Raw statuses are read** by their bits. -/
theorem decodes_iff {raw : Int32} {status : RunStatus} :
    Decodes raw status ↔ ofWaitStatus raw = status :=
  ⟨Decodes.eq, fun h => h ▸ decodes raw⟩

namespace Decodes

variable {raw : Int32} {status : RunStatus}

/-- Success is the word 0 alone. -/
lemma success_iff (h : Decodes raw status) : status = .success ↔ raw = 0 := by
  cases h with
  | success hraw => exact iff_of_true rfl hraw
  | exited hraw hexit => exact iff_of_false RunStatus.noConfusion hraw
  | signalled hone hmost =>
      refine iff_of_false RunStatus.noConfusion ?_
      rintro rfl
      exact absurd hone (by decide)
  | stopped hstop =>
      refine iff_of_false RunStatus.noConfusion ?_
      rintro rfl
      exact absurd hstop (by decide)

/-- No status has both a code and a signal. -/
lemma one_at_most (h : Decodes raw status) {code signal : Option Int}
    (hs : status = .executionError code signal) : code = none ∨ signal = none := by
  cases h <;> cases hs
  case exited => exact .inr rfl
  case signalled => exact .inl rfl
  case stopped => exact .inl rfl

/-- **The exit code of a status**: bits 8 to 15 where the low seven are 0, success included. -/
theorem exitCode (h : Decodes raw status) :
    status.exitCode =
      if ending raw = 0 then (exitBits raw).toInt
      else if ending raw = 127 then 1
      else 128 + (ending raw).toInt := by
  cases h with
  | success hraw =>
      subst hraw
      rfl
  | exited hraw hexit => rw [if_pos hexit]; rfl
  | signalled hone hmost =>
      rw [if_neg, if_neg]
      · rfl
      · intro h
        rw [h] at hmost
        exact absurd hmost (by decide)
      · intro h
        rw [h] at hone
        exact absurd hone (by decide)
  | stopped hstop => rw [hstop]; rfl

/-- A signal is between 1 and 126. -/
lemma signal_range (h : Decodes raw status) {signal : Int} (hs : status.scriptSignal = some signal) :
    1 ≤ signal ∧ signal ≤ 126 ∧ status.exitCode = 128 + signal := by
  cases h with
  | signalled hone hmost =>
      obtain rfl : (ending raw).toInt = signal := Option.some.inj hs
      exact ⟨Int32.le_iff_toInt_le.mp hone, Int32.le_iff_toInt_le.mp hmost, rfl⟩
  | success hraw => cases hs
  | exited hraw hexit => cases hs
  | stopped hstop => cases hs

/-- Exit codes fit a byte, and that of a signal or a stop is not 0. -/
lemma exitCode_range (h : Decodes raw status) :
    0 ≤ status.exitCode ∧ status.exitCode ≤ 255 ∧
      (status.exitCode = 0 ↔ ending raw = 0 ∧ exitBits raw = 0) := by
  have hending := ending_range raw
  have hbits := exitBits_range raw
  have hzero : exitBits raw = 0 ↔ (exitBits raw).toInt = 0 := Int32.toInt_inj.symm
  rw [h.exitCode]
  split_ifs with hexit hstop
  · exact ⟨hbits.1, hbits.2, by rw [hzero, and_iff_right hexit]⟩
  · exact ⟨by decide, by decide, iff_of_false (by decide) fun h => hexit h.1⟩
  · exact ⟨by omega, by omega, iff_of_false (by omega) fun h => hexit h.1⟩

end Decodes

/-! ## What a system reports -/

/-- The raw statuses of processes that have ended: an exit with the code in bits 8 to 15, or a death
    by a signal, with or without a mark for an image of the memory. -/
inductive Raised : Int32 → Prop
  | exit (code : Int32) : 0 ≤ code → code ≤ 255 → Raised (code <<< 8)
  | death (signal : Int32) : 1 ≤ signal → signal ≤ 126 → Raised signal
  | dumped (signal : Int32) : 1 ≤ signal → signal ≤ 126 → Raised (signal ||| 128)

lemma toInt_exit {code : Int32} (h0 : 0 ≤ code) (h255 : code ≤ 255) :
    (code <<< 8).toInt = code.toInt * 256 := by
  have hlow : 0 ≤ code.toInt := Int32.le_iff_toInt_le.mp h0
  have hhigh : code.toInt ≤ 255 := Int32.le_iff_toInt_le.mp h255
  have hword : code.toInt = code.toBitVec.toNat := by
    change code.toBitVec.toInt = _
    change 0 ≤ code.toBitVec.toInt at hlow
    rw [BitVec.toInt_eq_toNat_cond] at hlow ⊢
    split_ifs at hlow ⊢ <;> omega
  change (code.toBitVec <<< (8 : Nat)).toInt = _
  rw [BitVec.toInt_shiftLeft, Nat.shiftLeft_eq, Int.natCast_mul, ← hword]
  exact Int.bmod_eq_of_le (by omega) (by omega)

/-- A signal is its own ending. -/
lemma ending_signal {signal : Int32} (h1 : 1 ≤ signal) (h126 : signal ≤ 126) :
    ending signal = signal := by
  have hlow : 1 ≤ signal.toInt := Int32.le_iff_toInt_le.mp h1
  have hhigh : signal.toInt ≤ 126 := Int32.le_iff_toInt_le.mp h126
  rw [← Int32.toInt_inj, toInt_ending]
  omega

/-- The mark for an image of the memory is no part of the ending. -/
lemma ending_dumped (signal : Int32) : ending (signal ||| 128) = ending signal := by
  apply Int32.toBitVec_inj.mp
  change (signal.toBitVec ||| 128) &&& 127 = signal.toBitVec &&& 127
  rw [BitVec.and_or_distrib_right]
  exact BitVec.or_zero

/-- Of the statuses of ended processes, only the word 0 has neither an ending nor a code. -/
lemma Raised.eq_zero {raw : Int32} (h : Raised raw) (hending : ending raw = 0)
    (hbits : exitBits raw = 0) : raw = 0 := by
  cases h with
  | exit code h0 h255 =>
      have hcode : code.toInt * 256 / 256 % 256 = 0 := by
        rw [← toInt_exit h0 h255, ← toInt_exitBits, hbits]
        rfl
      have hlow : 0 ≤ code.toInt := Int32.le_iff_toInt_le.mp h0
      have hhigh : code.toInt ≤ 255 := Int32.le_iff_toInt_le.mp h255
      obtain rfl : code = 0 := Int32.toInt_inj.mp (show code.toInt = 0 by omega)
      rfl
  | death signal h1 h126 =>
      rw [ending_signal h1 h126] at hending
      exact hending
  | dumped signal h1 h126 =>
      rw [ending_dumped, ending_signal h1 h126] at hending
      subst hending
      exact absurd h1 (by decide)

/-- **What a raw wait status comes to**, over all words, negative ones included, and whatever else an
    outcome with that status holds.

    The status is read by its bits: success is the word 0 alone, and no status has both a code and a
    signal.  The exit code of the outcome fits a byte, so nothing is lost where it is cut to its low
    eight bits; that of a signal is between 129 and 254, and adding 128 to a signal stays within a
    word.  It is 0 exactly if neither the low seven bits nor bits 8 to 15 have one set.

    Hence, for the statuses of processes that have ended, it is 0 exactly on success. -/
theorem wait_status_exit (raw : Int32) (o : Outcome) (h : o.status = .ofWaited (.ok raw)) :
    (∀ status, Decodes raw status ↔ o.status = status) ∧
    (o.status = .success ↔ raw = 0) ∧
    (∀ code signal, o.status = .executionError code signal → code = none ∨ signal = none) ∧
    (0 ≤ o.exitCode ∧ o.exitCode ≤ 255 ∧ (Int32.ofInt o.exitCode &&& 255).toInt = o.exitCode) ∧
    (∀ signal, o.status.scriptSignal = some signal →
      (128 + Int32.ofInt signal).toInt = 128 + signal ∧ o.exitCode = 128 + signal ∧
        129 ≤ o.exitCode ∧ o.exitCode ≤ 254) ∧
    (o.exitCode = 0 ↔ ending raw = 0 ∧ exitBits raw = 0) ∧
    (Raised raw → (o.exitCode = 0 ↔ o.status = .success)) := by
  have hdecodes : Decodes raw o.status := decodes_iff.mpr h.symm
  obtain ⟨hlow, hhigh, hzero⟩ := hdecodes.exitCode_range
  rw [show o.exitCode = o.status.exitCode from rfl]
  refine ⟨fun status => h ▸ decodes_iff, hdecodes.success_iff, fun _ _ => hdecodes.one_at_most,
    ⟨hlow, hhigh, ?_⟩, fun signal hs => ?_, hzero, fun hraised => ?_⟩
  · have hword : (Int32.ofInt o.status.exitCode).toInt = o.status.exitCode :=
      Int32.toInt_ofInt_of_le (by omega) (by omega)
    have hcut := toInt_low (Int32.ofInt o.status.exitCode).toBitVec (by decide : 8 ≤ 30)
    change (Int32.ofInt o.status.exitCode &&& 255).toInt = (Int32.ofInt o.status.exitCode).toInt % 256
      at hcut
    rw [hcut, hword]
    omega
  · obtain ⟨hone, hmost, hcode⟩ := hdecodes.signal_range hs
    have hword : (Int32.ofInt signal).toInt = signal :=
      Int32.toInt_ofInt_of_le (by omega) (by omega)
    refine ⟨?_, hcode, by omega, by omega⟩
    rw [Int32.toInt_add, hword]
    exact Int.bmod_eq_of_le (by change _ ≤ 128 + signal; omega) (by change 128 + signal < _; omega)
  · rw [hzero, hdecodes.success_iff]
    constructor
    · rintro ⟨hending, hbits⟩
      exact hraised.eq_zero hending hbits
    · rintro rfl
      exact ⟨rfl, rfl⟩

/-- The least word of all has neither an ending nor a code and is not 0: its exit code is 0 without
    success.  No process that has ended has it. -/
theorem exit_zero_of_least_word :
    ∃ o : Outcome, o.status = .ofWaited (.ok Int32.minValue) ∧ o.exitCode = 0 ∧
      o.status = .executionError (some 0) none ∧ ¬ Raised Int32.minValue := by
  let o : Outcome := ⟨[], [], .ofWaited (.ok Int32.minValue), some 7, .ofSeconds 1, ⟨0, 0⟩⟩
  obtain ⟨hread, -, -, -, -, hzero, hraised⟩ := wait_status_exit Int32.minValue o rfl
  have hcode : o.exitCode = 0 := hzero.mpr ⟨rfl, rfl⟩
  have hstatus : o.status = .executionError (some 0) none :=
    (hread _).mp (.exited (by decide) rfl)
  refine ⟨o, rfl, hcode, hstatus, fun h => ?_⟩
  have hsuccess := (hraised h).mp hcode
  rw [hstatus] at hsuccess
  cases hsuccess

end Curfew.RunStatus
