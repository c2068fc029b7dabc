import Curfew.Proofs.Toml.Readers
import Curfew.Toml.Number

/-!
# Whole numbers in decimal

* **`Numeral`** — a whole number as it may be written in decimal: perhaps with a sign, perhaps with
  single underscores between the digits, and without a zero in front of other digits.
* `decimalDigits_unsigned`, `dateTime_chars`, `digitFloat_chars` — a numeral has its digits, and is
  neither a date nor a float.
* **`numberOrDate_chars`** — a numeral is read as the integer that it stands for, if that fits.
* **`Numeral.ofInt`** — every integer has a numeral, which is its usual text.
-/

namespace Curfew.Toml

/-- A rest at which a value is over: the document ends, or a blank or a line end comes next. -/
def Closes (rest : List Char) : Prop := Ends (fun c => !(isBlank c || c == '\n' || c == '\r')) rest

/-- A class without blanks and line ends has come to its end where a value is over. -/
lemma Closes.ends {p : Char → Bool} {rest : List Char} (h : Closes rest) (hspace : p ' ' = false)
    (htab : p '\t' = false) (hfeed : p '\n' = false) (hreturn : p '\r' = false) : Ends p rest :=
  Ends.mono h fun c hc => by
    simp only [isBlank, Bool.not_eq_false', Bool.or_eq_true, beq_iff_eq] at hc
    rcases hc with ((rfl | rfl) | rfl) | rfl <;> assumption

inductive Sign
  | none
  | plus
  | minus

def Sign.chars : Sign → List Char
  | .none => []
  | .plus => ['+']
  | .minus => ['-']

lemma Sign.mem_chars {s : Sign} {c : Char} (h : c ∈ s.chars) : c = '+' ∨ c = '-' := by
  cases s with
  | none => cases h
  | plus => exact .inl (List.mem_singleton.mp h)
  | minus => exact .inr (List.mem_singleton.mp h)

/-- A whole number in decimal: its sign, its first digit, and further digits, each of them perhaps
    with an underscore in front. -/
structure Numeral where
  sign : Sign
  first : Char
  more : List (Bool × Char)
  isDigit_first : first.isDigit = true
  isDigit_more : ∀ d ∈ more, d.2.isDigit = true
  no_leading_zero : first = '0' → more = []

/-- Digits after the first as they are written. -/
def tailChars (more : List (Bool × Char)) : List Char :=
  more.flatMap fun d => if d.1 then ['_', d.2] else [d.2]

namespace Numeral

variable (m : Numeral)

def digits : List Char := m.first :: m.more.map Prod.snd

/-- The numeral without its sign. -/
def unsigned : List Char := m.first :: tailChars m.more

/-- The numeral as it is written. -/
def chars : List Char := m.sign.chars ++ m.unsigned

/-- Whether a minus stands in front. -/
def isNegative : Bool :=
  match m.sign with
  | .minus => true
  | _ => false

/-- The integer that the numeral stands for. -/
def value : Int :=
  let magnitude := Nat.ofDigitChars 10 m.digits 0
  if m.isNegative then -magnitude else magnitude

lemma mem_unsigned {c : Char} (h : c ∈ m.unsigned) : c.isDigit = true ∨ c = '_' := by
  rcases List.mem_cons.mp h with rfl | h
  · exact .inl m.isDigit_first
  · obtain ⟨⟨underscored, d⟩, hd, hc⟩ := List.mem_flatMap.mp h
    have hdigit : d.isDigit = true := m.isDigit_more _ hd
    cases underscored with
    | false =>
        obtain rfl : c = d := by simpa using hc
        exact .inl hdigit
    | true =>
        rcases (by simpa using hc : c = '_' ∨ c = d) with rfl | rfl
        · exact .inr rfl
        · exact .inl hdigit

lemma isDigit_of_mem_digits {c : Char} (h : c ∈ m.digits) : c.isDigit = true := by
  rcases List.mem_cons.mp h with rfl | h
  · exact m.isDigit_first
  · obtain ⟨d, hd, rfl⟩ := List.mem_map.mp h
    exact m.isDigit_more d hd

end Numeral

/-! ## Digits -/

/-- Digits stand for the same number as in the library's reading of them. -/
lemma numberOf_ten {digits : List Char} (h : ∀ c ∈ digits, c.isDigit = true) :
    numberOf 10 digits = Nat.ofDigitChars 10 digits 0 := by
  have fold (n : Nat) : digits.foldl (fun n c => n * 10 + digitValue c) n =
      Nat.ofDigitChars 10 digits n := by
    induction digits generalizing n with
    | nil => rfl
    | cons c digits ih =>
        rw [List.foldl_cons, Nat.ofDigitChars_cons, ih fun d hd => h d (List.mem_cons_of_mem c hd),
          digitValue, if_pos (h c List.mem_cons_self), Nat.mul_comm]
  exact fold 0

/-- Further digits are read to their end, given a unit of fuel for each and one more. -/
lemma digitTail_tailChars {more : List (Bool × Char)} {rest : List Char}
    (hmore : ∀ d ∈ more, d.2.isDigit = true) (hrest : Closes rest) {fuel : Nat}
    (hfuel : more.length < fuel) (got : List Char) (n : Nat) :
    digitTail Char.isDigit fuel got ⟨tailChars more ++ rest, n⟩ =
      some (got.reverse ++ more.map Prod.snd, ⟨rest, n + Cursor.byteCount (tailChars more)⟩) := by
  induction more generalizing fuel got n with
  | nil =>
      obtain ⟨fuel, rfl⟩ := Nat.exists_eq_add_one_of_ne_zero (Nat.ne_of_gt hfuel)
      have hdigit : Ends Char.isDigit rest := hrest.ends rfl rfl rfl rfl
      have hunderscore : Ends (· == '_') rest := hrest.ends rfl rfl rfl rfl
      simp only [tailChars, List.flatMap_nil, List.nil_append, digitTail,
        Cursor.one_of_ends hdigit, Cursor.expect_of_ends hunderscore]
      simp
  | cons d more ih =>
      obtain ⟨fuel, rfl⟩ := Nat.exists_eq_add_one_of_ne_zero (Nat.ne_of_gt (Nat.zero_lt_of_lt hfuel))
      obtain ⟨underscored, c⟩ := d
      have hc : c.isDigit = true := hmore (underscored, c) List.mem_cons_self
      have onward (n : Nat) := ih (fun d hd => hmore d (List.mem_cons_of_mem _ hd))
        (Nat.lt_of_succ_lt_succ hfuel) (c :: got) n
      cases underscored with
      | false =>
          have htext : tailChars ((false, c) :: more) = c :: tailChars more := rfl
          rw [htext, List.cons_append, digitTail, Cursor.one_cons hc]
          simp only [onward]
          simp [Nat.add_assoc]
      | true =>
          have htext : tailChars ((true, c) :: more) = '_' :: c :: tailChars more := rfl
          have hunderscore : Ends Char.isDigit ('_' :: c :: (tailChars more ++ rest)) :=
            ends_cons.mpr rfl
          rw [htext, List.cons_append, List.cons_append, digitTail, Cursor.one_of_ends hunderscore]
          simp only [Cursor.expect_cons, Option.bind_eq_bind, Cursor.one_cons hc, Option.bind_some,
            onward]
          simp [Nat.add_assoc]

namespace Numeral

variable (m : Numeral)

lemma length_more_lt (rest : List Char) : m.more.length < (tailChars m.more ++ rest).length + 1 := by
  have hlength (more : List (Bool × Char)) : more.length ≤ (tailChars more).length := by
    induction more with
    | nil => exact Nat.le_refl 0
    | cons d more ih =>
        have htext : tailChars (d :: more) = tailChars [d] ++ tailChars more := by simp [tailChars]
        have hd : 1 ≤ (tailChars [d]).length := by
          obtain ⟨underscored, c⟩ := d
          cases underscored <;> simp [tailChars]
        rw [htext, List.length_append, List.length_cons]
        omega
  have := hlength m.more
  rw [List.length_append]
  omega

/-- The digits of a numeral are read to their end. -/
theorem decimalDigits_unsigned {rest : List Char} (hrest : Closes rest) (n : Nat) :
    decimalDigits ⟨m.unsigned ++ rest, n⟩ =
      some (m.digits, ⟨rest, n + Cursor.byteCount m.unsigned⟩) := by
  by_cases hzero : m.first = '0'
  · have hmore : m.more = [] := m.no_leading_zero hzero
    have htext : m.unsigned = ['0'] := by rw [unsigned, hmore, hzero]; rfl
    have hdigits : m.digits = ['0'] := by rw [digits, hmore, hzero]; rfl
    rw [htext, hdigits, decimalDigits]
    simp only [List.cons_append, List.nil_append, Cursor.expect_cons]
    rfl
  · have hother : Ends (· == '0') (m.unsigned ++ rest) := ends_cons.mpr (by simpa using hzero)
    rw [decimalDigits, Cursor.expect_of_ends hother]
    simp only [unsigned, List.cons_append, digitRun, Cursor.one_cons m.isDigit_first,
      Option.bind_eq_bind, Option.bind_some]
    rw [digitTail_tailChars m.isDigit_more hrest (m.length_more_lt rest)]
    simp [digits, Nat.add_assoc]

/-- A numeral without its sign begins with no character of a class without digits. -/
lemma ends_unsigned {p : Char → Bool} (hp : ∀ c, c.isDigit = true → p c = false)
    (rest : List Char) : Ends p (m.unsigned ++ rest) :=
  ends_cons.mpr (hp m.first m.isDigit_first)

/-- The sign of a numeral is read first. -/
lemma sign_chars (rest : List Char) (n : Nat) :
    Toml.sign ⟨m.chars ++ rest, n⟩ =
      (m.isNegative, ⟨m.unsigned ++ rest, n + Cursor.byteCount m.sign.chars⟩) := by
  have hdigit (c : Char) (hc : c.isDigit = true) : (c == '+' || c == '-') = false := by
    rw [beq_of_class hc rfl, beq_of_class hc rfl]
    rfl
  rw [Toml.sign, chars, isNegative]
  cases m.sign with
  | none =>
      rw [Sign.chars, List.nil_append, Cursor.one_of_ends (m.ends_unsigned hdigit rest)]
      rfl
  | plus =>
      rw [Sign.chars, List.append_assoc, List.singleton_append, Cursor.one_cons rfl]
      rfl
  | minus =>
      rw [Sign.chars, List.append_assoc, List.singleton_append, Cursor.one_cons rfl]
      rfl

/-! ## Neither a date nor a float -/

end Numeral

/-- A reading of a fixed number of digits stops after them. -/
lemma fixedNumber_eq_some {width least most x n : Nat} {chars : List Char} {cur : Cursor}
    (h : fixedNumber width least most ⟨chars, n⟩ = some (x, cur)) :
    cur.rest = chars.drop width ∧ width ≤ chars.length ∧
      ∀ c ∈ chars.take width, c.isDigit = true := by
  simp only [fixedNumber, Cursor.takeBetween, Option.bind_eq_bind] at h
  split at h
  · cases h
  · rename_i hwidth
    -- no fewer digits were taken than asked for, so they are all that was looked at
    have hall : (chars.take width).takeWhile Char.isDigit = chars.take width := by
      refine (List.takeWhile_prefix _).eq_of_length_le ?_
      exact Nat.le_trans (List.length_take_le _ _) (Nat.not_lt.mp hwidth)
    have hlength : (chars.take width).length = width := by
      refine Nat.le_antisymm (List.length_take_le _ _) ?_
      rw [← hall]
      exact Nat.not_lt.mp hwidth
    simp only [Option.bind_some, hall, hlength] at h
    split at h
    · obtain ⟨-, rfl⟩ := Prod.mk.inj (Option.some.inj h)
      refine ⟨rfl, ?_, fun c hc => ?_⟩
      · rw [← hlength]
        exact List.length_take_le' _ _
      · rw [← hall] at hc
        exact List.all_eq_true.mp List.all_takeWhile c hc
    · cases h

namespace Numeral

variable (m : Numeral)

/-- What comes after some digits of a numeral is a digit, an underscore, or what comes after it. -/
lemma ends_drop {p : Char → Bool} {rest : List Char} (hdigit : ∀ c, c.isDigit = true → p c = false)
    (hunderscore : p '_' = false) (hrest : Closes rest) (hp : Ends p rest) {width : Nat}
    (hwidth : width ≤ (m.unsigned ++ rest).length)
    (htake : ∀ c ∈ (m.unsigned ++ rest).take width, c.isDigit = true) :
    Ends p ((m.unsigned ++ rest).drop width) := by
  by_cases hinside : width ≤ m.unsigned.length
  · rw [List.drop_append_of_le_length hinside]
    refine Ends.append (fun c hc => ?_) hp
    rcases m.mem_unsigned (List.mem_of_mem_drop hc) with hc | rfl
    · exact hdigit c hc
    · exact hunderscore
  · -- the first character after the numeral would have been taken for a digit
    obtain ⟨c, tail, rfl⟩ : ∃ c tail, rest = c :: tail := by
      refine List.exists_cons_of_ne_nil ?_
      rintro rfl
      rw [List.append_nil] at hwidth
      exact hinside hwidth
    have hc : c.isDigit = true := by
      refine htake c ?_
      rw [List.take_append, List.mem_append]
      refine .inr ?_
      rw [← Nat.sub_add_cancel (Nat.sub_pos_of_lt (Nat.not_le.mp hinside)), List.take_succ_cons]
      exact List.mem_cons_self
    have hnot : c.isDigit = false := ends_cons.mp (hrest.ends rfl rfl rfl rfl)
    cases hc.symm.trans hnot

/-- No mark of a date or a time comes after the first digits of a numeral. -/
lemma expect_after {rest : List Char} (hrest : Closes rest) {mark : Char}
    (hdigit : mark.isDigit = false) (hunderscore : mark ≠ '_') (hmark : Ends (· == mark) rest)
    {width least most x n : Nat} {cur : Cursor}
    (h : fixedNumber width least most ⟨m.unsigned ++ rest, n⟩ = some (x, cur)) :
    cur.expect mark = none := by
  obtain ⟨hcur, hwidth, htake⟩ := fixedNumber_eq_some h
  have hother (c : Char) (hc : c.isDigit = true) : (c == mark) = false :=
    beq_of_class hc hdigit
  refine Cursor.expect_of_ends (n := cur.offset) ?_
  rw [hcur]
  exact m.ends_drop hother (beq_eq_false_iff_ne.mpr hunderscore.symm) hrest hmark hwidth htake

lemma timeOfDay_unsigned {rest : List Char} (hrest : Closes rest) (n : Nat) :
    timeOfDay ⟨m.unsigned ++ rest, n⟩ = .notDate := by
  rw [timeOfDay]
  split
  · rfl
  · rename_i x cur h
    rw [m.expect_after hrest rfl (by decide) (hrest.ends rfl rfl rfl rfl) h]

lemma dateTime_unsigned {rest : List Char} (hrest : Closes rest) (n : Nat) :
    dateTime ⟨m.unsigned ++ rest, n⟩ = .notDate := by
  rw [dateTime]
  split
  · exact m.timeOfDay_unsigned hrest n
  · rename_i x cur h
    rw [m.expect_after hrest rfl (by decide) (hrest.ends rfl rfl rfl rfl) h]
    exact m.timeOfDay_unsigned hrest n

end Numeral

/-- What does not begin with a digit is no date and no time. -/
lemma dateTime_of_ends {chars : List Char} (h : Ends Char.isDigit chars) (n : Nat) :
    dateTime ⟨chars, n⟩ = .notDate := by
  have hnone (width least most : Nat) (hwidth : 0 < width) :
      fixedNumber width least most ⟨chars, n⟩ = none := by
    cases hf : fixedNumber width least most ⟨chars, n⟩ with
    | none => rfl
    | some reading =>
        obtain ⟨x, cur⟩ := reading
        obtain ⟨-, hlength, htake⟩ := fixedNumber_eq_some hf
        obtain ⟨c, tail, rfl⟩ : ∃ c tail, chars = c :: tail :=
          List.exists_cons_of_length_pos (Nat.lt_of_lt_of_le hwidth hlength)
        have hc : c.isDigit = true := by
          refine htake c ?_
          rw [← Nat.sub_add_cancel hwidth, List.take_succ_cons]
          exact List.mem_cons_self
        cases hc.symm.trans (ends_cons.mp h)
  rw [dateTime, hnone 4 _ _ (by decide), timeOfDay, hnone 2 _ _ (by decide)]

namespace Numeral

variable (m : Numeral)

/-- A numeral is no date and no time. -/
theorem dateTime_chars {rest : List Char} (hrest : Closes rest) (n : Nat) :
    dateTime ⟨m.chars ++ rest, n⟩ = .notDate := by
  rw [chars]
  cases m.sign with
  | none => exact m.dateTime_unsigned hrest n
  | plus => exact dateTime_of_ends (ends_cons.mpr rfl) n
  | minus => exact dateTime_of_ends (ends_cons.mpr rfl) n

/-- A numeral is no float. -/
theorem digitFloat_chars {rest : List Char} (hrest : Closes rest) (n : Nat) :
    digitFloat ⟨m.chars ++ rest, n⟩ = .notFloat := by
  have hpoint : Ends (· == '.') rest := hrest.ends rfl rfl rfl rfl
  have hexponent : Ends (fun c => c == 'e' || c == 'E') rest := hrest.ends rfl rfl rfl rfl
  simp only [digitFloat, m.sign_chars, m.decimalDigits_unsigned hrest, fraction,
    Cursor.expect_of_ends hpoint, exponent, Cursor.one_of_ends hexponent]
  rfl

/-- A numeral is no infinity and no other special float. -/
theorem specialFloat_chars (rest : List Char) (n : Nat) :
    specialFloat ⟨m.chars ++ rest, n⟩ = none := by
  have hword {c : Char} (hc : c.isDigit = false) (tail : List Char) (n : Nat) :
      (⟨m.unsigned ++ rest, n⟩ : Cursor).literal (c :: tail) = none :=
    Cursor.literal_of_ends (m.ends_unsigned (fun d hd => beq_of_class hd hc) rest)
  simp only [specialFloat, m.sign_chars, hword (c := 'i') rfl, hword (c := 'n') rfl]

/-- A numeral has no marker of another base. -/
lemma literal_marker {rest : List Char} (hrest : Closes rest) (mark : Char)
    (hmark : Ends (· == mark) rest) (n : Nat) :
    (⟨m.chars ++ rest, n⟩ : Cursor).literal ['0', mark] = none := by
  rw [chars]
  cases m.sign with
  | plus => exact Cursor.literal_of_ends (ends_cons.mpr rfl)
  | minus => exact Cursor.literal_of_ends (ends_cons.mpr rfl)
  | none =>
      by_cases hzero : m.first = '0'
      · have htext : m.unsigned = ['0'] := by rw [unsigned, m.no_leading_zero hzero, hzero]; rfl
        refine Cursor.literal_of_not_prefix ?_
        rintro ⟨tail, h⟩
        rw [htext] at h
        obtain rfl : mark :: tail = rest := (List.cons.inj h).2
        exact beq_eq_false_iff_ne.mp ((ends_cons (p := (· == mark))).mp hmark) rfl
      · exact Cursor.literal_of_ends (ends_cons.mpr (beq_eq_false_iff_ne.mpr hzero))

/-- **A numeral is read** as the integer that it stands for, if that fits a word. -/
theorem numberOrDate_chars {rest : List Char} (hrest : Closes rest)
    (hlow : -9223372036854775808 ≤ m.value) (hhigh : m.value < 9223372036854775808) (n : Nat) :
    numberOrDate ⟨m.chars ++ rest, n⟩ =
      some (.integer m.value, ⟨rest, n + Cursor.byteCount m.chars⟩) := by
  have hvalue : (if m.isNegative = true then -(numberOf 10 m.digits : Int)
      else numberOf 10 m.digits) = m.value := by
    rw [numberOf_ten fun c => m.isDigit_of_mem_digits]
    rfl
  have hinteger : integer ⟨m.chars ++ rest, n⟩ =
      some (.integer m.value, ⟨rest, n + Cursor.byteCount m.chars⟩) := by
    have hx := m.literal_marker hrest 'x' (hrest.ends rfl rfl rfl rfl) n
    have ho := m.literal_marker hrest 'o' (hrest.ends rfl rfl rfl rfl) n
    have hb := m.literal_marker hrest 'b' (hrest.ends rfl rfl rfl rfl) n
    simp only [integer, hx, ho, hb, m.sign_chars, m.decimalDigits_unsigned hrest,
      Option.bind_eq_bind, Option.bind_some, hvalue, integerInRange,
      if_pos (And.intro hlow hhigh)]
    simp [chars, Nat.add_assoc]
  simp only [numberOrDate, m.dateTime_chars hrest, m.digitFloat_chars hrest, m.specialFloat_chars,
    hinteger]

end Numeral

/-! ## The usual text of an integer -/

/-- The digits of a natural number begin with a zero only if that is all of them. -/
lemma toDigits_eq_zero {n : Nat} {tail : List Char} (h : Nat.toDigits 10 n = '0' :: tail) :
    tail = [] := by
  induction n using Nat.strongRecOn generalizing tail with
  | ind n ih =>
      by_cases hn : n < 10
      · rw [Nat.toDigits_of_lt_base hn] at h
        exact (List.cons.inj h).2.symm
      · rw [Nat.toDigits_of_base_le (by decide) (Nat.not_lt.mp hn)] at h
        obtain ⟨c, front, hfront⟩ :=
          List.exists_cons_of_ne_nil (Nat.toDigits_ne_nil (b := 10) (n := n / 10))
        rw [hfront, List.cons_append] at h
        obtain ⟨rfl, -⟩ := List.cons.inj h
        obtain rfl : front = [] := ih (n / 10) (by omega) hfront
        -- a quotient whose only digit is a zero is zero
        have hquotient : Nat.ofDigitChars 10 ['0'] 0 = n / 10 := by
          rw [← hfront, Nat.ofDigitChars_ten_toDigits]
        have hzero : Nat.ofDigitChars 10 ['0'] 0 = 0 := rfl
        omega

namespace Numeral

/-- The digits of a natural number behind a sign, without underscores. -/
def ofNat (sign : Sign) (n : Nat) : Numeral where
  sign := sign
  first := (Nat.toDigits 10 n).head Nat.toDigits_ne_nil
  more := (Nat.toDigits 10 n).tail.map fun c => (false, c)
  isDigit_first :=
    Nat.isDigit_of_mem_toDigits (by decide) (Nat.le_refl 10) (List.head_mem Nat.toDigits_ne_nil)
  isDigit_more d hd := by
    obtain ⟨c, hc, rfl⟩ := List.mem_map.mp hd
    exact Nat.isDigit_of_mem_toDigits (by decide) (Nat.le_refl 10) (List.mem_of_mem_tail hc)
  no_leading_zero h := by
    have htext : Nat.toDigits 10 n = '0' :: (Nat.toDigits 10 n).tail := by
      rw [← h, List.cons_head_tail]
    rw [toDigits_eq_zero htext, List.map_nil]

lemma digits_ofNat (sign : Sign) (n : Nat) : (ofNat sign n).digits = Nat.toDigits 10 n := by
  simp only [digits, ofNat, List.map_map]
  rw [show Prod.snd ∘ (fun c : Char => (false, c)) = id from rfl, List.map_id, List.cons_head_tail]

lemma unsigned_ofNat (sign : Sign) (n : Nat) : (ofNat sign n).unsigned = Nat.toDigits 10 n := by
  have htail (chars : List Char) : tailChars (chars.map fun c => (false, c)) = chars := by
    induction chars with
    | nil => rfl
    | cons c chars ih => exact congrArg (c :: ·) ih
  simp only [unsigned, ofNat, htail, List.cons_head_tail]

/-- The usual numeral of an integer. -/
def ofInt (k : Int) : Numeral := ofNat (if 0 ≤ k then .none else .minus) k.natAbs

/-- **The usual numeral** of an integer stands for it. -/
theorem value_ofInt (k : Int) : (ofInt k).value = k := by
  rw [value, ofInt, digits_ofNat, Nat.ofDigitChars_ten_toDigits, isNegative, ofNat]
  by_cases hk : 0 ≤ k
  · simp only [if_pos hk, Bool.false_eq_true, if_false]
    omega
  · simp only [if_neg hk, if_true]
    omega

/-- It is written as the usual text of the integer. -/
theorem chars_ofInt (k : Int) : (ofInt k).chars = (toString k).toList := by
  rw [chars, ofInt, unsigned_ofNat, Int.toString_eq_repr, Int.repr_eq_if]
  by_cases hk : 0 ≤ k
  · have hnat : k.natAbs = k.toNat := by omega
    simp only [if_pos hk, Nat.repr_eq_ofList_toDigits, String.toList_ofList, hnat]
    rfl
  · have hnat : k.natAbs = (-k).toNat := by omega
    simp only [if_neg hk, Nat.repr_eq_ofList_toDigits, String.toList_append, String.toList_ofList,
      hnat]
    rfl

end Numeral

end Curfew.Toml
