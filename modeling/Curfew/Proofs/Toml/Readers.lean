import Curfew.Toml.Text
import Mathlib.Tactic.Common

/-!
# Readers at a known place

What the readers of a document do where it is known which characters come next.  A reader that takes
as many characters of a class as there are stops where the rest does not begin with one (`Ends`).

* `takeWhile_append`, `takeBetween_append`, `skipBlanks_append` — characters of a class, then a rest.
* `expect_cons`, `expect_of_ends`, `literal_append`, `literal_of_not_prefix` — a character, a word.
* **`simpleKey_bare`** and **`dottedKey_bare`** — a bare key, and one with blanks after it.
-/

namespace Curfew.Toml

/-- A rest that does not begin with a character of a class. -/
def Ends (p : Char → Bool) (rest : List Char) : Prop := ∀ c, rest.head? = some c → p c = false

lemma Ends.nil (p : Char → Bool) : Ends p [] := fun _ h => by cases h

lemma ends_cons {p : Char → Bool} {c : Char} {rest : List Char} :
    Ends p (c :: rest) ↔ p c = false := by
  simp [Ends]

/-- A rest ends a class as well that has fewer characters. -/
lemma Ends.mono {p q : Char → Bool} {rest : List Char} (h : Ends p rest)
    (hpq : ∀ c, p c = false → q c = false) : Ends q rest := fun c hc => hpq c (h c hc)

lemma Ends.append {p : Char → Bool} {chars rest : List Char} (hchars : ∀ c ∈ chars, p c = false)
    (hrest : Ends p rest) : Ends p (chars ++ rest) := by
  cases chars with
  | nil => exact hrest
  | cons c chars => exact ends_cons.mpr (hchars c List.mem_cons_self)

lemma Ends.takeWhile {p : Char → Bool} {rest : List Char} (h : Ends p rest) :
    rest.takeWhile p = [] := by
  cases rest with
  | nil => rfl
  | cons c rest => exact List.takeWhile_cons_of_neg (Bool.not_eq_true _ ▸ ends_cons.mp h)

lemma Ends.dropWhile {p : Char → Bool} {rest : List Char} (h : Ends p rest) :
    rest.dropWhile p = rest := by
  cases rest with
  | nil => rfl
  | cons c rest => exact List.dropWhile_cons_of_neg (Bool.not_eq_true _ ▸ ends_cons.mp h)

/-- A character of a class is none outside of it. -/
lemma beq_of_class {p : Char → Bool} {c d : Char} (hc : p c = true) (hd : p d = false) :
    (c == d) = false := by
  rw [beq_eq_false_iff_ne]
  rintro rfl
  cases hc.symm.trans hd

namespace Cursor

variable {p : Char → Bool} {chars rest : List Char} {c : Char} {n : Nat}

@[simp] lemma byteCount_nil : byteCount [] = 0 := rfl

@[simp] lemma byteCount_cons (c : Char) (chars : List Char) :
    byteCount (c :: chars) = c.utf8Size + byteCount chars := rfl

@[simp] lemma byteCount_append (chars rest : List Char) :
    byteCount (chars ++ rest) = byteCount chars + byteCount rest := by
  induction chars with
  | nil => simp
  | cons c chars ih => simp [ih, Nat.add_assoc]

/-! ## Characters of a class -/

lemma takeWhile_append (hp : ∀ c ∈ chars, p c = true) (hrest : Ends p rest) :
    (⟨chars ++ rest, n⟩ : Cursor).takeWhile p = (chars, ⟨rest, n + byteCount chars⟩) := by
  simp only [takeWhile, List.takeWhile_append_of_pos hp, List.dropWhile_append_of_pos hp,
    hrest.takeWhile, hrest.dropWhile, List.append_nil]

lemma skipBlanks_append (hp : ∀ c ∈ chars, isBlank c = true) (hrest : Ends isBlank rest) :
    (⟨chars ++ rest, n⟩ : Cursor).skipBlanks = ⟨rest, n + byteCount chars⟩ := by
  simp only [skipBlanks, skipWhile, takeWhile_append hp hrest]

/-- Where no blank comes next, there is none to skip. -/
lemma skipBlanks_of_ends (hrest : Ends isBlank rest) :
    (⟨rest, n⟩ : Cursor).skipBlanks = ⟨rest, n⟩ := by
  rw [skipBlanks, skipWhile, takeWhile, hrest.takeWhile, hrest.dropWhile]
  rfl

lemma takeBetween_append {least most : Nat} (hp : ∀ c ∈ chars, p c = true)
    (hleast : least ≤ chars.length) (hmost : (chars ++ rest).length ≤ most) (hrest : Ends p rest) :
    (⟨chars ++ rest, n⟩ : Cursor).takeBetween least most p =
      some (chars, ⟨rest, n + byteCount chars⟩) := by
  simp only [takeBetween, List.take_of_length_le hmost, List.takeWhile_append_of_pos hp,
    hrest.takeWhile, List.append_nil, if_neg (Nat.not_lt.mpr hleast), List.drop_left]

/-! ## A character, a word -/

lemma one_cons (hc : p c = true) :
    (⟨c :: rest, n⟩ : Cursor).one? p = some (c, ⟨rest, n + c.utf8Size⟩) := by
  simp only [one?, hc, if_true, past]

lemma one_of_ends (hrest : Ends p rest) : (⟨rest, n⟩ : Cursor).one? p = none := by
  cases rest with
  | nil => rfl
  | cons c rest => simp [one?, ends_cons.mp hrest]

lemma expect_cons : (⟨c :: rest, n⟩ : Cursor).expect c = some ⟨rest, n + c.utf8Size⟩ := by
  rw [expect, one_cons (p := (· == c)) (beq_self_eq_true c)]
  rfl

lemma expect_of_ends (hrest : Ends (· == c) rest) : (⟨rest, n⟩ : Cursor).expect c = none := by
  rw [expect, one_of_ends hrest]
  rfl

lemma literal_append :
    (⟨chars ++ rest, n⟩ : Cursor).literal chars = some ⟨rest, n + byteCount chars⟩ := by
  have hprefix : chars.isPrefixOf (chars ++ rest) = true :=
    List.isPrefixOf_iff_prefix.mpr (List.prefix_append chars rest)
  simp only [literal, hprefix, if_true, List.drop_left]

lemma literal_of_not_prefix (h : ¬ chars <+: rest) : (⟨rest, n⟩ : Cursor).literal chars = none := by
  rw [literal, if_neg]
  exact fun hprefix => h (List.isPrefixOf_iff_prefix.mp hprefix)

lemma literal_of_ends (hrest : Ends (· == c) rest) :
    (⟨rest, n⟩ : Cursor).literal (c :: chars) = none := by
  refine literal_of_not_prefix ?_
  rintro ⟨tail, rfl⟩
  exact beq_eq_false_iff_ne.mp ((ends_cons (p := (· == c))).mp hrest) rfl

/-! ## The end of a line -/

lemma skipComment_of_ends (hrest : Ends (· == '#') rest) :
    (⟨rest, n⟩ : Cursor).skipComment = ⟨rest, n⟩ := by
  rw [skipComment]
  split
  · rename_i h
    simp only at h
    subst h
    cases ends_cons.mp hrest
  · rfl

end Cursor

/-! ## Bare keys -/

lemma isBlank_iff {c : Char} : isBlank c = true ↔ c = ' ' ∨ c = '\t' := by
  simp [isBlank]

lemma isBareKeyChar_of_isBlank {c : Char} (h : isBlank c = true) : isBareKeyChar c = false := by
  rcases isBlank_iff.mp h with rfl | rfl <;> rfl

lemma isBlank_of_isBareKeyChar {c : Char} (h : isBareKeyChar c = true) : isBlank c = false := by
  cases hc : isBlank c with
  | false => rfl
  | true => cases h.symm.trans (isBareKeyChar_of_isBlank hc)

/-- What may come after a part of a key without ending the key: another character of the part,
    a blank, or the dot before the next part. -/
def extendsKey (c : Char) : Bool := isBareKeyChar c || isBlank c || c == '.'

lemma extendsKey_eq_false {c : Char} (h : extendsKey c = false) :
    isBareKeyChar c = false ∧ isBlank c = false ∧ (c == '.') = false := by
  simpa only [extendsKey, Bool.or_eq_false_iff, and_assoc] using h

/-- **A bare key** is read up to the first character that cannot be part of it. -/
theorem simpleKey_bare {key rest : List Char} (hne : key ≠ [])
    (hkey : ∀ c ∈ key, isBareKeyChar c = true) (hrest : Ends isBareKeyChar rest) (n : Nat) :
    simpleKey ⟨key ++ rest, n⟩ =
      some (⟨String.ofList key, ⟨n, n + Cursor.byteCount key⟩⟩,
        ⟨rest, n + Cursor.byteCount key⟩) := by
  have htake : (⟨key ++ rest, n⟩ : Cursor).takeBetween 1 (key ++ rest).length isBareKeyChar =
      some (key, ⟨rest, n + Cursor.byteCount key⟩) :=
    Cursor.takeBetween_append hkey (List.length_pos_iff.mpr hne) (Nat.le_refl _) hrest
  obtain ⟨c, tail, rfl⟩ := List.exists_cons_of_ne_nil hne
  have hbare : isBareKeyChar c = true := hkey c List.mem_cons_self
  have hquote : c ≠ '"' := by rintro rfl; cases hbare
  have hapostrophe : c ≠ '\'' := by rintro rfl; cases hbare
  simp only [simpleKey, Cursor.peek?, List.cons_append, List.head?_cons]
  rw [← List.cons_append, htake]
  split
  · rename_i h
    exact absurd (Option.some.inj h) hquote
  · rename_i h
    exact absurd (Option.some.inj h) hapostrophe
  · rfl

/-- **A bare key with blanks after it** is read as a key of one part. -/
theorem dottedKey_bare {key after rest : List Char} (hne : key ≠ [])
    (hkey : ∀ c ∈ key, isBareKeyChar c = true) (hafter : ∀ c ∈ after, isBlank c = true)
    (hrest : Ends extendsKey rest) (n : Nat) :
    ∃ span m, dottedKey ⟨key ++ (after ++ rest), n⟩ =
      some (([], ⟨String.ofList key, span⟩), ⟨rest, m⟩) := by
  have hbare : Ends isBareKeyChar rest := hrest.mono fun _ h => (extendsKey_eq_false h).1
  have hblank : Ends isBlank rest := hrest.mono fun _ h => (extendsKey_eq_false h).2.1
  have hdot : Ends (· == '.') rest := hrest.mono fun _ h => (extendsKey_eq_false h).2.2
  have hkeyEnds : Ends isBlank (key ++ (after ++ rest)) := by
    obtain ⟨c, tail, rfl⟩ := List.exists_cons_of_ne_nil hne
    exact ends_cons.mpr (isBlank_of_isBareKeyChar (hkey c List.mem_cons_self))
  have hbareEnds : Ends isBareKeyChar (after ++ rest) :=
    Ends.append (fun c hc => isBareKeyChar_of_isBlank (hafter c hc)) hbare
  let stop := n + Cursor.byteCount key
  refine ⟨⟨n, stop⟩, stop + Cursor.byteCount after, ?_⟩
  rw [dottedKey, Cursor.skipBlanks_of_ends hkeyEnds, simpleKey_bare hne hkey hbareEnds]
  simp only [Option.bind_eq_bind, Option.bind_some]
  rw [Cursor.skipBlanks_append hafter hblank]
  simp only [depthLimit, keyTail, Cursor.expect_of_ends hdot]
  rfl

end Curfew.Toml
