import Curfew.Text.WhiteSpace
import Mathlib.Data.List.DropRight

/-!
# Texts with white space around them

* **`Blank`** — a text of white space only.
* **`IsCore`** — what is left of a text if the white space at both of its ends is taken away.
* **`trim_core`**, **`trim_eq_empty_iff`** — to trim a text is to find its core, and nothing is left
  exactly of a blank text.
* **`IsCore.trim_eq`** — so a text has one core at most.
-/

namespace Curfew.Text

/-- A text of white space only. -/
def Blank (text : String) : Prop := ∀ c ∈ text.toList, isWhiteSpace c = true

instance (text : String) : Decidable (Blank text) :=
  decidable_of_iff (text.toList.all isWhiteSpace = true) List.all_eq_true

lemma Blank.append {text more : String} (h : Blank text) (hmore : Blank more) :
    Blank (text ++ more) := by
  intro c hc
  rw [String.toList_append] at hc
  exact (List.mem_append.mp hc).elim (h c) (hmore c)

/-- `core` stands in `text` with nothing but white space around it, and neither starts nor ends with
    white space itself. White space inside is of no account. -/
structure IsCore (core text : String) : Prop where
  surrounded : ∃ before after, Blank before ∧ Blank after ∧ text = before ++ core ++ after
  nonempty : core ≠ ""
  starts : ∀ c ∈ core.toList.head?, isWhiteSpace c = false
  ends : ∀ c ∈ core.toList.getLast?, isWhiteSpace c = false

namespace IsCore

variable {core text : String}

/-- A core is a core of itself. -/
lemma self (h : IsCore core text) : IsCore core core where
  surrounded := ⟨"", "", by simp [Blank], by simp [Blank], by simp⟩
  nonempty := h.nonempty
  starts := h.starts
  ends := h.ends

/-- More white space around a text leaves its core. -/
lemma pad (h : IsCore core text) {before after : String} (hbefore : Blank before)
    (hafter : Blank after) : IsCore core (before ++ text ++ after) where
  surrounded := by
    obtain ⟨first, last, hfirst, hlast, rfl⟩ := h.surrounded
    exact ⟨before ++ first, last ++ after, hbefore.append hfirst, hlast.append hafter,
      by simp only [String.append_assoc]⟩
  nonempty := h.nonempty
  starts := h.starts
  ends := h.ends

/-- A text with a core is not blank. -/
lemma not_blank (h : IsCore core text) : ¬ Blank text := by
  intro hblank
  obtain ⟨before, after, -, -, rfl⟩ := h.surrounded
  cases hchars : core.toList with
  | nil => exact h.nonempty (String.toList_eq_nil_iff.mp hchars)
  | cons c rest =>
      have hc : isWhiteSpace c = true := hblank c (by simp [hchars])
      rw [h.starts c (by simp [hchars])] at hc
      cases hc

end IsCore

/-! ## Trimming from both ends -/

/-- White space in front is dropped up to the first character that is none. -/
lemma dropWhile_blank {blank rest : List Char} (hblank : ∀ c ∈ blank, isWhiteSpace c = true)
    (hrest : ∀ c ∈ rest.head?, isWhiteSpace c = false) :
    (blank ++ rest).dropWhile isWhiteSpace = rest := by
  rw [List.dropWhile_append_of_pos hblank]
  cases rest with
  | nil => rfl
  | cons c rest => exact List.dropWhile_cons_of_neg (by simp [hrest c rfl])

/-- What stands between white space is found from both ends, one after the other. -/
lemma trimChars_core {before core after : List Char}
    (hbefore : ∀ c ∈ before, isWhiteSpace c = true) (hafter : ∀ c ∈ after, isWhiteSpace c = true)
    (hcore : core ≠ []) (starts : ∀ c ∈ core.head?, isWhiteSpace c = false)
    (ends : ∀ c ∈ core.getLast?, isWhiteSpace c = false) :
    trimChars (before ++ core ++ after) = core := by
  have hfront : (before ++ (core ++ after)).dropWhile isWhiteSpace = core ++ after := by
    refine dropWhile_blank hbefore ?_
    rw [List.head?_append_of_ne_nil _ hcore]
    exact starts
  have hback : (after.reverse ++ core.reverse).dropWhile isWhiteSpace = core.reverse := by
    refine dropWhile_blank (fun c hc => hafter c (List.mem_reverse.mp hc)) ?_
    rw [List.head?_reverse]
    exact ends
  rw [trimChars, List.append_assoc, hfront, List.reverse_append, hback, List.reverse_reverse]

/-- What is trimmed off is white space at either end. -/
lemma trimChars_surrounded (chars : List Char) :
    ∃ before after, (∀ c ∈ before, isWhiteSpace c = true) ∧ (∀ c ∈ after, isWhiteSpace c = true) ∧
      chars = before ++ trimChars chars ++ after := by
  refine ⟨chars.takeWhile isWhiteSpace, (chars.dropWhile isWhiteSpace).rtakeWhile isWhiteSpace,
    fun c => List.mem_takeWhile_imp, fun c => List.mem_rtakeWhile_imp, ?_⟩
  have hback : trimChars chars ++ (chars.dropWhile isWhiteSpace).rtakeWhile isWhiteSpace =
      chars.dropWhile isWhiteSpace := List.rdropWhile_append_rtakeWhile ..
  rw [List.append_assoc, hback, List.takeWhile_append_dropWhile]

/-- What is left does not start with white space. -/
lemma trimChars_starts (chars : List Char) :
    ∀ c ∈ (trimChars chars).head?, isWhiteSpace c = false := by
  intro c hc
  -- the back is trimmed last, and what that leaves is a first part of what it was given
  have hpart : trimChars chars <+: chars.dropWhile isWhiteSpace := List.rdropWhile_prefix ..
  obtain ⟨rest, hrest⟩ := hpart
  have hhead := List.head?_dropWhile_not isWhiteSpace chars
  have hfirst : (chars.dropWhile isWhiteSpace).head? = some c := by
    rw [← hrest, List.head?_append, Option.mem_def.mp hc]
    rfl
  rw [hfirst] at hhead
  exact hhead

/-- What is left does not end with white space. -/
lemma trimChars_ends (chars : List Char) :
    ∀ c ∈ (trimChars chars).getLast?, isWhiteSpace c = false := by
  intro c hc
  have hne : trimChars chars ≠ [] := by
    intro hnil
    simp [hnil] at hc
  have hlast := List.rdropWhile_last_not isWhiteSpace (chars.dropWhile isWhiteSpace) hne
  have hc' : (trimChars chars).getLast hne = c :=
    Option.some.inj ((List.getLast?_eq_some_getLast hne).symm.trans hc)
  rw [← hc']
  exact Bool.eq_false_iff.mpr hlast

/-- **To trim a text is to find its core**, if anything is left. -/
theorem trim_core {text : String} (h : trim text ≠ "") : IsCore (trim text) text where
  surrounded := by
    obtain ⟨before, after, hbefore, hafter, hchars⟩ := trimChars_surrounded text.toList
    refine ⟨.ofList before, .ofList after, ?_, ?_, ?_⟩
    · rwa [Blank, String.toList_ofList]
    · rwa [Blank, String.toList_ofList]
    · rw [trim, ← String.ofList_append, ← String.ofList_append, ← hchars, String.ofList_toList]
  nonempty := h
  starts := by
    rw [trim, String.toList_ofList]
    exact trimChars_starts text.toList
  ends := by
    rw [trim, String.toList_ofList]
    exact trimChars_ends text.toList

/-- **A core is what trimming leaves**, so a text has one at most. -/
theorem IsCore.trim_eq {core text : String} (h : IsCore core text) : trim text = core := by
  obtain ⟨before, after, hbefore, hafter, rfl⟩ := h.surrounded
  have hchars : core.toList ≠ [] := fun hnil => h.nonempty (String.toList_eq_nil_iff.mp hnil)
  rw [trim, String.toList_append, String.toList_append,
    trimChars_core hbefore hafter hchars h.starts h.ends, String.ofList_toList]

/-- **Nothing is left exactly of a blank text.** -/
theorem trim_eq_empty_iff {text : String} : trim text = "" ↔ Blank text := by
  constructor
  · intro h
    obtain ⟨before, after, hbefore, hafter, hchars⟩ := trimChars_surrounded text.toList
    have hnil : trimChars text.toList = [] := by
      rw [trim] at h
      simpa using h
    rw [hnil, List.append_nil] at hchars
    intro c hc
    rw [hchars] at hc
    exact (List.mem_append.mp hc).elim (hbefore c) (hafter c)
  · intro h
    by_contra hne
    exact (trim_core hne).not_blank h

end Curfew.Text
