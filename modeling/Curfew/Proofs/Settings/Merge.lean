import Curfew.Proofs.Toml.Sheet
import Curfew.Settings.Load
import Mathlib.Data.List.Nodup

/-!
# Settings merged into their defaults

What loading makes of a sheet under the header of the settings.

* **`Setting`** — the settings by their keys; `Setting.Accepts` — the data that one of them takes.
* `readEntry_accepted`, `readEntry_refused`, `readEntry_unknown` — an entry under a setting's key,
  and one under any other.
* **`foldlM_readEntry`** — a table is merged key by key (`Merges`), or refused.
* **`load_sheet`** — loading a sheet; `load_under_other`, `load_headless` — files of other keys.
* **`load_renderIn`**, **`load_render`** — settings that are written out are loaded again.
* **`merge_exact`** — what loading depends on, and what it reads back.
-/

namespace Curfew.Settings

open Toml

/-- The settings by their keys. -/
inductive Setting
  | timeout
  | grace
  | escalate
deriving DecidableEq, Repr

namespace Setting

def key : Setting → String
  | .timeout => "timeout_secs"
  | .grace => "kill_grace_ms"
  | .escalate => "escalate"

/-- The data that a setting takes. -/
def Accepts : Setting → Datum → Prop
  | .timeout, .integer _ => True
  | .grace, .integer n => 0 ≤ n
  | .escalate, .boolean _ => True
  | _, _ => False

instance (k : Setting) (d : Datum) : Decidable (k.Accepts d) :=
  match k, d with
  | .timeout, .integer _ => .isTrue trivial
  | .timeout, .boolean _ => .isFalse id
  | .grace, .integer n => inferInstanceAs (Decidable (0 ≤ n))
  | .grace, .boolean _ => .isFalse id
  | .escalate, .integer _ => .isFalse id
  | .escalate, .boolean _ => .isTrue trivial

/-- One of the settings, as the datum that stands for it. -/
def of : Setting → Settings → Datum
  | .timeout, s => .integer s.timeoutSecs.toInt
  | .grace, s => .integer s.killGraceMillis.toNat
  | .escalate, s => .boolean s.escalate

lemma key_inj {j k : Setting} : j.key = k.key ↔ j = k := by
  cases j <;> cases k <;> decide

end Setting

/-- Settings are the same if each of them is. -/
lemma ext_of {s s' : Settings} (h : ∀ k : Setting, k.of s = k.of s') : s = s' := by
  obtain ⟨timeout, grace, escalate⟩ := s
  obtain ⟨timeout', grace', escalate'⟩ := s'
  obtain rfl : timeout = timeout' := Int64.toInt_inj.mp (Datum.integer.inj (h .timeout))
  obtain rfl : grace = grace' := UInt64.toNat_inj.mp (Int.ofNat.inj (Datum.integer.inj (h .grace)))
  obtain rfl : escalate = escalate' := Datum.boolean.inj (h .escalate)
  rfl

/-! ## One entry -/

variable {s : Settings} {e : Entry Value} {k : Setting} {d : Datum}

/-- An entry under no setting's key is passed over. -/
lemma readEntry_unknown (h : ∀ k : Setting, e.key.name ≠ k.key) : readEntry s e = .ok s := by
  rw [readEntry]
  split
  · rename_i hname
    exact absurd hname (h .timeout)
  · rename_i hname
    exact absurd hname (h .grace)
  · rename_i hname
    exact absurd hname (h .escalate)
  · rfl

/-- A datum that a setting takes becomes the setting, and the others stay. -/
lemma readEntry_accepted (he : Records (k.key, d) e) (hd : k.Accepts d) (hrange : d.InRange) :
    ∃ s', readEntry s e = .ok s' ∧ k.of s' = d ∧ ∀ j ≠ k, j.of s' = j.of s := by
  obtain ⟨hname, hvalue⟩ := he
  rw [readEntry, hname, hvalue]
  cases k with
  | timeout =>
      cases d with
      | integer n =>
          refine ⟨{ s with timeoutSecs := Int64.ofInt n }, rfl, ?_, fun j hj => ?_⟩
          · exact congrArg Datum.integer (Int64.toInt_ofInt_of_le hrange.1 hrange.2)
          · cases j <;> trivial
      | boolean b => cases hd
  | grace =>
      cases d with
      | integer n =>
          have hsign : ¬ n < 0 := Int.not_lt.mpr hd
          have hbound : n.toNat < 2 ^ 64 := by
            have := hrange.2
            omega
          refine ⟨{ s with killGraceMillis := UInt64.ofNat n.toNat }, ?_, ?_, fun j hj => ?_⟩
          · simp only [Setting.key, Datum.value, readGrace, if_neg hsign]
            rfl
          · simp only [Setting.of, UInt64.toNat_ofNat_of_lt' hbound, Int.toNat_of_nonneg hd]
          · cases j <;> trivial
      | boolean b => cases hd
  | escalate =>
      cases d with
      | integer n => cases hd
      | boolean b =>
          refine ⟨{ s with escalate := b }, rfl, rfl, fun j hj => ?_⟩
          cases j <;> trivial

/-- A datum that a setting does not take is refused. -/
lemma readEntry_refused (he : Records (k.key, d) e) (hd : ¬ k.Accepts d) :
    ∃ cause, readEntry s e = .error cause := by
  obtain ⟨hname, hvalue⟩ := he
  rw [readEntry, hname, hvalue]
  cases k with
  | timeout =>
      cases d with
      | integer n => exact absurd trivial hd
      | boolean b => exact ⟨_, rfl⟩
  | grace =>
      cases d with
      | integer n =>
          refine ⟨⟨.range n .unsigned, spanOf e⟩, ?_⟩
          simp only [Setting.key, Datum.value, readGrace, if_pos (Int.not_le.mp hd)]
          rfl
      | boolean b => exact ⟨_, rfl⟩
  | escalate =>
      cases d with
      | integer n => exact ⟨_, rfl⟩
      | boolean b => exact absurd trivial hd

/-! ## All entries -/

/-- Every setting that is given takes what it is given. -/
def Fits (data : List (String × Datum)) : Prop :=
  ∀ (k : Setting) (d : Datum), (k.key, d) ∈ data → k.Accepts d

/-- Every setting is what it is given, or what it was before if it is given nothing. -/
def Merges (data : List (String × Datum)) (s s' : Settings) : Prop :=
  ∀ k : Setting, (∀ d, (k.key, d) ∈ data → k.of s' = d) ∧
    ((∀ d, (k.key, d) ∉ data) → k.of s' = k.of s)

/-- What data make of settings is determined by the data. -/
lemma Merges.unique {data : List (String × Datum)} {s s₁ s₂ : Settings} (h₁ : Merges data s s₁)
    (h₂ : Merges data s s₂) : s₁ = s₂ := by
  refine ext_of fun k => ?_
  by_cases hk : ∃ d, (k.key, d) ∈ data
  · obtain ⟨d, hd⟩ := hk
    exact ((h₁ k).1 d hd).trans ((h₂ k).1 d hd).symm
  · have hnone : ∀ d, (k.key, d) ∉ data := fun d hd => hk ⟨d, hd⟩
    exact ((h₁ k).2 hnone).trans ((h₂ k).2 hnone).symm

/-- One more datum in front, under a key of its own. -/
lemma Merges.cons {p : String × Datum} {data : List (String × Datum)} {s s₁ s₂ : Settings}
    (hnew : p.1 ∉ data.map Prod.fst) (hone : Merges [p] s s₁) (hall : Merges data s₁ s₂) :
    Merges (p :: data) s s₂ := by
  intro k
  refine ⟨fun d hd => ?_, fun hnone => ?_⟩
  · rcases List.mem_cons.mp hd with rfl | hd
    · have hlater : ∀ d, (k.key, d) ∉ data := fun _ hd => hnew (List.mem_map.mpr ⟨_, hd, rfl⟩)
      exact ((hall k).2 hlater).trans ((hone k).1 d List.mem_cons_self)
    · exact (hall k).1 d hd
  · have hlater : ∀ d, (k.key, d) ∉ data := fun d hd => hnone d (List.mem_cons_of_mem p hd)
    have hfirst : ∀ d, (k.key, d) ∉ [p] := fun d hd =>
      hnone d (List.mem_cons.mpr (.inl (List.mem_singleton.mp hd)))
    exact ((hall k).2 hlater).trans ((hone k).2 hfirst)

lemma fits_cons {p : String × Datum} {data : List (String × Datum)} :
    Fits (p :: data) ↔ Fits [p] ∧ Fits data := by
  refine ⟨fun h => ⟨fun k d hd => ?_, fun k d hd => h k d (List.mem_cons_of_mem p hd)⟩,
    fun h k d hd => ?_⟩
  · exact h k d (List.mem_cons.mpr (.inl (List.mem_singleton.mp hd)))
  · rcases List.mem_cons.mp hd with rfl | hd
    · exact h.1 k d List.mem_cons_self
    · exact h.2 k d hd

/-- What one entry does, whatever its key. -/
lemma readEntry_cases {p : String × Datum} (he : Records p e) (hrange : p.2.InRange)
    (s : Settings) :
    (Fits [p] ∧ ∃ s', readEntry s e = .ok s' ∧ Merges [p] s s') ∨
      (¬ Fits [p] ∧ ∃ cause, readEntry s e = .error cause) := by
  obtain ⟨name, d⟩ := p
  by_cases hname : ∃ k : Setting, k.key = name
  · obtain ⟨k, rfl⟩ := hname
    by_cases hd : k.Accepts d
    · obtain ⟨s', hread, hk, hothers⟩ := readEntry_accepted (s := s) he hd hrange
      refine .inl ⟨fun j d' hmem => ?_, s', hread, fun j => ⟨fun d' hmem => ?_, fun hnone => ?_⟩⟩
      · obtain ⟨hkey, rfl⟩ := Prod.mk.inj (List.mem_singleton.mp hmem)
        rwa [Setting.key_inj.mp hkey]
      · obtain ⟨hkey, rfl⟩ := Prod.mk.inj (List.mem_singleton.mp hmem)
        rwa [Setting.key_inj.mp hkey]
      · refine hothers j ?_
        rintro rfl
        exact hnone d List.mem_cons_self
    · exact .inr ⟨fun h => hd (h k d List.mem_cons_self), readEntry_refused he hd⟩
  · have hother (k : Setting) (d' : Datum) : (k.key, d') ∉ [(name, d)] := fun hmem =>
      hname ⟨k, (Prod.mk.inj (List.mem_singleton.mp hmem)).1⟩
    refine .inl ⟨fun k d' hmem => absurd hmem (hother k d'), s, ?_, fun k =>
      ⟨fun d' hmem => absurd hmem (hother k d'), fun _ => rfl⟩⟩
    exact readEntry_unknown fun k hk => hname ⟨k, hk.symm.trans he.1⟩

/-- **A table is merged** entry by entry, if each setting takes what it is given, and else it is
    refused. -/
theorem foldlM_readEntry {data : List (String × Datum)} {entries : List (Entry Value)}
    (hentries : List.Forall₂ Records data entries) (hdistinct : (data.map Prod.fst).Nodup)
    (hrange : ∀ p ∈ data, p.2.InRange) (s : Settings) :
    (Fits data ∧ ∃ s', entries.foldlM readEntry s = .ok s' ∧ Merges data s s') ∨
      (¬ Fits data ∧ ∃ cause, entries.foldlM readEntry s = .error cause) := by
  induction hentries generalizing s with
  | nil =>
      refine .inl ⟨fun k d hd => ?_, s, rfl, fun k => ⟨fun d hd => ?_, fun _ => rfl⟩⟩
      · cases hd
      · cases hd
  | @cons p e data entries he _ ih =>
      obtain ⟨hnew, hdistinct⟩ := List.nodup_cons.mp hdistinct
      rw [List.foldlM_cons, fits_cons]
      rcases readEntry_cases he (hrange p List.mem_cons_self) s with
        ⟨hp, s₁, hread, hone⟩ | ⟨hp, cause, hread⟩
      · rw [hread]
        rcases ih hdistinct (fun q hq => hrange q (List.mem_cons_of_mem p hq)) s₁ with
          ⟨hfits, s₂, hfold, hall⟩ | ⟨hfits, cause, hfold⟩
        · exact .inl ⟨⟨hp, hfits⟩, s₂, hfold, hone.cons hnew hall⟩
        · exact .inr ⟨fun h => hfits h.2, cause, hfold⟩
      · rw [hread]
        exact .inr ⟨fun h => hp h.1, cause, rfl⟩

/-! ## Sheets -/

/-- The key of the settings in a document. -/
def title : BareKey where
  chars := "supervisor".toList
  ne_nil := by decide
  isBareKeyChar_chars := List.all_eq_true.mp (by decide)

lemma name_title : title.name = "supervisor" := String.ofList_toList

/-- The text of a sheet under the header of the settings. -/
def sheetText (trail : Blanks) (sh : Sheet) : String := String.ofList (sh.under title trail)

-- what the reader of documents says of a malformed text has no influence on any of this
variable (wording : String → String)

/-- A text that is read from its bytes and defines a table is loaded as that table's settings. -/
lemma load_of_root (path : Bytes) {text : String} {root : Table}
    (hbytes : Text.Utf8.decode? (Bytes.ofString text) = some text)
    (hroot : Document.root? text = some root) :
    load wording path (.ok (Bytes.ofString text)) =
      (ofTable root).mapError (SettingsError.mismatched path text) := by
  simp only [load, hbytes, parse, hroot]
  cases ofTable root <;> rfl

/-- **A sheet under the header of the settings** is merged into the defaults, if each setting takes
    what it is given; else a mismatch is reported, and no settings. -/
theorem load_sheet (path : Bytes) (trail : Blanks) (sh : Sheet) :
    (Fits sh.data ∧ ∃ s, load wording path (.ok (Bytes.ofString (sheetText trail sh))) = .ok s ∧
        Merges sh.data default s) ∨
      (¬ Fits sh.data ∧ ∃ cause, load wording path (.ok (Bytes.ofString (sheetText trail sh))) =
        .error (.mismatched path (sheetText trail sh) cause)) := by
  obtain ⟨keySpan, span, entries, hroot, hrecords⟩ := root_under title trail sh
  have hbytes : Text.Utf8.decode? (Bytes.ofString (sheetText trail sh)) = _ :=
    Text.Utf8.decode_ofString (sh.isAscii_under title trail)
  have htable : ofTable ⟨.header, [⟨⟨title.name, keySpan⟩, some span,
      .table ⟨.header, entries⟩⟩]⟩ = entries.foldlM readEntry default := by
    rw [name_title]
    rfl
  rw [load_of_root wording path hbytes hroot, htable]
  rcases foldlM_readEntry hrecords sh.nodup_data sh.inRange_data default with
    ⟨hfits, s, hfold, hmerges⟩ | ⟨hfits, cause, hfold⟩
  · rw [hfold]
    exact .inl ⟨hfits, s, rfl, hmerges⟩
  · rw [hfold]
    exact .inr ⟨hfits, cause, rfl⟩

/-- A table without the key of the settings sets nothing. -/
lemma ofTable_of_forall_ne {root : Table} (h : ∀ e ∈ root.entries, e.key.name ≠ "supervisor") :
    ofTable root = .ok default := by
  have hfind : root.find? "supervisor" = none :=
    List.find?_eq_none.mpr fun e he => by simpa using h e he
  rw [ofTable, hfind]

/-- A sheet under another header sets nothing. -/
theorem load_under_other (path : Bytes) {other : BareKey} (hother : other.name ≠ "supervisor")
    (trail : Blanks) (sh : Sheet) :
    load wording path (.ok (Bytes.ofString (String.ofList (sh.under other trail)))) = .ok default := by
  obtain ⟨keySpan, span, entries, hroot, -⟩ := root_under other trail sh
  have hbytes := Text.Utf8.decode_ofString (sh.isAscii_under other trail)
  rw [load_of_root wording path hbytes hroot, ofTable_of_forall_ne fun e he => ?_]
  · rfl
  · obtain rfl := List.mem_singleton.mp he
    exact hother

/-- A sheet without a header sets nothing, unless a key of it is the one of the settings. -/
theorem load_headless (path : Bytes) (sh : Sheet) (hother : ∀ d, ("supervisor", d) ∉ sh.data) :
    load wording path (.ok (Bytes.ofString (String.ofList sh.headless))) = .ok default := by
  obtain ⟨entries, hroot, hrecords⟩ := root_headless sh
  have hbytes := Text.Utf8.decode_ofString sh.isAscii_headless
  have hentries : ∀ e ∈ entries, e.key.name ≠ "supervisor" := fun e he hname => by
    have hmem : "supervisor" ∈ sh.data.map Prod.fst := by
      rw [← names_of_records hrecords]
      exact List.mem_map.mpr ⟨e, he, hname⟩
    obtain ⟨⟨_, d⟩, hd, rfl⟩ := List.mem_map.mp hmem
    exact hother d hd
  rw [load_of_root wording path hbytes hroot, ofTable_of_forall_ne hentries]
  rfl

/-! ## Settings written out -/

lemma Setting.accepts_of (k : Setting) (s : Settings) : k.Accepts (k.of s) := by
  cases k with
  | timeout => trivial
  | grace => exact Int.natCast_nonneg _
  | escalate => trivial

/-- A sheet that gives all settings is loaded as these settings. -/
theorem load_of_mem (path : Bytes) (trail : Blanks) (sh : Sheet) {s : Settings}
    (h : ∀ k : Setting, (k.key, k.of s) ∈ sh.data) :
    load wording path (.ok (Bytes.ofString (sheetText trail sh))) = .ok s := by
  have hfits : Fits sh.data := fun k d hd => by
    have hsame : (k.key, d) = (k.key, k.of s) :=
      List.inj_on_of_nodup_map sh.nodup_data hd (h k) rfl
    rw [(Prod.mk.inj hsame).2]
    exact k.accepts_of s
  rcases load_sheet wording path trail sh with ⟨-, s', hload, hmerges⟩ | ⟨hnot, -⟩
  · rw [hload, ext_of fun k => (hmerges k).1 _ (h k)]
  · exact absurd hfits hnot

/-- Settings as the text of a file, a line each, in some order. -/
def renderIn (order : List Setting) (s : Settings) : String :=
  "[supervisor]\n" ++ String.join (order.map fun k => renderLine k.key (k.of s).text)

def Setting.bareKey (k : Setting) : BareKey where
  chars := k.key.toList
  ne_nil := by cases k <;> decide
  isBareKeyChar_chars := List.all_eq_true.mp (by cases k <;> decide)

section

-- settings whose grace period an integer of a document can hold
variable {s : Settings} (hs : s.killGraceMillis.toNat ≤ 9223372036854775807)

include hs in
lemma Setting.inRange_of (k : Setting) : (k.of s).InRange := by
  cases k with
  | timeout => exact ⟨s.timeoutSecs.le_toInt, s.timeoutSecs.toInt_lt⟩
  | grace =>
      have hlow : (0 : Int) ≤ s.killGraceMillis.toNat := Int.natCast_nonneg _
      refine ⟨Int.le_trans (by decide) hlow, ?_⟩
      exact Int.ofNat_lt.mpr (Nat.lt_succ_of_le hs)
  | escalate => trivial

/-- The line that gives a setting. -/
def Setting.line (k : Setting) : Line :=
  .usual k.bareKey (k.of s) (k.inRange_of hs)

lemma Setting.pair_line (k : Setting) : (k.line hs).pair = (k.key, k.of s) :=
  Prod.ext String.ofList_toList ((k.of s).datum_given (k.inRange_of hs))

lemma Setting.chars_line (k : Setting) :
    (k.line hs).chars ++ ['\n'] = (renderLine k.key (k.of s).text).toList := by
  have hequals : " = ".toList = [' ', '=', ' '] := rfl
  have hfeed : "\n".toList = ['\n'] := rfl
  rw [line, Line.chars_usual, renderLine]
  simp only [String.toList_append, hequals, hfeed, bareKey, List.append_assoc]

variable {order : List Setting} (horder : order.Nodup)

/-- The settings as a sheet. -/
def renderSheet : Sheet where
  lines := (order.map fun k => k.line hs).map (Prod.mk Break.feed)
  last := some .feed
  distinct := by
    have hnames : (contents ((order.map fun k => k.line hs).map (Prod.mk Break.feed))).map
        (fun l => l.key.name) = order.map Setting.key := by
      simp only [contents, List.map_map]
      exact List.map_congr_left fun k _ => congrArg Prod.fst (k.pair_line hs)
    rw [hnames]
    exact horder.map fun _ _ h => Setting.key_inj.mp h

lemma data_renderSheet : (renderSheet hs horder).data = order.map fun k => (k.key, k.of s) := by
  simp only [Sheet.data, renderSheet, contents, List.map_map]
  exact List.map_congr_left fun k _ => k.pair_line hs

lemma sheetText_renderSheet : sheetText .none (renderSheet hs horder) = renderIn order s := by
  have hlines : (order.map fun k => k.line hs).flatMap (fun l => l.chars ++ ['\n']) =
      (order.map fun k => renderLine k.key (k.of s).text).flatMap String.toList := by
    simp only [List.flatMap_map, Setting.chars_line]
  have htitle : "[supervisor]\n".toList = '[' :: (title.chars ++ [']', '\n']) := rfl
  rw [sheetText, Sheet.under, renderSheet, following_feeds, hlines, renderIn]
  rw [← String.toList_inj, String.toList_ofList, String.toList_append, String.toList_join, htitle]
  simp [Blanks.none]

include hs in
/-- **Settings written out** in any order are loaded again. -/
theorem load_renderIn (path : Bytes) (horder : order.Perm [.timeout, .grace, .escalate]) :
    load wording path (.ok (Bytes.ofString (renderIn order s))) = .ok s := by
  have hnodup : order.Nodup := horder.nodup_iff.mpr (by decide)
  rw [← sheetText_renderSheet hs hnodup]
  refine load_of_mem wording path .none _ fun k => ?_
  rw [data_renderSheet]
  refine List.mem_map.mpr ⟨k, horder.mem_iff.mpr ?_, rfl⟩
  cases k <;> decide

/-- The usual order is one of them. -/
lemma render_eq (s : Settings) : render s = renderIn [.timeout, .grace, .escalate] s := by
  simp only [render, renderIn, List.map_cons, List.map_nil, String.join, List.foldl_cons,
    List.foldl_nil, String.empty_append, String.append_assoc]
  rfl

include hs in
/-- **Settings as they are usually written out** are loaded again. -/
theorem load_render (path : Bytes) : load wording path (.ok (Bytes.ofString s.render)) = .ok s := by
  rw [render_eq]
  exact load_renderIn wording hs path (.refl _)

end

/-! ## What loading depends on -/

/-- The data under the keys of settings, in their order. -/
def known (data : List (String × Datum)) : List (String × Datum) :=
  data.filter fun p => p.1 ∈ [Setting.timeout, .grace, .escalate].map Setting.key

lemma mem_known {data : List (String × Datum)} : (k.key, d) ∈ known data ↔ (k.key, d) ∈ data := by
  have hk : k.key ∈ [Setting.timeout, .grace, .escalate].map Setting.key := by
    refine List.mem_map_of_mem ?_
    cases k <;> decide
  rw [known, List.mem_filter]
  exact and_iff_left (decide_eq_true hk)

/-- **Unknown keys and the order** of the lines have no influence. -/
theorem load_of_known_perm (path : Bytes) (trail trail' : Blanks) {sh sh' : Sheet}
    (h : (known sh.data).Perm (known sh'.data)) :
    (load wording path (.ok (Bytes.ofString (sheetText trail sh)))).toOption =
      (load wording path (.ok (Bytes.ofString (sheetText trail' sh')))).toOption := by
  have hmem (k : Setting) (d : Datum) : (k.key, d) ∈ sh.data ↔ (k.key, d) ∈ sh'.data := by
    rw [← mem_known, h.mem_iff, mem_known]
  have hfits : Fits sh.data ↔ Fits sh'.data := by simp only [Fits, hmem]
  rcases load_sheet wording path trail sh with ⟨hsh, s, hload, hmerges⟩ | ⟨hsh, cause, hload⟩
  · rcases load_sheet wording path trail' sh' with ⟨-, s', hload', hmerges'⟩ | ⟨hsh', -⟩
    · have hmerges : Merges sh'.data default s := by simpa only [Merges, hmem] using hmerges
      rw [hload, hload', hmerges.unique hmerges']
    · exact absurd (hfits.mp hsh) hsh'
  · rcases load_sheet wording path trail' sh' with ⟨hsh', -⟩ | ⟨-, cause', hload'⟩
    · exact absurd (hfits.mpr hsh') hsh
    · rw [hload, hload']
      rfl

/-- A sheet of unknown keys sets nothing. -/
theorem load_unknown (path : Bytes) (trail : Blanks) {sh : Sheet}
    (h : ∀ (k : Setting) (d : Datum), (k.key, d) ∉ sh.data) :
    load wording path (.ok (Bytes.ofString (sheetText trail sh))) = .ok default := by
  rcases load_sheet wording path trail sh with ⟨-, s, hload, hmerges⟩ | ⟨hnot, -⟩
  · rw [hload, ext_of fun k => (hmerges k).2 (h k)]
  · exact absurd (fun k d hd => absurd hd (h k d)) hnot

/-- **Loading is exact**, whatever the file is called and whatever is said of a malformed text.

    * A sheet under the header of the settings is loaded exactly if its timeout is an integer, its
      grace period an integer that is not negative, and its escalation a truth value, as far as they
      are given.  Each setting is then what it is given, and its default if it is given nothing.
      Otherwise the text is refused for a mismatch.
    * Unknown keys and the order of the lines have no influence.
    * Settings that are written out in a sheet are loaded again.  All settings can be written out
      whose grace period is at most the greatest integer of a file, with their keys in any order.
    * Settings are the defaults if there is no file, if it is empty, or if no key in it is known. -/
theorem merge_exact (path : Bytes) :
    (∀ (trail : Blanks) (sh : Sheet),
      let loaded := load wording path (.ok (Bytes.ofString (sheetText trail sh)))
      ((∃ s, loaded = .ok s) ↔ Fits sh.data) ∧
        (∀ s, loaded = .ok s → Merges sh.data default s) ∧
        (¬ Fits sh.data →
          ∃ cause, loaded = .error (.mismatched path (sheetText trail sh) cause))) ∧
    (∀ (trail trail' : Blanks) (sh sh' : Sheet), (known sh.data).Perm (known sh'.data) →
      (load wording path (.ok (Bytes.ofString (sheetText trail sh)))).toOption =
        (load wording path (.ok (Bytes.ofString (sheetText trail' sh')))).toOption) ∧
    (∀ (s : Settings) (trail : Blanks) (sh : Sheet),
      (∀ k : Setting, (k.key, k.of s) ∈ sh.data) →
        load wording path (.ok (Bytes.ofString (sheetText trail sh))) = .ok s) ∧
    (∀ (s : Settings) (order : List Setting), s.killGraceMillis.toNat ≤ 9223372036854775807 →
      order.Perm [.timeout, .grace, .escalate] →
        load wording path (.ok (Bytes.ofString (renderIn order s))) = .ok s) ∧
    (∀ cause : IoError, cause.kind = .notFound → load wording path (.error cause) = .ok default) ∧
    load wording path (.ok []) = .ok default ∧
    (∀ (trail : Blanks) (sh : Sheet), (∀ (k : Setting) (d : Datum), (k.key, d) ∉ sh.data) →
      load wording path (.ok (Bytes.ofString (sheetText trail sh))) = .ok default) ∧
    (∀ (other : BareKey) (trail : Blanks) (sh : Sheet), other.name ≠ "supervisor" →
      load wording path (.ok (Bytes.ofString (String.ofList (sh.under other trail)))) = .ok default) ∧
    (∀ sh : Sheet, (∀ d, ("supervisor", d) ∉ sh.data) →
      load wording path (.ok (Bytes.ofString (String.ofList sh.headless))) = .ok default) := by
  refine ⟨fun trail sh => ?_, fun trail trail' sh sh' => load_of_known_perm _ path trail trail',
    fun s trail sh => load_of_mem _ path trail sh, fun s order hs => load_renderIn _ hs path,
    fun cause hcause => by rw [load, if_pos hcause], ?_, fun trail sh => load_unknown _ path trail,
    fun other trail sh hother => load_under_other _ path hother trail sh, load_headless _ path⟩
  · intro loaded
    rcases load_sheet wording path trail sh with ⟨hfits, s, hload, hmerges⟩ | ⟨hnot, cause, hload⟩
    · refine ⟨⟨fun _ => hfits, fun _ => ⟨s, hload⟩⟩, fun s' hload' => ?_, fun h => absurd hfits h⟩
      obtain rfl : s = s' := Except.ok.inj (hload.symm.trans hload')
      exact hmerges
    · refine ⟨⟨fun ⟨s, hs⟩ => ?_, fun h => absurd h hnot⟩, fun s hs => ?_, fun _ => ⟨cause, hload⟩⟩
      · cases hload.symm.trans hs
      · cases hload.symm.trans hs
  · have hempty : Bytes.ofString (String.ofList []) = [] := Bytes.ofString_ofList []
    rw [← hempty]
    exact load_headless wording path ⟨[], none, .nil⟩ fun d hd => by cases hd

/-- The longest grace period that a file can hold is loaded again, here from the last line but one,
    and a grace period of -1 is refused. -/
theorem merge_of_grace_bounds :
    let silent : String → String := fun _ => ""
    let negative : Sheet :=
      ⟨[(.feed, .usual Setting.grace.bareKey (.integer (-1)) (by decide))], none, by decide⟩
    load silent [] (.ok (Bytes.ofString
        (renderIn [.escalate, .grace, .timeout] ⟨-1, 9223372036854775807, false⟩))) =
      .ok ⟨-1, 9223372036854775807, false⟩ ∧
    ∃ cause, load silent [] (.ok (Bytes.ofString (sheetText .none negative))) = .error cause := by
  intro silent negative
  refine ⟨(merge_exact silent []).2.2.2.1 _ _ (by decide) (by decide), ?_⟩
  have hnot : ¬ Fits negative.data := fun h =>
    absurd (h .grace (.integer (-1)) (by decide)) (by decide)
  obtain ⟨cause, hload⟩ := ((merge_exact silent []).1 .none negative).2.2 hnot
  exact ⟨_, hload⟩

end Curfew.Settings
