import Curfew.Proofs.Text.Ascii
import Curfew.Proofs.Toml.Numeral
import Curfew.Toml.Document
import Mathlib.Data.List.Forall2

/-!
# Sheets

A sheet is a document of lines `key = value`, under a header or under none.  Its keys are bare and
distinct, and each value is a whole number of 64 bits or a truth value.  It may be laid out in any way
that leaves it so: with blanks around its parts, with either kind of line end, and with or without one
at the end.

* **`Datum`** — what a line gives its key; **`Line`** and **`Sheet`** — lines and sheets as they are
  written.
* `scalar_given`, `readAssignment_line`, **`readFrom_rows`** — what is read of a value, of a line, and
  of all lines.
* **`readAll_under`**, **`readAll_headless`** — the statements of a sheet with and without a header.
* `foldlM_apply` — assignments to distinct keys fill a table, one entry each.
* **`root_under`**, **`root_headless`** — the table that a sheet defines.
* `isAscii_under`, `isAscii_headless` — a sheet is of ASCII characters; `Line.usual` — a line in its
  usual layout.
-/

namespace Curfew.Toml

/-! ## Lines as they are written -/

/-- Blanks and tabs. -/
structure Blanks where
  chars : List Char
  isBlank_chars : ∀ c ∈ chars, isBlank c = true

/-- A line end. -/
inductive Break
  | feed
  | returnFeed

def Break.chars : Break → List Char
  | .feed => ['\n']
  | .returnFeed => ['\r', '\n']

/-- A key that needs no quotes. -/
structure BareKey where
  chars : List Char
  ne_nil : chars ≠ []
  isBareKeyChar_chars : ∀ c ∈ chars, isBareKeyChar c = true

def BareKey.name (k : BareKey) : String := String.ofList k.chars

/-- What a key is given. -/
inductive Datum
  | integer (n : Int)
  | boolean (b : Bool)
deriving DecidableEq, Repr

namespace Datum

def value : Datum → Value
  | .integer n => .integer n
  | .boolean b => .boolean b

/-- An integer fits 64 bits. -/
def InRange : Datum → Prop
  | .integer n => -9223372036854775808 ≤ n ∧ n < 9223372036854775808
  | .boolean _ => True

instance (d : Datum) : Decidable d.InRange :=
  match d with
  | .integer _ => inferInstanceAs (Decidable (_ ∧ _))
  | .boolean _ => .isTrue trivial

end Datum

/-- A datum as it is written. -/
inductive Given
  | integer (m : Numeral) (inRange : (Datum.integer m.value).InRange)
  | boolean (b : Bool)

namespace Given

def datum : Given → Datum
  | .integer m _ => .integer m.value
  | .boolean b => .boolean b

def chars : Given → List Char
  | .integer m _ => m.chars
  | .boolean true => ['t', 'r', 'u', 'e']
  | .boolean false => ['f', 'a', 'l', 's', 'e']

lemma inRange_datum (g : Given) : g.datum.InRange := by
  cases g with
  | integer m inRange => exact inRange
  | boolean b => trivial

end Given

/-- A line that gives a key a datum, with blanks wherever they may stand. -/
structure Line where
  indent : Blanks
  key : BareKey
  gap : Blanks
  margin : Blanks
  given : Given
  trail : Blanks

namespace Line

/-- The line without its indentation. -/
def body (l : Line) : List Char :=
  l.key.chars ++ (l.gap.chars ++ '=' :: (l.margin.chars ++ (l.given.chars ++ l.trail.chars)))

/-- The line as it is written. -/
def chars (l : Line) : List Char := l.indent.chars ++ l.body

/-- The name of a line's key, and what it is given. -/
def pair (l : Line) : String × Datum := (l.key.name, l.given.datum)

/-- The assignment that a line makes, wherever it stands. -/
def States (l : Line) (s : Statement) : Prop :=
  ∃ keySpan span, s = .assign [] ⟨l.key.name, keySpan⟩ ⟨some span, l.given.datum.value⟩

end Line

/-- Lines, each of them after the end of the line before it, and perhaps a line end after the last. -/
def following (last : Option Break) : List (Break × Line) → List Char
  | [] => last.elim [] Break.chars
  | (b, l) :: later => b.chars ++ (l.chars ++ following last later)

/-- The same lines, the end of the line before them left out. -/
def rows (last : Option Break) : List (Break × Line) → List Char
  | [] => []
  | (_, l) :: later => l.chars ++ following last later

/-- Lines without the line ends before them. -/
def contents (lines : List (Break × Line)) : List Line := lines.map Prod.snd

/-! ## What is read of a line -/

lemma Numeral.exists_first (m : Numeral) :
    ∃ c tail, m.chars = c :: tail ∧ (c = '+' ∨ c = '-' ∨ c.isDigit = true) := by
  rw [chars]
  cases m.sign with
  | none => exact ⟨m.first, _, rfl, .inr (.inr m.isDigit_first)⟩
  | plus => exact ⟨'+', _, rfl, .inl rfl⟩
  | minus => exact ⟨'-', _, rfl, .inr (.inl rfl)⟩

/-- A datum begins with no blank, bracket or brace. -/
lemma Given.exists_first (g : Given) :
    ∃ c tail, g.chars = c :: tail ∧ isBlank c = false ∧ c ≠ '[' ∧ c ≠ '\x7b' := by
  cases g with
  | integer m inRange =>
      obtain ⟨c, tail, htext, hc⟩ := m.exists_first
      refine ⟨c, tail, htext, ?_⟩
      rcases hc with rfl | rfl | hc
      · decide
      · decide
      · refine ⟨?_, ?_, ?_⟩
        · rw [← Bool.not_eq_true, isBlank_iff]
          rintro (rfl | rfl) <;> cases hc
        · rintro rfl; cases hc
        · rintro rfl; cases hc
  | boolean b => cases b <;> exact ⟨_, _, rfl, by decide⟩

/-- A datum is read up to where it is over. -/
theorem scalar_given (g : Given) {rest : List Char} (hrest : Closes rest) (n : Nat) :
    scalar ⟨g.chars ++ rest, n⟩ = some (g.datum.value, ⟨rest, n + Cursor.byteCount g.chars⟩) := by
  cases g with
  | integer m inRange =>
      have hread := m.numberOrDate_chars hrest inRange.1 inRange.2 n
      obtain ⟨c, tail, htext, hc⟩ := m.exists_first
      have hquote : (c == '"' || c == '\'') = false := by
        simp only [Bool.or_eq_false_iff, beq_eq_false_iff_ne]
        constructor <;> rintro rfl <;> simp [Char.isDigit] at hc
      have hnumber : (c == '+' || c == '-' || c.isDigit) = true := by
        simpa only [Bool.or_eq_true, beq_iff_eq, or_assoc] using hc
      refine Eq.trans ?_ hread
      rw [Given.chars]
      simp only [scalar, Cursor.peek?, htext, List.cons_append, List.head?_cons, hquote, hnumber,
        Bool.false_eq_true, if_false, if_true]
  | boolean b =>
      have hfalse (n : Nat) : (⟨['f', 'a', 'l', 's', 'e'] ++ rest, n⟩ : Cursor).literal
          ['t', 'r', 'u', 'e'] = none := Cursor.literal_of_ends (ends_cons.mpr rfl)
      cases b with
      | true =>
          rw [Given.chars, scalar, Cursor.literal_append]
          rfl
      | false =>
          rw [Given.chars, scalar, hfalse, Cursor.literal_append]
          rfl

/-- A datum is read as a value of its own. -/
lemma value_given (g : Given) {rest : List Char} (hrest : Closes rest) (depth n : Nat) :
    ∃ span, value depth ⟨g.chars ++ rest, n⟩ =
      some (⟨some span, g.datum.value⟩, ⟨rest, n + Cursor.byteCount g.chars⟩) := by
  refine ⟨⟨n, n + Cursor.byteCount g.chars⟩, ?_⟩
  have hscalar : located ⟨g.chars ++ rest, n⟩ (scalar ⟨g.chars ++ rest, n⟩) =
      some (⟨some ⟨n, n + Cursor.byteCount g.chars⟩, g.datum.value⟩,
        ⟨rest, n + Cursor.byteCount g.chars⟩) := by
    rw [scalar_given g hrest]
    rfl
  cases depth with
  | zero => exact hscalar
  | succ depth =>
      obtain ⟨c, tail, htext, -, hbracket, hbrace⟩ := g.exists_first
      rw [htext, List.cons_append] at hscalar ⊢
      simp only [value, Cursor.peek?, List.head?_cons]
      split
      · rename_i h
        exact absurd (Option.some.inj h) hbracket
      · rename_i h
        exact absurd (Option.some.inj h) hbrace
      · exact hscalar

/-- After a line the document is at its end, or a line end leads on to the next line. -/
lemma following_eq (last : Option Break) (later : List (Break × Line)) :
    (following last later = [] ∧ rows last later = []) ∨
      ∃ b : Break, following last later = b.chars ++ rows last later := by
  cases later with
  | nil =>
      cases last with
      | none => exact .inl ⟨rfl, rfl⟩
      | some b => exact .inr ⟨b, (List.append_nil b.chars).symm⟩
  | cons bl later => exact .inr ⟨bl.1, rfl⟩

/-- Where a line is over, only a line end can come next. -/
lemma ends_following {p : Char → Bool} (hfeed : p '\n' = false) (hreturn : p '\r' = false)
    (last : Option Break) (later : List (Break × Line)) : Ends p (following last later) := by
  rcases following_eq last later with ⟨h, -⟩ | ⟨b, h⟩
  · rw [h]
    exact Ends.nil p
  · rw [h]
    cases b with
    | feed => exact ends_cons.mpr hfeed
    | returnFeed => exact ends_cons.mpr hreturn

/-- A value is over at the end of its line. -/
lemma closes_trail (trail : Blanks) (last : Option Break) (later : List (Break × Line)) :
    Closes (trail.chars ++ following last later) :=
  Ends.append (fun c hc => by simp [trail.isBlank_chars c hc])
    (ends_following rfl rfl last later)

/-- The end of a line leads on to the next one. -/
lemma lineTail_following (trail : Blanks) (last : Option Break) (later : List (Break × Line))
    (n : Nat) : ∃ m, (⟨trail.chars ++ following last later, n⟩ : Cursor).lineTail? =
      some ⟨rows last later, m⟩ := by
  rw [Cursor.lineTail?,
    Cursor.skipBlanks_append trail.isBlank_chars (ends_following rfl rfl last later),
    Cursor.skipComment_of_ends (ends_following rfl rfl last later), Cursor.lineEnd?]
  rcases following_eq last later with ⟨h, hrows⟩ | ⟨b, h⟩
  · rw [h, hrows]
    exact ⟨_, rfl⟩
  · rw [h]
    cases b with
    | feed => exact ⟨_, rfl⟩
    | returnFeed => exact ⟨_, rfl⟩

/-- **A line** is read as the assignment that it makes. -/
theorem readAssignment_line (l : Line) (last : Option Break) (later : List (Break × Line))
    (n : Nat) : ∃ s m, Statement.readAssignment ⟨l.body ++ following last later, n⟩ =
      some (s, ⟨rows last later, m⟩) ∧ l.States s := by
  let afterValue := l.trail.chars ++ following last later
  let afterKey := '=' :: (l.margin.chars ++ (l.given.chars ++ afterValue))
  have htext : l.body ++ following last later = l.key.chars ++ (l.gap.chars ++ afterKey) := by
    simp [Line.body, afterKey, afterValue]
  have hafterKey : Ends extendsKey afterKey := ends_cons.mpr rfl
  have hvalue : Ends isBlank (l.given.chars ++ afterValue) := by
    obtain ⟨c, tail, hchars, hc, -⟩ := l.given.exists_first
    rw [hchars]
    exact ends_cons.mpr hc
  obtain ⟨keySpan, n₁, hkey⟩ :=
    dottedKey_bare l.key.ne_nil l.key.isBareKeyChar_chars l.gap.isBlank_chars hafterKey n
  let n₂ := n₁ + '='.utf8Size + Cursor.byteCount l.margin.chars
  obtain ⟨span, hgiven⟩ :=
    value_given l.given (closes_trail l.trail last later) (depthLimit - 1) n₂
  obtain ⟨m, htail⟩ :=
    lineTail_following l.trail last later (n₂ + Cursor.byteCount l.given.chars)
  refine ⟨_, m, ?_, keySpan, span, rfl⟩
  rw [htext, Statement.readAssignment, hkey]
  simp only [Option.bind_eq_bind, Option.bind_some, afterKey, Cursor.expect_cons,
    Cursor.skipBlanks_append l.margin.isBlank_chars hvalue]
  rw [hgiven]
  simp only [Option.bind_some, htail]
  rfl

/-- A line's key comes first, after its indentation. -/
lemma Line.exists_first (l : Line) : ∃ c tail, l.body = c :: tail ∧ isBareKeyChar c = true := by
  obtain ⟨c, tail, hkey⟩ := List.exists_cons_of_ne_nil l.key.ne_nil
  refine ⟨c, _, by rw [body, hkey, List.cons_append], l.key.isBareKeyChar_chars c ?_⟩
  rw [hkey]
  exact List.mem_cons_self

/-- Where a line comes next, an assignment is read after its indentation. -/
lemma readFrom_line (l : Line) (rest : List Char) (fuel : Nat) (got : List Statement) (n : Nat) :
    Statement.readFrom (fuel + 1) got ⟨l.chars ++ rest, n⟩ =
      (Statement.readAssignment ⟨l.body ++ rest, n + Cursor.byteCount l.indent.chars⟩).bind
        fun (s, cur) => Statement.readFrom fuel (s :: got) cur := by
  obtain ⟨c, tail, hbody, hc⟩ := l.exists_first
  have hblank : Ends isBlank (l.body ++ rest) := by
    rw [hbody]
    exact ends_cons.mpr (isBlank_of_isBareKeyChar hc)
  have hpeek (m : Nat) : (⟨l.body ++ rest, m⟩ : Cursor).peek? = some c := by
    rw [hbody]
    rfl
  rw [Statement.readFrom, Line.chars, List.append_assoc,
    Cursor.skipBlanks_append l.indent.isBlank_chars hblank]
  simp only [hpeek]
  -- a key begins with none of the characters that begin other statements
  split <;> rename_i h
  · cases h
  · cases Option.some.inj h; cases hc
  · cases Option.some.inj h; cases hc
  · cases Option.some.inj h; cases hc
  · cases Option.some.inj h; cases hc
  · rfl

/-- **All lines** are read, in their order, given a unit of fuel for each and one more. -/
theorem readFrom_rows (last : Option Break) (lines : List (Break × Line)) {fuel : Nat}
    (hfuel : lines.length < fuel) (got : List Statement) (n : Nat) :
    ∃ statements, Statement.readFrom fuel got ⟨rows last lines, n⟩ =
      some (got.reverse ++ statements) ∧
        List.Forall₂ Line.States (contents lines) statements := by
  induction lines generalizing fuel got n with
  | nil =>
      obtain ⟨fuel, rfl⟩ := Nat.exists_eq_add_one_of_ne_zero (Nat.ne_of_gt hfuel)
      refine ⟨[], ?_, .nil⟩
      rw [List.append_nil]
      rfl
  | cons bl later ih =>
      obtain ⟨fuel, rfl⟩ :=
        Nat.exists_eq_add_one_of_ne_zero (Nat.ne_of_gt (Nat.zero_lt_of_lt hfuel))
      obtain ⟨b, l⟩ := bl
      obtain ⟨s, m, hread, hstates⟩ :=
        readAssignment_line l last later (n + Cursor.byteCount l.indent.chars)
      obtain ⟨statements, hlater, hall⟩ := ih (Nat.lt_of_succ_lt_succ hfuel) (s :: got) m
      refine ⟨s :: statements, ?_, .cons hstates hall⟩
      rw [rows, readFrom_line, hread]
      simpa using hlater

/-! ## Sheets -/

/-- Lines under distinct keys, each after a line end, and perhaps a line end after the last. -/
structure Sheet where
  lines : List (Break × Line)
  last : Option Break
  distinct : ((contents lines).map fun l => l.key.name).Nodup

namespace Sheet

variable (sh : Sheet)

/-- What the lines give to which keys, in their order. -/
def data : List (String × Datum) := (contents sh.lines).map Line.pair

/-- The lines under a header, with blanks behind it. -/
def under (title : BareKey) (trail : Blanks) : List Char :=
  '[' :: (title.chars ++ ']' :: (trail.chars ++ following sh.last sh.lines))

/-- The lines without a header; nothing comes before the first. -/
def headless : List Char := rows sh.last sh.lines

lemma nodup_data : (sh.data.map Prod.fst).Nodup := by
  rw [data, List.map_map]
  exact sh.distinct

lemma inRange_data : ∀ p ∈ sh.data, p.2.InRange := by
  intro p hp
  obtain ⟨l, -, rfl⟩ := List.mem_map.mp hp
  exact l.given.inRange_datum

end Sheet

/-- Every line after a line end has a character of its own, the line end's. -/
lemma length_le_following (last : Option Break) (lines : List (Break × Line)) :
    lines.length ≤ (following last lines).length := by
  induction lines with
  | nil => exact Nat.zero_le _
  | cons bl later ih =>
      have hbreak : 1 ≤ bl.1.chars.length := by cases bl.1 <;> decide
      rw [following, List.length_append, List.length_append, List.length_cons]
      omega

lemma length_le_rows (last : Option Break) (lines : List (Break × Line)) :
    lines.length ≤ (rows last lines).length := by
  cases lines with
  | nil => exact Nat.zero_le _
  | cons bl later =>
      obtain ⟨c, tail, hbody, -⟩ := bl.2.exists_first
      have hlater := length_le_following last later
      rw [rows, Line.chars, hbody]
      simp only [List.length_append, List.length_cons]
      omega

lemma ends_rows {p : Char → Bool} (hkey : ∀ c, isBareKeyChar c = true → p c = false)
    (hspace : p ' ' = false) (htab : p '\t' = false) (last : Option Break)
    (lines : List (Break × Line)) : Ends p (rows last lines) := by
  cases lines with
  | nil => exact Ends.nil p
  | cons bl later =>
      obtain ⟨c, tail, hbody, hc⟩ := bl.2.exists_first
      rw [rows, Line.chars, List.append_assoc]
      refine Ends.append (fun d hd => ?_) ?_
      · rcases isBlank_iff.mp (bl.2.indent.isBlank_chars d hd) with rfl | rfl
        · exact hspace
        · exact htab
      · rw [hbody]
        exact ends_cons.mpr (hkey c hc)

/-- A header with a bare key is read with the rest of its line. -/
lemma readHeader_under (title : BareKey) (trail : Blanks) (sh : Sheet) (n : Nat) :
    ∃ keySpan span m, Statement.readHeader ⟨sh.under title trail, n⟩ =
      some (.header [] ⟨title.name, keySpan⟩ span, ⟨rows sh.last sh.lines, m⟩) := by
  let afterKey := [']'] ++ (trail.chars ++ following sh.last sh.lines)
  have hafterKey : Ends extendsKey afterKey := ends_cons.mpr rfl
  have hnoBlanks : ∀ c ∈ ([] : List Char), isBlank c = true := fun _ h => by cases h
  obtain ⟨keySpan, n₁, hkey⟩ := dottedKey_bare title.ne_nil title.isBareKeyChar_chars
    hnoBlanks hafterKey (n + Cursor.byteCount ['['])
  obtain ⟨m, htail⟩ := lineTail_following trail sh.last sh.lines (n₁ + Cursor.byteCount [']'])
  refine ⟨keySpan, ⟨n, n₁ + Cursor.byteCount [']']⟩, m, ?_⟩
  have hread : Statement.bracketed ['['] [']'] ⟨['['] ++ (title.chars ++ ([] ++ afterKey)), n⟩ =
      some (([], ⟨title.name, keySpan⟩, ⟨n, n₁ + Cursor.byteCount [']']⟩),
        ⟨rows sh.last sh.lines, m⟩) := by
    rw [Statement.bracketed, Cursor.literal_append]
    simp only [Option.bind_eq_bind, Option.bind_some, hkey, afterKey, Cursor.literal_append, htail]
    rfl
  obtain ⟨c, tail, htitle⟩ := List.exists_cons_of_ne_nil title.ne_nil
  have hc : c ≠ '[' := by
    rintro rfl
    have := title.isBareKeyChar_chars '[' (by rw [htitle]; exact List.mem_cons_self)
    cases this
  rw [Statement.readHeader]
  split
  · rename_i h
    rw [Sheet.under, htitle] at h
    exact absurd (List.cons.inj (List.cons.inj h).2).1 hc
  · have htext : sh.under title trail = ['['] ++ (title.chars ++ ([] ++ afterKey)) := rfl
    rw [htext, hread]
    rfl

/-- **The statements under a header** are the header and an assignment for each line. -/
theorem readAll_under (title : BareKey) (trail : Blanks) (sh : Sheet) :
    ∃ keySpan span statements, Statement.readAll (String.ofList (sh.under title trail)) =
      some (.header [] ⟨title.name, keySpan⟩ span :: statements) ∧
        List.Forall₂ Line.States (contents sh.lines) statements := by
  obtain ⟨keySpan, span, m, hheader⟩ := readHeader_under title trail sh 0
  have hfuel : sh.lines.length < (sh.under title trail).length := by
    have := length_le_following sh.last sh.lines
    simp only [Sheet.under, List.length_cons, List.length_append]
    omega
  obtain ⟨statements, hrows, hstates⟩ :=
    readFrom_rows sh.last sh.lines hfuel [.header [] ⟨title.name, keySpan⟩ span] m
  refine ⟨keySpan, span, statements, ?_, hstates⟩
  have hmark : Ends (· == '\uFEFF') (sh.under title trail) := ends_cons.mpr rfl
  have hblank : Ends isBlank (sh.under title trail) := ends_cons.mpr rfl
  rw [Statement.readAll, Cursor.ofText, String.toList_ofList]
  simp only [Cursor.expect_of_ends hmark, Option.getD_none]
  rw [Statement.readFrom, Cursor.skipBlanks_of_ends hblank]
  have hpeek : (⟨sh.under title trail, 0⟩ : Cursor).peek? = some '[' := rfl
  simp only [hpeek, hheader, Option.bind_some]
  exact hrows

/-- **The statements without a header** are an assignment for each line. -/
theorem readAll_headless (sh : Sheet) :
    ∃ statements, Statement.readAll (String.ofList sh.headless) = some statements ∧
      List.Forall₂ Line.States (contents sh.lines) statements := by
  have hfuel := Nat.lt_succ_of_le (length_le_rows sh.last sh.lines)
  obtain ⟨statements, hrows, hstates⟩ := readFrom_rows sh.last sh.lines hfuel [] 0
  refine ⟨statements, ?_, hstates⟩
  have hmark : Ends (· == '\uFEFF') sh.headless :=
    ends_rows (fun _ hc => beq_of_class hc rfl) rfl rfl sh.last sh.lines
  rw [Statement.readAll, Cursor.ofText, String.toList_ofList]
  simp only [Cursor.expect_of_ends hmark, Option.getD_none]
  exact hrows

/-! ## The table of a sheet -/

/-- An entry has the name and the value of a datum. -/
def Records (p : String × Datum) (e : Entry Value) : Prop :=
  e.key.name = p.1 ∧ e.value = p.2.value

lemma names_of_records {data : List (String × Datum)} {entries : List (Entry Value)}
    (h : List.Forall₂ Records data entries) :
    entries.map (fun e => e.key.name) = data.map Prod.fst := by
  induction h with
  | nil => rfl
  | cons he _ ih => rw [List.map_cons, List.map_cons, he.1, ih]

/-- A table with a header takes in a new key. -/
lemma assign_new {entries : List (Entry Value)} {e : Entry Value}
    (hnew : ∀ old ∈ entries, old.key.name ≠ e.key.name) :
    Table.assign [] e ⟨.header, entries⟩ = some ⟨.header, entries ++ [e]⟩ := by
  have hfind : (⟨.header, entries⟩ : Table).find? e.key.name = none :=
    List.find?_eq_none.mpr fun old hold => by simpa using hnew old hold
  rw [Table.assign, Table.alter]
  simp [hfind, TableOf.push]

/-- Assignments fill a table one entry each, if no key is among them twice. -/
theorem foldlM_apply (place : Table → Span → Document)
    (hplace : ∀ t span key x, ∃ span', (place t span).apply (.assign [] key x) =
      (t.assign [] ⟨key, x.span, x.value⟩).map fun t => place t span')
    {lines : List Line} {statements : List Statement}
    (hstates : List.Forall₂ Line.States lines statements) (filled : List (Entry Value))
    (hdistinct : (filled.map (fun e => e.key.name) ++ lines.map fun l => l.key.name).Nodup)
    (span : Span) :
    ∃ entries span', statements.foldlM Document.apply (place ⟨.header, filled⟩ span) =
      some (place ⟨.header, filled ++ entries⟩ span') ∧
        List.Forall₂ Records (lines.map Line.pair) entries := by
  induction hstates generalizing filled span with
  | nil => exact ⟨[], span, by rw [List.append_nil]; rfl, .nil⟩
  | @cons l s lines statements hl _ ih =>
      obtain ⟨keySpan, valueSpan, rfl⟩ := hl
      let e : Entry Value := ⟨⟨l.key.name, keySpan⟩, some valueSpan, l.given.datum.value⟩
      have hnew : ∀ old ∈ filled, old.key.name ≠ e.key.name := fun old hold h =>
        (List.nodup_append.mp hdistinct).2.2 _ (List.mem_map_of_mem hold) _ List.mem_cons_self h
      obtain ⟨span₁, happly⟩ := hplace ⟨.header, filled⟩ span ⟨l.key.name, keySpan⟩
        ⟨some valueSpan, l.given.datum.value⟩
      have hdistinct' : ((filled ++ [e]).map (fun e => e.key.name) ++
          lines.map fun l => l.key.name).Nodup := by
        rw [List.map_append, List.append_assoc]
        exact hdistinct
      obtain ⟨entries, span', hfold, hrecords⟩ := ih (filled ++ [e]) hdistinct' span₁
      refine ⟨e :: entries, span', ?_, .cons ⟨rfl, rfl⟩ hrecords⟩
      have happend : filled ++ e :: entries = filled ++ [e] ++ entries :=
        List.append_cons filled e entries
      rw [List.foldlM_cons, happly, assign_new hnew, happend]
      exact hfold

/-- **A sheet under a header** defines one table, under the header's key. -/
theorem root_under (title : BareKey) (trail : Blanks) (sh : Sheet) :
    ∃ keySpan span entries, Document.root? (String.ofList (sh.under title trail)) =
      some ⟨.header, [⟨⟨title.name, keySpan⟩, some span, .table ⟨.header, entries⟩⟩]⟩ ∧
        List.Forall₂ Records sh.data entries := by
  obtain ⟨keySpan, headerSpan, statements, hread, hstates⟩ := readAll_under title trail sh
  let place (t : Table) (span : Span) : Document :=
    ⟨.empty .header, some ⟨[], ⟨title.name, keySpan⟩, false, t, span⟩⟩
  obtain ⟨entries, span, hfold, hrecords⟩ := foldlM_apply place
    (fun t span key x => ⟨⟨span.start, (x.span.map Span.stop).getD span.stop⟩, rfl⟩)
    hstates [] sh.distinct headerSpan
  refine ⟨keySpan, span, entries, ?_, hrecords⟩
  have hheader : Document.apply .empty (.header [] ⟨title.name, keySpan⟩ headerSpan) =
      some (place ⟨.header, []⟩ headerSpan) := rfl
  rw [Document.root?, hread, Option.bind_some, Document.ofStatements?, List.foldlM_cons, hheader]
  simp only [Option.bind_eq_bind, Option.bind_some, hfold]
  rfl

/-- **A sheet without a header** defines its keys at the root. -/
theorem root_headless (sh : Sheet) :
    ∃ entries, Document.root? (String.ofList sh.headless) = some ⟨.header, entries⟩ ∧
      List.Forall₂ Records sh.data entries := by
  obtain ⟨statements, hread, hstates⟩ := readAll_headless sh
  obtain ⟨entries, span, hfold, hrecords⟩ := foldlM_apply (fun t _ => ⟨t, none⟩)
    (fun t span key x => ⟨span, rfl⟩) hstates [] sh.distinct ⟨0, 0⟩
  refine ⟨entries, ?_, hrecords⟩
  have hempty : Document.empty = ⟨⟨.header, []⟩, none⟩ := rfl
  rw [Document.root?, hread, Option.bind_some, Document.ofStatements?, hempty]
  simp only [Option.bind_eq_bind, hfold, Option.bind_some]
  rfl

/-! ## The bytes of a sheet -/

open Text (IsAscii)

lemma isAscii_of_le {c bound : Char} (hbound : IsAscii bound) (h : c.val ≤ bound.val) :
    IsAscii c :=
  Nat.lt_of_le_of_lt (UInt32.le_iff_toNat_le.mp h) hbound

lemma isAscii_of_isDigit {c : Char} (h : c.isDigit = true) : IsAscii c :=
  isAscii_of_le (by decide : IsAscii '9') (of_decide_eq_true (Bool.and_eq_true_iff.mp h).2)

lemma isAscii_of_isBareKeyChar {c : Char} (h : isBareKeyChar c = true) : IsAscii c := by
  have hclasses : (((c.isUpper || c.isLower) || c.isDigit) || c == '_' || c == '-') = true := h
  simp only [Bool.or_eq_true, beq_iff_eq] at hclasses
  rcases hclasses with (((h | h) | h) | rfl) | rfl
  · exact isAscii_of_le (by decide : IsAscii 'Z') (of_decide_eq_true h).2
  · exact isAscii_of_le (by decide : IsAscii 'z') (of_decide_eq_true (Bool.and_eq_true_iff.mp h).2)
  · exact isAscii_of_isDigit h
  · decide
  · decide

lemma isAscii_of_isBlank {c : Char} (h : isBlank c = true) : IsAscii c := by
  rcases isBlank_iff.mp h with rfl | rfl
  · decide
  · decide

lemma Given.isAscii_chars (g : Given) : ∀ c ∈ g.chars, IsAscii c := by
  cases g with
  | integer m inRange =>
      intro c hc
      rcases List.mem_append.mp hc with hc | hc
      · rcases Sign.mem_chars hc with rfl | rfl
        · decide
        · decide
      · rcases m.mem_unsigned hc with hc | rfl
        · exact isAscii_of_isDigit hc
        · decide
  | boolean b =>
      cases b with
      | true => simp [chars, IsAscii]
      | false => simp [chars, IsAscii]

lemma Line.isAscii_chars (l : Line) : ∀ c ∈ l.chars, IsAscii c := by
  have blanks (b : Blanks) (c : Char) (hc : c ∈ b.chars) := isAscii_of_isBlank (b.isBlank_chars c hc)
  simp only [chars, body, List.forall_mem_append, List.forall_mem_cons]
  exact ⟨blanks _, fun c hc => isAscii_of_isBareKeyChar (l.key.isBareKeyChar_chars c hc), blanks _,
    by decide, blanks _, l.given.isAscii_chars, blanks _⟩

lemma isAscii_following (last : Option Break) (lines : List (Break × Line)) :
    ∀ c ∈ following last lines, IsAscii c := by
  have hbreak (b : Break) : ∀ c ∈ b.chars, IsAscii c := by
    cases b with
    | feed => simp [Break.chars, IsAscii]
    | returnFeed => simp [Break.chars, IsAscii]
  induction lines with
  | nil =>
      cases last with
      | none => exact fun c hc => by cases hc
      | some b => exact hbreak b
  | cons bl later ih =>
      simp only [following, List.forall_mem_append]
      exact ⟨hbreak bl.1, bl.2.isAscii_chars, ih⟩

namespace Sheet

lemma isAscii_under (title : BareKey) (trail : Blanks) (sh : Sheet) :
    ∀ c ∈ sh.under title trail, IsAscii c := by
  simp only [under, List.forall_mem_append, List.forall_mem_cons]
  exact ⟨by decide,
    fun c hc => isAscii_of_isBareKeyChar (title.isBareKeyChar_chars c hc),
    by decide, fun c hc => isAscii_of_isBlank (trail.isBlank_chars c hc),
    isAscii_following _ _⟩

lemma isAscii_headless (sh : Sheet) : ∀ c ∈ sh.headless, IsAscii c := by
  rw [headless]
  cases sh.lines with
  | nil => exact fun c hc => by cases hc
  | cons bl later =>
      simp only [rows, List.forall_mem_append]
      exact ⟨bl.2.isAscii_chars, isAscii_following _ _⟩

end Sheet

/-! ## The usual layout -/

namespace Datum

/-- A datum as it is usually written. -/
def text : Datum → String
  | .integer n => toString n
  | .boolean b => toString b

def given : (d : Datum) → d.InRange → Given
  | .integer n, h => .integer (.ofInt n) (by rw [Numeral.value_ofInt]; exact h)
  | .boolean b, _ => .boolean b

lemma datum_given (d : Datum) (h : d.InRange) : (d.given h).datum = d := by
  cases d with
  | integer n => exact congrArg integer (Numeral.value_ofInt n)
  | boolean b => rfl

lemma chars_given (d : Datum) (h : d.InRange) : (d.given h).chars = d.text.toList := by
  cases d with
  | integer n => exact Numeral.chars_ofInt n
  | boolean b => cases b <;> rfl

end Datum

def Blanks.none : Blanks := ⟨[], by simp⟩

def Blanks.space : Blanks := ⟨[' '], by simp [isBlank]⟩

/-- A line with a space on either side of the equals sign, and no other blanks. -/
def Line.usual (key : BareKey) (d : Datum) (h : d.InRange) : Line :=
  ⟨.none, key, .space, .space, d.given h, .none⟩

lemma Line.chars_usual (key : BareKey) (d : Datum) (h : d.InRange) :
    (usual key d h).chars = key.chars ++ ([' ', '=', ' '] ++ d.text.toList) := by
  rw [chars, body]
  simp only [usual, Blanks.none, Blanks.space, d.chars_given h]
  simp

/-- Each line after a line feed, and a line feed at the end. -/
lemma following_feeds (lines : List Line) :
    following (some .feed) (lines.map (Prod.mk Break.feed)) =
      '\n' :: lines.flatMap fun l => l.chars ++ ['\n'] := by
  induction lines with
  | nil => rfl
  | cons l lines ih =>
      rw [List.map_cons, following, ih]
      simp [Break.chars]

end Curfew.Toml
