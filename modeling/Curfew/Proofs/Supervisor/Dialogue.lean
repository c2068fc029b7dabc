import Mathlib.Tactic.Lemma
import Curfew.Supervisor.Program

/-!
# Dialogues of a program with its surroundings

A program only asks; what becomes of it lies in the answers.  Two views of a run:

* **`Program.Leaves`** — the turns of a run, each a request with its answer, and what is left of
  the program after them.  The surroundings do not occur: any answer is possible.  A run of
  `p.bind f` falls into a run of `p` and one of `f` (`leaves_bind`, `ends_bind`).
* **`Dialogue`** — a run in surroundings that change with every turn and may refuse an answer.
  Its turns are a run in the first sense (`Dialogue.leaves`).

Two ways to prove something of every run:

* **`Program.Asks`** looks at the requests and the result alone.
* **`Program.Always`** looks at every exchange with the surroundings, and at the result.

Both are recursions over the program, with a rule for `bind`, and hold of unfinished runs as well.
-/

namespace Curfew.Supervisor

structure Turn where
  request : Request
  answer : request.Answer

/-- A turn, with the surroundings in which the request was made and those which the answer left. -/
structure Exchange (τ : Type) where
  before : τ
  turn : Turn
  after : τ

namespace Program

variable {α β : Type}

@[simp] lemma bind_eq (p : Program α) (f : α → Program β) : p >>= f = p.bind f := rfl

@[simp] lemma pure_eq (a : α) : (pure a : Program α) = done a := rfl

/-! ## Turns -/

/-- `p.Leaves turns q`: after these turns, `q` is left of `p`. -/
inductive Leaves : Program α → List Turn → Program α → Prop
  | start (p : Program α) : Leaves p [] p
  | turn {r : Request} {next : r.Answer → Program α} {a : r.Answer} {turns : List Turn}
      {q : Program α} (rest : Leaves (next a) turns q) : Leaves (ask r next) (⟨r, a⟩ :: turns) q

/-- A program that has ended has no more turns. -/
lemma leaves_done {x : α} {turns : List Turn} {q : Program α} :
    (done x).Leaves turns q ↔ turns = [] ∧ q = done x := by
  constructor
  · intro h
    cases h
    exact ⟨rfl, rfl⟩
  · rintro ⟨rfl, rfl⟩
    exact .start _

/-- A program that has crashed has no more turns. -/
lemma leaves_crash {reason : Crash} {turns : List Turn} {q : Program α} :
    (crash reason).Leaves turns q ↔ turns = [] ∧ q = crash reason := by
  constructor
  · intro h
    cases h
    exact ⟨rfl, rfl⟩
  · rintro ⟨rfl, rfl⟩
    exact .start _

/-- A request waits for its answer, or goes on after it. -/
lemma leaves_ask {r : Request} {next : r.Answer → Program α} {turns : List Turn} {q : Program α} :
    (ask r next).Leaves turns q ↔ (turns = [] ∧ q = ask r next) ∨
      ∃ a later, turns = ⟨r, a⟩ :: later ∧ (next a).Leaves later q := by
  constructor
  · intro h
    cases h with
    | start => exact .inl ⟨rfl, rfl⟩
    | turn rest => exact .inr ⟨_, _, rfl, rest⟩
  · rintro (⟨rfl, rfl⟩ | ⟨a, later, rfl, rest⟩)
    · exact .start _
    · exact .turn rest

/-- **A run of one program after another** has not left the first one, or has ended it and goes on
    with the second. -/
theorem leaves_bind {p : Program α} {f : α → Program β} {turns : List Turn} {q : Program β}
    (h : (p.bind f).Leaves turns q) :
    (∃ p', p.Leaves turns p' ∧ q = p'.bind f) ∨
      ∃ first later x, turns = first ++ later ∧ p.Leaves first (done x) ∧
        (f x).Leaves later q := by
  induction p generalizing turns with
  | done x => exact .inr ⟨[], turns, x, rfl, .start _, h⟩
  | crash reason =>
      obtain ⟨rfl, rfl⟩ := leaves_crash.mp h
      exact .inl ⟨_, .start _, rfl⟩
  | ask r next ih =>
      rcases leaves_ask.mp h with ⟨rfl, rfl⟩ | ⟨a, later, rfl, rest⟩
      · exact .inl ⟨_, .start _, rfl⟩
      · rcases ih a rest with ⟨p', hp, hq⟩ | ⟨first, later', x, rfl, hp, hf⟩
        · exact .inl ⟨p', .turn hp, hq⟩
        · exact .inr ⟨⟨r, a⟩ :: first, later', x, rfl, .turn hp, hf⟩

/-- A run of one program after another that has ended has ended both. -/
theorem ends_bind {p : Program α} {f : α → Program β} {turns : List Turn} {y : β} :
    (p.bind f).Leaves turns (done y) ↔
      ∃ first later x, turns = first ++ later ∧ p.Leaves first (done x) ∧
        (f x).Leaves later (done y) := by
  constructor
  · intro h
    rcases leaves_bind h with ⟨p', hp, hq⟩ | h
    · cases p' with
      | done x => exact ⟨turns, [], x, (List.append_nil _).symm, hp, by rw [hq]; exact .start _⟩
      | ask r next => cases hq
      | crash reason => cases hq
    · exact h
  · rintro ⟨first, later, x, rfl, hp, hf⟩
    induction p generalizing first with
    | done x' =>
        obtain ⟨rfl, hx⟩ := leaves_done.mp hp
        cases hx
        exact hf
    | crash reason => cases (leaves_crash.mp hp).2
    | ask r next ih =>
        rcases leaves_ask.mp hp with ⟨-, hx⟩ | ⟨a, first', rfl, rest⟩
        · cases hx
        · exact .turn (ih a first' rest)

/-- One more turn before a run. -/
lemma Leaves.request {r : Request} {f : r.Answer → Program α} {a : r.Answer} {turns : List Turn}
    {q : Program α} (h : (f a).Leaves turns q) :
    ((Program.request r).bind f).Leaves (⟨r, a⟩ :: turns) q := .turn h

/-- A run starts with the answer to the first request, if it has any turn. -/
lemma leaves_request {r : Request} {f : r.Answer → Program α} {turns : List Turn} {q : Program α}
    (h : ((request r).bind f).Leaves turns q) :
    turns = [] ∨ ∃ a later, turns = ⟨r, a⟩ :: later ∧ (f a).Leaves later q := by
  rcases leaves_ask.mp h with ⟨h, -⟩ | h
  · exact .inl h
  · exact .inr h

/-- A program that has ended has had its first request answered. -/
lemma ends_request {r : Request} {f : r.Answer → Program α} {turns : List Turn} {x : α}
    (h : ((request r).bind f).Leaves turns (done x)) :
    ∃ a later, turns = ⟨r, a⟩ :: later ∧ (f a).Leaves later (done x) := by
  rcases leaves_ask.mp h with ⟨-, h⟩ | h
  · cases h
  · exact h

lemma ends_done {x y : α} {turns : List Turn} :
    (done x).Leaves turns (done y) ↔ turns = [] ∧ y = x := by
  rw [leaves_done, done.injEq]

lemma ends_crash {reason : Crash} {turns : List Turn} {x : α} :
    ¬ (crash reason : Program α).Leaves turns (done x) := by
  intro h
  cases h

/-- What is left of a program is determined by its turns. -/
theorem Leaves.unique {p q q' : Program α} {turns : List Turn} (h : p.Leaves turns q)
    (h' : p.Leaves turns q') : q = q' := by
  induction h with
  | start p =>
      cases h' with
      | start => rfl
  | turn rest ih =>
      cases h' with
      | turn rest' => exact ih rest'

/-! ## Requests -/

/-- Every request that a program can make is of the kind `ok`, and every result `Q`. -/
def Asks (ok : Request → Prop) (Q : α → Prop) : Program α → Prop
  | .done x => Q x
  | .crash _ => True
  | .ask r next => ok r ∧ ∀ a, (next a).Asks ok Q

namespace Asks

variable {ok : Request → Prop}

/-- The rule for one program after another. -/
lemma bind {R : α → Prop} {Q : β → Prop} {p : Program α} {f : α → Program β} (hp : p.Asks ok R)
    (hf : ∀ x, R x → (f x).Asks ok Q) : (p.bind f).Asks ok Q := by
  induction p with
  | done x => exact hf x hp
  | crash reason => trivial
  | ask r next ih => exact ⟨hp.1, fun a => ih a (hp.2 a)⟩

lemma weaken {ok' : Request → Prop} {Q R : α → Prop} {p : Program α} (hp : p.Asks ok Q)
    (hok : ∀ r, ok r → ok' r) (hQ : ∀ x, Q x → R x) : p.Asks ok' R := by
  induction p with
  | done x => exact hQ x hp
  | crash reason => trivial
  | ask r next ih => exact ⟨hok r hp.1, fun a => ih a (hp.2 a)⟩

lemma request {Q : α → Prop} {r : Request} {f : r.Answer → Program α} (hr : ok r)
    (hf : ∀ a, (f a).Asks ok Q) : ((Program.request r).bind f).Asks ok Q := ⟨hr, hf⟩

/-- Finding a later instant asks nothing. -/
lemma later {Q : α → Prop} {t : Instant} {d : Duration} {f : Instant → Program α}
    (hf : ∀ sum, t.add? d = some sum → (f sum).Asks ok Q) : ((later t d).bind f).Asks ok Q := by
  rw [Program.later]
  cases hs : t.add? d with
  | none => trivial
  | some sum => exact hf sum hs

/-- Whatever the answers are, only requests of that kind are made, and only results of that kind
    come of them. -/
theorem of_leaves {Q : α → Prop} {p q : Program α} {turns : List Turn} (hp : p.Asks ok Q)
    (h : p.Leaves turns q) : (∀ turn ∈ turns, ok turn.request) ∧ ∀ x, q = done x → Q x := by
  induction h with
  | start p =>
      refine ⟨fun turn hm => absurd hm List.not_mem_nil, fun x hx => ?_⟩
      rw [hx] at hp
      exact hp
  | turn rest ih =>
      obtain ⟨hturns, hQ⟩ := ih (hp.2 _)
      refine ⟨fun turn hm => ?_, hQ⟩
      rcases List.mem_cons.mp hm with rfl | hm
      · exact hp.1
      · exact hturns turn hm

end Asks

end Program

/-! ## Exchanges -/

section Surroundings

variable {τ α β : Type} {answers : τ → Turn → τ → Prop}

/-- `Dialogue answers p s exchanges q t`: a run of `p` that starts in the surroundings `s`, with
    `q` and `t` left after these exchanges.  `answers` says which turns the surroundings take
    part in, and what they have become afterwards. -/
inductive Dialogue (answers : τ → Turn → τ → Prop) :
    Program α → τ → List (Exchange τ) → Program α → τ → Prop
  | start (p : Program α) (s : τ) : Dialogue answers p s [] p s
  | turn {r : Request} {next : r.Answer → Program α} {s s' t : τ} {a : r.Answer}
      {exchanges : List (Exchange τ)} {q : Program α} (answered : answers s ⟨r, a⟩ s')
      (rest : Dialogue answers (next a) s' exchanges q t) :
      Dialogue answers (.ask r next) s (⟨s, ⟨r, a⟩, s'⟩ :: exchanges) q t

namespace Dialogue

def turns (exchanges : List (Exchange τ)) : List Turn := exchanges.map Exchange.turn

/-- A dialogue starts with the first request, if it has any exchange. -/
lemma of_request {r : Request} {f : r.Answer → Program α} {q : Program α} {s t : τ}
    {exchanges : List (Exchange τ)}
    (h : Dialogue answers ((Program.request r).bind f) s exchanges q t) :
    exchanges = [] ∨ ∃ a s' later, answers s ⟨r, a⟩ s' ∧
      exchanges = ⟨s, ⟨r, a⟩, s'⟩ :: later ∧ Dialogue answers (f a) s' later q t := by
  generalize hp : (Program.request r).bind f = p at h
  cases h with
  | start => exact .inl rfl
  | turn answered rest =>
      cases hp
      exact .inr ⟨_, _, _, answered, rfl, rest⟩

/-- A dialogue consists of turns of the program. -/
theorem leaves {p q : Program α} {s t : τ} {exchanges : List (Exchange τ)}
    (h : Dialogue answers p s exchanges q t) : p.Leaves (turns exchanges) q := by
  induction h with
  | start p s => exact .start p
  | turn answered rest ih => exact .turn ih

/-- **What every answer preserves, a dialogue preserves.**  It is enough to look at the turns that
    occur. -/
theorem preserves {I : τ → Prop} {p q : Program α} {s t : τ} {exchanges : List (Exchange τ)}
    (h : Dialogue answers p s exchanges q t)
    (keep : ∀ {s s' : τ}, ∀ turn ∈ turns exchanges, answers s turn s' → I s → I s') (hs : I s) :
    I t := by
  induction h with
  | start p s => exact hs
  | turn answered rest ih =>
      exact ih (fun turn hm => keep turn (List.mem_cons_of_mem _ hm))
        (keep _ List.mem_cons_self answered hs)

/-- What every answer preserves is so when each request is made, and it is answered there. -/
lemma answered_each {I : τ → Prop} {p q : Program α} {s t : τ} {exchanges : List (Exchange τ)}
    (h : Dialogue answers p s exchanges q t)
    (keep : ∀ {s s' : τ} {turn : Turn}, answers s turn s' → I s → I s') (hs : I s) :
    ∀ e ∈ exchanges, I e.before ∧ answers e.before e.turn e.after := by
  induction h with
  | start p s => exact fun e he => absurd he List.not_mem_nil
  | turn answered rest ih =>
      intro e he
      rcases List.mem_cons.mp he with rfl | he
      · exact ⟨hs, answered⟩
      · exact ih (keep answered hs) e he

/-- What every answer preserves is so after each exchange. -/
lemma preserves_each {I : τ → Prop} {p q : Program α} {s t : τ} {exchanges : List (Exchange τ)}
    (h : Dialogue answers p s exchanges q t)
    (keep : ∀ {s s' : τ} {turn : Turn}, answers s turn s' → I s → I s') (hs : I s) :
    ∀ e ∈ exchanges, I e.after := by
  intro e he
  obtain ⟨hbefore, answered⟩ := h.answered_each keep hs e he
  exact keep answered hbefore

/-- A dialogue in surroundings that answer at least what was answered. -/
lemma mono {answers' : τ → Turn → τ → Prop} {p q : Program α} {s t : τ}
    {exchanges : List (Exchange τ)} (h : Dialogue answers p s exchanges q t)
    (wider : ∀ e ∈ exchanges, answers e.before e.turn e.after → answers' e.before e.turn e.after) :
    Dialogue answers' p s exchanges q t := by
  induction h with
  | start p s => exact .start p s
  | turn answered rest ih =>
      exact .turn (wider _ List.mem_cons_self answered)
        (ih fun e he => wider e (List.mem_cons_of_mem _ he))

/-- A dialogue up to one of its turns, the turn, and the rest of the dialogue. -/
lemma split {p q : Program α} {s t : τ} {exchanges : List (Exchange τ)} {turn : Turn}
    (h : Dialogue answers p s exchanges q t) (hm : turn ∈ turns exchanges) :
    ∃ first p₁ s₁ s₂ p₂ later, Dialogue answers p s first p₁ s₁ ∧ answers s₁ turn s₂ ∧
      Dialogue answers p₂ s₂ later q t := by
  induction h with
  | start p s => exact absurd hm List.not_mem_nil
  | @turn r next s s' t a exchanges q answered rest ih =>
      rcases List.mem_cons.mp hm with rfl | hm
      · exact ⟨[], _, s, s', _, exchanges, .start _ _, answered, rest⟩
      · obtain ⟨first, p₁, s₁, s₂, p₂, later, hfirst, hturn, hlater⟩ := ih hm
        exact ⟨_, p₁, s₁, s₂, p₂, later, .turn answered hfirst, hturn, hlater⟩

/-- The first exchange of a dialogue, and the rest of it. -/
lemma of_cons {p q : Program α} {s t : τ} {x : Exchange τ} {later : List (Exchange τ)}
    (h : Dialogue answers p s (x :: later) q t) :
    x.before = s ∧ answers s x.turn x.after ∧ ∃ p₁, Dialogue answers p₁ x.after later q t := by
  cases h with
  | turn answered rest => exact ⟨rfl, answered, _, rest⟩

/-- A dialogue whose first turn is known, and the rest of it. -/
lemma of_turns_cons {p q : Program α} {s t : τ} {exchanges : List (Exchange τ)} {turn : Turn}
    {later : List Turn} (h : Dialogue answers p s exchanges q t)
    (hturns : turns exchanges = turn :: later) :
    ∃ p₁ s₁ rest, answers s turn s₁ ∧ Dialogue answers p₁ s₁ rest q t ∧ turns rest = later := by
  cases h with
  | start => cases hturns
  | turn answered rest =>
      obtain ⟨rfl, hlater⟩ := List.cons.inj hturns
      exact ⟨_, _, _, answered, rest, hlater⟩

/-- Nothing has changed over no exchange. -/
lemma of_nil {p q : Program α} {s t : τ} (h : Dialogue answers p s [] q t) : t = s := by
  cases h with
  | start => rfl

/-- A dialogue falls into its first exchanges and its last ones. -/
lemma of_append {p q : Program α} {s t : τ} {first last : List (Exchange τ)}
    (h : Dialogue answers p s (first ++ last) q t) :
    ∃ p₁ s₁, Dialogue answers p s first p₁ s₁ ∧ Dialogue answers p₁ s₁ last q t := by
  induction first generalizing p s with
  | nil => exact ⟨p, s, .start p s, h⟩
  | cons e first ih =>
      cases h with
      | turn answered rest =>
          obtain ⟨p₁, s₁, hfirst, hlast⟩ := ih rest
          exact ⟨p₁, s₁, .turn answered hfirst, hlast⟩

end Dialogue

/-- Every exchange of `p` in these surroundings satisfies `P`, and if `p` ends, its result and what
    the surroundings are then satisfy `Q`. -/
def Program.Always (answers : τ → Turn → τ → Prop) (P : Exchange τ → Prop) (Q : α → τ → Prop) :
    Program α → τ → Prop
  | .done x, s => Q x s
  | .crash _, _ => True
  | .ask r next, s => ∀ a s', answers s ⟨r, a⟩ s' →
      P ⟨s, ⟨r, a⟩, s'⟩ ∧ Program.Always answers P Q (next a) s'

namespace Program.Always

variable {P : Exchange τ → Prop}

/-- **Soundness**: what is so of a program always is so in each of its dialogues. -/
theorem sound {Q : α → τ → Prop} {p q : Program α} {s t : τ} {exchanges : List (Exchange τ)}
    (h : p.Always answers P Q s) (d : Dialogue answers p s exchanges q t) :
    (∀ e ∈ exchanges, P e) ∧ ∀ x, q = .done x → Q x t := by
  induction d with
  | start p s =>
      refine ⟨fun e he => absurd he List.not_mem_nil, fun x hx => ?_⟩
      rw [hx] at h
      exact h
  | turn answered rest ih =>
      obtain ⟨hP, hrest⟩ := h _ _ answered
      obtain ⟨hes, hQ⟩ := ih hrest
      refine ⟨fun e he => ?_, hQ⟩
      rcases List.mem_cons.mp he with rfl | he
      · exact hP
      · exact hes e he

/-- The rule for one program after another. -/
theorem bind {R : α → τ → Prop} {Q : β → τ → Prop} {p : Program α} {f : α → Program β} {s : τ}
    (hp : p.Always answers P R s) (hf : ∀ x t, R x t → (f x).Always answers P Q t) :
    (p.bind f).Always answers P Q s := by
  induction p generalizing s with
  | done x => exact hf x s hp
  | crash reason => trivial
  | ask r next ih => exact fun a s' ha => ⟨(hp a s' ha).1, ih a (hp a s' ha).2⟩

theorem request {Q : α → τ → Prop} {r : Request} {f : r.Answer → Program α} {s : τ}
    (h : ∀ a s', answers s ⟨r, a⟩ s' → P ⟨s, ⟨r, a⟩, s'⟩ ∧ (f a).Always answers P Q s') :
    ((Program.request r).bind f).Always answers P Q s := h

/-- What is so of every request is so of every exchange. -/
theorem of_asks {ok : Request → Prop} {Q : α → Prop} {p : Program α} (hp : p.Asks ok Q)
    (hP : ∀ e, ok e.turn.request → P e) (s : τ) : p.Always answers P (fun x _ => Q x) s := by
  induction p generalizing s with
  | done x => exact hp
  | crash reason => trivial
  | ask r next ih => exact fun a s' _ => ⟨hP _ hp.1, ih a (hp.2 a) s'⟩

/-- Finding a later instant needs no exchange. -/
theorem later {Q : α → τ → Prop} {t : Instant} {d : Duration} {f : Instant → Program α} {s : τ}
    (h : ∀ sum, t.add? d = some sum → (f sum).Always answers P Q s) :
    ((Program.later t d).bind f).Always answers P Q s := by
  rw [Program.later]
  cases hs : t.add? d with
  | none => trivial
  | some sum => exact h sum hs

end Program.Always

end Surroundings

end Curfew.Supervisor
