import Curfew.Proofs.Supervisor.Execution

/-!
# What a run launches

A run that is over has launched the path of its script, once, and nothing else.

* **`Program.Over`** — a program that has ended or crashed.
* **`launches`** — the paths that were launched, in order.
* **`Launching`** — what a run of a script launches; **`run_launching`** says so of every run.
* `run_congr` — texts with the same path have the same run.
-/

namespace Curfew.Supervisor

open Program

variable {α : Type}

/-- Whether a program has ended or crashed. -/
def Program.Over : Program α → Prop
  | .done _ => True
  | .crash _ => True
  | .ask _ _ => False

/-- A program that is over has had its first request answered. -/
lemma over_request {r : Request} {f : r.Answer → Program α} {turns : List Turn} {q : Program α}
    (h : ((request r).bind f).Leaves turns q) (ended : q.Over) :
    ∃ a later, turns = ⟨r, a⟩ :: later ∧ (f a).Leaves later q := by
  rcases leaves_ask.mp h with ⟨-, rfl⟩ | h
  · exact ended.elim
  · exact h

/-- The path that a request launches, if it launches any. -/
def Request.launch? : Request → Option String
  | .launch path => some path
  | _ => none

/-- The paths that were launched, in order. -/
def launches (turns : List Turn) : List String := turns.filterMap fun turn => turn.request.launch?

/-- A late request launches nothing. -/
lemma Request.Late.launch? {r : Request} (h : r.Late) : r.launch? = none := by
  cases r with
  | launch path => exact absurd h id
  | _ => rfl

/-- A program that cannot launch anything has launched nothing. -/
lemma launches_eq_nil {Q : α → Prop} {p q : Program α} {turns : List Turn}
    (asks : p.Asks (fun r => r.launch? = none) Q) (h : p.Leaves turns q) : launches turns = [] :=
  List.filterMap_eq_nil_iff.mpr (asks.of_leaves h).1

/-- The cause of failure where a script has no path. -/
def emptyPath : IoError := .custom .invalidInput "empty script path"

/-- A run of `script` launches its path once and nothing else, whatever it is answered.  Without a
    path it comes to a failed launch on every machine, and leaves the session as it was. -/
structure Launching (limits : Limits) (script : String) (path? : Option String) : Prop where
  launched : ∀ {turns : List Turn} {q : Program Outcome}, (run limits script).Leaves turns q →
    q.Over → launches turns = path?.toList
  pathless : path? = none → ∀ {σ : Type} (m : Machine σ) (s : Session σ),
    ∃ outcome, s.execute m (run limits script) = (.ok outcome, s) ∧
      outcome.status = .failed (.launch (Bytes.ofString script) emptyPath)

/-- A run without a child launches nothing more. -/
lemma notLaunched_asks (path : Bytes) (cause : IoError) (began : Timestamp) (start : Instant) :
    (notLaunched path cause began start).Asks (fun r => r.launch? = none) fun _ => True :=
  (notLaunched_final path cause began start).weaken (fun _ h => h.late.launch?) fun _ h => h

/-- After its launch, a run launches nothing more. -/
lemma started_asks (limits : Limits) (pid : Option Nat) (began : Timestamp) (start : Instant) :
    ((later start limits.timeout).bind fun deadline =>
      (exitOrDeadline deadline).bind fun raced =>
        aftermath limits pid began start deadline raced).Asks
      (fun r => r.launch? = none) fun _ => True :=
  .later fun deadline _ => .request rfl fun raced =>
    (aftermath_asks limits pid began start deadline raced).weaken (fun _ h => h.launch?)
      fun _ h => h

/-- **A run launches the path of its script.** -/
theorem run_launching (limits : Limits) (script : String) :
    Launching limits script (Script.normalize script) where
  launched {turns q} h ended := by
    -- a crash is no exception: only a deadline can be too late to be told, and that comes after
    -- the launch
    simp only [run, bind_eq] at h
    obtain ⟨began, later, rfl, h₁⟩ := over_request h ended
    obtain ⟨start, later, rfl, h₂⟩ := over_request h₁ ended
    cases hpath : Script.normalize script with
    | none =>
        simp only [hpath] at h₂
        have hrest : launches later = [] := launches_eq_nil (notLaunched_asks _ _ _ _) h₂
        exact hrest
    | some path =>
        simp only [hpath] at h₂
        obtain ⟨launched, later, rfl, h₃⟩ := over_request h₂ ended
        have hrest : launches later = [] := by
          cases launched with
          | error cause => exact launches_eq_nil (notLaunched_asks _ _ _ _) h₃
          | ok pid => exact launches_eq_nil (started_asks limits pid began start) h₃
        exact congrArg (path :: ·) hrest
  pathless hpath σ m s := by
    simp only [run, bind_eq, hpath]
    exact ⟨_, rfl, rfl⟩

/-- **Runs of two texts with the same path** are the same. -/
theorem run_congr {script script' path : String} (h : Script.normalize script = some path)
    (h' : Script.normalize script' = some path) (limits : Limits) :
    run limits script' = run limits script := by
  simp only [run, h, h']

end Curfew.Supervisor
