import Curfew.Script.Path
import Curfew.Proofs.CommandLine.Conduct
import Curfew.Proofs.Text.Ascii
import Curfew.Proofs.Text.WhiteSpace

/-!
# The path of a script, and what becomes of it

* **`Script.normalize_eq_some_iff`**, **`Script.normalize_eq_none_iff`** — the path of a script is
  the core of its text, and only a blank text has none.
* `run_launching` — a run launches that path once and nothing else, or nothing at all.
* **`Named`** — a command that is `Understood` names its script by that path (`named`).
* **`path_exact`** — all of this at once, with white space put around a text.
-/

namespace Curfew

namespace Script

open Text (Blank IsCore)

/-! ## Paths -/

/-- **The path of a script** is the core of its text. -/
theorem normalize_eq_some_iff {raw path : String} :
    normalize raw = some path ↔ IsCore path raw := by
  constructor
  · intro h
    rw [normalize] at h
    split at h
    · cases h
    · rename_i hne
      cases h
      exact Text.trim_core hne
  · intro h
    rw [normalize, h.trim_eq]
    exact if_neg h.nonempty

/-- **Only a blank text** has no path. -/
theorem normalize_eq_none_iff {raw : String} : normalize raw = none ↔ Blank raw := by
  rw [← Text.trim_eq_empty_iff]
  simp only [normalize, ite_eq_left_iff, reduceCtorEq, imp_false, not_not]

/-- White space around a text leaves its path. -/
lemma normalize_pad {before after : String} (hbefore : Blank before) (hafter : Blank after)
    (raw : String) : normalize (before ++ raw ++ after) = normalize raw := by
  cases hpath : normalize raw with
  | none =>
      have hraw := normalize_eq_none_iff.mp hpath
      exact normalize_eq_none_iff.mpr ((hbefore.append hraw).append hafter)
  | some path =>
      have hcore := normalize_eq_some_iff.mp hpath
      exact normalize_eq_some_iff.mpr (hcore.pad hbefore hafter)

end Script

/-! ## Commands -/

namespace CommandLine

/-- A command line that is read, and whose settings can be loaded in a world. -/
structure Understood (wording : String → String) (world : Host.World) (words : List String)
    (a : Arguments) (file : Settings) : Prop where
  read : Arguments.read words = .ok a
  load : Settings.load wording (Bytes.ofString a.config)
    (world.files.readAll world.cwd (Bytes.ofString a.config)) = .ok file

namespace Understood

variable {wording : String → String} {world : Host.World} {words : List String} {a : Arguments}
  {file : Settings}

/-- A command that is understood and no dry run runs its script. -/
lemma execute_run (h : Understood wording world words a file) (hrun : a.dryRun = false) :
    Command.execute wording world words =
      Command.runScript world a (.ofSettings (a.settings file)) := by
  have hplan : Plan.of a (.ok file) = .supervise (.ofSettings (a.settings file)) := by
    simp only [Plan.of, hrun, Bool.false_eq_true, if_false]
  simp only [Command.execute, h.read, h.load, hplan]

/-- A dry run that is understood describes its settings. -/
lemma execute_dryRun (h : Understood wording world words a file) (hdry : a.dryRun = true) :
    Command.execute wording world words =
      ((description a (a.settings file)).transcript, world) := by
  have hplan : Plan.of a (.ok file) = .describe (a.settings file) := by
    simp only [Plan.of, hdry, if_true]
  simp only [Command.execute, h.read, h.load, hplan]

end Understood

/-- In a world without files, a settings file is not found, and the usual settings hold. -/
lemma understood_nowhere (wording : String → String) {words : List String} {a : Arguments}
    (hread : Arguments.read words = .ok a) (hconfig : a.config = "x") :
    Understood wording (.start ⟨[]⟩ [] []) words a .default where
  read := hread
  load := by
    have hpath : Bytes.ofString a.config = [120] := by
      rw [hconfig]
      exact (Bytes.ofString_ofList ['x']).trans (by decide)
    have hnames : Host.Files.names [120] = [[120]] := by decide
    have hwalk : (⟨[]⟩ : Host.Files).walk true false Host.Files.linkDepth [] [[120]] =
        .error .noEntry := by
      rw [Host.Files.walk]
      rfl
    have hlookup : (⟨[]⟩ : Host.Files).lookup [] [120] = .error .noEntry := by
      rw [Host.Files.lookup, Host.Files.locate, if_neg (by decide), if_neg (by decide),
        if_neg (by decide), hnames, hwalk]
      rfl
    have hmissing : (⟨[]⟩ : Host.Files).readAll [] [120] = .error (.system .noEntry) := by
      rw [Host.Files.readAll, if_neg (by decide), hlookup]
    rw [hpath]
    exact congrArg (Settings.load wording [120]) hmissing

/-- What a command that is not told to be quiet prints first, and all that a dry run prints, name
    the script by this path. -/
structure Named (a : Arguments) (path : String) : Prop where
  banner : ∀ {wording : String → String} {world : Host.World} {words : List String}
    {file : Settings}, Understood wording world words a file → a.dryRun = false → a.quiet = false →
      ∃ rest, (Command.execute wording world words).1.stdout =
        Bytes.ofString ("\nStarting the execution of the script: \n" ++ path ++
          " with timeout: " ++ shownSeconds (.ofSettings (a.settings file)) ++ "s\n") ++ rest
  dryRun : ∀ {wording : String → String} {world : Host.World} {words : List String}
    {file : Settings}, Understood wording world words a file → a.dryRun = true →
      (Command.execute wording world words).1.stdout =
        Bytes.ofString (line "cmd-runner v0.1.0" ++ line ("Config file: " ++ a.config) ++
          line ("Script: " ++ path) ++
          line ("Timeout: " ++ shownSeconds (.ofSettings (a.settings file)) ++ "s") ++
          line ("Kill grace: " ++ toString file.killGraceMillis.toNat ++ "ms") ++
          line ("Escalate to SIGKILL: " ++ toString file.escalate))

/-- What a command that runs its script prints starts with its opening, also if the run crashes. -/
lemma runScript_opening (world : Host.World) (a : Arguments) (limits : Limits) :
    ∃ rest, (Command.runScript world a limits).1.stdout =
      Bytes.ofString (opening a limits) ++ rest := by
  rw [Command.runScript]
  split
  · exact ⟨_, rfl⟩
  · exact ⟨_, List.append_assoc ..⟩

/-- **A command names its script** by the path. -/
theorem named {a : Arguments} {path : String} (h : Script.normalize a.script = some path) :
    Named a path where
  banner {wording world words file} understood hrun hloud := by
    have htrim : Text.trim a.script = path := (Script.normalize_eq_some_iff.mp h).trim_eq
    obtain ⟨rest, hrest⟩ := runScript_opening world a (.ofSettings (a.settings file))
    refine ⟨rest, ?_⟩
    rw [understood.execute_run hrun, hrest]
    simp [opening, hloud, CommandLine.banner, htrim, line, String.append_assoc]
  dryRun {wording world words file} understood hdry := by
    have htrim : Text.trim a.script = path := (Script.normalize_eq_some_iff.mp h).trim_eq
    rw [understood.execute_dryRun hdry, Report.transcript, description, htrim]
    simp [line, commandName, commandVersion, Arguments.settings, String.append_assoc]

end CommandLine

namespace Script

open Text (Blank IsCore)
open Supervisor (Launching launches run)
open CommandLine (Arguments Command.execute Named)

/-- **The path of a script is its text without the white space around it**, over all texts, and
    whatever white space is put around them.

    * There is no path exactly if all of the text is white space.  Otherwise the path is the one
      text that is neither empty nor starts or ends with white space, and that stands in the whole
      text with nothing but white space around it.  It is its own path.
    * A run launches the path once and nothing else, so that white space around the text makes no
      difference to it.  Without a path it launches nothing and fails for the same cause.
    * The banner and the dry run of a command name the script by the path. -/
theorem path_exact (raw : String) {before after : String} (hbefore : Blank before)
    (hafter : Blank after) :
    let padded := before ++ raw ++ after
    normalize padded = normalize raw ∧
    (normalize raw = none ↔ Blank raw) ∧
    (∀ path, normalize raw = some path →
      IsCore path raw ∧ (∀ other, IsCore other raw → other = path) ∧ normalize path = some path ∧
        (∀ limits, run limits padded = run limits raw) ∧
        (∀ a : Arguments, a.script = raw ∨ a.script = padded → Named a path)) ∧
    (∀ limits, Launching limits raw (normalize raw) ∧ Launching limits padded (normalize raw)) := by
  intro padded
  have hpad : normalize padded = normalize raw := normalize_pad hbefore hafter raw
  refine ⟨hpad, normalize_eq_none_iff, fun path hpath => ?_, fun limits => ⟨?_, ?_⟩⟩
  · have hcore := normalize_eq_some_iff.mp hpath
    refine ⟨hcore, fun other hother => ?_, normalize_eq_some_iff.mpr hcore.self, ?_, ?_⟩
    · exact hother.trim_eq.symm.trans hcore.trim_eq
    · exact Supervisor.run_congr hpath (hpad.trans hpath)
    · rintro a (hscript | hscript)
      · exact CommandLine.named (by rw [hscript, hpath])
      · exact CommandLine.named (by rw [hscript, hpad, hpath])
  · exact Supervisor.run_launching limits raw
  · rw [← hpad]
    exact Supervisor.run_launching limits padded

/-- Tabs, line separators and ideographic spaces around a text, and a no-break space inside it. -/
theorem path_of_wide_space :
    let padded := "\u3000\t" ++ " ./my\u00a0run.sh " ++ "\u2028\n"
    Blank "\u3000\t" ∧ Blank "\u2028\n" ∧ normalize padded = some "./my\u00a0run.sh" ∧
    (∀ turns q, (run ⟨.ofSeconds 1, .ofMillis 200, true⟩ padded).Leaves turns q → q.Over →
      launches turns = ["./my\u00a0run.sh"]) ∧
    (Command.execute id (.start ⟨[]⟩ [] []) ["--dry-run", "-c", "x", padded]).1.stdout =
      Bytes.ofString ("cmd-runner v0.1.0\nConfig file: x\nScript: ./my\u00a0run.sh\n" ++
        "Timeout: 3s\nKill grace: 200ms\nEscalate to SIGKILL: true\n") := by
  intro padded
  have hbefore : Blank "\u3000\t" := by decide
  have hafter : Blank "\u2028\n" := by decide
  have hraw : normalize " ./my\u00a0run.sh " = some "./my\u00a0run.sh" := by decide
  obtain ⟨hpad, -, found, launching⟩ := path_exact " ./my\u00a0run.sh " hbefore hafter
  obtain ⟨-, -, -, -, named⟩ := found _ hraw
  refine ⟨hbefore, hafter, hpad.trans hraw, fun turns q h ended => ?_, ?_⟩
  · rw [(launching _).2.launched h ended, hraw]
    rfl
  · have hread : Arguments.read ["--dry-run", "-c", "x", padded] =
        .ok ⟨padded, none, "x", false, true, false, false⟩ := by decide
    have hstdout := (named _ (.inr rfl)).dryRun (CommandLine.understood_nowhere id hread rfl) rfl
    exact hstdout.trans (congrArg Bytes.ofString (by decide))

end Script

end Curfew
