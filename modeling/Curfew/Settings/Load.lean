import Curfew.Settings.Decode
import Curfew.Toml.Document
import Curfew.Toml.Notice
import Curfew.Text.Utf8
import Curfew.IoError.Basic

/-!
# Settings files

* **`Settings.parse`** reads the text of a settings file.
* **`Settings.load`** starts from what reading the file by its path yielded: a file that does not
  exist stands for the defaults.  How a text is complained about that is no document is left to its
  reader: it is the parameter `wording`.
* **`Settings.render`** writes settings as a file that `parse` reads back.
-/

namespace Curfew

/-- Why a settings file could not be used. -/
inductive SettingsError
  /-- The file could not be read. -/
  | unreadable (path : Bytes) (cause : IoError)
  /-- The text is no document; `complaint` is what the reader of documents says of it. -/
  | malformed (path : Bytes) (complaint : String)
  /-- A value in the text does not fit its setting. -/
  | mismatched (path : Bytes) (text : String) (cause : Settings.Mismatch)
deriving DecidableEq, Repr

namespace SettingsError

def message : SettingsError → String
  | .unreadable path cause =>
    "failed to read config " ++ Text.Utf8.decodeLossy path ++ ": " ++ cause.message
  | .malformed path complaint =>
    "failed to parse config " ++ Text.Utf8.decodeLossy path ++ ": " ++ complaint
  | .mismatched path text cause =>
    "failed to parse config " ++ Text.Utf8.decodeLossy path ++ ": " ++
      Toml.notice text cause.span cause.fault.message

end SettingsError

namespace Settings

/-- Why a text does not hold settings. -/
inductive TextError
  | malformed
  | mismatched (cause : Mismatch)
deriving DecidableEq, Repr

/-- The settings that a text holds. A malformed text is refused before any value is looked at. -/
def parse (text : String) : Except TextError Settings :=
  match Toml.Document.root? text with
  | none => .error .malformed
  | some root =>
    match ofTable root with
    | .ok s => .ok s
    | .error cause => .error (.mismatched cause)

/-- The settings of the file at `path`, given what reading it yielded. `wording` is what the reader
of documents says of a malformed text. -/
def load (wording : String → String) (path : Bytes) (contents : Except IoError Bytes) :
    Except SettingsError Settings :=
  match contents with
  | .error cause =>
    if cause.kind = .notFound then .ok default else .error (.unreadable path cause)
  | .ok bytes =>
    match Text.Utf8.decode? bytes with
    | none =>
      .error (.unreadable path (.custom .invalidData "stream did not contain valid UTF-8"))
    | some text =>
      match parse text with
      | .ok s => .ok s
      | .error .malformed => .error (.malformed path (wording text))
      | .error (.mismatched cause) => .error (.mismatched path text cause)

/-- A line that gives a key its value. -/
def renderLine (key value : String) : String := key ++ " = " ++ value ++ "\n"

/-- Settings as the text of a file. -/
def render (s : Settings) : String :=
  "[supervisor]\n" ++ renderLine "timeout_secs" (toString s.timeoutSecs.toInt) ++
    renderLine "kill_grace_ms" (toString s.killGraceMillis.toNat) ++
    renderLine "escalate" (toString s.escalate)

end Settings

end Curfew
