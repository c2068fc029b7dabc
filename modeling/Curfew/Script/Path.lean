import Curfew.Text.WhiteSpace

/-!
# The path of a script

Callers hand over a script's path as text that may carry white space around it, such as the
newline of a line that was read. **`normalize`** strips it.
-/

namespace Curfew.Script

/-- The path without the white space around it; `none` where nothing is left. -/
def normalize (raw : String) : Option String :=
  let path := Text.trim raw
  if path = "" then none else some path

end Curfew.Script
