import Curfew.Bytes

/-!
# Bytes as characters

Programs that work on bytes can read them as characters below U+0100, one for each byte. A
**`Raw`** text is such a string; `Raw.ofBytes` and `Raw.bytes` go back and forth.
-/

namespace Curfew.Text

/-- A text whose characters stand for bytes. -/
abbrev Raw := String

namespace Raw

def ofBytes (bytes : Bytes) : Raw := String.ofList (bytes.map fun b => Char.ofNat b.toNat)

def bytes (text : Raw) : Bytes := text.toList.map fun c => UInt8.ofNat c.toNat

/-- The bytes that write an ordinary text, as such a text. -/
def ofString (text : String) : Raw := ofBytes (Bytes.ofString text)

end Raw

end Curfew.Text
