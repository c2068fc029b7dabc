/-!
# Byte strings

Everything that travels through a pipe, a file or a terminal is a `Bytes`: a list of octets.
Buffers that grow at the end keep their chunks newest first and are read through `Bytes.joined`,
so that appending a chunk does not copy what is already there.
-/

namespace Curfew

abbrev Bytes := List UInt8

namespace Bytes

/-- The UTF-8 bytes of a text. -/
def ofString (text : String) : Bytes := text.toUTF8.toList

/-- The bytes of chunks kept newest first, in the order they arrived. -/
def joined (newestFirst : List Bytes) : Bytes := newestFirst.reverse.flatten

/-- No chunks hold no bytes. -/
@[simp] theorem joined_nil : joined [] = [] := rfl

/-- A new chunk comes after everything that is already there. -/
@[simp] theorem joined_cons (chunk : Bytes) (earlier : List Bytes) :
    joined (chunk :: earlier) = joined earlier ++ chunk := by
  simp [joined]

end Bytes

end Curfew
