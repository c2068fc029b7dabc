import Curfew.Bytes
import Curfew.IoError.Basic

/-!
# Pipes

What a reader finds at the end of a pipe. A **`Pipe`** is a queue of things to come; a read takes
at most **`chunkSize`** bytes of the first and never joins two.
-/

namespace Curfew.Capture

inductive ReadReply
  | data (chunk : Bytes)
  | closed
  | failed (cause : IoError)
  /-- Nothing now, but the next read may differ. -/
  | notReady
  /-- Nothing until something else happens. -/
  | stalled
deriving DecidableEq, Repr

/-- The most bytes that one read takes. -/
def chunkSize : Nat := 8192

/-- Something to come out of a pipe. -/
inductive PipeItem
  | data (bytes : Bytes)
  | fail (cause : IoError)
  | notReady
  | stall
  | close
deriving DecidableEq, Repr

/-- A pipe that nothing more comes out of once its items are used up, until one is added. -/
structure Pipe where
  items : List PipeItem
deriving DecidableEq, Repr

namespace Pipe

/-- Adds something at the far end. -/
def feed (p : Pipe) (item : PipeItem) : Pipe := ⟨p.items ++ [item]⟩

/-- One read. An empty piece of data reads as the end, which stays there; so does a stall. -/
def read (p : Pipe) : ReadReply × Pipe :=
  match p.items with
  | [] => (.stalled, p)
  | .data bytes :: later =>
    if bytes.isEmpty then (.closed, ⟨later⟩)
    else
      let left := bytes.drop chunkSize
      (.data (bytes.take chunkSize),
        ⟨if left.isEmpty then later else .data left :: later⟩)
  | .fail cause :: later => (.failed cause, ⟨later⟩)
  | .notReady :: later => (.notReady, ⟨later⟩)
  | .stall :: _ => (.stalled, p)
  | .close :: _ => (.closed, p)

end Pipe

end Curfew.Capture
