import Curfew.Host.Shell.Machine
import Curfew.Host.Tool

/-!
# What a process runs

The programs of the system are a shell and some small tools. An **`Image`** is either at work; every
step of it is a call, and the reply to the call gives the next image.
-/

namespace Curfew.Host

open Text (Raw)

inductive Image
  | shell (s : Shell)
  | tool (t : Tool)

namespace Image

/-- The names under which the shell is installed. -/
def shellNames : List String := ["sh", "dash", "bash"]

def programNames : List String := shellNames ++ Tool.names

/-- The program of a name, about to start. -/
def start (name : String) (pid parent : Nat) (args : List Raw) (env : List (Raw × Raw)) : Image :=
  if shellNames.contains name then .shell (.start pid parent args env)
  else .tool (.start name (args.head?.getD name) (args.drop 1) env)

def next (v : View) : Image → Call Image × (Reply → Image)
  | .shell s =>
    let (call, go) := s.next v
    (call.map .shell, fun reply => .shell (go reply))
  | .tool t =>
    let (call, go) := t.next v
    (call.map .tool, fun reply => .tool (go reply))

/-- Takes note of a signal that it wanted to catch. -/
def notify (n : Signal) : Image → Image
  | .shell s => .shell (s.notify n)
  | .tool t => .tool t

end Image

end Curfew.Host
