/-!
# Signals

The numbers, names and customary descriptions of signals, and what each does to a process that
neither ignores nor catches it.
-/

namespace Curfew.Host

inductive SignalEffect
  | terminate
  | ignore
  | stop
  | resume
deriving DecidableEq, Repr

abbrev Signal := Nat

namespace Signal

/-- What is known of a signal. -/
structure Row where
  number : Signal
  name : String
  description : String
  effect : SignalEffect

/-- The standard signals, in order. -/
def table : List Row := [
  ⟨1, "HUP", "Hangup", .terminate⟩,
  ⟨2, "INT", "Interrupt", .terminate⟩,
  ⟨3, "QUIT", "Quit", .terminate⟩,
  ⟨4, "ILL", "Illegal instruction", .terminate⟩,
  ⟨5, "TRAP", "Trace/breakpoint trap", .terminate⟩,
  ⟨6, "ABRT", "Aborted", .terminate⟩,
  ⟨7, "BUS", "Bus error", .terminate⟩,
  ⟨8, "FPE", "Floating point exception", .terminate⟩,
  ⟨9, "KILL", "Killed", .terminate⟩,
  ⟨10, "USR1", "User defined signal 1", .terminate⟩,
  ⟨11, "SEGV", "Segmentation fault", .terminate⟩,
  ⟨12, "USR2", "User defined signal 2", .terminate⟩,
  ⟨13, "PIPE", "Broken pipe", .terminate⟩,
  ⟨14, "ALRM", "Alarm clock", .terminate⟩,
  ⟨15, "TERM", "Terminated", .terminate⟩,
  ⟨16, "STKFLT", "Stack fault", .terminate⟩,
  ⟨17, "CHLD", "Child exited", .ignore⟩,
  ⟨18, "CONT", "Continued", .resume⟩,
  ⟨19, "STOP", "Stopped (signal)", .stop⟩,
  ⟨20, "TSTP", "Stopped", .stop⟩,
  ⟨21, "TTIN", "Stopped (tty input)", .stop⟩,
  ⟨22, "TTOU", "Stopped (tty output)", .stop⟩,
  ⟨23, "URG", "Urgent I/O condition", .ignore⟩,
  ⟨24, "XCPU", "CPU time limit exceeded", .terminate⟩,
  ⟨25, "XFSZ", "File size limit exceeded", .terminate⟩,
  ⟨26, "VTALRM", "Virtual timer expired", .terminate⟩,
  ⟨27, "PROF", "Profiling timer expired", .terminate⟩,
  ⟨28, "WINCH", "Window changed", .ignore⟩,
  ⟨29, "IO", "I/O possible", .terminate⟩,
  ⟨30, "PWR", "Power failure", .terminate⟩,
  ⟨31, "SYS", "Bad system call", .terminate⟩]

def greatest : Signal := 64

/-- What is known of a signal number. -/
def row? (s : Signal) : Option Row := table.find? fun row => row.number == s

/-- What a signal does by default; the real-time signals, which have no row, terminate. -/
def effect (s : Signal) : SignalEffect := (s.row?.map Row.effect).getD .terminate

def description (s : Signal) : String :=
  (s.row?.map Row.description).getD ("Real-time signal " ++ toString (s - 34))

/-- The signal of a name, with or without `SIG` in front. -/
def ofName? (name : String) : Option Signal :=
  let bare := if name.startsWith "SIG" then (name.drop 3).toString else name
  (table.find? fun row => row.name == bare).map Row.number

def hup : Signal := 1

def int : Signal := 2

/-- Kills for certain. -/
def kill : Signal := 9

/-- A write that nobody will read. -/
def pipe : Signal := 13

def term : Signal := 15

/-- Goes on after a stop. -/
def cont : Signal := 18

/-- Stops for certain. -/
def stop : Signal := 19

end Signal

end Curfew.Host
