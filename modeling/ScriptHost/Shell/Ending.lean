/-!
# How a program ends

A program ends with an exit status, or because of a signal. This module holds the names of
the signals and the words for an ending.

## Main definitions

* `Ending` — how a program ended, with `Ending.status` and `Ending.message`.
* `signalName`, `signalNumber?` — signals and their names.
-/

namespace ScriptHost.Shell

/-- How a program ended. -/
inductive Ending where
  | exited (status : Nat)
  | killed (signal : Nat)
  deriving DecidableEq, Repr

/-- The names of the signals by number. -/
def signalNames : List (Nat × String) := [
  (1, "HUP"), (2, "INT"), (3, "QUIT"), (4, "ILL"), (5, "TRAP"), (6, "ABRT"), (7, "BUS"),
  (8, "FPE"), (9, "KILL"), (10, "USR1"), (11, "SEGV"), (12, "USR2"), (13, "PIPE"),
  (14, "ALRM"), (15, "TERM"), (16, "STKFLT"), (17, "CHLD"), (18, "CONT"), (19, "STOP"),
  (20, "TSTP"), (21, "TTIN"), (22, "TTOU"), (23, "URG"), (24, "XCPU"), (25, "XFSZ"),
  (26, "VTALRM"), (27, "PROF"), (28, "WINCH"), (29, "IO"), (30, "PWR"), (31, "SYS")]

/-- The numbers of signals are below this one. -/
def signalBound : Nat := 65

/-- Signals that a shell knows by their numbers only. -/
def namelessSignals : List Nat := [16]

/-- The first and the last of the signals without a purpose of their own. -/
def spareSignals : Nat × Nat := (34, 64)

/-- The name that a shell has for a signal. Those without a purpose are counted from the nearer end,
and a few have their numbers as names. -/
def signalName (n : Nat) : String :=
  let (first, last) := spareSignals
  if namelessSignals.contains n then toString n
  else if n < first || last < n then (signalNames.lookup n).getD (toString n)
  else if n = first then "RTMIN"
  else if n = last then "RTMAX"
  else if n - first < last - n || n - first = last - n then "RTMIN+" ++ toString (n - first)
  else "RTMAX-" ++ toString (last - n)

/-- The number of a signal by name, in any ASCII case. -/
def signalNumber? (name : String) : Option Nat :=
  (List.range signalBound).tail.find? fun n => signalName n = name.toUpper

/-- The number of a signal that is given by its number or by its name. -/
def signalOf? (text : String) : Option Nat :=
  let byNumber :=
    if text ≠ "" && text.toList.all Char.isDigit then
      text.toNat?.filter fun n => n < signalBound
    else none
  byNumber.orElse fun _ => signalNumber? text

/-- What a shell says of programs that a signal ended. -/
def signalDescriptions : List (Nat × String) := [
  (1, "Hangup"), (3, "Quit"), (4, "Illegal instruction"), (5, "Trace/breakpoint trap"),
  (6, "Aborted"), (7, "Bus error"), (8, "Floating point exception"), (9, "Killed"),
  (10, "User defined signal 1"), (11, "Segmentation fault"), (12, "User defined signal 2"),
  (14, "Alarm clock"), (15, "Terminated"), (16, "Stack fault"), (17, "Child exited"),
  (18, "Continued"), (19, "Stopped (signal)"), (20, "Stopped"), (21, "Stopped (tty input)"),
  (22, "Stopped (tty output)"), (23, "Urgent I/O condition"), (24, "CPU time limit exceeded"),
  (25, "File size limit exceeded"), (26, "Virtual timer expired"), (27, "Profiling timer expired"),
  (28, "Window changed"), (29, "I/O possible"), (30, "Power failure"), (31, "Bad system call")]

/-- What a shell says of a program that a signal ended. Of an interruption and of a broken pipe it
says nothing. -/
def signalDescription? (n : Nat) : Option String :=
  if n = 2 || n = 13 then none
  else if n < 32 then signalDescriptions.lookup n
  else some ("Real-time signal " ++ toString (n - 34))

/-- Signals that a program does not notice unless it asks for them. -/
def unnoticedSignals : List Nat := [0, 17, 18, 23, 28]

namespace Ending

/-- The program did what it was asked to. -/
def isSuccess (e : Ending) : Bool :=
  e = .exited 0

/-- The status a shell sees. -/
def status : Ending → Nat
  | .exited n => n
  | .killed n => 128 + n

/-- The words for an ending. -/
def message : Ending → String
  | .exited n => "exit status: " ++ toString n
  | .killed n =>
    "signal: " ++ toString n ++
      match signalNames.lookup n with
      | some name => " (SIG" ++ name ++ ")"
      | none => ""

end Ending

end ScriptHost.Shell
