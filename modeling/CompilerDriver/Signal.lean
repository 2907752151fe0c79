import CompilerDriver.Bytes

/-!
# Signals

The signals by number and name, what is said about a process that one has killed, and which of them
end a process that has made no arrangements.
-/

namespace CompilerDriver.Signal

/-- The signals from 1 on: their names, and what they stand for. -/
def table : List (String × String) :=
  [("HUP", "Hangup"), ("INT", "Interrupt"), ("QUIT", "Quit"), ("ILL", "Illegal instruction"),
    ("TRAP", "Trace/breakpoint trap"), ("ABRT", "Aborted"), ("BUS", "Bus error"),
    ("FPE", "Floating point exception"), ("KILL", "Killed"), ("USR1", "User defined signal 1"),
    ("SEGV", "Segmentation fault"), ("USR2", "User defined signal 2"), ("PIPE", "Broken pipe"),
    ("ALRM", "Alarm clock"), ("TERM", "Terminated"), ("STKFLT", "Stack fault"),
    ("CHLD", "Child exited"), ("CONT", "Continued"), ("STOP", "Stopped (signal)"),
    ("TSTP", "Stopped"), ("TTIN", "Stopped (tty input)"), ("TTOU", "Stopped (tty output)"),
    ("URG", "Urgent I/O condition"), ("XCPU", "CPU time limit exceeded"),
    ("XFSZ", "File size limit exceeded"), ("VTALRM", "Virtual timer expired"),
    ("PROF", "Profiling timer expired"), ("WINCH", "Window changed"), ("IO", "I/O possible"),
    ("PWR", "Power failure"), ("SYS", "Bad system call")]

/-- The number of the signal that an interrupt key sends. -/
def interrupt : Nat := 2

/-- The number of the signal that cannot be refused. -/
def kill : Nat := 9

/-- The number of the signal that writing to a pipe without a reader brings. -/
def brokenPipe : Nat := 13

/-- The number of the signal that a process is killed with when nothing else is asked for. -/
def terminate : Nat := 15

/-- The number of the first signal for applications. -/
def firstFree : Nat := 34

/-- The number of the last signal. -/
def last : Nat := 64

/-- The name of a signal. Those for applications are counted from the first and from the last. -/
def name (signal : Nat) : String :=
  match table[signal - 1]? with
  | some (name, _) => if signal = 0 then "EXIT" else name
  | none =>
    if signal < firstFree then s!"{signal}"
    else if signal = firstFree then "RTMIN"
    else if signal < 50 then s!"RTMIN+{signal - firstFree}"
    else if signal < last then s!"RTMAX-{last - signal}"
    else "RTMAX"

/-- What is said about a process that a signal has killed. -/
def description (signal : Nat) : String :=
  match table[signal - 1]? with
  | some (_, text) => text
  | none =>
    if signal < firstFree then s!"Unknown signal {signal}"
    else s!"Real-time signal {signal - firstFree}"

/-- The signals that leave a process running: a change of a child, going on, stopping, urgent data
and a change of the window. -/
def harmless : List Nat := [17, 18, 19, 20, 21, 22, 23, 28]

/-- Whether a signal ends a process. -/
def isFatal (signal : Nat) : Bool := 0 < signal && signal ≤ last && signal ∉ harmless

/-- The number of a signal that is given by its number, or by its name in any mixture of cases. The
condition that a script ends is counted as number 0 if `withEnd` is set. -/
def ofBytes? (withEnd : Bool) (text : Bytes) : Option Nat :=
  match Bytes.natural? text with
  | some number => if number ≤ last then some number else none
  | none =>
    let numbers := (List.range (last + 1)).drop (if withEnd then 0 else 1)
    numbers.find? fun n => Bytes.ofString (name n) = text.map Bytes.upper

end CompilerDriver.Signal
