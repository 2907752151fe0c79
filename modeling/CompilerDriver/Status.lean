/-!
# Exit statuses

How a tool ended, first as the operating system reports it in one 32-bit word, then as the driver
passes it on. A tool that exited gives its exit code; one that a signal killed gives 128 and the
signal's number, as a shell does; what is neither gives 1. So a status made from a report is 0
exactly when the tool exited with code 0, and it always fits into a byte (`ofReportNat_lt`).
-/

namespace CompilerDriver

/-- How a process ended, as the operating system reports it: the low seven bits are 0 after an
exit, with the exit code in the second byte, and otherwise the number of the signal that killed
the process. Seven ones mean neither. -/
structure WaitReport where
  raw : Int32
deriving DecidableEq, Repr

namespace WaitReport

/-- The report's word as a number without a sign. -/
def word (r : WaitReport) : Nat := r.raw.toUInt32.toNat

/-- The exit code of a process that exited. -/
def exitCode? (r : WaitReport) : Option Nat :=
  if r.word % 128 = 0 then some (r.word / 256 % 256) else none

/-- The signal that killed the process. -/
def signal? (r : WaitReport) : Option Nat :=
  let signal := r.word % 128
  if signal = 0 ∨ signal = 127 then none else some signal

/-- The report of a process that exited; only the low byte of the code is kept. -/
def exited (code : Nat) : WaitReport := ⟨Int32.ofNat (code % 256 * 256)⟩

/-- The report of a process that a signal killed. -/
def killed (signal : Nat) : WaitReport := ⟨Int32.ofNat (signal % 128)⟩

end WaitReport

/-- The result of one run of a tool: zero is success. -/
structure Status where
  code : Int32
deriving DecidableEq, Repr

namespace Status

/-- The status of a tool that did what it was asked. -/
def success : Status := ⟨0⟩

/-- Whether the tool did what it was asked. -/
def isSuccess (s : Status) : Bool := s.code == 0

/-- The number that stands for a report: the exit code, 128 and the signal, or 1. -/
def ofReportNat (r : WaitReport) : Nat :=
  match r.exitCode?, r.signal? with
  | some code, _ => code
  | none, some signal => 128 + signal
  | none, none => 1

/-- The status that stands for a report. -/
def ofReport (r : WaitReport) : Status := ⟨Int32.ofNat (ofReportNat r)⟩

/-- The status as messages show it: in decimal, with a minus sign if it is negative. -/
instance : ToString Status := ⟨fun s => s.code.toInt.repr⟩

/-- A status that stands for a report fits into a byte. -/
theorem ofReportNat_lt (r : WaitReport) : ofReportNat r < 256 := by
  by_cases exited : r.word % 128 = 0
  · simp [ofReportNat, WaitReport.exitCode?, exited]
    omega
  · by_cases neither : r.word % 128 = 127
    · simp [ofReportNat, WaitReport.exitCode?, WaitReport.signal?, neither]
    · simp [ofReportNat, WaitReport.exitCode?, WaitReport.signal?, exited, neither]
      omega

end Status

end CompilerDriver
