import CompilerDriver.Shell.Builtin.Options
import CompilerDriver.Shell.Subshell

/-!
# Builtin commands on processes

Sending signals, saying what is to be done when they come, and waiting for processes.
-/

namespace CompilerDriver.Shell.Builtin

/-! ## Signals -/

/-- What is said to explain how signals are sent. -/
def killUsage : Bytes := Bytes.ofString
  "Usage: kill [-s sigspec | -signum | -sigspec] [pid | job]... or\nkill -l [exitstatus]"

/-- The job that a word after a percent sign is about. -/
def jobOf (word : Bytes) : Act Nat := do
  let s ← get
  let number := match Bytes.natural? (word.drop 1) with
    | some n => s.jobs[n - 1]?.map (·.process)
    | none => if word.drop 1 ∈ ["", "%", "+"].map Bytes.ofString then s.lastJob else none
  match number with
  | some process => return process
  | none => Act.fail (Bytes.ofString "No such job: " ++ word)

/-- Sends a signal to a process; tells whether there is one. A job that has not begun its work ends
without it. -/
def send (signal process : Nat) : Act Bool := do
  let s ← get
  if process = s.process || process = 0 then
    if signal ≠ 0 then Act.receive signal
    return true
  else match s.jobs.find? fun job => job.process = process with
    | some job =>
      if Signal.isFatal signal && signal ∉ job.ignored then
        set { s with
          jobs := s.jobs.filter fun job => job.process ≠ process
          ended := (process, .killed signal) :: s.ended }
      return true
    | none =>
      if process = s.script || process = s.parent then
        if signal ≠ 0 then
          let signals := s.machine.signals ++ [(process, signal)]
          set { s with machine := { s.machine with signals } }
        return true
      return false

/-- Lists the signals, or names the one behind a number or a status. -/
def listSignals (operands : List Bytes) : Act Nat := do
  match operands with
  | [] =>
    Act.sayLine [0x30]
    for n in (List.range Signal.last).map (· + 1) do
      Act.sayLine (Bytes.ofString (Signal.name n))
  | a :: _ =>
    let n ← Act.number a
    let n := if 128 < n then n - 128 else n
    if 0 < n && n ≤ Signal.last then Act.sayLine (Bytes.ofString (Signal.name n))
    else Act.fail (Bytes.ofString "invalid signal number or exit status: " ++ a)
  return 0

/-- Sends a signal to processes. -/
def kill (arguments : List Bytes) : Act Nat := do
  if arguments.isEmpty then Act.fail killUsage
  let direct := match arguments with
    | (0x2d :: name) :: _ => Signal.ofBytes? false name
    | _ => none
  let o ← match direct, arguments with
    | some _, _ :: rest => pure { operands := rest }
    | _, _ => options "ls:" arguments
  let named ← match o.given.find? fun g => g.1 = 0x73 with
    | none => pure none
    | some (_, name) =>
      match Signal.ofBytes? false name with
      | some signal => pure (some signal)
      | none => Act.fail (Bytes.ofString "invalid signal number or name: " ++ name)
  let given := direct.orElse fun _ => named
  if o.has 'l' then
    if given.isSome then Act.fail killUsage
    return ← listSignals o.operands
  if o.operands.isEmpty then Act.fail killUsage
  let signal := given.getD Signal.terminate
  o.operands.foldlM (fun status word => do
    let process ← match word with
      | 0x25 :: _ => jobOf word
      | 0x2d :: digits => Act.number digits
      | digits => Act.number digits
    if ← send signal process then return status
    Act.complain (Bytes.ofString "No such process\n")
    return 1) 0

/-- Says what is to be done at signals, or shows it. A signal that was not noticed from the start
stays so. -/
def trap (arguments : List Bytes) : Act Nat := do
  match ← operands arguments with
  | [] =>
    for (signal, action) in (← get).traps.mergeSort fun a b => a.1 ≤ b.1 do
      Act.sayLine (Bytes.ofString "trap -- " ++ quoted action ++ 0x20 ::
        Bytes.ofString (Signal.name signal))
    return 0
  | first :: rest =>
    let takesBack := rest.isEmpty || (Bytes.natural? first).any (· ≤ Signal.last)
    let action := if takesBack || first = [Bytes.dash] then none else some first
    let rec setAll : List Bytes → Act Nat
      | [] => return 0
      | word :: more => do
        match Signal.ofBytes? true word with
        | none =>
          Act.tell (Bytes.ofString "trap: " ++ word ++ Bytes.ofString ": bad trap\n")
          return 1
        | some signal =>
          modify fun s =>
            let others := s.traps.filter fun t => t.1 ≠ signal
            { s with traps := others ++ (action.map (signal, ·)).toList }
          setAll more
    setAll (if takesBack then first :: rest else rest)

/-! ## Waiting -/

/-- Waits for the processes that have been started without waiting. A signal that comes meanwhile
ends the waiting. -/
def wait (arguments : List Bytes) : Act Nat := do
  let processes ← (← operands arguments).mapM fun word =>
    match word with
    | 0x25 :: _ => jobOf word
    | digits => Act.number digits
  ExceptT.lift finishJobs
  let status ← processes.foldlM (fun _ process => do
    match (← get).ended.find? fun e => e.1 = process with
    | some (_, report) =>
      Act.tell (reportText report)
      return statusOf report
    | none => return 127) 0
  Act.receiveAll
  match (← get).pending.getLast? with
  | some signal => return 128 + signal
  | none => return status

/-- The time that the shell and its processes have taken, which is none. -/
def times : Act Nat := do
  let none := Bytes.ofString "0m0.000000s 0m0.000000s"
  Act.sayLine none
  Act.sayLine none
  return 0

end CompilerDriver.Shell.Builtin
