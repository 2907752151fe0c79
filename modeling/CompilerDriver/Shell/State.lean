import CompilerDriver.Process.Launch
import CompilerDriver.Shell.Fields
import CompilerDriver.Shell.Number
import CompilerDriver.Shell.Phrase
import CompilerDriver.Signal

/-!
# Shells at work

The state of a process that runs a script: its parameters, variables and functions, its descriptors
and the machine it works on. A command ends with a status; some stop what is being done, up to a
loop, a function or the whole script. What a shell does is an `Act`; the parts of the evaluator that
need one another are handed to each other as an `Evaluator`.
-/

namespace CompilerDriver.Shell

/-- A variable of a shell. -/
structure Variable where
  name : Bytes
  value : Option Bytes := none
  /-- Whether commands are started with it. -/
  exported : Bool := false
  /-- Whether it keeps its value for good. -/
  fixed : Bool := false
deriving DecidableEq, Repr

/-- The row of the table in which a shell keeps a variable. Variables are handed on row by row. -/
def Variable.row (v : Variable) : Nat :=
  v.name.foldl (fun n b => n + b.toNat) ((v.name.headD 0).toNat * 16) % 39

/-- A process that has been started and that nobody has waited for. It does its work when its turn
comes. -/
structure Job where
  process : Nat
  /-- The signals that it does not notice. -/
  ignored : List Nat
  work : Machine → WaitReport × Machine

/-- A shell that runs a script. -/
structure State where
  machine : Machine
  descriptors : Descriptors := .initial
  /-- The name of the script. -/
  name : Bytes
  /-- The arguments of the script, or of the function at work. -/
  parameters : List Bytes := []
  bindings : List Variable := []
  /-- What local variables hide, for each call that has any, the innermost first. -/
  hidden : List (List (Bytes × Option Variable)) := []
  /-- The functions, each with the line it starts on. -/
  functions : List (Bytes × (Nat × Phrase)) := []
  aliases : List (Bytes × Bytes) := []
  /-- The letters of the options that are set. -/
  options : Bytes := []
  /-- What is to be done at a signal, or at the end for number 0. Nothing is to be done at a signal
  that is not to be noticed. -/
  traps : List (Nat × Bytes) := []
  /-- The signals that the process has not noticed from its start. -/
  ignored : List Nat := []
  /-- Signals that have come, in order, and not been looked at. -/
  pending : List Nat := []
  /-- The status of the last command. -/
  status : Nat := 0
  /-- The status before the trap at work. -/
  statusBefore : Option Nat := none
  /-- The status of the last phrase whose output was taken. -/
  statusOfOutput : Nat := 0
  /-- The number of the process that began the script. -/
  script : Nat := 0
  /-- The number of the process. -/
  process : Nat := 0
  /-- The number of the process that started it. -/
  parent : Nat := 0
  /-- The line of the command at work. -/
  line : Nat := 0
  /-- The line that has been reached in reading. -/
  lineRead : Nat := 0
  /-- The line on which the function at work starts. -/
  functionLine : Option Nat := none
  /-- The builtin command at work, as messages show it. -/
  command : Bytes := []
  /-- Whether something could not be written. -/
  unwritten : Bool := false
  /-- How many loops are at work around a command. -/
  loops : Nat := 0
  jobs : List Job := []
  /-- Processes that have ended, latest first. -/
  ended : List (Nat × WaitReport) := []
  /-- The process that was last started without waiting for it. -/
  lastJob : Option Nat := none
  /-- The path of the current directory, as it was reached. -/
  directory : Option Bytes := none
  /-- The number of the argument at which options are looked for. -/
  optionIndex : Nat := 1
  /-- How many bytes of the argument before have been looked at. -/
  optionOffset : Option Nat := none
  /-- The permissions that new files are not given. -/
  mask : Nat := 0o022

/-- Why a command does not go on to the next. -/
inductive Stop where
  /-- The process ends with a code. -/
  | exit (code : Nat)
  /-- Something went wrong that ends a builtin command, or else the process. -/
  | fault
  | killed (signal : Nat)
  /-- Leave so many loops. -/
  | leave (loops : Nat)
  /-- Leave all but the last of so many loops, and go on with its next round. -/
  | again (loops : Nat)
  /-- Leave a function or a file that is read. -/
  | back
deriving DecidableEq, Repr

/-- Something a shell does. -/
abbrev Act (α : Type) := ExceptT Stop (StateM State) α

/-- What the parts of the evaluator need of one another. Where a command is `tested`, its failure
does not end the script. -/
structure Evaluator where
  /-- Does what a phrase says; gives its status. -/
  phrase : (tested : Bool) → Phrase → Act Nat
  /-- What a word comes to; fields can come of it where `splitting` is set. -/
  word : (splitting : Bool) → Word → Act (List Glyph)
  /-- Does what the commands of a text say; gives the status of the last. -/
  text : (tested : Bool) → Bytes → Act Nat
  /-- Runs a program. -/
  launch : Launcher

namespace State

/-- A variable. -/
def named? (s : State) (name : Bytes) : Option Variable :=
  s.bindings.find? fun v => v.name = name

/-- The value of a variable. -/
def value? (s : State) (name : Bytes) : Option Bytes := (s.named? name).bind (·.value)

/-- A variable put in the place of that name, or added. -/
def put (s : State) (v : Variable) : State :=
  if (s.named? v.name).isSome then
    { s with bindings := s.bindings.map fun w => if w.name = v.name then v else w }
  else { s with bindings := s.bindings ++ [v] }

/-- The shell without a variable. -/
def drop (s : State) (name : Bytes) : State :=
  { s with bindings := s.bindings.filter fun v => v.name ≠ name }

/-- Whether an option is set. -/
def has (s : State) (option : UInt8) : Bool := option ∈ s.options

/-- A variable with a value, whatever it was before. -/
def assign (s : State) (name value : Bytes) : State :=
  let was := (s.named? name).getD { name }
  let s := s.put { was with value := some value, exported := was.exported || s.has 0x61 }
  if name = Bytes.ofString "OPTIND" then
    { s with optionIndex := max 1 ((Number.count? value).getD 1), optionOffset := none }
  else s

/-- Commands are started with a variable from now on. -/
def exporting (s : State) (name : Bytes) : State :=
  s.put { (s.named? name).getD { name } with exported := true }

/-- The variables that commands are started with, and their values. -/
def environment (s : State) : Environment :=
  let rows := s.bindings.mergeSort fun v w => v.row ≤ w.row
  rows.filterMap fun v => if v.exported then v.value.map (v.name, ·) else none

/-- The bytes that separate fields. -/
def separators (s : State) : Bytes := (s.value? (Bytes.ofString "IFS")).getD [0x20, 0x09, 0x0a]

/-- The action of a trap. -/
def trap? (s : State) (signal : Nat) : Option Bytes :=
  (s.traps.find? fun t => t.1 = signal).map (·.2)

/-- The signals that the process does not notice. -/
def unnoticed (s : State) : List Nat :=
  s.ignored ++ (s.traps.filter fun t => t.1 ≠ 0 && t.2 = []).map (·.1)

/-- A function. -/
def function? (s : State) (name : Bytes) : Option (Nat × Phrase) :=
  (s.functions.find? fun f => f.1 = name).map (·.2)

/-- The line of the command at work, counted from the start of a function inside one. -/
def lineNumber (s : State) : Nat :=
  match s.functionLine with
  | some first => s.line + 1 - first
  | none => s.line

/-- The letters of the options, in the order in which they are shown. -/
def optionLetters : Bytes := Bytes.ofString "efIimnsxvVECabu"

/-- The value of a parameter that is not a list. -/
def parameter? (s : State) (name : Bytes) : Option Bytes :=
  if name = [0x23] then some (Bytes.decimal s.parameters.length)
  else if name = [0x3f] then some (Bytes.decimal s.status)
  else if name = [0x24] then some (Bytes.decimal s.script)
  else if name = [0x21] then s.lastJob.map Bytes.decimal
  else if name = [0x2d] then some (optionLetters.filter s.has)
  else match Bytes.natural? name with
    | some 0 => some s.name
    | some n => s.parameters[n - 1]?
    | none =>
      if name = Bytes.ofString "LINENO" then some (Bytes.decimal s.lineNumber) else s.value? name

/-- What a message begins with: the script, the line and the builtin at work. -/
def announcement (s : State) : Bytes :=
  let command := if s.command = [] then [] else s.command ++ Bytes.ofString ": "
  s.name ++ Bytes.ofString ": " ++ Bytes.decimal s.line ++ Bytes.ofString ": " ++ command

end State

namespace Act

/-- Writes to the output. -/
def say (text : Bytes) : Act Unit :=
  modify fun s =>
    match s.machine.write s.descriptors 1 text with
    | .ok machine => { s with machine }
    | .error _ => { s with unwritten := true }

/-- Writes a line to the output. -/
def sayLine (text : Bytes) : Act Unit := say (text ++ [Bytes.newline])

/-- Writes to the error output. -/
def tell (text : Bytes) : Act Unit :=
  modify fun s => { s with machine := s.machine.tell s.descriptors 2 text }

/-- Reports that something is wrong. -/
def complain (fault : Bytes) : Act Unit := do
  tell ((← get).announcement ++ fault ++ [Bytes.newline])

/-- Reports that something is wrong, and gives up. -/
def fail {α : Type} (fault : Bytes) : Act α := do
  complain fault
  modify fun s => { s with status := 2 }
  throw .fault

/-- Gives up at a text that is no number. -/
def illegalNumber {α : Type} (text : Bytes) : Act α :=
  fail (Bytes.ofString "Illegal number: " ++ text)

/-- The number of at least zero that a text is. -/
def number (text : Bytes) : Act Nat :=
  match Number.count? text with
  | some n => pure n
  | none => illegalNumber text

/-- Does something with part of the state changed, and then something in any case. -/
def always {α : Type} (body : Act α) (after : State → State) : Act α :=
  ExceptT.mk do
    let result ← body.run
    modify after
    return result

/-- Does something; what it stops for is a result like any other. -/
def caught {α : Type} (body : Act α) : Act (Except Stop α) := ExceptT.lift body.run

/-! ## Variables -/

/-- Gives up if a variable keeps its value for good. -/
def checkFree (name : Bytes) : Act Unit := do
  if ((← get).named? name).any (·.fixed) then
    fail (name ++ Bytes.ofString ": is read only")

/-- Gives a variable a value. -/
def assign (name value : Bytes) : Act Unit := do
  checkFree name
  modify fun s => s.assign name value

/-- Gives up at a text that cannot be the name of a variable. Only what stands before an equals
sign counts. -/
def checkName (text : Bytes) : Act Unit := do
  let name := text.takeWhile (· ≠ Bytes.equals)
  unless isName name do
    fail (name ++ Bytes.ofString ": bad variable name")

/-- Makes a variable local: at the end of the call it is again what it is now. -/
def hide (name : Bytes) : Act Unit :=
  modify fun s =>
    match s.hidden with
    | call :: outer =>
      if call.any fun h => h.1 = name then s
      else { s with hidden := ((name, s.named? name) :: call) :: outer }
    | [] => s

/-- The shell with the variables back that a call has hidden. -/
def unhide (s : State) : State :=
  match s.hidden with
  | call :: outer =>
    call.foldl (fun s (name, was) =>
      match was with
      | some v => s.put v
      | none => s.drop name) { s with hidden := outer }
  | [] => s

/-- Does something in a call of its own, which can have local variables. -/
def withLocals {α : Type} (body : Act α) : Act α := do
  modify fun s => { s with hidden := [] :: s.hidden }
  always body unhide

/-! ## Signals -/

/-- The process receives a signal. -/
def receive (signal : Nat) : Act Unit := do
  let s ← get
  if signal = Signal.kill then throw (.killed signal)
  if signal ∈ s.unnoticed then return
  match s.trap? signal with
  | some _ => modify fun s => { s with pending := s.pending.filter (· ≠ signal) ++ [signal] }
  | none => if Signal.isFatal signal then throw (.killed signal)

/-- The process receives what other processes have sent to it. -/
def receiveAll : Act Unit := do
  let s ← get
  let (signals, machine) := s.machine.takeSignals s.process
  set { s with machine }
  for signal in signals do receive signal

end Act

/-- The status that stands for a report. -/
def statusOf (report : WaitReport) : Nat := Status.ofReportNat report

/-- What is said about a process that a signal has killed. Nothing is said about an interrupt or a
pipe without a reader. -/
def reportText (report : WaitReport) : Bytes :=
  match report.signal? with
  | some signal =>
    if signal = Signal.interrupt || signal = Signal.brokenPipe then []
    else Bytes.ofString (Signal.description signal) ++ [Bytes.newline]
  | none => []

namespace Act

/-- A process has ended for which the shell waited: its status, after a word about its death. -/
def settle (report : WaitReport) : Act Nat := do
  tell (reportText report)
  receiveAll
  return statusOf report

end Act

end CompilerDriver.Shell
