import CompilerDriver.Shell.Carrying

/-!
# Evaluation

What the phrases of a script do, one after the other. A command that fails ends the script if that
is asked for, except where its failure is tested: in a condition, in front of a connective, or after
an exclamation mark.
-/

namespace CompilerDriver.Shell

/-- Whether the failure of a phrase can end the script. That of a phrase put together from others
has done so before. -/
def Phrase.isChecked : Phrase → Bool
  | .simple .. | .pipe _ | .background _ | .subshell .. => true
  | _ => false

/-- More rounds than any loop has. -/
def roundLimit : Nat := 10000000

section

variable (e : Evaluator)

/-- Does something inside a loop. -/
def insideLoop {α : Type} (body : Act α) : Act α := do
  modify fun s => { s with loops := s.loops + 1 }
  Act.always body fun s => { s with loops := s.loops - 1 }

/-- One round of a loop: how it ended, or that the loop ends with it. What is about loops further out
goes on. -/
def round (body : Act Nat) : Act (Except Nat Nat) := do
  match ← Act.caught body with
  | .ok status => return .ok status
  | .error (.leave loops) => if loops ≤ 1 then return .error 0 else throw (.leave (loops - 1))
  | .error (.again loops) => if loops ≤ 1 then return .ok 0 else throw (.again (loops - 1))
  | .error stop => throw stop

/-- Whether a loop goes on after its condition. -/
inductive Verdict where
  | yes
  | no
  /-- The condition itself has asked for the next round. -/
  | anew

/-- What the condition of a loop says. -/
def verdict (wanted : Bool) (condition : Act Nat) : Act Verdict := do
  let judged := do return if ((← condition) = 0) = (wanted = true) then 1 else 2
  match ← round judged with
  | .ok 0 => return .anew
  | .ok 1 => return .yes
  | _ => return .no

/-- A loop with a condition; `last` is the status of its last round. -/
def repeatWhile (tested wanted : Bool) (condition body : Phrase) : (limit : Nat) → (last : Nat) →
    Act Nat
  | 0, _ => throw (.killed Signal.kill)
  | limit + 1, last => do
    match ← verdict wanted (e.phrase true condition) with
    | .no => return last
    | .anew => repeatWhile tested wanted condition body limit last
    | .yes =>
      match ← round (e.phrase tested body) with
      | .error status => return status
      | .ok status => repeatWhile tested wanted condition body limit status

/-- A loop over values. -/
def repeatEach (tested : Bool) (name : Bytes) (body : Phrase) : List Bytes → (last : Nat) → Act Nat
  | [], last => return last
  | value :: rest, _ => do
    Act.assign name value
    match ← round (e.phrase tested body) with
    | .error status => return status
    | .ok status => repeatEach tested name body rest status

/-- Whether one of some patterns fits a text. -/
def fitsAny (text : Bytes) : List Word → Act Bool
  | [] => return false
  | word :: rest => do
    if Pattern.fits (← expandPattern e word) text then return true
    fitsAny text rest

/-- The first case that fits a text. -/
def choose (tested : Bool) (text : Bytes) : List (List Word × Phrase) → Act Nat
  | [] => return 0
  | (patterns, body) :: rest => do
    if ← fitsAny e text patterns then e.phrase tested body else choose tested text rest

/-- Commands with pipes between them; the first reads from `input` if it is given. Each has a process
of its own, and the status is that of the last. -/
def pipeline (tested : Bool) : (input : Option Stream) → List Phrase → Act Nat
  | _, [] => return 0
  | input, body :: rest => do
    let read := fun (d : Descriptors) => (input.map (d.assign 0)).getD d
    match rest with
    | [] =>
      let report ← apart e do
        modify fun s => { s with descriptors := read s.descriptors }
        e.phrase tested body
      Act.settle report
    | _ :: _ =>
      let (pipe, machine) := (← get).machine.addPipe
      modify fun s => { s with machine }
      let report ← apart e do
        modify fun s =>
          { s with descriptors := (read s.descriptors).assign 1 (.pipe pipe true) }
        e.phrase tested body
      let _ ← Act.settle report
      pipeline tested (some (.pipe pipe false)) rest

/-- Does what a phrase says. -/
def phraseBody (tested : Bool) : Phrase → Act Nat
  | .nothing => return 0
  | .simple line assignments words redirections =>
    simpleCommand e tested line assignments words redirections
  | .sequence first second => do
    let _ ← e.phrase tested first
    e.phrase tested second
  | .both first second => do
    let status ← e.phrase true first
    if status = 0 then e.phrase tested second else return status
  | .either first second => do
    let status ← e.phrase true first
    if status = 0 then return status else e.phrase tested second
  | .not body => do return if (← e.phrase true body) = 0 then 1 else 0
  | .pipe commands => pipeline e tested none commands
  | .background body => do
    background e (e.phrase false body)
    return 0
  | .subshell line body redirections => do
    modify fun s => { s with line }
    let targets ← expandTargets e redirections
    let report ← apart e do
      unless ← redirectAll targets do throw .fault
      e.phrase tested body
    Act.settle report
  | .branch condition whenTrue whenFalse => do
    if (← e.phrase true condition) = 0 then e.phrase tested whenTrue else e.phrase tested whenFalse
  | .loop wanted condition body =>
    insideLoop (repeatWhile e tested wanted condition body roundLimit 0)
  | .each line name words body => do
    modify fun s => { s with line }
    let values ← match words with
      | some words => expandWords e words
      | none => pure (← get).parameters
    insideLoop (repeatEach e tested name body values 0)
  | .choice line word cases => do
    modify fun s => { s with line }
    let text ← expandText e word
    choose e tested text cases
  | .redirected line body redirections => do
    modify fun s => { s with line }
    let targets ← expandTargets e redirections
    withRedirected targets fun done => if done then e.phrase tested body else return 2
  | .function line name body => do
    modify fun s =>
      let others := s.functions.filter fun f => f.1 ≠ name
      { s with functions := (name, (line, body)) :: others }
    return 0

/-- Does what a phrase says, and what is to be done at the signals that come meanwhile. -/
def evaluate (tested : Bool) (p : Phrase) : Act Nat := do
  if (← get).has 0x6e then return (← get).status
  runTraps e
  let status ← phraseBody e tested p
  modify fun s => { s with status }
  if status ≠ 0 && !tested && p.isChecked && (← get).has 0x65 then throw (.exit status)
  runTraps e
  return (← get).status

/-- Shows what has been read from one place of an input to another, if that is asked for. -/
def showRead (before after : Bytes) : Act Unit := do
  if (← get).has 0x76 then
    let text := before.take (before.length - after.length)
    Act.tell (text.dropWhile (· = Bytes.newline) ++ [Bytes.newline])

/-- Does what the commands of an input say; `last` is the status of the last one. `fuel` is more than
their number. -/
def evaluateInput (tested : Bool) : (fuel : Nat) → Input → (last : Nat) → Act Nat
  | 0, _, last => return last
  | fuel + 1, i, last => do
    match readCommand { i with aliases := (← get).aliases } with
    | .ok none => return last
    | .ok (some (p, rest)) =>
      showRead i.rest rest.rest
      let ended := if rest.rest.head? = some Bytes.newline then 1 else 0
      modify fun s => { s with lineRead := rest.line + ended }
      let status ← e.phrase tested p
      evaluateInput tested fuel rest status
    | .error fault =>
      modify fun s => { s with line := fault.line }
      Act.fail (Bytes.ofString "Syntax error: " ++ fault.message)

/-- Does what the commands of a text say. -/
def evaluateText (tested : Bool) (text : Bytes) : Act Nat :=
  evaluateInput e tested (text.length + 1) { rest := text } 0

end

end CompilerDriver.Shell
