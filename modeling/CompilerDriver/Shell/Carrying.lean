import CompilerDriver.Shell.Builtin.Names

/-!
# Carrying out simple commands

A simple command has assignments, words and redirections. Its words are expanded first, then the
redirections are made, then the assignments, and then it is found out what the first word stands
for: a special command of the shell, a function, another command of the shell, or a program.
Assignments last if there are no words or the command is special, and are otherwise for this command
alone.
-/

namespace CompilerDriver.Shell

/-- What the words of a command ask for. -/
structure Request where
  /-- The command with its arguments. -/
  words : List Bytes
  /-- Whether `command` stood in front: then functions do not count, and no command is special. -/
  plain : Bool := false
  /-- Where a program is looked for. -/
  searchPath : Bytes
deriving DecidableEq, Repr

/-- What is behind `command`, and whether it asks for the usual search path. There is nothing behind
it where it is asked what names stand for. -/
def behindCommand? : List Bytes → Option (Bool × List Bytes)
  | [] => none
  | word :: rest =>
    match word with
    | 0x2d :: letter :: letters =>
      if letter = Bytes.dash && letters = [] then
        if rest.isEmpty then none else some (false, rest)
      else if (letter :: letters).all (· = 0x70) then
        (behindCommand? rest).map fun (_, words) => (true, words)
      else none
    | _ => some (false, word :: rest)

/-- The request that some words make. `fuel` is more than their number. -/
def Request.read : (fuel : Nat) → Request → Request
  | 0, r => r
  | fuel + 1, r =>
    match r.words with
    | name :: rest =>
      if name = Bytes.ofString "command" then
        match behindCommand? rest with
        | some (usual, words) =>
          read fuel
            { words, plain := true, searchPath := if usual then usualSearchPath else r.searchPath }
        | none => r
      else r
    | [] => r

/-- The request that the words of a command make. -/
def Request.ofWords (s : State) (words : List Bytes) : Request :=
  .read (words.length + 1) { words, searchPath := s.searchPath }

namespace Request

/-- The builtin command that a request is about, whatever functions there are. -/
def builtin? (r : Request) : Option Builtin := r.words.head?.bind Builtin.find?

/-- Whether an assignment lasts, and a fault ends the script. -/
def isSpecial (r : Request) : Bool := !r.plain && r.builtin?.any (·.special)

/-- Whether the command takes the place of the shell. -/
def isExec (r : Request) : Bool := r.words.head? = some (Bytes.ofString "exec")

end Request

/-- Whether a word is an assignment as it stands. -/
def isAssignment : Word → Bool
  | .text text false :: _ =>
    match Bytes.cut? Bytes.equals text with
    | some (name, _) => isName name
    | none => false
  | _ => false

section

variable (e : Evaluator)

/-- The words of a command, expanded one after the other. Behind a command that takes assignments, a
word that is one stays in one piece. -/
def expandCommand (done : List Bytes) : List Word → Act (List Bytes)
  | [] => return done
  | word :: rest => do
    let s ← get
    let assigns := (Request.ofWords s done).builtin?.any (·.assigns)
    if assigns && isAssignment word then
      let text ← expandText e word
      expandCommand (done ++ [text]) rest
    else
      let fields ← expandFields e word
      expandCommand (done ++ fields) rest

/-- Gives variables their values; tells the assignments as they are traced. Where they are for one
command alone, that command is started with them. -/
def assignAll (alone : Bool) (assignments : List (Bytes × Word)) : Act (List Bytes) :=
  assignments.mapM fun (name, word) => do
    let value ← expandText e word
    if alone then Act.hide name
    Act.assign name value
    if alone then modify fun s => s.exporting name
    return name ++ Bytes.equals :: value

/-- Shows a command before it is carried out, if that is asked for. -/
def trace (errors : Descriptors) (words : List Bytes) : Act Unit := do
  let s ← get
  if s.has 0x78 then
    let sign := (s.value? (Bytes.ofString "PS4")).getD []
    let line := sign ++ Bytes.join 0x20 words ++ [Bytes.newline]
    set { s with machine := s.machine.tell errors 2 line }

/-- Carries out a builtin command. What goes wrong in one that is not special ends only that
command. -/
def runBuiltin (tested : Bool) (b : Builtin) (special : Bool) (name : Bytes)
    (arguments : List Bytes) : Act Nat := do
  let before := (← get).command
  modify fun s => { s with command := name, unwritten := false }
  let body := do
    match ← Act.caught (b.run e tested arguments) with
    | .ok status =>
      if (← get).unwritten then
        Act.complain (name ++ Bytes.ofString ": I/O error")
        return status ||| 1
      return status
    | .error .fault => if special then throw .fault else return (← get).status
    | .error stop => throw stop
  Act.always body fun s => { s with command := before, unwritten := false }

/-- Calls a function that starts on a line. -/
def callFunction (tested : Bool) (first : Nat) (body : Phrase) (arguments : List Bytes) :
    Act Nat := do
  let s ← get
  set { s with
    parameters := arguments
    functionLine := some first
    loops := 0
    optionIndex := 1
    optionOffset := none }
  let back := fun (t : State) =>
    { t with
      parameters := s.parameters
      functionLine := s.functionLine
      loops := s.loops
      optionIndex := s.optionIndex
      optionOffset := s.optionOffset }
  match ← Act.caught (Act.always (Act.withLocals (e.phrase tested body)) back) with
  | .ok status => return status
  | .error .back => return (← get).status
  | .error stop => throw stop

/-- Carries out what a request asks for. -/
def carryOut (tested : Bool) (r : Request) : Act Nat := do
  match r.words with
  | [] => return (← get).statusOfOutput
  | name :: arguments =>
    let s ← get
    let function := if r.plain || r.isSpecial then none else s.function? name
    match function, r.builtin? with
    | some (first, body), _ => callFunction e tested first body arguments
    | none, some b => runBuiltin e tested b r.isSpecial name arguments
    | none, none => runProgram e r.searchPath name arguments

/-- A simple command on a line. -/
def simpleCommand (tested : Bool) (line : Nat) (assignments : List (Bytes × Word))
    (words : List Word) (redirections : List Redirection) : Act Nat := do
  modify fun s => { s with line, statusOfOutput := 0 }
  let words ← expandCommand e [] words
  let targets ← expandTargets e redirections
  let s ← get
  let request := Request.ofWords s words
  let alone := !words.isEmpty && !request.isSpecial
  let body := fun (done : Bool) => do
    if done then
      let assigned ← assignAll e alone assignments
      trace s.descriptors (assigned ++ words)
      carryOut e tested request
    else
      modify fun s => { s with status := 2 }
      if request.isSpecial then throw .fault
      return 2
  let command := if alone then fun done => Act.withLocals (body done) else body
  if request.isExec then command (← redirectAll targets)
  else withRedirected targets command

end

end CompilerDriver.Shell
