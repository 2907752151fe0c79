import CompilerDriver.Shell.Evaluation

/-!
# Starting a shell

What a shell makes of its words and its environment before it reads the first command: options,
where its commands come from, its name and its parameters.
-/

namespace CompilerDriver.Shell

/-- Where the commands of a shell come from. -/
inductive Origin where
  | text (commands : Bytes)
  | file (path : Bytes)
  | input
deriving DecidableEq, Repr

/-- The letters of one word of options; whether commands are to follow as a text is a result. -/
def startLetters (value : Bool) : Bytes → (after : List Bytes) → Act (Bool × List Bytes)
  | [], after => return (false, after)
  | letter :: rest, after => do
    if letter = 0x63 then
      let (_, after) ← startLetters value rest after
      return (true, after)
    else if letter = 0x6c then startLetters value rest after
    else if letter = 0x6f then
      match after with
      | name :: after =>
        Builtin.setNamedOption name value
        startLetters value rest after
      | [] =>
        Builtin.showOptions (!value)
        startLetters value rest []
    else
      Builtin.setOption letter value
      startLetters value rest after

/-- The options in front of the words of a shell. `fuel` is more than the number of words. -/
def startOptions : (fuel : Nat) → List Bytes → Act (Bool × List Bytes)
  | 0, words => return (false, words)
  | fuel + 1, words => do
    match words with
    | (sign :: letters) :: rest =>
      if sign = Bytes.dash && (letters = [] || letters = [Bytes.dash]) then return (false, rest)
      if sign ≠ Bytes.dash && sign ≠ 0x2b then return (false, words)
      let (asked, rest) ← startLetters (sign = Bytes.dash) letters rest
      let (more, rest) ← startOptions fuel rest
      return (asked || more, rest)
    | _ => return (false, words)

/-- What the words after the name of a shell ask for: where the commands come from. The name and the
parameters are set. -/
def readStart (words : List Bytes) : Act Origin := do
  let (asked, rest) ← startOptions (words.length + 1) words
  let rename := fun (name : Bytes) (parameters : List Bytes) =>
    modify fun s => { s with name, parameters }
  match asked, rest with
  | true, [] => Act.fail (Bytes.ofString "-c requires an argument")
  | true, commands :: rest =>
    match rest with
    | name :: parameters => rename name parameters
    | [] => pure ()
    return .text commands
  | false, [] =>
    Builtin.setOption 0x73 true
    return .input
  | false, path :: parameters =>
    if (← get).has 0x73 then
      modify fun s => { s with parameters := path :: parameters }
      return .input
    modify fun s => { s with parameters }
    return .file path

/-- The commands of a shell. -/
def readCommands : Origin → Act Bytes
  | .text commands => return commands
  | .input => do
    let s ← get
    match s.machine.readRest s.descriptors 0 with
    | .ok (text, machine) =>
      set { s with machine }
      return text
    | .error _ => return []
  | .file path => do
    let s ← get
    match s.machine.openPath s.descriptors ⟨path⟩ .read with
    | .error cause => Act.fail (openFault .read path cause)
    | .ok (stream, machine) =>
      let (text, machine) := (machine.readRest [(0, stream)] 0).toOption.getD ([], machine)
      set { s with machine }
      return text

/-- The variables of a shell that has not been told any. -/
def initialVariables (parent : Nat) : List Variable :=
  let set := fun (name value : String) =>
    { name := Bytes.ofString name, value := some (Bytes.ofString value) : Variable }
  [{ name := Executable.searchPathName, value := some usualSearchPath }, set "IFS" " \t\n", set "OPTIND" "1",
    set "PS1" "# ", set "PS2" "> ", set "PS4" "+ ", set "PPID" parent.repr]

/-- A shell that starts with an environment. What separates fields is not taken from there. -/
def State.ofLaunch (l : Launch) (process : Nat) (machine : Machine) : State :=
  let start : State :=
    { machine
      descriptors := l.descriptors
      name := l.loaded.words.headD []
      bindings := initialVariables l.parent
      ignored := l.ignored
      script := process
      process
      parent := l.parent }
  let reserved := ["IFS", "OPTIND", "PPID"].map Bytes.ofString
  l.environment.foldl (fun s (name, value) =>
    if isName name then
      if name ∈ reserved then s.exporting name else (s.assign name value).exporting name
    else s) start

/-- The shell remembers where it starts: as its environment says, if that is true. -/
def remembered (s : State) : Act Unit := do
  let known := (s.value? (Bytes.ofString "PWD")).filter fun path =>
    Path.isAbsolute ⟨path⟩ &&
      (s.machine.files.resolve ⟨path⟩).toOption = some s.machine.files.cwd
  modify fun s => { s with name := Bytes.ofString "sh" }
  Builtin.remember known false
  modify fun t => { t with name := s.name }

section

variable (e : Evaluator)

/-- All that a shell does. -/
def shellWork (l : Launch) : Act Nat := do
  remembered (← get)
  let origin ← readStart l.loaded.words.tail
  let commands ← readCommands origin
  match origin with
  | .file path => modify fun s => { s with name := path }
  | _ => pure ()
  e.text false commands

/-- Runs a shell to its end. -/
def runShell (l : Launch) (process : Nat) (m : Machine) : WaitReport × Machine :=
  work e (shellWork e l) (State.ofLaunch l process m)

end

end CompilerDriver.Shell
