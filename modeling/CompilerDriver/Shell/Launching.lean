import CompilerDriver.Shell.Redirecting

/-!
# Starting programs from a shell

How a shell finds a program and starts it. A program without a slash in its name is looked for in
the directories of the search path, and only a file that may be executed counts. What cannot be
started has the status 127 if there is nothing of that name, and 126 otherwise.
-/

namespace CompilerDriver.Shell

/-- Where programs are looked for by a shell that nobody has told. -/
def usualSearchPath : Bytes :=
  Bytes.ofString "/usr/local/sbin:/usr/local/bin:/usr/sbin:/usr/bin:/sbin:/bin"

/-- The search path of a shell. -/
def State.searchPath (s : State) : Bytes := (s.value? Executable.searchPathName).getD usualSearchPath

/-- Why no program can be started, as a shell says it. -/
def startText : Cause → String
  | .os .notFound | .os .notDirectory => "not found"
  | cause => cause.plainText

/-- The status for a program that was not started. -/
def startStatus : Cause → Nat
  | .os .notFound | .os .notDirectory | .os .tooManyLinks | .os .nameTooLong => 127
  | _ => 126

/-- The file of a program, by its name, on a search path. The error is the last one that says more
than that nothing is there. -/
def programFile (fs : FileSystem) (searchPath name : Bytes) : Except Cause Bytes :=
  let paths := (Executable.candidates searchPath name).map fun path =>
    match fs.resolve ⟨path⟩ with
    | .error cause => .error cause
    | .ok l =>
      match fs.found l with
      | .file _ mode => if mode.isExecutable then .ok path else .error (.os .permissionDenied)
      | _ => .error (.os .permissionDenied)
  let rec first : (soFar : Cause) → List (Except Cause Bytes) → Except Cause Bytes
    | soFar, [] => .error soFar
    | _, .ok path :: _ => .ok path
    | soFar, .error cause :: rest =>
      first (if startText cause = "not found" then soFar else cause) rest
  first (.os .notFound) paths

/-- The program behind a name, ready to be started, or what is said and the status if there is
none. A name without a slash is looked up first. -/
def findProgram (s : State) (searchPath : Bytes) (program : Bytes) (arguments : List Bytes) :
    Except (Bytes × Nat) Executable.Loaded :=
  let fs := s.machine.files
  let fault := fun (cause : Cause) => program ++ Bytes.ofString (": " ++ startText cause)
  let load := fun (path : Bytes) =>
    (Executable.loadOrRead fs path (program :: arguments)).mapError fun cause =>
      (fault cause, startStatus cause)
  if Bytes.slash ∈ program then load program
  else match programFile fs searchPath program with
    | .ok path => load path
    | .error cause => .error (fault cause, 127)

section

variable (e : Evaluator)

/-- What a program is launched with by a shell. -/
def State.launchOf (s : State) (loaded : Executable.Loaded) : Launch :=
  { loaded
    environment := s.environment
    descriptors := s.descriptors
    parent := s.process
    ignored := s.unnoticed }

/-- Starts a program and waits for its end. While one only lets time pass, others do their work. -/
def runProgram (searchPath : Bytes) (program : Bytes) (arguments : List Bytes) : Act Nat := do
  match findProgram (← get) searchPath program arguments with
  | .error (fault, status) =>
    Act.complain fault
    return status
  | .ok loaded =>
    if loaded.name = Bytes.ofString "sleep" then ExceptT.lift finishJobs
    let s ← get
    let (report, machine) := e.launch (s.launchOf loaded) s.machine
    set { s with machine }
    Act.settle report

/-- Starts a program in the place of the shell. -/
def becomeProgram (program : Bytes) (arguments : List Bytes) : Act Nat := do
  let s ← get
  match findProgram s s.searchPath program arguments with
  | .error (fault, status) =>
    Act.complain fault
    throw (.exit status)
  | .ok loaded =>
    let launch := { s.launchOf loaded with parent := s.parent }
    let (report, machine) := e.launch launch s.machine
    set { s with machine, traps := [] }
    match report.signal? with
    | some signal => throw (.killed signal)
    | none => throw (.exit (statusOf report))

end

end CompilerDriver.Shell
