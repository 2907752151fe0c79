import CompilerDriver.Failure
import CompilerDriver.FileSystem.Lookup

/-!
# Executables

What it takes to start a file as a program. A program is a native one, known by the image it
starts with, or a script whose first line names the program that reads it. A name without a slash
is looked for in the directories of the search path.
-/

namespace CompilerDriver.Executable

/-- What every native program starts with; its name follows. -/
def magic : Bytes := 0x7f :: Bytes.ofString "ELF"

/-- The contents of the file of a native program. -/
def image (name : String) : Bytes := magic ++ Bytes.ofString name

/-- What an executable file turns out to be. -/
inductive Kind where
  | native (name : Bytes)
  /-- The program that reads it, and the one argument its first line may give. -/
  | script (interpreter : Bytes) (argument : Option Bytes)
deriving DecidableEq, Repr

/-- How much of a file is looked at to find out its kind. -/
def headLimit : Nat := 256

/-- A blank in a first line. -/
def isBlank (b : UInt8) : Bool := b = 0x20 || b = 0x09

/-- What ends the name of an interpreter. -/
def endsName (b : UInt8) : Bool := isBlank b || b = 0

/-- The beginning of a file, filled up with zeros. -/
def head (contents : Bytes) : Bytes :=
  contents.take headLimit ++ List.replicate (headLimit - contents.length) 0

/-- The place of the first byte of a kind, counted from a place on. -/
def firstFrom (isKind : UInt8 → Bool) (start : Nat) (bytes : Bytes) : Option Nat :=
  ((bytes.drop start).findIdx? isKind).map (start + ·)

/-- Where the first line ends. A line that is longer than what is looked at ends there, but then
the name of the interpreter has to be whole. A zero hides all that comes after it. -/
def lineEnd? (head : Bytes) : Option Nat := do
  let line := head.takeWhile fun b => b ≠ Bytes.newline && b ≠ 0
  if head[line.length]? = some Bytes.newline then some line.length
  else
    let start ← firstFrom (fun b => !isBlank b) 2 head
    let _ ← firstFrom endsName start head
    some (headLimit - 1)

/-- The interpreter that a first line names, and the one argument that it may give. -/
def interpreter? (head : Bytes) : Option (Bytes × Option Bytes) := do
  let line := head.take (← lineEnd? head)
  let line := (line.reverse.dropWhile isBlank).reverse
  let start ← firstFrom (fun b => !isBlank b) 2 line
  let name := (line.drop start).takeWhile fun b => !endsName b
  match line.drop (start + name.length) with
  | [] => some (name, none)
  | b :: rest =>
    if b = 0 then some (name, none)
    else some (name, some ((rest.dropWhile isBlank).takeWhile (· ≠ 0)))

/-- The kind of a file by its contents. -/
def kind? (contents : Bytes) : Option Kind :=
  if magic.isPrefixOf contents then some (.native (contents.drop magic.length))
  else if (Bytes.ofString "#!").isPrefixOf contents then
    (interpreter? (head contents)).map fun (name, argument) => .script name argument
  else none

/-- The contents of the file at a path, if it may be executed. No path at all is the current
directory, which may not. -/
def open? (fs : FileSystem) (path : Bytes) : Except Cause Bytes := do
  if path = [] then throw (.os .permissionDenied)
  match fs.found (← fs.resolve ⟨path⟩) with
  | .file contents mode => if mode.isExecutable then return contents
  | _ => pure ()
  throw (.os .permissionDenied)

/-- A native program and the words it is started with, its own name among them. -/
structure Loaded where
  name : Bytes
  words : List Bytes
deriving DecidableEq, Repr

/-- Starts a file: a script is handed to its interpreter, which may be a script itself. It is opened
first, and only then is it found out that so many interpreters behind one another are too many. -/
def load (fs : FileSystem) : (depth : Nat) → (path : Bytes) → (words : List Bytes) →
    Except Cause Loaded
  | 0, path, _ => do
    let _ ← open? fs path
    throw (.os .tooManyLinks)
  | depth + 1, path, words => do
    match kind? (← open? fs path) with
    | none => throw (.os .execFormat)
    | some (.native name) => return ⟨name, words⟩
    | some (.script interpreter argument) =>
      load fs depth interpreter (interpreter :: argument.toList ++ path :: words.tail)

/-- How many files may be started behind one another. -/
def interpreterLimit : Nat := 6

/-- The variable that holds the search path. -/
def searchPathName : Bytes := Bytes.ofString "PATH"

/-- Where programs are looked for if no search path is set. -/
def defaultSearchPath : Bytes := Bytes.ofString "/bin:/usr/bin"

/-- The directories of a search path; an empty one is the current directory. -/
def directories (searchPath : Bytes) : List Bytes := Bytes.pieces 0x3a searchPath

/-- The paths under which a program is looked for. -/
def candidates (searchPath : Bytes) (program : Bytes) : List Bytes :=
  (directories searchPath).map fun directory =>
    if directory = [] then program else directory ++ Bytes.slash :: program

/-- Whether the search goes on after an error. -/
def goesOn : Cause → Bool
  | .os .notFound | .os .notDirectory | .os .permissionDenied => true
  | _ => false

/-- Starts the first candidate that can be started. If there is none, the error is that of the
last one, but if one was found that may not be executed, it is that. -/
def search (fs : FileSystem) (words : List Bytes) :
    (soFar : Cause) → List Bytes → Except Cause Loaded
  | soFar, [] => .error soFar
  | soFar, path :: rest =>
    match load fs interpreterLimit path words with
    | .ok loaded => .ok loaded
    | .error cause =>
      if goesOn cause then
        search fs words (if soFar = .os .permissionDenied then soFar else cause) rest
      else .error cause

/-- Starts a program by its name or path, with its arguments. -/
def start (fs : FileSystem) (searchPath : Option Bytes) (program : Bytes)
    (arguments : List Bytes) : Except Cause Loaded :=
  let words := program :: arguments
  if program = [] then .error (.os .notFound)
  else if Bytes.slash ∈ program then load fs interpreterLimit program words
  else search fs words (.os .notFound) (candidates (searchPath.getD defaultSearchPath) program)

/-! ## Starting from a program

A program that starts another one hands a file without a first line that says otherwise to the
shell.
-/

/-- The path of the shell. -/
def shellPath : Bytes := Bytes.ofString "/bin/sh"

/-- Starts the file at a path, or the shell on it if it is no program. -/
def loadOrRead (fs : FileSystem) (path : Bytes) (words : List Bytes) : Except Cause Loaded :=
  match load fs interpreterLimit path words with
  | .error (.os .execFormat) => load fs interpreterLimit shellPath (shellPath :: path :: words.tail)
  | result => result

/-- Like `search`, but a file that is no program is handed to the shell. -/
def searchOrRead (fs : FileSystem) (words : List Bytes) :
    (soFar : Cause) → List Bytes → Except Cause Loaded
  | soFar, [] => .error soFar
  | soFar, path :: rest =>
    match loadOrRead fs path words with
    | .ok loaded => .ok loaded
    | .error cause =>
      if goesOn cause then
        searchOrRead fs words (if soFar = .os .permissionDenied then soFar else cause) rest
      else .error cause

/-- Starts a program by its name or path, or the shell on it. -/
def startOrRead (fs : FileSystem) (searchPath : Option Bytes) (program : Bytes)
    (arguments : List Bytes) : Except Cause Loaded :=
  let words := program :: arguments
  if program = [] then .error (.os .notFound)
  else if Bytes.slash ∈ program then loadOrRead fs program words
  else searchOrRead fs words (.os .notFound) (candidates (searchPath.getD defaultSearchPath) program)

end CompilerDriver.Executable
