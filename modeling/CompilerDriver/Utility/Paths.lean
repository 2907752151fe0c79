import CompilerDriver.FileSystem.Update
import CompilerDriver.Utility.Names
import CompilerDriver.Utility.Options

/-!
# Utilities on paths

Paths by their text, and utilities that only look at them or at where they lead.
-/

namespace CompilerDriver.Utility

/-- A path without the slashes at its end; a path of slashes alone is one slash. -/
def stripSlashes (p : Bytes) : Bytes :=
  match (p.reverse.dropWhile (· = Bytes.slash)).reverse with
  | [] => if p = [] then [] else [Bytes.slash]
  | stripped => stripped

/-- The directory of a path by its text. -/
def directoryOf (p : Bytes) : Bytes :=
  let p := stripSlashes p
  if Bytes.slash ∈ p then stripSlashes (p.reverse.dropWhile (· ≠ Bytes.slash)).reverse
  else [Bytes.dot]

/-- The last name of a path by its text. -/
def baseOf (p : Bytes) : Bytes :=
  let p := stripSlashes p
  if p = [Bytes.slash] then p else (p.reverse.takeWhile (· ≠ Bytes.slash)).reverse

/-- A name put behind a directory. -/
def within (directory name : Bytes) : Bytes := (Path.child ⟨directory⟩ name).bytes

/-- The path of a location. -/
def pathOf (l : Location) : Bytes :=
  if l = [] then [Bytes.slash] else l.reverse.flatMap (Bytes.slash :: ·)

/-- Gives up if there are no operands. -/
def requireOperands (operands : List Bytes) : Work Unit := do
  if operands.isEmpty then Work.failUsage (Bytes.ofString "missing operand")

/-- Gives up if there are more operands than a number. -/
def limitOperands (operands : List Bytes) (limit : Nat) : Work Unit := do
  match operands.drop limit with
  | [] => pure ()
  | extra :: _ => Work.failUsage (Bytes.ofString "extra operand " ++ quoted extra)

/-- What ends a line of the output. -/
def lineEnd (g : Given) : UInt8 := if g.has "z" then 0 else Bytes.newline

/-- A name without an ending, unless it is nothing but the ending. -/
def withoutEnding (ending name : Bytes) : Bytes :=
  if ending ≠ name && ending.isSuffixOf name then name.take (name.length - ending.length) else name

def basename : Work Unit := do
  let g ← readGiven "a/multiple s/suffix= z/zero" true
  requireOperands g.operands
  let several := g.has "a" || g.has "s"
  if !several then limitOperands g.operands 2
  let ending := if several then (g.value? "s").getD [] else (g.operands[1]?).getD []
  for p in if several then g.operands else g.operands.take 1 do
    Work.say (withoutEnding ending (baseOf p) ++ [lineEnd g])

def dirname : Work Unit := do
  let g ← readGiven "z/zero" true
  requireOperands g.operands
  for p in g.operands do Work.say (directoryOf p ++ [lineEnd g])

/-- The current directory; as it was reached, if that is asked for and can be believed. -/
def pwd : Work Unit := do
  let g ← readGiven "L/logical P/physical"
  let fs ← Work.files
  let known := (← read).launch.environment.get? (Bytes.ofString "PWD")
  if (fs.get? fs.cwd).isNone then
    Work.fail (Bytes.ofString "couldn't find directory entry in '..' with matching i-node")
  match g.lastOf ["L", "P"], known with
  | some "L", some path =>
    let isRight := Path.isAbsolute ⟨path⟩ && (fs.resolve ⟨path⟩).toOption = some fs.cwd
    Work.sayLine (if isRight then path else pathOf fs.cwd)
  | _, _ => Work.sayLine (pathOf fs.cwd)

/-- The location of a path whose last names need not be there. -/
def locationOf (fs : FileSystem) (p : Bytes) (missing : Nat) : (fuel : Nat) → Except Cause Bytes
  | 0 => .error (.os .notFound)
  | fuel + 1 =>
    match fs.resolve ⟨p⟩ with
    | .ok l => .ok (pathOf l)
    | .error cause =>
      if missing = 0 || p = [] || stripSlashes p = [Bytes.slash] then .error cause
      else match locationOf fs (directoryOf p) (missing - 1) fuel with
        | .ok directory => .ok (within directory (baseOf p))
        | .error _ => .error cause

def realpath : Work Unit := do
  let g ← readGiven "e/canonicalize-existing m/canonicalize-missing L/logical P/physical q/quiet s/strip z/zero"
  requireOperands g.operands
  let fs ← Work.files
  for p in g.operands do
    let missing := match g.lastOf ["e", "m"] with
      | some "e" => 0
      | some _ => p.length + 1
      | none => 1
    match locationOf fs p missing (p.length + 2) with
    | .ok path => Work.say (path ++ [lineEnd g])
    | .error cause =>
      if g.has "q" then Work.mark 1
      else Work.complain (shown p ++ Bytes.ofString (": " ++ cause.plainText))

/-- What a link points to, or where a path leads in the end. -/
def readlink : Work Unit := do
  let g ← readGiven "f/canonicalize e/canonicalize-existing m/canonicalize-missing n/no-newline q/quiet s/silent v/verbose z/zero"
  requireOperands g.operands
  let fs ← Work.files
  let ending := if g.has "n" && g.operands.length = 1 then [] else [lineEnd g]
  for p in g.operands do
    let found := match g.lastOf ["f", "e", "m"] with
      | some "f" => locationOf fs p 1 (p.length + 2)
      | some "e" => locationOf fs p 0 (p.length + 2)
      | some _ => locationOf fs p (p.length + 1) (p.length + 2)
      | none => do
        match fs.found (← fs.locateEntry ⟨p⟩) with
        | .link target => .ok target.bytes
        | _ => .error (.os .invalidArgument)
    match found with
    | .ok path => Work.say (path ++ ending)
    | .error cause =>
      Work.mark 1
      if g.has "v" then Work.complain (shown p ++ Bytes.ofString (": " ++ cause.plainText))

/-- The utilities on paths. -/
def pathUtilities : List Utility :=
  [⟨"basename", basename⟩, ⟨"dirname", dirname⟩, ⟨"pwd", pwd⟩, ⟨"realpath", realpath⟩,
    ⟨"readlink", readlink⟩]

end CompilerDriver.Utility
