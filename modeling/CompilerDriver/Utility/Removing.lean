import CompilerDriver.Utility.Paths

/-!
# Utilities that make and remove files

Directories are made with those above them if that is asked for, and removed with all they hold.
-/

namespace CompilerDriver.Utility

/-- Takes over a change, or reports that it could not be made to an operand. -/
def change (verb : String) (operand : Bytes) (result : Except Cause FileSystem) : Work Bool := do
  match result with
  | .ok files =>
    Work.setFiles files
    return true
  | .error cause =>
    Work.complain (Bytes.ofString (verb ++ " ") ++ quoted operand ++
      Bytes.ofString (": " ++ cause.plainText))
    return false

/-- Tells what has been done, if that is asked for. -/
def report (g : Given) (words : String) (name : Bytes) : Work Unit := do
  if g.has "v" then Work.sayLine (Bytes.ofString words ++ quoted name)

/-- Like `report`, with the name of the utility in front. -/
def reportNamed (g : Given) (words : String) (name : Bytes) : Work Unit := do
  if g.has "v" then
    Work.sayLine ((← Work.name) ++ Bytes.ofString (": " ++ words) ++ quoted name)

/-! ## Making -/

/-- The paths of the directories above a path, the outermost first, and the path itself. -/
def stepsTo (p : Bytes) : List Bytes :=
  let segments := Path.segments ⟨stripSlashes p⟩
  (List.range segments.length).filterMap fun n =>
    let step := Bytes.join Bytes.slash (segments.take (n + 1))
    if (segments[n]?.getD []) = [] then none else some step

/-- Makes a directory and those above it that are missing. -/
def makeSteps (g : Given) : List Bytes → Work Unit
  | [] => pure ()
  | step :: rest => do
    let fs ← Work.files
    if fs.isDirectory ⟨step⟩ then makeSteps g rest
    else if ← change "cannot create directory" step (fs.makeDirectory ⟨step⟩) then
      reportNamed g "created directory " step
      makeSteps g rest

def mkdir : Work Unit := do
  let g ← readGiven "m/mode= p/parents v/verbose Z"
  requireOperands g.operands
  for p in g.operands do
    if g.has "p" then makeSteps g (stepsTo p)
    else if ← change "cannot create directory" p ((← Work.files).makeDirectory ⟨p⟩) then
      reportNamed g "created directory " p

/-- Makes files that are missing. -/
def touch : Work Unit := do
  let g ← readGiven "a c/no-create d/date= f h/no-dereference m r/reference= t= time="
  if g.operands.isEmpty then Work.failUsage (Bytes.ofString "missing file operand")
  match g.value? "r" with
  | some p =>
    if !(← Work.files).isPresent ⟨p⟩ then
      Work.fail (Bytes.ofString "failed to get attributes of " ++ quoted p ++
        Bytes.ofString (": " ++ OsError.notFound.text))
  | none => pure ()
  for p in g.operands do
    let fs ← Work.files
    match fs.resolve ⟨p⟩ with
    | .ok _ => pure ()
    | .error _ =>
      unless g.has "c" || p = [Bytes.dash] do
        match fs.write ⟨p⟩ [] false with
        | .ok files => Work.setFiles files
        | .error cause =>
          let (verb, cause) := if cause = .os .isDirectory then
              ("setting times of ", Cause.os .notFound)
            else ("cannot touch ", cause)
          Work.complain (Bytes.ofString verb ++ quoted p ++
            Bytes.ofString (": " ++ cause.plainText))

/-! ## Removing -/

/-- Whether the last name of a path is the directory itself or the one above. -/
def endsInDots (p : Bytes) : Bool :=
  let name := baseOf p
  name = Path.hereSegment || name = Path.upSegment

/-- All that lies inside a path, what is further inside first, and then the path itself. -/
def insideOut (fs : FileSystem) (p : Bytes) (l : Location) : List Bytes :=
  let inside := fs.entries.filter fun e => FileSystem.isWithin l e.1 && e.1 ≠ l
  let names := inside.map fun e => (e.1.take (e.1.length - l.length)).reverse
  let sorted := names.mergeSort fun a b =>
    (Bytes.join 0 (a ++ [[0xff]])).precedes (Bytes.join 0 (b ++ [[0xff]]))
  (sorted.map fun names => names.foldl within p) ++ [p]

/-- Removes one entry, a directory only if it is empty. -/
def removeEntry (g : Given) (p : Bytes) : Work Bool := do
  let fs ← Work.files
  match fs.entryNode? ⟨p⟩ with
  | some .directory =>
    let done ← change "cannot remove" p (fs.removeDirectory ⟨p⟩)
    if done then report g "removed directory " p
    return done
  | _ =>
    let done ← change "cannot remove" p (fs.unlink ⟨p⟩)
    if done then report g "removed " p
    return done

/-- Asks a question; tells whether the answer is yes. -/
def agrees (question : Bytes) : Work Bool := do
  Work.tell ((← Work.name) ++ Bytes.ofString ": " ++ question ++ Bytes.ofString "? ")
  let answer := (← Work.readLine).getD []
  return answer.head?.any fun b => Bytes.lower b = 0x79

/-- What kind of file a question is about. -/
def kindOf (n : Node) : String :=
  match n with
  | .directory => "directory"
  | .link _ => "symbolic link"
  | .device _ => "character special file"
  | .file [] _ => "regular empty file"
  | .file .. => "regular file"

/-- Removes an operand. -/
def removeOperand (g : Given) (p : Bytes) : Work Unit := do
  let recursive := g.has "r" || g.has "R"
  let asks := g.lastOf ["f", "i", "I"] = some "i"
  let fs ← Work.files
  match fs.locateEntry ⟨p⟩ with
  | .error cause =>
    let isMissing := cause = .os .notFound || cause = .os .notDirectory
    unless g.has "f" && isMissing do
      Work.complain (Bytes.ofString "cannot remove " ++ quoted p ++
        Bytes.ofString (": " ++ cause.plainText))
  | .ok l =>
    let node := fs.found l
    if node.isDirectory && endsInDots p && recursive then
      Work.complain (Bytes.ofString "refusing to remove '.' or '..' directory: skipping " ++ quoted p)
    else if l = [] && recursive then
      Work.complain (Bytes.ofString "it is dangerous to operate recursively on " ++ quoted p)
      Work.complain (Bytes.ofString "use --no-preserve-root to override this failsafe")
    else if node.isDirectory && !recursive && !g.has "d" then
      Work.complain (Bytes.ofString "cannot remove " ++ quoted p ++
        Bytes.ofString (": " ++ OsError.isDirectory.text))
    else
      let goesOn ← if asks then
          agrees (Bytes.ofString s!"remove {kindOf node} " ++ quoted p)
        else pure true
      if goesOn then
        if node.isDirectory && recursive then
          for inner in insideOut fs p l do
            let _ ← removeEntry g inner
        else
          let _ ← removeEntry g p

def rm : Work Unit := do
  let g ← readGiven "f/force i I r/recursive R d/dir v/verbose one-file-system preserve-root? no-preserve-root interactive?"
  if !g.has "f" then requireOperands g.operands
  for p in g.operands do removeOperand g p

def unlink : Work Unit := do
  let g ← readGiven ""
  requireOperands g.operands
  limitOperands g.operands 1
  for p in g.operands do
    let _ ← change "cannot unlink" p ((← Work.files).unlink ⟨p⟩)

/-- Removes a directory, and then those above it as long as they are given and empty. -/
def removeUpward (g : Given) (verb : String) : (fuel : Nat) → Bytes → Work Unit
  | 0, _ => pure ()
  | fuel + 1, p => do
    reportNamed g "removing directory, " p
    match (← Work.files).removeDirectory ⟨p⟩ with
    | .ok files =>
      Work.setFiles files
      let above := directoryOf p
      if g.has "p" && above ≠ [Bytes.dot] && above ≠ [Bytes.slash] then
        removeUpward g "failed to remove directory" fuel above
    | .error cause =>
      unless g.has "ignore-fail-on-non-empty" && cause = .os .notEmpty do
        Work.complain (Bytes.ofString (verb ++ " ") ++ quoted p ++
          Bytes.ofString (": " ++ cause.plainText))

def rmdir : Work Unit := do
  let g ← readGiven "p/parents v/verbose ignore-fail-on-non-empty"
  requireOperands g.operands
  for p in g.operands do removeUpward g "failed to remove" (p.length + 1) p

/-- The utilities that make and remove files. -/
def removingUtilities : List Utility :=
  [⟨"mkdir", mkdir⟩, ⟨"touch", touch⟩, ⟨"rm", rm⟩, ⟨"unlink", unlink⟩, ⟨"rmdir", rmdir⟩]

end CompilerDriver.Utility
