import CompilerDriver.Shell.Expansion

/-!
# Redirecting

How the descriptors of a shell are changed for a command. The targets are expanded first, and then
opened one after the other; the first that cannot be opened keeps the command from being run.
-/

namespace CompilerDriver.Shell

/-- A redirection whose target has been expanded. -/
structure Redirected where
  descriptor : Nat
  direction : Direction
  target : Bytes
deriving DecidableEq, Repr

/-- What is said when a path cannot be opened or made. -/
def openFault (direction : Direction) (target : Bytes) (cause : Cause) : Bytes :=
  let (verb, missing) := match direction with
    | .read => ("cannot open ", "No such file")
    | _ => ("cannot create ", "Directory nonexistent")
  let reason := match cause with
    | .os .notFound | .os .notDirectory => missing
    | cause => cause.plainText
  Bytes.ofString verb ++ target ++ Bytes.ofString (": " ++ reason)

/-- How a path is opened for a redirection. -/
def Direction.access : Direction → Access
  | .read | .duplicate | .document => .read
  | .update => .update
  | .append => .append
  | .write | .overwrite => .write

/-- Redirects one descriptor. -/
def redirect (r : Redirected) : Act Unit := do
  let s ← get
  let assign := fun (stream : Stream) (machine : Machine) =>
    set { s with machine, descriptors := s.descriptors.assign r.descriptor stream }
  match r.direction with
  | .document =>
    let (pipe, machine) := s.machine.addPipe
    match machine.put (.pipe pipe true) r.target with
    | .ok machine => assign (.pipe pipe false) machine
    | .error _ => pure ()
  | .duplicate =>
    match r.target with
    | [b] =>
      if b = Bytes.dash then set { s with descriptors := s.descriptors.close r.descriptor }
      else match s.descriptors.stream? (Bytes.ofDigits [b]) with
        | some stream => assign stream s.machine
        | none =>
          unless Bytes.ofDigits [b] = r.descriptor do
            Act.fail (r.target ++ Bytes.ofString (": " ++ OsError.badDescriptor.text))
    | _ => pure ()
  | direction =>
    let taken := s.machine.files.isFile ⟨r.target⟩
    if direction = .write && s.has 0x43 && taken then
      Act.fail (openFault direction r.target (.os .alreadyExists))
    match s.machine.openPath s.descriptors ⟨r.target⟩ direction.access with
    | .ok (stream, machine) => assign stream machine
    | .error cause => Act.fail (openFault direction r.target cause)

section

variable (e : Evaluator)

/-- Whether a text names another descriptor, or none at all. -/
def isDescriptor : Bytes → Bool
  | [b] => Bytes.isDigit b || b = Bytes.dash
  | _ => false

/-- Expands the targets of redirections. -/
def expandTargets (all : List Redirection) : Act (List Redirected) :=
  all.mapM fun (.mk descriptor direction target) => do
    let target ← expandText e target
    if direction = .duplicate && !isDescriptor target then
      modify fun s => { s with line := s.lineRead }
      Act.fail (Bytes.ofString "Syntax error: Bad fd number")
    return { descriptor, direction, target }

/-- Redirects descriptors in order; tells whether all of it was done. What has been done stays. -/
def redirectAll (all : List Redirected) : Act Bool := do
  match ← Act.caught (all.forM redirect) with
  | .ok () => return true
  | .error .fault => return false
  | .error stop => throw stop

end

/-- Does something with descriptors redirected, which are put back afterwards. It is told whether
they could be redirected. -/
def withRedirected (all : List Redirected) (body : Bool → Act Nat) : Act Nat := do
  let before := (← get).descriptors
  Act.always (do body (← redirectAll all)) fun s => { s with descriptors := before }

end CompilerDriver.Shell
