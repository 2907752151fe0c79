import CompilerDriver.Shell.Builtin.Options

/-!
# Builtin commands on the surroundings of a process

The directory it works in, and what new files are allowed. The shell remembers the path by which it
came to the current directory; a step up takes the last name off that path.
-/

namespace CompilerDriver.Shell.Builtin

/-! ## The current directory -/

/-- The path of the directory at a location. -/
def pathOfLocation (l : Location) : Bytes :=
  if l = [] then [Bytes.slash] else l.reverse.flatMap (Bytes.slash :: ·)

/-- The path of the current directory, unless it has been removed. -/
def currentPath (fs : FileSystem) : Except OsError Bytes :=
  if (fs.get? fs.cwd).isSome then .ok (pathOfLocation fs.cwd) else .error .notFound

/-- An absolute path without segments that lead nowhere or up. -/
def plainPath (path : Bytes) : Bytes :=
  let names := (Path.segments ⟨path⟩).foldl (fun names segment =>
    if Path.IsIdle segment then names
    else if segment = Path.upSegment then names.tail
    else segment :: names) ([] : List Bytes)
  pathOfLocation names

/-- The path on which a change of directory goes, as far as the shell knows where it is. -/
def pathFrom (directory : Option Bytes) (target : Bytes) : Option Bytes :=
  if (Path.isAbsolute ⟨target⟩) then some (plainPath target)
  else directory.map fun directory => plainPath (directory ++ Bytes.slash :: target)

/-- Remembers where the shell is, and also where it was if `old` is set. The path is found out if
it is not known. -/
def remember (path : Option Bytes) (old : Bool) : Act Unit := do
  let s ← get
  let found : Except OsError Bytes := match path with
    | some path => .ok path
    | none => currentPath s.machine.files
  if old then
    let before := Bytes.ofString "OLDPWD"
    Act.assign before (s.directory.getD [])
    modify fun s => s.exporting before
  match found with
  | .ok path => modify fun s => { s with directory := some path }
  | .error cause =>
    Act.complain (Bytes.ofString ("getcwd() failed: " ++ cause.text))
    modify fun s => { s with directory := none }
  let now := Bytes.ofString "PWD"
  Act.assign now ((← get).directory.getD [])
  modify fun s => s.exporting now

/-- Whether the search path for directories is used for a target. -/
def isSearched (target : Bytes) : Bool :=
  match Path.segments ⟨target⟩ with
  | first :: _ =>
    !Path.isAbsolute ⟨target⟩ && first ≠ Path.hereSegment && first ≠ Path.upSegment
  | [] => false

/-- Changes the current directory. -/
def cd (arguments : List Bytes) : Act Nat := do
  let o ← options "LP" arguments
  let physical := (o.given.getLast?.map (·.1)) = some 0x50
  let s ← get
  let goesBack := o.operands.head? = some [Bytes.dash]
  let target := match o.operands with
    | a :: _ => if goesBack then s.value? (Bytes.ofString "OLDPWD") else some a
    | [] => s.value? (Bytes.ofString "HOME")
  let target := target.getD []
  let named := if target = [] then Path.hereSegment else target
  let searched := if isSearched named then
      (Bytes.pieces 0x3a ((s.value? (Bytes.ofString "CDPATH")).getD [])).map fun directory =>
        (if directory = [] then named else (Path.child ⟨directory⟩ named).bytes,
          decide (directory ≠ []))
    else []
  let (place, shows) := (searched.find? fun c => s.machine.files.isDirectory ⟨c.1⟩).getD
    (named, false)
  let path := if physical then none else pathFrom s.directory place
  match s.machine.files.enter ⟨path.getD place⟩ with
  | .ok files =>
    modify fun s => { s with machine := { s.machine with files } }
    remember path true
    if shows || goesBack then Act.sayLine ((← get).directory.getD [])
    return 0
  | .error _ => Act.fail (Bytes.ofString "can't cd to " ++ target)

/-- Shows the current directory. -/
def pwd (arguments : List Bytes) : Act Nat := do
  let o ← options "LP" arguments
  let s ← get
  if (o.given.getLast?.map (·.1)) = some 0x50 then
    match currentPath s.machine.files with
    | .ok path => Act.sayLine path
    | .error cause =>
      Act.complain (Bytes.ofString ("getcwd() failed: " ++ cause.text))
      Act.sayLine []
  else Act.sayLine (s.directory.getD [])
  return 0

/-! ## Permissions and limits -/

/-- Three permissions as letters. -/
def permissionLetters (bits : Nat) : Bytes :=
  ([(4, 'r'), (2, 'w'), (1, 'x')].filter fun p => bits &&& p.1 ≠ 0).map (·.2.toUInt8)

/-- The permissions that new files are not given, shown or set. -/
def umask (arguments : List Bytes) : Act Nat := do
  let o ← options "S" arguments
  let mask := (← get).mask
  match o.operands with
  | [] =>
    if o.has 'S' then
      let part := fun (who : Char) (shift : Nat) =>
        [who.toUInt8, Bytes.equals] ++ permissionLetters ((0o777 - mask) >>> shift &&& 7)
      Act.sayLine (Bytes.join 0x2c [part 'u' 6, part 'g' 3, part 'o' 0])
    else
      let digits := Bytes.ofString (String.ofList (Nat.toDigits 8 mask))
      Act.sayLine (List.replicate (4 - digits.length) 0x30 ++ digits)
    return 0
  | a :: _ =>
    if a.head?.any Bytes.isDigit then
      unless a.all fun b => 0x30 ≤ b && b ≤ 0x37 do Act.illegalNumber a
      let mask := a.foldl (fun n b => n * 8 + (b.toNat - 0x30)) 0 % 512
      modify fun s => { s with mask }
    return 0

/-- Limits are taken and have no effect. -/
def ulimit (arguments : List Bytes) : Act Nat := do
  match arguments.dropWhile fun a => a.head? = some Bytes.dash with
  | [] =>
    Act.sayLine (Bytes.ofString "unlimited")
    return 0
  | a :: _ =>
    unless a = Bytes.ofString "unlimited" || a.all Bytes.isDigit do
      Act.fail (Bytes.ofString "bad number")
    return 0

end CompilerDriver.Shell.Builtin
