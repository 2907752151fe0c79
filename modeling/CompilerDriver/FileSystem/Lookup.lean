import CompilerDriver.Failure
import CompilerDriver.FileSystem.Basic

/-!
# Looking up paths

A path is followed segment by segment from the root or from the current directory. Each segment
needs a directory to stand in; a link sends the walk along its target before it goes on; at most
40 links are followed in one lookup. A segment that leads nowhere still needs a directory, which
is why a slash after a file name makes the lookup fail. A location without a node can be stood in
only if it is a current directory that has been removed: nothing is found there, but the walk can
leave it.

Two questions are asked of a path. `resolve` asks for the node it names, through links to the
end; `locate` asks for the entry it names, so it does not follow a last link.
-/

namespace CompilerDriver.FileSystem

/-- How many links one lookup may follow. -/
def linkLimit : Nat := 40

/-- The longest name of an entry. -/
def nameLimit : Nat := 255

/-- The longest path, one byte less than a page. -/
def pathLimit : Nat := 4095

/-- Where a path starts if relative paths start at `directory`. -/
def startOf (directory : Location) (p : Path) : Location :=
  if p.isAbsolute then [] else directory

/-- Whether the walk may go on from a location: not from a file. -/
def canStandIn (fs : FileSystem) (l : Location) : Bool := (fs.get? l).all Node.isDirectory

/-- A walk along segments, with `follow` to take over at a link. -/
def walkBetweenLinks (fs : FileSystem) (follow : Location → List Bytes → Except OsError Location) :
    Location → List Bytes → Except OsError Location
  | l, [] => .ok l
  | l, s :: rest =>
    if !fs.canStandIn l then .error .notDirectory
    else if Path.IsIdle s then walkBetweenLinks fs follow l rest
    else if s = Path.upSegment then walkBetweenLinks fs follow l.tail rest
    else if (fs.get? l).isNone then .error .notFound
    else if nameLimit < s.length then .error .nameTooLong
    else match fs.get? (s :: l) with
      | none => .error .notFound
      | some (.link target) => follow (startOf l target) (target.segments ++ rest)
      | some _ => walkBetweenLinks fs follow (s :: l) rest

/-- A walk along segments that may follow so many links. -/
def walk (fs : FileSystem) : (links : Nat) → Location → List Bytes → Except OsError Location
  | 0 => walkBetweenLinks fs fun _ _ => .error .tooManyLinks
  | links + 1 => walkBetweenLinks fs (walk fs links)

/-- Whether the operating system takes a path at all. -/
def accept (p : Path) : Except Cause Unit :=
  if 0 ∈ p.bytes then .error .nulInPath
  else if p.bytes = [] then .error (.os .notFound)
  else if pathLimit < p.bytes.length then .error (.os .nameTooLong)
  else .ok ()

/-- The location that a path names, through links to the end. -/
def resolve (fs : FileSystem) (p : Path) : Except Cause Location := do
  accept p
  (walk fs linkLimit (startOf fs.cwd p) p.segments).mapError .os

/-- What a path ends in, before a last link is followed. -/
inductive Slot where
  /-- A name in a directory, and whether slashes come after it. -/
  | entry (directory : Location) (name : Bytes) (slashAfter : Bool)
  /-- A directory itself: the path is a root or ends in `.` or `..`. -/
  | whole
deriving DecidableEq, Repr

/-- What segments end in, from a location on. -/
def slotFrom (fs : FileSystem) (l : Location) (segments : List Bytes) : Except OsError Slot :=
  match segments.reverse.dropWhile fun s => s = [] with
  | [] => .ok .whole
  | last :: before => do
    let directory ← walk fs linkLimit l before.reverse
    if !fs.canStandIn directory then .error .notDirectory
    else if last = Path.hereSegment ∨ last = Path.upSegment then .ok .whole
    else if (fs.get? directory).isNone then .error .notFound
    else if nameLimit < last.length then .error .nameTooLong
    else .ok (.entry directory last (segments.getLast? = some []))

/-- What a path ends in. -/
def locate (fs : FileSystem) (p : Path) : Except Cause Slot := do
  accept p
  (slotFrom fs (startOf fs.cwd p) p.segments).mapError .os

/-- What a lookup finds at the location that it has come to. A location without a node is a current
directory that has been removed, and that is still a directory. -/
def found (fs : FileSystem) (l : Location) : Node := (fs.get? l).getD .directory

/-- The node that a path names, through links to the end. -/
def node? (fs : FileSystem) (p : Path) : Option Node :=
  (fs.resolve p).toOption.map fs.found

/-- Whether something stands at the end of a path, through links. -/
def isPresent (fs : FileSystem) (p : Path) : Bool := (fs.node? p).isSome

/-- Whether a path leads to a regular file. -/
def isFile (fs : FileSystem) (p : Path) : Bool := (fs.node? p).any Node.isFile

/-- Whether a path leads to a directory. -/
def isDirectory (fs : FileSystem) (p : Path) : Bool := (fs.node? p).any Node.isDirectory

/-- The location of the entry that a path names. A last link is not followed, unless slashes come
after it. -/
def locateEntry (fs : FileSystem) (p : Path) : Except Cause Location := do
  match ← fs.locate p with
  | .entry directory name false =>
    if (fs.get? (name :: directory)).isNone then .error (.os .notFound)
    else .ok (name :: directory)
  | .entry _ _ true | .whole => fs.resolve p

/-- The node of the entry that a path names. -/
def entryNode? (fs : FileSystem) (p : Path) : Option Node :=
  (fs.locateEntry p).toOption.map fs.found

/-- The location that a path names for writing: like `resolve`, but the last name, also the one a
last link ends in, need not be there yet. -/
def targetFrom (fs : FileSystem) : (links : Nat) → Location → List Bytes → Except OsError Location
  | links, l, segments =>
    match slotFrom fs l segments with
    | .error e => .error e
    | .ok .whole => .error .isDirectory
    | .ok (.entry directory name slashAfter) =>
      if slashAfter then .error .isDirectory
      else match fs.get? (name :: directory) with
        | some (.link target) =>
          match links with
          | 0 => .error .tooManyLinks
          | links + 1 => targetFrom fs links (startOf directory target) target.segments
        | some .directory => .error .isDirectory
        | _ => .ok (name :: directory)

/-- The location at which writing to a path would put a file. -/
def target (fs : FileSystem) (p : Path) : Except Cause Location := do
  accept p
  (targetFrom fs linkLimit (startOf fs.cwd p) p.segments).mapError .os

/-- The contents that reading a path gives. -/
def read (fs : FileSystem) (p : Path) : Except Cause Bytes := do
  match fs.found (← fs.resolve p) with
  | .file contents _ => .ok contents
  | .directory => .error (.os .isDirectory)
  | .link _ | .device _ => .ok []

end CompilerDriver.FileSystem
