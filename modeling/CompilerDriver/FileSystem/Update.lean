import CompilerDriver.FileSystem.Lookup

/-!
# Changing a file system

Each change is one request to the operating system: it is done as a whole, or refused with a cause
and nothing changes. Making a directory with its parents is the one sequence of requests here, and
it keeps the part that was done.
-/

namespace CompilerDriver

/-- The path of the directory that a path's last component is in. -/
def Path.parent? (p : Path) : Option Path :=
  match p.leading with
  | _ :: directory =>
    match (Path.trimIdle directory).reverse with
    | [[]] => some ⟨[Bytes.slash]⟩
    | segments => some (Path.ofSegments segments)
  | [] => none

namespace FileSystem

/-- Removing one entry that is not a directory. A last link is removed itself. -/
def unlink (fs : FileSystem) (p : Path) : Except Cause FileSystem := do
  match ← fs.locate p with
  | .whole => .error (.os .isDirectory)
  | .entry directory name slashAfter =>
    match fs.get? (name :: directory) with
    | none => .error (.os .notFound)
    | some .directory => .error (.os .isDirectory)
    | some _ =>
      if slashAfter then .error (.os .notDirectory) else .ok (fs.erase (name :: directory))

/-- Writing a whole file: made if it is not there, cut short and filled if it is. A file that may
be executed stays so. -/
def write (fs : FileSystem) (p : Path) (contents : Bytes) (executable : Bool) :
    Except Cause FileSystem := do
  let l ← fs.target p
  let mode := if executable then Mode.executable else .plain
  match fs.get? l, fs.fileId? l with
  | some (.file _ was), some id =>
    .ok (fs.store id ⟨contents, if executable then .executable else was⟩)
  | some _, _ => .ok fs
  | none, _ => .ok (fs.put l (.file contents mode))

/-- Changing the mode of a file. A directory or a device takes the request and stays as it is. -/
def setMode (fs : FileSystem) (p : Path) (next : Mode → Mode) : Except Cause FileSystem := do
  let l ← fs.resolve p
  match fs.found l, fs.fileId? l with
  | .file contents mode, some id => .ok (fs.store id ⟨contents, next mode⟩)
  | _, _ => .ok fs

/-- Making one directory. -/
def makeDirectory (fs : FileSystem) (p : Path) : Except Cause FileSystem := do
  match ← fs.locate p with
  | .whole => .error (.os .alreadyExists)
  | .entry directory name _ =>
    match fs.get? (name :: directory) with
    | none => .ok (fs.put (name :: directory) .directory)
    | some _ => .error (.os .alreadyExists)

/-- Making a directory where its parent exists; one that is there already will do. -/
def ensureDirectory (fs : FileSystem) (p : Path) : Except Cause FileSystem :=
  match fs.makeDirectory p with
  | .error e => if fs.isDirectory p then .ok fs else .error e
  | done => done

/-- Making a directory and those above it that are missing, at most `depth` of them. -/
def ensureDirectories (p : Path) : (depth : Nat) → FileSystem → Except Cause Unit × FileSystem
  | 0, fs => (.error (.os .notFound), fs)
  | depth + 1, fs =>
    if p.bytes = [] then (.ok (), fs)
    else match fs.ensureDirectory p, p.parent? with
      | .ok fs, _ => (.ok (), fs)
      | .error (.os .notFound), some parent =>
        match ensureDirectories parent depth fs with
        | (.ok (), fs) =>
          match fs.ensureDirectory p with
          | .ok fs => (.ok (), fs)
          | .error e => (.error e, fs)
        | failed => failed
      | .error e, _ => (.error e, fs)

/-- Making a directory and those above it. -/
def makeDirectories (fs : FileSystem) (p : Path) : Except Cause Unit × FileSystem :=
  ensureDirectories p (p.segments.length + 1) fs

/-- Making a symbolic link. -/
def link (fs : FileSystem) (p target : Path) : Except Cause FileSystem := do
  accept target
  match ← fs.locate p with
  | .whole => .error (.os .alreadyExists)
  | .entry directory name slashAfter =>
    match fs.get? (name :: directory) with
    | some _ => .error (.os .alreadyExists)
    | none =>
      if slashAfter then .error (.os .notFound)
      else .ok (fs.put (name :: directory) (.link target))

/-- Giving a file, or a link, a further name. -/
def addName (fs : FileSystem) (p target : Path) : Except Cause FileSystem := do
  let l ← fs.locateEntry p
  match ← fs.locate target with
  | .whole => .error (.os .alreadyExists)
  | .entry directory name slashAfter =>
    match fs.entryAt? l, fs.get? (name :: directory) with
    | _, some _ => .error (.os .alreadyExists)
    | some .directory, none | none, none => .error (.os .notPermitted)
    | some entry, none =>
      if slashAfter then .error (.os .notFound) else .ok (fs.enroll (name :: directory) entry)

/-- Whether nothing lies inside a location. -/
def isEmpty (fs : FileSystem) (l : Location) : Bool :=
  fs.entries.all fun e => e.1 = l || !isWithin l e.1

/-- Moving an entry. A file or a link replaces one; a directory replaces an empty one; nothing
moves into itself, and nothing moves between two names of one file. -/
def rename (fs : FileSystem) (source target : Path) : Except Cause FileSystem := do
  match ← fs.locate source, ← fs.locate target with
  | .entry sourceDirectory sourceName sourceSlash,
    .entry targetDirectory targetName targetSlash =>
    let old := sourceName :: sourceDirectory
    let new := targetName :: targetDirectory
    match fs.get? old, fs.get? new with
    | none, _ => .error (.os .notFound)
    | some moved, replaced =>
      if !moved.isDirectory && (sourceSlash || targetSlash) then .error (.os .notDirectory)
      else if old = new then .ok fs
      else if isWithin old new then .error (.os .invalidArgument)
      else if isWithin new old then .error (.os .notEmpty)
      else match replaced with
        | none => .ok (fs.move old new)
        | some .directory =>
          if !moved.isDirectory then .error (.os .isDirectory)
          else if fs.isEmpty new then .ok (fs.move old new)
          else .error (.os .notEmpty)
        | some _ =>
          if moved.isDirectory then .error (.os .notDirectory)
          else if (fs.fileId? old).isSome && fs.fileId? old = fs.fileId? new then .ok fs
          else .ok (fs.move old new)
  | _, _ => .error (.os .busy)

/-- Copying a file's contents and mode, through links on both sides. The target is emptied before
the source is read, so a file copied onto itself is empty. -/
def copy (fs : FileSystem) (source target : Path) : Except Cause FileSystem := do
  let origin ← fs.resolve source
  match fs.found origin with
  | .file contents mode =>
    let place ← fs.target target
    match fs.get? place, fs.fileId? place with
    | some _, some id =>
      .ok (fs.store id ⟨if fs.fileId? origin = some id then [] else contents, mode⟩)
    | some _, none => .ok fs
    | none, _ => .ok (fs.put place (.file contents mode))
  | _ => .error (.os .invalidArgument)

/-- Removing one empty directory. -/
def removeDirectory (fs : FileSystem) (p : Path) : Except Cause FileSystem := do
  match ← fs.locate p with
  | .whole =>
    let last := p.segments.reverse.find? fun s => s ≠ []
    if last = some Path.hereSegment then .error (.os .invalidArgument)
    else if last = some Path.upSegment then .error (.os .notEmpty)
    else .error (.os .busy)
  | .entry directory name _ =>
    match fs.get? (name :: directory) with
    | none => .error (.os .notFound)
    | some .directory =>
      if fs.isEmpty (name :: directory) then .ok (fs.prune (name :: directory))
      else .error (.os .notEmpty)
    | some _ => .error (.os .notDirectory)

/-- The file system without anything inside a location. -/
def clear (fs : FileSystem) (l : Location) : FileSystem :=
  let inside := fs.entries.filter fun e => e.1.tail = l && e.1 ≠ []
  inside.foldl (fun fs e => fs.prune e.1) fs

/-- Removing an entry with all it holds. A directory is emptied first, and stays empty if it cannot
be removed itself. -/
def remove (fs : FileSystem) (p : Path) : Except Cause Unit × FileSystem :=
  match fs.locateEntry p with
  | .error e => (.error e, fs)
  | .ok l =>
    if (fs.found l).isDirectory then
      let cleared := fs.clear l
      match cleared.removeDirectory p with
      | .ok fs => (.ok (), fs)
      | .error (.os .notFound) => (.ok (), cleared)
      | .error e => (.error e, cleared)
    else match fs.unlink p with
      | .ok fs => (.ok (), fs)
      | .error e => (.error e, fs)

/-- Changing the current directory. -/
def enter (fs : FileSystem) (p : Path) : Except Cause FileSystem := do
  let l ← fs.resolve p
  match fs.found l with
  | .directory => .ok { fs with cwd := l }
  | _ => .error (.os .notDirectory)

end FileSystem

end CompilerDriver
