import CompilerDriver.CommandLine.Reading
import CompilerDriver.FileSystem.Update
import CompilerDriver.Toolchain

/-!
# Machines

What processes share while they run: the files, the input that nobody has read yet, what has been
written to the output streams, the open files, and the pipes. A process reaches all this through its
descriptors, each of which stands for a stream.
-/

namespace CompilerDriver

/-- What a descriptor stands for. -/
inductive Stream where
  /-- The input of the whole run. -/
  | input
  /-- The output of the whole run. -/
  | output
  /-- The error output of the whole run. -/
  | errors
  /-- A device. -/
  | device (device : Device)
  /-- An open file. -/
  | opened (index : Nat)
  /-- One end of a pipe, with the bytes that have been written and not read yet. -/
  | pipe (index : Nat) (writing : Bool)
deriving DecidableEq, Repr

/-- A file that was opened: which one, and up to where it has been read or written. -/
structure OpenFile where
  /-- The file; none for a directory. -/
  file : Option FileId
  offset : Nat := 0
  reads : Bool := false
  writes : Bool := false
  /-- Whether writing goes to the end, wherever that is. -/
  appends : Bool := false
deriving DecidableEq, Repr

/-- How a path is opened. -/
inductive Access where
  | read
  /-- For reading and writing; the file is made if it is not there. -/
  | update
  /-- For writing, with the file made if it is not there, and emptied if it is. -/
  | write
  /-- For writing at the end. -/
  | append
deriving DecidableEq, Repr

/-- What running processes share. -/
structure Machine where
  files : FileSystem
  input : Bytes := []
  /-- What has been written to the streams of the run, latest first. -/
  written : List Piece := []
  opened : List OpenFile := []
  pipes : List Bytes := []
  /-- The number of the next process. -/
  nextProcess : Nat := 2
  /-- Signals that have been sent to processes which wait for another one, with their numbers. -/
  signals : List (Nat × Nat) := []

/-- The streams of a process by descriptor. -/
abbrev Descriptors := List (Nat × Stream)

namespace Descriptors

/-- The descriptors that a tool starts with. -/
def initial : Descriptors := [(0, .input), (1, .output), (2, .errors)]

/-- The stream of a descriptor, unless it is closed. -/
def stream? (d : Descriptors) (n : Nat) : Option Stream :=
  (d.find? fun e => e.1 = n).map (·.2)

/-- The descriptors without one of them. -/
def close (d : Descriptors) (n : Nat) : Descriptors := d.filter fun e => e.1 ≠ n

/-- The descriptors with one of them standing for a stream. -/
def assign (d : Descriptors) (n : Nat) (s : Stream) : Descriptors := (n, s) :: d.close n

end Descriptors

namespace Machine

/-- Bytes with others put over them at an offset; a gap is filled with zeros. -/
def overwrite (old : Bytes) (offset : Nat) (new : Bytes) : Bytes :=
  old.take offset ++ List.replicate (offset - old.length) 0 ++ new ++
    old.drop (offset + new.length)

/-- Writes bytes to a stream. -/
def put (m : Machine) (s : Stream) (bytes : Bytes) : Except OsError Machine :=
  if bytes = [] then .ok m
  else match s with
    | .input | .pipe _ false => .error .badDescriptor
    | .device .full => .error .noSpace
    | .device _ => .ok m
    | .output => .ok { m with written := .standardOutput bytes :: m.written }
    | .errors => .ok { m with written := .standardError bytes :: m.written }
    | .pipe index true => .ok { m with pipes := m.pipes.modify index (· ++ bytes) }
    | .opened index =>
      match m.opened[index]? with
      | some { file := some id, offset, writes := true, appends, reads } =>
        let old := m.files.file id
        let start := if appends then old.contents.length else offset
        .ok { m with
          files := m.files.store id { old with contents := overwrite old.contents start bytes }
          opened := m.opened.set index
            { file := some id, offset := start + bytes.length, writes := true, appends, reads } }
      | _ => .error .badDescriptor

/-- Writes bytes to a descriptor. -/
def write (m : Machine) (d : Descriptors) (n : Nat) (bytes : Bytes) : Except OsError Machine :=
  if bytes = [] then .ok m
  else match d.stream? n with
    | some s => m.put s bytes
    | none => .error .badDescriptor

/-- Writes bytes to a descriptor if that is possible. -/
def tell (m : Machine) (d : Descriptors) (n : Nat) (bytes : Bytes) : Machine :=
  (m.write d n bytes).toOption.getD m

/-- What can still be read from a stream. Of zeros there is no end; `wanted` of them are given. -/
def available (m : Machine) (wanted : Nat) : Stream → Except OsError Bytes
  | .input => .ok m.input
  | .pipe index false => .ok ((m.pipes[index]?).getD [])
  | .device .null => .ok []
  | .device _ => .ok (List.replicate wanted 0)
  | .opened index =>
    match m.opened[index]? with
    | some { file := some id, offset, reads := true, .. } =>
      .ok ((m.files.file id).contents.drop offset)
    | some { file := none, .. } => .error .isDirectory
    | _ => .error .badDescriptor
  | .output | .errors | .pipe _ true => .error .badDescriptor

/-- The machine after so many bytes have been read from a stream. -/
def consume (m : Machine) (s : Stream) (n : Nat) : Machine :=
  match s with
  | .input => { m with input := m.input.drop n }
  | .pipe index _ => { m with pipes := m.pipes.modify index (·.drop n) }
  | .opened index =>
    { m with opened := m.opened.modify index fun file => { file with offset := file.offset + n } }
  | .output | .errors | .device _ => m

/-- Reads at most so many bytes from a descriptor. -/
def read (m : Machine) (d : Descriptors) (n wanted : Nat) : Except OsError (Bytes × Machine) := do
  match d.stream? n with
  | some s =>
    let bytes := (← m.available wanted s).take wanted
    return (bytes, m.consume s bytes.length)
  | none => throw .badDescriptor

/-- More than any stream holds. -/
def unbounded : Nat := 1048576

/-- Reads everything that is left behind a descriptor. -/
def readRest (m : Machine) (d : Descriptors) (n : Nat) : Except OsError (Bytes × Machine) :=
  m.read d n unbounded

/-- Reads one line; tells whether it ended in a newline, which is not part of it. -/
def readLine (m : Machine) (d : Descriptors) (n : Nat) :
    Except OsError ((Bytes × Bool) × Machine) := do
  match d.stream? n with
  | none => throw .badDescriptor
  | some s =>
    let bytes ← m.available 0 s
    let line := bytes.takeWhile (· ≠ Bytes.newline)
    if line.length < bytes.length then return ((line, true), m.consume s (line.length + 1))
    else return ((line, false), m.consume s line.length)

/-! ## Opening -/

/-- A pipe added: its number. -/
def addPipe (m : Machine) : Nat × Machine :=
  (m.pipes.length, { m with pipes := m.pipes ++ [[]] })

/-- An open file added. -/
def addOpened (m : Machine) (file : OpenFile) : Stream × Machine :=
  (.opened m.opened.length, { m with opened := m.opened ++ [file] })

/-- A file opened by its number. -/
def openFile (m : Machine) (id : FileId) (access : Access) : Stream × Machine :=
  match access with
  | .read => m.addOpened { file := some id, reads := true }
  | .update => m.addOpened { file := some id, reads := true, writes := true }
  | .append => m.addOpened { file := some id, writes := true, appends := true }
  | .write =>
    let files := m.files.store id { m.files.file id with contents := [] }
    { m with files }.addOpened { file := some id, writes := true }

/-- What stands for a descriptor is opened once more: a file from its start, and anything else as
it is. -/
def reopen (m : Machine) (d : Descriptors) (n : Nat) (access : Access) :
    Except Cause (Stream × Machine) :=
  match d.stream? n with
  | none => .error (.os .notFound)
  | some (.opened index) =>
    match m.opened[index]? with
    | some { file := some id, .. } => .ok (m.openFile id access)
    | _ => .ok (.opened index, m)
  | some s => .ok (s, m)

/-- Opens a path. A directory can be opened for reading, but there is nothing to read in it. -/
def openPath (m : Machine) (d : Descriptors) (p : Path) (access : Access) :
    Except Cause (Stream × Machine) := do
  let l ← if access = .read then m.files.resolve p else m.files.target p
  match m.files.get? l, m.files.fileId? l with
  | some (.device (.descriptor n)), _ => m.reopen d n access
  | some (.device device), _ => return (.device device, m)
  | some (.file ..), some id => return m.openFile id access
  | none, _ =>
    if access = .read then return m.addOpened { file := none, reads := true }
    let m := { m with files := m.files.put l (.file [] .plain) }
    match m.files.fileId? l with
    | some id => return m.openFile id access
    | none => throw (.os .notFound)
  | _, _ => return m.addOpened { file := none, reads := true }

/-- The contents that a process reads at a path. A descriptor is read through. -/
def readPath (m : Machine) (d : Descriptors) (p : Path) : Except Cause (Bytes × Machine) := do
  let (stream, m) ← m.openPath d p .read
  (m.read [(0, stream)] 0 unbounded).mapError .os

end Machine

end CompilerDriver
