import CompilerDriver.Text.Utf8

/-!
# Paths

A path is a byte string cut into segments by slashes. What it names depends only on its
components: empty segments and a `.` count for nothing, except that a leading slash makes the path
absolute and a leading `.` is kept as "here". Replacing the file name keeps the text of the
directory, less the ignored segments right before the name.
-/

namespace CompilerDriver

/-- A path as it was written. -/
structure Path where
  bytes : Bytes
deriving DecidableEq, Repr

namespace Path

/-- What a path goes through, in order. -/
inductive Component where
  /-- The root directory, at the front of an absolute path. -/
  | root
  /-- The current directory, at the front of a path that starts with `.`. -/
  | here
  /-- The parent directory. -/
  | up
  /-- The entry of that name. -/
  | name (name : Bytes)
deriving DecidableEq, Repr

/-- The path written as a text. -/
def ofString (s : String) : Path := ⟨Bytes.ofString s⟩

/-- The path as messages show it. -/
def display (p : Path) : String := Text.Utf8.display p.bytes

/-- The texts between the slashes. -/
def segments (p : Path) : List Bytes := Bytes.pieces Bytes.slash p.bytes

/-- The path whose segments these are. -/
def ofSegments (segments : List Bytes) : Path := ⟨Bytes.join Bytes.slash segments⟩

/-- The segment that stands for the current directory. -/
def hereSegment : Bytes := [Bytes.dot]

/-- The segment that stands for the parent directory. -/
def upSegment : Bytes := [Bytes.dot, Bytes.dot]

/-- A segment that leads nowhere: an empty one or a `.`. -/
def IsIdle (segment : Bytes) : Prop := segment = [] ∨ segment = hereSegment

instance (segment : Bytes) : Decidable (IsIdle segment) :=
  inferInstanceAs (Decidable (_ ∨ _))

/-- An absolute path starts with a slash. -/
def isAbsolute (p : Path) : Bool := p.bytes.head? = some Bytes.slash

/-- The component of one segment, if it is not idle. -/
def componentOf? (segment : Bytes) : Option Component :=
  if IsIdle segment then none
  else if segment = upSegment then some .up
  else some (.name segment)

/-- The components of a path. -/
def components (p : Path) : List Component :=
  match p.segments with
  | first :: second :: rest =>
    if first = [] then .root :: (second :: rest).filterMap componentOf?
    else if first = hereSegment then .here :: (second :: rest).filterMap componentOf?
    else (first :: second :: rest).filterMap componentOf?
  | [only] => if only = hereSegment then [.here] else [only].filterMap componentOf?
  | [] => []

/-! ## The file name -/

/-- The segments up to the last one that is not idle, last one first. -/
def leading (p : Path) : List Bytes := p.segments.reverse.dropWhile fun s => IsIdle s

/-- The name of the entry that the path ends in; none for a root, a `.` alone or a `..`. -/
def fileName? (p : Path) : Option Bytes :=
  match p.leading with
  | name :: _ => if name = upSegment then none else some name
  | [] => none

/-- The segments of a directory, last one first, without the idle ones at its end. The first
segment of all stays: it tells an absolute path from a relative one. -/
def trimIdle : List Bytes → List Bytes
  | [] => []
  | [first] => [first]
  | s :: rest => if IsIdle s then trimIdle rest else s :: rest

/-- The path one step below. -/
def child (p : Path) (name : Bytes) : Path :=
  if p.bytes = [] then ⟨name⟩
  else if p.bytes.getLast? = some Bytes.slash then ⟨p.bytes ++ name⟩
  else ⟨p.bytes ++ Bytes.slash :: name⟩

/-- The path with its file name replaced; a path without one is extended instead. -/
def withFileName (p : Path) (name : Bytes) : Path :=
  match p.fileName?, p.leading with
  | some _, _ :: directory => ofSegments ((name :: trimIdle directory).reverse)
  | _, _ => p.child name

/-- A name up to its last dot; a name whose only dot comes first is all stem. -/
def stemOf (name : Bytes) : Bytes :=
  match name.reverse.dropWhile fun b => b ≠ Bytes.dot with
  | _ :: front => if front = [] then name else front.reverse
  | [] => name

/-- The path with the extension of its file name replaced, or added; a path without a file name
stays as it is. -/
def withExtension (p : Path) (extension : Bytes) : Path :=
  match p.fileName?, p.leading with
  | some name, _ :: directory =>
    ofSegments (((stemOf name ++ Bytes.dot :: extension) :: directory).reverse)
  | _, _ => p

/-- The path with `./` in front if it starts with a name, so that it cannot be taken for anything
but a path. -/
def anchored (p : Path) : Path :=
  match p.components.head? with
  | some (.name _) => ⟨Bytes.dot :: Bytes.slash :: p.bytes⟩
  | _ => p

/-! ## Small facts -/

/-- A path is its segments with slashes between them. -/
theorem ofSegments_segments (p : Path) : ofSegments p.segments = p := by
  simp [ofSegments, segments, Bytes.join_pieces]

theorem segments_ne_nil (p : Path) : p.segments ≠ [] := Bytes.pieces_ne_nil _ _

/-- No segment holds a slash. -/
theorem slash_not_mem {p : Path} {s : Bytes} (h : s ∈ p.segments) : Bytes.slash ∉ s :=
  Bytes.not_mem_of_mem_pieces h

/-- Slashes and dots right before the file name are dropped with it; the text before them stays. -/
example : (ofString "dir/.././/foo.c").withFileName (Bytes.ofString "foo")
    = ofString "dir/../foo" := by decide

example : (ofString "//foo.c").withFileName (Bytes.ofString "foo") = ofString "/foo" := by decide

example : (ofString "sub/foo.c").anchored = ofString "./sub/foo.c" := by decide

end Path

end CompilerDriver
