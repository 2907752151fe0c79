import CompilerDriver.FileSystem.Lookup
import CompilerDriver.Text.ByteSet

/-!
# Patterns of the shell

A pattern is a byte string in which `*` stands for anything, `?` for any one byte and `[…]` for
one byte of a set. Quoted bytes stand for themselves. A pattern fits a string as a whole; trimming
looks for the shortest or longest end or start that it fits, and a word that is a pattern stands for
the paths that it fits.
-/

namespace CompilerDriver.Shell

/-- One place of a pattern. -/
inductive Place where
  /-- Any string. -/
  | star
  /-- Any byte. -/
  | any
  | byte (b : UInt8)
  /-- A byte of a set. -/
  | set (bytes : Text.ByteSet)
deriving DecidableEq, Repr

/-- A pattern, place by place. -/
abbrev Pattern := List Place

/-- The class that a text names right after an open bracket, as in `:alpha:]`, and the length of
that text. -/
def classAt? (text : Bytes) : Option (List (UInt8 × UInt8) × Nat) :=
  Text.ByteSet.classes.findSome? fun (name, ranges) =>
    let written := Bytes.ofString (":" ++ name ++ ":]")
    if written.isPrefixOf text then some (ranges, written.length) else none

namespace Pattern

/-- Whether a byte closes a set. Right at the start a `]` is a member. -/
def closes (first : Bool) (b : UInt8 × Bool) : Bool := b.1 = 0x5d && !b.2 && !first

/-- The ranges between brackets, and what comes after them. `fuel` is at least the number of
bytes. -/
def readRanges : (fuel : Nat) → (first : Bool) → List (UInt8 × Bool) →
    (seen : List (UInt8 × UInt8)) → Option (List (UInt8 × UInt8) × List (UInt8 × Bool))
  | 0, _, _, _ => none
  | _, _, [], _ => none
  | fuel + 1, first, b :: rest, seen =>
    if closes first b then some (seen.reverse, rest)
    else match if b = (0x5b, false) then classAt? (rest.map (·.1)) else none with
      | some (ranges, length) => readRanges fuel false (rest.drop length) (ranges ++ seen)
      | none =>
        match rest with
        | dash :: c :: more =>
          if dash = (Bytes.dash, false) && !closes false c then
            readRanges fuel false more ((b.1, c.1) :: seen)
          else readRanges fuel false rest ((b.1, b.1) :: seen)
        | _ => readRanges fuel false rest ((b.1, b.1) :: seen)

/-- The set that starts after an open bracket, and what comes after it. -/
def readSet (text : List (UInt8 × Bool)) : Option (Place × List (UInt8 × Bool)) :=
  let (negated, ranges) := match text with
    | (b, false) :: rest => if b = 0x21 || b = 0x5e then (true, rest) else (false, text)
    | _ => (false, text)
  (readRanges (ranges.length + 1) true ranges []).map fun (ranges, more) =>
    (.set { ranges, negated }, more)

/-- The pattern of bytes that are each quoted or not. A bracket that is not closed stands for
itself. `fuel` is at least the number of bytes. -/
def readWithin : (fuel : Nat) → List (UInt8 × Bool) → Pattern
  | 0, _ => []
  | _, [] => []
  | fuel + 1, (b, quoted) :: rest =>
    if quoted then .byte b :: readWithin fuel rest
    else if b = 0x2a then .star :: readWithin fuel rest
    else if b = 0x3f then .any :: readWithin fuel rest
    else if b = 0x5b then
      match readSet rest with
      | some (place, more) => place :: readWithin fuel more
      | none => .byte b :: readWithin fuel rest
    else if b = 0x5c then
      match rest with
      | (c, _) :: more => .byte c :: readWithin fuel more
      | [] => [.byte b]
    else .byte b :: readWithin fuel rest

/-- The pattern of bytes that are each quoted or not. -/
def ofBytes (text : List (UInt8 × Bool)) : Pattern := readWithin text.length text

/-- Whether one place fits one byte. -/
def fitsByte : Place → UInt8 → Bool
  | .star, _ => true
  | .any, _ => true
  | .byte b, c => b = c
  | .set bytes, c => bytes.holds false c

/-- Whether a pattern fits a whole string. -/
def fits : Pattern → Bytes → Bool
  | [], [] => true
  | [], _ :: _ => false
  | .star :: places, [] => fits places []
  | .star :: places, c :: s => fits places (c :: s) || fits (.star :: places) s
  | _ :: _, [] => false
  | place :: places, c :: s => fitsByte place c && fits places s
termination_by places s => places.length + s.length

/-- A string without its shortest or longest end that a pattern fits; as it is if there is none. -/
def trimEnd (pattern : Pattern) (longest : Bool) (s : Bytes) : Bytes :=
  let lengths := List.range (s.length + 1)
  let candidates := if longest then lengths else lengths.reverse
  match candidates.find? fun n => fits pattern (s.drop n) with
  | some n => s.take n
  | none => s

/-- A string without its shortest or longest start that a pattern fits; as it is if there is
none. -/
def trimStart (pattern : Pattern) (longest : Bool) (s : Bytes) : Bytes :=
  let lengths := List.range (s.length + 1)
  let candidates := if longest then lengths.reverse else lengths
  match candidates.find? fun n => fits pattern (s.take n) with
  | some n => s.drop n
  | none => s

/-! ## Paths -/

/-- The string that is the only one a pattern fits, if no place leaves a choice. -/
def literal? (pattern : Pattern) : Option Bytes :=
  pattern.mapM fun
    | .byte b => some b
    | _ => none

/-- A pattern cut at its slashes. -/
def segments : Pattern → List Pattern
  | [] => [[]]
  | place :: rest =>
    match segments rest with
    | first :: others =>
      if place = .byte Bytes.slash then [] :: first :: others else (place :: first) :: others
    | [] => [[place]]

/-- The names in the directory at a path that a pattern fits. A name that starts with a dot has to
be fitted by a dot at the front. -/
def namesIn (fs : FileSystem) (directory : Path) (pattern : Pattern) : List Bytes :=
  match fs.resolve directory with
  | .error _ => []
  | .ok l =>
    let names := fs.entries.filterMap fun e =>
      match e.1 with
      | name :: parent => if parent = l then some name else none
      | [] => none
    (Path.hereSegment :: Path.upSegment :: names).filter fun name =>
      (name.head? ≠ some Bytes.dot || pattern.head? = some (.byte Bytes.dot)) && fits pattern name

/-- The paths that begin with a text and go on as the segments of a pattern say. -/
def pathsFrom (fs : FileSystem) : (start : Bytes) → List Pattern → List Bytes
  | start, [] => if (fs.entryNode? ⟨start⟩).isSome then [start] else []
  | start, segment :: rest =>
    let step := fun (name : Bytes) =>
      if rest.isEmpty then start ++ name else start ++ name ++ [Bytes.slash]
    match literal? segment with
    | some name => pathsFrom fs (step name) rest
    | none =>
      let directory := if start = [] then Path.hereSegment else start
      (namesIn fs ⟨directory⟩ segment).flatMap fun name => pathsFrom fs (step name) rest

/-- The paths that a pattern fits, in the order of their bytes. A pattern that leaves no choice
stands for nothing. -/
def paths (fs : FileSystem) (pattern : Pattern) : List Bytes :=
  if (literal? pattern).isSome then []
  else (pathsFrom fs [] (segments pattern)).mergeSort fun a b => a.precedes b

end Pattern

end CompilerDriver.Shell
