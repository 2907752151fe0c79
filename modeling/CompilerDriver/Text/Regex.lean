import CompilerDriver.Text.ByteSet

/-!
# Regular expressions

What a regular expression is and where it fits. Of all the places in a text where an expression
fits, the first counts, and there the longest stretch; inside it each part in turn takes as much as
it can. The ends of a part are followed as a list without repetitions, the furthest first, so the
work stays within bounds for every expression.
-/

namespace CompilerDriver.Text

/-- A place between two bytes. -/
inductive Place where
  /-- The start of the text, or of a line in it if lines count. -/
  | lineStart
  | lineEnd
  | textStart
  | textEnd
  | wordStart
  | wordEnd
  | wordEdge
  | noWordEdge
  /-- No byte of a word stands before. -/
  | noWordBefore
  /-- No byte of a word stands behind. -/
  | noWordBehind
deriving DecidableEq, Repr

/-- A regular expression. -/
inductive Regex where
  | empty
  | one (set : ByteSet)
  | place (place : Place)
  | sequence (first second : Regex)
  | either (first second : Regex)
  | repeated (body : Regex) (least : Nat) (most : Option Nat)
  /-- A part whose stretch is remembered under a number. -/
  | group (number : Nat) (body : Regex)
  /-- What the group of that number has been. -/
  | again (number : Nat)
deriving Repr

namespace Regex

/-- How texts are looked at. -/
structure Manner where
  /-- Whether cases of letters do not count. -/
  anyCase : Bool := false
  /-- Whether every line has a start and an end, and not only the text. -/
  byLines : Bool := false
deriving DecidableEq, Repr

/-- How far the matching of a text has come. -/
structure Spot where
  position : Nat
  /-- What comes from here on. -/
  rest : Bytes
  /-- The byte before. -/
  before : Option UInt8
  /-- The stretches of the groups, as start and end, the latest first. -/
  groups : List (Nat × (Nat × Nat)) := []
deriving DecidableEq, Repr

namespace Spot

/-- The stretch of a group. -/
def group? (s : Spot) (number : Nat) : Option (Nat × Nat) :=
  (s.groups.find? fun g => g.1 = number).map (·.2)

/-- The spot with the stretch of a group set. -/
def withGroup (s : Spot) (number start : Nat) : Spot :=
  { s with groups := (number, (start, s.position)) :: s.groups.filter fun g => g.1 ≠ number }

/-- The spot so many bytes further on. -/
def forward (s : Spot) (n : Nat) : Spot :=
  { s with
    position := s.position + n
    rest := s.rest.drop n
    before := if n = 0 then s.before else s.rest[n - 1]? }

/-- Whether a byte of a word stands before, and one behind. -/
def wordSides (s : Spot) : Bool × Bool :=
  (s.before.any (ByteSet.word.holds false), s.rest.head?.any (ByteSet.word.holds false))

/-- Whether a spot is at a place. -/
def isAt (m : Manner) (s : Spot) : Place → Bool
  | .textStart => s.before.isNone
  | .textEnd => s.rest.isEmpty
  | .lineStart => s.before.isNone || m.byLines && s.before = some Bytes.newline
  | .lineEnd => s.rest.isEmpty || m.byLines && s.rest.head? = some Bytes.newline
  | .wordStart => s.wordSides = (false, true)
  | .wordEnd => s.wordSides = (true, false)
  | .wordEdge => s.wordSides.1 != s.wordSides.2
  | .noWordEdge => s.wordSides.1 == s.wordSides.2
  | .noWordBefore => !s.wordSides.1
  | .noWordBehind => !s.wordSides.2

/-- Spots without those that are at the position of one before. -/
def distinct (spots : List Spot) : List Spot :=
  spots.foldr (fun s rest => s :: rest.filter fun t => t.position ≠ s.position) []

/-- Spots in order, the furthest first, with one for each position. -/
def ordered (spots : List Spot) : List Spot :=
  match spots with
  | [] => []
  | [s] => [s]
  | _ => distinct (spots.mergeSort fun s t => t.position ≤ s.position)

end Spot

/-- All spots that some rounds of a step lead to. With each round the rounds that are still needed
become fewer; a round that goes nowhere is the last one. -/
def rounds (step : Spot → List Spot) : (limit least : Nat) → List Spot → List Spot
  | 0, least, spots => if least = 0 then spots else []
  | limit + 1, least, spots =>
    if spots.isEmpty then []
    else
      let further := spots.flatMap fun s =>
        (step s).filter fun t => least ≠ 0 || t.position ≠ s.position
      let rest := rounds step limit (least - 1) (Spot.ordered further)
      if least = 0 then spots ++ rest else rest

/-- Whether two texts are the same, or differ in the cases of letters only. -/
def sameText (m : Manner) (a b : Bytes) : Bool :=
  if m.anyCase then a.map Bytes.lower = b.map Bytes.lower else a = b

/-- Where an expression can end that starts at a spot of a text, the furthest first. -/
def ends (m : Manner) (text : Bytes) : Regex → Spot → List Spot
  | empty, s => [s]
  | one set, s =>
    match s.rest with
    | b :: _ => if set.holds m.anyCase b then [s.forward 1] else []
    | [] => []
  | place p, s => if s.isAt m p then [s] else []
  | sequence a b, s => Spot.ordered ((ends m text a s).flatMap (ends m text b))
  | either a b, s => Spot.ordered (ends m text a s ++ ends m text b s)
  | repeated a least most, s =>
    Spot.ordered (rounds (ends m text a) (most.getD (least + s.rest.length + 1)) least [s])
  | group n a, s => (ends m text a s).map fun t => t.withGroup n s.position
  | again n, s =>
    match s.group? n with
    | some (start, stop) =>
      let part := (text.take stop).drop start
      if sameText m (s.rest.take part.length) part then [s.forward part.length] else []
    | none => []

/-- A stretch that an expression fits. -/
structure Found where
  start : Nat
  stop : Nat
  groups : List (Nat × (Nat × Nat)) := []
deriving DecidableEq, Repr

/-- The first stretch that an expression fits, from some position on. -/
def findFrom (m : Manner) (r : Regex) (text : Bytes) (start : Nat) : Option Found :=
  let rec go (position : Nat) (before : Option UInt8) : Bytes → Option Found
    | [] => attempt position before []
    | b :: rest =>
      (attempt position before (b :: rest)).orElse fun _ => go (position + 1) (some b) rest
  go start (if start = 0 then none else text[start - 1]?) (text.drop start)
where
  attempt (position : Nat) (before : Option UInt8) (rest : Bytes) : Option Found :=
    ((ends m text r { position, rest, before }).head?).map fun s =>
      { start := position, stop := s.position, groups := s.groups }

/-- Whether an expression fits somewhere in a text. -/
def fits (m : Manner) (r : Regex) (text : Bytes) : Bool := (findFrom m r text 0).isSome

/-- The part of a text in a stretch. -/
def Found.text (f : Found) (text : Bytes) : Bytes := (text.take f.stop).drop f.start

/-- What a group has been. Nothing, if it has no part in it. -/
def Found.groupText (f : Found) (text : Bytes) (number : Nat) : Bytes :=
  if number = 0 then f.text text
  else match (f.groups.find? fun g => g.1 = number).map (·.2) with
    | some (start, stop) => (text.take stop).drop start
    | none => []

/-- All stretches that an expression fits, one behind the other. An empty one right behind another
does not count. `fuel` is more than the length of the text. -/
def findAll (m : Manner) (r : Regex) (text : Bytes) : (fuel start : Nat) → (last : Option Nat) →
    List Found
  | 0, _, _ => []
  | fuel + 1, start, last =>
    match findFrom m r text start with
    | none => []
    | some f =>
      if f.start = f.stop then
        let rest := if f.stop < text.length then findAll m r text fuel (f.stop + 1) last else []
        if last = some f.start then rest else f :: rest
      else f :: findAll m r text fuel f.stop (some f.stop)

end Regex

end CompilerDriver.Text
