import CompilerDriver.Text.Regex

/-!
# Reading regular expressions

The two ways in which regular expressions are written. In the basic one a bracket, a brace, a bar, a
plus and a question mark are operators with a backslash in front; in the extended one they are
operators without. A text is first cut into tokens, and the tokens are put together with a stack of
open groups.
-/

namespace CompilerDriver.Text.Regex

/-- What can be wrong with a written expression. -/
inductive Fault where
  | openSet
  | openGroup
  | strayClosing
  | openCount
  | wrongCount
  | largeCount
  | wrongRange
  | wrongClass
  | nothingToRepeat
  | wrongGroup
  | trailingBackslash
deriving DecidableEq, Repr

/-- What is said about it. -/
def Fault.message : Fault → String
  | openSet => "Unmatched [, [^, [:, [., or [="
  | openGroup => "Unmatched ( or \\("
  | strayClosing => "Unmatched ) or \\)"
  | openCount => "Unmatched \\\x7b"
  | wrongCount => "Invalid content of \\\x7b\\\x7d"
  | largeCount => "Regular expression too big"
  | wrongRange => "Invalid range end"
  | wrongClass => "Invalid character class name"
  | nothingToRepeat => "Invalid preceding regular expression"
  | wrongGroup => "Invalid back reference"
  | trailingBackslash => "Trailing backslash"

/-- A part of a written expression. -/
inductive Token where
  | piece (r : Regex)
  | opening
  | closing
  | bar
  | repetition (least : Nat) (most : Option Nat)
deriving Repr

/-! ## Sets -/

/-- What stands between a sign and the same sign before a closing bracket, and what comes after. -/
def delimited? (sign : UInt8) : Bytes → Option (Bytes × Bytes)
  | [] => none
  | [_] => none
  | b :: c :: rest =>
    if b = sign && c = 0x5d then some ([], rest)
    else (delimited? sign (c :: rest)).map fun (name, rest) => (b :: name, rest)

/-- One end of a range, and what comes after. -/
def endOfRange : Bytes → Except Fault (UInt8 × Bytes)
  | 0x5b :: sign :: rest =>
    if sign = 0x2e || sign = 0x3d then
      match delimited? sign rest with
      | some ([b], rest) => .ok (b, rest)
      | some _ => .error .wrongRange
      | none => .error .openSet
    else .ok (0x5b, sign :: rest)
  | b :: rest => .ok (b, rest)
  | [] => .error .openSet

/-- The ranges of a set up to its closing bracket, and what comes after. A closing bracket at the
start is one of the bytes. `fuel` is more than the length. -/
def setRanges : (fuel : Nat) → (isFirst : Bool) → Bytes →
    Except Fault (List (UInt8 × UInt8) × Bytes)
  | 0, _, _ => .error .openSet
  | fuel + 1, isFirst, text => do
    match text with
    | [] => throw .openSet
    | b :: rest =>
      if b = 0x5d && !isFirst then return ([], rest)
      if b = 0x5b && rest.head? = some 0x3a then
        match delimited? 0x3a rest.tail with
        | none => throw .openSet
        | some (name, rest) =>
          match ByteSet.class? name with
          | none => throw .wrongClass
          | some ranges =>
            let (more, rest) ← setRanges fuel false rest
            return (ranges ++ more, rest)
      let (low, rest) ← endOfRange (b :: rest)
      let (high, rest) ← match rest with
        | 0x2d :: next :: after =>
          if next = 0x5d then pure (low, rest) else endOfRange (next :: after)
        | _ => pure (low, rest)
      if high < low then throw .wrongRange
      let (more, rest) ← setRanges fuel false rest
      return ((low, high) :: more, rest)

/-- A set behind its opening bracket, and what comes after. -/
def readSet (text : Bytes) : Except Fault (ByteSet × Bytes) := do
  let (negated, text) := match text with
    | 0x5e :: rest => (true, rest)
    | _ => (false, text)
  let (ranges, rest) ← setRanges (text.length + 1) true text
  return ({ ranges, negated }, rest)

/-! ## Tokens -/

/-- The largest count of a repetition. -/
def countLimit : Nat := 32767

/-- The counts of a repetition behind its opening brace, and what comes after. -/
def readCounts (extended : Bool) (text : Bytes) : Except Fault (Token × Bytes) := do
  let digits := text.takeWhile Bytes.isDigit
  let rest := text.drop digits.length
  let least := Bytes.ofDigits digits
  let (most, rest) : Option Nat × Bytes := match rest with
    | 0x2c :: rest =>
      let upper := rest.takeWhile Bytes.isDigit
      (if upper = [] then none else some (Bytes.ofDigits upper), rest.drop upper.length)
    | rest => (some least, rest)
  if digits = [] && (text.head? ≠ some 0x2c) then
    throw (if text = [] then .openCount else .wrongCount)
  let rest ← match extended, rest with
    | true, 0x7d :: rest => pure rest
    | false, 0x5c :: 0x7d :: rest => pure rest
    | _, [] => throw .openCount
    | _, _ => throw .wrongCount
  if most.any (· < least) then throw .wrongCount
  if countLimit < least || most.any (countLimit < ·) then throw .largeCount
  return (.repetition least most, rest)

/-- What a letter behind a backslash means in both ways of writing. -/
def escaped? (letter : UInt8) : Option Regex :=
  if letter = 0x77 then some (.one .word)
  else if letter = 0x57 then some (.one ByteSet.word.opposite)
  else if letter = 0x73 then some (.one .space)
  else if letter = 0x53 then some (.one ByteSet.space.opposite)
  else if letter = 0x3c then some (.place .wordStart)
  else if letter = 0x3e then some (.place .wordEnd)
  else if letter = 0x62 then some (.place .wordEdge)
  else if letter = 0x42 then some (.place .noWordEdge)
  else if letter = 0x60 then some (.place .textStart)
  else if letter = 0x27 then some (.place .textEnd)
  else if 0x31 ≤ letter && letter ≤ 0x39 then some (.again (letter.toNat - 0x30))
  else none

/-- The byte that stands for itself. -/
def literal (b : UInt8) : Token := .piece (.one (.single b))

/-- An operator, which stands behind a backslash in a basic expression. -/
def operator? (extended : Bool) (b : UInt8) (rest : Bytes) : Except Fault (Option (Token × Bytes)) :=
  if b = 0x28 then .ok (some (.opening, rest))
  else if b = 0x29 then .ok (some (.closing, rest))
  else if b = 0x7c then .ok (some (.bar, rest))
  else if b = 0x2b then .ok (some (.repetition 1 none, rest))
  else if b = 0x3f then .ok (some (.repetition 0 (some 1), rest))
  else if b = 0x7b then (readCounts extended rest).map some
  else .ok none

/-- Whether an operator comes next that ends a part of a basic expression. -/
def endsPart (rest : Bytes) : Bool :=
  rest = [] || (Bytes.ofString "\\)").isPrefixOf rest || (Bytes.ofString "\\|").isPrefixOf rest

/-- The next token, and what comes after. At the start of a part nothing can be repeated. -/
def nextToken (extended atStart : Bool) (b : UInt8) (rest : Bytes) :
    Except Fault (Token × Bytes) := do
  if b = 0x5c then
    match rest with
    | [] => throw .trailingBackslash
    | letter :: rest =>
      unless extended do
        let isRepetition := letter = 0x2b || letter = 0x3f
        if let some found ← operator? false letter rest then
          unless isRepetition && atStart do return found
      return ((escaped? letter).elim (literal letter) .piece, rest)
  if b = 0x5b then
    let (set, rest) ← readSet rest
    return (.piece (.one set), rest)
  if b = 0x2e then return (.piece (.one .all), rest)
  if b = 0x2a then
    return (if atStart && !extended then literal b else .repetition 0 none, rest)
  if b = 0x5e && (extended || atStart) then return (.piece (.place .lineStart), rest)
  if b = 0x24 && (extended || endsPart rest) then return (.piece (.place .lineEnd), rest)
  if extended then
    if b = 0x7b && (atStart || !rest.head?.any (fun d => Bytes.isDigit d || d = 0x2c)) then
      return (literal b, rest)
    if let some found ← operator? true b rest then return found
  return (literal b, rest)

/-- All tokens. `fuel` is more than the length of the text. -/
def tokens (extended : Bool) : (fuel : Nat) → (atStart : Bool) → Bytes → Except Fault (List Token)
  | 0, _, _ => .ok []
  | _ + 1, _, [] => .ok []
  | fuel + 1, atStart, b :: rest => do
    let (token, rest) ← nextToken extended atStart b rest
    let startsPart := match token with
      | .opening | .bar => true
      | .piece (.place .lineStart) => !extended
      | _ => false
    return token :: (← tokens extended fuel startsPart rest)

/-! ## Putting together -/

/-- An open group: the alternatives before the one at work, and the parts of that, latest first. -/
structure Open where
  number : Nat
  alternatives : List Regex := []
  parts : List Regex := []

namespace Open

/-- Parts one behind the other; they are given latest first. The first has the first choice of its
length. -/
def joined : List Regex → Regex
  | [] => .empty
  | last :: earlier => earlier.foldl (fun later r => .sequence r later) last

/-- The whole of a group. -/
def whole (o : Open) : Regex :=
  o.alternatives.foldl (fun later earlier => .either earlier later) (joined o.parts)

end Open

/-- What has been put together: the open groups, the innermost first, and how many groups have been
opened and closed. -/
structure Build where
  current : Open
  outer : List Open := []
  opened : Nat := 0
  closed : List Nat := []
  /-- Whether a closing bracket without an opening one stands for itself. -/
  lenient : Bool := false

/-- A token added. -/
def Build.add (b : Build) : Token → Except Fault Build
  | .piece r =>
    match r with
    | .again n =>
      if n ∈ b.closed then .ok { b with current.parts := r :: b.current.parts }
      else .error .wrongGroup
    | _ => .ok { b with current.parts := r :: b.current.parts }
  | .opening =>
    .ok { b with
      current := { number := b.opened + 1 }
      outer := b.current :: b.outer
      opened := b.opened + 1 }
  | .closing =>
    match b.outer with
    | [] =>
      if b.lenient then
        .ok { b with current.parts := .one (.single 0x29) :: b.current.parts }
      else .error .strayClosing
    | next :: outer =>
      let group := .group b.current.number b.current.whole
      .ok { b with
        current := { next with parts := group :: next.parts }
        outer
        closed := b.current.number :: b.closed }
  | .bar =>
    .ok { b with
      current :=
        { b.current with
          alternatives := Open.joined b.current.parts :: b.current.alternatives
          parts := [] } }
  | .repetition least most =>
    match b.current.parts with
    | [] => .error .nothingToRepeat
    | r :: earlier => .ok { b with current.parts := .repeated r least most :: earlier }

/-- The regular expression that a text is. A closing bracket without an opening one is a fault,
unless the reader is `lenient`. -/
def ofBytes (extended lenient : Bool) (text : Bytes) : Except Fault Regex := do
  let built ← (← tokens extended (text.length + 1) true text).foldlM Build.add
    { current := { number := 0 }, lenient }
  match built.outer with
  | [] => return built.current.whole
  | _ => throw .openGroup

/-- The expression that fits a text and nothing else. -/
def exactly (text : Bytes) : Regex := Open.joined (text.reverse.map fun b => .one (.single b))

end CompilerDriver.Text.Regex
