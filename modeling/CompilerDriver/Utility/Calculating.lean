import CompilerDriver.Text.Regex.Reading
import CompilerDriver.Utility.Texts

/-!
# Calculating with words

An expression given word by word: numbers and texts with operators between them, each a word of its
own. The value is written, and an empty one or zero is a failure.
-/

namespace CompilerDriver.Utility

open Text

/-- An expression that is read: the words that are left, and the last one that was taken. -/
structure Reckoning where
  rest : List Bytes
  last : Bytes := []

/-- A step of reading an expression. -/
abbrev Reckon (α : Type) := StateT Reckoning Work α

namespace Reckon

/-- Gives up. -/
def fail {α : Type} (fault : Bytes) : Reckon α := (Work.fail fault 2 : Work α)

/-- The next word, which has to be there. -/
def take : Reckon Bytes := do
  let s ← get
  match s.rest with
  | word :: rest =>
    set { s with rest, last := word }
    return word
  | [] => fail (Bytes.ofString "syntax error: missing argument after " ++ quoted s.last)

/-- Takes the next word if it is this one. -/
def takes (word : String) : Reckon Bool := do
  let s ← get
  if s.rest.head? = some (Bytes.ofString word) then
    set { s with rest := s.rest.tail, last := Bytes.ofString word }
    return true
  return false

end Reckon

/-- The number that a value is: digits, with or without a minus sign. -/
def signed? (value : Bytes) : Option Int :=
  match value with
  | 0x2d :: digits => (Bytes.natural? digits).map fun n => -n
  | digits => (Bytes.natural? digits).map fun n => n

/-- Whether a value is empty or zero. -/
def isNothing (value : Bytes) : Bool :=
  let digits := if value.head? = some Bytes.dash then value.tail else value
  value = [] || digits ≠ [] && digits.all (· = 0x30)

/-- A value as a number. -/
def numberOf (value : Bytes) : Reckon Int :=
  match signed? value with
  | some n => pure n
  | none => Reckon.fail (Bytes.ofString "non-integer argument")

/-- Where an expression fits at the start of a text: what its first group has been, or else the
length. -/
def fitted (text pattern : Bytes) : Reckon Bytes := do
  match Regex.ofBytes false false pattern with
  | .error fault => Reckon.fail (Bytes.ofString fault.message)
  | .ok r =>
    let grouped := (Bytes.ofString "\\(").length ≤ pattern.length &&
      Bytes.holds (Bytes.ofString "\\(") pattern
    let found := (Regex.ends {} text r { position := 0, rest := text, before := none }).head?
    match found, grouped with
    | some s, true =>
      let group := (s.groups.find? fun g => g.1 = 1).map (·.2)
      return (group.map fun (start, stop) => (text.take stop).drop start).getD []
    | some s, false => return Bytes.decimal s.position
    | none, true => return []
    | none, false => return [0x30]

/-- What a comparison says of an order. -/
def comparison? (operator : Bytes) : Option (Ordering → Bool) :=
  let table : List (String × (Ordering → Bool)) :=
    [("<", (· = .lt)), ("<=", (· ≠ .gt)), ("=", (· = .eq)), ("==", (· = .eq)), ("!=", (· ≠ .eq)),
      (">=", (· ≠ .lt)), (">", (· = .gt))]
  (table.find? fun t => Bytes.ofString t.1 = operator).map (·.2)

/-- The value of a comparison: by number if both sides are numbers, and else by the bytes. -/
def compared (holds : Ordering → Bool) (a b : Bytes) : Bytes :=
  let order := match signed? a, signed? b with
    | some m, some n => compare m n
    | _, _ => if a = b then .eq else if a.precedes b then .lt else .gt
  if holds order then [0x31] else [0x30]

/-- A word as an operator at a level of binding, the loosest being 0. -/
def levelOf? (word : Bytes) : Option Nat :=
  if word = [0x7c] then some 0
  else if word = [0x26] then some 1
  else if (comparison? word).isSome then some 2
  else if word = [0x2b] || word = [0x2d] then some 3
  else if word = [0x2a] || word = [0x2f] || word = [0x25] then some 4
  else if word = [0x3a] then some 5
  else none

/-- The value of two values with an operator between them; where the value does not count, nothing
can go wrong. -/
def combined (counts : Bool) (operator a b : Bytes) : Reckon Bytes := do
  match operator, comparison? operator with
  | [0x7c], _ => return if !isNothing a then a else if !isNothing b then b else [0x30]
  | [0x26], _ => return if isNothing a || isNothing b then [0x30] else a
  | _, some holds => return compared holds a b
  | [0x3a], _ => if counts then fitted a b else return a
  | _, none =>
    if !counts then return a
    let m ← numberOf a
    let n ← numberOf b
    if (operator = [0x2f] || operator = [0x25]) && n = 0 then
      Reckon.fail (Bytes.ofString "division by zero")
    let value : Int := match operator with
      | [0x2b] => m + n
      | [0x2d] => m - n
      | [0x2a] => m * n
      | [0x2f] => m.tdiv n
      | _ => m.tmod n
    return Bytes.ofString s!"{value}"

mutual

/-- The value of an expression whose operators bind at a level or tighter. `fuel` is more than the
number of words and levels. -/
def valueAt : (fuel : Nat) → (counts : Bool) → (level : Nat) → Reckon Bytes
  | 0, _, _ => Reckon.fail (Bytes.ofString "syntax error")
  | fuel + 1, counts, level => do
    if 5 < level then simpleValue fuel counts
    else
      let first ← valueAt fuel counts (level + 1)
      valueFrom fuel counts level first

/-- The value of an expression that begins with a value. -/
def valueFrom : (fuel : Nat) → (counts : Bool) → (level : Nat) → Bytes → Reckon Bytes
  | 0, _, _, value => return value
  | fuel + 1, counts, level, value => do
    match (← get).rest with
    | operator :: _ =>
      if levelOf? operator = some level then
        let _ ← Reckon.take
        let countsBehind := counts && (if level = 0 then isNothing value
          else if level = 1 then !isNothing value else true)
        let other ← valueAt fuel countsBehind (level + 1)
        valueFrom fuel counts level (← combined counts operator value other)
      else return value
    | [] => return value

/-- The value of a word, a bracketed expression or a named operation. -/
def simpleValue : (fuel : Nat) → (counts : Bool) → Reckon Bytes
  | 0, _ => Reckon.fail (Bytes.ofString "syntax error")
  | fuel + 1, counts => do
    if ← Reckon.takes "+" then return ← Reckon.take
    else if ← Reckon.takes "length" then
      return Bytes.decimal (← valueAt fuel counts 6).length
    else if ← Reckon.takes "match" then
      let text ← valueAt fuel counts 6
      let pattern ← valueAt fuel counts 6
      if counts then fitted text pattern else return text
    else if ← Reckon.takes "index" then
      let text ← valueAt fuel counts 6
      let wanted ← valueAt fuel counts 6
      return Bytes.decimal (((text.findIdx? fun b => b ∈ wanted).map (· + 1)).getD 0)
    else if ← Reckon.takes "substr" then
      let text ← valueAt fuel counts 6
      let start ← valueAt fuel counts 6
      let length ← valueAt fuel counts 6
      match signed? start, signed? length with
      | some (.ofNat (start + 1)), some (.ofNat length) => return (text.drop start).take length
      | _, _ => return []
    else if ← Reckon.takes "(" then
      let value ← valueAt fuel counts 0
      unless ← Reckon.takes ")" do
        let s ← get
        Reckon.fail (Bytes.ofString "syntax error: expecting ')' after " ++ quoted s.last)
      return value
    else if ← Reckon.takes ")" then
      Reckon.fail (Bytes.ofString "syntax error: unexpected ')'")
    else Reckon.take

end

def expr : Work Unit := do
  let words ← Work.arguments
  let words := if words.head? = some (Bytes.ofString "--") then words.tail else words
  if words.isEmpty then Work.failUsage (Bytes.ofString "missing operand") 2
  let (value, s) ← (valueAt (words.length * 10 + 10) true 0).run { rest := words }
  match s.rest with
  | extra :: _ =>
    Work.fail (Bytes.ofString "syntax error: unexpected argument " ++ quoted extra) 2
  | [] =>
    Work.sayLine value
    Work.quit (if isNothing value then 1 else 0)

end CompilerDriver.Utility
