import CompilerDriver.Text.ByteSet
import CompilerDriver.Utility.Texts

/-!
# Exchanging bytes

Bytes of one set are exchanged for those of another, taken away, or written once where they come
several times in a row. A set is written as bytes, ranges, classes and repetitions.
-/

namespace CompilerDriver.Utility

/-- A part of a written set. -/
inductive SetPart where
  | bytes (bytes : Bytes)
  /-- A byte so many times; for 0 as often as is needed. -/
  | repeated (b : UInt8) (count : Nat)
deriving DecidableEq, Repr

/-- A byte of a written set, and whether a backslash stood in front of it. -/
structure SetByte where
  byte : UInt8
  escaped : Bool := false
deriving DecidableEq, Repr

/-- The bytes of a written set with backslashes taken off. -/
def setBytes : Bytes → List SetByte
  | [] => []
  | [b] => [⟨b, b = 0x5c⟩]
  | b :: c :: rest =>
    if b ≠ 0x5c then ⟨b, false⟩ :: setBytes (c :: rest)
    else
      let letters : List (Char × UInt8) :=
        [('a', 7), ('b', 8), ('f', 12), ('n', 10), ('r', 13), ('t', 9), ('v', 11)]
      let isOctal := fun (d : UInt8) => 0x30 ≤ d && d ≤ 0x37
      match letters.find? fun l => l.1.toUInt8 = c with
      | some (_, control) => ⟨control, true⟩ :: setBytes rest
      | none =>
        if isOctal c then
          let value := fun (digits : Bytes) =>
            digits.foldl (fun n d => n * 8 + (d.toNat - 0x30)) 0
          match rest with
          | d :: e :: rest' =>
            if isOctal d && isOctal e && value [c, d, e] < 256 then
              ⟨UInt8.ofNat (value [c, d, e]), true⟩ :: setBytes rest'
            else if isOctal d then ⟨UInt8.ofNat (value [c, d]), true⟩ :: setBytes (e :: rest')
            else ⟨UInt8.ofNat (value [c]), true⟩ :: setBytes (d :: e :: rest')
          | [d] =>
            if isOctal d then [⟨UInt8.ofNat (value [c, d]), true⟩]
            else ⟨UInt8.ofNat (value [c]), true⟩ :: setBytes [d]
          | [] => [⟨UInt8.ofNat (value [c]), true⟩]
        else ⟨c, true⟩ :: setBytes rest

/-- The bytes from one to another. -/
def bytesBetween (low high : UInt8) : Bytes :=
  (List.range (high.toNat + 1 - low.toNat)).map fun i => UInt8.ofNat (low.toNat + i)

/-- Whether a byte stands there without a backslash. -/
def SetByte.isPlain (s : SetByte) (c : Char) : Bool := !s.escaped && s.byte = c.toUInt8

/-- What stands between a sign and the same sign before a closing bracket, and what comes after. -/
def enclosed? (sign : Char) : List SetByte → Option (Bytes × List SetByte)
  | [] => none
  | [_] => none
  | b :: c :: rest =>
    if b.isPlain sign && c.isPlain ']' then some ([], rest)
    else (enclosed? sign (c :: rest)).map fun (name, rest) => (b.byte :: name, rest)

/-- The count of a repetition behind its star, and what comes after the closing bracket. -/
def repetition? (rest : List SetByte) : Option (Nat × List SetByte) :=
  let digits := (rest.takeWhile fun s => Bytes.isDigit s.byte).map (·.byte)
  match rest.drop digits.length with
  | close :: rest =>
    if close.isPlain ']' then
      let base := if digits.head? = some 0x30 then 8 else 10
      some (digits.foldl (fun n d => n * base + (d.toNat - 0x30)) 0, rest)
    else none
  | [] => none

/-- The parts of a written set, or what is wrong with it. `fuel` is more than its length. -/
def setParts : (fuel : Nat) → List SetByte → Except Bytes (List SetPart)
  | 0, _ => .ok []
  | _ + 1, [] => .ok []
  | fuel + 1, b :: rest => do
    let named := match rest with
      | sign :: inner =>
        if !b.isPlain '[' then none
        else if sign.isPlain ':' then (enclosed? ':' inner).map fun found => (true, found)
        else if sign.isPlain '=' then (enclosed? '=' inner).map fun found => (false, found)
        else none
      | [] => none
    match named with
    | some (true, (name, rest)) =>
      match Text.ByteSet.class? name with
      | some ranges =>
        let bytes := ranges.flatMap fun r => bytesBetween r.1 r.2
        return .bytes bytes :: (← setParts fuel rest)
      | none =>
        throw (Bytes.ofString "invalid character class " ++ quoted name)
    | some (false, (name, rest)) => return .bytes name :: (← setParts fuel rest)
    | none =>
      let repeated := match rest with
        | c :: star :: more =>
          if b.isPlain '[' && star.isPlain '*' then
            (repetition? more).map fun (count, rest) => (c.byte, count, rest)
          else none
        | _ => none
      match repeated with
      | some (c, count, rest) => return .repeated c count :: (← setParts fuel rest)
      | none =>
        match rest with
        | dash :: high :: more =>
          if dash.isPlain '-' then
            if high.byte < b.byte then
              throw (Bytes.ofString "range-endpoints of '" ++ [b.byte, Bytes.dash, high.byte] ++
                Bytes.ofString "' are in reverse collating sequence order")
            return .bytes (bytesBetween b.byte high.byte) :: (← setParts fuel more)
          return .bytes [b.byte] :: (← setParts fuel rest)
        | _ => return .bytes [b.byte] :: (← setParts fuel rest)

/-- The bytes of some parts; a repetition without a count fills up to a length. -/
def SetPart.expand (length : Nat) (parts : List SetPart) : Bytes :=
  let known := parts.foldl (fun n part => n + match part with
    | .bytes all => all.length
    | .repeated _ count => count) 0
  parts.flatMap fun part => match part with
    | .bytes all => all
    | .repeated b 0 => List.replicate (length - known) b
    | .repeated b count => List.replicate count b

/-- A written set. -/
def readSet (text : Bytes) : Work (List SetPart) := do
  match setParts (text.length + 1) (setBytes text) with
  | .ok parts => return parts
  | .error fault => Work.fail fault

/-- All bytes that are not among some. -/
def complement (bytes : Bytes) : Bytes :=
  (bytesBetween 0 255).filter fun b => b ∉ bytes

/-- Bytes with each run of the same byte of a set written once. -/
def squeeze (set : Bytes) : (before : Option UInt8) → Bytes → Bytes
  | _, [] => []
  | before, b :: rest =>
    if before = some b && b ∈ set then squeeze set before rest else b :: squeeze set (some b) rest

/-- A second set as long as the first: its last byte is repeated. -/
def extended (length : Nat) (set : Bytes) : Bytes :=
  match set.getLast? with
  | some last => set ++ List.replicate (length - set.length) last
  | none => set

def tr : Work Unit := do
  let g ← readGiven "c/complement C d/delete s/squeeze-repeats t/truncate-set1" true
  let deletes := g.has "d"
  let squeezes := g.has "s"
  let usage := fun (fault : Bytes) (more : String) => do
    Work.warn fault
    if more ≠ "" then Work.tell (Bytes.ofString (more ++ "\n"))
    Work.tell (Bytes.ofString "Try 'tr --help' for more information.\n")
    Work.quit 1
  let (first, second) ← match g.operands with
    | [] => Work.failUsage (Bytes.ofString "missing operand")
    | [first] =>
      if deletes == squeezes then
        usage (Bytes.ofString "missing operand after " ++ quoted first)
          (if deletes then "Two strings must be given when both deleting and squeezing repeats."
            else "Two strings must be given when translating.")
      else pure (first, none)
    | [first, second] =>
      if deletes && !squeezes then
        usage (Bytes.ofString "extra operand " ++ quoted second)
          "Only one string may be given when deleting without squeezing repeats."
      else pure (first, some second)
    | _ :: _ :: extra :: _ => usage (Bytes.ofString "extra operand " ++ quoted extra) ""
  let plain := SetPart.expand 0 (← readSet first)
  let set := if g.has "c" || g.has "C" then complement plain else plain
  let other ← match second with
    | some text => pure (SetPart.expand set.length (← readSet text))
    | none => pure []
  let exchanges := second.isSome && !deletes
  if exchanges && other = [] && set ≠ [] && !g.has "t" then
    Work.fail (Bytes.ofString "when not truncating set1, string2 must be non-empty")
  let text := (← Work.readInput).toOption.getD []
  let source := if g.has "t" then set.take other.length else set
  let pairs := (source.zip (extended source.length other)).reverse
  let exchange := fun (b : UInt8) => ((pairs.find? fun p => p.1 = b).map (·.2)).getD b
  let text := if deletes then text.filter fun b => b ∉ set
    else if exchanges then text.map exchange else text
  let squeezed := if second.isSome then other else set
  Work.say (if squeezes then squeeze squeezed none text else text)

end CompilerDriver.Utility
