import CompilerDriver.Bytes

/-!
# Names in messages

How messages show the name of a file so that a shell can read it again. Single quotes stand around
it, or double ones if single quotes are all that is special in it; what cannot be printed stands
between dollar quotes. Some messages quote every name, others only those that need it.
-/

namespace CompilerDriver.Utility

/-- Whether a byte can be printed. -/
def isPrintable (b : UInt8) : Bool := 0x20 ≤ b && b < 0x7f

/-- Whether a byte means the same in double quotes as without any. -/
def isPlainInDoubleQuotes (b : UInt8) : Bool :=
  Bytes.isDigit b || (0x41 ≤ b && b ≤ 0x5a) || (0x61 ≤ b && b ≤ 0x7a) ||
    b ∈ Bytes.ofString "%+,-./:]_ "

/-- A byte between dollar quotes. -/
def escapedByte (b : UInt8) : Bytes :=
  let letters : List (UInt8 × Char) :=
    [(0x07, 'a'), (0x08, 'b'), (0x09, 't'), (0x0a, 'n'), (0x0b, 'v'), (0x0c, 'f'), (0x0d, 'r')]
  match letters.find? fun l => l.1 = b with
  | some (_, letter) => [0x5c, letter.toUInt8]
  | none =>
    let digit := fun (n : Nat) => UInt8.ofNat (0x30 + b.toNat / n % 8)
    [0x5c, digit 64, digit 8, digit 1]

/-- The rest of a name behind an open single quote, or behind an open dollar quote if `escaping` is
set. -/
def quotedRest : (escaping : Bool) → Bytes → Bytes
  | _, [] => [0x27]
  | escaping, b :: rest =>
    if b = 0x27 then
      Bytes.ofString "'\\''" ++ quotedRest false rest
    else if isPrintable b then
      if escaping then 0x27 :: 0x27 :: b :: quotedRest false rest else b :: quotedRest false rest
    else if escaping then escapedByte b ++ quotedRest true rest
    else Bytes.ofString "'$'" ++ escapedByte b ++ quotedRest true rest

/-- A name in quotes. -/
def quoted (name : Bytes) : Bytes :=
  let others := name.filter (· ≠ 0x27)
  if others.length < name.length && others.all isPlainInDoubleQuotes then
    0x22 :: name ++ [0x22]
  else 0x27 :: quotedRest false name

/-- Whether a name has to be quoted to be read again. -/
def needsQuotes (name : Bytes) : Bool :=
  name = [] || name.any (fun b => !isPrintable b || b ∈ Bytes.ofString " !\"$&'()*;<=>[^`|?\\:") ||
    name.head?.any (fun b => b = 0x23 || b = 0x7e) || name = [0x7b] || name = [0x7d]

/-- A name, in quotes if it needs them. -/
def shown (name : Bytes) : Bytes := if needsQuotes name then quoted name else name

end CompilerDriver.Utility
