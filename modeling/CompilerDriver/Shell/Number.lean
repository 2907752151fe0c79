import CompilerDriver.Bytes

/-!
# Numbers as scripts write them

Whole numbers of 64 bits. Blanks may stand in front, then a sign; where the notation is open, `0x`
announces hexadecimal digits and `0` octal ones. What comes after the digits is told, so that a
number can be read to the end of a text or not.
-/

namespace CompilerDriver.Shell.Number

/-- The value of a digit in a notation with up to 36 digits. -/
def digit? (b : UInt8) : Option Nat :=
  if Bytes.isDigit b then some (b.toNat - 0x30)
  else
    let b := Bytes.lower b
    if 0x61 ≤ b && b ≤ 0x7a then some (b.toNat - 0x61 + 10) else none

/-- Whether a byte is a digit of a notation. -/
def isDigitOf (base : Nat) (b : UInt8) : Bool := (digit? b).any (· < base)

/-- The value of digits in a notation. -/
def ofDigits (base : Nat) (digits : Bytes) : Nat :=
  digits.foldl (fun n d => n * base + (digit? d).getD 0) 0

/-- The digits at the front of a text, as a value, and what comes after them. -/
def leadingNatural? (openBase : Bool) (text : Bytes) : Option (Nat × Bytes) :=
  let read := fun (base : Nat) (text : Bytes) =>
    let digits := text.takeWhile (isDigitOf base)
    if digits = [] then none else some (ofDigits base digits, text.drop digits.length)
  match openBase, text with
  | true, 0x30 :: x :: rest =>
    if Bytes.lower x = 0x78 then
      match read 16 rest with
      | some found => some found
      | none => some (0, x :: rest)
    else read 8 text
  | _, _ => read 10 text

/-- The whole number at the front of a text, and what comes after it. -/
def leadingInteger? (openBase : Bool) (text : Bytes) : Option (Int × Bytes) :=
  let text := text.dropWhile Bytes.isSpace
  let (negative, digits) := match text with
    | b :: rest => if b = 0x2d then (true, rest) else if b = 0x2b then (false, rest)
      else (false, text)
    | [] => (false, [])
  (leadingNatural? openBase digits).map fun (n, rest) => (if negative then -n else n, rest)

/-- The least number of 64 bits. -/
def least : Int := -9223372036854775808

/-- The greatest number of 64 bits. -/
def greatest : Int := 9223372036854775807

/-- Whether a number has 64 bits. -/
def isInRange (n : Int) : Bool := least ≤ n && n ≤ greatest

/-- The number that a text writes in decimal, with blanks around it allowed. -/
def decimal? (text : Bytes) : Option Int :=
  match leadingInteger? false text with
  | some (n, rest) => if rest.all Bytes.isSpace && isInRange n then some n else none
  | none => none

/-- The value of a variable in arithmetic, if it is a number. No value at all counts as zero. -/
def open? (text : Bytes) : Option Int :=
  if text.all Bytes.isSpace then some 0
  else match leadingInteger? true text with
    | some (n, rest) => if rest.all Bytes.isSpace && isInRange n then some n else none
    | none => none

/-- A number of at least zero that fits into 32 bits. -/
def count? (text : Bytes) : Option Nat :=
  match decimal? text with
  | some n => if 0 ≤ n && n < 2147483648 then some n.toNat else none
  | none => none

/-- A whole number in decimal. -/
def decimal (n : Int) : Bytes := Bytes.ofString n.repr

end CompilerDriver.Shell.Number
