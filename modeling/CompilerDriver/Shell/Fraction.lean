import CompilerDriver.Bytes

/-!
# Fractions in decimal

Numbers that are not whole are kept as fractions of natural numbers. A written number is first
rounded to 53 binary places, as machines keep it; what is written is rounded in decimal, and in both
cases a half goes to the even neighbour. The main statements are that rounding is off by at most a
half, and that it comes to an even number where two are equally near.
-/

namespace CompilerDriver.Shell

/-- A number that is not negative. -/
structure Fraction where
  numerator : Nat
  denominator : Nat := 1
deriving DecidableEq, Repr

namespace Fraction

/-- A quotient rounded to the nearest whole number; a half goes to the even neighbour. -/
def rounded (n d : Nat) : Nat :=
  let q := n / d
  let twice := 2 * (n % d)
  if twice < d then q else if d < twice then q + 1 else if q % 2 = 0 then q else q + 1

/-- Rounding is off by at most a half. -/
theorem rounded_near (n : Nat) {d : Nat} (h : 0 < d) :
    2 * (d * rounded n d) ≤ 2 * n + d ∧ 2 * n ≤ 2 * (d * rounded n d) + d := by
  have whole := Nat.div_add_mod n d
  have part := Nat.mod_lt n h
  have next : d * (n / d + 1) = d * (n / d) + d := Nat.mul_succ ..
  simp only [rounded]
  split
  · omega
  · split
    · omega
    · split <;> omega

/-- What lies halfway goes to the even neighbour. -/
theorem rounded_even {n d : Nat} (h : 2 * (n % d) = d) : rounded n d % 2 = 0 := by
  simp only [rounded, h, Nat.lt_irrefl, if_false]
  split <;> omega

example : rounded 1 2 = 0 ∧ rounded 3 2 = 2 ∧ rounded 5 2 = 2 := by decide

/-- A fraction times a power of a base. -/
def scale (f : Fraction) (base : Nat) (exponent : Int) : Fraction :=
  if 0 ≤ exponent then { f with numerator := f.numerator * Nat.pow base exponent.toNat }
  else { f with denominator := f.denominator * Nat.pow base (-exponent).toNat }

/-- How many binary places a machine keeps of a number. -/
def binaryPlaces : Nat := 53

/-- The lowest power of two that a machine keeps. -/
def leastExponent : Int := -1074

/-- The number that a machine keeps for a fraction: the nearest one with so many binary places. -/
def kept (f : Fraction) : Fraction :=
  if f.numerator = 0 then f
  else
    let size : Int := (f.numerator.log2 : Int) - f.denominator.log2
    let fits := fun (exponent : Int) =>
      let scaled := f.scale 2 (-exponent)
      rounded scaled.numerator scaled.denominator < Nat.pow 2 binaryPlaces
    let low := size - binaryPlaces
    let exponent := max leastExponent (if fits low then low else if fits (low + 1) then low + 1 else low + 2)
    let scaled := f.scale 2 (-exponent)
    { numerator := rounded scaled.numerator scaled.denominator : Fraction }.scale 2 exponent

/-- A digit sequence of a number, with zeros in front up to a length. -/
def digitsOf (length n : Nat) : Bytes :=
  let digits := Bytes.decimal n
  List.replicate (length - digits.length) 0x30 ++ digits

/-- Whole digits and so many decimal places, with a point between them if there are any or it is
asked for. -/
def fixed (f : Fraction) (places : Nat) (point : Bool) : Bytes :=
  let scaled := f.scale 10 places
  let digits := digitsOf (places + 1) (rounded scaled.numerator scaled.denominator)
  let whole := digits.take (digits.length - places)
  whole ++ (if places = 0 && !point then [] else [Bytes.dot]) ++ digits.drop whole.length

/-- The power of ten of the first digit when so many decimal places are written behind it, and all
these digits as a number. -/
def leading (f : Fraction) (places : Nat) : Int × Nat :=
  if f.numerator = 0 then (0, 0)
  else
    let guess : Int := ((Bytes.decimal f.numerator).length : Int) - (Bytes.decimal f.denominator).length
    let digits := fun (exponent : Int) =>
      let scaled := f.scale 10 (places - exponent)
      rounded scaled.numerator scaled.denominator
    let atLeast := fun (exponent : Int) => Nat.pow 10 places ≤ digits exponent
    let exponent := if atLeast (guess + 1) then guess + 1 else if atLeast guess then guess else guess - 1
    (exponent, digits exponent)

/-- An exponent of ten: its sign and at least two digits. -/
def exponentText (letter : UInt8) (exponent : Int) : Bytes :=
  letter :: (if exponent < 0 then 0x2d else 0x2b) :: digitsOf 2 exponent.natAbs

/-- One digit, so many decimal places, and an exponent behind a letter. -/
def scientific (f : Fraction) (places : Nat) (point : Bool) (letter : UInt8) : Bytes :=
  let (exponent, n) := f.leading places
  let digits := digitsOf (places + 1) n
  digits.take 1 ++ (if places = 0 && !point then [] else [Bytes.dot]) ++ digits.drop 1 ++
    exponentText letter exponent

/-- Digits without zeros at the end of their decimal places. -/
def trimmed (digits : Bytes) : Bytes :=
  if Bytes.dot ∉ digits then digits
  else
    let kept := (digits.reverse.dropWhile (· = 0x30)).reverse
    if kept.getLast? = some Bytes.dot then kept.dropLast else kept

/-- So many digits in all, as decimal places or with an exponent, whichever is shorter. Zeros at the
end are left out unless the point is asked for. -/
def general (f : Fraction) (digits : Nat) (point : Bool) (letter : UInt8) : Bytes :=
  let digits := max 1 digits
  let (exponent, _) := f.leading (digits - 1)
  let trim := fun (text : Bytes) => if point then text else trimmed text
  if exponent < -4 || (digits : Int) ≤ exponent then
    let text := f.scientific (digits - 1) point letter
    let mantissa := text.takeWhile (· ≠ letter)
    trim mantissa ++ text.drop mantissa.length
  else trim (f.fixed ((digits : Int) - 1 - exponent).toNat point)

/-- The number at the front of a text, whether it is negative, and what comes after it. -/
def leading? (text : Bytes) : Option (Bool × Fraction × Bytes) :=
  let text := text.dropWhile Bytes.isSpace
  let (negative, text) := match text with
    | 0x2d :: rest => (true, rest)
    | 0x2b :: rest => (false, rest)
    | _ => (false, text)
  let whole := text.takeWhile Bytes.isDigit
  let (part, rest) := match text.drop whole.length with
    | 0x2e :: rest =>
      let part := rest.takeWhile Bytes.isDigit
      (part, rest.drop part.length)
    | rest => ([], rest)
  if whole = [] && part = [] then none
  else
    let written : Fraction := ⟨Bytes.ofDigits (whole ++ part), Nat.pow 10 part.length⟩
    let (exponent, rest) : Int × Bytes := match rest with
      | b :: after =>
        if Bytes.lower b ≠ 0x65 then (0, rest)
        else
          let (minus, digits) := match after with
            | 0x2d :: digits => (true, digits)
            | 0x2b :: digits => (false, digits)
            | digits => (false, digits)
          let exponent := digits.takeWhile Bytes.isDigit
          if exponent = [] then (0, rest)
          else
            let n : Int := Bytes.ofDigits exponent
            (if minus then -n else n, digits.drop exponent.length)
      | [] => (0, [])
    some (negative, written.scale 10 exponent, rest)

example : (Fraction.kept ⟨1, 10⟩).fixed 20 false = Bytes.ofString "0.10000000000000000555" := by
  decide +kernel

end Fraction

end CompilerDriver.Shell
