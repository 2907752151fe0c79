import CompilerDriver.Shell.Escapes
import CompilerDriver.Shell.Fraction
import CompilerDriver.Shell.Number

/-!
# Formats

What `printf` makes of a format and its arguments. A directive takes an argument and fills it up to
a width; the format is used again as long as arguments are left, and after the last one every
directive finds an empty one. A wrong argument is noted and the output goes on; a wrong directive
ends it.
-/

namespace CompilerDriver.Shell

/-- How a directive shapes its argument. -/
structure Shape where
  /-- Blanks come after it and not before. -/
  left : Bool := false
  /-- Zeros come before it and no blanks. -/
  zeros : Bool := false
  /-- A number that is not negative has a plus sign. -/
  plus : Bool := false
  /-- A number that is not negative has a blank for a sign. -/
  blank : Bool := false
  /-- The notation is shown, or the point is. -/
  marked : Bool := false
  width : Nat := 0
  precision : Option Nat := none
deriving DecidableEq, Repr

namespace Shape

/-- A text filled up to the width. -/
def fill (s : Shape) (text : Bytes) : Bytes :=
  let blanks := List.replicate (s.width - text.length) 0x20
  if s.left then text ++ blanks else blanks ++ text

/-- Digits with what stands in front of them, filled up to the width. -/
def fillNumber (s : Shape) (zeros : Bool) (front digits : Bytes) : Bytes :=
  if zeros && !s.left then
    front ++ List.replicate (s.width - front.length - digits.length) 0x30 ++ digits
  else s.fill (front ++ digits)

/-- The sign of a number. -/
def sign (s : Shape) (negative : Bool) : Bytes :=
  if negative then [0x2d] else if s.plus then [0x2b] else if s.blank then [0x20] else []

/-- The least number of digits is the precision; nothing is written for zero where it is zero. -/
def digits (s : Shape) (text : Bytes) : Bytes :=
  match s.precision with
  | none => text
  | some n =>
    if n = 0 && text = [0x30] then [] else List.replicate (n - text.length) 0x30 ++ text

/-- A number with its sign. -/
def signed (s : Shape) (n : Int) : Bytes :=
  s.fillNumber (s.zeros && s.precision.isNone) (s.sign (n < 0)) (s.digits (Bytes.decimal n.natAbs))

/-- A number without a sign, in octal or hexadecimal notation or else in decimal. -/
def unsigned (s : Shape) (conversion : UInt8) (n : Nat) : Bytes :=
  let base := if conversion = 0x6f then 8 else if Bytes.lower conversion = 0x78 then 16 else 10
  let lowered := Bytes.ofString (String.ofList (Nat.toDigits base n))
  let text := s.digits (if conversion = 0x58 then lowered.map Bytes.upper else lowered)
  let text := if s.marked && base = 8 && text.head? ≠ some 0x30 then 0x30 :: text else text
  let front := if s.marked && base = 16 && n ≠ 0 then [0x30, conversion] else []
  s.fillNumber (s.zeros && s.precision.isNone) front text

/-- A number with decimal places, as the letter asks for it. -/
def float (s : Shape) (letter : UInt8) (negative : Bool) (f : Fraction) : Bytes :=
  let places := s.precision.getD 6
  let small := Bytes.lower letter
  let exponent := if small = letter then 0x65 else 0x45
  let digits := if small = 0x66 then f.fixed places s.marked
    else if small = 0x65 then f.scientific places s.marked exponent
    else f.general places s.marked exponent
  s.fillNumber s.zeros (s.sign negative) digits

/-- A text cut to the precision. -/
def text (s : Shape) (text : Bytes) : Bytes :=
  s.fill (match s.precision with
    | some n => text.take n
    | none => text)

end Shape

/-- A filled text is at least as long as the width. -/
theorem Shape.le_length_fill (s : Shape) (text : Bytes) : s.width ≤ (s.fill text).length := by
  unfold Shape.fill
  split <;> simp <;> omega

/-- What `printf` has written so far, the arguments that are left, whether any was used in this
pass, what was wrong with arguments, and whether and why the output has ended. -/
structure Printed where
  text : Bytes := []
  arguments : List Bytes
  used : Bool := false
  faults : List Bytes := []
  /-- What ended it, if something was wrong. -/
  wrong : Option Bytes := none
  ended : Bool := false
deriving DecidableEq, Repr

namespace Printed

/-- The next argument; there are no more after the last. -/
def next (p : Printed) : Option Bytes × Printed :=
  match p.arguments with
  | a :: rest => (some a, { p with arguments := rest, used := true })
  | [] => (none, { p with used := true })

/-- A text added. -/
def add (p : Printed) (text : Bytes) : Printed := { p with text := p.text ++ text }

/-- A fault noted. -/
def note (p : Printed) (argument : Bytes) (fault : String) : Printed :=
  { p with faults := p.faults ++ [argument ++ Bytes.ofString (": " ++ fault)] }

/-- The next argument as a number between two bounds. A quote stands for the byte after it. Text
after a number is left out, and a number out of bounds is the nearest one inside. -/
def number (p : Printed) (least greatest : Int) : Int × Printed :=
  match p.next with
  | (none, p) => (0, p)
  | (some a, p) =>
    match a with
    | 0x22 :: rest | 0x27 :: rest => ((rest.headD 0).toNat, p)
    | _ =>
      match Number.leadingInteger? true a with
      | none => (0, if a = [] then p else p.note a "expected numeric value")
      | some (n, rest) =>
        let bounded := max least (min greatest n)
        let p := if rest ≠ [] then p.note a "not completely converted"
          else if bounded ≠ n then p.note a "Numerical result out of range"
          else p
        (bounded, p)

/-- The next argument as a number with a sign. -/
def integer (p : Printed) : Int × Printed := p.number Number.least Number.greatest

/-- The next argument as a number without a sign; a negative one counts from the end. -/
def natural (p : Printed) : Nat × Printed :=
  let (n, p) := p.number (-18446744073709551615) 18446744073709551615
  ((n % 18446744073709551616).toNat, p)

/-- The next argument as a number that need not be whole: whether it is negative, and what is kept of
it. -/
def float (p : Printed) : (Bool × Fraction) × Printed :=
  match p.next with
  | (none, p) => ((false, ⟨0, 1⟩), p)
  | (some a, p) =>
    match a with
    | 0x22 :: rest | 0x27 :: rest => ((false, ⟨(rest.headD 0).toNat, 1⟩), p)
    | _ =>
      match Fraction.leading? a with
      | none => ((false, ⟨0, 1⟩), if a = [] then p else p.note a "expected numeric value")
      | some (negative, f, rest) =>
        ((negative, f.kept), if rest ≠ [] then p.note a "not completely converted" else p)

/-- Digits, or an argument in their place. -/
def measure (p : Printed) (format : Bytes) : Option Int × Printed × Bytes :=
  match format with
  | 0x2a :: rest =>
    let (n, p) := p.integer
    (some n, p, rest)
  | _ =>
    let digits := format.takeWhile Bytes.isDigit
    (if digits = [] then none else some (Bytes.ofDigits digits), p, format.drop digits.length)

/-- The shape that a directive asks for, up to its letter. -/
def shape (p : Printed) (format : Bytes) : Shape × Printed × Bytes :=
  let flags := format.takeWhile fun b => b ∈ Bytes.ofString "#-+ 0"
  let (width, p, format) := p.measure (format.drop flags.length)
  let width := width.getD 0
  let (precision, p, format) := match format with
    | 0x2e :: rest =>
      let (precision, p, rest) := p.measure rest
      (some (precision.getD 0), p, rest)
    | _ => (none, p, format)
  ({ left := 0x2d ∈ flags || width < 0
     zeros := 0x30 ∈ flags
     plus := 0x2b ∈ flags
     blank := 0x20 ∈ flags
     marked := 0x23 ∈ flags
     width := width.natAbs
     precision := precision.bind fun n => if n < 0 then none else some n.toNat }, p, format)

/-- One directive with its letter. Nothing comes of a letter that means nothing. -/
def direct? (p : Printed) (s : Shape) (letter : UInt8) : Option Printed :=
  if letter = 0x73 then
    let (a, p) := p.next
    some (p.add (s.text (a.getD [])))
  else if letter = 0x63 then
    let (a, p) := p.next
    some (p.add (s.fill [(a.getD []).headD 0]))
  else if letter = 0x64 || letter = 0x69 then
    let (n, p) := p.integer
    some (p.add (s.signed n))
  else if letter ∈ Bytes.ofString "ouxX" then
    let (n, p) := p.natural
    some (p.add (s.unsigned letter n))
  else if letter ∈ Bytes.ofString "eEfFgG" then
    let ((negative, f), p) := p.float
    some (p.add (s.float letter negative f))
  else if letter = 0x62 then
    let (a, p) := p.next
    let a := a.getD []
    let (text, ended) := unescape a.length a
    some { p.add (s.text text) with ended }
  else none

/-- One pass through a format. `fuel` is at least its length. -/
def once : (fuel : Nat) → (format : Bytes) → Printed → Printed
  | 0, _, p => p
  | _, [], p => p
  | fuel + 1, b :: rest, p =>
    if b = 0x5c then
      if rest.head? = some 0x63 then { p with ended := true }
      else
        let (value, after) := escaped rest
        once fuel after (p.add [value])
    else if b ≠ 0x25 then once fuel rest (p.add [b])
    else if rest.head? = some 0x25 then once fuel rest.tail (p.add [b])
    else
      match p.shape rest with
      | (_, p, []) =>
        { p with wrong := some (Bytes.ofString "missing format character"), ended := true }
      | (s, p, letter :: more) =>
        match p.direct? s letter with
        | some p => if p.ended then p else once fuel more p
        | none =>
          let directive := (b :: rest).take (rest.length + 1 - more.length)
          { p with
            wrong := some (directive ++ Bytes.ofString ": invalid directive")
            ended := true }

/-- The format is used again as long as arguments are left. `fuel` is more than their number. -/
def all (format : Bytes) : (fuel : Nat) → Printed → Printed
  | 0, p => p
  | fuel + 1, p =>
    let p := once format.length format { p with used := false }
    if p.ended || !p.used || p.arguments.isEmpty then p else all format fuel p

end Printed

/-- What comes of `printf`. -/
def printed (format : Bytes) (arguments : List Bytes) : Printed :=
  Printed.all format (arguments.length + 1) { arguments }

example : (printed (Bytes.ofString "%05d|%.2s|%o") (["7", "abc", "8"].map Bytes.ofString)).text
    = Bytes.ofString "00007|ab|10" := by decide +kernel

end CompilerDriver.Shell
