import CompilerDriver.Shell.Condition
import CompilerDriver.Shell.Format
import CompilerDriver.Utility.Texts

/-!
# Utilities on their words

Utilities that write their words in some form, or decide on them.
-/

namespace CompilerDriver.Utility

/-- The value of a hexadecimal digit. -/
def hexDigit? (b : UInt8) : Option Nat :=
  (Shell.Number.digit? b).bind fun n => if n < 16 then some n else none

/-- A text with its backslash sequences replaced, and whether one ended it. `fuel` is at least the
length. -/
def unescape : (fuel : Nat) → Bytes → Bytes × Bool
  | 0, _ => ([], false)
  | _, [] => ([], false)
  | fuel + 1, b :: rest =>
    let put := fun (byte : UInt8) (rest : Bytes) =>
      let (text, ended) := unescape fuel rest
      (byte :: text, ended)
    if b ≠ 0x5c then put b rest
    else match rest with
      | [] => put b []
      | c :: more =>
        if c = 0x63 then ([], true)
        else if c = 0x65 then put 0x1b more
        else if c = 0x78 then
          match (more.take 2).takeWhile fun d => (hexDigit? d).isSome with
          | [] => put b rest
          | digits =>
            put (UInt8.ofNat (Shell.Number.ofDigits 16 digits)) (more.drop digits.length)
        else if c = 0x30 then
          let digits := (more.take 3).takeWhile Shell.isOctal
          put (UInt8.ofNat (Shell.Number.ofDigits 8 digits)) (more.drop digits.length)
        else
          let (byte, after) := Shell.escaped rest
          put byte after

/-- Writes its words. Options are known by all their letters; sequences are replaced only if asked
for. -/
def echo : Work Unit := do
  let words ← Work.arguments
  let isOption : Bytes → Bool := fun a => match a with
    | 0x2d :: letters => letters ≠ [] && letters.all fun b => b ∈ Bytes.ofString "neE"
    | _ => false
  let letters := (words.takeWhile isOption).flatMap (·.tail)
  let text := Bytes.join 0x20 (words.dropWhile isOption)
  let replaces := (letters.reverse.find? fun b => b = 0x65 || b = 0x45) = some 0x65
  let (text, ended) := if replaces then unescape text.length text else (text, false)
  Work.say (if ended || 0x6e ∈ letters then text else text ++ [Bytes.newline])

/-- Writes its words in a format. -/
def printf : Work Unit := do
  let words ← Work.arguments
  let words := if words.head? = some (Bytes.ofString "--") then words.tail else words
  match words with
  | [] => Work.failUsage (Bytes.ofString "missing operand")
  | format :: rest =>
    let p := Shell.printed format rest
    for fault in p.faults do Work.complain fault
    match p.wrong with
    | none => Work.say p.text
    | some fault =>
      Work.say p.text
      Work.fail fault

/-- Decides on a condition. In brackets, the closing one has to be there. -/
def test (bracketed : Bool) : Work Unit := do
  let words ← Work.arguments
  if bracketed && words.getLast? ≠ some [0x5d] then Work.fail (Bytes.ofString "missing ']'") 2
  let words := if bracketed then words.dropLast else words
  match Shell.Condition.holds (← Work.files) words with
  | .ok true => pure ()
  | .ok false => Work.quit 1
  | .error fault => Work.fail fault.message 2

/-- A number in decimal with a sign: the digits, and how many of them stand behind the point. -/
structure Stepped where
  digits : Int
  places : Nat := 0
deriving DecidableEq, Repr

/-- A written number. -/
def Stepped.ofBytes? (text : Bytes) : Option Stepped :=
  let (negative, text) := match text.dropWhile Bytes.isSpace with
    | 0x2d :: rest => (true, rest)
    | 0x2b :: rest => (false, rest)
    | rest => (false, rest)
  let whole := text.takeWhile Bytes.isDigit
  let (part, rest) := match text.drop whole.length with
    | 0x2e :: rest => (rest.takeWhile Bytes.isDigit, rest.dropWhile Bytes.isDigit)
    | rest => ([], rest)
  if whole = [] && part = [] || rest ≠ [] then none
  else
    let n : Int := Bytes.ofDigits (whole ++ part)
    some { digits := if negative then -n else n, places := part.length }

/-- The digits with more decimal places. -/
def Stepped.withPlaces (n : Stepped) (places : Nat) : Int :=
  n.digits * Int.ofNat (Nat.pow 10 (places - n.places))

/-- Numbers from one to another, as many as there are. `fuel` is at least their number. -/
def numbersFrom (first step last : Int) : (fuel : Nat) → List Int
  | 0 => []
  | fuel + 1 =>
    if (0 < step && last < first) || (step < 0 && first < last) then []
    else first :: numbersFrom (first + step) step last fuel

/-- A number with decimal places. -/
def placed (places : Nat) (n : Int) : Bytes :=
  let sign := if n < 0 then [Bytes.dash] else []
  sign ++ (Shell.Fraction.mk n.natAbs (Nat.pow 10 places)).fixed places false

/-- Writes numbers in order. -/
def seq : Work Unit := do
  let words ← Work.arguments
  let isNumber := fun (word : Bytes) => (Stepped.ofBytes? word).isSome
  let g ← if words.all isNumber then pure { operands := words : Given }
    else readGiven "f/format= s/separator= w/equal-width" true
  requireOperands g.operands
  limitOperands g.operands 3
  let numbers ← g.operands.mapM fun word =>
    match Stepped.ofBytes? word with
    | some n => pure n
    | none =>
      Work.failUsage (Bytes.ofString "invalid floating point argument: " ++ quoted word)
  let one : Stepped := { digits := 1 }
  let (first, step, last) := match numbers with
    | [last] => (one, one, last)
    | [first, last] => (first, one, last)
    | first :: step :: last :: _ => (first, step, last)
    | [] => (one, one, { digits := 0 })
  if step.digits = 0 then
    Work.failUsage (Bytes.ofString "invalid Zero increment value: " ++
      quoted (g.operands[1]?.getD []))
  let places := max first.places step.places
  let common := max places last.places
  let low := first.withPlaces common
  let high := last.withPlaces common
  let all := (numbersFrom low (step.withPlaces common) high ((high - low).natAbs + 1)).map
    fun (n : Int) => n / Int.ofNat (Nat.pow 10 (common - places))
  let width := (all.map fun n => (placed places n).length).foldl max 0
  let written := fun (n : Int) =>
    let text := placed places n
    if g.has "w" then
      let sign := if n < 0 then [Bytes.dash] else []
      sign ++ List.replicate (width - text.length) 0x30 ++ text.drop sign.length
    else match g.value? "f" with
      | some format => (Shell.printed format [text]).text
      | none => text
  let separator := (g.value? "s").getD [Bytes.newline]
  unless all.isEmpty do
    Work.say (List.intercalate separator (all.map written) ++ [Bytes.newline])

/-- As many lines as a reader could want. -/
def yesCount : Nat := 10000

/-- Writes a line over and over. -/
def yes : Work Unit := do
  let words ← Work.arguments
  let line := if words.isEmpty then [0x79] else Bytes.join 0x20 words
  Work.say (List.replicate yesCount (line ++ [Bytes.newline])).flatten

/-- Tells who is at work. -/
def whoami : Work Unit := do
  let g ← readGiven ""
  limitOperands g.operands 0
  Work.sayLine (Bytes.ofString "root")

/-- Tells the numbers and names of who is at work. -/
def identity : Work Unit := do
  let g ← readGiven "u/user g/group G/groups n/name r/real z/zero"
  let text := if g.has "u" || g.has "g" || g.has "G" then if g.has "n" then "root" else "0"
    else "uid=0(root) gid=0(root) groups=0(root)"
  Work.sayLine (Bytes.ofString text)

/-! ## The system -/

/-- What is known about the system, by the letter that asks for it, in the order in which it is
shown. -/
def systemFacts : List (String × String) :=
  [("s", "Linux"), ("n", "localhost"), ("r", "6.1.0"), ("v", "#1 SMP"), ("m", "x86_64"),
    ("o", "GNU/Linux")]

/-- Tells what is known about the system. -/
def uname : Work Unit := do
  let g ← readGiven "a/all s/kernel-name n/nodename r/kernel-release v/kernel-version m/machine p/processor i/hardware-platform o/operating-system"
  limitOperands g.operands 0
  let asked := systemFacts.filter fun f => g.has f.1 || g.has "a"
  let facts := if g.options.isEmpty then systemFacts.take 1 else asked
  Work.sayLine (Bytes.ofString (" ".intercalate (facts.map (·.2))))

/-- A utility that writes a line that is always the same. -/
def fixed (name line : String) : Utility :=
  ⟨name, do
    let _ ← readGiven ""
    Work.sayLine (Bytes.ofString line)⟩

/-- Tells that there is no terminal. -/
def tty : Work Unit := do
  let g ← readGiven "s/silent quiet"
  unless g.has "s" do Work.say (Bytes.ofString "not a tty\n")
  Work.quit 1

/-- The utilities on words. -/
def wordUtilities : List Utility :=
  [⟨"true", pure ()⟩, ⟨"false", Work.quit 1⟩, ⟨"echo", echo⟩, ⟨"printf", printf⟩,
    ⟨"test", test false⟩, ⟨"[", test true⟩, ⟨"seq", seq⟩, ⟨"yes", yes⟩, ⟨"whoami", whoami⟩,
    ⟨"id", identity⟩, ⟨"uname", uname⟩, ⟨"tty", tty⟩, fixed "arch" "x86_64", fixed "nproc" "1",
    fixed "hostname" "localhost", fixed "logname" "root", fixed "groups" "root",
    ⟨"sync", pure ()⟩, ⟨"date", Work.sayLine (Bytes.ofString "Thu Jan  1 00:00:00 UTC 1970")⟩]

end CompilerDriver.Utility
