import CompilerDriver.Shell.State

/-!
# Options of builtin commands

Letters behind a dash, several of them in one word, and an argument behind a letter that takes one,
in the same word or the next. `--` ends them, and so does the first word that is no option.
-/

namespace CompilerDriver.Shell.Builtin

/-- The letters that a command knows, each with whether it takes an argument. A colon stands behind
one that does. -/
def knownLetters : List Char → List (UInt8 × Bool)
  | letter :: ':' :: rest => (letter.toUInt8, true) :: knownLetters rest
  | letter :: rest => (letter.toUInt8, false) :: knownLetters rest
  | [] => []

/-- Options that have been read: the letters with their arguments, and the words after them. -/
structure Options where
  given : List (UInt8 × Bytes) := []
  operands : List Bytes
deriving DecidableEq, Repr

/-- Whether an option has been given. -/
def Options.has (o : Options) (letter : Char) : Bool := o.given.any fun g => g.1 = letter.toUInt8

/-- The options of one word; the words after it can hold an argument. -/
def lettersOf (known : List (UInt8 × Bool)) : Bytes → (after : List Bytes) → Act Options
  | [], after => return { operands := after }
  | letter :: rest, after => do
    match (known.find? fun k => k.1 = letter).map (·.2) with
    | none => Act.fail (Bytes.ofString "Illegal option -" ++ [letter])
    | some false =>
      let more ← lettersOf known rest after
      return { more with given := (letter, []) :: more.given }
    | some true =>
      match rest, after with
      | [], [] => Act.fail (Bytes.ofString "No arg for -" ++ letter :: Bytes.ofString " option")
      | [], argument :: after => return { given := [(letter, argument)], operands := after }
      | argument, after => return { given := [(letter, argument)], operands := after }

/-- Reads words with options. `fuel` is at least the number of words. -/
def readOptions (known : List (UInt8 × Bool)) : (fuel : Nat) → List Bytes → Act Options
  | 0, words => return { operands := words }
  | fuel + 1, words => do
    match words with
    | (0x2d :: letter :: letters) :: after =>
      if letter = Bytes.dash && letters = [] then return { operands := after }
      let first ← lettersOf known (letter :: letters) after
      let more ← readOptions known fuel first.operands
      return { more with given := first.given ++ more.given }
    | _ => return { operands := words }

/-- The options in front of some arguments, and what comes after them. -/
def options (letters : String) (arguments : List Bytes) : Act Options :=
  readOptions (knownLetters letters.toList) (arguments.length + 1) arguments

/-- The arguments behind options of a command that knows none. -/
def operands (arguments : List Bytes) : Act (List Bytes) :=
  return (← options "" arguments).operands

/-- A text in single quotes, as it can be read again; single quotes stand in double ones. `quotes`
counts the single quotes that have been met. -/
def quoted (text : Bytes) : Bytes :=
  let rec go : (quotes : Nat) → Bytes → Bytes
    | 0, [] => [0x27]
    | n, [] => 0x22 :: List.replicate n 0x27 ++ [0x22]
    | 0, b :: rest => if b = 0x27 then 0x27 :: go 1 rest else b :: go 0 rest
    | n, b :: rest =>
      if b = 0x27 then go (n + 1) rest
      else 0x22 :: List.replicate n 0x27 ++ [0x22, 0x27, b] ++ go 0 rest
  0x27 :: go 0 text

end CompilerDriver.Shell.Builtin
