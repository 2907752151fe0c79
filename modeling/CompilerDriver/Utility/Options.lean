import CompilerDriver.Utility.Work

/-!
# Options of utilities

Letters behind one dash, words behind two, and values for those that take one. Options and operands
can stand in any order, unless the first operand ends the options; `--` ends them in any case. A long
word can be shortened as long as it is clear which one is meant.
-/

namespace CompilerDriver.Utility

/-- Whether an option takes a value. -/
inductive Takes where
  | nothing
  | value
  /-- Only one that is attached to it. -/
  | maybe
deriving DecidableEq, Repr

/-- An option: its letter or its long word or both. -/
structure Flag where
  letter : Option Char := none
  long : String := ""
  takes : Takes := .nothing
deriving DecidableEq, Repr

/-- What an option is known by: its letter if it has one. -/
def Flag.key (f : Flag) : String :=
  match f.letter with
  | some letter => letter.toString
  | none => f.long

/-- The options of a utility as its description lists them, with blanks between them: a letter, a
long word, or both with a slash between them, and at the end an equals sign if they take a value and
a question mark if the value has to be attached. -/
def flags (description : String) : List Flag :=
  (description.splitOn " ").filterMap fun item =>
    let takes := if item.endsWith "=" then .value else if item.endsWith "?" then .maybe else .nothing
    let item := if takes = Takes.nothing then item else (item.dropEnd 1).toString
    match item.splitOn "/" with
    | [short, long] => some { letter := short.toList.head?, long, takes }
    | [only] =>
      if only.length = 1 then some { letter := only.toList.head?, takes }
      else if only = "" then none
      else some { long := only, takes }
    | _ => none

/-- Options and operands that have been read. -/
structure Given where
  options : List (String × Bytes) := []
  operands : List Bytes := []
deriving DecidableEq, Repr

namespace Given

/-- Whether an option has been given. -/
def has (g : Given) (key : String) : Bool := g.options.any fun o => o.1 = key

/-- The last value of an option. -/
def value? (g : Given) (key : String) : Option Bytes :=
  (g.options.reverse.find? fun o => o.1 = key).map (·.2)

/-- The last of some options that has been given. -/
def lastOf (g : Given) (keys : List String) : Option String :=
  (g.options.reverse.find? fun o => o.1 ∈ keys).map (·.1)

end Given

section

variable (known : List Flag) (code : Nat)

/-- The options of one word of letters, and the words after it without a value that one takes. -/
def readLetters : Bytes → (after : List Bytes) → Work (List (String × Bytes) × List Bytes)
  | [], after => return ([], after)
  | letter :: rest, after => do
    match known.find? fun f => f.letter.any fun c => c.toUInt8 = letter with
    | none => Work.failUsage (Bytes.ofString "invalid option -- '" ++ [letter, 0x27]) code
    | some f =>
      match f.takes, rest, after with
      | .nothing, _, _ =>
        let (more, after) ← readLetters rest after
        return ((f.key, []) :: more, after)
      | .value, [], [] =>
        Work.failUsage (Bytes.ofString "option requires an argument -- '" ++ [letter, 0x27]) code
      | .value, [], value :: after => return ([(f.key, value)], after)
      | _, value, after => return ([(f.key, value)], after)

/-- The option that a long word means. -/
def longFlag (word : Bytes) : Work Flag := do
  let all := known.filter fun f => f.long ≠ ""
  match all.find? fun f => Bytes.ofString f.long = word with
  | some f => return f
  | none =>
    match all.filter fun f => word.isPrefixOf (Bytes.ofString f.long) with
    | [f] => return f
    | [] =>
      Work.failUsage (Bytes.ofString "unrecognized option '--" ++ word ++ [0x27]) code
    | several =>
      let possible := several.flatMap fun f => Bytes.ofString (" '--" ++ f.long ++ "'")
      Work.failUsage (Bytes.ofString "option '--" ++ word ++
        Bytes.ofString "' is ambiguous; possibilities:" ++ possible) code

/-- The option of one long word, and the words after it without its value. -/
def readLong (word : Bytes) (after : List Bytes) : Work ((String × Bytes) × List Bytes) := do
  let (name, attached) := match Bytes.cut? Bytes.equals word with
    | some (name, value) => (name, some value)
    | none => (word, none)
  let f ← longFlag known code name
  let long := Bytes.ofString f.long
  match f.takes, attached, after with
  | .nothing, some _, _ =>
    Work.failUsage (Bytes.ofString "option '--" ++ long ++
      Bytes.ofString "' doesn't allow an argument") code
  | .value, none, [] =>
    Work.failUsage (Bytes.ofString "option '--" ++ long ++
      Bytes.ofString "' requires an argument") code
  | .value, none, value :: after => return ((f.key, value), after)
  | _, value, after => return ((f.key, value.getD []), after)

/-- Reads words. Behind the first operand there are no more options if `strict` is set. `fuel` is
more than the number of words. -/
def readWords (strict : Bool) : (fuel : Nat) → List Bytes → Work Given
  | 0, words => return { operands := words }
  | fuel + 1, words => do
    match words with
    | [] => return {}
    | word :: after =>
      match word with
      | 0x2d :: 0x2d :: long =>
        if long = [] then return { operands := after }
        let (option, after) ← readLong known code long after
        let more ← readWords strict fuel after
        return { more with options := option :: more.options }
      | 0x2d :: letter :: letters =>
        let (first, after) ← readLetters known code (letter :: letters) after
        let more ← readWords strict fuel after
        return { more with options := first ++ more.options }
      | operand =>
        if strict then return { operands := word :: after }
        let more ← readWords strict fuel after
        return { more with operands := operand :: more.operands }

end

/-- The options and operands of a utility. Asked for help or its version, it ends. -/
def readGiven (description : String) (strict : Bool := false) (code : Nat := 1) : Work Given := do
  let words ← Work.arguments
  let known := flags (description ++ " help version")
  let given ← readWords known code strict (words.length + 1) words
  if given.has "help" || given.has "version" then Work.quit 0
  return given

end CompilerDriver.Utility
