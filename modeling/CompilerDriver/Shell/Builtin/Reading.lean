import CompilerDriver.Shell.Builtin.Options

/-!
# Builtin commands that read

`read` takes a line of the input apart, `getopts` the options of the script.
-/

namespace CompilerDriver.Shell.Builtin

/-! ## Lines -/

/-- Bytes of a line, each protected by a backslash or not. The backslashes themselves go. -/
def unprotected : Bytes → List (UInt8 × Bool)
  | [] => []
  | [b] => if b = 0x5c then [] else [(b, false)]
  | b :: c :: rest =>
    if b = 0x5c then (c, true) :: unprotected rest else (b, false) :: unprotected (c :: rest)

/-- Lines as long as each is joined to the next by a backslash at its end, and whether the last one
was ended. -/
def readJoined (d : Descriptors) : (fuel : Nat) → Machine →
    Except OsError ((List (UInt8 × Bool) × Bool) × Machine)
  | 0, m => .ok (([], false), m)
  | fuel + 1, m => do
    let ((line, whole), m) ← m.readLine d 0
    let slashes := (line.reverse.takeWhile (· = 0x5c)).length
    if whole && slashes % 2 = 1 then
      let ((more, whole), m) ← readJoined d fuel m
      return ((unprotected line.dropLast ++ more, whole), m)
    else return ((unprotected line, whole), m)

/-- A blank that separates fields. -/
def isGap (separators : Bytes) (b : UInt8 × Bool) : Bool :=
  !b.2 && b.1 ∈ separators && isGapByte b.1

/-- Any byte that separates fields. -/
def isSeparator (separators : Bytes) (b : UInt8 × Bool) : Bool := !b.2 && b.1 ∈ separators

/-- The text after the separator it starts with: blanks around one other separator. -/
def afterSeparator (separators : Bytes) (text : List (UInt8 × Bool)) : List (UInt8 × Bool) :=
  let text := text.dropWhile (isGap separators)
  match text with
  | b :: rest => if isSeparator separators b then rest.dropWhile (isGap separators) else text
  | [] => []

/-- What is left for the last variable: the only field, or several of them as they stand. -/
def lastField (separators : Bytes) (text : List (UInt8 × Bool)) : Bytes :=
  match cutFields separators (text.map fun (b, quoted) => .byte b quoted (!quoted)) with
  | [] => []
  | [only] => only.text
  | _ => Field.text (text.reverse.dropWhile (isGap separators)).reverse

/-- The values of some variables: a field each, and the rest for the last. -/
def fieldsFor (separators : Bytes) : List Bytes → List (UInt8 × Bool) → List (Bytes × Bytes)
  | [], _ => []
  | [name], text => [(name, lastField separators text)]
  | name :: names, text =>
    let field := text.takeWhile fun b => !isSeparator separators b
    let rest := afterSeparator separators (text.drop field.length)
    (name, Field.text field) :: fieldsFor separators names rest

/-- Reads a line into variables. Fails at the end of the input, also if a last line is not ended. -/
def read (arguments : List Bytes) : Act Nat := do
  let o ← options "p:r" arguments
  if o.operands.isEmpty then Act.fail (Bytes.ofString "arg count")
  let s ← get
  let result :=
    if o.has 'r' then do
      let ((line, whole), m) ← s.machine.readLine s.descriptors 0
      return ((line.map fun b => (b, false), whole), m)
    else readJoined s.descriptors (s.machine.input.length + 1048576) s.machine
  let ((line, whole), machine) := result.toOption.getD (([], false), s.machine)
  set { s with machine }
  let text := (line.filter fun b => b.1 ≠ 0).dropWhile (isGap s.separators)
  for (name, value) in fieldsFor s.separators o.operands text do
    Act.checkName name
    Act.assign name value
  return if whole then 0 else 1

/-! ## Options of the script -/

/-- What looking for an option has come to. -/
structure Found where
  /-- What the variable is set to. -/
  letter : UInt8
  /-- The argument; none if there is to be none, not even an empty one. -/
  argument : Option Bytes
  /-- What is said. -/
  message : Bytes := []
  /-- The number of the next argument, and how much of the one before has been looked at. -/
  index : Nat
  offset : Option Nat
  done : Bool := false

/-- The argument, or its part, in which an option is looked for next, with the number of the
argument after it. Nothing if there are no more options. -/
def optionText? (index : Nat) (offset : Option Nat) (arguments : List Bytes) :
    Except Nat (Bytes × Nat) :=
  let begun := match offset with
    | some offset => if 1 < index then ((arguments[index - 2]?).getD []).drop offset else []
    | none => []
  if begun ≠ [] then .ok (begun, index)
  else match arguments[index - 1]? with
    | some (0x2d :: letter :: letters) =>
      if letter = Bytes.dash && letters = [] then .error (index + 1)
      else .ok (letter :: letters, index + 1)
    | _ => .error index

/-- Looks for the next option among some arguments. -/
def findOption (known : Bytes) (index : Nat) (offset : Option Nat) (arguments : List Bytes) :
    Found :=
  let silent := known.head? = some 0x3a
  let letters := knownLetters (((if silent then known.drop 1 else known).map fun b =>
    Char.ofNat b.toNat))
  match optionText? index offset arguments with
  | .error index =>
    { letter := 0x3f, argument := some [], index, offset := none, done := true }
  | .ok ([], index) =>
    { letter := 0x3f, argument := some [], index, offset := none, done := true }
  | .ok (letter :: rest, index) =>
    let offset := if rest = [] then none
      else some (((arguments[index - 2]?).getD []).length - rest.length)
    let wrong := fun (text : String) (index : Nat) (offset : Option Nat) (sign : UInt8) =>
      if silent then { letter := sign, argument := some [letter], index, offset : Found }
      else
        { letter := 0x3f, argument := none, index, offset
          message := Bytes.ofString text ++ [letter] }
    match (letters.find? fun k => k.1 = letter).map (·.2) with
    | none => wrong "Illegal option -" index offset 0x3f
    | some false => { letter, argument := some [], index, offset }
    | some true =>
      match rest, arguments[index - 1]? with
      | [], none =>
        let found := wrong "No arg for -" index none 0x3a
        if silent then found
        else { found with message := found.message ++ Bytes.ofString " option" }
      | [], some argument => { letter, argument := some argument, index := index + 1, offset := none }
      | argument, _ => { letter, argument := some argument, index, offset := none }

/-- Finds the next option of the script, or of further arguments. -/
def getopts (arguments : List Bytes) : Act Nat := do
  match ← operands arguments with
  | known :: name :: rest =>
    let s ← get
    let arguments := if rest.isEmpty then s.parameters else rest
    let found := findOption known s.optionIndex s.optionOffset arguments
    let variableName := Bytes.ofString "OPTARG"
    if found.message ≠ [] then Act.tell (found.message ++ [Bytes.newline])
    unless found.done do
      match found.argument with
      | some argument => Act.assign variableName argument
      | none => modify fun s => s.drop variableName
    Act.assign (Bytes.ofString "OPTIND") (Bytes.decimal found.index)
    Act.checkName name
    Act.assign name [found.letter]
    modify fun s => { s with optionIndex := found.index, optionOffset := found.offset }
    return if found.done then 1 else 0
  | _ => Act.fail (Bytes.ofString "Usage: getopts optstring var [arg...]")

end CompilerDriver.Shell.Builtin
