import CompilerDriver.Shell.Builtin.Options

/-!
# Builtin commands on variables

Commands that set and show parameters, variables, options and other names of the shell.
-/

namespace CompilerDriver.Shell.Builtin

/-! ## Showing -/

/-- Variables by name, each on a line that sets it again, after a word. -/
def showVariables (word : Bytes) (chosen : Variable → Bool) : Act Nat := do
  let front := if word = [] then [] else word ++ [0x20]
  let all := ((← get).bindings.filter chosen).mergeSort fun v w => v.name.precedes w.name
  for v in all do
    Act.sayLine (front ++ v.name ++ match v.value with
      | some value => Bytes.equals :: quoted value
      | none => [])
  return 0

/-! ## Options -/

/-- The options by their long names, in the order in which they are shown. -/
def optionNames : List (String × Char) :=
  [("errexit", 'e'), ("noglob", 'f'), ("ignoreeof", 'I'), ("interactive", 'i'), ("monitor", 'm'),
    ("noexec", 'n'), ("stdin", 's'), ("xtrace", 'x'), ("verbose", 'v'), ("vi", 'V'), ("emacs", 'E'),
    ("noclobber", 'C'), ("allexport", 'a'), ("notify", 'b'), ("nounset", 'u')]

/-- Options without a letter, which change nothing. -/
def idleOptions : List String := ["nolog", "debug"]

/-- Sets an option, or takes it back. -/
def setOption (letter : UInt8) (value : Bool) : Act Unit := do
  unless letter ∈ State.optionLetters do
    Act.fail (Bytes.ofString "Illegal option -" ++ [letter])
  modify fun s =>
    let others := s.options.filter (· ≠ letter)
    { s with options := if value then letter :: others else others }

/-- Sets an option by its long name, or takes it back. -/
def setNamedOption (name : Bytes) (value : Bool) : Act Unit := do
  match optionNames.find? fun o => Bytes.ofString o.1 = name with
  | some (_, letter) => setOption letter.toUInt8 value
  | none =>
    unless idleOptions.any fun o => Bytes.ofString o = name do
      Act.fail (Bytes.ofString "Illegal option -o " ++ name)

/-- Shows the options, as commands that set them again if `again` is set. -/
def showOptions (again : Bool) : Act Unit := do
  let s ← get
  let rows := optionNames.map (fun o => (o.1, s.has o.2.toUInt8)) ++ idleOptions.map (·, false)
  if again then
    for (name, value) in rows do
      Act.sayLine (Bytes.ofString ((if value then "set -o " else "set +o ") ++ name))
  else
    Act.sayLine (Bytes.ofString "Current option settings")
    for (name, value) in rows do
      let gap := "".pushn ' ' (16 - name.length)
      Act.sayLine (Bytes.ofString (name ++ gap ++ if value then "on" else "off"))

/-- The letters of one word; the words after it can hold a long name. -/
def setLetters (value : Bool) : Bytes → (after : List Bytes) → Act (List Bytes)
  | [], after => return after
  | letter :: rest, after => do
    if letter = 0x6f then
      match after with
      | name :: after =>
        setNamedOption name value
        setLetters value rest after
      | [] =>
        showOptions (!value)
        setLetters value rest []
    else
      setOption letter value
      setLetters value rest after

/-- Options in front of some words: what comes after them, and whether they were ended by a word of
their own. `fuel` is more than the number of words. -/
def setOptions : (fuel : Nat) → List Bytes → Act (List Bytes × Bool)
  | 0, words => return (words, false)
  | fuel + 1, words => do
    match words with
    | [0x2d, 0x2d] :: rest => return (rest, true)
    | [0x2d] :: rest =>
      modify fun s => { s with options := s.options.filter fun o => o ≠ 0x78 && o ≠ 0x76 }
      return (rest, false)
    | (0x2d :: letters) :: rest => setOptions fuel (← setLetters true letters rest)
    | (0x2b :: letters) :: rest => setOptions fuel (← setLetters false letters rest)
    | _ => return (words, false)

/-- Sets options and parameters, or shows all variables. -/
def setParameters (arguments : List Bytes) : Act Nat := do
  if arguments.isEmpty then return ← showVariables [] (·.value.isSome)
  let (parameters, isEnded) ← setOptions (arguments.length + 1) arguments
  if isEnded || !parameters.isEmpty then
    modify fun s => { s with parameters, optionIndex := 1, optionOffset := none }
  return 0

def shift (arguments : List Bytes) : Act Nat := do
  let count ← match arguments with
    | a :: _ => Act.number a
    | [] => pure 1
  if (← get).parameters.length < count then Act.fail (Bytes.ofString "can't shift that many")
  modify fun s =>
    { s with parameters := s.parameters.drop count, optionIndex := 1, optionOffset := none }
  return 0

/-! ## Variables -/

/-- A value for a variable, if the word gives one, and the name. -/
def assignmentOf (word : Bytes) : Bytes × Option Bytes :=
  match Bytes.cut? Bytes.equals word with
  | some (name, value) => (name, some value)
  | none => (word, none)

/-- Marks variables, and gives values to those that have one behind their name. -/
def mark (word : String) (marked : Variable → Bool) (change : Variable → Variable)
    (arguments : List Bytes) : Act Nat := do
  let o ← options "p" arguments
  if o.operands.isEmpty || o.has 'p' then return ← showVariables (Bytes.ofString word) marked
  for a in o.operands do
    let (name, value) := assignmentOf a
    Act.checkName a
    match value with
    | some value => Act.assign name value
    | none => pure ()
    modify fun s => s.put (change <| (s.named? name).getD { name })
  return 0

def exportNames : List Bytes → Act Nat :=
  mark "export" (·.exported) fun v => { v with exported := true }

def readonly : List Bytes → Act Nat :=
  mark "readonly" (·.fixed) fun v => { v with fixed := true }

/-- Takes variables back, or functions. -/
def unset (arguments : List Bytes) : Act Nat := do
  let o ← options "vf" arguments
  let last := (o.given.getLast?.map (·.1)).getD 0
  for a in o.operands do
    if last ≠ 0x66 then
      Act.checkName a
      Act.checkFree a
      modify fun s => s.drop a
    if last = 0x66 then
      modify fun s => { s with functions := s.functions.filter fun f => f.1 ≠ a }
  return 0

/-- Makes variables local to a function. -/
def localNames (arguments : List Bytes) : Act Nat := do
  if (← get).hidden.isEmpty then Act.fail (Bytes.ofString "not in a function")
  for a in ← operands arguments do
    let (name, value) := assignmentOf a
    unless name = [Bytes.dash] do
      Act.hide name
      match value with
      | some value =>
        Act.checkName name
        Act.assign name value
      | none =>
        if ((← get).named? name).isNone then
          Act.checkName name
          modify fun s => s.put { name }
  return 0

/-! ## Aliases -/

/-- The line that shows an alias. -/
def aliasLine (name text : Bytes) : Bytes := name ++ Bytes.equals :: quoted text

/-- Sets aliases, or shows them. -/
def setAliases (arguments : List Bytes) : Act Nat := do
  match ← operands arguments with
  | [] =>
    for (name, text) in (← get).aliases do Act.sayLine (aliasLine name text)
    return 0
  | words =>
    words.foldlM (fun status a => do
      match assignmentOf a, (← get).aliases.find? fun x => x.1 = a with
      | (name, some text), _ =>
        modify fun s =>
          { s with aliases := (s.aliases.filter fun x => x.1 ≠ name) ++ [(name, text)] }
        return status
      | (name, none), some (_, text) =>
        Act.sayLine (aliasLine name text)
        return status
      | (name, none), none =>
        Act.tell (Bytes.ofString "alias: " ++ name ++ Bytes.ofString " not found\n")
        return 1) 0

/-- Takes aliases back. -/
def dropAliases (arguments : List Bytes) : Act Nat := do
  let o ← options "a" arguments
  if o.has 'a' then
    modify fun s => { s with aliases := [] }
    return 0
  o.operands.foldlM (fun status name => do
    if (← get).aliases.any fun x => x.1 = name then
      modify fun s => { s with aliases := s.aliases.filter fun x => x.1 ≠ name }
      return status
    else
      Act.tell (Bytes.ofString "unalias: " ++ name ++ Bytes.ofString " not found\n")
      return 1) 0

end CompilerDriver.Shell.Builtin
