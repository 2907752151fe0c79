import CompilerDriver.Text.Regex.Reading

/-!
# Scripts of the stream editor

A script is a list of commands, each with the lines it is for. A block is its opening brace with the
place behind its closing brace; a jump names a label. The text of a script is read from left to right,
and what is wrong with it is told with the number of bytes read so far.
-/

namespace CompilerDriver.Utility.StreamEditor

open Text

/-- A regular expression in a script; the empty one stands for the last that was used. -/
structure Expression where
  regex : Option Regex
  manner : Regex.Manner := {}

/-- A line by itself. -/
inductive Address where
  | line (number : Nat)
  /-- Every so many lines from one on. -/
  | every (first step : Nat)
  | last
  | fits (e : Expression)

/-- Where a range of lines ends. -/
inductive RangeEnd where
  | address (a : Address)
  /-- So many lines later. -/
  | after (count : Nat)
  /-- At the next line whose number is a multiple. -/
  | multiple (of : Nat)

/-- The lines that a command is for. -/
structure Selection where
  first : Option Address := none
  ending : Option RangeEnd := none
  negated : Bool := false

/-- What follows in a replacement. -/
inductive Replacement where
  | text (bytes : Bytes)
  /-- What a group has been, or for number 0 the whole stretch. -/
  | group (number : Nat)
  /-- A change of case, by its letter. -/
  | cases (letter : UInt8)

/-- A file that is written to. -/
inductive Target where
  | output
  | errors
  | file (path : Bytes)

/-- A substitution. -/
structure Substitution where
  expression : Expression
  replacement : List Replacement
  /-- The number of the first stretch that is replaced. -/
  occurrence : Nat := 1
  /-- Whether those after it are replaced too. -/
  all : Bool := false
  prints : Bool := false
  target : Option Target := none

/-- What a command does. -/
inductive Action where
  /-- Goes on behind the block, unless it is for the line. -/
  | block (behind : Nat)
  | endOfBlock
  | label (name : Bytes)
  /-- A command that is a letter and nothing else. -/
  | plain (letter : UInt8)
  /-- Text for before, after or instead of a line, by the letter. -/
  | text (letter : UInt8) (text : Bytes)
  /-- A jump: always, if something has been substituted, or if nothing has, by the letter. -/
  | jump (letter : UInt8) (label : Bytes)
  | quit (silent : Bool) (code : Nat)
  | list (width : Option Nat)
  /-- Reads a file, or a line of one, by the letter. -/
  | read (letter : UInt8) (path : Bytes)
  | write (firstLine : Bool) (target : Target)
  | substitute (s : Substitution)
  | exchange (pairs : List (UInt8 × UInt8))

/-- A command of a script. -/
structure Command where
  selection : Selection := {}
  action : Action

/-- A fault in a script: what is left of it, and what is said. -/
structure Fault where
  rest : Nat
  message : String

/-- A script that is read: the text that is left. -/
abbrev Reading (α : Type) := ExceptT Fault (StateM Bytes) α

namespace Reading

/-- Gives up. -/
def fail {α : Type} (message : String) : Reading α := do
  throw ⟨(← get).length, message⟩

/-- The next byte, which is taken. -/
def take? : Reading (Option UInt8) := do
  match ← get with
  | b :: rest =>
    set rest
    return some b
  | [] => return none

/-- Takes bytes as long as they are of a kind. -/
def takeWhile (isKind : UInt8 → Bool) : Reading Bytes := do
  let text ← get
  let taken := text.takeWhile isKind
  set (text.drop taken.length)
  return taken

/-- Takes blanks. -/
def skipBlanks : Reading Unit := do
  let _ ← takeWhile fun b => Bytes.isSpace b && b ≠ Bytes.newline

/-- Takes the end of a command. -/
def endCommand : Reading Unit := do
  skipBlanks
  match ← get with
  | [] => return
  | b :: rest =>
    if b = Bytes.newline || b = 0x3b then set rest
    else if b = 0x7d || b = 0x23 then return
    else
      set rest
      fail "extra characters after command"

end Reading

/-- What stands up to a delimiter, and the text behind it; no line end may come before. A delimiter or
a line end behind a backslash is one of the bytes; a backslash in front of anything else stays. -/
def delimited? (delimiter : UInt8) : Bytes → Option (Bytes × Bytes)
  | [] => none
  | [b] => if b = delimiter then some ([], []) else none
  | b :: c :: rest =>
    if b = Bytes.newline then none
    else if b = delimiter then some ([], c :: rest)
    else if b = 0x5c then
      if c = delimiter || c = Bytes.newline then
        (delimited? delimiter rest).map fun (text, rest) => (c :: text, rest)
      else (delimited? delimiter rest).map fun (text, rest) => (b :: c :: text, rest)
    else (delimited? delimiter (c :: rest)).map fun (text, rest) => (b :: text, rest)

/-- The byte that a letter behind a backslash stands for. -/
def control? (letter : UInt8) : Option UInt8 :=
  let table : List (Char × UInt8) :=
    [('a', 0x07), ('f', 0x0c), ('n', 0x0a), ('r', 0x0d), ('t', 0x09), ('v', 0x0b)]
  (table.find? fun t => t.1.toUInt8 = letter).map (·.2)

/-- An expression with its control letters turned into bytes. -/
def withControls : Bytes → Bytes
  | [] => []
  | [b] => [b]
  | b :: c :: rest =>
    if b = 0x5c then
      match control? c with
      | some control => control :: withControls rest
      | none => b :: c :: withControls rest
    else b :: withControls (c :: rest)

section

variable (extended : Bool)

/-- An expression with the letters behind it that say how it is meant. -/
def expressionOf (text : Bytes) (manner : Regex.Manner) : Reading Expression := do
  if text = [] then return { regex := none, manner }
  match Regex.ofBytes extended false (withControls text) with
  | .ok r => return { regex := some r, manner }
  | .error fault => Reading.fail fault.message

/-- The letters behind an address. -/
def addressManner : Reading Regex.Manner := do
  let letters ← Reading.takeWhile fun b => b = 0x49 || b = 0x4d
  return { anyCase := 0x49 ∈ letters, byLines := 0x4d ∈ letters }

/-- An expression as an address, behind its opening delimiter. -/
def readExpression (delimiter : UInt8) : Reading Address := do
  match delimited? delimiter (← get) with
  | none =>
    set ([] : Bytes)
    Reading.fail "unterminated address regex"
  | some (text, rest) =>
    set rest
    let manner ← addressManner
    return .fits (← expressionOf extended text manner)

/-- A number. -/
def readNumber : Reading Nat := Bytes.ofDigits <$> Reading.takeWhile Bytes.isDigit

/-- An address, if one stands there. -/
def readAddress : Reading (Option Address) := do
  match ← get with
  | b :: rest =>
    if Bytes.isDigit b then
      let first ← readNumber
      match ← get with
      | 0x7e :: rest =>
        set rest
        return some (.every first (← readNumber))
      | _ => return some (.line first)
    if b = 0x24 then
      set rest
      return some .last
    if b = 0x2f then
      set rest
      return some (← readExpression extended b)
    if b = 0x5c then
      match rest with
      | delimiter :: rest =>
        set rest
        return some (← readExpression extended delimiter)
      | [] => Reading.fail "unexpected \x60,'"
    return none
  | [] => return none

/-- The end of a range. -/
def readRangeEnd : Reading RangeEnd := do
  match ← get with
  | 0x2b :: rest =>
    set rest
    return .after (← readNumber)
  | 0x7e :: rest =>
    set rest
    return .multiple (← readNumber)
  | _ =>
    match ← readAddress extended with
    | some a => return .address a
    | none => Reading.fail "unexpected \x60,'"

/-- The lines that a command is for. -/
def readSelection : Reading Selection := do
  let first ← readAddress extended
  Reading.skipBlanks
  let ending ← match first, (← get) with
    | some _, 0x2c :: rest =>
      set rest
      Reading.skipBlanks
      pure (some (← readRangeEnd extended))
    | _, _ => pure none
  match first, ending with
  | some (.line 0), some (.address (.fits _)) => pure ()
  | some (.line 0), _ => Reading.fail "invalid usage of line address 0"
  | _, _ => pure ()
  Reading.skipBlanks
  let signs ← Reading.takeWhile fun b => b = 0x21 || b = 0x20
  if 1 < (signs.filter (· = 0x21)).length then Reading.fail "multiple \x60!'s"
  return { first, ending, negated := 0x21 ∈ signs }

/-! ## Arguments -/

/-- The rest of the line, without the line end, which is taken. -/
def readRestOfLine : Reading Bytes := do
  let line ← Reading.takeWhile (· ≠ Bytes.newline)
  let _ ← Reading.take?
  return line

/-- The name of a file. -/
def readFileName : Reading Bytes := do
  Reading.skipBlanks
  let name ← readRestOfLine
  if name = [] then Reading.fail "missing filename in r/R/w/W commands"
  return name

/-- The file that a name stands for. -/
def targetOf (name : Bytes) : Target :=
  if name = Bytes.ofString "/dev/stdout" then .output
  else if name = Bytes.ofString "/dev/stderr" then .errors
  else .file name

/-- A label behind a jump. -/
def readLabel : Reading Bytes := do
  Reading.skipBlanks
  let label ← Reading.takeWhile fun b => !Bytes.isSpace b && b ≠ 0x3b && b ≠ 0x7d
  Reading.endCommand
  return label

/-- A text up to a line end that no backslash stands before; each backslash is taken off. -/
def plainText : Bytes → Bytes × Bytes
  | [] => ([], [])
  | [b] => if b = Bytes.newline || b = 0x5c then ([], []) else ([b], [])
  | b :: c :: rest =>
    if b = Bytes.newline then ([], c :: rest)
    else if b = 0x5c then
      let (text, rest) := plainText rest
      (c :: text, rest)
    else
      let (text, rest) := plainText (c :: rest)
      (b :: text, rest)

/-- The text of a command that has one. -/
def readText : Reading Bytes := do
  Reading.skipBlanks
  match ← get with
  | [] => Reading.fail "expected \\ after \x60a', \x60c' or \x60i'"
  | 0x5c :: rest =>
    let behind := rest.dropWhile fun b => Bytes.isSpace b && b ≠ Bytes.newline
    match behind with
    | 0x0a :: text => set text
    | [] =>
      set behind
      return []
    | _ => set rest
  | _ => pure ()
  let (text, rest) := plainText (← get)
  set rest
  return text ++ [Bytes.newline]

/-! ## Substitutions -/

/-- The bytes of a text in front of what a replacement has next. -/
def withText (b : UInt8) : List Replacement → List Replacement
  | .text bytes :: rest => .text (b :: bytes) :: rest
  | rest => .text [b] :: rest

/-- A replacement. -/
def replacementOf : Bytes → List Replacement
  | [] => []
  | [b] => if b = 0x26 then [.group 0] else [.text [b]]
  | b :: c :: rest =>
    if b = 0x26 then .group 0 :: replacementOf (c :: rest)
    else if b = 0x5c then
      let more := replacementOf rest
      if Bytes.isDigit c then .group (c.toNat - 0x30) :: more
      else if c ∈ Bytes.ofString "ULElu" then .cases c :: more
      else withText ((control? c).getD c) more
    else withText b (replacementOf (c :: rest))

/-- The largest group that a replacement speaks of. -/
def largestGroup (r : List Replacement) : Nat :=
  r.foldl (fun n part => match part with
    | .group m => max n m
    | _ => n) 0

/-- The number of groups in an expression. -/
def groupCount : Regex → Nat
  | .sequence a b | .either a b => groupCount a + groupCount b
  | .repeated a _ _ => groupCount a
  | .group _ a => groupCount a + 1
  | _ => 0

/-- The letters behind a substitution. `fuel` is more than their number. -/
def readSubstitutionFlags : (fuel : Nat) → Substitution → Regex.Manner →
    Reading (Substitution × Regex.Manner)
  | 0, s, m => return (s, m)
  | fuel + 1, s, m => do
    match ← get with
    | [] => return (s, m)
    | b :: rest =>
      if b = 0x7d || b = 0x23 then return (s, m)
      if b = Bytes.newline || b = 0x3b then
        set rest
        return (s, m)
      if Bytes.isDigit b then
        let n ← readNumber
        if n = 0 then Reading.fail "number option to \x60s' command may not be zero"
        readSubstitutionFlags fuel { s with occurrence := n } m
      else
        set rest
        if b = 0x67 then
          if s.all then Reading.fail "multiple \x60g' options to \x60s' command"
          readSubstitutionFlags fuel { s with all := true } m
        else if b = 0x70 then
          if s.prints then Reading.fail "multiple \x60p' options to \x60s' command"
          readSubstitutionFlags fuel { s with prints := true } m
        else if b = 0x69 || b = 0x49 then readSubstitutionFlags fuel s { m with anyCase := true }
        else if b = 0x6d || b = 0x4d then readSubstitutionFlags fuel s { m with byLines := true }
        else if b = 0x77 then
          return ({ s with target := some (targetOf (← readFileName)) }, m)
        else if Bytes.isSpace b then readSubstitutionFlags fuel s m
        else Reading.fail "unknown option to \x60s'"

/-- A substitution behind its letter. -/
def readSubstitution : Reading Substitution := do
  let unterminated {α : Type} : Reading α := do
    set ([] : Bytes)
    Reading.fail "unterminated \x60s' command"
  match ← Reading.take? with
  | none => unterminated
  | some delimiter =>
    match delimited? delimiter (← get) with
    | none => unterminated
    | some (pattern, rest) =>
      match delimited? delimiter rest with
      | none => unterminated
      | some (replacement, rest) =>
        set rest
        let replacement := replacementOf replacement
        let (s, m) ← readSubstitutionFlags (rest.length + 1)
          { expression := { regex := none }, replacement } {}
        let expression ← expressionOf extended pattern m
        let largest := largestGroup replacement
        if expression.regex.any fun r => groupCount r < largest then
          Reading.fail s!"invalid reference \\{largest} on \x60s' command's RHS"
        return { s with expression }

/-- The bytes of one side of an exchange. -/
def exchanged : Bytes → Bytes
  | [] => []
  | [b] => [b]
  | b :: c :: rest =>
    if b = 0x5c then
      if c = 0x5c then c :: exchanged rest
      else match control? c with
        | some control => control :: exchanged rest
        | none => b :: c :: exchanged rest
    else b :: exchanged (c :: rest)

/-- An exchange of bytes behind its letter. -/
def readExchange : Reading (List (UInt8 × UInt8)) := do
  let unterminated {α : Type} : Reading α := do
    set ([] : Bytes)
    Reading.fail "unterminated \x60y' command"
  match ← Reading.take? with
  | none => unterminated
  | some delimiter =>
    match delimited? delimiter (← get) with
    | none => unterminated
    | some (source, rest) =>
      match delimited? delimiter rest with
      | none => unterminated
      | some (target, rest) =>
        set rest
        let source := exchanged source
        let target := exchanged target
        if source.length ≠ target.length then
          Reading.fail "strings for \x60y' command are different lengths"
        Reading.endCommand
        return source.zip target

/-! ## Commands -/

/-- The letters that are whole commands. -/
def plainLetters : Bytes := Bytes.ofString "=dDgGhHnNpPxzF"

/-- What a command does, by its letter. The place behind a block is found later. -/
def readAction (letter : UInt8) : Reading Action := do
  if letter ∈ plainLetters then
    Reading.endCommand
    return .plain letter
  else if letter ∈ Bytes.ofString "aic" then return .text letter (← readText)
  else if letter ∈ Bytes.ofString "btT" then return .jump letter (← readLabel)
  else if letter ∈ Bytes.ofString "rR" then return .read letter (← readFileName)
  else if letter ∈ Bytes.ofString "wW" then
    return .write (letter = 0x57) (targetOf (← readFileName))
  else if letter = 0x73 then return .substitute (← readSubstitution extended)
  else if letter = 0x79 then return .exchange (← readExchange)
  else if letter ∈ Bytes.ofString "qQ" then
    Reading.skipBlanks
    let code ← readNumber
    Reading.endCommand
    return .quit (letter = 0x51) code
  else if letter = 0x6c then
    Reading.skipBlanks
    let digits ← Reading.takeWhile Bytes.isDigit
    Reading.endCommand
    return .list (if digits = [] then none else some (Bytes.ofDigits digits))
  else if letter = 0x3a then
    Reading.skipBlanks
    let label ← Reading.takeWhile fun b => !Bytes.isSpace b && b ≠ 0x3b
    if label = [] then Reading.fail "\":\" lacks a label"
    return .label label
  else if letter = 0x7b then return .block 0
  else if letter = 0x7d then
    Reading.endCommand
    return .endOfBlock
  else Reading.fail s!"unknown command: \x60{Char.ofNat letter.toNat}'"

/-- All commands. `fuel` is more than the length of the text. -/
def readCommands : (fuel : Nat) → (opened : Nat) → Reading (List Command)
  | 0, _ => return []
  | fuel + 1, opened => do
    let _ ← Reading.takeWhile fun b => Bytes.isSpace b || b = 0x3b
    match ← get with
    | [] =>
      if 0 < opened then throw ⟨0, "unmatched \x60\x7b'"⟩
      return []
    | 0x23 :: _ =>
      let _ ← readRestOfLine
      readCommands fuel opened
    | _ =>
      let selection ← readSelection extended
      match ← Reading.take? with
      | none => Reading.fail "missing command"
      | some letter =>
        let addressed := selection.first.isSome
        if letter = 0x7d && opened = 0 then Reading.fail "unexpected \x60\x7d'"
        if letter = 0x7d && addressed then Reading.fail "\x7d doesn't want any addresses"
        if letter = 0x3a && addressed then Reading.fail ": doesn't want any addresses"
        if letter = 0x23 then Reading.fail "comments don't accept any addresses"
        let action ← readAction extended letter
        let opened := match action with
          | .block _ => opened + 1
          | .endOfBlock => opened - 1
          | _ => opened
        return { selection, action } :: (← readCommands fuel opened)

end

/-- The number of commands up to the end of the block that is open, or of one more for each that is
`nested`. -/
def lengthOfBlock : (nested : Nat) → List Command → Nat
  | _, [] => 0
  | nested, c :: rest =>
    match c.action, nested with
    | .endOfBlock, 0 => 1
    | .endOfBlock, nested + 1 => lengthOfBlock nested rest + 1
    | .block _, nested => lengthOfBlock (nested + 1) rest + 1
    | _, nested => lengthOfBlock nested rest + 1

/-- Commands of which the first has a place, with the places behind blocks set. -/
def withBlocks : (place : Nat) → List Command → List Command
  | _, [] => []
  | place, c :: rest =>
    let action := match c.action with
      | .block _ => .block (place + 1 + lengthOfBlock 0 rest)
      | action => action
    { c with action } :: withBlocks (place + 1) rest

/-- The place of a label. -/
def placeOf? (commands : List Command) (name : Bytes) : Option Nat :=
  commands.findIdx? fun c => match c.action with
    | .label other => other = name
    | _ => false

/-- A label that is jumped to and is not there. -/
def missingLabel? (commands : List Command) : Option Bytes :=
  commands.findSome? fun c => match c.action with
    | .jump _ label => if label ≠ [] && (placeOf? commands label).isNone then some label else none
    | _ => none

/-- The script that a text is, or what is wrong with it and how many bytes have been read until
then. -/
def scriptOf (extended : Bool) (text : Bytes) : Except (Nat × String) (List Command) :=
  match ((readCommands extended (text.length + 1) 0).run text).1 with
  | .ok commands => .ok (withBlocks 0 commands)
  | .error fault =>
    .error (if fault.message = "unmatched \x60\x7b'" then 0 else text.length - fault.rest,
      fault.message)

end CompilerDriver.Utility.StreamEditor
