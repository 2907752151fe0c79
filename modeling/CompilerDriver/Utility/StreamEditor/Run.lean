import CompilerDriver.Utility.Copying
import CompilerDriver.Utility.StreamEditor.Script
import CompilerDriver.Utility.Texts

/-!
# The stream editor at work

Line after line is read into a pattern space, the script is carried out on it, and it is written.
Text that is to come behind a line waits until the line has been written. A last line without an end
is written without one.
-/

namespace CompilerDriver.Utility.StreamEditor

open Text

/-- A line of the input. -/
structure InputLine where
  text : Bytes
  /-- Whether it has an end. -/
  ended : Bool
  /-- The name of its file. -/
  file : Bytes

/-- Text that waits for the end of a line. -/
inductive Waiting where
  | text (text : Bytes)
  | file (path : Bytes)
  | lineOf (path : Bytes)

/-- Where an output goes. -/
inductive Sink where
  | output
  | errors
  /-- An open file, by its name in the script. -/
  | file (path : Bytes)
  /-- The new contents of the file that is edited. -/
  | edited
deriving DecidableEq

/-- Where what is written to a target goes. -/
def Target.sink : Target → Sink
  | .output => .output
  | .errors => .errors
  | .file path => .file path

/-- What the editor has come to. -/
structure Editing where
  pattern : Bytes := []
  /-- Whether the line in the pattern space has an end. -/
  ended : Bool := true
  /-- The name of the file that the line is from. -/
  file : Bytes := [Bytes.dash]
  hold : Bytes := []
  number : Nat := 0
  rest : List InputLine := []
  waiting : List Waiting := []
  /-- For each command at its place: the line on which its range ends, or none if that is to be found
  out; no entry if no range is open. -/
  ranges : List (Nat × Option Nat) := []
  /-- The places of the ranges from line 0 on that have been begun. -/
  begun : List Nat := []
  substituted : Bool := false
  last : Option Regex := none
  /-- The outputs whose last line had no end. -/
  unended : List Sink := []
  /-- The open files. -/
  opened : List (Bytes × Stream) := []
  /-- What is left of the files that lines are read from. -/
  lines : List (Bytes × List Bytes) := []
  edited : Bytes := []

/-- What can be asked for at the start. -/
structure Settings where
  silent : Bool
  ending : UInt8
  /-- Where the pattern space is written to. -/
  sink : Sink := .output
  width : Nat := 70

/-- Something that the editor does. -/
abbrev Step (α : Type) := StateT Editing Work α

/-- How the work on a line ends. -/
inductive Ending where
  /-- The next line is read; this one is written if that is asked for. -/
  | done (writes : Bool)
  /-- The script begins again without a new line. -/
  | again
  /-- The editor ends; the line is written if that is asked for. -/
  | quit (writes : Bool) (code : Nat)

/-- How the script goes on: at a place, or not at all. -/
inductive Outcome where
  | place (next : Nat)
  | ended (e : Ending)

section

variable (o : Settings)

/-- Writes bytes. -/
def put (sink : Sink) (bytes : Bytes) : Step Unit := do
  match sink with
  | .output => Work.say bytes
  | .errors => Work.tell bytes
  | .edited => modify fun e => { e with edited := e.edited ++ bytes }
  | .file path =>
    match (← get).opened.find? fun f => f.1 = path with
    | some (_, stream) =>
      modifyThe Progress fun p =>
        { p with machine := (p.machine.put stream bytes).toOption.getD p.machine }
    | none => pure ()

/-- Writes a text, behind the end of the line before if that has none. -/
def write (sink : Sink) (bytes : Bytes) : Step Unit := do
  if sink ∈ (← get).unended then
    put sink [o.ending]
    modify fun e => { e with unended := e.unended.filter (· ≠ sink) }
  put sink bytes

/-- Writes a line, with an end or without. -/
def writeLine (sink : Sink) (line : Bytes) (ended : Bool) : Step Unit := do
  write o sink (line ++ if ended then [o.ending] else [])
  unless ended do modify fun e => { e with unended := sink :: e.unended }

/-- Writes the pattern space. -/
def writePattern (sink : Sink) : Step Unit := do
  let e ← get
  writeLine o sink e.pattern e.ended

/-- The part of a text up to the first line end, and what is behind it. -/
def firstLine (text : Bytes) : Bytes × Option Bytes :=
  match Bytes.cut? Bytes.newline text with
  | some (line, rest) => (line, some rest)
  | none => (text, none)

/-- Writes the first line in the pattern space. -/
def writeFirst (sink : Sink) : Step Unit := do
  let e ← get
  match firstLine e.pattern with
  | (line, some _) => writeLine o sink line true
  | (line, none) => writeLine o sink line e.ended

/-- Writes what has waited for the end of the line. -/
def writeWaiting : Step Unit := do
  for w in (← get).waiting do
    match w with
    | .text text => write o o.sink text
    | .file path =>
      let text := ((← (Work.readOperand path : Work _)).toOption).getD []
      unless text.isEmpty do write o o.sink text
    | .lineOf path =>
      let e ← get
      let left ← match e.lines.find? fun l => l.1 = path with
        | some (_, left) => pure left
        | none => do
          let text := ((← (Work.readOperand path : Work _)).toOption).getD []
          pure (plainLines o.ending text)
      match left with
      | [] => modify fun e => { e with lines := (path, []) :: e.lines.filter fun l => l.1 ≠ path }
      | line :: left =>
        writeLine o o.sink line true
        modify fun e => { e with lines := (path, left) :: e.lines.filter fun l => l.1 ≠ path }
  modify fun e => { e with waiting := [] }

/-- The next line is read, and added to the pattern space if that is kept; tells whether there is
one. -/
def nextLine (keep : Bool) : Step Bool := do
  writeWaiting o
  let e ← get
  match e.rest with
  | [] => return false
  | line :: rest =>
    let pattern := if keep then e.pattern ++ o.ending :: line.text else line.text
    set { e with
      pattern, rest
      ended := line.ended
      file := line.file
      number := e.number + 1
      substituted := false }
    return true

/-! ## Selecting -/

/-- The regular expression that is meant. -/
def regexOf (x : Expression) : Step Regex := do
  match x.regex, (← get).last with
  | some r, _ =>
    modify fun e => { e with last := some r }
    return r
  | none, some r => return r
  | none, none =>
    let fault := Bytes.ofString "-e expression #1, char 0: no previous regular expression"
    (Work.fail fault : Work Regex)

/-- Whether an expression fits the pattern space. -/
def fits (x : Expression) : Step Bool := do
  return (← regexOf x).fits x.manner (← get).pattern

/-- Whether an address is that of the line. -/
def isAt (a : Address) : Step Bool := do
  let e ← get
  match a with
  | .line n => return e.number = n
  | .every first step =>
    return if step = 0 then e.number = first
      else first ≤ e.number && (e.number - first) % step = 0
  | .last => return e.rest.isEmpty
  | .fits x => fits x

/-- The next multiple of a number behind another one. -/
def multipleAfter (n number : Nat) : Nat := (number / n + 1) * n

/-- A range is opened at the line at work, unless it ends there. -/
def openRange (place : Nat) (ending : RangeEnd) : Step Unit := do
  let number := (← get).number
  let remember := fun (stop : Option Nat) =>
    modify fun e => { e with ranges := (place, stop) :: e.ranges }
  match ending with
  | .address (.line n) => if number < n then remember (some n)
  | .after n => if 0 < n then remember (some (number + n))
  | .multiple n => if 0 < n then remember (some (multipleAfter n number))
  | .address _ => remember none

/-- Whether a command at a place is for the line at work. -/
def isSelected (place : Nat) (s : Selection) : Step Bool := do
  match s.first, s.ending with
  | none, _ => return true
  | some a, none => isAt a
  | some a, some ending =>
    let e ← get
    let close := modify fun e => { e with ranges := e.ranges.filter fun r => r.1 ≠ place }
    match e.ranges.find? fun r => r.1 = place with
    | some (_, some stop) =>
      if stop ≤ e.number then close
      if e.number ≤ stop then return true
      if ← isAt a then
        openRange place ending
        return true
      return false
    | some (_, none) =>
      match ending with
      | .address b => if ← isAt b then close
      | _ => close
      return true
    | none =>
      let fromStart : Bool := match a with
        | .line 0 => place ∉ e.begun
        | _ => false
      if fromStart then
        set { e with begun := place :: e.begun, ranges := (place, none) :: e.ranges }
        match ending with
        | .address b => if ← isAt b then close
        | _ => close
        return true
      if ← isAt a then
        openRange place ending
        return true
      return false

/-! ## Substituting -/

/-- How the cases of letters are changed: for the next letter, and from here on. -/
structure Cases where
  next : Option UInt8 := none
  always : Option UInt8 := none

/-- A byte in the case that a letter asks for. -/
def inCase (letter : UInt8) (b : UInt8) : UInt8 :=
  if letter = 0x55 || letter = 0x75 then Bytes.upper b else Bytes.lower b

/-- Bytes with their cases changed, and what is asked for behind them. -/
def Cases.apply (c : Cases) (bytes : Bytes) : Bytes × Cases :=
  match bytes with
  | [] => ([], c)
  | b :: rest =>
    let all := fun (text : Bytes) => (c.always.map fun l => text.map (inCase l)).getD text
    let first := match c.next with
      | some l => inCase l b
      | none => ((c.always.map fun l => inCase l b).getD b)
    (first :: all rest, { c with next := none })

/-- What a replacement comes to for a stretch of a text. -/
def replaced (f : Regex.Found) (text : Bytes) : Cases → List Replacement → Bytes
  | _, [] => []
  | c, part :: rest =>
    match part with
    | .cases letter =>
      let c := if letter = 0x45 then {}
        else if letter = 0x75 || letter = 0x6c then { c with next := some letter }
        else { c with always := some letter }
      replaced f text c rest
    | .text bytes =>
      let (bytes, c) := c.apply bytes
      bytes ++ replaced f text c rest
    | .group n =>
      let (bytes, c) := c.apply (f.groupText text n)
      bytes ++ replaced f text c rest

/-- A text with some stretches replaced; `position` is where the rest of it starts. -/
def withReplaced (s : Substitution) (text : Bytes) : (position : Nat) → List Regex.Found → Bytes
  | position, [] => text.drop position
  | position, f :: rest =>
    (text.take f.start).drop position ++ replaced f text {} s.replacement ++
      withReplaced s text f.stop rest

/-- Carries out a substitution. -/
def substitute (s : Substitution) : Step Unit := do
  let r ← regexOf s.expression
  let text := (← get).pattern
  let all := Regex.findAll s.expression.manner r text (text.length + 2) 0 none
  let rest := all.drop (s.occurrence - 1)
  let chosen := if s.all then rest else rest.take 1
  if chosen.isEmpty then return
  modify fun e => { e with pattern := withReplaced s text 0 chosen, substituted := true }
  if s.prints then writePattern o o.sink
  match s.target with
  | some target => writePattern o target.sink
  | none => return

/-! ## Showing -/

/-- A byte as it is shown without doubt. -/
def shownByte (b : UInt8) : Bytes :=
  let letters : List (UInt8 × Char) :=
    [(0x07, 'a'), (0x08, 'b'), (0x0c, 'f'), (0x0a, 'n'), (0x0d, 'r'), (0x09, 't'), (0x0b, 'v'),
      (0x5c, '\\')]
  match letters.find? fun l => l.1 = b with
  | some (_, letter) => [0x5c, letter.toUInt8]
  | none =>
    if isPrintable b then [b]
    else
      let digit := fun (n : Nat) => UInt8.ofNat (0x30 + b.toNat / n % 8)
      [0x5c, digit 64, digit 8, digit 1]

/-- Shown bytes in lines of a width, with a backslash at the end of each but the last. -/
def folded (width : Nat) : (column : Nat) → List Bytes → Bytes
  | _, [] => [0x24, Bytes.newline]
  | column, item :: rest =>
    if 1 < width && width - 1 < column + item.length then
      0x5c :: Bytes.newline :: item ++ folded width item.length rest
    else item ++ folded width (column + item.length) rest

/-! ## Commands -/

/-- A command that is a letter. If there is no next line to read, the editor ends. -/
def plain (letter : UInt8) (next : Nat) : Step Outcome := do
  let e ← get
  match Char.ofNat letter.toNat with
  | '=' => write o o.sink (Bytes.decimal e.number ++ [Bytes.newline])
  | 'F' => write o o.sink (e.file ++ [Bytes.newline])
  | 'p' => writePattern o o.sink
  | 'P' => writeFirst o o.sink
  | 'g' => set { e with pattern := e.hold }
  | 'G' => set { e with pattern := e.pattern ++ o.ending :: e.hold }
  | 'h' => set { e with hold := e.pattern }
  | 'H' => set { e with hold := e.hold ++ o.ending :: e.pattern }
  | 'x' => set { e with hold := e.pattern, pattern := e.hold }
  | 'z' => set { e with pattern := [] }
  | 'd' => return .ended (.done false)
  | 'D' =>
    match firstLine e.pattern with
    | (_, some rest) =>
      set { e with pattern := rest }
      return .ended .again
    | _ => return .ended (.done false)
  | 'n' =>
    if e.rest.isEmpty then return .ended (.quit true 0)
    unless o.silent do writePattern o o.sink
    let _ ← nextLine o false
  | 'N' =>
    if e.rest.isEmpty then return .ended (.quit true 0)
    let _ ← nextLine o true
  | _ => pure ()
  return .place next

/-- Carries out a command at a place. -/
def carryOut (commands : List Command) (place : Nat) (c : Command) : Step Outcome := do
  let selected := (← isSelected place c.selection) != c.selection.negated
  let goOn : Step Outcome := return .place (place + 1)
  if !selected then
    match c.action with
    | .block behind => return .place behind
    | _ => return .place (place + 1)
  match c.action with
  | .block _ | .endOfBlock | .label _ => goOn
  | .plain letter => plain o letter (place + 1)
  | .text letter text =>
    if letter = 0x61 then
      modify fun e => { e with waiting := e.waiting ++ [.text text] }
      goOn
    else if letter = 0x69 then
      write o o.sink text
      goOn
    else
      let isOpen := (← get).ranges.any fun r => r.1 = place
      if c.selection.negated || !isOpen then write o o.sink text
      return .ended (.done false)
  | .jump letter label =>
    let jumps ← if letter = 0x62 then pure true
      else do
        let substituted := (← get).substituted
        modify fun e => { e with substituted := false }
        pure (substituted = (letter = 0x74))
    if jumps then
      return .place (if label = [] then commands.length else (placeOf? commands label).getD
        commands.length)
    else goOn
  | .quit silent code => return .ended (.quit (!silent) code)
  | .list width =>
    let line := (← get).pattern
    write o o.sink (folded (width.getD o.width) 0 (line.map shownByte))
    goOn
  | .read letter path =>
    let w := if letter = 0x72 then Waiting.file path else .lineOf path
    modify fun e => { e with waiting := e.waiting ++ [w] }
    goOn
  | .write firstOnly target =>
    if firstOnly then writeFirst o target.sink
    else writePattern o target.sink
    goOn
  | .substitute s =>
    substitute o s
    goOn
  | .exchange pairs =>
    modify fun e =>
      { e with pattern := e.pattern.map fun b =>
          ((pairs.find? fun p => p.1 = b).map (·.2)).getD b }
    goOn

/-- Carries out the script on the pattern space. `fuel` is more than the number of steps. -/
def carryOutAll (commands : List Command) : (fuel : Nat) → (place : Nat) → Step Ending
  | 0, _ => return .done true
  | fuel + 1, place => do
    match commands[place]? with
    | none => return .done true
    | some c =>
      match ← carryOut o commands place c with
      | .place next => carryOutAll commands fuel next
      | .ended e => return e

/-- More steps than any line takes. -/
def stepLimit : Nat := 1000000

/-- Carries out the script on all lines; a line is read first if that is `fresh`. The code, if the
script has asked for the end. `fuel` is more than the number of rounds. -/
def editLines (commands : List Command) : (fuel : Nat) → (fresh : Bool) → Step (Option Nat)
  | 0, _ => return none
  | fuel + 1, fresh => do
    if fresh then
      unless ← nextLine o false do return none
    match ← carryOutAll o commands stepLimit 0 with
    | .done writes =>
      if writes && !o.silent then writePattern o o.sink
      writeWaiting o
      editLines commands fuel true
    | .again =>
      writeWaiting o
      editLines commands fuel false
    | .quit writes code =>
      if writes && !o.silent then writePattern o o.sink
      if writes then writeWaiting o
      return some code

end

/-! ## The whole -/

/-- The lines of a file. -/
def linesOf (ending : UInt8) (file text : Bytes) : List InputLine :=
  (wholeLines ending text).map fun line =>
    if line.getLast? = some ending then { text := line.dropLast, ended := true, file }
    else { text := line, ended := false, file }

/-- The files that a script writes to. -/
def writtenFiles (commands : List Command) : List Bytes :=
  (commands.filterMap fun c => match c.action with
    | .write _ (.file path) => some path
    | .substitute { target := some (.file path), .. } => some path
    | _ => none).eraseDups

/-- Opens the files that a script writes to. -/
def openFiles (paths : List Bytes) : Work (List (Bytes × Stream)) :=
  paths.mapM fun path => do
    let m := (← get).machine
    match m.openPath (← Work.descriptors) ⟨path⟩ .write with
    | .ok (stream, machine) =>
      modify fun p => { p with machine }
      return (path, stream)
    | .error cause =>
      Work.fail (Bytes.ofString "couldn't open file " ++ path ++
        Bytes.ofString (": " ++ cause.plainText)) 4

/-- The contents of a file, and a word if it cannot be read. -/
def readFile (path : Bytes) : Work (Option Bytes) := do
  match ← Work.readOperand path with
  | .ok text => return some text
  | .error (.os .isDirectory) =>
    Work.fail (Bytes.ofString "read error on " ++ path ++ Bytes.ofString ": Is a directory") 4
  | .error cause =>
    Work.complain (Bytes.ofString "can't read " ++ path ++ Bytes.ofString (": " ++ cause.plainText))
      2
    return none

/-- More rounds than any input has. -/
def roundLimit : Nat := 10000000

/-- Edits files one by one, each for itself; ends if the script asks for it. -/
def editApart (o : Settings) (commands : List Command) (store : Bytes → Bytes → Work Unit) :
    List Bytes → Editing → Work (Option Nat)
  | [], _ => return none
  | path :: rest, e => do
    if o.sink = .edited && (← Work.files).isDirectory ⟨path⟩ then
      Work.fail (Bytes.ofString "couldn't edit " ++ path ++
        Bytes.ofString ": not a regular file") 4
    match ← readFile path with
    | none => editApart o commands store rest e
    | some text =>
      let start := { e with rest := linesOf o.ending path text, number := 0, ranges := [] }
      let (code, e) ← (editLines o commands roundLimit true).run { start with edited := [] }
      store path e.edited
      match code with
      | some code => return some code
      | none => editApart o commands store rest e

/-- Stores the new contents of a file under its name, and keeps the old one under another name if
that is asked for. -/
def replaceFile (suffix path text : Bytes) : Work Unit := do
  let fs ← Work.files
  match fs.node? ⟨path⟩ with
  | some (.file _ mode) =>
    let kept := if 0x2a ∈ suffix then suffix.flatMap fun b => if b = 0x2a then baseOf path else [b]
      else baseOf path ++ suffix
    let kept := if Bytes.slash ∈ kept then kept else within (directoryOf path) kept
    let moved := if suffix = [] then fs.unlink ⟨path⟩ else fs.rename ⟨path⟩ ⟨kept⟩
    let stored := do
      let fs ← moved
      let fs ← fs.write ⟨path⟩ text false
      fs.setMode ⟨path⟩ fun _ => mode
    match stored with
    | .ok fs => Work.setFiles fs
    | .error cause =>
      Work.complain (Bytes.ofString "cannot rename " ++ path ++
        Bytes.ofString (": " ++ cause.plainText)) 4
  | _ =>
    Work.complain (Bytes.ofString "couldn't edit " ++ path ++
      Bytes.ofString ": not a regular file") 4

/-- The text of the script: that of all options, or else the first operand. -/
def scriptText (g : Given) : Work (Bytes × List Bytes) := do
  let parts ← (g.options.filter fun o => o.1 = "e" || o.1 = "f").mapM fun (key, value) => do
    if key = "e" then return value
    match ← Work.readOperand value with
    | .ok text => return if text.getLast? = some Bytes.newline then text.dropLast else text
    | .error cause =>
      Work.fail (Bytes.ofString "couldn't open file " ++ value ++
        Bytes.ofString (": " ++ cause.plainText)) 4
  match parts, g.operands with
  | [], text :: operands => return (text, operands)
  | [], [] =>
    Work.tell (Bytes.ofString "Usage: sed [OPTION]... \x7bscript-only-if-no-other-script\x7d [input-file]...\n\n")
    Work.quit 1
  | parts, operands => return (Bytes.join Bytes.newline parts, operands)

def sed : Work Unit := do
  let g ← readGiven "n/quiet silent e/expression= f/file= E/regexp-extended r i/in-place? l/line-length= s/separate u/unbuffered z/null-data posix follow-symlinks sandbox b/binary debug"
  let (text, operands) ← scriptText g
  match scriptOf (g.has "E" || g.has "r") text with
  | .error (place, message) =>
    Work.fail (Bytes.ofString s!"-e expression #1, char {place}: {message}")
  | .ok commands =>
    match missingLabel? commands with
    | some label =>
      Work.fail (Bytes.ofString "can't find label for jump to \x60" ++ label ++ [0x27]) 4
    | none => pure ()
    let opened ← openFiles (writtenFiles commands)
    let inPlace := g.has "i"
    let o : Settings :=
      { silent := g.has "n" || g.has "silent" || text.take 3 = Bytes.ofString "#n\n"
        ending := lineEnd g
        sink := if inPlace then .edited else .output
        width := ((g.value? "l").map Bytes.ofDigits).getD 70 }
    let files := if operands.isEmpty then [[Bytes.dash]] else operands
    let start : Editing := { opened }
    let code ← if inPlace then
        editApart o commands (replaceFile ((g.value? "i").getD [])) files start
      else if g.has "s" then editApart o commands (fun _ _ => pure ()) files start
      else do
        let mut lines := []
        for path in files do
          match ← readFile path with
          | some text => lines := (linesOf o.ending path text).reverse ++ lines
          | none => pure ()
        let (code, _) ← (editLines o commands roundLimit true).run
          { start with rest := lines.reverse }
        pure code
    match code with
    | some code => if code ≠ 0 then Work.quit code
    | none => pure ()

end CompilerDriver.Utility.StreamEditor
