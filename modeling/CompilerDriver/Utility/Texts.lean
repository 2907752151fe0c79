import CompilerDriver.Shell.Number
import CompilerDriver.Utility.Paths

/-!
# Utilities on texts

Utilities that pass on their input, or parts of it, or count it.
-/

namespace CompilerDriver.Utility

/-- A text cut behind each line end; the last piece need not have one. -/
def wholeLines (ending : UInt8) (text : Bytes) : List Bytes :=
  match (Bytes.pieces ending text).reverse with
  | last :: ended =>
    (ended.reverse.map (· ++ [ending])) ++ if last = [] then [] else [last]
  | [] => []

/-- The lines of a text without their ends. -/
def plainLines (ending : UInt8) (text : Bytes) : List Bytes :=
  match (Bytes.pieces ending text).reverse with
  | last :: ended => ended.reverse ++ if last = [] then [] else [last]
  | [] => []

/-- A number in decimal, filled up with blanks in front. -/
def padded (width n : Nat) : Bytes :=
  let digits := Bytes.decimal n
  List.replicate (width - digits.length) 0x20 ++ digits

/-- Does something with the contents of each operand, or with the input if there are none. What
cannot be read is told. -/
def forEachText (operands : List Bytes) (verb : String) (f : Bytes → Bytes → Work Unit) :
    Work Unit := do
  for p in if operands.isEmpty then [[Bytes.dash]] else operands do
    match ← Work.readOperand p with
    | .ok text => f p text
    | .error cause =>
      let name := if verb = "" then shown p else Bytes.ofString verb ++ quoted p
      Work.complain (name ++ Bytes.ofString (": " ++ cause.plainText))

/-- The contents of all operands one after the other, or the input if there are none. -/
def readAll (operands : List Bytes) (verb : String := "") : Work Bytes := do
  let mut all := []
  for p in if operands.isEmpty then [[Bytes.dash]] else operands do
    match ← Work.readOperand p with
    | .ok text => all := text :: all
    | .error cause =>
      let name := if verb = "" then shown p else Bytes.ofString verb ++ quoted p
      Work.complain (name ++ Bytes.ofString (": " ++ cause.plainText))
  return all.reverse.flatten

/-! ## Passing on -/

/-- The file that the output goes to. -/
def outputFile? : Work (Option FileId) := do
  let m := (← get).machine
  match (← Work.descriptors).stream? 1 with
  | some (.opened index) => return (m.opened[index]?).bind (·.file)
  | _ => return none

/-- A byte as it is made visible; line ends and tabs stay as they are. -/
def visible (b : UInt8) : Bytes :=
  let low := fun (b : UInt8) =>
    if b < 0x20 then [0x5e, b + 0x40] else if b = 0x7f then [0x5e, 0x3f] else [b]
  if b = Bytes.newline || b = 0x09 then [b]
  else if b < 0x80 then low b
  else Bytes.ofString "M-" ++ low (b - 0x80)

/-- Lines with what is asked for: visible bytes, and numbers in front. `number` is that of the next
line. -/
def decorate (g : Given) : (number : Nat) → (blankBefore : Bool) → List Bytes → Bytes
  | _, _, [] => []
  | number, blankBefore, line :: rest =>
    let isBlank := line = [Bytes.newline]
    if g.has "s" && isBlank && blankBefore then decorate g number true rest
    else
      let counts := if g.has "b" then !isBlank else g.has "n"
      let front := if counts then padded 6 number ++ [0x09] else []
      let showsAll := g.has "v" || g.has "A" || g.has "e" || g.has "t"
      let text := if showsAll then line.flatMap visible else line
      let text := if g.has "T" || g.has "A" || g.has "t" then
          text.flatMap fun b => if b = 0x09 then Bytes.ofString "^I" else [b]
        else text
      let text := if (g.has "E" || g.has "A" || g.has "e") && text.getLast? = some Bytes.newline then
          text.dropLast ++ [0x24, Bytes.newline]
        else text
      front ++ text ++ decorate g (if counts then number + 1 else number) isBlank rest

def cat : Work Unit := do
  let g ← readGiven "A/show-all b/number-nonblank e E/show-ends n/number s/squeeze-blank t T/show-tabs u v/show-nonprinting"
  let target ← outputFile?
  let isPlain := g.options.all fun o => o.1 = "u"
  let mut texts := []
  for p in if g.operands.isEmpty then [[Bytes.dash]] else g.operands do
    let fs ← Work.files
    let origin := (fs.resolve ⟨p⟩).toOption.bind fs.fileId?
    let holds := (fs.node? ⟨p⟩).any fun n => n matches .file (_ :: _) _
    if p ≠ [Bytes.dash] && target.isSome && origin = target && holds then
      Work.complain (shown p ++ Bytes.ofString ": input file is output file")
    else match ← Work.readOperand p with
      | .ok text => if isPlain then Work.say text else texts := text :: texts
      | .error cause => Work.complain (shown p ++ Bytes.ofString (": " ++ cause.plainText))
  unless isPlain do
    Work.say (decorate g 1 false (wholeLines Bytes.newline texts.reverse.flatten))

/-- Passes its input on to the output and to files. -/
def tee : Work Unit := do
  let g ← readGiven "a/append i/ignore-interrupts p output-error?"
  let text := (← Work.readInput).toOption.getD []
  Work.say text
  for p in g.operands do
    let access := if g.has "a" then Access.append else .write
    let m := (← get).machine
    match m.openPath (← Work.descriptors) ⟨p⟩ access with
    | .error cause => Work.complain (shown p ++ Bytes.ofString (": " ++ cause.plainText))
    | .ok (stream, m) =>
      match m.put stream text with
      | .ok machine => modify fun q => { q with machine }
      | .error cause => Work.complain (shown p ++ Bytes.ofString (": " ++ cause.text))

/-- Lines in the opposite order. -/
def tac : Work Unit := do
  let g ← readGiven "b/before r/regex s/separator="
  forEachText g.operands "failed to open for reading: " fun _ text =>
    Work.say (wholeLines Bytes.newline text).reverse.flatten

/-- Each line backwards. -/
def rev : Work Unit := do
  let g ← readGiven ""
  forEachText g.operands "" fun _ text =>
    Work.say ((wholeLines Bytes.newline text).flatMap fun line =>
      if line.getLast? = some Bytes.newline then line.dropLast.reverse ++ [Bytes.newline]
      else line.reverse)

/-! ## Parts -/

/-- A number with a letter behind it that multiplies it. -/
def sized? (text : Bytes) : Option Nat :=
  let digits := text.takeWhile Bytes.isDigit
  let factors : List (String × Nat) :=
    [("", 1), ("b", 512), ("kB", 1000), ("K", 1024), ("k", 1024), ("KiB", 1024), ("MB", 1000000),
      ("M", 1048576), ("MiB", 1048576), ("GB", 1000000000), ("G", 1073741824)]
  if digits = [] then none
  else (factors.find? fun f => Bytes.ofString f.1 = text.drop digits.length).map
    fun f => Bytes.ofDigits digits * f.2

/-- Words in which a number behind a dash is an option of its own. -/
def expandCount (words : List Bytes) : List Bytes :=
  match words with
  | (0x2d :: digit :: more) :: rest =>
    if Bytes.isDigit digit && more.all Bytes.isDigit then
      Bytes.ofString "-n" :: (digit :: more) :: rest
    else words
  | _ => words

/-- Does something with other words. -/
def withWords {α : Type} (f : List Bytes → List Bytes) (body : Work α) : Work α := fun t =>
  let loaded := t.launch.loaded
  let words := loaded.words.take 1 ++ f loaded.words.tail
  body { t with launch := { t.launch with loaded := { loaded with words } } }

/-- A title over the part of each operand, if there are several. -/
def title (g : Given) (isFirst : Bool) (p : Bytes) : Work Unit := do
  let several := 1 < g.operands.length
  if g.lastOf ["q", "v"] = some "v" || (several && g.lastOf ["q", "v"] ≠ some "q") then
    let name := if p = [Bytes.dash] then Bytes.ofString "standard input" else p
    let gap := if isFirst then [] else [Bytes.newline]
    Work.say (gap ++ Bytes.ofString "==> " ++ name ++ Bytes.ofString " <==\n")

/-- Gives back the last bytes that were read from the input, if it is a file. -/
def giveBack (unused : Nat) : Work Unit := do
  match (← Work.descriptors).stream? 0 with
  | some (.opened index) =>
    modify fun p =>
      let opened := p.machine.opened.modify index fun f => { f with offset := f.offset - unused }
      { p with machine := { p.machine with opened } }
  | _ => pure ()

/-- Does something with a title for each operand that can be read. -/
def forEachPart (g : Given) (f : (isInput : Bool) → Bytes → Work Unit) : Work Unit := do
  let mut isFirst := true
  for p in if g.operands.isEmpty then [[Bytes.dash]] else g.operands do
    if (← Work.files).isDirectory ⟨p⟩ && p ≠ [Bytes.dash] then
      title g isFirst p
      isFirst := false
      Work.complain (Bytes.ofString "error reading " ++ quoted p ++
        Bytes.ofString (": " ++ OsError.isDirectory.text))
    else match ← Work.readOperand p with
      | .ok text =>
        title g isFirst p
        isFirst := false
        f (p = [Bytes.dash]) text
      | .error cause =>
        Work.complain (Bytes.ofString "cannot open " ++ quoted p ++
          Bytes.ofString (" for reading: " ++ cause.plainText))

/-- The number that an option gives, and the sign in front of it. -/
def countOf (what : String) (value : Bytes) : Work (Option UInt8 × Nat) := do
  let (sign, digits) := match value with
    | b :: rest => if b = Bytes.dash || b = 0x2b then (some b, rest) else (none, value)
    | [] => (none, [])
  match sized? digits with
  | some n => return (sign, n)
  | none =>
    Work.fail (Bytes.ofString s!"invalid number of {what}: " ++ quoted value)

/-- The first lines or bytes. -/
def head : Work Unit := withWords expandCount do
  let g ← readGiven "c/bytes= n/lines= q/quiet silent v/verbose z/zero-terminated"
  let bytes := g.lastOf ["c", "n"] = some "c"
  let (sign, n) ← match g.value? (if bytes then "c" else "n") with
    | some value => countOf (if bytes then "bytes" else "lines") value
    | none => pure (none, 10)
  forEachPart g fun isInput text => do
    let keep := fun (length : Nat) => if sign = some Bytes.dash then length - n else n
    let lines := wholeLines (lineEnd g) text
    let part := if bytes then text.take (keep text.length)
      else (lines.take (keep lines.length)).flatten
    Work.say part
    if isInput then giveBack (text.length - part.length)

/-- The last lines or bytes. -/
def tail : Work Unit := withWords expandCount do
  let g ← readGiven "c/bytes= n/lines= f/follow? F q/quiet silent v/verbose z/zero-terminated s/sleep-interval= pid= retry"
  let bytes := g.lastOf ["c", "n"] = some "c"
  let (sign, n) ← match g.value? (if bytes then "c" else "n") with
    | some value => countOf (if bytes then "bytes" else "lines") value
    | none => pure (none, 10)
  forEachPart g fun _ text =>
    let skip := fun (length : Nat) => if sign = some 0x2b then n - 1 else length - n
    if bytes then Work.say (text.drop (skip text.length))
    else
      let lines := wholeLines (lineEnd g) text
      Work.say (lines.drop (skip lines.length)).flatten

/-! ## Counting -/

/-- Lines, words, characters, bytes and the length of the longest line. -/
structure Counts where
  lines : Nat := 0
  words : Nat := 0
  bytes : Nat := 0
  longest : Nat := 0

/-- The number of words in a text. -/
def wordCount : (inside : Bool) → Bytes → Nat
  | _, [] => 0
  | inside, b :: rest =>
    if Bytes.isSpace b then wordCount false rest
    else (if inside then 0 else 1) + wordCount true rest

/-- The width of a line, with tabs up to every eighth place. -/
def lineWidth (line : Bytes) : Nat :=
  line.foldl (fun n b => if b = 0x09 then n / 8 * 8 + 8 else if isPrintable b then n + 1 else n) 0

/-- The counts of a text. -/
def Counts.ofText (text : Bytes) : Counts where
  lines := text.count Bytes.newline
  words := wordCount false text
  bytes := text.length
  longest := ((plainLines Bytes.newline text).map lineWidth).foldl max 0

/-- The counts of two texts together. -/
def Counts.add (a b : Counts) : Counts :=
  ⟨a.lines + b.lines, a.words + b.words, a.bytes + b.bytes, max a.longest b.longest⟩

/-- The counts that are asked for, in the order in which they are shown. -/
def Counts.chosen (c : Counts) (g : Given) : List Nat :=
  let asked := ["l", "w", "c", "m", "L"].any g.has
  (if g.has "l" || !asked then [c.lines] else []) ++ (if g.has "w" || !asked then [c.words] else []) ++
    (if g.has "m" then [c.bytes] else []) ++
    (if g.has "c" || !asked then [c.bytes] else []) ++ if g.has "L" then [c.longest] else []

/-- The width of the numbers: that of the size of all files together, and more if a file has no
size. -/
def countWidth (g : Given) : Work Nat := do
  let number := ({} : Counts).chosen g |>.length
  let operands := if g.operands.isEmpty then [[Bytes.dash]] else g.operands
  if operands.length = 1 && number = 1 then return 1
  let p ← get
  let d ← Work.descriptors
  let sizes := operands.map fun name =>
    if name = [Bytes.dash] then
      match d.stream? 0 with
      | some (.opened index) =>
        match p.machine.opened[index]? with
        | some { file := some id, .. } => some (some (p.machine.files.file id).contents.length)
        | _ => some none
      | _ => some none
    else match p.machine.files.node? ⟨name⟩ with
      | some (.file contents _) => some (some contents.length)
      | some _ => some none
      | none => none
  let total := (sizes.filterMap fun s => s.bind id).foldl (· + ·) 0
  let least := if sizes.any fun s => s = some none then 7 else 1
  return max least (Bytes.decimal total).length

/-- One line of counts. -/
def countLine (g : Given) (width : Nat) (c : Counts) (name : Bytes) : Bytes :=
  let numbers := Bytes.join 0x20 ((c.chosen g).map (padded width))
  numbers ++ (if name = [] then [] else 0x20 :: name) ++ [Bytes.newline]

def wc : Work Unit := do
  let g ← readGiven "c/bytes m/chars l/lines w/words L/max-line-length files0-from="
  let width ← countWidth g
  let mut total : Counts := {}
  for p in if g.operands.isEmpty then [[Bytes.dash]] else g.operands do
    let name := if g.operands.isEmpty then [] else p
    let isDirectory := (← Work.files).isDirectory ⟨p⟩ && p ≠ [Bytes.dash]
    match ← Work.readOperand p with
    | .ok text =>
      let counts := Counts.ofText text
      total := total.add counts
      Work.say (countLine g width counts name)
    | .error cause =>
      Work.complain (shown p ++ Bytes.ofString (": " ++ cause.plainText))
      if isDirectory then Work.say (countLine g width {} name)
  if 1 < g.operands.length then Work.say (countLine g width total (Bytes.ofString "total"))

/-- The utilities on texts. -/
def textUtilities : List Utility :=
  [⟨"cat", cat⟩, ⟨"tee", tee⟩, ⟨"tac", tac⟩, ⟨"rev", rev⟩, ⟨"head", head⟩, ⟨"tail", tail⟩, ⟨"wc", wc⟩]

end CompilerDriver.Utility
