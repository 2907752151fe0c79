import CompilerDriver.Text.ByteSet
import CompilerDriver.Utility.Texts

/-!
# Ordering lines

Lines are put in order by keys, runs of the same line are counted, and two ordered texts are
compared line by line.
-/

namespace CompilerDriver.Utility

/-! ## Keys -/

/-- A key of a line: from a byte of a field to a byte of a field. -/
structure SortKey where
  firstField : Nat := 1
  firstByte : Nat := 1
  /-- The last field, and the last byte in it; the whole field for 0. -/
  last : Option (Nat × Nat) := none
  letters : Bytes := []
  /-- Whether blanks at the end of the key's start are passed over at its end too. -/
  endBlanks : Bool := false
deriving DecidableEq, Repr

/-- Whether a byte is a blank between fields. -/
def isFieldBlank (b : UInt8) : Bool := b = 0x20 || b = 0x09 || b = Bytes.newline

/-- The fields of a line. Without a separator a field begins with the blanks in front of it.
`fuel` is more than the length. -/
def fieldsOf (separator : Option UInt8) : (fuel : Nat) → Bytes → List Bytes
  | 0, _ => []
  | fuel + 1, line =>
    match separator with
    | some b =>
      match Bytes.cut? b line with
      | some (field, rest) => (field ++ [b]) :: fieldsOf separator fuel rest
      | none => [line]
    | none =>
      let blanks := line.takeWhile isFieldBlank
      let rest := line.drop blanks.length
      let word := rest.takeWhile fun b => !isFieldBlank b
      if line = [] then [] else (blanks ++ word) :: fieldsOf none fuel (rest.drop word.length)

/-- The part of a line that a key speaks of. -/
def SortKey.part (k : SortKey) (separator : Option UInt8) (line : Bytes) : Bytes :=
  let fields := fieldsOf separator (line.length + 2) line
  let skipBlanks := fun (place : Nat) (skips : Bool) =>
    if skips then place + ((line.drop place).takeWhile isFieldBlank).length else place
  let startOf := fun (field : Nat) => (fields.take (field - 1)).flatten.length
  let start := skipBlanks (startOf k.firstField) (0x62 ∈ k.letters) + (k.firstByte - 1)
  let stop := match k.last with
    | none => line.length
    | some (field, 0) =>
      let stop := startOf (field + 1)
      if separator.isSome && field < fields.length then stop - 1 else stop
    | some (field, byte) => skipBlanks (startOf field) k.endBlanks + byte
  (line.take stop).drop start

/-- A number at the start of a text: its sign, the digits before and behind the point. -/
def leadingNumber (text : Bytes) : Bool × Bytes × Bytes :=
  let text := text.dropWhile isFieldBlank
  let (negative, text) := match text with
    | 0x2d :: rest => (true, rest)
    | _ => (false, text)
  let whole := text.takeWhile Bytes.isDigit
  let part := match text.drop whole.length with
    | 0x2e :: rest => rest.takeWhile Bytes.isDigit
    | _ => []
  (negative, whole, part)

/-- The order of two numbers at the start of texts. -/
def compareNumbers (a b : Bytes) : Ordering :=
  let value := fun (text : Bytes) (places : Nat) =>
    let (negative, whole, part) := leadingNumber text
    let n : Int := Bytes.ofDigits (whole ++ part ++ List.replicate (places - part.length) 0x30)
    if negative then -n else n
  let places := max (leadingNumber a).2.2.length (leadingNumber b).2.2.length
  compare (value a places) (value b places)

/-- The names of the months. -/
def months : List String :=
  ["JAN", "FEB", "MAR", "APR", "MAY", "JUN", "JUL", "AUG", "SEP", "OCT", "NOV", "DEC"]

/-- The number of the month that a text starts with; 0 for none. -/
def monthOf (text : Bytes) : Nat :=
  let name := ((text.dropWhile isFieldBlank).take 3).map Bytes.upper
  ((months.findIdx? fun m => Bytes.ofString m = name).map (· + 1)).getD 0

/-- The order of two byte strings. -/
def compareBytes : Bytes → Bytes → Ordering
  | [], [] => .eq
  | [], _ => .lt
  | _, [] => .gt
  | a :: s, b :: t => if a < b then .lt else if b < a then .gt else compareBytes s t

/-- The text up to the next digit, or the digits up to the next other byte; what comes after. -/
def versionPiece (text : Bytes) : Bytes × Bytes × Bytes :=
  let word := text.takeWhile fun b => !Bytes.isDigit b
  let rest := text.drop word.length
  let digits := rest.takeWhile Bytes.isDigit
  (word, digits, rest.drop digits.length)

/-- The order of two texts whose digits count as numbers. `fuel` is more than the length. -/
def compareVersions : (fuel : Nat) → Bytes → Bytes → Ordering
  | 0, _, _ => .eq
  | fuel + 1, a, b =>
    if a = [] || b = [] then compareBytes a b
    else
      let (word, digits, rest) := versionPiece a
      let (otherWord, otherDigits, otherRest) := versionPiece b
      match compareBytes word otherWord with
      | .eq =>
        match compare (Bytes.ofDigits digits) (Bytes.ofDigits otherDigits) with
        | .eq => compareVersions fuel rest otherRest
        | other => other
      | other => other

/-- A number with a letter for its size behind it, as the rank of the letter and the number. -/
def sizeRank (text : Bytes) : Nat :=
  let (_, whole, part) := leadingNumber text
  let trimmed := (text.dropWhile isFieldBlank).dropWhile (· = Bytes.dash)
  let rest := trimmed.drop (whole.length + if part = [] then 0 else part.length + 1)
  let letters := Bytes.ofString "KMGTPEZY"
  match rest with
  | b :: _ => ((letters.findIdx? (· = Bytes.upper b)).map (· + 1)).getD 0
  | [] => 0

/-- The order of two keys, as letters ask for it. -/
def compareKeys (letters a b : Bytes) : Ordering :=
  let has := fun (c : Char) => c.toUInt8 ∈ letters
  let trimmed := fun (text : Bytes) => if has 'b' then text.dropWhile isFieldBlank else text
  let seen := fun (text : Bytes) =>
    let text := trimmed text
    let text := if has 'd' then
        text.filter fun b => Text.ByteSet.word.holds false b && b ≠ 0x5f || isFieldBlank b
      else if has 'i' then text.filter isPrintable else text
    if has 'f' then text.map Bytes.upper else text
  let order := if has 'n' || has 'g' then compareNumbers a b
    else if has 'h' then
      let negative := fun (text : Bytes) => (leadingNumber text).1
      match compare (sizeRank a) (sizeRank b) with
      | .eq => compareNumbers a b
      | other => if negative a && negative b then other.swap else other
    else if has 'M' then compare (monthOf a) (monthOf b)
    else if has 'V' then compareVersions (a.length + b.length + 1) (seen a) (seen b)
    else compareBytes (seen a) (seen b)
  if has 'r' then order.swap else order

/-- A field and a byte in it, and the letters behind them. -/
def readKeyPlace (text : Bytes) : Nat × Option Nat × Bytes :=
  let field := text.takeWhile Bytes.isDigit
  match text.drop field.length with
  | 0x2e :: rest =>
    let byte := rest.takeWhile Bytes.isDigit
    (Bytes.ofDigits field, some (Bytes.ofDigits byte), rest.drop byte.length)
  | rest => (Bytes.ofDigits field, none, rest)

/-- A written key. -/
def readKey (text : Bytes) : Work SortKey := do
  let (first, last) := match Bytes.cut? 0x2c text with
    | some (first, last) => (first, some last)
    | none => (text, none)
  let (field, byte, letters) := readKeyPlace first
  if field = 0 then
    if first.head?.any Bytes.isDigit then
      Work.fail (Bytes.ofString "field number is zero: invalid field specification " ++
        quoted text) 2
    else
      Work.fail (Bytes.ofString "invalid number at field start: invalid count at start of " ++
        quoted first) 2
  match last with
  | none => return { firstField := field, firstByte := byte.getD 1, letters }
  | some last =>
    let (lastField, lastByte, more) := readKeyPlace last
    return { firstField := field
             firstByte := byte.getD 1
             last := some (lastField, lastByte.getD 0)
             letters := letters ++ more
             endBlanks := 0x62 ∈ more }

/-! ## Sorting -/

/-- The first difference that some comparisons show. -/
def firstDifference : List Ordering → Ordering
  | [] => .eq
  | .eq :: rest => firstDifference rest
  | other :: _ => other

/-- The letters that say how keys are compared. -/
def orderLetters : List String := ["b", "d", "f", "g", "h", "i", "M", "n", "r", "V"]

/-- The place of the first line that comes before the one in front of it, and that line. -/
def disorder? (compareLines : Bytes → Bytes → Ordering) (strict : Bool) : (place : Nat) →
    List Bytes → Option (Nat × Bytes)
  | place, a :: b :: rest =>
    let order := compareLines a b
    if order = .gt || strict && order = .eq then some (place + 1, b)
    else disorder? compareLines strict (place + 1) (b :: rest)
  | _, _ => none

/-- Lines without those that compare like the one in front of them. -/
def dropSame (compareLines : Bytes → Bytes → Ordering) : List Bytes → List Bytes
  | [] => []
  | a :: rest =>
    a :: match rest with
      | [] => []
      | b :: _ =>
        let tail := dropSame compareLines rest
        if compareLines a b = .eq then tail.drop 1 else tail

def sort : Work Unit := do
  let g ← readGiven "b/ignore-leading-blanks d/dictionary-order f/ignore-case g/general-numeric-sort i/ignore-nonprinting M/month-sort h/human-numeric-sort n/numeric-sort R/random-sort r/reverse V/version-sort c/check? C m/merge o/output= s/stable S/buffer-size= t/field-separator= T/temporary-directory= u/unique z/zero-terminated k/key= parallel= batch-size= debug" false 2
  let ending := lineEnd g
  let letters := Bytes.ofString (String.join (orderLetters.filter g.has))
  let keys ← (g.options.filter fun o => o.1 = "k").mapM fun o => readKey o.2
  let separator ← match g.value? "t" with
    | none => pure none
    | some [b] => pure (some b)
    | some [0x5c, 0x30] => pure (some 0)
    | some [] => Work.fail (Bytes.ofString "empty tab") 2
    | some several => Work.fail (Bytes.ofString "multi-character tab " ++ quoted several) 2
  let compareByKeys := fun (a b : Bytes) =>
    if keys.isEmpty then compareKeys letters a b
    else firstDifference (keys.map fun k =>
      let own := if k.letters = [] then letters else k.letters
      let k := { k with letters := own, endBlanks := if k.letters = [] then 0x62 ∈ own else k.endBlanks }
      compareKeys (own.filter (· ≠ 0x62)) (k.part separator a) (k.part separator b))
  let isPlain := keys.isEmpty && letters.all (· = 0x72)
  let lastResort := fun (a b : Bytes) =>
    if g.has "r" then compareBytes b a else compareBytes a b
  let compareLines := fun (a b : Bytes) =>
    match compareByKeys a b with
    | .eq => if g.has "s" || g.has "u" || isPlain then .eq else lastResort a b
    | other => other
  if g.has "c" || g.has "C" then
    let p := g.operands.headD [Bytes.dash]
    match ← Work.readOperand p with
    | .error cause =>
      Work.fail (Bytes.ofString "cannot read: " ++ shown p ++
        Bytes.ofString (": " ++ cause.plainText)) 2
    | .ok text =>
      match disorder? compareLines (g.has "u") 1 (plainLines ending text) with
      | none => return
      | some (place, line) =>
        unless g.has "C" do
          Work.warn (p ++ Bytes.ofString s!":{place}: disorder: " ++ line)
        Work.quit 1
  let mut lines := []
  for p in if g.operands.isEmpty then [[Bytes.dash]] else g.operands do
    match ← Work.readOperand p with
    | .ok text => lines := lines ++ plainLines ending text
    | .error cause =>
      let verb := if cause = .os .isDirectory then "read failed: " else "cannot read: "
      Work.fail (Bytes.ofString verb ++ shown p ++ Bytes.ofString (": " ++ cause.plainText)) 2
  let sorted := lines.mergeSort fun a b => compareLines a b ≠ .gt
  let sorted := if g.has "u" then dropSame compareByKeys sorted else sorted
  let text := sorted.flatMap fun line => line ++ [ending]
  match g.value? "o" with
  | none => Work.say text
  | some path =>
    match (← get).machine.openPath (← Work.descriptors) ⟨path⟩ .write with
    | .ok (stream, machine) =>
      modify fun p => { p with machine := (machine.put stream text).toOption.getD machine }
    | .error cause =>
      Work.fail (Bytes.ofString "open failed: " ++ shown path ++
        Bytes.ofString (": " ++ cause.plainText)) 2

/-! ## Runs -/

/-- The part of a line that is compared. -/
def comparedPart (g : Given) (line : Bytes) : Bytes :=
  let number := fun (key : String) => ((g.value? key).map Bytes.ofDigits).getD 0
  let skipField := fun (line : Bytes) =>
    let rest := line.dropWhile isFieldBlank
    rest.dropWhile fun b => !isFieldBlank b
  let line := Nat.repeat skipField (number "f") line
  let line := line.drop (number "s")
  let line := match g.value? "w" with
    | some n => line.take (Bytes.ofDigits n)
    | none => line
  if g.has "i" then line.map Bytes.lower else line

/-- Runs of lines that are alike, each with all its lines. -/
def runsOf (alike : Bytes → Bytes → Bool) : List Bytes → List (List Bytes)
  | [] => []
  | line :: rest =>
    match runsOf alike rest with
    | (other :: more) :: runs =>
      if alike line other then (line :: other :: more) :: runs
      else [line] :: (other :: more) :: runs
    | runs => [line] :: runs

def uniq : Work Unit := do
  let g ← readGiven "c/count d/repeated D? all-repeated? u/unique f/skip-fields= i/ignore-case s/skip-chars= w/check-chars= z/zero-terminated group?"
  limitOperands g.operands 2
  let ending := lineEnd g
  let input := g.operands.headD [Bytes.dash]
  match ← Work.readOperand input with
  | .error cause => Work.fail (shown input ++ Bytes.ofString (": " ++ cause.plainText))
  | .ok text =>
    let runs := runsOf (fun a b => comparedPart g a = comparedPart g b) (plainLines ending text)
    let wanted := runs.filter fun run =>
      (!g.has "d" && !g.has "D" || 1 < run.length) && (!g.has "u" || run.length = 1)
    let shownRuns := wanted.map fun run =>
      if g.has "D" then run else run.take 1
    let written := (wanted.zip shownRuns).flatMap fun (run, lines) =>
      lines.flatMap fun line =>
        (if g.has "c" then padded 7 run.length ++ [0x20] else []) ++ line ++ [ending]
    match g.operands with
    | [_, output] =>
      if output = [Bytes.dash] then Work.say written
      else match (← get).machine.openPath (← Work.descriptors) ⟨output⟩ .write with
        | .ok (stream, machine) =>
          modify fun p => { p with machine := (machine.put stream written).toOption.getD machine }
        | .error cause => Work.fail (shown output ++ Bytes.ofString (": " ++ cause.plainText))
    | _ => Work.say written

/-! ## Comparing -/

/-- The lines of two ordered texts: with 1 those only in the first, with 2 those only in the second,
with 3 those in both. `fuel` is more than the number of lines. -/
def merged : (fuel : Nat) → List Bytes → List Bytes → List (Nat × Bytes)
  | 0, _, _ => []
  | _ + 1, [], rest => rest.map fun line => (2, line)
  | _ + 1, rest, [] => rest.map fun line => (1, line)
  | fuel + 1, a :: s, b :: t =>
    match compareBytes a b with
    | .lt => (1, a) :: merged fuel s (b :: t)
    | .gt => (2, b) :: merged fuel (a :: s) t
    | .eq => (3, a) :: merged fuel s t

def comm : Work Unit := do
  let g ← readGiven "1 2 3 check-order nocheck-order output-delimiter= total z/zero-terminated"
  match g.operands with
  | [a, b] =>
    let ending := lineEnd g
    let read := fun (p : Bytes) => do
      match ← Work.readOperand p with
      | .ok text => return plainLines ending text
      | .error cause => Work.fail (shown p ++ Bytes.ofString (": " ++ cause.plainText))
    let first ← read a
    let second ← read b
    let separator := (g.value? "output-delimiter").getD [0x09]
    let width := fun (column : Nat) =>
      ((List.range (column - 1)).filter fun i => !g.has (Nat.repr (i + 1))).length
    for (column, line) in merged (first.length + second.length + 1) first second do
      unless g.has (Nat.repr column) do
        Work.say ((List.replicate (width column) separator).flatten ++ line ++ [ending])
    let ordered := fun (lines : List Bytes) => (disorder? compareBytes false 1 lines).isNone
    unless g.has "nocheck-order" do
      unless ordered first do Work.complain (Bytes.ofString "file 1 is not in sorted order")
      unless ordered second do Work.complain (Bytes.ofString "file 2 is not in sorted order")
      if !ordered first || !ordered second then
        Work.complain (Bytes.ofString "input is not in sorted order")
  | [] => Work.failUsage (Bytes.ofString "missing operand")
  | [a] => Work.failUsage (Bytes.ofString "missing operand after " ++ quoted a)
  | _ :: _ :: extra :: _ => Work.failUsage (Bytes.ofString "extra operand " ++ quoted extra)

/-- The utilities that order lines. -/
def orderingUtilities : List Utility := [⟨"sort", sort⟩, ⟨"uniq", uniq⟩, ⟨"comm", comm⟩]

end CompilerDriver.Utility
