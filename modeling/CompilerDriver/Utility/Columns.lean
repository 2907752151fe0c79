import CompilerDriver.Utility.Texts

/-!
# Columns and lines

Parts of each line by their position, lines put side by side, numbered, and cut to a width.
-/

namespace CompilerDriver.Utility

/-! ## Parts of lines -/

/-- Positions from one to another; the last is open if it is missing. -/
structure PositionRange where
  first : Nat
  last : Option Nat
deriving DecidableEq, Repr

/-- Whether a position is in a range. -/
def PositionRange.holds (r : PositionRange) (n : Nat) : Bool := r.first ≤ n && r.last.all (n ≤ ·)

/-- A written list of ranges, or what is wrong with it. -/
def positionRanges (fields : Bool) (text : Bytes) : Except Bytes (List PositionRange) :=
  let fromOne := if fields then "fields are numbered from 1"
    else "byte/character positions are numbered from 1"
  let separated := text.map fun b => if b = 0x20 || b = 0x09 then 0x2c else b
  (Bytes.pieces 0x2c separated).mapM fun item => do
    let number := fun (digits : Bytes) => do
      match Bytes.natural? digits with
      | some 0 => throw (Bytes.ofString fromOne)
      | some n => return n
      | none =>
        let what := if fields then "invalid field value " else "invalid byte/character position "
        throw (Bytes.ofString what ++ quoted item)
    if item = [] then throw (Bytes.ofString fromOne)
    match Bytes.cut? Bytes.dash item with
    | none =>
      let n ← number item
      return ⟨n, some n⟩
    | some ([], []) => throw (Bytes.ofString "invalid range with no endpoint: -")
    | some (first, []) => return ⟨← number first, none⟩
    | some ([], last) => return ⟨1, some (← number last)⟩
    | some (first, last) =>
      let low ← number first
      let high ← number last
      if high < low then throw (Bytes.ofString "invalid decreasing range")
      return ⟨low, some high⟩

/-- The items at the positions that are wanted. -/
def atPositions {α : Type} (wanted : Nat → Bool) (items : List α) : List α :=
  (items.zipIdx 1).filterMap fun (item, n) => if wanted n then some item else none

/-- Runs of items that stand side by side. -/
def runsOfBytes (wanted : Nat → Bool) : (position : Nat) → (current : Bytes) → Bytes → List Bytes
  | _, current, [] => if current = [] then [] else [current.reverse]
  | position, current, b :: rest =>
    if wanted position then runsOfBytes wanted (position + 1) (b :: current) rest
    else
      let more := runsOfBytes wanted (position + 1) [] rest
      if current = [] then more else current.reverse :: more

def cut : Work Unit := do
  let g ← readGiven "b/bytes= c/characters= d/delimiter= f/fields= n complement s/only-delimited output-delimiter= z/zero-terminated"
  let lists := g.options.filter fun o => o.1 ∈ ["b", "c", "f"]
  let (key, list) ← match lists with
    | [] => Work.failUsage (Bytes.ofString "you must specify a list of bytes, characters, or fields")
    | [one] => pure one
    | _ => Work.failUsage (Bytes.ofString "only one list may be specified")
  let byFields := key = "f"
  let delimiter ← match g.value? "d" with
    | none => pure 0x09
    | some [] => pure 0
    | some [b] => pure b
    | some _ => Work.failUsage (Bytes.ofString "the delimiter must be a single character")
  if !byFields && (g.value? "d").isSome then
    Work.failUsage (Bytes.ofString
      "an input delimiter may be specified only when operating on fields")
  if !byFields && g.has "s" then
    Work.failUsage (Bytes.ofString
      "suppressing non-delimited lines makes sense\n\tonly when operating on fields")
  let ranges ← match positionRanges byFields list with
    | .ok ranges => pure ranges
    | .error fault => Work.failUsage fault
  let wanted := fun (n : Nat) => (ranges.any fun r => r.holds n) != g.has "complement"
  let ending := lineEnd g
  let joined := fun (separator : Bytes) (parts : List Bytes) => List.intercalate separator parts
  forEachText g.operands "" fun _ text =>
    for line in plainLines ending text do
      if byFields then
        let fields := Bytes.pieces delimiter line
        if delimiter ∉ line then
          unless g.has "s" do Work.say (line ++ [ending])
        else
          Work.say (joined ((g.value? "output-delimiter").getD [delimiter])
            (atPositions wanted fields) ++ [ending])
      else
        match g.value? "output-delimiter" with
        | some separator =>
          Work.say (joined separator (runsOfBytes wanted 1 [] line) ++ [ending])
        | none => Work.say (atPositions wanted line ++ [ending])

/-! ## Side by side -/

/-- The separators that a list of them names; one that is empty puts nothing. -/
def separatorsOf : Bytes → List Bytes
  | [] => []
  | [b] => [[b]]
  | b :: c :: rest =>
    if b = 0x5c then
      let item := if c = 0x6e then [Bytes.newline] else if c = 0x74 then [0x09]
        else if c = 0x30 then [] else [c]
      item :: separatorsOf rest
    else [b] :: separatorsOf (c :: rest)

/-- Items with separators between them that come in turn. -/
def withSeparators (separators : List Bytes) (items : List Bytes) : Bytes :=
  (items.zipIdx.map fun (item, i) =>
    (if i = 0 || separators.isEmpty then []
      else (separators[(i - 1) % separators.length]?).getD []) ++ item).flatten

/-- Rows of several texts, as long as one of them has a line. A text that is named twice gives its
lines in turn. `fuel` is more than the number of lines. -/
def pasteRows (names : List Bytes) : (fuel : Nat) → List (Bytes × List Bytes) → List (List Bytes)
  | 0, _ => []
  | fuel + 1, left =>
    let (row, left) := names.foldl (fun (row, left) name =>
      match left.find? fun (l : Bytes × List Bytes) => l.1 = name with
      | some (_, line :: rest) =>
        (some line :: row, (name, rest) :: left.filter fun l => l.1 ≠ name)
      | _ => (none :: row, left)) (([] : List (Option Bytes)), left)
    if row.all Option.isNone then []
    else row.reverse.map (·.getD []) :: pasteRows names fuel left

def paste : Work Unit := do
  let g ← readGiven "d/delimiters= s/serial z/zero-terminated"
  let ending := lineEnd g
  let separators := separatorsOf ((g.value? "d").getD [0x09])
  let operands := if g.operands.isEmpty then [[Bytes.dash]] else g.operands
  let mut texts : List (Bytes × List Bytes) := []
  for (p, i) in operands.zipIdx do
    let known := p = [Bytes.dash] && texts.any fun t => t.1 = p
    unless known do
      match ← Work.readOperand p with
      | .ok text =>
        let key := if p = [Bytes.dash] then p else p ++ 0 :: Bytes.decimal i
        texts := texts ++ [(key, plainLines ending text)]
      | .error cause =>
        Work.complain (shown p ++ Bytes.ofString (": " ++ cause.plainText))
        unless g.has "s" do Work.quit 1
  if g.has "s" then
    for (_, lines) in texts do Work.say (withSeparators separators lines ++ [ending])
  else
    let names := operands.zipIdx.map fun (p, i) =>
      if p = [Bytes.dash] then p else p ++ 0 :: Bytes.decimal i
    let total := (texts.map fun t => t.2.length).foldl (· + ·) 0
    for row in pasteRows names (total + 1) texts do
      Work.say (withSeparators separators row ++ [ending])

/-! ## Numbers and widths -/

/-- A number in a width: at the left, at the right, or at the right with zeros. -/
def numberIn (format : Bytes) (width n : Nat) : Bytes :=
  let digits := Bytes.decimal n
  let fill := width - digits.length
  if format = Bytes.ofString "ln" then digits ++ List.replicate fill 0x20
  else if format = Bytes.ofString "rz" then List.replicate fill 0x30 ++ digits
  else padded width n

def nl : Work Unit := do
  let g ← readGiven "b/body-numbering= d/section-delimiter= f/footer-numbering= h/header-numbering= i/line-increment= l/join-blank-lines= n/number-format= p/no-renumber s/number-separator= v/starting-line-number= w/number-width="
  let number := fun (key : String) (usual : Nat) =>
    ((g.value? key).map Bytes.ofDigits).getD usual
  let width := number "w" 6
  let separator := (g.value? "s").getD [0x09]
  let style := ((g.value? "b").bind List.head?).getD 0x74
  let text ← readAll g.operands
  let mut n := number "v" 1
  for line in plainLines Bytes.newline text do
    if style = 0x61 || style = 0x74 && line ≠ [] then
      Work.sayLine (numberIn ((g.value? "n").getD []) width n ++ separator ++ line)
      n := n + number "i" 1
    else Work.sayLine (List.replicate (width + separator.length) 0x20 ++ line)

/-- The column behind a byte. -/
def columnAfter (countsBytes : Bool) (column : Nat) (b : UInt8) : Nat :=
  if countsBytes then column + 1
  else if b = 0x08 then column - 1
  else if b = 0x0d then 0
  else if b = 0x09 then column / 8 * 8 + 8
  else column + 1

/-- A line cut so that no part is wider than a width. `current` is the part at work, latest first,
and `column` its width; with `atBlanks` a part ends behind a blank if it has one. -/
def foldLine (countsBytes atBlanks : Bool) (width : Nat) : (fuel : Nat) → (current : Bytes) →
    (column : Nat) → Bytes → List Bytes
  | 0, current, _, rest => [current.reverse ++ rest]
  | _, current, _, [] => [current.reverse]
  | fuel + 1, current, column, b :: rest =>
    let next := columnAfter countsBytes column b
    if next ≤ width || current = [] then foldLine countsBytes atBlanks width fuel (b :: current) next rest
    else
      let tail := current.takeWhile fun c => c ≠ 0x20 && c ≠ 0x09
      if atBlanks && tail.length < current.length then
        let again := tail.reverse
        let column := again.foldl (columnAfter countsBytes) 0
        (current.drop tail.length).reverse ::
          foldLine countsBytes atBlanks width fuel tail column (b :: rest)
      else current.reverse :: foldLine countsBytes atBlanks width fuel [] 0 (b :: rest)

def fold : Work Unit := do
  let g ← readGiven "b/bytes s/spaces w/width="
  let width ← match g.value? "w" with
    | none => pure 80
    | some text =>
      match Bytes.natural? text with
      | some 0 =>
        Work.fail (Bytes.ofString "invalid number of columns: " ++ quoted text ++
          Bytes.ofString ": Numerical result out of range")
      | some n => pure n
      | none => Work.fail (Bytes.ofString "invalid number of columns: " ++ quoted text)
  forEachText g.operands "" fun _ text =>
    for line in wholeLines Bytes.newline text do
      let ended := line.getLast? = some Bytes.newline
      let body := if ended then line.dropLast else line
      let parts := foldLine (g.has "b") (g.has "s") width (body.length * 2 + 2) [] 0 body
      Work.say (Bytes.join Bytes.newline parts ++ if ended then [Bytes.newline] else [])

/-- Tabs turned into blanks. -/
def expandTabs (size : Nat) (initialOnly : Bool) : (column : Nat) → (seen : Bool) → Bytes → Bytes
  | _, _, [] => []
  | column, seen, b :: rest =>
    if b = Bytes.newline then b :: expandTabs size initialOnly 0 false rest
    else if b = 0x09 && !(initialOnly && seen) then
      let next := (column / size + 1) * size
      List.replicate (next - column) 0x20 ++ expandTabs size initialOnly next seen rest
    else
      let seen := seen || b ≠ 0x20 && b ≠ 0x09
      b :: expandTabs size initialOnly (column + 1) seen rest

def expand : Work Unit := do
  let g ← readGiven "i/initial t/tabs="
  let size := max 1 (((g.value? "t").map Bytes.ofDigits).getD 8)
  forEachText g.operands "" fun _ text =>
    Work.say (expandTabs size (g.has "i") 0 false text)

/-- Blanks turned into tabs: those at the start of a line, or all that reach a tab stop. `blanks` are
the blanks that have not been written. -/
def unexpandTabs (size : Nat) (everywhere : Bool) : (column blanks : Nat) → (seen : Bool) → Bytes →
    Bytes
  | _, blanks, _, [] => List.replicate blanks 0x20
  | column, blanks, seen, b :: rest =>
    let kept := List.replicate blanks 0x20
    if b = Bytes.newline then kept ++ b :: unexpandTabs size everywhere 0 0 false rest
    else if seen && !everywhere then b :: unexpandTabs size everywhere (column + 1) 0 seen rest
    else if b = 0x20 then
      if (column + 1) % size = 0 then
        (if blanks = 0 && everywhere && (rest.head? ≠ some 0x20) then [0x20] else [0x09]) ++
          unexpandTabs size everywhere (column + 1) 0 seen rest
      else unexpandTabs size everywhere (column + 1) (blanks + 1) seen rest
    else if b = 0x09 then
      0x09 :: unexpandTabs size everywhere ((column / size + 1) * size) 0 seen rest
    else kept ++ b :: unexpandTabs size everywhere (column + 1) 0 true rest

def unexpand : Work Unit := do
  let g ← readGiven "a/all first-only t/tabs="
  let size := max 1 (((g.value? "t").map Bytes.ofDigits).getD 8)
  let everywhere := (g.has "a" || g.has "t") && !g.has "first-only"
  forEachText g.operands "" fun _ text =>
    Work.say (unexpandTabs size everywhere 0 0 false text)

/-- The utilities on columns. -/
def columnUtilities : List Utility :=
  [⟨"cut", cut⟩, ⟨"paste", paste⟩, ⟨"nl", nl⟩, ⟨"fold", fold⟩, ⟨"expand", expand⟩,
    ⟨"unexpand", unexpand⟩]

end CompilerDriver.Utility
