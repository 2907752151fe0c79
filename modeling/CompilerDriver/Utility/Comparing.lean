import CompilerDriver.Utility.Copying
import CompilerDriver.Utility.Texts

/-!
# Comparing files

Whether two files are the same, where they first differ, and which lines have to be taken away and
added to make one from the other.
-/

namespace CompilerDriver.Utility

/-! ## Byte by byte -/

/-- The number of the first byte that differs, counted from 1, and the two bytes. -/
def firstDifferent : (position : Nat) → Bytes → Bytes → Option (Nat × UInt8 × UInt8)
  | position, a :: s, b :: t => if a = b then firstDifferent (position + 1) s t else some (position, a, b)
  | _, _, _ => none

/-- All bytes that differ, with their numbers. -/
def allDifferent : (position : Nat) → Bytes → Bytes → List (Nat × UInt8 × UInt8)
  | position, a :: s, b :: t =>
    let more := allDifferent (position + 1) s t
    if a = b then more else (position, a, b) :: more
  | _, _, _ => []

/-- A byte in octal with three places. -/
def octalByte (b : UInt8) : Bytes :=
  let digits := Bytes.ofString (String.ofList (Nat.toDigits 8 b.toNat))
  List.replicate (3 - digits.length) 0x20 ++ digits

/-- A byte as it is shown beside its number. -/
def shownBeside (b : UInt8) : Bytes :=
  let low := fun (b : UInt8) =>
    if b < 0x20 then [0x5e, b + 0x40] else if b = 0x7f then [0x5e, 0x3f] else [b]
  if b < 0x80 then low b else Bytes.ofString "M-" ++ low (b - 0x80)

def cmp : Work Unit := do
  let g ← readGiven "b/print-bytes i/ignore-initial= l/verbose n/bytes= s/quiet silent" false 2
  let silent := g.has "s" || g.has "silent"
  let (first, second) ← match g.operands with
    | [] =>
      let name ← Work.name
      Work.warn (Bytes.ofString "missing operand after " ++ 0x27 :: name ++ [0x27])
      Work.fail (Bytes.ofString "Try 'cmp --help' for more information.") 2
    | [first] => pure (first, [Bytes.dash])
    | first :: second :: _ => pure (first, second)
  let read := fun (p : Bytes) => do
    match ← Work.readOperand p with
    | .ok text => return text
    | .error cause =>
      if !silent then Work.warn (p ++ Bytes.ofString (": " ++ cause.plainText))
      Work.quit 2
  if first = second then return
  let skip := ((g.value? "i").map Bytes.ofDigits).getD 0
  let limit := fun (text : Bytes) =>
    match g.value? "n" with
    | some n => (text.drop skip).take (Bytes.ofDigits n)
    | none => text.drop skip
  let one := limit (← read first)
  let other := limit (← read second)
  if one = other then return
  if silent then Work.quit 1
  let shorter := if one.length < other.length then some (first, one)
    else if other.length < one.length then some (second, other) else none
  let ended := fun (name : Bytes) (text : Bytes) (counts : Bool) => do
    if text = [] then
      Work.tell (Bytes.ofString "cmp: EOF on " ++ name ++ Bytes.ofString " which is empty\n")
    else
      let lines := text.count Bytes.newline
      let inLine := text.getLast? ≠ some Bytes.newline
      let place := if counts then
          (if inLine then s!", in line {lines + 1}" else s!", line {lines}") else ""
      Work.tell (Bytes.ofString "cmp: EOF on " ++ name ++
        Bytes.ofString s!" after byte {text.length}{place}\n")
  if g.has "l" then
    let width := (Bytes.decimal (max one.length other.length)).length
    for (position, a, b) in allDifferent 1 one other do
      let beside := fun (c : UInt8) =>
        if g.has "b" then octalByte c ++ 0x20 :: shownBeside c else octalByte c
      let gap := if g.has "b" then List.replicate (4 - (shownBeside a).length) 0x20 else []
      Work.sayLine (padded width position ++ 0x20 :: beside a ++ gap ++ 0x20 :: beside b)
    match shorter with
    | some (name, text) => ended name text false
    | none => pure ()
  else match firstDifferent 1 one other with
    | some (position, a, b) =>
      let line := (one.take (position - 1)).count Bytes.newline + 1
      if g.has "b" then
        Work.sayLine (first ++ 0x20 :: second ++
          Bytes.ofString s!" differ: byte {position}, line {line} is " ++ octalByte a ++
          0x20 :: shownBeside a ++ 0x20 :: octalByte b ++ 0x20 :: shownBeside b)
      else
        Work.sayLine (first ++ 0x20 :: second ++
          Bytes.ofString s!" differ: char {position}, line {line}")
    | none =>
      match shorter with
      | some (name, text) => ended name text true
      | none => pure ()
  Work.quit 1

/-! ## Line by line -/

/-- A line on its way from one text to the other. -/
inductive LineEdit where
  | keep (line : Bytes)
  | drop (line : Bytes)
  | add (line : Bytes)
deriving DecidableEq, Repr

/-- For each tail of the second text the number of lines that it has in common with the first text,
given those for the tail of the first. -/
def commonRow (alike : Bytes → Bytes → Bool) (line : Bytes) : (below : List Nat) → List Bytes →
    List Nat
  | _, [] => [0]
  | below, other :: rest =>
    let row := commonRow alike line below.tail rest
    let diagonal := below.tail.headD 0
    let here := if alike line other then diagonal + 1 else max (below.headD 0) (row.headD 0)
    here :: row

/-- The rows for all tails of the first text. -/
def commonTable (alike : Bytes → Bytes → Bool) (second : List Bytes) : List Bytes →
    List (List Nat)
  | [] => [List.replicate (second.length + 1) 0]
  | line :: rest =>
    let table := commonTable alike second rest
    commonRow alike line (table.headD []) second :: table

/-- The way from one text to another that keeps as many lines as possible; what is taken away comes
before what is added. `fuel` is more than the number of lines. -/
def editsBetween (alike : Bytes → Bytes → Bool) : (fuel : Nat) → List (List Nat) → List Bytes →
    List Bytes → List LineEdit
  | 0, _, _, _ => []
  | _ + 1, _, [], second => second.map .add
  | _ + 1, _, first, [] => first.map .drop
  | fuel + 1, table, a :: s, b :: t =>
    if alike a b then
      .keep a :: editsBetween alike fuel (table.tail.map List.tail) s t
    else
      let without := ((table.tail.headD []).headD 0)
      let withNext := ((table.headD []).tail.headD 0)
      if withNext ≤ without then .drop a :: editsBetween alike fuel table.tail s (b :: t)
      else .add b :: editsBetween alike fuel (table.map List.tail) (a :: s) t

/-- A place where two texts differ: the lines before it in each, and those taken away and added. -/
structure Hunk where
  first : Nat
  second : Nat
  dropped : List Bytes
  added : List Bytes

/-- The places where texts differ. -/
def hunksOf : (first second : Nat) → List LineEdit → List Hunk
  | _, _, [] => []
  | first, second, .keep _ :: rest => hunksOf (first + 1) (second + 1) rest
  | first, second, .drop line :: rest =>
    match hunksOf (first + 1) second rest with
    | h :: more =>
      if h.first = first + 1 && h.second = second then
        { h with first, dropped := line :: h.dropped } :: more
      else { first, second, dropped := [line], added := [] } :: h :: more
    | [] => [{ first, second, dropped := [line], added := [] }]
  | first, second, .add line :: rest =>
    match hunksOf first (second + 1) rest with
    | h :: more =>
      if h.first = first && h.second = second + 1 then
        { h with second, added := line :: h.added } :: more
      else { first, second, dropped := [], added := [line] } :: h :: more
    | [] => [{ first, second, dropped := [], added := [line] }]

/-- A line with a sign in front; one without an end is marked. -/
def signedLine (sign : String) (line : Bytes) : Bytes :=
  if line.getLast? = some Bytes.newline then Bytes.ofString sign ++ line
  else Bytes.ofString sign ++ line ++ Bytes.ofString "\n\\ No newline at end of file\n"

/-- A range of lines behind some others, as two numbers if it has several. -/
def lineRange (before count : Nat) : Bytes :=
  if count = 0 then Bytes.decimal before
  else if count = 1 then Bytes.decimal (before + 1)
  else Bytes.decimal (before + 1) ++ 0x2c :: Bytes.decimal (before + count)

/-- A difference in the usual form. -/
def Hunk.usual (h : Hunk) : Bytes :=
  let letter := if h.added = [] then 0x64 else if h.dropped = [] then 0x61 else 0x63
  lineRange h.first h.dropped.length ++ letter :: lineRange h.second h.added.length ++
    Bytes.newline :: h.dropped.flatMap (signedLine "< ") ++
    (if h.dropped = [] || h.added = [] then [] else Bytes.ofString "---\n") ++
    h.added.flatMap (signedLine "> ")

/-- Edits in groups that are so many kept lines apart, each with so many around it: the numbers of
lines before, and the edits. `lead` are kept lines before, latest first. -/
def editGroups (around : Nat) : (first second : Nat) → (lead : List LineEdit) →
    (current : Option (Nat × Nat × List LineEdit)) → (trail : List LineEdit) → List LineEdit →
    List (Nat × Nat × List LineEdit)
  | _, _, _, current, trail, [] =>
    match current with
    | some (a, b, edits) => [(a, b, edits ++ trail.take around)]
    | none => []
  | first, second, lead, current, trail, edit :: rest =>
    match edit, current with
    | .keep _, some (a, b, edits) =>
      let trail := trail ++ [edit]
      if around * 2 < trail.length then
        (a, b, edits ++ trail.take around) ::
          editGroups around (first + 1) (second + 1) (trail.reverse.take around) none [] rest
      else editGroups around (first + 1) (second + 1) [] current trail rest
    | .keep _, none =>
      editGroups around (first + 1) (second + 1) ((edit :: lead).take around) none [] rest
    | _, _ =>
      let (a, b, edits) := current.getD (first - lead.length, second - lead.length, lead.reverse)
      let first := if edit matches .drop _ then first + 1 else first
      let second := if edit matches .add _ then second + 1 else second
      editGroups around first second [] (some (a, b, edits ++ trail ++ [edit])) [] rest

/-- Whether an edit keeps a line. -/
def LineEdit.isKept : LineEdit → Bool
  | keep _ => true
  | _ => false

/-- Edits in a row, what is taken away before what is added. -/
def droppedFirst : (dropped added : List LineEdit) → List LineEdit → List LineEdit
  | dropped, added, [] => dropped.reverse ++ added.reverse
  | dropped, added, .drop line :: rest => droppedFirst (.drop line :: dropped) added rest
  | dropped, added, .add line :: rest => droppedFirst dropped (.add line :: added) rest
  | dropped, added, .keep line :: rest =>
    dropped.reverse ++ added.reverse ++ .keep line :: droppedFirst [] [] rest

/-- A group of edits with its surroundings in the unified form. -/
def unifiedGroup (first second : Nat) (edits : List LineEdit) : Bytes :=
  let old := (edits.filter fun e => !(e matches .add _)).length
  let new := (edits.filter fun e => !(e matches .drop _)).length
  let range := fun (before count : Nat) =>
    let start := if count = 0 then before else before + 1
    if count = 1 then Bytes.decimal start
    else Bytes.decimal start ++ 0x2c :: Bytes.decimal count
  Bytes.ofString "@@ -" ++ range first old ++ Bytes.ofString " +" ++ range second new ++
    Bytes.ofString " @@\n" ++ edits.flatMap fun
      | .keep line => signedLine " " line
      | .drop line => signedLine "-" line
      | .add line => signedLine "+" line

/-- A line as it is compared. -/
def comparedLine (g : Given) (line : Bytes) : Bytes :=
  let line := if g.has "i" then line.map Bytes.lower else line
  if g.has "w" then line.filter fun b => !Bytes.isSpace b
  else if g.has "b" then
    let text := (line.reverse.dropWhile Bytes.isSpace).reverse
    (text.foldl (fun (done, blank) b =>
      if Bytes.isSpace b then (if blank then done else 0x20 :: done, true)
      else (b :: done, false)) (([] : Bytes), false)).1.reverse
  else line

/-- The time that headers show. -/
def headerTime : Bytes := Bytes.ofString "\t1970-01-01 00:00:00.000000000 +0000"

/-- Compares two files that can be read; tells whether they differ. -/
def diffTexts (g : Given) (front : Bytes) (p q one other : Bytes) : Work Bool := do
  if one = other then
    if g.has "s" then
      Work.sayLine (Bytes.ofString "Files " ++ p ++ Bytes.ofString " and " ++ q ++
        Bytes.ofString " are identical")
    return false
  let alike : Bytes → Bytes → Bool := fun a b => comparedLine g a = comparedLine g b
  let first := wholeLines Bytes.newline one
  let second := wholeLines Bytes.newline other
  let table := commonTable alike second first
  let edits := editsBetween alike (first.length + second.length + 1) table first second
  if edits.all LineEdit.isKept then return false
  if g.has "q" then
    Work.sayLine (Bytes.ofString "Files " ++ p ++ Bytes.ofString " and " ++ q ++
      Bytes.ofString " differ")
    return true
  if 0 ∈ one || 0 ∈ other then
    Work.sayLine (Bytes.ofString "Binary files " ++ p ++ Bytes.ofString " and " ++ q ++
      Bytes.ofString " differ")
    return true
  Work.say front
  if g.has "u" || g.has "U" then
    let labels := (g.options.filter fun o => o.1 = "L").map (·.2)
    let around := ((g.value? "U").map Bytes.ofDigits).getD 3
    Work.sayLine (Bytes.ofString "--- " ++ (labels[0]?).getD (p ++ headerTime))
    Work.sayLine (Bytes.ofString "+++ " ++ (labels[1]?).getD (q ++ headerTime))
    for (a, b, group) in editGroups around 0 0 [] none [] (droppedFirst [] [] edits) do
      Work.say (unifiedGroup a b group)
  else
    for h in hunksOf 0 0 (droppedFirst [] [] edits) do Work.say h.usual
  return true

/-- Compares two paths; tells whether they differ. `fuel` is more than the depth. -/
def diffPaths (g : Given) (inside : Bool) : (fuel : Nat) → (p q : Bytes) → Work Bool
  | 0, _, _ => return false
  | fuel + 1, p, q => do
    let fs ← Work.files
    let isDirectory := fun (p : Bytes) => p ≠ [Bytes.dash] && fs.isDirectory ⟨p⟩
    if isDirectory p && isDirectory q then
      let names := fun (p : Bytes) =>
        ((fs.resolve ⟨p⟩).toOption.map (namesIn fs)).getD []
      let all := (names p ++ names q).mergeSort fun a b => a.precedes b
      let mut differs := false
      for name in all.eraseDups do
        if name ∉ names q then
          if g.has "N" && !isDirectory (within p name) then
            let found ← diffPaths g true fuel (within p name) (within q name)
            differs := differs || found
          else
            Work.sayLine (Bytes.ofString "Only in " ++ p ++ Bytes.ofString ": " ++ name)
            differs := true
        else if name ∉ names p then
          if g.has "N" && !isDirectory (within q name) then
            let found ← diffPaths g true fuel (within p name) (within q name)
            differs := differs || found
          else
            Work.sayLine (Bytes.ofString "Only in " ++ q ++ Bytes.ofString ": " ++ name)
            differs := true
        else if isDirectory (within p name) && isDirectory (within q name) && !g.has "r" then
          Work.sayLine (Bytes.ofString "Common subdirectories: " ++ within p name ++
            Bytes.ofString " and " ++ within q name)
        else
          let found ← diffPaths g true fuel (within p name) (within q name)
          differs := differs || found
      return differs
    if inside && (isDirectory p != isDirectory q) then
      let kind := fun (p : Bytes) => if isDirectory p then "directory" else "regular file"
      Work.sayLine (Bytes.ofString "File " ++ p ++ Bytes.ofString s!" is a {kind p} while file " ++
        q ++ Bytes.ofString s!" is a {kind q}")
      return true
    let source := if isDirectory p then within p (baseOf q) else p
    let target := if isDirectory q then within q (baseOf p) else q
    let absent := fun (p : Bytes) => g.has "N" && p ≠ [Bytes.dash] && !fs.isPresent ⟨p⟩
    let one ← if absent source then pure (.ok []) else Work.readOperand source
    let other ← if absent target then pure (.ok []) else Work.readOperand target
    match one, other with
    | .ok one, .ok other =>
      let front := if inside && !g.has "q" then Bytes.ofString "diff " ++
          Bytes.join 0x20 ((g.options.map fun o => Bytes.ofString ("-" ++ o.1)) ++ [source, target]) ++
          [Bytes.newline]
        else []
      diffTexts g front source target one other
    | _, _ =>
      match one with
      | .error cause =>
        Work.complain (source ++ Bytes.ofString (": " ++ cause.plainText)) 2
      | .ok _ => pure ()
      match other with
      | .error cause =>
        Work.complain (target ++ Bytes.ofString (": " ++ cause.plainText)) 2
      | .ok _ => pure ()
      return false

def diff : Work Unit := do
  let g ← readGiven "a/text b/ignore-space-change B/ignore-blank-lines c C/context= d/minimal e/ed E/ignore-tab-expansion i/ignore-case L/label= N/new-file q/brief r/recursive s/report-identical-files t/expand-tabs T/initial-tab u U/unified= w/ignore-all-space W/width= x/exclude= y/side-by-side color? strip-trailing-cr normal" false 2
  match g.operands with
  | [p, q] =>
    let fs ← Work.files
    let differs ← diffPaths g false (fs.entries.length + 2) p q
    if differs then Work.mark 1
  | [] | [_] =>
    let last := (g.operands.head?).getD (← Work.name)
    Work.warn (Bytes.ofString "missing operand after '" ++ last ++ [0x27])
    Work.fail (Bytes.ofString "Try 'diff --help' for more information.") 2
  | _ :: _ :: extra :: _ =>
    Work.warn (Bytes.ofString "extra operand '" ++ extra ++ [0x27])
    Work.fail (Bytes.ofString "Try 'diff --help' for more information.") 2

/-- The utilities that compare files. -/
def comparingUtilities : List Utility := [⟨"cmp", cmp⟩, ⟨"diff", diff⟩]

end CompilerDriver.Utility
