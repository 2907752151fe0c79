import CompilerDriver.Utility.Copying
import CompilerDriver.Utility.Texts

/-!
# Files as bytes

Showing the bytes of a file, copying some of them, cutting a file or making it longer, and making
files with names that nobody else has.
-/

namespace CompilerDriver.Utility

/-! ## Showing bytes -/

/-- A way to show bytes: a letter, and how many of them make one item. -/
structure DumpFormat where
  letter : Char
  size : Nat
  /-- Whether the line is shown as text behind the items. -/
  withText : Bool := false
deriving DecidableEq, Repr

/-- The width of an item. -/
def DumpFormat.width (f : DumpFormat) : Nat :=
  match f.letter, f.size with
  | 'o', 1 => 3 | 'o', 2 => 6 | 'o', 4 => 11 | 'o', _ => 22
  | 'x', size => size * 2
  | 'u', 1 => 3 | 'u', 2 => 5 | 'u', 4 => 10 | 'u', _ => 20
  | 'd', 1 => 4 | 'd', 2 => 6 | 'd', 4 => 11 | 'd', _ => 20
  | _, _ => 3

/-- The names of the bytes that are not printed, in order. -/
def controlNames : List String :=
  ["nul", "soh", "stx", "etx", "eot", "enq", "ack", "bel", "bs", "ht", "nl", "vt", "ff", "cr", "so",
    "si", "dle", "dc1", "dc2", "dc3", "dc4", "nak", "syn", "etb", "can", "em", "sub", "esc", "fs",
    "gs", "rs", "us", "sp"]

/-- Digits in a base, filled up with zeros to a width. -/
def digitsIn (base width n : Nat) : String :=
  let digits := Nat.toDigits base n
  String.ofList (List.replicate (width - digits.length) '0' ++ digits)

/-- A byte as a letter, an escape or a number. -/
def dumpedByte (b : UInt8) : String :=
  let escapes : List (UInt8 × String) :=
    [(0, "\\0"), (7, "\\a"), (8, "\\b"), (9, "\\t"), (10, "\\n"), (11, "\\v"), (12, "\\f"),
      (13, "\\r")]
  match escapes.find? fun e => e.1 = b with
  | some (_, text) => text
  | none => if isPrintable b then String.ofList [Char.ofNat b.toNat] else digitsIn 8 3 b.toNat

/-- Bytes as a number, the first being the lowest. -/
def littleEndian (bytes : Bytes) : Nat := bytes.foldr (fun b n => n * 256 + b.toNat) 0

/-- An item, in its width. -/
def DumpFormat.item (f : DumpFormat) (bytes : Bytes) : Bytes :=
  let n := littleEndian bytes
  let half := Nat.pow 256 f.size / 2
  let text := match f.letter with
    | 'o' => digitsIn 8 f.width n
    | 'x' => digitsIn 16 f.width n
    | 'd' => if half ≤ n then s!"-{half * 2 - n}" else s!"{n}"
    | 'c' => dumpedByte (bytes.headD 0)
    | 'a' =>
      let low := n % 128
      if low = 127 then "del" else (controlNames[low]?).getD (String.ofList [Char.ofNat low])
    | _ => s!"{n}"
  Bytes.ofString (String.ofList (List.replicate (f.width - text.length) ' ') ++ text)

/-- Bytes in groups of a size. `fuel` is more than their number. -/
def groupsOf (size : Nat) : (fuel : Nat) → Bytes → List Bytes
  | 0, _ => []
  | _ + 1, [] => []
  | fuel + 1, bytes => bytes.take size :: groupsOf size fuel (bytes.drop size)

/-- A line of items; `places` is how many bytes a full line has. -/
def DumpFormat.line (f : DumpFormat) (places : Nat) (bytes : Bytes) : Bytes :=
  let items := groupsOf f.size (bytes.length + 1) bytes
  let shownItems := items.flatMap fun item => 0x20 :: f.item item
  if f.withText then
    let missing := (places / f.size - items.length) * (f.width + 1)
    shownItems ++ List.replicate missing 0x20 ++ Bytes.ofString "  >" ++
      bytes.map (fun b => if isPrintable b then b else Bytes.dot) ++ [0x3c]
  else shownItems

/-- The formats that a text of types asks for. `fuel` is more than its length. -/
def dumpFormats : (fuel : Nat) → Bytes → Except UInt8 (List DumpFormat)
  | 0, _ => .ok []
  | _ + 1, [] => .ok []
  | fuel + 1, b :: rest => do
    let letter := Char.ofNat b.toNat
    let (size, rest) : Nat × Bytes := if letter = 'c' || letter = 'a' then (1, rest)
      else
        let digits := rest.takeWhile Bytes.isDigit
        let names : List (Char × Nat) := [('C', 1), ('S', 2), ('I', 4), ('L', 8)]
        match digits, rest with
        | [], c :: after =>
          match names.find? fun n => n.1.toUInt8 = c with
          | some (_, size) => (size, after)
          | none => (4, rest)
        | [], [] => (4, [])
        | _, _ => (Bytes.ofDigits digits, rest.drop digits.length)
    if letter ∉ ['o', 'x', 'u', 'd', 'c', 'a'] then throw b
    let (withText, rest) := match rest with
      | 0x7a :: rest => (true, rest)
      | _ => (false, rest)
    return { letter, size, withText } :: (← dumpFormats fuel rest)

/-- Lines of bytes with their addresses; of lines that are the same only the first is shown, and a
star for the others. -/
def dumpLines (formats : List DumpFormat) (address : Nat → Bytes) (width : Nat) (all : Bool) :
    (position : Nat) → (before : Option Bytes) → (starred : Bool) → List Bytes → Bytes
  | _, _, _, [] => []
  | position, before, starred, line :: rest =>
    if !all && before = some line && line.length = width then
      (if starred then [] else Bytes.ofString "*\n") ++
        dumpLines formats address width all (position + line.length) before true rest
    else
      let rows := formats.zipIdx.flatMap fun (f, i) =>
        let front := address position
        (if i = 0 then front else List.replicate front.length 0x20) ++ f.line width line ++
          [Bytes.newline]
      rows ++ dumpLines formats address width all (position + line.length) (some line) false rest

def od : Work Unit := do
  let g ← readGiven "A/address-radix= j/skip-bytes= N/read-bytes= S/strings? t/format= v/output-duplicates w/width? endian= a b c d f i l o s x"
  let short : List (String × DumpFormat) :=
    [("a", ⟨'a', 1, false⟩), ("b", ⟨'o', 1, false⟩), ("c", ⟨'c', 1, false⟩), ("d", ⟨'u', 2, false⟩),
      ("i", ⟨'d', 4, false⟩), ("l", ⟨'d', 8, false⟩), ("o", ⟨'o', 2, false⟩), ("s", ⟨'d', 2, false⟩),
      ("x", ⟨'x', 2, false⟩)]
  let formats ← g.options.mapM fun (key, value) => do
    if key = "t" then
      match dumpFormats (value.length + 1) value with
      | .ok formats => return formats
      | .error b =>
        Work.fail (Bytes.ofString "invalid character '" ++ [b] ++
          Bytes.ofString "' in type string " ++ quoted value)
    return ((short.filter fun s => s.1 = key).map (·.2))
  let formats := match formats.flatten with
    | [] => [⟨'o', 2, false⟩]
    | formats => formats
  let number := fun (key : String) => (g.value? key).bind sized?
  let skip := (number "j").getD 0
  let width := ((g.value? "w").map fun w => if w = [] then 32 else Bytes.ofDigits w).getD 16
  let all ← readAll g.operands
  if (← get).code ≠ 0 && all = [] then return
  let text := all.drop skip
  let text := match number "N" with
    | some n => text.take n
    | none => text
  let radix := (g.value? "A").getD [0x6f]
  let address := fun (position : Nat) =>
    if radix = [0x6e] then []
    else if radix = [0x64] then Bytes.ofString (digitsIn 10 7 position)
    else if radix = [0x78] then Bytes.ofString (digitsIn 16 6 position)
    else Bytes.ofString (digitsIn 8 7 position)
  let lines := groupsOf width (text.length + 1) text
  Work.say (dumpLines formats address width (g.has "v") skip none false lines)
  unless radix = [0x6e] do Work.sayLine (address (skip + text.length))

/-! ## Text for bytes -/

/-- The letters for six bits each. -/
def sixBitLetters : Bytes :=
  Bytes.ofString "ABCDEFGHIJKLMNOPQRSTUVWXYZabcdefghijklmnopqrstuvwxyz0123456789+/"

/-- Bytes as letters, four for each three bytes. -/
def encodeSixBits : Bytes → Bytes
  | [] => []
  | [a] => letters (a.toNat * 65536) 2 ++ Bytes.ofString "=="
  | [a, b] => letters (a.toNat * 65536 + b.toNat * 256) 3 ++ [Bytes.equals]
  | a :: b :: c :: rest =>
    letters (a.toNat * 65536 + b.toNat * 256 + c.toNat) 4 ++ encodeSixBits rest
where
  /-- The first letters of 24 bits. -/
  letters (n count : Nat) : Bytes :=
    (List.range count).map fun i => (sixBitLetters[n / Nat.pow 64 (3 - i) % 64]?).getD 0

/-- Letters back to bytes; tells whether all of them make sense. -/
def decodeSixBits : Bytes → Bytes × Bool
  | [] => ([], true)
  | a :: b :: c :: d :: rest =>
    let value := fun (letter : UInt8) => sixBitLetters.findIdx? (· = letter)
    match value a, value b with
    | some w, some x =>
      let first := UInt8.ofNat (w * 4 + x / 16)
      match value c, value d with
      | some y, some z =>
        let (more, good) := decodeSixBits rest
        (first :: UInt8.ofNat (x % 16 * 16 + y / 4) :: UInt8.ofNat (y % 4 * 64 + z) :: more, good)
      | some y, none => ([first, UInt8.ofNat (x % 16 * 16 + y / 4)], d = Bytes.equals && rest = [])
      | _, _ => ([first], c = Bytes.equals && d = Bytes.equals && rest = [])
    | _, _ => ([], false)
  | _ => ([], false)

def base64 : Work Unit := do
  let g ← readGiven "d/decode D i/ignore-garbage w/wrap="
  let text ← readAll g.operands
  if g.has "d" || g.has "D" then
    let (bytes, good) := decodeSixBits (text.filter (· ≠ Bytes.newline))
    Work.say bytes
    unless good do Work.fail (Bytes.ofString "invalid input")
  else
    let width := ((g.value? "w").map Bytes.ofDigits).getD 76
    let letters := encodeSixBits text
    if width = 0 then Work.say letters
    else
      for line in groupsOf width (letters.length + 1) letters do Work.sayLine line

/-! ## Sums -/

/-- The remainder of a sum after one more bit. -/
def sumBit (sum : Nat) (bit : Nat) : Nat :=
  let shifted := sum * 2 % 0x100000000 + bit
  if 0x80000000 ≤ sum then shifted ^^^ 0x04c11db7 else shifted

/-- The remainder after one more byte. -/
def sumByte (sum : Nat) (b : Nat) : Nat :=
  (List.range 8).foldl (fun sum i => sumBit sum (b / Nat.pow 2 (7 - i) % 2)) sum

/-- The bytes of a length, the lowest first. `fuel` is more than their number. -/
def lengthBytes : (fuel : Nat) → Nat → List Nat
  | 0, _ => []
  | fuel + 1, n => if n = 0 then [] else n % 256 :: lengthBytes fuel (n / 256)

/-- The sum of a text: the remainder of the text, its length and 32 zeros. -/
def checkSum (text : Bytes) : Nat :=
  let all := text.map UInt8.toNat ++ lengthBytes 20 text.length ++ [0, 0, 0, 0]
  0xffffffff - all.foldl sumByte 0

def cksum : Work Unit := do
  let g ← readGiven "a/algorithm= c/check l/length= raw tag untagged z/zero"
  let named := !g.operands.isEmpty
  forEachText g.operands "" fun p text =>
    Work.sayLine (Bytes.decimal (checkSum text) ++ 0x20 :: Bytes.decimal text.length ++
      if named then 0x20 :: p else [])

/-! ## Sizes -/

/-- The contents of a file with a size: cut short, or filled up with zeros. -/
def withSize (size : Nat) (contents : Bytes) : Bytes :=
  contents.take size ++ List.replicate (size - contents.length) 0

def truncate : Work Unit := do
  let g ← readGiven "c/no-create o/io-blocks r/reference= s/size="
  if (g.value? "s").isNone && (g.value? "r").isNone then
    Work.failUsage (Bytes.ofString "you must specify either '--size' or '--reference'")
  let fs ← Work.files
  let base := match (g.value? "r").bind fun p => fs.node? ⟨p⟩ with
    | some (.file contents _) => contents.length
    | _ => 0
  let (sign, size) ← match g.value? "s" with
    | none => pure (none, base)
    | some text =>
      let (sign, digits) := match text with
        | b :: rest => if b ∈ Bytes.ofString "+-<>/%" then (some b, rest) else (none, text)
        | [] => (none, [])
      match sized? digits with
      | some n => pure (sign, n)
      | none => Work.fail (Bytes.ofString "Invalid number: " ++ quoted text)
  requireOperands g.operands
  for p in g.operands do
    let fs ← Work.files
    let old := match fs.node? ⟨p⟩ with
      | some (.file contents _) => contents
      | _ => []
    let next := match sign.map fun b => Char.ofNat b.toNat with
      | some '+' => old.length + size
      | some '-' => old.length - size
      | some '<' => min old.length size
      | some '>' => max old.length size
      | some '/' => if size = 0 then 0 else old.length / size * size
      | some '%' => if size = 0 then 0 else (old.length + size - 1) / size * size
      | _ => size
    unless g.has "c" && !fs.isPresent ⟨p⟩ do
      match fs.write ⟨p⟩ (withSize next old) false with
      | .ok fs => Work.setFiles fs
      | .error cause =>
        Work.complain (Bytes.ofString "cannot open " ++ quoted p ++
          Bytes.ofString (" for writing: " ++ cause.plainText))

/-- A letter in the other case, as a conversion asks for it. -/
def converted (conversions : List Bytes) (text : Bytes) : Bytes :=
  let has := fun (name : String) => Bytes.ofString name ∈ conversions
  let text := if has "ucase" then text.map Bytes.upper else text
  if has "lcase" then text.map Bytes.lower else text

/-- Copies a part of a file in blocks. -/
def dd : Work Unit := do
  let mut values : List (Bytes × Bytes) := []
  for word in ← Work.arguments do
    match Bytes.cut? Bytes.equals word with
    | some (key, value) => values := (key, value) :: values
    | none => Work.failUsage (Bytes.ofString "unrecognized operand " ++ quoted word)
  let value? := fun (key : String) =>
    (values.find? fun v => v.1 = Bytes.ofString key).map (·.2)
  let number := fun (key : String) (usual : Nat) => do
    match value? key with
    | none => return usual
    | some text =>
      match sized? text with
      | some n => return n
      | none => Work.fail (Bytes.ofString "invalid number: " ++ quoted text)
  let block ← number "bs" 512
  let inBlock := max 1 (← number "ibs" block)
  let outBlock := max 1 (← number "obs" block)
  let conversions := ((value? "conv").map (Bytes.pieces 0x2c)).getD []
  let flags := ((value? "iflag").map (Bytes.pieces 0x2c)).getD []
  let input ← match value? "if" with
    | none => pure ((← Work.readInput).toOption.getD [])
    | some p =>
      match ← Work.readPath p with
      | .ok text => pure text
      | .error (.os .isDirectory) =>
        Work.fail (Bytes.ofString "error reading " ++ quoted p ++ Bytes.ofString ": Is a directory")
      | .error cause =>
        Work.fail (Bytes.ofString "failed to open " ++ quoted p ++
          Bytes.ofString (": " ++ cause.plainText))
  let skip ← number "skip" (← number "iseek" 0)
  let seek ← number "seek" (← number "oseek" 0)
  let text := input.drop (if Bytes.ofString "skip_bytes" ∈ flags then skip else skip * inBlock)
  let text ← match value? "count" with
    | none => pure text
    | some _ =>
      let count ← number "count" 0
      pure (text.take (if Bytes.ofString "count_bytes" ∈ flags then count else count * inBlock))
  let written := converted conversions text
  match value? "of" with
  | none => Work.say written
  | some p =>
    let fs ← Work.files
    let old := match fs.node? ⟨p⟩ with
      | some (.file contents _) => contents
      | _ => []
    let start := seek * outBlock
    let kept := if Bytes.ofString "notrunc" ∈ conversions then old else old.take start
    let access := if start = 0 && kept = [] then Access.write else .update
    match (← get).machine.openPath (← Work.descriptors) ⟨p⟩ access with
    | .error cause =>
      Work.fail (Bytes.ofString "failed to open " ++ quoted p ++
        Bytes.ofString (": " ++ cause.plainText))
    | .ok (stream, m) =>
      let m ← if access = .write then
          match m.put stream written with
          | .ok m => pure m
          | .error cause =>
            Work.fail (Bytes.ofString "error writing " ++ quoted p ++
              Bytes.ofString (": " ++ cause.text))
        else match m.files.write ⟨p⟩ (Machine.overwrite kept start written) false with
          | .ok files => pure { m with files }
          | .error _ => pure m
      modify fun q => { q with machine := m }
  let status := value? "status"
  unless status = some (Bytes.ofString "none") do
    let records := fun (size : Nat) => s!"{text.length / size}+{if text.length % size = 0 then 0 else 1}"
    Work.tell (Bytes.ofString s!"{records inBlock} records in\n{records outBlock} records out\n")
    unless status = some (Bytes.ofString "noxfer") do
      let unit := if text.length = 1 then "byte" else "bytes"
      Work.tell (Bytes.ofString s!"{text.length} {unit} copied, 0 s, 0 B/s\n")

/-- The letters at the end of the name of a part. -/
def partLetters (width n : Nat) : Bytes :=
  (List.range width).map fun i => UInt8.ofNat (0x61 + n / Nat.pow 26 (width - 1 - i) % 26)

/-- Cuts a file into parts. -/
def split : Work Unit := do
  let g ← readGiven "a/suffix-length= additional-suffix= b/bytes= C/line-bytes= d e/elide-empty-files l/lines= n/number= numeric-suffixes? verbose"
  let width := ((g.value? "a").map Bytes.ofDigits).getD 2
  let input := g.operands.headD [Bytes.dash]
  let front := (g.operands[1]?).getD (Bytes.ofString "x")
  match ← Work.readOperand input with
  | .error cause =>
    Work.fail (Bytes.ofString "cannot open " ++ quoted input ++
      Bytes.ofString (" for reading: " ++ cause.plainText))
  | .ok text =>
    let parts : List Bytes := match (g.value? "b").bind sized? with
      | some size => groupsOf (max 1 size) (text.length + 1) text
      | none =>
        let size := max 1 (((g.value? "l").map Bytes.ofDigits).getD 1000)
        let lines := wholeLines Bytes.newline text
        (List.range ((lines.length + size - 1) / size)).map fun i =>
          ((lines.drop (i * size)).take size).flatten
    let numeric := g.has "d" || g.has "numeric-suffixes"
    for (part, i) in parts.zipIdx do
      let ending := if numeric then Bytes.ofString (digitsIn 10 width i) else partLetters width i
      let p := front ++ ending ++ (g.value? "additional-suffix").getD []
      match (← Work.files).write ⟨p⟩ part false with
      | .ok fs => Work.setFiles fs
      | .error cause => Work.fail (shown p ++ Bytes.ofString (": " ++ cause.plainText))

/-! ## New names -/

/-- A template cut at its last run of marks: what is before, their number, and what is behind. -/
def templateParts (template : Bytes) : Bytes × Nat × Bytes :=
  let behind := (template.reverse.takeWhile (· ≠ 0x58)).length
  let front := template.take (template.length - behind)
  let marks := (front.reverse.takeWhile (· = 0x58)).length
  (front.take (front.length - marks), marks, template.drop (template.length - behind))

/-- A template with its marks replaced by the letters of a number. -/
def filledTemplate (template : Bytes) (n : Nat) : Bytes :=
  let (front, marks, behind) := templateParts template
  front ++ partLetters marks n ++ behind

/-- The first of some names that nothing has. -/
def freeName (fs : FileSystem) (template : Bytes) : Bytes :=
  let names := (List.range 1000).map (filledTemplate template)
  (names.find? fun p => !fs.isPresent ⟨p⟩).getD template

/-- Makes a file or a directory of a new name, and tells it. -/
def mktemp : Work Unit := do
  let g ← readGiven "d/directory u/dry-run q/quiet p/tmpdir? t suffix="
  let template := g.operands.headD (Bytes.ofString "tmp.XXXXXXXXXX")
  let environment := (← read).launch.environment
  let usual := (environment.get? (Bytes.ofString "TMPDIR")).getD (Bytes.ofString "/tmp")
  let directory := match g.value? "p" with
    | some [] => some usual
    | some p => some p
    | none => if g.operands.isEmpty || g.has "t" then some usual else none
  if (templateParts template).2.1 < 3 then
    Work.fail (Bytes.ofString "too few X's in template " ++ quoted template)
  let template := match directory with
    | some d => within d template
    | none => template
  let fs ← Work.files
  let p := freeName fs template ++ (g.value? "suffix").getD []
  let made := if g.has "u" then .ok fs
    else if g.has "d" then fs.makeDirectory ⟨p⟩
    else do (← fs.write ⟨p⟩ [] false).setMode ⟨p⟩ fun _ => ⟨0o600⟩
  match made with
  | .ok fs =>
    Work.setFiles fs
    Work.sayLine p
  | .error cause =>
    unless g.has "q" do
      let what := if g.has "d" then "failed to create directory via template "
        else "failed to create file via template "
      Work.warn (Bytes.ofString what ++ quoted template ++ Bytes.ofString (": " ++ cause.plainText))
    Work.quit 1

/-- The utilities on bytes. -/
def blockUtilities : List Utility :=
  [⟨"od", od⟩, ⟨"base64", base64⟩, ⟨"cksum", cksum⟩, ⟨"truncate", truncate⟩, ⟨"dd", dd⟩,
    ⟨"split", split⟩, ⟨"mktemp", mktemp⟩]

end CompilerDriver.Utility
