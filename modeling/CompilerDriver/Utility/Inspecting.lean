import CompilerDriver.Utility.Copying
import CompilerDriver.Utility.Permissions
import CompilerDriver.Utility.Texts

/-!
# Inspecting files

What is in a directory, and what is known about a file. Nothing is said here about times and owners
but that everything belongs to the same user and is as old as everything else.
-/

namespace CompilerDriver.Utility

/-- The permissions of a node. -/
def modeOf : Node → Mode
  | .file _ mode => mode
  | .directory => .executable
  | .link _ => ⟨0o777⟩
  | .device _ => ⟨0o666⟩

/-- The letter for the kind of a node. -/
def kindLetter : Node → UInt8
  | .directory => 0x64
  | .file .. => 0x2d
  | .link _ => 0x6c
  | .device _ => 0x63

/-- Permissions as letters, behind that of the kind. -/
def permissionLetters (n : Node) : Bytes :=
  let bits := (modeOf n).bits
  let group := fun (shift special : Nat) (letter : Char) =>
    let part := bits / Nat.pow 8 shift % 8
    let set := bits / special % 2 = 1
    let executes := part % 2 = 1
    let last := if set then (if executes then letter else letter.toUpper)
      else if executes then 'x' else '-'
    [if part / 4 % 2 = 1 then 'r' else '-', if part / 2 % 2 = 1 then 'w' else '-', last]
  let letters := group 2 0o4000 's' ++ group 1 0o2000 's' ++ group 0 0o1000 't'
  kindLetter n :: letters.map Char.toUInt8

/-- The size of a directory. -/
def directorySize : Nat := 4096

/-- The size of a node. -/
def sizeOf : Node → Nat
  | .file contents _ => contents.length
  | .directory => directorySize
  | .link target => target.bytes.length
  | .device _ => 0

/-- How many names the node at a location has. -/
def linkCount (fs : FileSystem) (l : Location) : Nat :=
  match fs.fileId? l with
  | some id => (fs.entries.filter fun e => e.2.id? = some id).length
  | none =>
    if (fs.found l).isDirectory then
      2 + (fs.entries.filter fun e => e.1.tail = l && e.1 ≠ [] && e.2 = .directory).length
    else 1

/-- A number in a base below ten. -/
def inBase (base n : Nat) : Bytes := Bytes.ofString (String.ofList (Nat.toDigits base n))

/-! ## Listing -/

/-- The sign behind a name that tells its kind. -/
def kindSign (g : Given) (n : Node) : Bytes :=
  match n with
  | .directory => if g.has "F" || g.has "p" then [Bytes.slash] else []
  | .link _ => if g.has "F" then [0x40] else []
  | .file _ mode => if g.has "F" && mode.isExecutable then [0x2a] else []
  | .device _ => []

/-- A name in a listing. -/
def listedName (g : Given) (name : Bytes) (n : Node) : Bytes :=
  let name := if g.has "Q" then 0x22 :: name ++ [0x22] else name
  name ++ kindSign g n

/-- A line about an entry. -/
def longLine (fs : FileSystem) (l : Location) (name : Bytes) (width : Nat) : Bytes :=
  let n := fs.found l
  let target := match n with
    | .link target => Bytes.ofString " -> " ++ target.bytes
    | _ => []
  permissionLetters n ++ 0x20 :: Bytes.decimal (linkCount fs l) ++ Bytes.ofString " root root " ++
    padded width (sizeOf n) ++ Bytes.ofString " Jan  1 00:00 " ++ name ++ target

/-- What stands behind the last dot of a name, with the dot. -/
def extensionOf (name : Bytes) : Bytes :=
  let behind := name.reverse.takeWhile (· ≠ Bytes.dot)
  if behind.length = name.length then [] else Bytes.dot :: behind.reverse

/-- Entries in the order of a listing. -/
def inListOrder (g : Given) (fs : FileSystem) (entries : List (Bytes × Location)) :
    List (Bytes × Location) :=
  let byName := entries.mergeSort fun a b => a.1.precedes b.1
  let ordered := if g.has "S" then
      byName.mergeSort fun a b => sizeOf (fs.found b.2) ≤ sizeOf (fs.found a.2)
    else if g.has "X" then
      byName.mergeSort fun a b => (extensionOf a.1).precedes (extensionOf b.1)
    else byName
  if g.has "r" then ordered.reverse else ordered

/-- Writes entries. -/
def listEntries (g : Given) (entries : List (Bytes × Location)) : Work Unit := do
  let fs ← Work.files
  let ordered := inListOrder g fs entries
  let names := ordered.map fun (name, l) => listedName g name (fs.found l)
  if g.has "m" then
    unless names.isEmpty do Work.sayLine (List.intercalate (Bytes.ofString ", ") names)
  else if g.has "l" then
    let width := (ordered.map fun e => (Bytes.decimal (sizeOf (fs.found e.2))).length).foldl max 1
    for ((_, l), name) in ordered.zip names do Work.sayLine (longLine fs l name width)
  else
    for name in names do Work.sayLine name

/-- The entries of a directory that are listed. -/
def listedInside (g : Given) (fs : FileSystem) (l : Location) : List (Bytes × Location) :=
  let own := (namesIn fs l).filter fun name =>
    (name.head? ≠ some Bytes.dot || g.has "a" || g.has "A") &&
      !(g.has "B" && name.getLast? = some 0x7e)
  let named := own.map fun name => (name, name :: l)
  if g.has "a" && g.lastOf ["a", "A"] = some "a" then
    ([Bytes.dot], l) :: ([Bytes.dot, Bytes.dot], l.tail) :: named
  else named

/-- Lists a directory, and those inside if that is asked for; `titled` puts its path in front.
`fuel` is more than the depth. -/
def listDirectory (g : Given) : (fuel : Nat) → (titled isFirst : Bool) → (path : Bytes) →
    Location → Work Unit
  | 0, _, _, _, _ => return
  | fuel + 1, titled, isFirst, path, l => do
    let fs ← Work.files
    unless isFirst do Work.say [Bytes.newline]
    if titled then Work.sayLine (path ++ [0x3a])
    let entries := listedInside g fs l
    if g.has "l" then
      let blocks := (entries.map fun e => if sizeOf (fs.found e.2) = 0 then 0 else 4).foldl (· + ·) 0
      Work.sayLine (Bytes.ofString s!"total {blocks}")
    listEntries g entries
    if g.has "R" then
      let inner := entries.filter fun e =>
        (fs.found e.2).isDirectory && e.1 ≠ [Bytes.dot] && e.1 ≠ [Bytes.dot, Bytes.dot]
      for (name, l) in inListOrder g fs inner do
        listDirectory g fuel true false (within path name) l

def ls : Work Unit := do
  let g ← readGiven "a/all A/almost-all b/escape B/ignore-backups c C color? d/directory f F/classify? file-type full-time g G/no-group group-directories-first h/human-readable H hide= i/inode I/ignore= k/kibibytes l L/dereference m n/numeric-uid-gid N/literal o p q/hide-control-chars Q/quote-name r/reverse R/recursive s/size S si sort= t time= time-style= T/tabsize= u U v w/width= x X Z zero 1" false 2
  let fs ← Work.files
  let operands := if g.operands.isEmpty then [[Bytes.dot]] else g.operands
  let follows := !(g.has "l" || g.has "d" || g.has "F") || g.has "L" || g.has "H"
  let mut entries := []
  let mut directories := []
  for p in operands do
    let found := if follows then fs.resolve ⟨p⟩ else fs.locateEntry ⟨p⟩
    match found.orElseLazy fun _ => fs.locateEntry ⟨p⟩ with
    | .error cause =>
      Work.complain (Bytes.ofString "cannot access " ++ quoted p ++
        Bytes.ofString (": " ++ cause.plainText)) 2
    | .ok l =>
      if (fs.found l).isDirectory && !g.has "d" then directories := directories ++ [(p, l)]
      else entries := entries ++ [(p, l)]
  listEntries g entries
  let titled := 1 < operands.length || g.has "R"
  let mut isFirst := entries.isEmpty
  for (p, l) in inListOrder g fs directories do
    listDirectory g (fs.entries.length + 1) titled isFirst p l
    isFirst := false

/-! ## Facts about files -/

/-- What a letter of a format stands for. -/
def fact (fs : FileSystem) (p : Bytes) (l : Location) (letter : UInt8) : Bytes :=
  let n := fs.found l
  let size := sizeOf n
  match Char.ofNat letter.toNat with
  | 'n' => p
  | 'N' => match n with
    | .link target => quoted p ++ Bytes.ofString " -> " ++ quoted target.bytes
    | _ => quoted p
  | 's' => Bytes.decimal size
  | 'a' => inBase 8 (modeOf n).bits
  | 'A' => permissionLetters n
  | 'F' => Bytes.ofString (kindOf n)
  | 'h' => Bytes.decimal (linkCount fs l)
  | 'u' | 'g' | 't' | 'T' | 'W' | 'w' => [0x30]
  | 'U' | 'G' => Bytes.ofString "root"
  | 'b' => Bytes.decimal (if size = 0 || n matches .link _ then 0 else (size + 4095) / 4096 * 8)
  | 'B' => Bytes.ofString "512"
  | 'o' => Bytes.ofString "4096"
  | '%' => [0x25]
  | _ => [0x3f]

/-- A format with its letters replaced; backslashes are taken off if that is asked for. -/
def formatted (value : UInt8 → Bytes) (escapes : Bool) : Bytes → Bytes
  | [] => []
  | [b] => [b]
  | b :: c :: rest =>
    if b = 0x25 then value c ++ formatted value escapes rest
    else if escapes && b = 0x5c then
      (if c = 0x6e then [Bytes.newline] else if c = 0x74 then [0x09] else if c = 0x5c then [c]
        else [b, c]) ++ formatted value escapes rest
    else b :: formatted value escapes (c :: rest)

def stat : Work Unit := do
  let g ← readGiven "L/dereference f/file-system c/format= printf= t/terse cached="
  requireOperands g.operands
  let format := match g.lastOf ["c", "printf"] with
    | some "c" => (g.value? "c").getD [] ++ [Bytes.newline]
    | some _ => (g.value? "printf").getD []
    | none => Bytes.ofString "  File: %N\n  Size: %s\n"
  for p in g.operands do
    let fs ← Work.files
    let found := if g.has "L" then fs.resolve ⟨p⟩ else fs.locateEntry ⟨p⟩
    match found with
    | .ok l =>
      let newline := g.lastOf ["c", "printf"] = some "printf"
      Work.say (formatted (fact fs p l) newline format)
    | .error cause =>
      Work.complain (Bytes.ofString "cannot statx " ++ quoted p ++
        Bytes.ofString (": " ++ cause.plainText))

/-- The utilities that inspect files. -/
def inspectingUtilities : List Utility := [⟨"ls", ls⟩, ⟨"dir", ls⟩, ⟨"stat", stat⟩]

end CompilerDriver.Utility
