import CompilerDriver.Shell.Pattern
import CompilerDriver.Text.Regex.Reading
import CompilerDriver.Utility.Inspecting
import CompilerDriver.Utility.Launchers

/-!
# Finding files

All that lies at some paths is gone through, and for each file an expression says what is looked at
and what is done. An expression is made of criteria and actions with connectives between them.
-/

namespace CompilerDriver.Utility

/-- How a number is compared with one that is given. -/
inductive Measure where
  | exactly (n : Nat)
  | more (n : Nat)
  | fewer (n : Nat)

/-- Whether a number is as a measure says. -/
def Measure.holds : Measure → Nat → Bool
  | exactly n, m => m = n
  | more n, m => n < m
  | fewer n, m => m < n

/-- What is asked about a file, or done with it. -/
inductive Criterion where
  | always (answer : Bool)
  | name (pattern : Bytes) (anyCase : Bool)
  | path (pattern : Bytes) (anyCase : Bool)
  | fits (regex : Text.Regex) (anyCase : Bool)
  | kind (letters : Bytes)
  | empty
  | size (measure : Measure) (block : Nat)
  | links (measure : Measure)
  | permissions (sign : Option UInt8) (bits : Nat)
  | sameFile (id : Option FileId)
  | executable
  | linkTarget (pattern : Bytes)
  | print (ending : UInt8)
  | printFormat (format : Bytes)
  | delete
  /-- Runs a program for each file, or once for all that have come together, by number. -/
  | run (words : List Bytes) (together : Option Nat) (inside : Bool)
  | prune
  | quit
  | not (c : Criterion)
  | and (c d : Criterion)
  | or (c d : Criterion)
  | both (c d : Criterion)

namespace Criterion

/-- Whether something is done, so that the path is not written anyway. -/
def acts : Criterion → Bool
  | print _ | printFormat _ | delete | run .. => true
  | not c => c.acts
  | and c d | or c d | both c d => c.acts || d.acts
  | _ => false

/-- Whether files are taken away, so that what is inside comes first. -/
def deletes : Criterion → Bool
  | delete => true
  | not c => c.deletes
  | and c d | or c d | both c d => c.deletes || d.deletes
  | _ => false

end Criterion

/-- How a search goes about. -/
structure Search where
  least : Nat := 0
  most : Option Nat := none
  insideFirst : Bool := false
  follows : Bool := false

/-- An expression that is read: the words left, how the search goes about, and how many programs run
once for all files. -/
structure FindReading where
  rest : List Bytes
  search : Search := {}
  programs : Nat := 0

/-- A step of reading an expression. -/
abbrev Find (α : Type) := StateT FindReading Work α

namespace Find

/-- Gives up. -/
def fail {α : Type} (fault : Bytes) : Find α := (Work.fail fault : Work α)

/-- The next word, which is taken. -/
def take? : Find (Option Bytes) := do
  let s ← get
  match s.rest with
  | word :: rest =>
    set { s with rest }
    return some word
  | [] => return none

/-- The value behind a word. -/
def value (word : Bytes) : Find Bytes := do
  match ← take? with
  | some value => return value
  | none => fail (Bytes.ofString "missing argument to \x60" ++ word ++ [0x27])

/-- A number with a sign. -/
def measure (word text : Bytes) : Find Measure := do
  let number := fun (digits : Bytes) => do
    match Bytes.natural? digits with
    | some n => return n
    | none =>
      fail (Bytes.ofString "Invalid argument \x60" ++ text ++ Bytes.ofString "' to " ++ word)
  match text with
  | 0x2b :: digits => return .more (← number digits)
  | 0x2d :: digits => return .fewer (← number digits)
  | digits => return .exactly (← number digits)

/-- The words of a program up to a semicolon, or a plus behind the place of the file. -/
def program (word : Bytes) : (fuel : Nat) → (soFar : List Bytes) → Find (List Bytes × Bool)
  | 0, _ => fail (Bytes.ofString "missing argument to \x60" ++ word ++ [0x27])
  | fuel + 1, soFar => do
    match ← take? with
    | none => fail (Bytes.ofString "missing argument to \x60" ++ word ++ [0x27])
    | some next =>
      if next = [0x3b] then return (soFar.reverse, false)
      if next = [0x2b] && soFar.head? = some (Bytes.ofString "\x7b\x7d") then
        return (soFar.tail.reverse, true)
      program word fuel (next :: soFar)

/-- A number in octal. -/
def octal? (text : Bytes) : Option Nat :=
  if text ≠ [] && text.all fun b => 0x30 ≤ b && b ≤ 0x37 then
    some (text.foldl (fun n d => n * 8 + (d.toNat - 0x30)) 0)
  else none

/-- Permissions that are asked about. -/
def permissionsOf (text : Bytes) : Find Criterion := do
  let (sign, mode) := match text with
    | b :: rest => if b = Bytes.dash || b = Bytes.slash then (some b, rest) else (none, text)
    | [] => (none, text)
  match octal? mode with
  | some bits => return .permissions sign bits
  | none =>
    match modeChange? mode with
    | some change => return .permissions sign (change false ⟨0⟩).bits
    | none => fail (Bytes.ofString "invalid mode \x60" ++ text ++ [0x27])

/-- A size with the letter of its unit. -/
def sizeOf (word text : Bytes) : Find Criterion := do
  let units : List (Char × Nat) :=
    [('c', 1), ('w', 2), ('b', 512), ('k', 1024), ('M', 1048576), ('G', 1073741824)]
  let last := text.getLast?.getD 0
  match units.find? fun u => u.1.toUInt8 = last with
  | some (_, block) => return .size (← measure word text.dropLast) block
  | none => return .size (← measure word text) 512

/-- A criterion by its word, if there is one of that name. -/
def named? (word : Bytes) (fs : FileSystem) (fuel : Nat) : Find (Option Criterion) := do
  let value := value word
  let set := fun (change : Search → Search) =>
    modify fun (s : FindReading) => { s with search := change s.search }
  let is := fun (name : String) => word = Bytes.ofString name
  if is "-name" then return some (.name (← value) false)
  else if is "-iname" then return some (.name (← value) true)
  else if is "-path" || is "-wholename" then return some (.path (← value) false)
  else if is "-ipath" || is "-iwholename" then return some (.path (← value) true)
  else if is "-lname" then return some (.linkTarget (← value))
  else if is "-regex" || is "-iregex" then
    match Text.Regex.ofBytes false false (← value) with
    | .ok r =>
      let whole := Text.Regex.sequence (.place .textStart) (.sequence r (.place .textEnd))
      return some (.fits whole (is "-iregex"))
    | .error fault => fail (Bytes.ofString fault.message)
  else if is "-type" || is "-xtype" then
    let letters := (← value).filter (· ≠ 0x2c)
    match letters.find? fun b => b ∉ Bytes.ofString "fdlcbps" with
    | some b => fail (Bytes.ofString "Unknown argument to -type: " ++ [b])
    | none => return some (.kind letters)
  else if is "-empty" then return some .empty
  else if is "-true" then return some (.always true)
  else if is "-false" then return some (.always false)
  else if is "-size" then return some (← sizeOf word (← value))
  else if is "-links" then return some (.links (← measure word (← value)))
  else if is "-perm" then return some (← permissionsOf (← value))
  else if is "-executable" then return some .executable
  else if is "-readable" || is "-writable" then return some (.always true)
  else if is "-samefile" then
    let p ← value
    match fs.resolve ⟨p⟩ with
    | .ok l => return some (.sameFile (fs.fileId? l))
    | .error cause => fail (quoted p ++ Bytes.ofString (": " ++ cause.plainText))
  else if is "-newer" || is "-anewer" || is "-cnewer" || is "-mtime" || is "-mmin" ||
      is "-atime" || is "-ctime" then
    let _ ← value
    return some (.always false)
  else if is "-user" || is "-group" then return some (.always ((← value) = Bytes.ofString "root"))
  else if is "-print" then return some (.print Bytes.newline)
  else if is "-print0" then return some (.print 0)
  else if is "-printf" then return some (.printFormat (← value))
  else if is "-ls" then return some (.print Bytes.newline)
  else if is "-delete" then
    set fun s => { s with insideFirst := true }
    return some .delete
  else if is "-exec" || is "-execdir" || is "-ok" then
    let (words, together) ← program word fuel []
    if words.isEmpty then fail (Bytes.ofString "missing argument to \x60" ++ word ++ [0x27])
    let s ← get
    if together then
      modify fun s => { s with programs := s.programs + 1 }
      return some (.run words (some s.programs) (is "-execdir"))
    return some (.run words none (is "-execdir"))
  else if is "-prune" then return some .prune
  else if is "-quit" then return some .quit
  else if is "-maxdepth" || is "-mindepth" then
    let text ← value
    match Bytes.natural? text with
    | none =>
      fail (Bytes.ofString "Expected a positive decimal integer argument to " ++ word ++
        Bytes.ofString ", but got " ++ quoted text)
    | some n =>
      if is "-maxdepth" then set fun s => { s with most := some n }
      else set fun s => { s with least := n }
      return some (.always true)
  else if is "-depth" || is "-d" then
    set fun s => { s with insideFirst := true }
    return some (.always true)
  else if is "-mount" || is "-xdev" || is "-noleaf" || is "-daystart" || is "-warn" ||
      is "-nowarn" || is "-ignore_readdir_race" then
    return some (.always true)
  else if is "-follow" then
    set fun s => { s with follows := true }
    return some (.always true)
  else return none

mutual

/-- A criterion, or an expression in brackets. `fuel` is more than the number of words. -/
def single (fs : FileSystem) : (fuel : Nat) → Find Criterion
  | 0 => fail (Bytes.ofString "invalid expression")
  | fuel + 1 => do
    match ← take? with
    | none =>
      fail (Bytes.ofString "expected an expression after '!'")
    | some word =>
      if word = [0x21] || word = Bytes.ofString "-not" then return .not (← single fs fuel)
      if word = [0x28] then
        let inner ← sequence fs fuel
        match ← take? with
        | some [0x29] => return inner
        | _ =>
          fail (Bytes.ofString "invalid expression; I was expecting to find a ')' somewhere but did not see one.")
      match ← named? word fs fuel with
      | some c => return c
      | none =>
        if word.head? = some Bytes.dash then
          fail (Bytes.ofString "unknown predicate \x60" ++ word ++ [0x27])
        fail (Bytes.ofString "paths must precede expression: \x60" ++ word ++ [0x27])

/-- Criteria that all have to hold. -/
def conjunction (fs : FileSystem) : (fuel : Nat) → Find Criterion
  | 0 => fail (Bytes.ofString "invalid expression")
  | fuel + 1 => do
    let first ← single fs fuel
    match (← get).rest with
    | word :: rest =>
      if word = Bytes.ofString "-a" || word = Bytes.ofString "-and" then
        modify fun s => { s with rest }
        return .and first (← conjunction fs fuel)
      if word = Bytes.ofString "-o" || word = Bytes.ofString "-or" || word = [0x29] ||
          word = [0x2c] then
        return first
      return .and first (← conjunction fs fuel)
    | [] => return first

/-- Criteria of which one has to hold. -/
def disjunction (fs : FileSystem) : (fuel : Nat) → Find Criterion
  | 0 => fail (Bytes.ofString "invalid expression")
  | fuel + 1 => do
    let first ← conjunction fs fuel
    match (← get).rest with
    | word :: rest =>
      if word = Bytes.ofString "-o" || word = Bytes.ofString "-or" then
        modify fun s => { s with rest }
        return .or first (← disjunction fs fuel)
      return first
    | [] => return first

/-- Expressions with commas between them, of which the last one counts. -/
def sequence (fs : FileSystem) : (fuel : Nat) → Find Criterion
  | 0 => fail (Bytes.ofString "invalid expression")
  | fuel + 1 => do
    let first ← disjunction fs fuel
    match (← get).rest with
    | [0x2c] :: rest =>
      modify fun s => { s with rest }
      return .both first (← sequence fs fuel)
    | _ => return first

end

end Find

/-! ## Going through files -/

/-- A file that is looked at. -/
structure Visited where
  path : Bytes
  location : Location
  depth : Nat
  /-- The path that the search started from. -/
  start : Bytes

/-- What a search has come to. -/
structure Visiting where
  pruned : Bool := false
  ended : Bool := false
  /-- The files for programs that run once for all, latest first. -/
  together : List (Nat × Bytes) := []

/-- A step of a search. -/
abbrev Visit (α : Type) := StateT Visiting Work α

/-- Runs a program; tells whether it succeeded. -/
def runWords (words : List Bytes) : Work Bool := do
  let environment := (← read).launch.environment
  match words with
  | [] => return false
  | program :: arguments =>
    match ← findProgram environment program arguments with
    | .error cause =>
      Work.warn (quoted program ++ Bytes.ofString (": " ++ cause.plainText))
      return false
    | .ok loaded => return (← Work.runLaunch loaded id).exitCode? = some 0

/-- What a letter of a format says about a file that was found. -/
def foundFact (fs : FileSystem) (v : Visited) (letter : UInt8) : Bytes :=
  match Char.ofNat letter.toNat with
  | 'p' => v.path
  | 'f' => baseOf v.path
  | 'h' => directoryOf v.path
  | 'P' => (v.path.drop v.start.length).dropWhile (· = Bytes.slash)
  | 'H' => v.start
  | 's' => Bytes.decimal (sizeOf (fs.found v.location))
  | 'd' => Bytes.decimal v.depth
  | 'm' => inBase 8 (modeOf (fs.found v.location)).bits
  | 'M' => permissionLetters (fs.found v.location)
  | 'n' => Bytes.decimal (linkCount fs v.location)
  | 'u' | 'g' => Bytes.ofString "root"
  | 'y' =>
    let letter := kindLetter (fs.found v.location)
    [if letter = Bytes.dash then 0x66 else letter]
  | 'l' => match fs.found v.location with
    | .link target => target.bytes
    | _ => []
  | '%' => [0x25]
  | _ => [0x25, letter]

/-- Whether a pattern fits a text. -/
def patternFits (pattern text : Bytes) (anyCase : Bool) : Bool :=
  let seen := fun (b : Bytes) => if anyCase then b.map Bytes.lower else b
  Shell.Pattern.fits (Shell.Pattern.ofBytes ((seen pattern).map fun b => (b, false))) (seen text)

/-- What a criterion says about a file; actions are done. -/
def Criterion.holds (v : Visited) : Criterion → Visit Bool
  | always answer => return answer
  | name pattern anyCase => return patternFits pattern (baseOf v.path) anyCase
  | path pattern anyCase => return patternFits pattern v.path anyCase
  | fits regex anyCase => return regex.fits { anyCase } v.path
  | kind letters => do
    let letter := kindLetter ((← Work.files).found v.location)
    return (if letter = Bytes.dash then 0x66 else letter) ∈ letters
  | empty => do
    let fs ← Work.files
    return match fs.found v.location with
      | .file contents _ => contents = []
      | .directory => fs.isEmpty v.location
      | _ => false
  | size measure block => do
    let size := Utility.sizeOf ((← Work.files).found v.location)
    return measure.holds ((size + block - 1) / block)
  | links measure => return measure.holds (linkCount (← Work.files) v.location)
  | permissions sign bits => do
    let own := (modeOf ((← Work.files).found v.location)).bits
    return match sign with
      | none => own = bits
      | some b => if b = Bytes.dash then own &&& bits = bits else bits = 0 || own &&& bits ≠ 0
  | sameFile id => do
    let own := (← Work.files).fileId? v.location
    return own.isSome && own = id
  | executable => do
    return match (← Work.files).found v.location with
      | .file _ mode => mode.isExecutable
      | .directory => true
      | _ => false
  | linkTarget pattern => do
    return match (← Work.files).found v.location with
      | .link target => patternFits pattern target.bytes false
      | _ => false
  | print ending => do
    Work.say (v.path ++ [ending])
    return true
  | printFormat format => do
    Work.say (formatted (foundFact (← Work.files) v) true format)
    return true
  | delete => do
    if v.path = [Bytes.dot] then return true
    let fs ← Work.files
    let result := if (fs.found v.location).isDirectory then fs.removeDirectory ⟨v.path⟩
      else fs.unlink ⟨v.path⟩
    match result with
    | .ok fs =>
      Work.setFiles fs
      return true
    | .error cause =>
      Work.complain (Bytes.ofString "cannot delete " ++ quoted v.path ++
        Bytes.ofString (": " ++ cause.plainText))
      return false
  | run words together inside => do
    let shownPath := if inside then within [Bytes.dot] (baseOf v.path) else v.path
    match together with
    | some number =>
      modify fun s => { s with together := (number, shownPath) :: s.together }
      return true
    | none =>
      let place := Bytes.ofString "\x7b\x7d"
      (runWords (words.map fun word => replaceAll place shownPath 0 word) : Work Bool)
  | prune => do
    modify fun s => { s with pruned := true }
    return true
  | quit => do
    modify fun s => { s with ended := true }
    return false
  | not c => return !(← c.holds v)
  | and c d => do if ← c.holds v then d.holds v else return false
  | or c d => do
    if ← c.holds v then return true
    if (← get).ended then return false else d.holds v
  | both c d => do
    let _ ← c.holds v
    if (← get).ended then return false else d.holds v

/-- Goes through a file and all that is inside. `fuel` is more than the depth. -/
def visit (search : Search) (c : Criterion) : (fuel : Nat) → Visited → Visit Unit
  | 0, _ => return
  | fuel + 1, v => do
    if (← get).ended then return
    modify fun s => { s with pruned := false }
    let look := if v.depth < search.least then pure () else do
      let _ ← c.holds v
    unless search.insideFirst do look
    let pruned := (← get).pruned && !search.insideFirst
    let fs ← Work.files
    let deeper := search.most.all (v.depth < ·)
    if (fs.found v.location).isDirectory && !pruned && deeper && !(← get).ended then
      for name in namesIn fs v.location do
        let path := within v.path name
        let inner := name :: v.location
        let target := if search.follows then (fs.resolve ⟨path⟩).toOption.getD inner else inner
        visit search c fuel { v with path, location := target, depth := v.depth + 1 }
    if search.insideFirst && !(← get).ended then look

/-- The programs that run once for all files. -/
def Criterion.programs : Criterion → List (Nat × List Bytes)
  | run words (some number) _ => [(number, words)]
  | not c => c.programs
  | and c d | or c d | both c d => c.programs ++ d.programs
  | _ => []

def find : Work Unit := do
  let words ← Work.arguments
  let isOption := fun (word : Bytes) => word ∈ ["-H", "-L", "-P", "-O3"].map Bytes.ofString
  let options := words.takeWhile isOption
  let words := words.drop options.length
  let startsExpression := fun (word : Bytes) =>
    word.head? = some Bytes.dash && word ≠ [Bytes.dash] || word = [0x28] || word = [0x21]
  let starts := words.takeWhile fun word => !startsExpression word
  let fs ← Work.files
  let rest := words.drop starts.length
  let search : Search := { follows := Bytes.ofString "-L" ∈ options }
  let followsGiven := search.follows || Bytes.ofString "-H" ∈ options
  let (c, reading) ← if rest.isEmpty then
      pure (Criterion.print Bytes.newline, ({ rest, search } : FindReading))
    else (Find.sequence fs (rest.length * 5 + 10)).run { rest, search }
  match reading.rest with
  | word :: _ =>
    Work.fail (if word = [0x29] then
        Bytes.ofString "invalid expression; you have too many ')'"
      else Bytes.ofString "paths must precede expression: \x60" ++ word ++ [0x27])
  | [] => pure ()
  let c := if c.acts then c else .and c (.print Bytes.newline)
  let mut state : Visiting := {}
  for p in if starts.isEmpty then [[Bytes.dot]] else starts do
    let fs ← Work.files
    let found := if followsGiven || reading.search.follows then fs.resolve ⟨p⟩
      else fs.locateEntry ⟨p⟩
    match found with
    | .error cause => Work.complain (quoted p ++ Bytes.ofString (": " ++ cause.plainText))
    | .ok l =>
      let v : Visited := { path := p, location := l, depth := 0, start := p }
      let (_, after) ← (visit reading.search c (fs.entries.length + 2) v).run state
      state := after
  for (number, words) in c.programs do
    let paths := (state.together.reverse.filter fun t => t.1 = number).map (·.2)
    unless paths.isEmpty do
      unless ← runWords (words ++ paths) do Work.mark 1

/-- The utilities that go through files. -/
def findingUtilities : List Utility := [⟨"find", find⟩]

end CompilerDriver.Utility
