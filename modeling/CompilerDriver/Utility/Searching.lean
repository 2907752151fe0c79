import CompilerDriver.Shell.Pattern
import CompilerDriver.Text.Regex.Reading
import CompilerDriver.Utility.Copying
import CompilerDriver.Utility.Texts

/-!
# Searching for lines

The lines of some files in which an expression fits, or those in which it does not, with their
numbers, their surroundings, or only their number.
-/

namespace CompilerDriver.Utility

open Text

/-- The expression that fits nowhere. -/
def fitsNowhere : Regex := .one { ranges := [] }

/-- The expression of some patterns, one on each line of each text. -/
def patternOf (g : Given) (extended fixed : Bool) (texts : List Bytes) : Except Regex.Fault Regex := do
  let patterns ← (texts.flatMap (Bytes.pieces Bytes.newline)).mapM fun text =>
    if fixed then pure (Regex.exactly text) else Regex.ofBytes extended extended text
  let any := match patterns.reverse with
    | [] => fitsNowhere
    | last :: earlier => earlier.foldl (fun later r => .either r later) last
  let between := fun (before behind : Place) (r : Regex) =>
    Regex.sequence (.place before) (.sequence r (.place behind))
  let any := if g.has "w" then between .noWordBefore .noWordBehind any else any
  return if g.has "x" then between .textStart .textEnd any else any

/-- A line of a file: its number, the number of bytes before it, and whether it is wanted. -/
structure SearchedLine where
  number : Nat
  offset : Nat
  text : Bytes
  wanted : Bool

/-- The lines of a text, of which at most `limit` are wanted. -/
def searchedLines (wants : Bytes → Bool) : (number offset : Nat) → (limit : Option Nat) →
    List Bytes → List SearchedLine
  | _, _, _, [] => []
  | number, offset, limit, line :: rest =>
    let wanted := limit ≠ some 0 && wants line
    let limit := if wanted then limit.map (· - 1) else limit
    ⟨number, offset, line, wanted⟩ ::
      searchedLines wants (number + 1) (offset + line.length + 1) limit rest

/-- The lines to be shown with so many lines before and after each that is wanted. `recent` are the
lines that have not been shown, latest first, and `owed` is how many are still shown behind a
wanted one. Where lines are left out, nothing stands. -/
def withSurroundings (before after : Nat) : (recent : List SearchedLine) → (owed : Nat) →
    List SearchedLine → List (Option SearchedLine)
  | _, _, [] => []
  | recent, owed, line :: rest =>
    if line.wanted then
      let gap := if before < recent.length then [none] else []
      gap ++ (recent.take before).reverse.map some ++
        some line :: withSurroundings before after [] after rest
    else if 0 < owed then some line :: withSurroundings before after [] (owed - 1) rest
    else withSurroundings before after (line :: recent) 0 rest

/-- The directories that are left out, and the files that are taken, in a search of everything. -/
def isTaken (g : Given) (name : Bytes) : Bool :=
  let fits := fun (pattern : Bytes) =>
    Shell.Pattern.fits (Shell.Pattern.ofBytes (pattern.map fun b => (b, false))) name
  let values := fun (key : String) => (g.options.filter fun o => o.1 = key).map (·.2)
  let included := values "include"
  (included = [] || included.any fits) && !(values "exclude").any fits

/-- The files inside a directory, however deep. `fuel` is more than the depth. -/
def filesInside (fs : FileSystem) (g : Given) : (fuel : Nat) → Location → (path : Bytes) → List Bytes
  | 0, _, _ => []
  | fuel + 1, l, path =>
    (namesIn fs l).flatMap fun name =>
      let inner := if path = [] then name else within path name
      match fs.get? (name :: l) with
      | some .directory => filesInside fs g fuel (name :: l) inner
      | some (.file ..) => if isTaken g name then [inner] else []
      | _ => []

/-- The files that are searched. -/
def searchedFiles (g : Given) (recursive : Bool) (operands : List Bytes) : Work (List Bytes) := do
  let fs ← Work.files
  if !recursive then
    return if operands.isEmpty then [[Bytes.dash]] else operands
  if operands.isEmpty then return filesInside fs g (fs.entries.length + 1) fs.cwd []
  return operands.flatMap fun p =>
    match (fs.resolve ⟨p⟩).toOption with
    | some l =>
      if (fs.found l).isDirectory then filesInside fs g (fs.entries.length + 1) l p else [p]
    | none => [p]

/-- Searches one text; tells whether a line was wanted. -/
def searchText (g : Given) (r : Regex) (name : Bytes) (named : Bool) (before after : Nat)
    (text : Bytes) : Work Bool := do
  let m : Regex.Manner := { anyCase := g.lastOf ["i", "y", "no-ignore-case"] ∈ [some "i", some "y"] }
  let limit := (g.value? "m").map Bytes.ofDigits
  let wants := fun (line : Bytes) => r.fits m line != g.has "v"
  let ending := if g.has "z" then 0 else Bytes.newline
  let lines := searchedLines wants 1 0 limit (plainLines ending text)
  let wanted := lines.filter (·.wanted)
  let label := if g.has "Z" then name ++ [0] else name
  if g.has "q" || g.has "silent" then return !wanted.isEmpty
  if g.has "l" || g.has "L" then
    if wanted.isEmpty == g.has "L" then Work.say (label ++ if g.has "Z" then [] else [Bytes.newline])
    return !wanted.isEmpty
  let front := fun (sign : UInt8) =>
    if named then label ++ (if g.has "Z" then [] else [sign]) else []
  if g.has "c" then
    Work.sayLine (front 0x3a ++ Bytes.decimal wanted.length)
    return !wanted.isEmpty
  if 0 ∈ text && !g.has "a" && !g.has "z" && !wanted.isEmpty then
    Work.tell (Bytes.ofString "grep: " ++ name ++ Bytes.ofString ": binary file matches\n")
    return true
  let numbered := fun (sign : UInt8) (line : SearchedLine) (offset : Nat) =>
    front sign ++ (if g.has "n" then Bytes.decimal line.number ++ [sign] else []) ++
      if g.has "b" then Bytes.decimal offset ++ [sign] else []
  if g.has "o" then
    unless g.has "v" do
      for line in wanted do
        for f in Regex.findAll m r line.text (line.text.length + 1) 0 none do
          if f.start < f.stop then
            Work.sayLine (numbered 0x3a line (line.offset + f.start) ++ f.text line.text)
  else
    let shownLines := withSurroundings before after [] 0 lines
    let shownLines := if g.has "A" || g.has "B" || g.has "C" then shownLines
      else shownLines.filter Option.isSome
    let mut isFirst := true
    for line in shownLines do
      match line with
      | none => unless isFirst do Work.say (Bytes.ofString "--\n")
      | some line =>
        isFirst := false
        let sign := if line.wanted then 0x3a else Bytes.dash
        Work.say (numbered sign line line.offset ++ line.text ++ [ending])
  return !wanted.isEmpty

/-- The number of lines that an option asks for. -/
def lineCount (g : Given) (key : String) (usual : Nat) : Work Nat := do
  match g.value? key with
  | none => return usual
  | some value =>
    match Bytes.natural? value with
    | some n => return n
    | none => Work.fail (value ++ Bytes.ofString ": invalid context length argument") 2

/-- Words in which a number behind a dash asks for so many lines around each. -/
def expandAround (words : List Bytes) : List Bytes :=
  words.flatMap fun word =>
    match word with
    | 0x2d :: digit :: more =>
      if Bytes.isDigit digit && more.all Bytes.isDigit then [Bytes.ofString "-C", digit :: more]
      else [word]
    | _ => [word]

/-- Searches files. -/
def searchWith (usual : String) : Work Unit := withWords expandAround do
  let g ← readGiven "E/extended-regexp F/fixed-strings G/basic-regexp P/perl-regexp e/regexp= f/file= i/ignore-case y no-ignore-case v/invert-match w/word-regexp x/line-regexp c/count l/files-with-matches L/files-without-match m/max-count= o/only-matching q/quiet silent s/no-messages b/byte-offset H/with-filename h/no-filename label= n/line-number T/initial-tab Z/null A/after-context= B/before-context= C/context= a/text binary-files= D/devices= d/directories= r/recursive R/dereference-recursive include= exclude= exclude-dir= line-buffered U/binary z/null-data color? colour?" false 2
  let kind := (g.lastOf ["E", "F", "G", "P"]).getD usual
  let asked := g.options.filter fun o => o.1 = "e" || o.1 = "f"
  let mut texts := []
  for (key, value) in asked do
    if key = "e" then texts := value :: texts
    else match ← Work.readOperand value with
      | .ok text => texts := (plainLines Bytes.newline text).reverse ++ texts
      | .error cause => Work.fail (value ++ Bytes.ofString (": " ++ cause.plainText)) 2
  let (patterns, operands) ← match asked, g.operands with
    | [], [] =>
      Work.tell (Bytes.ofString "Usage: grep [OPTION]... PATTERNS [FILE]...\nTry 'grep --help' for more information.\n")
      Work.quit 2
    | [], pattern :: operands => pure ([pattern], operands)
    | _, operands => pure (texts.reverse, operands)
  match patternOf g (kind = "E" || kind = "P") (kind = "F") patterns with
  | .error fault => Work.fail (Bytes.ofString fault.message) 2
  | .ok r =>
    let recursive := g.has "r" || g.has "R"
    let around ← lineCount g "C" 0
    let before ← lineCount g "B" around
    let after ← lineCount g "A" around
    let files ← searchedFiles g recursive operands
    let named := match g.lastOf ["H", "h"] with
      | some key => key = "H"
      | none => 1 < files.length || recursive
    let mut any := false
    let mut failed := false
    for p in files do
      let name := if p = [Bytes.dash] then
          (g.value? "label").getD (Bytes.ofString "(standard input)")
        else p
      match ← Work.readOperand p with
      | .ok text => if ← searchText g r name named before after text then any := true
      | .error cause =>
        unless g.has "s" do Work.warn (name ++ Bytes.ofString (": " ++ cause.plainText))
        failed := true
    let quiet := g.has "q" || g.has "silent"
    Work.quit (if failed && !(quiet && any) then 2 else if any then 0 else 1)

/-- The utilities that search. -/
def searchingUtilities : List Utility :=
  [⟨"grep", searchWith "G"⟩, ⟨"egrep", searchWith "E"⟩, ⟨"fgrep", searchWith "F"⟩]

end CompilerDriver.Utility
