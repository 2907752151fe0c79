import CompilerDriver.Signal
import CompilerDriver.Utility.Texts

/-!
# Utilities that run other programs

A program is found as the operating system does it, and takes the place of the utility, unless it is
run for every part of an input.
-/

namespace CompilerDriver.Utility

/-- A program and its words in an environment, or why it cannot be started. -/
def findProgram (environment : Environment) (program : Bytes) (arguments : List Bytes) :
    Work (Except Cause Executable.Loaded) := do
  return Executable.startOrRead (← Work.files) (environment.get? Executable.searchPathName) program arguments

/-- Takes the place of the utility; if the program cannot be started, that is told. -/
def become (change : Launch → Launch) (program : Bytes) (arguments : List Bytes)
    (verb : String := "") : Work Unit := do
  let t ← read
  let launch := change t.launch
  match ← findProgram launch.environment program arguments with
  | .ok loaded =>
    let report ← Work.runLaunch loaded fun l => { change l with parent := t.launch.parent }
    throw report
  | .error cause =>
    Work.fail (Bytes.ofString verb ++ quoted program ++ Bytes.ofString (": " ++ cause.plainText))
      (if cause = .os .notFound then 127 else 126)

/-! ## Environments -/

/-- An environment with a variable set. -/
def withVariable (environment : Environment) (name value : Bytes) : Environment :=
  if environment.any fun v => v.1 = name then
    environment.map fun v => if v.1 = name then (name, value) else v
  else environment ++ [(name, value)]

/-- Assignments in front of words, and the words. -/
def takeAssignments : List Bytes → List (Bytes × Bytes) × List Bytes
  | [] => ([], [])
  | word :: rest =>
    match Bytes.cut? Bytes.equals word with
    | some (name, value) =>
      if name = [] then ([], word :: rest)
      else
        let (more, words) := takeAssignments rest
        ((name, value) :: more, words)
    | none => ([], word :: rest)

/-- The words of one text that is given for several. -/
def splitWords (text : Bytes) : List Bytes :=
  (Bytes.pieces 0x20 (text.map fun b => if Bytes.isSpace b then 0x20 else b)).filter (· ≠ [])

/-- Words in which an option to split a text has been carried out. -/
def expandSplit (words : List Bytes) : List Bytes :=
  match words with
  | option :: rest =>
    if option = Bytes.ofString "-S" then
      match rest with
      | text :: rest => splitWords text ++ rest
      | [] => words
    else if (Bytes.ofString "-S").isPrefixOf option then splitWords (option.drop 2) ++ rest
    else if (Bytes.ofString "--split-string=").isPrefixOf option then
      splitWords (option.drop 15) ++ rest
    else words
  | [] => words

def env : Work Unit := withWords expandSplit do
  let g ← readGiven "i/ignore-environment 0/null u/unset= C/chdir= S/split-string= v/debug" true 125
  let operands := if g.operands.head? = some [Bytes.dash] then g.operands.tail else g.operands
  let clears := g.has "i" || g.operands.head? = some [Bytes.dash]
  let dropped := (g.options.filter fun o => o.1 = "u").map (·.2)
  let (assigned, command) := takeAssignments operands
  let own := (← read).launch.environment
  let kept := if clears then [] else own.filter fun v => v.1 ∉ dropped
  let environment := assigned.foldl (fun e v => withVariable e v.1 v.2) kept
  match g.value? "C" with
  | none => pure ()
  | some directory =>
    match (← Work.files).enter ⟨directory⟩ with
    | .ok files => Work.setFiles files
    | .error cause =>
      Work.fail (Bytes.ofString "cannot change directory to " ++ quoted directory ++
        Bytes.ofString (": " ++ cause.plainText)) 125
  match command with
  | [] =>
    let ending := if g.has "0" then 0 else Bytes.newline
    for (name, value) in environment do Work.say (name ++ Bytes.equals :: value ++ [ending])
  | program :: arguments => become (fun l => { l with environment }) program arguments

def printenv : Work Unit := do
  let g ← readGiven "0/null" true 2
  let environment := (← read).launch.environment
  let ending := if g.has "0" then 0 else Bytes.newline
  if g.operands.isEmpty then
    for (name, value) in environment do Work.say (name ++ Bytes.equals :: value ++ [ending])
  for name in g.operands do
    match environment.get? name with
    | some value => Work.say (value ++ [ending])
    | none => Work.mark 1

/-! ## Time and place -/

/-- A span of time in thousandths of a second. -/
def duration? (text : Bytes) : Option Nat :=
  let whole := text.takeWhile Bytes.isDigit
  let (part, rest) := match text.drop whole.length with
    | 0x2e :: rest =>
      let part := rest.takeWhile Bytes.isDigit
      (part, rest.drop part.length)
    | rest => ([], rest)
  let thousandths := Bytes.ofDigits ((part ++ [0x30, 0x30, 0x30]).take 3)
  let factor := match rest with
    | [] | [0x73] => some 1
    | [0x6d] => some 60
    | [0x68] => some 3600
    | [0x64] => some 86400
    | _ => none
  if whole = [] && part = [] then if text = Bytes.ofString "infinity" then some 1000000000000 else none
  else factor.map fun f => (Bytes.ofDigits whole * 1000 + thousandths) * f

/-- Lets time pass. -/
def sleep : Work Unit := do
  let g ← readGiven ""
  requireOperands g.operands
  let wrong := g.operands.filter fun a => (duration? a).isNone
  for a in wrong do Work.warn (Bytes.ofString "invalid time interval " ++ quoted a)
  unless wrong.isEmpty do
    Work.tell (Bytes.ofString "Try '" ++ (← Work.name) ++
      Bytes.ofString " --help' for more information.\n")
    Work.quit 1

/-- Runs a program for some time. The only one that takes any is the one that lets time pass. -/
def timeout : Work Unit := do
  let g ← readGiven "k/kill-after= s/signal= foreground preserve-status v/verbose" true 125
  match g.operands with
  | limit :: program :: arguments =>
    match duration? limit with
    | none =>
      Work.failUsage (Bytes.ofString "invalid time interval " ++ quoted limit) 125
    | some limit =>
      let environment := (← read).launch.environment
      match ← findProgram environment program arguments with
      | .error cause =>
        Work.fail (Bytes.ofString "failed to run command " ++ quoted program ++
          Bytes.ofString (": " ++ cause.plainText)) (if cause = .os .notFound then 127 else 126)
      | .ok loaded =>
        let time := (arguments.filterMap duration?).foldl (· + ·) 0
        if loaded.name = Bytes.ofString "sleep" && 0 < limit && limit < time then
          let name := (g.value? "s").getD (Bytes.ofString "TERM")
          let signal := (Signal.ofBytes? false (name.drop
            (if (Bytes.ofString "SIG").isPrefixOf name then 3 else 0))).getD Signal.terminate
          if g.has "preserve-status" then Work.quit (128 + signal)
          if signal = Signal.kill then throw (.killed signal)
          Work.quit 124
        let report ← Work.runLaunch loaded id
        throw (.exited (Status.ofReportNat report))
  | _ => Work.failUsage (Bytes.ofString "missing operand") 125

/-- Runs a program with something about it changed that cannot be seen here. -/
def plainly (description : String) (onNothing : Work Unit) : Work Unit := do
  let g ← readGiven description true 125
  match g.operands with
  | [] => onNothing
  | program :: arguments => become id program arguments

/-- Runs a program that does not notice when its terminal is gone. -/
def nohup : Work Unit := do
  let g ← readGiven "" true 125
  match g.operands with
  | [] => Work.failUsage (Bytes.ofString "missing operand") 125
  | program :: arguments =>
    become (fun l => { l with ignored := 1 :: l.ignored }) program arguments "failed to run command "

/-! ## Once for each part of the input -/

/-- The arguments in an input: words between blanks, with quotes and backslashes taken off. -/
def quotedWords : (current : Option Bytes) → (quote : Option UInt8) → Bytes → List Bytes
  | none, _, [] => []
  | some word, _, [] => [word.reverse]
  | current, some q, b :: rest =>
    if b = q then quotedWords current none rest
    else quotedWords (some (b :: current.getD [])) (some q) rest
  | current, none, [b] =>
    if Bytes.isSpace b then (current.map List.reverse).toList
    else [(b :: current.getD []).reverse]
  | current, none, b :: c :: rest =>
    if Bytes.isSpace b then (current.map List.reverse).toList ++ quotedWords none none (c :: rest)
    else if b = 0x22 || b = 0x27 then quotedWords (some (current.getD [])) (some b) (c :: rest)
    else if b = 0x5c then quotedWords (some (c :: current.getD [])) none rest
    else quotedWords (some (b :: current.getD [])) none (c :: rest)

/-- Every occurrence of a text replaced by another. `skip` bytes are still part of the last one. -/
def replaceAll (old new : Bytes) : (skip : Nat) → Bytes → Bytes
  | _, [] => []
  | skip + 1, _ :: rest => replaceAll old new skip rest
  | 0, b :: rest =>
    if old ≠ [] && old.isPrefixOf (b :: rest) then
      new ++ replaceAll old new (old.length - 1) rest
    else b :: replaceAll old new 0 rest

/-- Items in groups of a size. `fuel` is at least their number. -/
def inGroups (size : Nat) : (fuel : Nat) → List Bytes → List (List Bytes)
  | 0, _ => []
  | _, [] => []
  | fuel + 1, items =>
    if size = 0 then [items] else items.take size :: inGroups size fuel (items.drop size)

def xargs : Work Unit := do
  let g ← readGiven "0/null a/arg-file= d/delimiter= E= e? i? I/replace= L/max-lines= l? n/max-args= P/max-procs= p/interactive r/no-run-if-empty s/max-chars= t/verbose x/exit" true
  let text ← match g.value? "a" with
    | none => pure ((← Work.readInput).toOption.getD [])
    | some path =>
      match ← Work.readPath path with
      | .ok text => pure text
      | .error cause =>
        Work.fail (Bytes.ofString "Cannot open input file " ++ quoted path ++
          Bytes.ofString (": " ++ cause.plainText))
  let place := (g.value? "I").orElse fun _ => if g.has "i" then some (Bytes.ofString "\x7b\x7d") else none
  let perLine := (g.value? "L").isSome
  let delimiter := match g.value? "d" with
    | some (0x5c :: 0x6e :: _) => some Bytes.newline
    | some (0x5c :: 0x30 :: _) => some 0
    | some (b :: _) => some b
    | _ => if g.has "0" then some 0 else none
  let items : List Bytes := match delimiter with
    | some d => plainLines d text
    | none =>
      if place.isSome || perLine then
        let lines := (plainLines Bytes.newline text).map fun line => line.dropWhile Bytes.isSpace
        lines.filter (· ≠ [])
      else quotedWords none none text
  let command := if g.operands.isEmpty then [Bytes.ofString "echo"] else g.operands
  let count := match g.value? "n", g.value? "L" with
    | some n, _ => Bytes.ofDigits n
    | none, some n => Bytes.ofDigits n
    | none, none => 0
  let commands : List (List Bytes) := match place with
    | some place => items.map fun item => command.map fun word => replaceAll place item 0 word
    | none =>
      let groups : List (List Bytes) := if items.isEmpty then (if g.has "r" then [] else [[]])
        else inGroups count (items.length + 1) items
      groups.map fun group =>
        command ++ if perLine then group.flatMap (quotedWords none none) else group
  let environment := (← read).launch.environment
  for words in commands do
    if g.has "t" then Work.tell (Bytes.join 0x20 words ++ [Bytes.newline])
    match words with
    | [] => pure ()
    | program :: arguments =>
      match ← findProgram environment program arguments with
      | .error cause =>
        Work.fail (program ++ Bytes.ofString (": " ++ cause.plainText))
          (if cause = .os .notFound then 127 else 126)
      | .ok loaded =>
        let report ← Work.runLaunch loaded fun l =>
          { l with descriptors := l.descriptors.assign 0 (.device .null) }
        match report.exitCode?, report.signal? with
        | some 0, _ => pure ()
        | some 255, _ =>
          Work.fail (program ++ Bytes.ofString ": exited with status 255; aborting") 124
        | some _, _ => Work.mark 123
        | none, some signal =>
          Work.fail (program ++ Bytes.ofString s!": terminated by signal {signal}") 125
        | none, none => Work.mark 123

/-- Tells where programs are. -/
def which : Work Unit := do
  let g ← readGiven "a s" false 2
  let environment := (← read).launch.environment
  let fs ← Work.files
  let isProgram := fun (path : Bytes) => (fs.node? ⟨path⟩).any fun
    | .file _ mode => mode.isExecutable
    | _ => false
  if g.operands.isEmpty then Work.mark 1
  for name in g.operands do
    let places := if Bytes.slash ∈ name then [name]
      else Executable.candidates ((environment.get? Executable.searchPathName).getD []) name
    match places.filter isProgram with
    | [] => Work.mark 1
    | first :: rest => for path in if g.has "a" then first :: rest else [first] do Work.sayLine path

/-- The utilities that run other programs. -/
def launchers : List Utility :=
  [⟨"env", env⟩, ⟨"printenv", printenv⟩, ⟨"sleep", sleep⟩, ⟨"timeout", timeout⟩,
    ⟨"nice", plainly "n/adjustment=" (Work.sayLine [0x30])⟩, ⟨"nohup", nohup⟩,
    ⟨"stdbuf", plainly "i/input= o/output= e/error="
      (Work.failUsage (Bytes.ofString "missing operand") 125)⟩,
    ⟨"setsid", plainly "c/ctty f/fork w/wait" (Work.quit 1)⟩, ⟨"xargs", xargs⟩, ⟨"which", which⟩]

end CompilerDriver.Utility
