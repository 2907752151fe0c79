import CompilerDriver.Utility.Permissions

/-!
# Utilities that copy, move and link files

The last operand is where the others go: into it if it is a directory, and otherwise to it, which
allows only one other.
-/

namespace CompilerDriver.Utility

/-- Where each operand goes. -/
def destinations (g : Given) : Work (List (Bytes × Bytes)) := do
  let fs ← Work.files
  let intoAll := fun (directory : Bytes) (operands : List Bytes) =>
    operands.map fun p => (p, within directory (baseOf p))
  match g.value? "t", g.operands with
  | _, [] => Work.failUsage (Bytes.ofString "missing file operand")
  | some directory, operands =>
    match fs.resolve ⟨directory⟩ with
    | .error cause =>
      Work.fail (Bytes.ofString "target directory " ++ quoted directory ++
        Bytes.ofString (": " ++ cause.plainText))
    | .ok _ =>
      if fs.isDirectory ⟨directory⟩ then return intoAll directory operands
      Work.fail (Bytes.ofString "target directory " ++ quoted directory ++
        Bytes.ofString (": " ++ OsError.notDirectory.text))
  | none, [only] =>
    Work.failUsage (Bytes.ofString "missing destination file operand after " ++ quoted only)
  | none, first :: rest =>
    let target := rest.getLastD []
    let operands := first :: rest.dropLast
    if g.has "T" then
      limitOperands g.operands 2
      return [(first, target)]
    if fs.isDirectory ⟨target⟩ then return intoAll target operands
    match operands with
    | [_] => return [(first, target)]
    | _ =>
      let cause := match fs.resolve ⟨target⟩ with
        | .error cause => cause
        | .ok _ => .os .notDirectory
      Work.fail (Bytes.ofString "target " ++ quoted target ++
        Bytes.ofString (": " ++ cause.plainText))

/-- Whether two paths lead to one file. -/
def isSameFile (fs : FileSystem) (p q : Bytes) : Bool :=
  match fs.resolve ⟨p⟩, fs.resolve ⟨q⟩ with
  | .ok l, .ok m => l = m || ((fs.fileId? l).isSome && fs.fileId? l = fs.fileId? m)
  | _, _ => false

/-- Reports that something could not be done to a path. -/
def refuse (verb : String) (p : Bytes) (cause : Cause) : Work Unit :=
  Work.complain (Bytes.ofString (verb ++ " ") ++ quoted p ++
    Bytes.ofString (": " ++ cause.plainText))

/-- Reports that two operands do not go together. -/
def refuseBoth (p : Bytes) (words : String) (q : Bytes) (ending : String := "") : Work Unit :=
  Work.complain (quoted p ++ Bytes.ofString words ++ quoted q ++ Bytes.ofString ending)

/-- Tells what goes where, if that is asked for. -/
def reportPair (g : Given) (words : String) (sign : String) (p q : Bytes) : Work Unit := do
  if g.has "v" then
    Work.sayLine (Bytes.ofString words ++ quoted p ++ Bytes.ofString sign ++ quoted q)

/-- Whether a target that is there may be replaced. -/
def mayReplace (g : Given) (target : Bytes) : Work Bool := do
  match g.lastOf ["f", "i", "n"] with
  | some "n" => return false
  | some "i" => agrees (Bytes.ofString "overwrite " ++ quoted target)
  | _ => return !g.has "u"

/-- The names in a directory. -/
def namesIn (fs : FileSystem) (l : Location) : List Bytes :=
  (fs.entries.filterMap fun e =>
    match e.1 with
    | name :: parent => if parent = l then some name else none
    | [] => none).mergeSort fun a b => a.precedes b

/-! ## Copying -/

/-- Copies a file to a path where no directory stands. A file that is there keeps its mode, unless
modes are copied too. -/
def copyFile (g : Given) (source : Bytes) (mode : Mode) (target : Bytes) : Work Bool := do
  match ← Work.readPath source with
  | .error cause =>
    refuse "cannot open" source cause
    return false
  | .ok contents =>
    let fs ← Work.files
    let keepsMode := g.has "p" || g.has "a" || g.has "preserve"
    let wasThere := fs.isPresent ⟨target⟩
    match fs.write ⟨target⟩ contents false with
    | .error cause =>
      let cause := if cause = .os .isDirectory then .os .notDirectory else cause
      refuse "cannot create regular file" target cause
      return false
    | .ok files =>
      let change := fun (_ : Mode) => if keepsMode then mode else mode.without usualMask
      let files := if wasThere && !keepsMode then files
        else (files.setMode ⟨target⟩ change).toOption.getD files
      Work.setFiles files
      return true

/-- Whether links that are given or found are followed in copying. -/
def followsLinks (g : Given) (given : Bool) : Bool :=
  let recursive := g.has "r" || g.has "R" || g.has "a"
  match g.lastOf ["L", "P", "H", "d", "a"] with
  | some "L" => true
  | some "H" => given
  | some _ => false
  | none => !recursive

/-- Copies an entry. `fuel` is more than the depth of the tree. -/
def copyEntry (g : Given) (given : Bool) : (fuel : Nat) → (source target : Bytes) → Work Unit
  | 0, _, _ => pure ()
  | fuel + 1, source, target => do
    let fs ← Work.files
    let recursive := g.has "r" || g.has "R" || g.has "a"
    let place := if followsLinks g given then fs.resolve ⟨source⟩ else fs.locateEntry ⟨source⟩
    match place with
    | .error cause => refuse "cannot stat" source cause
    | .ok l =>
      match fs.found l, fs.node? ⟨target⟩ with
      | .directory, there =>
        let inside := match fs.locate ⟨target⟩, fs.resolve ⟨target⟩ with
          | _, .ok m => FileSystem.isWithin l m
          | .ok (.entry directory _ _), _ => FileSystem.isWithin l directory
          | _, _ => false
        if !recursive then
          Work.complain (Bytes.ofString "-r not specified; omitting directory " ++ quoted source)
        else if there.any fun n => !n.isDirectory then
          Work.complain (Bytes.ofString "cannot overwrite non-directory " ++ quoted target ++
            Bytes.ofString " with directory " ++ quoted source)
        else if inside then
          Work.complain (Bytes.ofString "cannot copy a directory, " ++ quoted source ++
            Bytes.ofString ", into itself, " ++ quoted target)
        else
          let made ← if there.isSome then pure true
            else do
              let made ← change "cannot create directory" target (fs.makeDirectory ⟨target⟩)
              if made then reportPair g "" " -> " source target
              pure made
          if made then
            for name in namesIn fs l do
              copyEntry g false fuel (within source name) (within target name)
      | _, some .directory =>
        Work.complain (Bytes.ofString "cannot overwrite directory " ++ quoted target ++
          Bytes.ofString " with non-directory")
      | node, there =>
        if there.isSome && isSameFile fs source target && !g.has "remove-destination" then
          unless g.has "n" do refuseBoth source " and " target " are the same file"
        else if (there.isSome || (fs.entryNode? ⟨target⟩).isSome) && !(← mayReplace g target) then
          pure ()
        else
          let removes := g.has "remove-destination" || node matches .link _ || g.has "l" || g.has "s"
          let cleared := if removes then (fs.unlink ⟨target⟩).toOption.getD fs else fs
          Work.setFiles cleared
          let dangling := there.isNone && (cleared.entryNode? ⟨target⟩).isSome
          if dangling then
            Work.complain (Bytes.ofString "not writing through dangling symlink " ++ quoted target)
          else
            let done ← match node with
              | .link goal => change "cannot create symbolic link" target (cleared.link ⟨target⟩ goal)
              | .file _ mode =>
                if g.has "s" then
                  change "cannot create symbolic link" target (cleared.link ⟨target⟩ ⟨source⟩)
                else if g.has "l" then
                  change "cannot create hard link" target (cleared.addName ⟨source⟩ ⟨target⟩)
                else copyFile g source mode target
              | _ => copyFile g source .plain target
            if done then reportPair g "" " -> " source target

def cp : Work Unit := do
  let g ← readGiven "a/archive b d f/force H i/interactive l/link L/dereference n/no-clobber p P/no-dereference r/recursive R s/symbolic-link S/suffix= t/target-directory= T/no-target-directory u/update v/verbose x/one-file-system remove-destination preserve? no-preserve= strip-trailing-slashes attributes-only sparse= reflink? parents backup?"
  for (source, target) in ← destinations g do
    copyEntry g true ((← Work.files).entries.length + 2) source target

/-! ## Moving -/

/-- Moves an entry to a path. -/
def moveEntry (g : Given) (source target : Bytes) : Work Unit := do
  let fs ← Work.files
  match fs.locateEntry ⟨source⟩, fs.entryNode? ⟨target⟩ with
  | .error cause, _ => refuse "cannot stat" source cause
  | .ok l, there =>
    let moved := fs.found l
    let old := fs.locateEntry ⟨target⟩
    if there.any (fun n => n.isDirectory) && !moved.isDirectory then
      Work.complain (Bytes.ofString "cannot overwrite directory " ++ quoted target ++
        Bytes.ofString " with non-directory")
    else if there.any (fun n => !n.isDirectory) && moved.isDirectory then
      Work.complain (Bytes.ofString "cannot overwrite non-directory " ++ quoted target ++
        Bytes.ofString " with directory " ++ quoted source)
    else if old.toOption = some l then
      refuseBoth source " and " target " are the same file"
    else if there.isSome && !(← mayReplace g target) then pure ()
    else
      let alike := match old with
        | .ok m => (fs.fileId? l).isSome && fs.fileId? l = fs.fileId? m
        | .error _ => false
      match if alike then fs.unlink ⟨source⟩ else fs.rename ⟨source⟩ ⟨target⟩ with
      | .ok files =>
        Work.setFiles files
        reportPair g "renamed " " -> " source target
      | .error (.os .invalidArgument) =>
        Work.complain (Bytes.ofString "cannot move " ++ quoted source ++
          Bytes.ofString " to a subdirectory of itself, " ++ quoted target)
      | .error cause =>
        Work.complain (Bytes.ofString "cannot move " ++ quoted source ++ Bytes.ofString " to " ++
          quoted target ++ Bytes.ofString (": " ++ cause.plainText))

def mv : Work Unit := do
  let g ← readGiven "b f/force i/interactive n/no-clobber S/suffix= t/target-directory= T/no-target-directory u/update v/verbose strip-trailing-slashes backup?"
  for (source, target) in ← destinations g do moveEntry g source target

/-! ## Linking -/

/-- Makes a link to a path. -/
def linkEntry (g : Given) (source target : Bytes) : Work Unit := do
  let fs ← Work.files
  let symbolic := g.has "s"
  let found := if g.has "L" then fs.resolve ⟨source⟩ else fs.locateEntry ⟨source⟩
  match found with
  | .error cause =>
    if !symbolic then
      refuse "failed to access" source cause
      return
  | .ok l =>
    if !symbolic && (fs.found l).isDirectory then
      Work.complain (shown source ++ Bytes.ofString ": hard link not allowed for directory")
      return
  let there := fs.entryNode? ⟨target⟩
  if there.any fun n => n.isDirectory then
    Work.complain (quoted target ++ Bytes.ofString ": cannot overwrite directory")
    return
  let replaces ← match there, g.lastOf ["f", "i"] with
    | some _, some "f" => pure true
    | some _, some _ => agrees (Bytes.ofString "replace " ++ quoted target)
    | _, _ => pure false
  if there.isSome && g.lastOf ["f", "i"] = some "i" && !replaces then return
  if replaces && !symbolic && isSameFile fs source target && source = target then
    refuseBoth source " and " target " are the same file"
    return
  let cleared := if replaces then (fs.unlink ⟨target⟩).toOption.getD fs else fs
  let result := if symbolic then cleared.link ⟨target⟩ ⟨source⟩
    else cleared.addName ⟨source⟩ ⟨target⟩
  match result with
  | .ok files =>
    Work.setFiles files
    reportPair g "" (if symbolic then " -> " else " => ") target source
  | .error cause =>
    let kind := if symbolic then "symbolic" else "hard"
    let pair := if symbolic || cause = .os .alreadyExists then []
      else Bytes.ofString " => " ++ quoted source
    Work.complain (Bytes.ofString s!"failed to create {kind} link " ++ quoted target ++ pair ++
      Bytes.ofString (": " ++ cause.plainText))

def ln : Work Unit := do
  let g ← readGiven "b d F f/force i/interactive L/logical n/no-dereference P/physical r/relative s/symbolic S/suffix= t/target-directory= T/no-target-directory v/verbose backup?"
  let g := match g.operands, g.has "t" || g.has "T" with
    | [only], false => { g with operands := [only, [Bytes.dot]] }
    | _, _ => g
  let fs ← Work.files
  let isLink := fun (p : Bytes) => (fs.entryNode? ⟨p⟩).any fun n => n matches .link _
  let asFile := g.has "n" && g.operands.length = 2 && g.operands.getLast?.any isLink
  let g := if asFile then { g with options := g.options ++ [("T", [])] } else g
  for (source, target) in ← destinations g do linkEntry g source target

/-! ## Installing -/

/-- Copies files and gives them a mode, or makes directories. -/
def install : Work Unit := do
  let g ← readGiven "b c C/compare d/directory D g/group= m/mode= o/owner= p/preserve-timestamps s/strip S/suffix= t/target-directory= T/no-target-directory v/verbose"
  let next ← match modeChange? ((g.value? "m").getD (Bytes.ofString "755")) with
    | some next => pure next
    | none =>
      Work.fail (Bytes.ofString "invalid mode " ++ quoted ((g.value? "m").getD []))
  if g.has "d" then
    if g.operands.isEmpty then Work.failUsage (Bytes.ofString "missing file operand")
    for p in g.operands do makeSteps {} (stepsTo p)
  else
    if g.has "D" then
      match g.value? "t", g.operands.getLast? with
      | some directory, _ => makeSteps {} (stepsTo directory)
      | none, some target => makeSteps {} (stepsTo (directoryOf target))
      | none, none => pure ()
    for (source, target) in ← destinations g do
      let fs ← Work.files
      match fs.node? ⟨source⟩ with
      | none => refuse "cannot stat" source (.os .notFound)
      | some .directory =>
        Work.complain (Bytes.ofString "omitting directory " ++ quoted source)
      | some _ =>
        Work.setFiles ((fs.unlink ⟨target⟩).toOption.getD fs)
        if ← copyFile {} source .plain target then
          changeMode (fun directory _ => next directory ⟨0⟩) target
          reportPair g "" " -> " source target

/-- The utilities that copy, move and link files. -/
def copyingUtilities : List Utility :=
  [⟨"cp", cp⟩, ⟨"mv", mv⟩, ⟨"ln", ln⟩, ⟨"install", install⟩]

end CompilerDriver.Utility
