import CompilerDriver.Utility.Removing

/-!
# Permissions

The permissions of a file are nine bits and three more for special purposes. They are set by an
octal number, or changed by symbols one after the other: for whom, whether to add, to take away or to
set, and what.
-/

namespace CompilerDriver

namespace Mode

/-- The bits of some permissions for those whose bits these are. -/
def select (who permissions : Nat) : Nat := who &&& permissions

/-- A mode with only the lowest twelve bits. -/
def ofNat (bits : Nat) : Mode := ⟨bits % 4096⟩

/-- A mode without some bits. -/
def without (m : Mode) (bits : Nat) : Mode := ⟨m.bits &&& (4095 - bits % 4096)⟩

end Mode

namespace Utility

/-- The permissions that new files are not given. -/
def usualMask : Nat := 0o022

/-- The bits of those that a letter names. -/
def whoBits (letter : UInt8) : Nat :=
  if letter = 0x75 then 0o4700 else if letter = 0x67 then 0o2070
  else if letter = 0x6f then 0o1007 else 0o7777

/-- The bits that a permission has for everyone. A capital one is only for directories and for files
that someone may execute already. -/
def permissionBits (m : Mode) (directory : Bool) (letter : UInt8) : Nat :=
  if letter = 0x72 then 0o444 else if letter = 0x77 then 0o222
  else if letter = 0x78 then 0o111
  else if letter = 0x58 then if directory || m.isExecutable then 0o111 else 0
  else if letter = 0x73 then 0o6000
  else 0o1000

/-- The bits that everyone gets from what one of them has. -/
def copiedBits (m : Mode) (letter : UInt8) : Nat :=
  let bits := if letter = 0x75 then m.bits >>> 6 &&& 7 else if letter = 0x67 then m.bits >>> 3 &&& 7
    else m.bits &&& 7
  bits * 0o111

/-- One symbolic change. -/
structure ModeChange where
  /-- Those whose permissions change; none if nobody is named. -/
  who : Bytes
  sign : UInt8
  permissions : Bytes
deriving DecidableEq, Repr

/-- A mode after a symbolic change. Where nobody is named it is about everyone, but not about what new
files are not given. -/
def ModeChange.apply (c : ModeChange) (directory : Bool) (m : Mode) : Mode :=
  let who := if c.who = [] then 0o7777 - usualMask
    else c.who.foldl (fun bits letter => bits ||| whoBits letter) 0
  let bits := c.permissions.foldl (fun bits letter =>
    bits ||| if letter ∈ Bytes.ofString "ugo" then copiedBits m letter
      else permissionBits m directory letter) 0
  let bits := Mode.select who bits
  if c.sign = 0x2b then .ofNat (m.bits ||| bits)
  else if c.sign = 0x2d then m.without bits
  else .ofNat ((m.without (if c.who = [] then 0o7777 else who)).bits ||| bits)

/-- The signs and permissions behind those that a change is about. `fuel` is more than the number of
bytes. -/
def readModeChanges (who : Bytes) : (fuel : Nat) → Bytes → Option (List ModeChange)
  | 0, _ => none
  | _, [] => some []
  | fuel + 1, sign :: rest =>
    if sign ∉ Bytes.ofString "+-=" then none
    else
      let letters := rest.takeWhile fun b => b ∈ Bytes.ofString "rwxXstugo"
      (readModeChanges who fuel (rest.drop letters.length)).map
        fun more => ⟨who, sign, letters⟩ :: more

/-- What a mode in words makes of the mode of a file or directory. -/
def modeChange? (text : Bytes) : Option (Bool → Mode → Mode) :=
  if text ≠ [] ∧ text.all fun b => 0x30 ≤ b && b ≤ 0x37 then
    let bits := text.foldl (fun n b => n * 8 + (b.toNat - 0x30)) 0
    if bits < 4096 then some fun _ _ => .ofNat bits else none
  else do
    let changes ← (Bytes.pieces 0x2c text).mapM fun part =>
      let who := part.takeWhile fun b => b ∈ Bytes.ofString "ugoa"
      let rest := part.drop who.length
      if rest = [] then none else readModeChanges who (rest.length + 1) rest
    return fun directory m =>
      changes.flatten.foldl (fun m change => change.apply directory m) m

/-- Whether a word is a mode although it stands behind a dash. -/
def isModeWord (word : Bytes) : Bool :=
  match word with
  | 0x2d :: letters => letters ≠ [] && letters.all fun b => b ∈ Bytes.ofString "rwxXstugoa,+=-01234567"
  | _ => false

/-- Changes the mode of one file. -/
def changeMode (next : Bool → Mode → Mode) (p : Bytes) : Work Unit := do
  let fs ← Work.files
  match fs.resolve ⟨p⟩ with
  | .error cause =>
    Work.complain (Bytes.ofString "cannot access " ++ quoted p ++
      Bytes.ofString (": " ++ cause.plainText))
  | .ok _ => Work.setFiles ((fs.setMode ⟨p⟩ (next (fs.isDirectory ⟨p⟩))).toOption.getD fs)

def chmod : Work Unit := do
  let words ← Work.arguments
  let isOption := fun (word : Bytes) => word.head? = some Bytes.dash && !isModeWord word
  let letters := (words.filter isOption).flatten
  let recursive := 0x52 ∈ letters || Bytes.ofString "--recursive" ∈ words
  match words.filter fun word => !isOption word with
  | [] => Work.failUsage (Bytes.ofString "missing operand")
  | [mode] => Work.failUsage (Bytes.ofString "missing operand after " ++ quoted mode)
  | mode :: operands =>
    match modeChange? mode with
    | none => Work.failUsage (Bytes.ofString "invalid mode: " ++ quoted mode)
    | some next =>
      for p in operands do
        let fs ← Work.files
        let all := match fs.resolve ⟨p⟩ with
          | .ok l => if recursive then insideOut fs p l else [p]
          | .error _ => [p]
        for q in all do changeMode next q

/-- The utilities on permissions. -/
def permissionUtilities : List Utility := [⟨"chmod", chmod⟩]

end Utility

end CompilerDriver
