import CompilerDriver.Bytes

/-!
# Text with backslash sequences

What the shell's `echo` makes of its arguments, and the sequences that `printf` knows too. `\c` ends
the output where it stands.
-/

namespace CompilerDriver.Shell

def isOctal (b : UInt8) : Bool := 0x30 ≤ b && b ≤ 0x37

/-- The byte that a sequence stands for, without its backslash, and what comes after it. A
backslash before anything else stands for itself. -/
def escaped : Bytes → UInt8 × Bytes
  | [] => (0x5c, [])
  | b :: rest =>
    if isOctal b then
      let digits := (b :: rest).take 3 |>.takeWhile isOctal
      let value := digits.foldl (fun n d => n * 8 + (d.toNat - 0x30)) 0
      (UInt8.ofNat value, (b :: rest).drop digits.length)
    else
      let plain : List (UInt8 × UInt8) :=
        [(0x5c, 0x5c), (0x61, 0x07), (0x62, 0x08), (0x66, 0x0c), (0x6e, 0x0a), (0x72, 0x0d),
          (0x74, 0x09), (0x76, 0x0b)]
      match plain.find? fun e => e.1 = b with
      | some (_, value) => (value, rest)
      | none => (0x5c, b :: rest)

/-- A text with its sequences replaced, and whether `\c` ended it. An octal number may have a zero
in front of its three digits. `fuel` is at least the length. -/
def unescape : (fuel : Nat) → Bytes → Bytes × Bool
  | 0, _ => ([], false)
  | _, [] => ([], false)
  | fuel + 1, b :: rest =>
    if b ≠ 0x5c then
      let (text, ended) := unescape fuel rest
      (b :: text, ended)
    else if rest.head? = some 0x63 then ([], true)
    else
      let rest := match rest with
        | 0x30 :: d :: more => if isOctal d then d :: more else rest
        | _ => rest
      let (value, after) := escaped rest
      let (text, ended) := unescape fuel after
      (value :: text, ended)

/-- What `echo` writes. -/
def echoed (arguments : List Bytes) : Bytes :=
  let (silent, words) := match arguments with
    | [0x2d, 0x6e] :: words => (true, words)
    | words => (false, words)
  let text := Bytes.join 0x20 words
  let (text, ended) := unescape text.length text
  if silent || ended then text else text ++ [Bytes.newline]

end CompilerDriver.Shell
