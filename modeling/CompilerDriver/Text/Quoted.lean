import CompilerDriver.Text.Printable
import CompilerDriver.Text.Utf8

/-!
# Quoted text

A word between double quotes, as the log shows the words of a command. Quotes, backslashes, control
characters, every character that would not be seen by itself and every byte that is no text are
escaped, so the quoted form is one line and shows where each word ends: a double quote stands by
itself only at the two ends. The name of a program is quoted in the stricter of two ways.
-/

namespace CompilerDriver.Text.Quoted

/-- Lower-case hexadecimal digits of a number, without leading zeros. -/
def hexadecimal (n : Nat) : String := String.ofList (Nat.toDigits 16 n)

/-- Two hexadecimal digits of a byte. -/
def twoDigits (b : UInt8) : String :=
  String.ofList [Nat.digitChar (b.toNat / 16), Nat.digitChar (b.toNat % 16)]

/-- A character by its number. -/
def numbered (c : Char) : String := "\\u\x7b" ++ hexadecimal c.toNat ++ "\x7d"

/-- One character of a quoted word. A single quote stays as it is. -/
def escape (c : Char) : String :=
  match c with
  | '\x00' => "\\0"
  | '\t' => "\\t"
  | '\n' => "\\n"
  | '\r' => "\\r"
  | '"' => "\\\""
  | '\\' => "\\\\"
  | c => if isShown c then c.toString else numbered c

/-- One character of a quoted program name. A single quote is escaped, and so is a control character
of ASCII, as the byte that it is. -/
def escapeStrictly (c : Char) : String :=
  match c with
  | '\x27' => "\\'"
  | c =>
    if c ∈ ['\x00', '\t', '\n', '\r'] || isShown c || 0x80 ≤ c.toNat then escape c
    else "\\x" ++ twoDigits (UInt8.ofNat c.toNat)

/-- A text between quotes, its characters and its stray bytes written as they are told to be. -/
def between (character : Char → String) (stray : UInt8 → String) (s : Bytes) : String :=
  "\"" ++ String.join ((Utf8.characters s).map (Sum.elim character stray)) ++ "\""

/-- The quoted form of a word. -/
def quote (s : Bytes) : String :=
  between escape (fun b => "\\x" ++ (twoDigits b).map Char.toUpper) s

/-- The quoted form of the name of a program. -/
def quoteProgram (s : Bytes) : String :=
  between escapeStrictly (fun b => "\\x" ++ twoDigits b) s

example : quote [0x27, 0xff, 0x07] = "\"'\\xFF\\u\x7b7\x7d\"" := by decide +kernel

example : quoteProgram [0x27, 0xff, 0x07] = "\"\\'\\xff\\x07\"" := by decide +kernel

end CompilerDriver.Text.Quoted
