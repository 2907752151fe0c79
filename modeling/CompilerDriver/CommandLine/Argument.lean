import CompilerDriver.Text.Utf8

/-!
# Arguments by their looks

What one argument is can be told from its bytes alone, as long as no `--` has come before it: the
end of the options, a long option with or without a value, a group of letters, or anything else.
A lone dash looks like nothing in particular.
-/

namespace CompilerDriver.CommandLine

/-- One argument, by its looks. -/
inductive Argument where
  /-- `--`, after which everything is an input. -/
  | endOfOptions
  /-- `--name` or `--name=value`. -/
  | long (name : Bytes) (value : Option Bytes)
  /-- `-abc`: letters, and the rest from the first byte on that is no text. -/
  | group (letters : List Char) (rest : Bytes)
  /-- Anything that does not look like an option. -/
  | plain (value : Bytes)
deriving DecidableEq, Repr

/-- What an argument looks like. -/
def Argument.ofBytes : Bytes → Argument
  | [] => .plain []
  | [b] => .plain [b]
  | b :: c :: rest =>
    if b ≠ Bytes.dash then .plain (b :: c :: rest)
    else if c ≠ Bytes.dash then
      let (letters, rest) := Text.Utf8.splitAtGap (c :: rest)
      .group letters rest
    else if rest = [] then .endOfOptions
    else match Bytes.cut? Bytes.equals rest with
      | some (name, value) => .long name (some value)
      | none => .long rest none

/-- A long argument written out. -/
def Argument.writeLong (name : Bytes) (value : Option Bytes) : Bytes :=
  Bytes.dash :: Bytes.dash :: name ++
    match value with
    | some value => Bytes.equals :: value
    | none => []

end CompilerDriver.CommandLine
