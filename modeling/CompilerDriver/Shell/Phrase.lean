import CompilerDriver.Bytes

/-!
# Phrases of the shell

What a tool script is made of: words with their expansions, redirections, and the phrases that
commands are put together with.
-/

namespace CompilerDriver.Shell

/-- What a redirection does with its target. -/
inductive Direction where
  | read
  | update
  | write
  /-- Like `write`, also where files are protected from being overwritten. -/
  | overwrite
  | append
  /-- The target is the number of another descriptor, or `-` to close this one. -/
  | duplicate
  /-- The target is a text that stands in the script. -/
  | document
deriving DecidableEq, Repr

mutual

/-- A part of a word. -/
inductive Part where
  | text (bytes : Bytes) (quoted : Bool)
  /-- The home of a user; of the one at work if no name is given. -/
  | home (user : Bytes)
  /-- The value of a parameter, edited. -/
  | parameter (name : Bytes) (edit : Edit) (quoted : Bool)
  /-- What a phrase writes. -/
  | output (body : Phrase) (quoted : Bool)
  /-- The value of an arithmetic expression. -/
  | arithmetic (expression : List Part) (quoted : Bool)

/-- What is done to the value of a parameter. Where `orEmpty` is set, an empty value counts as
none. -/
inductive Edit where
  | plain
  /-- The number of its bytes. -/
  | length
  /-- Another word instead of no value. -/
  | otherwise (orEmpty : Bool) (word : List Part)
  /-- Another word instead of a value. -/
  | instead (orEmpty : Bool) (word : List Part)
  /-- Another word instead of no value, which becomes the value. -/
  | assign (orEmpty : Bool) (word : List Part)
  /-- An error instead of no value. -/
  | require (orEmpty : Bool) (word : List Part)
  /-- The value without a matching end. -/
  | trimEnd (longest : Bool) (pattern : List Part)
  /-- The value without a matching start. -/
  | trimStart (longest : Bool) (pattern : List Part)
  /-- Something that means nothing, which is found out when it is done. -/
  | meaningless

/-- A redirection of one descriptor. -/
inductive Redirection where
  | mk (descriptor : Nat) (direction : Direction) (target : List Part)

/-- A command, or commands put together. -/
inductive Phrase where
  | nothing
  /-- Assignments, words and redirections, and the line they stand on. -/
  | simple (line : Nat) (assignments : List (Bytes × List Part)) (words : List (List Part))
      (redirections : List Redirection)
  /-- One after the other. -/
  | sequence (first second : Phrase)
  /-- The second only if the first succeeds. -/
  | both (first second : Phrase)
  /-- The second only if the first fails. -/
  | either (first second : Phrase)
  /-- Success for failure and failure for success. -/
  | not (body : Phrase)
  /-- What each writes is what the next one reads. -/
  | pipe (commands : List Phrase)
  /-- In a process of its own, which nobody waits for. -/
  | background (body : Phrase)
  /-- In a process of its own. -/
  | subshell (line : Nat) (body : Phrase) (redirections : List Redirection)
  | branch (condition whenTrue whenFalse : Phrase)
  /-- As long as the condition succeeds, or fails if `wanted` is false. -/
  | loop (wanted : Bool) (condition body : Phrase)
  /-- For every field of some words, or for every argument of the script. -/
  | each (line : Nat) (name : Bytes) (words : Option (List (List Part))) (body : Phrase)
  /-- The first case with a pattern that fits the word. -/
  | choice (line : Nat) (word : List Part) (cases : List (List (List Part) × Phrase))
  | redirected (line : Nat) (body : Phrase) (redirections : List Redirection)
  /-- Makes a phrase known under a name, with the line it starts on. -/
  | function (line : Nat) (name : Bytes) (body : Phrase)

end

/-- A word. -/
abbrev Word := List Part

instance : Inhabited Phrase := ⟨.nothing⟩

/-- The names of the commands that can change how a script goes on. An assignment in front of one
stays, and a fault in one ends the script. -/
def specialNames : List Bytes :=
  [":", ".", "break", "continue", "eval", "exec", "exit", "export", "local", "readonly", "return",
    "set", "shift", "times", "trap", "unset"].map Bytes.ofString

/-- A byte that may start a name. -/
def isNameStart (b : UInt8) : Bool :=
  (0x41 ≤ b && b ≤ 0x5a) || (0x61 ≤ b && b ≤ 0x7a) || b = 0x5f

def isNameByte (b : UInt8) : Bool := isNameStart b || Bytes.isDigit b

/-- Whether a text can be the name of a variable. -/
def isName (text : Bytes) : Bool := text.head?.any isNameStart && text.all isNameByte

end CompilerDriver.Shell
