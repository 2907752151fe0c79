import CompilerDriver.FileSystem.Lookup
import CompilerDriver.Shell.Number

/-!
# Conditions

What `test` finds out about strings, numbers and files. Conditions are connected by `-o`, which
binds least, `-a`, `!` and parentheses; all operands are evaluated. Whether a word is an operator
depends on how many words come after it, and up to four words are read as they are most likely
meant. A condition that cannot be read is neither true nor false.
-/

namespace CompilerDriver.Shell.Condition

/-- Why a condition cannot be read. -/
inductive Fault where
  | unexpectedOperator (word : Bytes)
  | argumentExpected (operator : Bytes)
  | closingExpected
  | illegalNumber (word : Bytes)
deriving DecidableEq, Repr

/-- What is said about a fault. -/
def Fault.message : Fault → Bytes
  | unexpectedOperator word =>
    (if word = [] then [] else word ++ Bytes.ofString ": ") ++ Bytes.ofString "unexpected operator"
  | argumentExpected operator => operator ++ Bytes.ofString ": argument expected"
  | closingExpected => Bytes.ofString "closing paren expected"
  | illegalNumber word => Bytes.ofString "Illegal number: " ++ word

/-- What a word can be in a condition. -/
inductive Token where
  | unary
  | binary
  | no
  | and
  | or
  | opening
  | closing
  | operand
  /-- There are no more words. -/
  | finish
deriving DecidableEq, Repr

/-- The operators before one operand. -/
def unaryOperators : List Bytes :=
  ["-r", "-w", "-x", "-e", "-f", "-d", "-c", "-b", "-p", "-u", "-g", "-k", "-s", "-t", "-z", "-n",
    "-h", "-O", "-G", "-L", "-S"].map Bytes.ofString

/-- The operators between two operands. -/
def binaryOperators : List Bytes :=
  ["=", "!=", "<", ">", "-eq", "-ne", "-ge", "-gt", "-le", "-lt", "-nt", "-ot",
    "-ef"].map Bytes.ofString

/-- What a word is if it is an operator. -/
def operator? (word : Bytes) : Option Token :=
  if word ∈ unaryOperators then some .unary
  else if word ∈ binaryOperators then some .binary
  else ([("!", Token.no), ("-a", .and), ("-o", .or), ("(", .opening), (")", .closing)].find?
    fun t => Bytes.ofString t.1 = word).map (·.2)

/-- What the first of some words is. The operator of one operand is an operand itself if nothing
comes after it, or a binary operator with an operand does. -/
def token : List Bytes → Token
  | [] => .finish
  | word :: rest =>
    let isOperand := match rest with
      | [] => true
      | [_] => false
      | next :: _ => next ∈ binaryOperators
    match operator? word with
    | some .unary => if isOperand then .operand else .unary
    | some .opening => if rest = [] then .operand else .opening
    | some t => t
    | none => .operand

section

variable (fs : FileSystem)

/-- A number as an operand. -/
def number (word : Bytes) : Except Fault Int :=
  match Number.decimal? word with
  | some n => .ok n
  | none => .error (.illegalNumber word)

/-- A test of one operand. Whoever runs the tools may read and write everything, but only run what
may be executed. -/
def unary (operator operand : Bytes) : Except Fault Bool :=
  let node := fs.node? ⟨operand⟩
  let isLink := (fs.entryNode? ⟨operand⟩).any fun
    | .link _ => true
    | _ => false
  let hasBit := fun (bit : Nat) => node.any fun
    | .file _ mode => mode.bits &&& bit ≠ 0
    | _ => false
  let tests : List (String × Bool) :=
    [("-n", operand ≠ []), ("-z", operand = []), ("-f", node.any Node.isFile),
      ("-d", node.any Node.isDirectory),
      ("-x", node.any fun
        | .directory => true
        | .file _ mode => mode.isExecutable
        | _ => false),
      ("-s", node.any fun
        | .directory => true
        | .file contents _ => contents ≠ []
        | _ => false),
      ("-c", node.any fun
        | .device _ => true
        | _ => false),
      ("-L", isLink), ("-h", isLink), ("-b", false), ("-p", false), ("-S", false),
      ("-u", hasBit 0o4000), ("-g", hasBit 0o2000), ("-k", hasBit 0o1000)]
  if operator = Bytes.ofString "-t" then (fun _ => false) <$> number operand
  else match tests.find? fun t => Bytes.ofString t.1 = operator with
    | some (_, holds) => .ok holds
    | none => .ok node.isSome

/-- Whether two paths lead to the same file or directory. -/
def isSame (left right : Bytes) : Bool :=
  match fs.resolve ⟨left⟩, fs.resolve ⟨right⟩ with
  | .ok l, .ok r => l = r || ((fs.fileId? l).isSome && fs.fileId? l = fs.fileId? r)
  | _, _ => false

/-- A test of two operands; numbers have to be numbers. No file is taken to be newer than another.
-/
def binary (left operator right : Bytes) : Except Fault Bool := do
  let strings : List (String × Bool) :=
    [("=", left = right), ("!=", left ≠ right), ("<", left ≠ right && left.precedes right),
      (">", left ≠ right && right.precedes left), ("-nt", false), ("-ot", false),
      ("-ef", isSame fs left right)]
  match strings.find? fun t => Bytes.ofString t.1 = operator with
  | some (_, holds) => return holds
  | none =>
    let a ← number left
    let b ← number right
    let numbers : List (String × Bool) :=
      [("-eq", a = b), ("-ne", a ≠ b), ("-gt", a > b), ("-ge", a ≥ b), ("-lt", a < b),
        ("-le", a ≤ b)]
    return numbers.any fun t => Bytes.ofString t.1 = operator && t.2

mutual

/-- Alternatives, from words whose first is a token already. The words that come back start with the
last one that was read. -/
def alternatives : (fuel : Nat) → Token → List Bytes → Except Fault (Bool × List Bytes)
  | 0, _, words => .ok (false, words)
  | fuel + 1, first, words => do
    let (holds, words) ← conjunction fuel first words
    if token words.tail = .or then
      let (more, words) ← alternatives fuel (token (words.drop 2)) (words.drop 2)
      return (holds || more, words)
    return (holds, words)

def conjunction : (fuel : Nat) → Token → List Bytes → Except Fault (Bool × List Bytes)
  | 0, _, words => .ok (false, words)
  | fuel + 1, first, words => do
    let (holds, words) ← negation fuel first words
    if token words.tail = .and then
      let (more, words) ← conjunction fuel (token (words.drop 2)) (words.drop 2)
      return (holds && more, words)
    return (holds, words)

def negation : (fuel : Nat) → Token → List Bytes → Except Fault (Bool × List Bytes)
  | 0, _, words => .ok (false, words)
  | fuel + 1, first, words => do
    if first ≠ .no then primary fuel first words
    else
      let next := token words.tail
      let (holds, words) ← negation fuel next (if next = .finish then words else words.tail)
      return (!holds, words)

def primary : (fuel : Nat) → Token → List Bytes → Except Fault (Bool × List Bytes)
  | 0, _, words => .ok (false, words)
  | fuel + 1, first, words => do
    match first, words with
    | .finish, _ | _, [] => return (false, words)
    | .opening, _ :: rest =>
      if token rest = .closing then return (false, rest)
      let (holds, words) ← alternatives fuel (token rest) rest
      if token words.tail ≠ .closing then throw .closingExpected
      return (holds, words.tail)
    | .unary, operator :: rest =>
      match rest with
      | [] => throw (.argumentExpected operator)
      | operand :: _ => return (← unary fs operator operand, rest)
    | _, left :: rest =>
      match token rest, rest with
      | .binary, operator :: more =>
        match more with
        | [] => throw (.argumentExpected operator)
        | right :: _ => return (← binary fs left operator right, more)
      | _, _ => return (left ≠ [], words)

end

/-- A condition in words. -/
def read (first : Token) (words : List Bytes) : Except Fault Bool := do
  let (holds, rest) ← alternatives fs (4 * (words.length + 2)) first words
  match rest with
  | word :: _ :: _ => throw (.unexpectedOperator word)
  | _ => return holds

/-- Whether a condition holds. No words at all do not, and an exclamation mark in front of two or
three words is about all of them. -/
def holds : List Bytes → Except Fault Bool
  | [] => .ok false
  | [a, b, c] =>
    if b ∈ binaryOperators then read fs .operand [a, b, c]
    else if a = [0x28] && c = [0x29] then read fs (token [b]) [b]
    else if a = [0x21] then not <$> read fs (token [b, c]) [b, c]
    else read fs (token [a, b, c]) [a, b, c]
  | [a, b, c, d] =>
    if a = [0x28] && d = [0x29] then read fs (token [b, c]) [b, c]
    else if a = [0x21] then not <$> holds [b, c, d]
    else read fs (token [a, b, c, d]) [a, b, c, d]
  | words => read fs (token words) words

end

end CompilerDriver.Shell.Condition
