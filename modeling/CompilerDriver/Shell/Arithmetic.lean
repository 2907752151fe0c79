import CompilerDriver.Shell.Number
import CompilerDriver.Shell.Phrase

/-!
# Arithmetic of the shell

Expressions over whole numbers of 64 bits, which wrap around. The operators bind as usual, a name
stands for the value of a variable, and an assignment gives one a new value. What is not evaluated,
because an operand before it decides, neither assigns nor fails.
-/

namespace CompilerDriver.Shell.Arithmetic

/-- Why an expression has no value. -/
inductive Fault where
  /-- Something else had to come. -/
  | expecting (what : String)
  | divisionByZero
  /-- A variable whose value is no number. -/
  | illegalNumber (text : Bytes)
deriving DecidableEq, Repr

/-- What is said about a fault in an expression. -/
def Fault.message (expression : Bytes) : Fault → Bytes
  | expecting what =>
    Bytes.ofString ("arithmetic expression: expecting " ++ what ++ ": \"") ++ expression ++ [0x22]
  | divisionByZero =>
    Bytes.ofString "arithmetic expression: division by zero: \"" ++ expression ++ [0x22]
  | illegalNumber text => Bytes.ofString "Illegal number: " ++ text

/-- What an expression is made of. -/
inductive Token where
  | number (value : Int64)
  | variable (name : Bytes)
  | sign (text : String)
  /-- Something that means nothing. -/
  | stray
  | finish
deriving DecidableEq, Repr

/-- The signs, longer ones first. -/
def signs : List String :=
  ["<<=", ">>=", "&&", "||", "<<", ">>", "<=", ">=", "==", "!=", "*=", "/=", "%=", "+=", "-=", "&=",
    "^=", "|=", "*", "/", "%", "+", "-", "<", ">", "&", "^", "|", "!", "~", "=", "?", ":", "(", ")"]

/-- An expression at work: what has not been read, the token in front of it, and the variables that
have been given values, latest first. -/
structure Cursor where
  rest : Bytes
  token : Token := .finish
  assigned : List (Bytes × Int64) := []

/-- The first token of a text, and what comes after it. -/
def firstToken (text : Bytes) : Token × Bytes :=
  let text := text.dropWhile Bytes.isSpace
  match text with
  | [] => (.finish, [])
  | b :: rest =>
    if Bytes.isDigit b then
      match Number.leadingNatural? true text with
      | some (n, rest) => (.number (Int64.ofInt (min n Number.greatest)), rest)
      | none => (.stray, rest)
    else if isNameStart b then
      let name := text.takeWhile isNameByte
      (.variable name, text.drop name.length)
    else match signs.find? fun s => (Bytes.ofString s).isPrefixOf text with
      | some s => (.sign s, text.drop (Bytes.ofString s).length)
      | none => (.stray, rest)

/-- Evaluating some part of an expression. -/
abbrev Evaluator (α : Type) := StateT Cursor (Except Fault) α

/-- Goes on to the next token. -/
def next : Evaluator Unit := modify fun c =>
  let (token, rest) := firstToken c.rest
  { c with token, rest }

/-- Goes on if a sign comes next. -/
def takes (s : String) : Evaluator Bool := do
  if (← get).token = .sign s then
    next
    return true
  return false

/-- A truth value as a number. -/
def truth (b : Bool) : Int64 := if b then 1 else 0

/-- The value of an operator. -/
def apply (operator : String) (a b : Int64) : Except Fault Int64 :=
  match operator with
  | "*" => .ok (a * b)
  | "/" => if b = 0 then .error .divisionByZero else .ok (a / b)
  | "%" => if b = 0 then .error .divisionByZero else .ok (a % b)
  | "+" => .ok (a + b)
  | "-" => .ok (a - b)
  | "<<" => .ok (a <<< b)
  | ">>" => .ok (a >>> b)
  | "<" => .ok (truth (a < b))
  | "<=" => .ok (truth (a ≤ b))
  | ">" => .ok (truth (b < a))
  | ">=" => .ok (truth (b ≤ a))
  | "==" => .ok (truth (a = b))
  | "!=" => .ok (truth (a ≠ b))
  | "&" => .ok (a &&& b)
  | "^" => .ok (a ^^^ b)
  | _ => .ok (a ||| b)

/-- The operators by how tightly they bind, the loosest first. -/
def levels : List (List String) :=
  [["|"], ["^"], ["&"], ["==", "!="], ["<", "<=", ">", ">="], ["<<", ">>"], ["+", "-"],
    ["*", "/", "%"]]

/-- The operator of an assignment that changes a variable by it; the empty one just sets it. -/
def assignment? : Token → Option String
  | .sign "=" => some ""
  | .sign s =>
    if s ∈ ["*=", "/=", "%=", "+=", "-=", "<<=", ">>=", "&=", "^=", "|="] then
      some (s.dropEnd 1).toString
    else none
  | _ => none

section

variable (lookup : Bytes → Bytes)

/-- The value of a variable. -/
def valueOf (name : Bytes) : Evaluator Int64 := do
  match ((← get).assigned.find? fun a => a.1 = name).map (·.2) with
  | some value => return value
  | none =>
    match Number.open? (lookup name) with
    | some value => return Int64.ofInt value
    | none => throw (.illegalNumber (lookup name))

mutual

/-- An assignment, or an expression without one. Nothing is assigned where it is `idle`. -/
def assignment (idle : Bool) : (fuel : Nat) → Evaluator Int64
  | 0 => throw (.expecting "primary")
  | fuel + 1 => do
    let start ← get
    match start.token with
    | .variable name =>
      next
      match assignment? (← get).token with
      | some operator =>
        next
        let value ← assignment idle fuel
        if idle then return value
        let value ← if operator = "" then pure value else apply operator (← valueOf lookup name) value
        modify fun c => { c with assigned := (name, value) :: c.assigned }
        return value
      | none =>
        set start
        choice idle fuel
    | _ => choice idle fuel

/-- A condition with two values to choose from. -/
def choice (idle : Bool) : (fuel : Nat) → Evaluator Int64
  | 0 => throw (.expecting "primary")
  | fuel + 1 => do
    let condition ← disjunction idle fuel
    if ← takes "?" then
      let whenTrue ← assignment (idle || condition = 0) fuel
      unless ← takes ":" do throw (.expecting "':'")
      let whenFalse ← choice (idle || condition ≠ 0) fuel
      return if condition ≠ 0 then whenTrue else whenFalse
    return condition

def disjunction (idle : Bool) : (fuel : Nat) → Evaluator Int64
  | 0 => throw (.expecting "primary")
  | fuel + 1 => do
    let a ← conjunction idle fuel
    if ← takes "||" then
      let b ← disjunction (idle || a ≠ 0) fuel
      return truth (a ≠ 0 || b ≠ 0)
    return a

def conjunction (idle : Bool) : (fuel : Nat) → Evaluator Int64
  | 0 => throw (.expecting "primary")
  | fuel + 1 => do
    let a ← binary idle levels fuel
    if ← takes "&&" then
      let b ← conjunction (idle || a = 0) fuel
      return truth (a ≠ 0 && b ≠ 0)
    return a

/-- Operands with the operators of one level between them. -/
def binary (idle : Bool) : List (List String) → (fuel : Nat) → Evaluator Int64
  | _, 0 => throw (.expecting "primary")
  | [], fuel + 1 => primary idle fuel
  | level :: tighter, fuel + 1 => do
    let first ← binary idle tighter fuel
    binaryRest idle first level tighter fuel

/-- What follows the first operand of a level. -/
def binaryRest (idle : Bool) (first : Int64) (level : List String) (tighter : List (List String)) :
    (fuel : Nat) → Evaluator Int64
  | 0 => throw (.expecting "primary")
  | fuel + 1 => do
    match (← get).token with
    | .sign s =>
      if s ∈ level then
        next
        let second ← binary idle tighter fuel
        let value ← if idle then pure second else apply s first second
        binaryRest idle value level tighter fuel
      else return first
    | _ => return first

/-- A number, a variable, a signed operand or an expression in parentheses. -/
def primary (idle : Bool) : (fuel : Nat) → Evaluator Int64
  | 0 => throw (.expecting "primary")
  | fuel + 1 => do
    match (← get).token with
    | .number value =>
      next
      return value
    | .variable name =>
      next
      if idle then return 0 else valueOf lookup name
    | .sign "(" =>
      next
      let value ← assignment idle fuel
      unless ← takes ")" do throw (.expecting "')'")
      return value
    | .sign "+" =>
      next
      primary idle fuel
    | .sign "-" =>
      next
      return 0 - (← primary idle fuel)
    | .sign "!" =>
      next
      return truth ((← primary idle fuel) = 0)
    | .sign "~" =>
      next
      return ~~~(← primary idle fuel)
    | _ => throw (.expecting "primary")

end

/-- The value of an expression, and the variables it gives values to, in order. -/
def evaluate (expression : Bytes) : Except Fault (Int × List (Bytes × Int)) := do
  let whole : Evaluator Int64 := do
    next
    let value ← assignment lookup false (20 * (expression.length + 2))
    unless (← get).token = .finish do throw (.expecting "EOF")
    return value
  let (value, cursor) ← whole.run { rest := expression }
  return (value.toInt, cursor.assigned.reverse.map fun a => (a.1, a.2.toInt))

end

end CompilerDriver.Shell.Arithmetic
