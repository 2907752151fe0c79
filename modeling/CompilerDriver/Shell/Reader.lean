import CompilerDriver.Shell.Phrase

/-!
# Reading scripts

A script is read one complete command at a time, so what stands before a mistake has been run by
the time the mistake is met. Reading is by recursive descent with fuel; every nested call spends
some, and the fuel of `readCommand` grows with the text, so only a text that is no script runs out.

A text that stands in the script for a redirection follows the line that asks for it. It is taken
out of the input as soon as it is asked for, and its lines are counted when the line ends.
-/

namespace CompilerDriver.Shell

/-- A script that cannot be read: the line, and what is wrong there. -/
structure Misread where
  line : Nat
  message : Bytes
deriving DecidableEq, Repr

/-- The rest of a script, and the number of the line it starts on. -/
structure Input where
  rest : Bytes
  line : Nat := 1
  /-- How many lines have been taken out behind the line at work. -/
  owed : Nat := 0
  /-- Words that stand for other texts where a command is expected. -/
  aliases : List (Bytes × Bytes) := []
deriving DecidableEq, Repr

/-- A reader of some part of a script. -/
abbrev Reader (α : Type) := StateT Input (Except Misread) α

namespace Input

def isBlank (b : UInt8) : Bool := b = 0x20 || b = 0x09

/-- A byte that ends an unquoted word. -/
def isDelimiter (b : UInt8) : Bool :=
  isBlank b || b = 0x0a || b = 0x3b || b = 0x26 || b = 0x7c || b = 0x3c || b = 0x3e || b = 0x28 ||
    b = 0x29

/-- The input after so many bytes. -/
def advance (i : Input) (n : Nat) : Input :=
  let lines := (i.rest.take n).count Bytes.newline
  { i with
    rest := i.rest.drop n
    line := i.line + lines + if lines = 0 then 0 else i.owed
    owed := if lines = 0 then i.owed else 0 }

/-- How many bytes at the front are blanks, joined lines and a comment; line ends too if `newlines`
is set. `inComment` tells that a comment has started. -/
def skipped (newlines : Bool) : (inComment : Bool) → Bytes → Nat
  | _, [] => 0
  | true, b :: rest =>
    if b = 0x0a then if newlines then 1 + skipped newlines false rest else 0
    else 1 + skipped newlines true rest
  | false, [b] => if isBlank b || (newlines && b = 0x0a) || b = 0x23 then 1 else 0
  | false, b :: c :: rest =>
    if isBlank b || (newlines && b = 0x0a) then 1 + skipped newlines false (c :: rest)
    else if b = 0x5c && c = 0x0a then 2 + skipped newlines false rest
    else if b = 0x23 then 1 + skipped newlines true (c :: rest)
    else 0

/-- How many bytes there are up to the end of the line, which is not one inside quotes. -/
def lineLength : (quote : Option UInt8) → Bytes → Nat
  | _, [] => 0
  | _, [b] => if b = Bytes.newline then 0 else 1
  | quote, b :: c :: rest =>
    if b = Bytes.newline && quote.isNone then 0
    else if b = 0x5c && quote ≠ some 0x27 then 2 + lineLength quote rest
    else if quote = some b then 1 + lineLength none (c :: rest)
    else if quote.isNone && (b = 0x22 || b = 0x27) then 1 + lineLength (some b) (c :: rest)
    else 1 + lineLength quote (c :: rest)

/-- The lines up to one that closes the text, each without the tabs in front of it if they are
`stripped`, and the number of all these lines. -/
def documentLines (closing : Bytes) (stripped : Bool) : List Bytes → List Bytes × Nat
  | [] => ([], 0)
  | line :: rest =>
    let line := if stripped then line.dropWhile (· = 0x09) else line
    if line = closing then ([], 1)
    else
      let (lines, number) := documentLines closing stripped rest
      (line :: lines, number + 1)

/-- Takes the text for a redirection out of the lines that follow. -/
def takeDocument (i : Input) (closing : Bytes) (stripped : Bool) : Bytes × Input :=
  let length := lineLength none i.rest
  match i.rest.drop length with
  | [] => ([], i)
  | newline :: below =>
    let lines := Bytes.pieces Bytes.newline below
    let lines := if lines.getLast? = some [] then lines.dropLast else lines
    let (document, number) := documentLines closing stripped lines
    let after := Bytes.join Bytes.newline ((Bytes.pieces Bytes.newline below).drop number)
    (document.flatMap (· ++ [Bytes.newline]),
      { i with rest := i.rest.take length ++ newline :: after, owed := i.owed + number })

end Input

namespace Reader

open Input

/-- Words that end a list of commands. -/
def closers : List Bytes :=
  ["then", "else", "elif", "fi", "do", "done", "esac", "\x7d"].map Bytes.ofString

/-- The shell's own words. -/
def keywords : List Bytes :=
  closers ++ ["!", "case", "for", "if", "in", "until", "while", "\x7b"].map Bytes.ofString

/-- The signs that stand between words, longer ones first. -/
def signs : List Bytes := ["&&", "||", ";;", ";", "&", "|", "(", ")"].map Bytes.ofString

/-- The word at the front, as far as it goes without delimiters. -/
def plainWord (rest : Bytes) : Bytes := rest.takeWhile fun b => !isDelimiter b

/-- Whether a redirection comes next. -/
def isRedirection (rest : Bytes) : Bool :=
  let after := match rest with
    | b :: more => if Bytes.isDigit b then more else rest
    | [] => []
  after.head? = some 0x3c || after.head? = some 0x3e

/-- What comes next, as a message shows it. -/
def shown (rest : Bytes) : Bytes :=
  let inQuotes := fun (token : Bytes) => 0x22 :: token ++ [0x22]
  let word := plainWord rest
  if rest = [] then Bytes.ofString "end of file"
  else if rest.head? = some Bytes.newline then Bytes.ofString "newline"
  else if isRedirection rest then Bytes.ofString "redirection"
  else match signs.find? fun s => s.isPrefixOf rest with
    | some sign => inQuotes sign
    | none => if word ∈ keywords then inQuotes word else Bytes.ofString "word"

/-- Gives up with a message. -/
def fail {α : Type} (message : Bytes) : Reader α := do throw ⟨(← get).line, message⟩

/-- Gives up with a message about what comes next. A line end counts to the next line. -/
def failAtNext {α : Type} (message : Bytes → Bytes) : Reader α := do
  let i ← get
  let line := if i.rest.head? = some Bytes.newline then (i.advance 1).line else i.line
  throw ⟨line, message (shown i.rest)⟩

/-- Gives up at what comes next. -/
def misread {α : Type} : Reader α := failAtNext (· ++ Bytes.ofString " unexpected")

/-- Gives up at what comes next where something else had to come. -/
def expected {α : Type} (token : String) : Reader α :=
  failAtNext (· ++ Bytes.ofString (" unexpected (expecting \"" ++ token ++ "\")"))

/-- Gives up inside quotes. -/
def unterminated {α : Type} : Reader α := fail (Bytes.ofString "Unterminated quoted string")

/-- Skips blanks and comments. -/
def skipBlanks : Reader Unit := modify fun i => i.advance (skipped false false i.rest)

/-- Skips blanks, comments and line ends. -/
def skipLines : Reader Unit := modify fun i => i.advance (skipped true false i.rest)

/-- Whether some bytes come next. -/
def sees (s : Bytes) : Reader Bool := return s.isPrefixOf (← get).rest

/-- Reads some bytes if they come next. -/
def takes (s : Bytes) : Reader Bool := do
  if ← sees s then
    modify fun i => i.advance s.length
    return true
  return false

/-- Reads one of the shell's own words if it comes next, with a delimiter after it. -/
def takesWord (word : String) : Reader Bool := do
  let bytes := Bytes.ofString word
  if plainWord (← get).rest = bytes then
    modify fun i => i.advance bytes.length
    return true
  return false

/-- Reads one of the shell's own words, which has to come next. -/
def expectWord (word : String) : Reader Unit := do
  unless ← takesWord word do expected word

/-- Reads bytes as long as they satisfy a test. -/
def takeWhile (p : UInt8 → Bool) : Reader Bytes := do
  let bytes := (← get).rest.takeWhile p
  modify fun i => i.advance bytes.length
  return bytes

/-- Whether a list of commands ends here. -/
def atClose : Reader Bool := do
  let rest := (← get).rest
  return rest = [] || rest.head? = some 0x29 || [0x3b, 0x3b].isPrefixOf rest ||
    plainWord rest ∈ closers

/-- Puts the text in that a word at the front stands for. The word does not stand for anything
inside its own text, so `fuel` need not be more than the number of such words. -/
def replaceAlias : (fuel : Nat) → List (Bytes × Bytes) → Reader Unit
  | 0, _ => pure ()
  | fuel + 1, aliases => do
    skipBlanks
    let i ← get
    let word := plainWord i.rest
    match aliases.find? fun a => a.1 = word with
    | none => pure ()
    | some (_, text) =>
      set { i with rest := text ++ i.rest.drop word.length }
      replaceAlias fuel (aliases.filter fun a => a.1 ≠ word)

/-- Reads a single-quoted text up to its closing quote. -/
def singleQuoted : Reader Part := do
  let body ← takeWhile (· ≠ 0x27)
  unless ← takes [0x27] do unterminated
  return .text body true

/-- A byte that means something in an unquoted word. -/
def isSpecial (b : UInt8) : Bool := b = 0x27 || b = 0x22 || b = 0x5c || b = 0x24 || b = 0x60

/-- Backquoted text with its backslashes taken off; those before double quotes too if it stands
between such quotes. -/
def unescapeBackquoted (quoted : Bool) : Bytes → Bytes
  | [] => []
  | [b] => [b]
  | b :: c :: rest =>
    if b = 0x5c && (c = 0x5c || c = 0x60 || c = 0x24 || (quoted && c = 0x22)) then
      c :: unescapeBackquoted quoted rest
    else if b = 0x5c && c = 0x0a then unescapeBackquoted quoted rest
    else b :: unescapeBackquoted quoted (c :: rest)

/-- How many bytes there are up to the closing backquote. -/
def backquotedLength : Bytes → Nat
  | [] => 0
  | [b] => if b = 0x60 then 0 else 1
  | b :: c :: rest =>
    if b = 0x60 then 0
    else if b = 0x5c then 2 + backquotedLength rest
    else 1 + backquotedLength (c :: rest)

/-- The name of a parameter: a name, a digit or a special sign. In braces a number may have more
digits. -/
def parameterName (inBraces : Bool) : Reader Bytes := do
  match (← get).rest with
  | b :: _ =>
    if isNameStart b then takeWhile isNameByte
    else if Bytes.isDigit b && inBraces then takeWhile Bytes.isDigit
    else if Bytes.isDigit b || b ∈ Bytes.ofString "@*#?$!-" then
      modify fun i => i.advance 1
      return [b]
    else return []
  | [] => return []

/-- How a redirection begins. -/
inductive RedirectionStart where
  | plain (descriptor : Nat) (direction : Direction)
  /-- A text in the script, perhaps with the tabs in front of its lines taken off. -/
  | document (descriptor : Nat) (stripped : Bool)

/-- The beginning of a redirection, if one comes next. Only one digit may stand in front. -/
def redirectionStart : Reader (Option RedirectionStart) := do
  let i ← get
  let (number, after) := match i.rest with
    | b :: more => if Bytes.isDigit b then (some (Bytes.ofDigits [b]), more) else (none, i.rest)
    | [] => (none, [])
  let operators : List (String × (Option Nat → RedirectionStart)) :=
    [(">>", fun n => .plain (n.getD 1) .append), (">&", fun n => .plain (n.getD 1) .duplicate),
      (">|", fun n => .plain (n.getD 1) .overwrite), (">", fun n => .plain (n.getD 1) .write),
      ("<<-", fun n => .document (n.getD 0) true), ("<<", fun n => .document (n.getD 0) false),
      ("<&", fun n => .plain (n.getD 0) .duplicate), ("<>", fun n => .plain (n.getD 0) .update),
      ("<", fun n => .plain (n.getD 0) .read)]
  match operators.find? fun o => (Bytes.ofString o.1).isPrefixOf after with
  | none => return none
  | some (sign, start) =>
    set (i.advance (i.rest.length - after.length + (Bytes.ofString sign).length))
    return some (start number)

/-- The name of an assignment, if one comes next. -/
def assignmentName : Reader (Option Bytes) := do
  let i ← get
  let name := i.rest.takeWhile isNameByte
  match i.rest.drop name.length with
  | 0x3d :: _ =>
    if isName name then
      set (i.advance (name.length + 1))
      return some name
    else return none
  | _ => return none

/-- The home at the front of a word, if one comes next: a tilde and perhaps a name, up to a slash or
the end of the word. -/
def homeAtFront : Reader Word := do
  let i ← get
  match i.rest with
  | 0x7e :: rest =>
    let user := rest.takeWhile fun b => isNameByte b || b = Bytes.dash || b = Bytes.dot
    match rest.drop user.length with
    | [] => pure ()
    | b :: _ => unless b = Bytes.slash || isDelimiter b || b = 0x3a || b = 0x7d do return []
    set (i.advance (user.length + 1))
    return [.home user]
  | _ => return []

/-- The word that closes a text in the script, with its quotes taken off, and whether it had any. -/
def closingWord : (fuel : Nat) → Bytes → Bytes × Bool × Nat
  | 0, _ => ([], false, 0)
  | _, [] => ([], false, 0)
  | fuel + 1, b :: rest =>
    if isDelimiter b then ([], false, 0)
    else if b = 0x27 || b = 0x22 then
      let inner := rest.takeWhile (· ≠ b)
      let (more, _, length) := closingWord fuel (rest.drop (inner.length + 1))
      (inner ++ more, true, inner.length + 2 + length)
    else if b = 0x5c then
      let (more, _, length) := closingWord fuel (rest.drop 1)
      (rest.take 1 ++ more, true, 2 + length)
    else
      let (more, quoted, length) := closingWord fuel rest
      (b :: more, quoted, 1 + length)

/-- Commands with the sign that comes after them, and whether there is one. -/
def separated (first : Phrase) : Reader (Phrase × Bool) := do
  if ← takes [0x26] then return (.background first, true)
  return (first, (← takes [0x3b]) || (← takes [0x0a]))

/-- What ends a text in which quotes do not count. -/
inductive Closing where
  /-- A double quote. -/
  | quote
  /-- A closing brace, inside such a text. -/
  | brace
  /-- The end of the input. -/
  | document
  /-- Two closing parentheses, with so many open before them. -/
  | arithmetic (depth : Nat)

/-- Whether a backslash before a byte protects it in such a text. -/
def Closing.protects : Closing → UInt8 → Bool
  | .quote, b => b ∈ Bytes.ofString "$`\"\\"
  | .brace, b => b ∈ Bytes.ofString "$`\"\\\x7d"
  | .document, b | .arithmetic _, b => b ∈ Bytes.ofString "$`\\"

/-- Whether a byte means something in such a text. -/
def Closing.isSpecial (closing : Closing) (b : UInt8) : Bool :=
  b = 0x5c || b = 0x24 || b = 0x60 || match closing with
    | .quote => b = 0x22
    | .brace => b = 0x22 || b = 0x7d
    | .document => false
    | .arithmetic _ => b = 0x28 || b = 0x29

mutual

/-- A word up to a byte that ends it, with a home at its front. -/
def word : (fuel : Nat) → Reader Word
  | 0 => misread
  | fuel + 1 => do
    let home ← homeAtFront
    return home ++ (← parts isDelimiter fuel)

/-- The parts of a word up to a byte that ends it. Quotes make a field even if nothing stands in it,
unless it is the list of all parameters alone. -/
def parts (stop : UInt8 → Bool) : (fuel : Nat) → Reader Word
  | 0 => misread
  | fuel + 1 => do
    match (← get).rest with
    | [] => return []
    | b :: rest =>
      if stop b then return []
      else if b = 0x27 then
        modify fun i => i.advance 1
        let part ← singleQuoted
        return part :: (← parts stop fuel)
      else if b = 0x22 then
        modify fun i => i.advance 1
        let inner ← quotedParts .quote fuel
        let rest ← parts stop fuel
        match inner with
        | [.parameter [0x40] .plain true] => return inner ++ rest
        | _ => return .text [] true :: inner ++ rest
      else if b = 0x5c then
        modify fun i => i.advance 2
        match rest with
        | [] => return [.text [b] true]
        | c :: _ =>
          if c = 0x0a then parts stop fuel
          else return .text [c] true :: (← parts stop fuel)
      else if b = 0x24 then
        modify fun i => i.advance 1
        let part ← dollar false fuel
        return part :: (← parts stop fuel)
      else if b = 0x60 then
        modify fun i => i.advance 1
        let part ← backquoted false fuel
        return part :: (← parts stop fuel)
      else
        let text ← takeWhile fun c => !stop c && !isSpecial c
        return .text text false :: (← parts stop fuel)

/-- The parts of a text in which quotes do not count, up to its end. -/
def quotedParts (closing : Closing) : (fuel : Nat) → Reader Word
  | 0 => misread
  | fuel + 1 => do
    match (← get).rest, closing with
    | [], .quote | [], .brace => unterminated
    | [], .document => return []
    | [], .arithmetic _ => fail (Bytes.ofString "Missing '))'")
    | 0x5c :: rest, _ =>
      match rest with
      | [] =>
        modify fun i => i.advance 1
        return .text [0x5c] true :: (← quotedParts closing fuel)
      | c :: _ =>
        modify fun i => i.advance 2
        if c = 0x0a then quotedParts closing fuel
        else if closing.protects c then return .text [c] true :: (← quotedParts closing fuel)
        else return .text [0x5c, c] true :: (← quotedParts closing fuel)
    | 0x24 :: _, _ =>
      modify fun i => i.advance 1
      let part ← dollar true fuel
      return part :: (← quotedParts closing fuel)
    | 0x60 :: _, _ =>
      modify fun i => i.advance 1
      let part ← backquoted true fuel
      return part :: (← quotedParts closing fuel)
    | 0x22 :: _, .quote =>
      modify fun i => i.advance 1
      return []
    | 0x22 :: _, .brace =>
      modify fun i => i.advance 1
      quotedParts closing fuel
    | 0x7d :: _, .brace => return []
    | 0x28 :: _, .arithmetic depth =>
      modify fun i => i.advance 1
      return .text [0x28] true :: (← quotedParts (.arithmetic (depth + 1)) fuel)
    | 0x29 :: rest, .arithmetic depth =>
      modify fun i => i.advance 1
      if depth = 0 && rest.head? = some 0x29 then
        modify fun i => i.advance 1
        return []
      return .text [0x29] true :: (← quotedParts (.arithmetic (depth - 1)) fuel)
    | _, _ =>
      let text ← takeWhile fun c => !closing.isSpecial c
      return .text text true :: (← quotedParts closing fuel)

/-- What a dollar sign starts. -/
def dollar (quoted : Bool) : (fuel : Nat) → Reader Part
  | 0 => misread
  | fuel + 1 => do
    if ← takes [0x28, 0x28] then
      return .arithmetic (← quotedParts (.arithmetic 0) fuel) quoted
    else if ← takes [0x28] then
      let body ← list true fuel
      unless ← takes [0x29] do expected ")"
      return .output body quoted
    else if ← takes [0x7b] then braced quoted fuel
    else
      match ← parameterName false with
      | [] => return .text [0x24] quoted
      | name => return .parameter name .plain quoted

/-- A parameter in braces, after the open brace. -/
def braced (quoted : Bool) : (fuel : Nat) → Reader Part
  | 0 => misread
  | fuel + 1 => do
    let pattern := parts (fun b => b = 0x7d) fuel
    let other := if quoted then quotedParts .brace fuel else do
      return (← homeAtFront) ++ (← parts (fun b => b = 0x7d) fuel)
    let rest := (← get).rest
    let asksLength := rest.head? = some 0x23 && rest[1]?.any fun b =>
      isNameByte b || b ∈ Bytes.ofString "@*?$!-" || (b = 0x23 && rest[2]? = some 0x7d)
    if asksLength then
      modify fun i => i.advance 1
      let name ← parameterName true
      if ← takes [0x7d] then return .parameter name .length quoted
      let _ ← pattern
      unless ← takes [0x7d] do fail (Bytes.ofString "Missing '\x7d'")
      return .parameter name .meaningless quoted
    let name ← parameterName true
    if name ≠ [] then
      if ← takes [0x7d] then return .parameter name .plain quoted
    let longEnd ← takes (Bytes.ofString "%%")
    let shortEnd ← if longEnd then pure false else takes (Bytes.ofString "%")
    let longStart ← takes (Bytes.ofString "##")
    let shortStart ← if longStart then pure false else takes (Bytes.ofString "#")
    let edit ←
      if name = [] then (fun _ => Edit.meaningless) <$> pattern
      else if longEnd || shortEnd then Edit.trimEnd longEnd <$> pattern
      else if longStart || shortStart then Edit.trimStart longStart <$> pattern
      else
        let orEmpty ← takes [0x3a]
        if ← takes [0x2d] then Edit.otherwise orEmpty <$> other
        else if ← takes [0x2b] then Edit.instead orEmpty <$> other
        else if ← takes [0x3d] then Edit.assign orEmpty <$> other
        else if ← takes [0x3f] then Edit.require orEmpty <$> other
        else (fun _ => Edit.meaningless) <$> pattern
    unless ← takes [0x7d] do fail (Bytes.ofString "Missing '\x7d'")
    return .parameter name edit quoted

/-- What stands between backquotes, after the first. -/
def backquoted (quoted : Bool) : (fuel : Nat) → Reader Part
  | 0 => misread
  | fuel + 1 => do
    let i ← get
    let length := backquotedLength i.rest
    let after := i.advance length
    set { i with rest := unescapeBackquoted quoted (i.rest.take length) }
    let body ← list true fuel
    unless (← get).rest = [] do misread
    set after
    unless ← takes [0x60] do fail (Bytes.ofString "EOF in backquote substitution")
    return .output body quoted

/-- Commands up to a word that closes them. Where commands have to come, a list that
`canBeEmpty` is not asked for. -/
def list (canBeEmpty : Bool) : (fuel : Nat) → Reader Phrase
  | 0 => misread
  | fuel + 1 => do
    skipLines
    if canBeEmpty && (← atClose) then return .nothing
    let first ← chain fuel
    skipBlanks
    if ← sees [0x3b, 0x3b] then return first
    match ← separated first with
    | (first, false) => return first
    | (first, true) =>
      match ← list true fuel with
      | .nothing => return first
      | rest => return .sequence first rest

/-- Commands with `&&` and `||` between them. -/
def chain : (fuel : Nat) → Reader Phrase
  | 0 => misread
  | fuel + 1 => do
    let first ← pipeline fuel
    chainRest first fuel

/-- What follows in a chain. -/
def chainRest (first : Phrase) : (fuel : Nat) → Reader Phrase
  | 0 => misread
  | fuel + 1 => do
    skipBlanks
    if ← takes (Bytes.ofString "&&") then
      skipLines
      let next ← pipeline fuel
      chainRest (.both first next) fuel
    else if ← takes (Bytes.ofString "||") then
      skipLines
      let next ← pipeline fuel
      chainRest (.either first next) fuel
    else return first

/-- Commands with `|` between them, perhaps after a `!`. -/
def pipeline : (fuel : Nat) → Reader Phrase
  | 0 => misread
  | fuel + 1 => do
    skipBlanks
    let negated ← takesWord "!"
    let commands ← pipelineRest fuel
    let all := match commands with
      | [only] => only
      | several => .pipe several
    return if negated then .not all else all

/-- The commands of a pipeline. -/
def pipelineRest : (fuel : Nat) → Reader (List Phrase)
  | 0 => misread
  | fuel + 1 => do
    let first ← command fuel
    skipBlanks
    if ← sees (Bytes.ofString "||") then return [first]
    if ← takes [0x7c] then
      skipLines
      return first :: (← pipelineRest fuel)
    return [first]

/-- One command, simple or put together. -/
def command : (fuel : Nat) → Reader Phrase
  | 0 => misread
  | fuel + 1 => do
    replaceAlias 100 (← get).aliases
    skipBlanks
    let line := (← get).line
    if ← takes [0x28] then
      let body ← list false fuel
      unless ← takes [0x29] do expected ")"
      return .subshell line body (← redirections fuel)
    let compound : Option Phrase ←
      if ← takesWord "\x7b" then do
        let body ← list false fuel
        expectWord "\x7d"
        pure (some body)
      else if ← takesWord "if" then some <$> branch fuel
      else if ← takesWord "while" then some <$> loop true fuel
      else if ← takesWord "until" then some <$> loop false fuel
      else if ← takesWord "for" then some <$> each line fuel
      else if ← takesWord "case" then some <$> choice line fuel
      else pure none
    match compound with
    | some body =>
      match ← redirections fuel with
      | [] => return body
      | all => return .redirected line body all
    | none =>
      if plainWord (← get).rest ∈ keywords then misread
      simple line [] [] [] fuel

/-- The rest of a conditional after `if` or `elif`. -/
def branch : (fuel : Nat) → Reader Phrase
  | 0 => misread
  | fuel + 1 => do
    let condition ← list false fuel
    expectWord "then"
    let whenTrue ← list false fuel
    if ← takesWord "elif" then return .branch condition whenTrue (← branch fuel)
    let whenFalse ← if ← takesWord "else" then list false fuel else pure .nothing
    expectWord "fi"
    return .branch condition whenTrue whenFalse

/-- The rest of a loop after `while` or `until`. -/
def loop (wanted : Bool) : (fuel : Nat) → Reader Phrase
  | 0 => misread
  | fuel + 1 => do
    let condition ← list false fuel
    expectWord "do"
    let body ← list false fuel
    expectWord "done"
    return .loop wanted condition body

/-- The rest of a loop after `for`. -/
def each (line : Nat) : (fuel : Nat) → Reader Phrase
  | 0 => misread
  | fuel + 1 => do
    skipBlanks
    let name := plainWord (← get).rest
    unless isName name do fail (Bytes.ofString "Bad for loop variable")
    modify fun i => i.advance name.length
    skipLines
    let words ← if ← takesWord "in" then do
        let words ← wordList fuel
        skipBlanks
        unless (← takes [0x3b]) || (← takes [0x0a]) do misread
        pure (some words)
      else do
        let _ ← if ← sees [0x3b, 0x3b] then pure false else takes [0x3b]
        pure none
    skipLines
    expectWord "do"
    let body ← list false fuel
    expectWord "done"
    return .each line name words body

/-- The rest of a choice after `case`. -/
def choice (line : Nat) : (fuel : Nat) → Reader Phrase
  | 0 => misread
  | fuel + 1 => do
    skipBlanks
    let subject ← word fuel
    if subject.isEmpty then failAtNext (· ++ Bytes.ofString " unexpected (expecting word)")
    skipLines
    expectWord "in"
    return .choice line subject (← cases fuel)

/-- The cases of a choice. -/
def cases : (fuel : Nat) → Reader (List (List Word × Phrase))
  | 0 => misread
  | fuel + 1 => do
    skipLines
    if ← takesWord "esac" then return []
    let _ ← takes [0x28]
    let patterns ← alternatives fuel
    let body ← list true fuel
    if ← takes [0x3b, 0x3b] then return (patterns, body) :: (← cases fuel)
    skipLines
    if ← takesWord "esac" then return [(patterns, body)]
    expected ";;"

/-- The patterns of a case, with `|` between them and `)` at the end. -/
def alternatives : (fuel : Nat) → Reader (List Word)
  | 0 => misread
  | fuel + 1 => do
    skipBlanks
    let pattern ← word fuel
    if pattern.isEmpty then expected ")"
    skipBlanks
    if ← takes [0x7c] then return pattern :: (← alternatives fuel)
    unless ← takes [0x29] do expected ")"
    return [pattern]

/-- Words up to the end of the line or a semicolon. -/
def wordList : (fuel : Nat) → Reader (List Word)
  | 0 => misread
  | fuel + 1 => do
    skipBlanks
    let first ← word fuel
    if first.isEmpty then return []
    return first :: (← wordList fuel)

/-- Redirections, as many as come next. -/
def redirections : (fuel : Nat) → Reader (List Redirection)
  | 0 => misread
  | fuel + 1 => do
    skipBlanks
    match ← redirectionStart with
    | none => return []
    | some (.plain descriptor direction) =>
      skipBlanks
      let target ← word fuel
      if target.isEmpty then misread
      return .mk descriptor direction target :: (← redirections fuel)
    | some (.document descriptor stripped) =>
      skipBlanks
      let i ← get
      let (closing, quoted, length) := closingWord i.rest.length i.rest
      if length = 0 then misread
      let (text, i) := (i.advance length).takeDocument closing stripped
      let target ← if quoted then pure [.text text true] else do
        set { i with rest := text }
        quotedParts .document fuel
      set i
      return .mk descriptor .document target :: (← redirections fuel)

/-- Assignments, words and redirections of a simple command, what has been read of them last one
first. A name with parentheses after it makes a phrase known under that name. -/
def simple (line : Nat) (assignments : List (Bytes × Word)) (words : List Word)
    (targets : List Redirection) : (fuel : Nat) → Reader Phrase
  | 0 => misread
  | fuel + 1 => do
    skipBlanks
    let more ← redirections fuel
    if !more.isEmpty then
      return ← simple line assignments words (more.reverse ++ targets) fuel
    let assigned ← if words.isEmpty then assignmentName else pure none
    match assigned with
    | some name =>
      let value ← word fuel
      simple line ((name, value) :: assignments) words targets fuel
    | none =>
      let next ← word fuel
      if next.isEmpty then
        match assignments, words, targets with
        | [], [only], [] => if ← takes [0x28] then return ← function only fuel
        | [], [], [] => misread
        | _, _, _ => pure ()
        return .simple line assignments.reverse words.reverse targets.reverse
      simple line assignments (next :: words) targets fuel

/-- The rest of a function after its name and a parenthesis. -/
def function (name : Word) : (fuel : Nat) → Reader Phrase
  | 0 => misread
  | fuel + 1 => do
    skipBlanks
    unless ← takes [0x29] do expected ")"
    match name with
    | [.text name false] =>
      unless isName name && name ∉ specialNames do fail (Bytes.ofString "Bad function name")
      skipLines
      let line := (← get).line
      return .function line name (← command fuel)
    | _ => fail (Bytes.ofString "Bad function name")

end

/-- Commands up to the end of a line. -/
def line : (fuel : Nat) → Reader Phrase
  | 0 => misread
  | fuel + 1 => do
    let first ← chain fuel
    skipBlanks
    if ← sees [0x3b, 0x3b] then misread
    let atEnd : Reader Bool := do
      let rest := (← get).rest
      return rest = [] || rest.head? = some Bytes.newline
    if ← atEnd then return first
    match ← separated first with
    | (_, false) => misread
    | (first, true) =>
      skipBlanks
      if ← atEnd then return first
      return .sequence first (← line fuel)

end Reader

/-- The next complete command of a script, and what comes after it; nothing at the end. -/
def readCommand (i : Input) : Except Misread (Option (Phrase × Input)) := do
  let ((), start) ← Reader.skipLines.run i
  if start.rest = [] then return none
  let fuel := 16 * (start.rest.length + 4)
  let (phrase, after) ← (Reader.line fuel).run start
  return some (phrase, after)

end CompilerDriver.Shell
