import CompilerDriver.Shell.Arithmetic
import CompilerDriver.Shell.Pattern
import CompilerDriver.Shell.Subshell

/-!
# Expansion

What the parts of a word stand for, and how words become the words of a command: they are expanded,
cut into fields, and a field with a pattern in it is replaced by the paths that the pattern fits.
-/

namespace CompilerDriver.Shell

section

variable (e : Evaluator)

/-- Values as one text, with the first byte between them that separates fields. -/
def State.joined (s : State) (values : List Bytes) : Bytes :=
  match s.separators with
  | [] => values.flatten
  | b :: _ => Bytes.join b values

/-- All parameters. Quoted they are a field each; without quotes, or as one text, a byte that
separates fields stands between them. -/
def expandAll (splitting quoted : Bool) (name : Bytes) (values : List Bytes) (s : State) :
    List Glyph :=
  if splitting && quoted && name = [0x40] then
    List.intercalate [.gap] (values.map fun v => .quotes :: Glyph.ofText true v)
  else if splitting && !quoted && s.separators = [] then
    List.intercalate [.gap] (values.map (Glyph.ofText false))
  else Glyph.ofValue quoted (s.joined values)

/-- A word that stands in the place of a value. Without quotes its plain text can be cut too. -/
def substitute (splitting : Bool) (word : Word) : Act (List Glyph) := do
  let glyphs ← e.word splitting word
  return glyphs.map fun
    | .byte b false _ => .byte b false splitting
    | other => other

/-- A word as a single text. -/
def expandText (word : Word) : Act Bytes := Glyph.text <$> e.word false word

/-- A word as a pattern. -/
def expandPattern (word : Word) : Act Pattern := do
  return Pattern.ofBytes (Glyph.quotedText (← e.word false word))

/-- Gives up at a parameter without a value, if values are required. -/
def requireSet (name : Bytes) (value : Option Bytes) : Act Unit := do
  if value.isNone && (← get).has 0x75 then
    Act.fail (name ++ Bytes.ofString ": parameter not set")

/-- What a parameter stands for after an edit. -/
def expandParameter (splitting : Bool) (name : Bytes) (edit : Edit) (quoted : Bool) :
    Act (List Glyph) := do
  let s ← get
  let isAll := name = [0x40] || name = [0x2a]
  let value := if isAll then some (s.joined s.parameters) else s.parameter? name
  let text := value.getD []
  let whole := if isAll then expandAll splitting quoted name s.parameters s
    else Glyph.ofValue quoted text
  let absent := fun (orEmpty : Bool) => value.isNone || (orEmpty && text = [])
  match edit with
  | .plain =>
    requireSet name value
    return whole
  | .length =>
    requireSet name value
    return Glyph.ofValue quoted (Bytes.decimal text.length)
  | .otherwise orEmpty word => if absent orEmpty then substitute e splitting word else return whole
  | .instead orEmpty word => if absent orEmpty then return [] else substitute e splitting word
  | .assign orEmpty word =>
    if absent orEmpty then
      let text ← expandText e word
      Act.checkName name
      Act.assign name text
      return Glyph.ofValue quoted text
    else return whole
  | .require orEmpty word =>
    if absent orEmpty then
      let usual := if orEmpty then "parameter not set or null" else "parameter not set"
      let reason ← if word.isEmpty then pure (Bytes.ofString usual) else expandText e word
      Act.fail (name ++ Bytes.ofString ": " ++ reason)
    else return whole
  | .trimEnd longest pattern =>
    requireSet name value
    return Glyph.ofValue quoted (Pattern.trimEnd (← expandPattern e pattern) longest text)
  | .trimStart longest pattern =>
    requireSet name value
    return Glyph.ofValue quoted (Pattern.trimStart (← expandPattern e pattern) longest text)
  | .meaningless => Act.fail (Bytes.ofString "Bad substitution")

/-- The home of a user, of the one at work if no name is given. Nobody's home stands for itself. -/
def homeOf (s : State) (user : Bytes) : Bytes :=
  let root := Bytes.ofString "root"
  if user = [] then (s.value? (Bytes.ofString "HOME")).getD [0x7e]
  else if user = root then Bytes.slash :: root
  else 0x7e :: user

/-- What a part of a word stands for. -/
def expandPart (splitting : Bool) : Part → Act (List Glyph)
  | .text text true => return .quotes :: Glyph.ofText true text
  | .text text false => return Glyph.ofText false text
  | .home user => return Glyph.ofText true (homeOf (← get) user)
  | .parameter name edit quoted => expandParameter e splitting name edit quoted
  | .output body quoted => return Glyph.ofValue quoted (← outputOf e (e.phrase false body))
  | .arithmetic expression quoted => do
    let expression ← expandText e expression
    let s ← get
    match Arithmetic.evaluate (fun name => (s.parameter? name).getD []) expression with
    | .ok (value, assigned) =>
      for (name, value) in assigned do Act.assign name (Number.decimal value)
      return Glyph.ofValue quoted (Number.decimal value)
    | .error fault => Act.fail (fault.message expression)

/-- What a word comes to. -/
def expandWord (splitting : Bool) (word : Word) : Act (List Glyph) :=
  List.flatten <$> word.mapM (expandPart e splitting)

/-- The words of a command that a field stands for: the paths that it fits if it is a pattern, and
else itself. -/
def pathsOf (s : State) (f : Field) : List Bytes :=
  if s.has 0x66 then [f.text]
  else match Pattern.paths s.machine.files (Pattern.ofBytes f) with
    | [] => [f.text]
    | paths => paths

/-- A word as words of a command. -/
def expandFields (word : Word) : Act (List Bytes) := do
  let glyphs ← e.word true word
  let s ← get
  return (cutFields s.separators glyphs).flatMap (pathsOf s)

/-- Words as words of a command. -/
def expandWords (words : List Word) : Act (List Bytes) := List.flatten <$> words.mapM (expandFields e)

end

end CompilerDriver.Shell
