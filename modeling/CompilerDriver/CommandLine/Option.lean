import CompilerDriver.Compilation

/-!
# The options of the command line

What may be written before the input: flags that stand alone, settings that take a value and may
also come from the environment, and the two requests for information.
-/

namespace CompilerDriver.CommandLine

/-- An option that stands alone. -/
inductive Flag where
  | lex
  | parse
  | tacky
  | assemble
  | codegen
  | keepAssembly
  | verbose
deriving DecidableEq, Repr

/-- An option that takes a value. -/
inductive Setting where
  | cc
  | backend
deriving DecidableEq, Repr

/-- Anything that is written with dashes. -/
inductive Switch where
  | flag (flag : Flag)
  | setting (setting : Setting)
  | help
  | version
deriving DecidableEq, Repr

namespace Flag

/-- All flags, in the order of the help text. -/
def all : List Flag := [lex, parse, tacky, assemble, codegen, keepAssembly, verbose]

/-- The stage a flag stops after. -/
def stage? : Flag → Option Stage
  | lex => some .lex
  | parse => some .parse
  | tacky => some .tacky
  | assemble => some .assemble
  | codegen => some .codegen
  | keepAssembly | verbose => none

end Flag

namespace Setting

/-- The environment variable that may give the value. -/
def variableName : Setting → Bytes
  | cc => Bytes.ofString "CCDRIVER_CC"
  | backend => Bytes.ofString "CCDRIVER_BACKEND"

/-- Whether an empty value will do. A path may not be empty; the name of a program may. -/
def takesEmpty : Setting → Bool
  | cc => true
  | backend => false

end Setting

namespace Switch

/-- All switches, in the order of the help text. -/
def all : List Switch :=
  Flag.all.map flag ++ [setting .cc, setting .backend, help, version]

/-- The name after two dashes. -/
def name : Switch → String
  | flag .lex => "lex"
  | flag .parse => "parse"
  | flag .tacky => "tacky"
  | flag .assemble => "assemble"
  | flag .codegen => "codegen"
  | flag .keepAssembly => "keep-assembly"
  | flag .verbose => "verbose"
  | setting .cc => "cc"
  | setting .backend => "backend"
  | help => "help"
  | version => "version"

/-- The letter after one dash. -/
def letter? : Switch → Option Char
  | flag .verbose => some 'v'
  | help => some 'h'
  | version => some 'V'
  | _ => none

/-- The switch as messages show it. -/
def display : Switch → String
  | setting .cc => "--cc <CC>"
  | setting .backend => "--backend <BACKEND>"
  | s => "--" ++ s.name

/-- The switch of a name: only the whole name will do, and case matters. -/
def ofName? (name : Bytes) : Option Switch := all.find? fun s => Bytes.ofString s.name = name

/-- The switch of a letter. -/
def ofLetter? (c : Char) : Option Switch := all.find? fun s => s.letter? = some c

end Switch

end CompilerDriver.CommandLine
