import CompilerDriver.CommandLine.Reading

/-!
# Help and version

The texts that the program shows when it is asked about itself. The help names the program as it
was called and shows the values that the environment holds for the settings.
-/

namespace CompilerDriver.CommandLine

open Text.ControlSequence

/-- The program's own name. -/
def ownName : String := "ccdriver"

/-- The version text. -/
def versionText : String := ownName ++ " 0.1.0\n"

/-- The name in the usage line: the file name the program was called by, if that is text. -/
def calledName (arguments : List Bytes) : String :=
  match arguments with
  | [] => ownName
  | first :: _ =>
    match Path.fileName? ⟨first⟩ with
    | some name => if Text.Utf8.IsText name then Text.Utf8.display name else ownName
    | none => ownName

/-- The column in which the explanations start. -/
def helpColumn : Nat := 27

/-- Where a setting gets its value from when it is not given. Further lines of a value are
indented like the explanations. -/
def sources (env : Environment) (s : Setting) (otherwise : Bytes) : String :=
  let value := Text.Utf8.display ((env.get? s.variableName).getD [])
  let indented := ("\n" ++ String.ofList (List.replicate helpColumn ' ')).intercalate
    (value.splitOn "\n")
  "[env: " ++ Text.Utf8.display s.variableName ++ "=" ++ indented ++ "] [default: " ++
    Text.Utf8.display otherwise ++ "]"

/-- What a switch is for. -/
def explanation (env : Environment) : Switch → String
  | .flag .lex => "Stop after lexing the input file"
  | .flag .parse => "Stop after parsing the input file"
  | .flag .tacky => "Stop after generating the intermediate representation"
  | .flag .assemble => "Stop after emitting textual assembly"
  | .flag .codegen => "Stop after code generation, before linking"
  | .flag .keepAssembly => "Keep the `.s` file after a successful build"
  | .flag .verbose => "Log every tool invocation"
  | .setting .cc =>
    "Program used to preprocess and to assemble/link " ++ sources env .cc ({} : Programs).cc
  | .setting .backend =>
    "Compiler backend binary " ++ sources env .backend ({} : Programs).backend
  | .help => "Print help"
  | .version => "Print version"

/-- The line of a switch: its letter, its name, the name of its value and what it is for. -/
def switchLine (env : Environment) (s : Switch) : String :=
  let letter := match s.letter? with
    | some c => "  " ++ emphasized ("-" ++ c.toString) ++ ", "
    | none => "      "
  let name := "--" ++ s.name
  let rest := (s.display.drop name.length).toString
  let gap := String.ofList (List.replicate (helpColumn - 6 - s.display.length) ' ')
  letter ++ emphasized name ++ rest ++ gap ++ explanation env s ++ "\n"

/-- The help text. -/
def helpText (arguments : List Bytes) (env : Environment) : String :=
  emphasized "Usage:" ++ " " ++ emphasized (calledName arguments) ++ " [OPTIONS] <FILE>\n" ++
  "\n" ++
  emphasized "Arguments:" ++ "\n" ++
  "  <FILE>  Input source file (`name.ext`)\n" ++
  "\n" ++
  emphasized "Options:" ++ "\n" ++
  String.join (Switch.all.map (switchLine env))

/-- What an ending says on a terminal: the help or version text, or the account of an error. -/
def endingText (arguments : List Bytes) (env : Environment) : Ending → String
  | .help => helpText arguments env
  | .version => versionText
  | .wrong error => error.account

/-- What an ending says where there is no terminal: all of the help or version text, and the first
line of the account of an error. -/
def endingShown (arguments : List Bytes) (env : Environment) : Ending → String
  | .wrong error => error.message
  | ending => Text.Utf8.display (stripText (Bytes.ofString (endingText arguments env ending)))

end CompilerDriver.CommandLine
