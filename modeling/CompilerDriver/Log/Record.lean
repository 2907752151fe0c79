/-!
# Log records

What the driver notes down while it works: a level, the part of the driver that speaks, and a
message. Records do not influence anything; which of them are shown is decided afterwards.
-/

namespace CompilerDriver.Log

/-- How much a record matters, most first. -/
inductive Level where
  | error
  | warn
  | info
  | debug
  | trace
deriving DecidableEq, Repr

namespace Level

/-- Position, most important first. -/
def rank : Level → Nat
  | error => 1
  | warn => 2
  | info => 3
  | debug => 4
  | trace => 5

/-- The name of a level. -/
def name : Level → String
  | error => "ERROR"
  | warn => "WARN"
  | info => "INFO"
  | debug => "DEBUG"
  | trace => "TRACE"

/-- All levels, most important first. -/
def all : List Level := [error, warn, info, debug, trace]

end Level

/-- The parts of the driver that speak in the log. -/
inductive Speaker where
  | driver
  | pipeline
  | toolchain
deriving DecidableEq, Repr

/-- The target under which a part speaks. -/
def Speaker.target : Speaker → String
  | driver => "ccdriver"
  | pipeline => "ccdriver::pipeline"
  | toolchain => "ccdriver::toolchain"

/-- One entry of the log. -/
structure Record where
  level : Level
  speaker : Speaker
  message : String
deriving DecidableEq, Repr

namespace Record

/-- The record in one line of a plain list. -/
def summary (r : Record) : String := s!"{r.level.name} {r.speaker.target}: {r.message}"

/-- The spaces in front of the further lines of a message. -/
def indentation : String := "    "

/-- The record as the driver's log shows it: the level takes five columns, and the further lines
of a message are indented. -/
def render (r : Record) : String :=
  let level := r.level.name ++ String.ofList (List.replicate (5 - r.level.name.length) ' ')
  let message := ("\n" ++ indentation).intercalate (r.message.splitOn "\n")
  s!"[{level} {r.speaker.target}] {message}\n"

end Record

end CompilerDriver.Log
