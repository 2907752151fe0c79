import CompilerDriver.Bytes

/-!
# Control sequences of terminals

A terminal takes some bytes as orders and does not show them: control bytes, and sequences that an
escape byte opens. Where the output is no terminal they are taken off. `strip` reads a text byte by
byte as a terminal would and keeps what it would show, with the blanks that move the cursor on. A
text of plain ASCII is kept as it is: `strip_plain`.
-/

namespace CompilerDriver.Text.ControlSequence

/-- Where a terminal stands between two bytes. -/
inductive Phase where
  /-- Outside all sequences. -/
  | ground
  /-- After the escape byte. -/
  | escape
  | escapeIntermediate
  /-- Inside a sequence with parameters, which its first letter ends. -/
  | parameters
  /-- After the opening of a device string, whose text starts with its first letter. -/
  | deviceEntry
  | deviceParameter
  | deviceIntermediate
  /-- Inside a text that is not shown and that the string terminator ends. -/
  | hiddenText
  /-- Inside a command of the operating system, which the bell ends. -/
  | systemCommand
deriving DecidableEq, Repr

/-- The byte that opens a sequence. -/
def escapeByte : UInt8 := 0x1b

/-- The byte that ends a hidden text. -/
def terminator : UInt8 := 0x9c

/-- The byte that ends a command of the operating system. -/
def bell : UInt8 := 0x07

def isBetween (low high b : UInt8) : Bool := low ≤ b && b ≤ high

/-- The bytes that stand in front of the last one of a sequence. -/
def isIntermediate (b : UInt8) : Bool := isBetween 0x20 0x2f b

/-- Digits and what separates them. -/
def isParameter (b : UInt8) : Bool := isBetween 0x30 0x3b b

/-- Marks of a private string. Only the first byte of the parameters may be one. -/
def isPrivate (b : UInt8) : Bool := isBetween 0x3c 0x3f b

/-- Letters and the like, which end a sequence. -/
def isFinal (b : UInt8) : Bool := isBetween 0x40 0x7e b

namespace Phase

/-- The phase that the byte after an escape byte leads to. -/
def opened (b : UInt8) : Phase :=
  if isIntermediate b then escapeIntermediate
  else if b = 0x5b then parameters
  else if b = 0x5d then systemCommand
  else if b = 0x50 then deviceEntry
  else if b = 0x58 || b = 0x5e || b = 0x5f then hiddenText
  else if isBetween 0x30 0x7e b then ground
  else escape

/-- The phase after one more byte. An escape byte opens a sequence wherever it stands, and two
control bytes cancel one. -/
def advance (phase : Phase) (b : UInt8) : Phase :=
  if b = escapeByte then escape
  else if b = 0x18 || b = 0x1a then ground
  else match phase with
    | ground => ground
    | escape => opened b
    | escapeIntermediate => if isBetween 0x30 0x7e b then ground else escapeIntermediate
    | parameters => if isFinal b then ground else parameters
    | deviceEntry =>
      if isIntermediate b then deviceIntermediate
      else if isParameter b || isPrivate b then deviceParameter
      else if isFinal b then hiddenText
      else deviceEntry
    | deviceParameter =>
      if isIntermediate b then deviceIntermediate
      else if isPrivate b || isFinal b then hiddenText
      else deviceParameter
    | deviceIntermediate =>
      if isParameter b || isPrivate b || isFinal b then hiddenText else deviceIntermediate
    | hiddenText => if b = terminator then ground else hiddenText
    | systemCommand => if b = bell then ground else systemCommand

/-- Whether control bytes are obeyed here. They are, also inside the sequences that carry no
text. -/
def obeys : Phase → Bool
  | deviceEntry | deviceParameter | deviceIntermediate | hiddenText | systemCommand => false
  | _ => true

end Phase

/-- Control bytes that move the cursor on: tabulator, line end, form feed and carriage return. -/
def isBlankControl (b : UInt8) : Bool := b = 0x09 || b = 0x0a || b = 0x0c || b = 0x0d

/-- The first byte of a character outside ASCII. -/
def isOpening (b : UInt8) : Bool := isBetween 0xc2 0xf4 b

/-- A further byte of a character outside ASCII. -/
def isContinuation (b : UInt8) : Bool := isBetween 0x80 0xbf b

/-- Whether a byte is kept at the start of some shown text. -/
def isKept (phase : Phase) (b : UInt8) : Bool :=
  (phase.obeys && isBlankControl b) ||
    (phase = .ground && (isBetween 0x20 0x7e b || isOpening b))

/-- What a terminal shows of a text, from a phase on. `showing` tells that the byte before was
shown: then the text goes on, even where a blank has interrupted a sequence. Such a sequence is over
when the text ends, unless it `resumes`. -/
def strip (resumes : Bool) : (phase : Phase) → (showing : Bool) → Bytes → Bytes
  | _, _, [] => []
  | phase, showing, b :: rest =>
    if showing && (isKept .ground b || isContinuation b) then
      b :: strip resumes (if isOpening b then .ground else phase) true rest
    else if isKept phase b then
      b :: strip resumes (if resumes then phase.advance b else .ground) true rest
    else strip resumes (phase.advance b) false rest

/-- What is shown of a text that is at hand as a whole. -/
def stripText (s : Bytes) : Bytes := strip false .ground false s

/-- What is shown of a text that is written to a stream. -/
def stripWritten (s : Bytes) : Bytes := strip true .ground false s

/-- The sequence that puts an end to all emphasis. -/
def plain : String := "\x1b[0m"

/-- A text with emphasis. The sequence after it also ends whatever sequence the text leaves open. -/
def emphasized (s : String) : String := "\x1b[1m" ++ s ++ plain

/-- Nothing is taken off a text of plain ASCII. -/
theorem strip_plain {s : Bytes} (h : ∀ b ∈ s, isBetween 0x20 0x7e b) (resumes showing : Bool) :
    strip resumes .ground showing s = s := by
  induction s generalizing showing with
  | nil => rfl
  | cons b s ih =>
    have hb : isBetween 0x20 0x7e b = true := h b List.mem_cons_self
    have rest := ih fun c hc => h c (List.mem_cons_of_mem _ hc)
    have kept : isKept .ground b = true := by simp [isKept, hb]
    have still : Phase.ground.advance b = .ground := by
      have : b ≠ escapeByte := by
        rintro rfl
        exact absurd hb (by decide)
      simp [Phase.advance, this]
    cases showing <;> cases resumes <;> simp [strip, kept, still, rest]

/-- Emphasis leaves no trace. -/
example : stripText (Bytes.ofString (emphasized "ab")) = Bytes.ofString "ab" := by decide

end CompilerDriver.Text.ControlSequence
