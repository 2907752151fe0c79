import CompilerDriver.Bytes

/-!
# Fields

What a word of a script comes to when it is expanded: bytes, each quoted or not, and each a place
where fields may be separated or not. Fields are found in it by bytes that separate them. A blank
separates fields however often it stands there; any other such byte ends one field each time, and
blanks around it belong to it. A quoted text is one field as it stands (`cutFields_quoted`).
-/

namespace CompilerDriver.Shell

/-- A byte of an expanded word, or something between two of them. -/
inductive Glyph where
  /-- A byte, whether it is quoted, and whether it may separate fields. -/
  | byte (b : UInt8) (quoted splits : Bool)
  /-- Quotes: there is a field, even if nothing stands between them. -/
  | quotes
  /-- The end of a field. -/
  | gap
deriving DecidableEq, Repr

namespace Glyph

/-- A text that separates no fields. -/
def ofText (quoted : Bool) (text : Bytes) : List Glyph := text.map fun b => .byte b quoted false

/-- What an expansion gives: without quotes it may be cut into fields. -/
def ofValue (quoted : Bool) (value : Bytes) : List Glyph :=
  value.map fun b => .byte b quoted (!quoted)

/-- The bytes alone. -/
def text (glyphs : List Glyph) : Bytes :=
  glyphs.filterMap fun
    | .byte b .. => some b
    | _ => none

/-- The bytes, each quoted or not. -/
def quotedText (glyphs : List Glyph) : List (UInt8 × Bool) :=
  glyphs.filterMap fun
    | .byte b quoted _ => some (b, quoted)
    | _ => none

end Glyph

/-- A field: bytes that are each quoted or not. -/
abbrev Field := List (UInt8 × Bool)

/-- The bytes of a field. -/
def Field.text (f : Field) : Bytes := f.map (·.1)

/-- A blank, as it separates fields. -/
def isGapByte (b : UInt8) : Bool := b = 0x20 || b = 0x09 || b = 0x0a

/-- Fields while they are found: those that have ended, latest first, the one at work if any, its
latest byte first, and whether blanks have just ended one. -/
structure Cutting where
  done : List Field := []
  current : Option Field := none
  afterBlank : Bool := false
deriving DecidableEq, Repr

namespace Cutting

/-- The field at work ended, if there is one. -/
def finish (c : Cutting) : Cutting :=
  match c.current with
  | some field => { done := field.reverse :: c.done }
  | none => c

/-- One more byte of the field at work. -/
def add (c : Cutting) (b : UInt8 × Bool) : Cutting :=
  { done := c.done, current := some (b :: c.current.getD []) }

/-- A byte that separates fields. -/
def separate (c : Cutting) (b : UInt8) : Cutting :=
  match c.current, isGapByte b with
  | some _, true => { c.finish with afterBlank := true }
  | none, true => c
  | some _, false => c.finish
  | none, false => if c.afterBlank then { done := c.done } else { done := [] :: c.done }

/-- One step through an expanded word. -/
def step (separators : Bytes) (c : Cutting) : Glyph → Cutting
  | .byte b quoted splits =>
    if splits && b ∈ separators then c.separate b else c.add (b, quoted)
  | .quotes => { done := c.done, current := some (c.current.getD []) }
  | .gap => c.finish

end Cutting

/-- The fields of an expanded word. -/
def cutFields (separators : Bytes) (glyphs : List Glyph) : List Field :=
  (glyphs.foldl (Cutting.step separators) {}).finish.done.reverse

private theorem foldl_step_of_whole (separators : Bytes) (c : Cutting) (f : Field)
    (h : c.current = some f) (quoted : Bool) (text : Bytes) :
    (Glyph.ofText quoted text).foldl (Cutting.step separators) c
      = { done := c.done, current := some ((text.map (·, quoted)).reverse ++ f),
          afterBlank := if text = [] then c.afterBlank else false } := by
  induction text generalizing c f with
  | nil =>
    obtain ⟨done, current, afterBlank⟩ := c
    cases h
    simp [Glyph.ofText]
  | cons b text ih =>
    simp only [Glyph.ofText, List.map_cons, List.foldl_cons]
    have := ih (c.add (b, quoted)) ((b, quoted) :: f) (by simp [Cutting.add, h])
    simp only [Glyph.ofText] at this
    simp only [Cutting.step, Bool.false_and, Bool.false_eq_true, if_false]
    rw [this]
    simp [Cutting.add]

/-- A quoted text is one field as it stands. -/
theorem cutFields_quoted (separators : Bytes) (quoted : Bool) (text : Bytes) :
    cutFields separators (.quotes :: Glyph.ofText quoted text) = [text.map (·, quoted)] := by
  simp only [cutFields, List.foldl_cons, Cutting.step]
  rw [foldl_step_of_whole separators _ [] rfl]
  simp [Cutting.finish]

/-- Blanks at both ends go, other separators count one by one. -/
example : (cutFields [0x20, 0x3a] (Glyph.ofValue false (Bytes.ofString " a : b::c "))).map Field.text
    = ["a", "b", "", "c"].map Bytes.ofString := by decide

end CompilerDriver.Shell
