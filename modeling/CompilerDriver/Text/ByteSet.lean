import CompilerDriver.Bytes

/-!
# Sets of bytes

The sets that patterns and regular expressions speak of: ranges of bytes, classes of bytes that have
a name, and what is outside of these.
-/

namespace CompilerDriver.Text

/-- A set of bytes: some ranges, or all bytes outside them. -/
structure ByteSet where
  ranges : List (UInt8 × UInt8)
  negated : Bool := false
deriving DecidableEq, Repr

namespace ByteSet

/-- The set of one byte. -/
def single (b : UInt8) : ByteSet := { ranges := [(b, b)] }

/-- The set of all bytes. -/
def all : ByteSet := { ranges := [], negated := true }

/-- The bytes that words are made of. -/
def word : ByteSet := { ranges := [(0x30, 0x39), (0x41, 0x5a), (0x5f, 0x5f), (0x61, 0x7a)] }

/-- Blanks, line ends and the like. -/
def space : ByteSet := { ranges := [(0x09, 0x0d), (0x20, 0x20)] }

/-- The classes of bytes that have a name. -/
def classes : List (String × List (UInt8 × UInt8)) :=
  [("alpha", [(0x41, 0x5a), (0x61, 0x7a)]), ("digit", [(0x30, 0x39)]),
    ("alnum", [(0x30, 0x39), (0x41, 0x5a), (0x61, 0x7a)]), ("upper", [(0x41, 0x5a)]),
    ("lower", [(0x61, 0x7a)]), ("space", [(0x09, 0x0d), (0x20, 0x20)]),
    ("blank", [(0x09, 0x09), (0x20, 0x20)]),
    ("punct", [(0x21, 0x2f), (0x3a, 0x40), (0x5b, 0x60), (0x7b, 0x7e)]), ("print", [(0x20, 0x7e)]),
    ("graph", [(0x21, 0x7e)]), ("cntrl", [(0x00, 0x1f), (0x7f, 0x7f)]),
    ("xdigit", [(0x30, 0x39), (0x41, 0x46), (0x61, 0x66)])]

/-- The ranges of the class of a name. -/
def class? (name : Bytes) : Option (List (UInt8 × UInt8)) :=
  (classes.find? fun c => Bytes.ofString c.1 = name).map (·.2)

/-- The opposite set. -/
def opposite (s : ByteSet) : ByteSet := { s with negated := !s.negated }

/-- Whether a byte is in one of the ranges. -/
def isInRange (s : ByteSet) (b : UInt8) : Bool := s.ranges.any fun r => r.1 ≤ b && b ≤ r.2

theorem isInRange_iff {s : ByteSet} {b : UInt8} :
    s.isInRange b ↔ ∃ r ∈ s.ranges, r.1 ≤ b ∧ b ≤ r.2 := by
  simp [isInRange]

/-- Whether a byte is in the set; with `anyCase` it counts like its other case. -/
def holds (s : ByteSet) (anyCase : Bool) (b : UInt8) : Bool :=
  (s.isInRange b || anyCase && (s.isInRange (Bytes.upper b) || s.isInRange (Bytes.lower b)))
    != s.negated

theorem holds_opposite (s : ByteSet) (anyCase : Bool) (b : UInt8) :
    s.opposite.holds anyCase b = !s.holds anyCase b := by
  simp only [holds, opposite, isInRange]
  cases s.negated <;> simp

end ByteSet

end CompilerDriver.Text
