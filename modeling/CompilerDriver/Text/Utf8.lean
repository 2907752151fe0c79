import CompilerDriver.Bytes

/-!
# Reading bytes as text

The UTF-8 reading of a byte string, one byte at a time. A well-formed sequence gives its
character; a maximal ill-formed part (the longest start of some sequence, or else one byte that
starts none) gives a gap. A name is text when there is no gap. Messages show every gap as U+FFFD.
-/

namespace CompilerDriver.Text.Utf8

/-- Where the reading stands between two bytes: at the start of a sequence, or inside one that
wants a byte from `low` to `high` and `more` bytes after it. -/
inductive Phase where
  | start
  | inside (low high : UInt8) (more : Nat) (value : Nat)
deriving DecidableEq, Repr

/-- What a first byte opens: a whole character, a sequence, or nothing. The bounds on the second
byte keep out overlong forms, surrogates and values past U+10FFFF. -/
def opening (b : UInt8) : Option (Char ⊕ Phase) :=
  let bits := b.toNat
  if b < 0x80 then some (.inl (Char.ofNat bits))
  else if b < 0xc2 then none
  else if b < 0xe0 then some (.inr (.inside 0x80 0xbf 0 (bits % 32)))
  else if b = 0xe0 then some (.inr (.inside 0xa0 0xbf 1 (bits % 16)))
  else if b = 0xed then some (.inr (.inside 0x80 0x9f 1 (bits % 16)))
  else if b < 0xf0 then some (.inr (.inside 0x80 0xbf 1 (bits % 16)))
  else if b = 0xf0 then some (.inr (.inside 0x90 0xbf 2 (bits % 8)))
  else if b < 0xf4 then some (.inr (.inside 0x80 0xbf 2 (bits % 8)))
  else if b = 0xf4 then some (.inr (.inside 0x80 0x8f 2 (bits % 8)))
  else none

/-- One byte read at the start of a sequence: what it yields, and where the reading stands. -/
def first (b : UInt8) : List (Option Char) × Phase :=
  match opening b with
  | some (.inl c) => ([some c], .start)
  | some (.inr phase) => ([], phase)
  | none => ([none], .start)

/-- One byte read: what it yields, and where the reading stands afterwards. -/
def step : Phase → UInt8 → List (Option Char) × Phase
  | .start, b => first b
  | .inside low high more value, b =>
    if low ≤ b ∧ b ≤ high then
      let value := value * 64 + b.toNat % 64
      match more with
      | 0 => ([some (Char.ofNat value)], .start)
      | more + 1 => ([], .inside 0x80 0xbf more value)
    else
      let (yield, phase) := first b
      (none :: yield, phase)

/-- The reading from a phase on. A sequence that the end cuts short is a gap. -/
def readFrom : Phase → Bytes → List (Option Char)
  | .start, [] => []
  | .inside .., [] => [none]
  | phase, b :: s =>
    let (yield, next) := step phase b
    yield ++ readFrom next s

/-- The characters and gaps of a byte string. -/
def read (s : Bytes) : List (Option Char) := readFrom .start s

/-- The text of a byte string that is UTF-8 throughout. -/
def decode? (s : Bytes) : Option (List Char) := (read s).mapM id

/-- A byte string is text when it is UTF-8 throughout. -/
def IsText (s : Bytes) : Prop := none ∉ read s

instance (s : Bytes) : Decidable (IsText s) := inferInstanceAs (Decidable (none ∉ read s))

/-- The text that stands for a byte string in messages: U+FFFD for every gap. -/
def display (s : Bytes) : String :=
  String.ofList ((read s).map fun c => c.getD '\ufffd')

/-- The front of a byte string that is text, and the rest from the first gap on. -/
def splitAtGap (s : Bytes) : List Char × Bytes :=
  go .start s s
where
  /-- `pending` is what has been read since the last whole character. -/
  go : Phase → Bytes → Bytes → List Char × Bytes
    | .start, _, [] => ([], [])
    | .inside .., pending, [] => ([], pending)
    | phase, pending, b :: s =>
      match step phase b with
      | ([], next) => go next pending s
      | ([some c], next) =>
        let (front, back) := go next s s
        (c :: front, back)
      | _ => ([], pending)

/-- The characters of a byte string, and between them, byte by byte, what makes up its gaps.
`pending` is what has been read since the last whole character. -/
def readExactly : Phase → (pending : Bytes) → Bytes → List (Char ⊕ UInt8)
  | .start, _, [] => []
  | .inside .., pending, [] => pending.map .inr
  | phase, pending, b :: s =>
    let read := fun (whole : List (Char ⊕ UInt8)) (step : List (Option Char) × Phase) =>
      match step with
      | ([], next) => whole ++ readExactly next [b] s
      | (some c :: _, next) => whole ++ .inl c :: readExactly next [] s
      | (none :: _, next) => whole ++ .inr b :: readExactly next [] s
    match phase, step phase b with
    | .start, result => read [] result
    | .inside .., ([], next) => readExactly next (pending ++ [b]) s
    | .inside .., (some c :: _, next) => .inl c :: readExactly next [] s
    | .inside .., (none :: yield, next) => read (pending.map .inr) (yield, next)

/-- A byte string as characters and stray bytes. -/
def characters (s : Bytes) : List (Char ⊕ UInt8) := readExactly .start [] s

/-- A byte string with no byte above 0x7f reads as its bytes. -/
theorem read_ascii {s : Bytes} (h : ∀ b ∈ s, b < 0x80) :
    read s = s.map fun b => some (Char.ofNat b.toNat) := by
  unfold read
  induction s with
  | nil => rfl
  | cons b s ih =>
    have hb := h b List.mem_cons_self
    simp only [readFrom, step, first, opening, hb, if_true, List.map_cons]
    rw [ih fun c hc => h c (List.mem_cons_of_mem _ hc)]
    rfl

/-- Every maximal ill-formed part gives one gap: a surrogate gives three. -/
example : read [0x61, 0xed, 0xa0, 0x80] = [some 'a', none, none, none] := by decide

/-- A sequence cut short gives one gap, whatever follows. -/
example : read [0xe2, 0x82, 0x2e] = [none, some '.'] := by decide

example : characters [0xe2, 0x82, 0xc3, 0xa9] = [.inr 0xe2, .inr 0x82, .inl 'é'] := by decide

end CompilerDriver.Text.Utf8
