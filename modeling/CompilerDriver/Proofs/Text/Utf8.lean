import CompilerDriver.Text.Utf8

/-!
# Byte strings that are text

* `Spelled` — the bytes that stand for a character, by the number of the character: one, two, three
  or four of them. `encode_eq_iff` says that these are the bytes that the encoding makes.
* `Spelled.readFrom` — the bytes of a character are read as this character, whatever follows.
* `exists_spelled` — what is read without a gap starts with the bytes of a character.
* `isText_iff` — **a byte string is text exactly if it is the bytes of some text**. So the reading
  byte by byte accepts what the encoding makes, and nothing else.
* `mem_encode_iff` — a byte of ASCII stands among the bytes of its own character only.
-/

namespace CompilerDriver.Text.Utf8

open String (utf8EncodeChar)

/-! ## Numbers of characters and bytes -/

theorem exists_char {n : Nat} (valid : n < 0xd800 ∨ 0xdfff < n ∧ n < 0x110000) :
    ∃ c : Char, c.val.toNat = n := by
  have valid : n.isValidChar := valid
  refine ⟨Char.ofNat n, ?_⟩
  rw [Char.ofNat, dif_pos valid]
  rfl

theorem ofNat_eq_of_toNat {n : Nat} {c : Char} (same : n = c.val.toNat) : Char.ofNat n = c := by
  rw [same]
  exact Char.ofNat_toNat c

/-- The numbers of characters: no surrogates, and none past the last. -/
theorem number_of_char (c : Char) :
    c.val.toNat < 0xd800 ∨ 0xdfff < c.val.toNat ∧ c.val.toNat < 0x110000 := c.valid

theorem exists_byte {n : Nat} (small : n < 256) : ∃ b : UInt8, b.toNat = n := by
  refine ⟨UInt8.ofNat n, ?_⟩
  rw [UInt8.toNat_ofNat', Nat.mod_eq_of_lt small]

theorem ofNat_eq_iff {n : Nat} {b : UInt8} : UInt8.ofNat n = b ↔ n % 256 = b.toNat := by
  rw [← UInt8.toNat_inj, UInt8.toNat_ofNat']

/-! ## The bytes of a character -/

/-- The bytes that stand for a character, by its number. -/
inductive Spelled (c : Char) : Bytes → Prop where
  | one {b₁ : UInt8} (small : c.val.toNat < 0x80) (first : b₁.toNat = c.val.toNat) : Spelled c [b₁]
  | two {b₁ b₂ : UInt8} (more : 0x80 ≤ c.val.toNat) (small : c.val.toNat < 0x800)
      (first : b₁.toNat = c.val.toNat / 64 + 192) (second : b₂.toNat = c.val.toNat % 64 + 128) :
      Spelled c [b₁, b₂]
  | three {b₁ b₂ b₃ : UInt8} (more : 0x800 ≤ c.val.toNat) (small : c.val.toNat < 0x10000)
      (first : b₁.toNat = c.val.toNat / 4096 + 224)
      (second : b₂.toNat = c.val.toNat / 64 % 64 + 128)
      (third : b₃.toNat = c.val.toNat % 64 + 128) : Spelled c [b₁, b₂, b₃]
  | four {b₁ b₂ b₃ b₄ : UInt8} (more : 0x10000 ≤ c.val.toNat)
      (first : b₁.toNat = c.val.toNat / 262144 + 240)
      (second : b₂.toNat = c.val.toNat / 4096 % 64 + 128)
      (third : b₃.toNat = c.val.toNat / 64 % 64 + 128)
      (fourth : b₄.toNat = c.val.toNat % 64 + 128) : Spelled c [b₁, b₂, b₃, b₄]

/-- These are the bytes that the encoding makes. -/
theorem Spelled.encode_eq {c : Char} {s : Bytes} (spelled : Spelled c s) : utf8EncodeChar c = s := by
  have valid := number_of_char c
  simp only [utf8EncodeChar]
  cases spelled with
  | one small first =>
    rw [if_pos (by omega)]
    simp only [List.cons.injEq, ofNat_eq_iff, and_true]
    omega
  | two more small first second =>
    rw [if_neg (by omega), if_pos (by omega)]
    simp only [List.cons.injEq, ofNat_eq_iff, and_true]
    omega
  | three more small first second third =>
    rw [if_neg (by omega), if_neg (by omega), if_pos (by omega)]
    simp only [List.cons.injEq, ofNat_eq_iff, and_true]
    omega
  | four more first second third fourth =>
    rw [if_neg (by omega), if_neg (by omega), if_neg (by omega)]
    simp only [List.cons.injEq, ofNat_eq_iff, and_true]
    omega

/-- Every character is spelled by some bytes. -/
theorem exists_spelled_of_char (c : Char) : ∃ s, Spelled c s := by
  have valid := number_of_char c
  rcases Nat.lt_or_ge c.val.toNat 0x80 with small | more
  · obtain ⟨b₁, first⟩ := exists_byte (n := c.val.toNat) (by omega)
    exact ⟨_, .one small first⟩
  rcases Nat.lt_or_ge c.val.toNat 0x800 with small | more
  · obtain ⟨b₁, first⟩ := exists_byte (n := c.val.toNat / 64 + 192) (by omega)
    obtain ⟨b₂, second⟩ := exists_byte (n := c.val.toNat % 64 + 128) (by omega)
    exact ⟨_, .two more small first second⟩
  rcases Nat.lt_or_ge c.val.toNat 0x10000 with small | more
  · obtain ⟨b₁, first⟩ := exists_byte (n := c.val.toNat / 4096 + 224) (by omega)
    obtain ⟨b₂, second⟩ := exists_byte (n := c.val.toNat / 64 % 64 + 128) (by omega)
    obtain ⟨b₃, third⟩ := exists_byte (n := c.val.toNat % 64 + 128) (by omega)
    exact ⟨_, .three more small first second third⟩
  · obtain ⟨b₁, first⟩ := exists_byte (n := c.val.toNat / 262144 + 240) (by omega)
    obtain ⟨b₂, second⟩ := exists_byte (n := c.val.toNat / 4096 % 64 + 128) (by omega)
    obtain ⟨b₃, third⟩ := exists_byte (n := c.val.toNat / 64 % 64 + 128) (by omega)
    obtain ⟨b₄, fourth⟩ := exists_byte (n := c.val.toNat % 64 + 128) (by omega)
    exact ⟨_, .four more first second third fourth⟩

/-- **A character is spelled by the bytes that the encoding makes of it**, and by no others. -/
theorem encode_eq_iff {c : Char} {s : Bytes} : utf8EncodeChar c = s ↔ Spelled c s := by
  constructor
  · rintro rfl
    obtain ⟨s, spelled⟩ := exists_spelled_of_char c
    rwa [spelled.encode_eq]
  · exact Spelled.encode_eq

theorem Spelled.length_pos {c : Char} {s : Bytes} (spelled : Spelled c s) : 0 < s.length := by
  cases spelled <;> simp

/-- **A byte of ASCII stands among the bytes of its own character only**, and there alone. -/
theorem mem_encode_iff {c : Char} {b : UInt8} (ascii : b.toNat < 0x80) :
    b ∈ utf8EncodeChar c ↔ c.val.toNat = b.toNat := by
  obtain ⟨s, spelled⟩ := exists_spelled_of_char c
  rw [spelled.encode_eq]
  cases spelled <;> simp only [List.mem_cons, List.not_mem_nil, or_false, ← UInt8.toNat_inj] <;>
    omega

/-! ## What a first byte opens -/

/-- What a first byte opens, by its number. -/
theorem opening_eq (b : UInt8) :
    opening b =
      if b.toNat < 128 then some (.inl (Char.ofNat b.toNat))
      else if b.toNat < 194 then none
      else if b.toNat < 224 then some (.inr (.inside 0x80 0xbf 0 (b.toNat % 32)))
      else if b.toNat = 224 then some (.inr (.inside 0xa0 0xbf 1 (b.toNat % 16)))
      else if b.toNat = 237 then some (.inr (.inside 0x80 0x9f 1 (b.toNat % 16)))
      else if b.toNat < 240 then some (.inr (.inside 0x80 0xbf 1 (b.toNat % 16)))
      else if b.toNat = 240 then some (.inr (.inside 0x90 0xbf 2 (b.toNat % 8)))
      else if b.toNat < 244 then some (.inr (.inside 0x80 0xbf 2 (b.toNat % 8)))
      else if b.toNat = 244 then some (.inr (.inside 0x80 0x8f 2 (b.toNat % 8)))
      else none := by
  simp only [opening, UInt8.lt_iff_toNat_lt, ← UInt8.toNat_inj, UInt8.reduceToNat]

theorem opening_one {b : UInt8} (small : b.toNat < 128) :
    opening b = some (.inl (Char.ofNat b.toNat)) := by
  rw [opening_eq, if_pos small]

theorem opening_two {b : UInt8} (low : 194 ≤ b.toNat) (high : b.toNat < 224) :
    opening b = some (.inr (.inside 0x80 0xbf 0 (b.toNat % 32))) := by
  rw [opening_eq, if_neg (by omega), if_neg (by omega), if_pos high]

/-- After the first of three bytes, the bounds on the second keep out what two bytes can hold and
the surrogates. -/
theorem opening_three {b : UInt8} (low : 224 ≤ b.toNat) (high : b.toNat < 240) :
    ∃ lower upper, opening b = some (.inr (.inside lower upper 1 (b.toNat % 16))) ∧
      ∀ second : UInt8, lower ≤ second ∧ second ≤ upper ↔
        128 ≤ second.toNat ∧ second.toNat < 192 ∧
          32 ≤ b.toNat % 16 * 64 + second.toNat % 64 ∧
          ¬ (864 ≤ b.toNat % 16 * 64 + second.toNat % 64 ∧
            b.toNat % 16 * 64 + second.toNat % 64 < 896) := by
  rw [opening_eq, if_neg (by omega), if_neg (by omega), if_neg (by omega)]
  split
  · refine ⟨_, _, rfl, fun second => ?_⟩
    simp only [UInt8.le_iff_toNat_le, UInt8.reduceToNat]
    omega
  · split
    · refine ⟨_, _, rfl, fun second => ?_⟩
      simp only [UInt8.le_iff_toNat_le, UInt8.reduceToNat]
      omega
    · refine ⟨_, _, rfl, fun second => ?_⟩
      simp only [UInt8.le_iff_toNat_le, UInt8.reduceToNat]
      omega

/-- After the first of four bytes, the bounds on the second keep out what three bytes can hold and
what is too large. -/
theorem opening_four {b : UInt8} (low : 240 ≤ b.toNat) (high : b.toNat < 245) :
    ∃ lower upper, opening b = some (.inr (.inside lower upper 2 (b.toNat % 8))) ∧
      ∀ second : UInt8, lower ≤ second ∧ second ≤ upper ↔
        128 ≤ second.toNat ∧ second.toNat < 192 ∧
          16 ≤ b.toNat % 8 * 64 + second.toNat % 64 ∧
          b.toNat % 8 * 64 + second.toNat % 64 < 272 := by
  rw [opening_eq, if_neg (by omega), if_neg (by omega), if_neg (by omega), if_neg (by omega),
    if_neg (by omega), if_neg (by omega)]
  split
  · refine ⟨_, _, rfl, fun second => ?_⟩
    simp only [UInt8.le_iff_toNat_le, UInt8.reduceToNat]
    omega
  · split
    · refine ⟨_, _, rfl, fun second => ?_⟩
      simp only [UInt8.le_iff_toNat_le, UInt8.reduceToNat]
      omega
    · rw [if_pos (by omega)]
      refine ⟨_, _, rfl, fun second => ?_⟩
      simp only [UInt8.le_iff_toNat_le, UInt8.reduceToNat]
      omega

/-! ## What follows a first byte -/

section sequence

variable {low high b : UInt8} {more value : Nat} {s : Bytes}

theorem readFrom_char {c : Char} (opens : opening b = some (.inl c)) :
    readFrom .start (b :: s) = some c :: readFrom .start s := by
  simp [readFrom, step, first, opens]

theorem readFrom_open {phase : Phase} (opens : opening b = some (.inr phase)) :
    readFrom .start (b :: s) = readFrom phase s := by
  simp [readFrom, step, first, opens]

theorem readFrom_stray (opens : opening b = none) :
    readFrom .start (b :: s) = none :: readFrom .start s := by
  simp [readFrom, step, first, opens]

/-- The last byte of a sequence gives its character. -/
theorem readFrom_last (above : low ≤ b) (below : b ≤ high) :
    readFrom (.inside low high 0 value) (b :: s) =
      some (Char.ofNat (value * 64 + b.toNat % 64)) :: readFrom .start s := by
  simp [readFrom, step, above, below]

/-- A byte inside a sequence adds to its value. -/
theorem readFrom_next (above : low ≤ b) (below : b ≤ high) :
    readFrom (.inside low high (more + 1) value) (b :: s) =
      readFrom (.inside 0x80 0xbf more (value * 64 + b.toNat % 64)) s := by
  simp [readFrom, step, above, below]

/-- Inside a sequence a byte within the bounds comes next, if there is no gap. -/
theorem exists_of_inside (whole : none ∉ readFrom (.inside low high more value) s) :
    ∃ b rest, s = b :: rest ∧ low ≤ b ∧ b ≤ high := by
  cases s with
  | nil => simp [readFrom] at whole
  | cons b rest =>
    refine ⟨b, rest, rfl, ?_⟩
    by_cases within : low ≤ b ∧ b ≤ high
    · exact within
    · simp [readFrom, step, within] at whole

/-- After the second byte, any byte that goes on will do. -/
theorem goes_on_iff (b : UInt8) : (0x80 : UInt8) ≤ b ∧ b ≤ 0xbf ↔ 128 ≤ b.toNat ∧ b.toNat < 192 := by
  simp only [UInt8.le_iff_toNat_le, UInt8.reduceToNat]
  omega

end sequence

/-! ## Reading the bytes of a character -/

/-- **The bytes of a character are read as this character**, whatever follows. -/
theorem Spelled.readFrom {c : Char} {s : Bytes} (spelled : Spelled c s) (rest : Bytes) :
    readFrom .start (s ++ rest) = some c :: readFrom .start rest := by
  have valid := number_of_char c
  cases spelled with
  | @one b₁ small first =>
    have opens := opening_one (b := b₁) (by omega)
    rw [ofNat_eq_of_toNat first] at opens
    exact readFrom_char opens
  | @two b₁ b₂ more small first second =>
    have opens := opening_two (b := b₁) (by omega) (by omega)
    have last := (goes_on_iff b₂).2 (by omega)
    simp only [List.cons_append, List.nil_append]
    rw [readFrom_open opens, readFrom_last last.1 last.2, ofNat_eq_of_toNat (c := c) (by omega)]
  | @three b₁ b₂ b₃ more small first second third =>
    obtain ⟨lower, upper, opens, bounds⟩ := opening_three (b := b₁) (by omega) (by omega)
    have next := (bounds b₂).2 (by omega)
    have last := (goes_on_iff b₃).2 (by omega)
    simp only [List.cons_append, List.nil_append]
    rw [readFrom_open opens, readFrom_next next.1 next.2, readFrom_last last.1 last.2,
      ofNat_eq_of_toNat (c := c) (by omega)]
  | @four b₁ b₂ b₃ b₄ more first second third fourth =>
    obtain ⟨lower, upper, opens, bounds⟩ := opening_four (b := b₁) (by omega) (by omega)
    have next := (bounds b₂).2 (by omega)
    have next' := (goes_on_iff b₃).2 (by omega)
    have last := (goes_on_iff b₄).2 (by omega)
    simp only [List.cons_append, List.nil_append]
    rw [readFrom_open opens, readFrom_next next.1 next.2, readFrom_next next'.1 next'.2,
      readFrom_last last.1 last.2, ofNat_eq_of_toNat (c := c) (by omega)]

/-! ## What is read without a gap -/

/-- A byte that is read without a gap opens something. -/
theorem opening_of_whole {b : UInt8} {s : Bytes} (whole : none ∉ readFrom .start (b :: s)) :
    b.toNat < 128 ∨ 194 ≤ b.toNat ∧ b.toNat < 245 := by
  have opened : opening b ≠ none := by
    intro opens
    rw [readFrom_stray opens] at whole
    exact whole List.mem_cons_self
  rw [opening_eq] at opened
  grind

/-- **What is read without a gap starts with the bytes of a character**. -/
theorem exists_spelled {b₁ : UInt8} {s : Bytes} (whole : none ∉ readFrom .start (b₁ :: s)) :
    ∃ c front rest, Spelled c front ∧ b₁ :: s = front ++ rest := by
  have small : b₁.toNat < 256 := b₁.toNat_lt
  rcases opening_of_whole whole with one | ⟨low, high⟩
  · obtain ⟨c, number⟩ := exists_char (n := b₁.toNat) (by omega)
    exact ⟨c, [b₁], s, .one (by omega) number.symm, rfl⟩
  rcases Nat.lt_or_ge b₁.toNat 224 with two | more
  · rw [readFrom_open (opening_two low two)] at whole
    obtain ⟨b₂, s, rfl, last⟩ := exists_of_inside whole
    have second := (goes_on_iff b₂).1 last
    obtain ⟨c, number⟩ := exists_char (n := b₁.toNat % 32 * 64 + b₂.toNat % 64) (by omega)
    exact ⟨c, [b₁, b₂], s, .two (by omega) (by omega) (by omega) (by omega), rfl⟩
  rcases Nat.lt_or_ge b₁.toNat 240 with three | more
  · obtain ⟨lower, upper, opens, bounds⟩ := opening_three more three
    rw [readFrom_open opens] at whole
    obtain ⟨b₂, s, rfl, next⟩ := exists_of_inside whole
    rw [readFrom_next next.1 next.2] at whole
    obtain ⟨b₃, s, rfl, last⟩ := exists_of_inside whole
    have second := (bounds b₂).1 next
    have third := (goes_on_iff b₃).1 last
    obtain ⟨c, number⟩ := exists_char
      (n := (b₁.toNat % 16 * 64 + b₂.toNat % 64) * 64 + b₃.toNat % 64) (by omega)
    exact ⟨c, [b₁, b₂, b₃], s, .three (by omega) (by omega) (by omega) (by omega) (by omega), rfl⟩
  · obtain ⟨lower, upper, opens, bounds⟩ := opening_four more high
    rw [readFrom_open opens] at whole
    obtain ⟨b₂, s, rfl, next⟩ := exists_of_inside whole
    rw [readFrom_next next.1 next.2] at whole
    obtain ⟨b₃, s, rfl, next'⟩ := exists_of_inside whole
    rw [readFrom_next next'.1 next'.2] at whole
    obtain ⟨b₄, s, rfl, last⟩ := exists_of_inside whole
    have second := (bounds b₂).1 next
    have third := (goes_on_iff b₃).1 next'
    have fourth := (goes_on_iff b₄).1 last
    obtain ⟨c, number⟩ := exists_char
      (n := ((b₁.toNat % 8 * 64 + b₂.toNat % 64) * 64 + b₃.toNat % 64) * 64 + b₄.toNat % 64)
      (by omega)
    exact ⟨c, [b₁, b₂, b₃, b₄], s, .four (by omega) (by omega) (by omega) (by omega) (by omega), rfl⟩

/-! ## Text -/

/-- The bytes of a text are those of its characters. -/
theorem ofString_ofList (cs : List Char) :
    Bytes.ofString (String.ofList cs) = cs.flatMap utf8EncodeChar := by
  rw [Bytes.ofString, String.toUTF8, String.toByteArray_ofList, List.utf8Encode,
    List.data_toByteArray, List.toList_toArray]

/-- The bytes of some characters are read as these characters. -/
theorem read_flatMap (cs : List Char) : read (cs.flatMap utf8EncodeChar) = cs.map some := by
  rw [read]
  induction cs with
  | nil => rfl
  | cons c cs ih =>
    have spelled : Spelled c (utf8EncodeChar c) := encode_eq_iff.1 rfl
    rw [List.flatMap_cons, spelled.readFrom, ih, List.map_cons]

/-- What is read without a gap is the bytes of some characters. -/
theorem exists_flatMap (s : Bytes) (whole : none ∉ readFrom .start s) :
    ∃ cs : List Char, s = cs.flatMap utf8EncodeChar := by
  match s with
  | [] => exact ⟨[], rfl⟩
  | b :: s =>
    obtain ⟨c, front, rest, spelled, split⟩ := exists_spelled whole
    rw [split, spelled.readFrom] at whole
    have shorter : rest.length < (b :: s).length := by
      rw [split, List.length_append]
      have := spelled.length_pos
      omega
    obtain ⟨cs, rfl⟩ := exists_flatMap rest fun gap => whole (List.mem_cons_of_mem _ gap)
    exact ⟨c :: cs, by rw [split, List.flatMap_cons, spelled.encode_eq]⟩
termination_by s.length
decreasing_by exact shorter

/-- **A byte string is text exactly if it is the bytes of some text.** -/
theorem isText_iff {s : Bytes} : IsText s ↔ ∃ text : String, Bytes.ofString text = s := by
  constructor
  · intro whole
    obtain ⟨cs, rfl⟩ := exists_flatMap s whole
    exact ⟨String.ofList cs, ofString_ofList cs⟩
  · rintro ⟨text, rfl⟩
    rw [← String.ofList_toList (s := text), ofString_ofList, IsText, read_flatMap]
    simp

end CompilerDriver.Text.Utf8
