import CompilerDriver.Status

/-!
# What a wait report stands for

* `Exited`, `Killed` — what the operating system says of a process in the bits of a report. The low
  seven are zeros after an exit, whose code is the second byte; any other number but seven ones is
  that of the signal that killed the process.
* `Stands` — the number that a report stands for. `stands_iff` — **it is the number that the report
  is converted to**, so every report stands for one number, and this fits into a byte.
* `Status.toNat_ofNumber`, `Status.toInt_ofNumber` — a number of that size is a code, read without a
  sign or with one: nothing overflows on the way.
-/

namespace CompilerDriver

/-- A word that is small without a sign is the same with one. -/
theorem toInt_of_lt {x : Int32} (small : x.toUInt32.toNat < 2147483648) :
    x.toInt = x.toUInt32.toNat := by
  rw [← Int32.toInt_toBitVec, BitVec.toInt_eq_toNat_of_lt, Int32.toNat_toBitVec]
  rw [Int32.toNat_toBitVec]
  omega

/-- Words are equal if they are so as numbers without a sign. -/
theorem word_inj {x y : Int32} : x = y ↔ x.toUInt32.toNat = y.toUInt32.toNat := by
  rw [← Int32.toNat_toBitVec, ← Int32.toNat_toBitVec, BitVec.toNat_inj, Int32.toBitVec_inj]

/-- The sign that a shift by a byte draws in does not get as far as the lowest byte. -/
theorem toNat_sshiftRight_byte (x : BitVec 32) :
    (x.sshiftRight 8).toNat % 256 = x.toNat / 256 % 256 := by
  have whole : x.toNat < 2 ^ 32 := x.isLt
  cases negative : x.msb with
  | true =>
    rw [BitVec.sshiftRight_eq_of_msb_true negative, BitVec.toNat_not, BitVec.toNat_ushiftRight,
      BitVec.toNat_not, Nat.shiftRight_eq_div_pow]
    omega
  | false =>
    rw [BitVec.sshiftRight_eq_of_msb_false negative, BitVec.toNat_ushiftRight,
      Nat.shiftRight_eq_div_pow]

namespace WaitReport

variable {r : WaitReport}

/-- The seven bits that tell an exit from a signal. -/
def low (r : WaitReport) : Int32 := r.raw &&& 0x7f

/-- The eight bits that hold an exit code. -/
def high (r : WaitReport) : Int32 := (r.raw >>> 8) &&& 0xff

/-- The process exited with a code. -/
def Exited (r : WaitReport) (code : Nat) : Prop := r.low = 0 ∧ r.high.toInt = code

/-- A signal killed the process. -/
def Killed (r : WaitReport) (signal : Nat) : Prop :=
  r.low ≠ 0 ∧ r.low ≠ 0x7f ∧ r.low.toInt = signal

/-- The number that a report stands for. -/
inductive Stands (r : WaitReport) : Nat → Prop where
  /-- An exit stands for its code. -/
  | exited {code : Nat} (exits : r.Exited code) : Stands r code
  /-- A signal stands for 128 more than its number. -/
  | killed {signal : Nat} (kills : r.Killed signal) : Stands r (128 + signal)
  /-- What is neither stands for 1. -/
  | neither (ones : r.low = 0x7f) : Stands r 1

/-! ## The bits as numbers -/

theorem toNat_low (r : WaitReport) : r.low.toUInt32.toNat = r.word % 128 := by
  rw [low, Int32.toUInt32_and, UInt32.toNat_and]
  exact Nat.and_two_pow_sub_one_eq_mod _ 7

theorem toNat_high (r : WaitReport) : r.high.toUInt32.toNat = r.word / 256 % 256 := by
  have shifted : (r.raw >>> 8).toBitVec = r.raw.toBitVec.sshiftRight 8 := by
    rw [Int32.toBitVec_shiftRight]
    rfl
  have masked : r.high.toUInt32.toNat = (r.raw.toBitVec.sshiftRight 8).toNat % 256 := by
    rw [← shifted, Int32.toNat_toBitVec, high, Int32.toUInt32_and, UInt32.toNat_and]
    exact Nat.and_two_pow_sub_one_eq_mod _ 8
  rw [masked, toNat_sshiftRight_byte, Int32.toNat_toBitVec, word]

theorem toInt_low (r : WaitReport) : r.low.toInt = (r.word % 128 : Nat) := by
  rw [toInt_of_lt, toNat_low]
  rw [toNat_low]
  omega

theorem toInt_high (r : WaitReport) : r.high.toInt = (r.word / 256 % 256 : Nat) := by
  rw [toInt_of_lt, toNat_high]
  rw [toNat_high]
  omega

theorem low_eq_zero_iff : r.low = 0 ↔ r.word % 128 = 0 := by
  rw [word_inj, toNat_low]
  rfl

theorem low_eq_ones_iff : r.low = 0x7f ↔ r.word % 128 = 127 := by
  rw [word_inj, toNat_low]
  rfl

/-! ## What is read off a report -/

theorem exitCode?_eq_some_iff {code : Nat} : r.exitCode? = some code ↔ r.Exited code := by
  rw [Exited, low_eq_zero_iff, toInt_high, Int.ofNat_inj, exitCode?]
  split <;> simp_all

theorem signal?_eq_some_iff {signal : Nat} : r.signal? = some signal ↔ r.Killed signal := by
  rw [Killed, Ne, Ne, low_eq_zero_iff, low_eq_ones_iff, toInt_low, Int.ofNat_inj, signal?]
  split
  · rename_i neither
    simp only [reduceCtorEq, false_iff]
    intro kills
    omega
  · rename_i some_signal
    rw [Option.some.injEq]
    constructor
    · intro same
      exact ⟨fun zero => some_signal (.inl zero), fun ones => some_signal (.inr ones), same⟩
    · intro kills
      exact kills.2.2

/-- **A report is converted to the number that it stands for.** -/
theorem stands_iff {number : Nat} : r.Stands number ↔ Status.ofReportNat r = number := by
  constructor
  · intro stands
    cases stands with
    | exited exits => rw [Status.ofReportNat, exitCode?_eq_some_iff.2 exits]
    | killed kills =>
      have no_exit : r.exitCode? = none := by
        rw [exitCode?, if_neg (mt low_eq_zero_iff.2 kills.1)]
      rw [Status.ofReportNat, no_exit, signal?_eq_some_iff.2 kills]
    | neither ones =>
      have number := low_eq_ones_iff.1 ones
      rw [Status.ofReportNat, exitCode?, if_neg (by omega), signal?, if_pos (.inr number)]
  · rintro rfl
    unfold Status.ofReportNat
    split
    · rename_i code exits
      exact .exited (exitCode?_eq_some_iff.1 exits)
    · rename_i signal no_exit kills
      exact .killed (signal?_eq_some_iff.1 kills)
    · rename_i no_exit no_signal
      apply Stands.neither
      rw [low_eq_ones_iff]
      unfold exitCode? at no_exit
      unfold signal? at no_signal
      simp_all

/-- Killed by signal 11. The eighth bit, which tells of a core dump, counts for nothing. -/
example : (⟨0x8b⟩ : WaitReport).Stands 139 := stands_iff.2 (by decide)

/-- What a report stands for fits into a byte. -/
theorem Stands.lt {number : Nat} (stands : r.Stands number) : number < 256 := by
  rw [← stands_iff.1 stands]
  exact Status.ofReportNat_lt r

/-- A report stands for 0 exactly if the process exited with code 0. -/
theorem stands_zero_iff : r.Stands 0 ↔ r.Exited 0 := by
  constructor
  · intro stands
    generalize zero : 0 = number at stands
    cases stands with
    | exited exits => exact zero ▸ exits
    | killed kills => omega
    | neither ones => omega
  · exact .exited

end WaitReport

/-! ## The status of a report -/

namespace Status

/-- The status whose code is a number. -/
def ofNumber (number : Nat) : Status := ⟨Int32.ofNat number⟩

/-- A report is converted to the status whose code is the number that the report stands for. -/
theorem ofReport_eq (r : WaitReport) : ofReport r = ofNumber (ofReportNat r) := rfl

variable {number : Nat}

/-- Nothing is lost when a number that fits into a byte becomes a code. -/
theorem toNat_ofNumber (small : number < 256) :
    (ofNumber number).code.toUInt32.toNat = number := by
  rw [ofNumber, Int32.toUInt32_ofNat', UInt32.toNat_ofNat', Nat.mod_eq_of_lt]
  omega

/-- Nor does it turn negative. -/
theorem toInt_ofNumber (small : number < 256) : (ofNumber number).code.toInt = number := by
  rw [toInt_of_lt, toNat_ofNumber small]
  rw [toNat_ofNumber small]
  omega

/-- Only zero is success. -/
theorem ofNumber_eq_success_iff (small : number < 256) :
    ofNumber number = success ↔ number = 0 := by
  constructor
  · intro same
    rw [← toNat_ofNumber small, same]
    rfl
  · rintro rfl
    rfl

end Status

end CompilerDriver
