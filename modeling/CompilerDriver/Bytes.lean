/-!
# Byte strings

What the operating system passes as a path, an argument or an environment value is a string of
bytes, not of characters. This file holds the type, the few bytes the driver cares about, and
cutting a byte string at a separator. Cutting loses nothing: `join_pieces`.
-/

namespace CompilerDriver

/-- A byte string: a path, an argument, an environment value, the contents of a file. -/
abbrev Bytes := List UInt8

/-- Comparing byte strings decides whether they are equal, and so membership among them. -/
instance : LawfulBEq Bytes := List.instLawfulBEq

namespace Bytes

/-- The UTF-8 bytes of a text. -/
def ofString (s : String) : Bytes := s.toUTF8.data.toList

/-- `/`, between the segments of a path. -/
def slash : UInt8 := 0x2f

/-- `.`, between the stem and the extension of a name. -/
def dot : UInt8 := 0x2e

/-- `-`, at the front of an option. -/
def dash : UInt8 := 0x2d

/-- `=`, between an option and the value attached to it. -/
def equals : UInt8 := 0x3d

/-- The end of a line. -/
def newline : UInt8 := 0x0a

/-- `s` cut at the first occurrence of `b`, which is left out; nothing if there is none. -/
def cut? (b : UInt8) : Bytes → Option (Bytes × Bytes)
  | [] => none
  | c :: s => if c = b then some ([], s) else (cut? b s).map fun (front, back) => (c :: front, back)

/-- The pieces of `s` between the occurrences of `b`: one more than there are occurrences. -/
def pieces (b : UInt8) : Bytes → List Bytes
  | [] => [[]]
  | c :: s =>
    if c = b then [] :: pieces b s
    else match pieces b s with
      | [] => [[c]]
      | p :: ps => (c :: p) :: ps

/-- The pieces put together again, with `b` between them. -/
def join (b : UInt8) : List Bytes → Bytes
  | [] => []
  | [p] => p
  | p :: q :: ps => p ++ b :: join b (q :: ps)

/-- `\r`, which may stand before the end of a line. -/
def carriageReturn : UInt8 := 0x0d

/-- A line without the carriage return at its end. -/
def withoutReturn (line : Bytes) : Bytes :=
  if line.getLast? = some carriageReturn then line.dropLast else line

/-- The lines of a text, without their ends; the last one need not have an end. A carriage return
before a newline belongs to the end of the line. -/
def lines (s : Bytes) : List Bytes :=
  match (pieces newline s).reverse with
  | last :: ended =>
    (ended.reverse.map withoutReturn) ++ if last = [] then [] else [last]
  | [] => []

/-- A decimal digit. -/
def isDigit (b : UInt8) : Bool := 0x30 ≤ b && b ≤ 0x39

/-- The number that some decimal digits write. -/
def ofDigits (digits : Bytes) : Nat := digits.foldl (fun n d => n * 10 + (d.toNat - 0x30)) 0

/-- The number that a text writes in decimal, with nothing but digits. -/
def natural? (text : Bytes) : Option Nat :=
  if text ≠ [] ∧ text.all isDigit then some (ofDigits text) else none

/-- A number in decimal. -/
def decimal (n : Nat) : Bytes := ofString n.repr

/-- A small letter of ASCII as a capital. -/
def upper (b : UInt8) : UInt8 := if 0x61 ≤ b && b ≤ 0x7a then b - 0x20 else b

/-- A capital letter of ASCII as a small one. -/
def lower (b : UInt8) : UInt8 := if 0x41 ≤ b && b ≤ 0x5a then b + 0x20 else b

/-- Blanks, line ends and the like: the white space of ASCII. -/
def isSpace (b : UInt8) : Bool := b = 0x20 || (0x09 ≤ b && b ≤ 0x0d)

/-- Whether `part` stands somewhere in `s`. -/
def holds (part : Bytes) : Bytes → Bool
  | [] => part = []
  | b :: s => part.isPrefixOf (b :: s) || holds part s

/-- Order by the first byte that differs; a string comes after its beginnings. -/
def precedes : Bytes → Bytes → Bool
  | [], _ => true
  | _ :: _, [] => false
  | a :: s, b :: t => a < b || (a = b && precedes s t)

/-! ## Cutting and joining -/

theorem pieces_ne_nil (b : UInt8) (s : Bytes) : pieces b s ≠ [] := by
  cases s with
  | nil => simp [pieces]
  | cons c s =>
    simp only [pieces]
    split
    · simp
    · split <;> simp

theorem join_cons (b : UInt8) (p : Bytes) {ps : List Bytes} (h : ps ≠ []) :
    join b (p :: ps) = p ++ b :: join b ps := by
  cases ps with
  | nil => exact absurd rfl h
  | cons q ps => rfl

/-- Cutting at `b` and joining with `b` gives the string back. -/
theorem join_pieces (b : UInt8) (s : Bytes) : join b (pieces b s) = s := by
  induction s with
  | nil => rfl
  | cons c s ih =>
    simp only [pieces]
    split
    · rename_i h
      rw [join_cons b [] (pieces_ne_nil b s), ih, h]
      rfl
    · split
      · rename_i h
        exact absurd h (pieces_ne_nil b s)
      · rename_i p ps h
        rw [h] at ih
        cases ps with
        | nil => simp only [join] at ih ⊢; rw [ih]
        | cons q ps => simp only [join, List.cons_append] at ih ⊢; rw [ih]

/-- No piece holds the separator. -/
theorem not_mem_of_mem_pieces {b : UInt8} {s p : Bytes} (h : p ∈ pieces b s) : b ∉ p := by
  induction s generalizing p with
  | nil => simp_all [pieces]
  | cons c s ih =>
    simp only [pieces] at h
    split at h
    · rcases List.mem_cons.1 h with rfl | h
      · simp
      · exact ih h
    · rename_i hc
      split at h
      · simp only [List.mem_singleton] at h
        subst h
        simpa using fun e => hc e.symm
      · rename_i q qs hq
        rcases List.mem_cons.1 h with rfl | h
        · have := ih (hq ▸ List.mem_cons_self)
          simpa [this] using fun e => hc e.symm
        · exact ih (hq ▸ List.mem_cons_of_mem _ h)

end Bytes

end CompilerDriver
