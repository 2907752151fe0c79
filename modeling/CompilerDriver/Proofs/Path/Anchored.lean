import CompilerDriver.Proofs.Path.FileName

/-!
# Where paths start

* `isAbsolute_iff` — whether a path that ends in a name is absolute is told by the first of its
  segments.
* `IsAnchored` — a path that says where it starts: at the root, here, or one directory up. All others
  begin with a name, unless they are empty (`begins_with_name_iff`).
* `anchored_cases` — what anchoring does, and to which paths: what begins with a name gets `./` in
  front, which adds the current directory to its components (`components_here`). So **an anchored path
  begins with something else than a name** (`head?_components_anchored`), what leads to its name leads
  on (`leading_anchored`), and it stays as it is if it is anchored again (`anchored_anchored`).
-/

namespace CompilerDriver.Path

variable {p : Path} {name : Bytes} {before : List Bytes}

/-! ## Absolute paths -/

/-- The first segment is empty if the path is absolute or empty. -/
theorem head?_segments_iff :
    p.segments.head? = some [] ↔ p.bytes = [] ∨ p.isAbsolute = true := by
  obtain ⟨bytes⟩ := p
  cases bytes with
  | nil => simp [segments, Bytes.pieces]
  | cons b rest =>
    simp only [segments, isAbsolute, Bytes.pieces]
    by_cases slash : b = Bytes.slash
    · simp [slash]
    · rw [if_neg slash]
      split <;> simp [slash]

/-- Whether a path that ends in a name is absolute is told by its first segment. -/
theorem isAbsolute_iff (segments : p.segments = (name :: before).reverse) (nonempty : name ≠ []) :
    p.isAbsolute = true ↔ before.getLast? = some [] := by
  have some_bytes : p.bytes ≠ [] := by
    intro empty
    have whole : p.segments = [[]] := by
      rw [Path.segments, empty]
      rfl
    rw [whole] at segments
    simp only [List.reverse_cons] at segments
    have last := congrArg List.getLast? segments
    simp [nonempty, eq_comm] at last
  have first : p.segments.head? = (name :: before).getLast? := by rw [segments, List.head?_reverse]
  have absolute : p.isAbsolute = true ↔ p.segments.head? = some [] := by
    rw [head?_segments_iff, or_iff_right some_bytes]
  rw [absolute, first, List.getLast?_cons]
  cases before.getLast? <;> simp [nonempty]

/-- A path whose first component is a name is not absolute. -/
theorem not_isAbsolute (begins : p.components.head? = some (.name name)) :
    p.isAbsolute = false := by
  have some_bytes := ne_nil_of_components begins
  obtain ⟨first, rest, shape⟩ := List.exists_cons_of_ne_nil p.segments_ne_nil
  rw [head?_components shape some_bytes] at begins
  rw [← Bool.not_eq_true]
  intro absolute
  have empty := head?_segments_iff.2 (.inr absolute)
  rw [shape] at empty
  rw [if_pos (Option.some.inj empty)] at begins
  cases begins

/-! ## Paths that say where they start -/

/-- A path that starts with a slash, or whose first segment is `.` or `..`. -/
def IsAnchored (p : Path) : Prop :=
  p.bytes.head? = some Bytes.slash ∨ p.segments.head? = some hereSegment ∨
    p.segments.head? = some upSegment

instance (p : Path) : Decidable p.IsAnchored := inferInstanceAs (Decidable (_ ∨ _))

/-- A path begins with a name if it is not empty and does not say where it starts. -/
theorem begins_with_name_iff :
    (∃ name, p.components.head? = some (.name name)) ↔ p.bytes ≠ [] ∧ ¬ p.IsAnchored := by
  obtain ⟨first, rest, shape⟩ := List.exists_cons_of_ne_nil p.segments_ne_nil
  have absolute : p.bytes ≠ [] → (p.bytes.head? = some Bytes.slash ↔ first = []) := by
    intro some_bytes
    have := head?_segments_iff (p := p)
    rw [or_iff_right some_bytes, shape, List.head?_cons, Option.some.injEq, isAbsolute,
      decide_eq_true_iff] at this
    exact this.symm
  constructor
  · rintro ⟨name, begins⟩
    have some_bytes := ne_nil_of_components begins
    rw [head?_components shape some_bytes] at begins
    refine ⟨some_bytes, ?_⟩
    rw [IsAnchored, absolute some_bytes, shape, List.head?_cons, Option.some.injEq,
      Option.some.injEq]
    rintro (empty | here | up)
    · simp [empty] at begins
    · simp [here, hereSegment] at begins
    · simp [up, upSegment, hereSegment] at begins
  · rintro ⟨some_bytes, free⟩
    rw [IsAnchored, absolute some_bytes, shape, List.head?_cons, Option.some.injEq,
      Option.some.injEq, not_or, not_or] at free
    refine ⟨first, ?_⟩
    rw [head?_components shape some_bytes, if_neg free.1, if_neg free.2.1, if_neg free.2.2]

/-! ## Anchoring -/

/-- What begins with a name gets `./` in front, and all else stays as it is. -/
theorem anchored_cases (p : Path) :
    (∃ name, p.components.head? = some (.name name) ∧
        p.anchored = ⟨Bytes.dot :: Bytes.slash :: p.bytes⟩) ∨
      ((∀ name, p.components.head? ≠ some (.name name)) ∧ p.anchored = p) := by
  unfold anchored
  split
  · rename_i name begins
    exact .inl ⟨name, begins, rfl⟩
  · rename_i other
    exact .inr ⟨other, rfl⟩

theorem anchored_eq (begins : p.components.head? = some (.name name)) :
    p.anchored = ⟨Bytes.dot :: Bytes.slash :: p.bytes⟩ := by
  rw [anchored, begins]

theorem anchored_eq_self (other : ∀ name, p.components.head? ≠ some (.name name)) :
    p.anchored = p := by
  rcases anchored_cases p with ⟨name, begins, -⟩ | ⟨-, same⟩
  · exact absurd begins (other name)
  · exact same

theorem anchored_of_isAnchored (sure : p.IsAnchored) : p.anchored = p :=
  anchored_eq_self fun name begins => (begins_with_name_iff.1 ⟨name, begins⟩).2 sure

theorem anchored_of_not_isAnchored (some_bytes : p.bytes ≠ []) (free : ¬ p.IsAnchored) :
    p.anchored = ⟨Bytes.dot :: Bytes.slash :: p.bytes⟩ := by
  obtain ⟨name, begins⟩ := begins_with_name_iff.2 ⟨some_bytes, free⟩
  exact anchored_eq begins

/-- Anchoring does not make a path absolute, nor relative. -/
theorem isAbsolute_anchored (p : Path) : p.anchored.isAbsolute = p.isAbsolute := by
  rcases anchored_cases p with ⟨name, begins, anchored⟩ | ⟨-, same⟩
  · rw [anchored, not_isAbsolute begins]
    rfl
  · rw [same]

/-- Putting `./` in front puts one segment before the others. -/
theorem segments_here (p : Path) :
    (⟨Bytes.dot :: Bytes.slash :: p.bytes⟩ : Path).segments = hereSegment :: p.segments :=
  Bytes.pieces_append (p := hereSegment) (by decide) p.bytes

/-- Anchoring keeps the name, and what leads to it leads on. -/
theorem leading_anchored {directory : List Bytes} (shape : p.leading = name :: directory) :
    ∃ directory', p.anchored.leading = name :: directory' := by
  rcases anchored_cases p with ⟨-, -, anchored⟩ | ⟨-, same⟩
  · refine ⟨directory ++ [hereSegment], ?_⟩
    rw [leading] at shape
    rw [anchored, leading, segments_here, List.reverse_cons, List.dropWhile_append, shape]
    simp
  · rw [same]
    exact ⟨directory, shape⟩

/-- The file name stays the same. -/
theorem fileName?_anchored (named : p.fileName? = some name) :
    p.anchored.fileName? = some name := by
  obtain ⟨directory, shape, down⟩ := leading_of_fileName? named
  obtain ⟨directory', shape'⟩ := leading_anchored shape
  simp only [fileName?, shape', if_neg down]

/-- Putting `./` in front of what begins with a name adds the current directory at the front. -/
theorem components_here (begins : p.components.head? = some (.name name)) :
    (⟨Bytes.dot :: Bytes.slash :: p.bytes⟩ : Path).components = .here :: p.components := by
  obtain ⟨some_bytes, free⟩ := begins_with_name_iff.1 ⟨name, begins⟩
  obtain ⟨first, rest, shape⟩ := List.exists_cons_of_ne_nil p.segments_ne_nil
  have busy : ¬ IsIdle first := by
    rintro (empty | here)
    · rw [head?_components shape some_bytes, if_pos empty] at begins
      cases begins
    · exact free (.inr (.inl (by rw [shape, here]; rfl)))
  have segments := segments_here p
  rw [shape] at segments
  rw [components_of_segments segments, components_of_busy shape busy]
  rfl

/-- Anchoring adds the current directory at the front, or nothing. -/
theorem components_anchored (p : Path) :
    p.anchored.components = p.components ∨ p.anchored.components = .here :: p.components := by
  rcases anchored_cases p with ⟨name, begins, anchored⟩ | ⟨-, same⟩
  · right
    rw [anchored, components_here begins]
  · left
    rw [same]

/-- The first component of an anchored path is not a name. -/
theorem head?_components_anchored (p : Path) (name : Bytes) :
    p.anchored.components.head? ≠ some (.name name) := by
  rcases anchored_cases p with ⟨first, begins, anchored⟩ | ⟨other, same⟩
  · rw [anchored, components_here begins, List.head?_cons]
    simp
  · rw [same]
    exact other name

/-- What is anchored stays as it is. -/
theorem anchored_anchored (p : Path) : p.anchored.anchored = p.anchored :=
  anchored_eq_self (head?_components_anchored p)

/-- A path grows by two bytes if it is anchored. -/
theorem length_anchored (some_bytes : p.bytes ≠ []) :
    p.anchored.bytes.length = if p.IsAnchored then p.bytes.length else p.bytes.length + 2 := by
  split
  · rename_i sure
    rw [anchored_of_isAnchored sure]
  · rename_i free
    rw [anchored_of_not_isAnchored some_bytes free]
    rfl

/-- Anchoring puts no zero byte into a path. -/
theorem nul_mem_anchored : 0 ∈ p.anchored.bytes ↔ 0 ∈ p.bytes := by
  rcases anchored_cases p with ⟨-, -, anchored⟩ | ⟨-, same⟩
  · simp [anchored, Bytes.dot, Bytes.slash]
  · rw [same]

theorem anchored_ne_nil (some_bytes : p.bytes ≠ []) : p.anchored.bytes ≠ [] := by
  rcases anchored_cases p with ⟨-, -, anchored⟩ | ⟨-, same⟩
  · rw [anchored]
    exact List.cons_ne_nil _ _
  · rwa [same]

end CompilerDriver.Path
