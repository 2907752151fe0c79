import CompilerDriver.Proofs.Source.Names

/-!
# No path of a source looks like an option

* `Path.Guarded` — a path begins with a dot or a slash. `guarded_of_components`: it does if its first
  component is anything but a name.
* `guarded_of_validate` — **the path of an accepted input and the paths of all that is made from it
  are guarded**: they share the components before the name.
-/

namespace CompilerDriver

namespace Path

variable {p : Path} {component : Component}

/-- The path begins with a dot or a slash. -/
def Guarded (p : Path) : Prop :=
  p.bytes.head? = some Bytes.dot ∨ p.bytes.head? = some Bytes.slash

/-- A guarded path does not begin with a dash. -/
theorem Guarded.head?_ne_dash (guarded : p.Guarded) : p.bytes.head? ≠ some Bytes.dash := by
  rcases guarded with first | first <;> rw [first] <;> decide

/-- A path begins like its first segment. -/
theorem head?_bytes {first : Bytes} {rest : List Bytes} (shape : p.segments = first :: rest)
    (nonempty : first ≠ []) : p.bytes.head? = first.head? := by
  obtain ⟨b, front, rfl⟩ := List.exists_cons_of_ne_nil nonempty
  rw [← ofSegments_segments p, shape, ofSegments]
  cases rest with
  | nil => rfl
  | cons second rest => rfl

/-- A path is guarded if its first component is not a name. -/
theorem guarded_of_components (begins : p.components.head? = some component)
    (other : ∀ name, component ≠ .name name) : p.Guarded := by
  obtain ⟨first, rest, shape⟩ := List.exists_cons_of_ne_nil (segments_ne_nil p)
  have some_bytes := ne_nil_of_components begins
  rw [head?_components shape some_bytes] at begins
  by_cases empty : first = []
  · -- The path is absolute: a slash comes after its empty first segment.
    right
    have more : rest ≠ [] := by
      rintro rfl
      rw [← ofSegments_segments p, shape, empty] at some_bytes
      exact some_bytes rfl
    rw [← ofSegments_segments p, shape, ofSegments, empty, Bytes.join_cons _ _ more]
    rfl
  · left
    rw [head?_bytes shape empty]
    by_cases here : first = hereSegment
    · rw [here]
      rfl
    · by_cases up : first = upSegment
      · rw [up]
        rfl
      · rw [if_neg empty, if_neg here, if_neg up] at begins
        exact absurd (Option.some.inj begins).symm (other first)

end Path

namespace Source

variable {source : Source} {directory : List Bytes} {stem extension tail : Bytes}

section anchored

variable (named : source.Named directory stem extension)
  (anchored : ∀ name, source.path.components.head? ≠ some (.name name))

include named anchored

/-- What leads to an anchored source begins with a component that is not a name. -/
theorem Named.exists_passed :
    ∃ component rest, Path.passed directory = component :: rest ∧
      ∀ name, component ≠ .name name := by
  rw [named.path_components] at anchored
  cases passed : Path.passed directory with
  | nil =>
    rw [passed] at anchored
    exact absurd rfl (anchored _)
  | cons component rest =>
    refine ⟨component, rest, rfl, ?_⟩
    rintro name rfl
    rw [passed] at anchored
    exact anchored name rfl

/-- What leads through the components before the name begins with one that is not a name. -/
theorem Named.head?_of_passed {p : Path} {last : Path.Component}
    (leads : p.components = Path.passed directory ++ [last]) :
    ∃ component, p.components.head? = some component ∧ ∀ name, component ≠ .name name := by
  obtain ⟨component, rest, passed, other⟩ := named.exists_passed anchored
  refine ⟨component, ?_, other⟩
  rw [leads, passed]
  rfl

/-- A path is guarded if the same leads to it as to an anchored source. -/
theorem Named.guarded_of_passed {p : Path} {last : Path.Component}
    (leads : p.components = Path.passed directory ++ [last]) : p.Guarded := by
  obtain ⟨component, begins, other⟩ := named.head?_of_passed anchored leads
  exact Path.guarded_of_components begins other

/-- A path beside an anchored source is guarded. -/
theorem Named.guarded_beside (plain_tail : Bytes.slash ∉ tail) :
    (beside directory (stem ++ tail)).Guarded :=
  named.guarded_of_passed anchored (named.components_beside plain_tail)

end anchored

/-- The first component of the path of a source is not a name. -/
theorem head?_path_of_validate {fs : FileSystem} {p : Path} (accepted : validate fs p = .ok source)
    (name : Bytes) : source.path.components.head? ≠ some (.name name) := by
  rw [path_of_validate accepted]
  exact Path.head?_components_anchored p name

/-- **No path that the tools are given looks like an option.** -/
theorem guarded_of_validate {fs : FileSystem} {p : Path} (accepted : validate fs p = .ok source) :
    source.path.Guarded ∧ source.preprocessed.Guarded ∧ source.assembly.Guarded ∧
      source.executable.Guarded := by
  obtain ⟨directory, stem, extension, named, -⟩ := named_of_validate accepted
  have anchored := head?_path_of_validate accepted
  refine ⟨?_, ?_, ?_, ?_⟩
  · exact named.guarded_of_passed anchored named.path_components
  · rw [preprocessed, named.withExtension_eq]
    exact named.guarded_beside anchored (by decide)
  · rw [assembly, named.withExtension_eq]
    exact named.guarded_beside anchored (by decide)
  · rw [named.executable_eq]
    exact named.guarded_beside anchored (by simp)

end Source

end CompilerDriver
