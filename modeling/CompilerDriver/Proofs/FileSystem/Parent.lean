import CompilerDriver.FileSystem.Update
import CompilerDriver.Proofs.FileSystem.Entry
import CompilerDriver.Proofs.Path.Anchored

/-!
# The directory that a path stands in

* `Path.parent?_cases` — the parent of a path: empty for a bare name, or the root, or made of the
  segments before the name.
* `StandsIn` — the parent of a path leads to a directory; for a bare name that is the current
  directory. `standsIn_of_locate`: **a path that ends in an entry stands in the directory of the
  entry**, through all links and however far up the path goes.
* `StandsAs` — besides, the path ends in an entry of a given name there.
-/

namespace CompilerDriver

open FileSystem

/-! ## Parents -/

namespace Path

variable {p : Path} {name : Bytes} {directory : List Bytes}

/-- Where more than the root comes before the name, the parent is made of it. -/
theorem parent?_of_ne (shape : p.leading = name :: directory) (other : trimIdle directory ≠ [[]]) :
    p.parent? = some (ofSegments (trimIdle directory).reverse) := by
  unfold parent?
  rw [shape]
  simp only
  split
  · rename_i top
    exact absurd (List.reverse_eq_iff.1 top) other
  · rfl

/-- The parent of a bare name is empty; any other is the root, or has the segments before the name. -/
theorem parent?_cases (shape : p.leading = name :: directory) :
    (trimIdle directory = [] ∧ p.parent? = some ⟨[]⟩) ∨
      (trimIdle directory = [[]] ∧ p.parent? = some ⟨[Bytes.slash]⟩) ∨
      ∃ parent, p.parent? = some parent ∧ parent.bytes ≠ [] ∧
        parent.segments = (trimIdle directory).reverse := by
  by_cases top : trimIdle directory = [[]]
  · exact .inr (.inl ⟨top, by simp [parent?, shape, top]⟩)
  · have parent := parent?_of_ne shape top
    by_cases bare : trimIdle directory = []
    · rw [bare] at parent
      exact .inl ⟨bare, parent⟩
    · have plain : ∀ s ∈ (trimIdle directory).reverse, Bytes.slash ∉ s := by
        intro s mem
        refine plain_of_leading (p := p) ?_
        rw [shape]
        exact .tail _ ((trimIdle_suffix directory).subset (List.mem_reverse.1 mem))
      have segments := segments_ofSegments (by simpa using bare) plain
      refine .inr (.inr ⟨_, parent, ?_, segments⟩)
      intro empty
      have whole : (trimIdle directory).reverse = [[]] := by
        rw [← segments, Path.segments, empty]
        rfl
      exact top (List.reverse_eq_iff.1 whole)

/-- A parent that has the segments before the name is made of the first bytes of the path. -/
theorem prefix_of_segments {parent : Path} (segments : p.segments = (name :: directory).reverse)
    (parent_segments : parent.segments = (trimIdle directory).reverse) :
    parent.bytes <+: p.bytes := by
  obtain ⟨dropped, whole⟩ := trimIdle_suffix directory
  have longer : p.segments = parent.segments ++ (dropped.reverse ++ [name]) := by
    rw [segments, parent_segments, ← List.append_assoc, ← List.reverse_append, whole,
      List.reverse_cons]
  rw [← ofSegments_segments p, ← ofSegments_segments parent, longer]
  exact Bytes.join_append _ _

/-- It is absolute if the path is. -/
theorem isAbsolute_of_segments {parent : Path} (segments : p.segments = (name :: directory).reverse)
    (nonempty : name ≠ []) (parent_segments : parent.segments = (trimIdle directory).reverse)
    (some_bytes : parent.bytes ≠ []) : parent.isAbsolute = p.isAbsolute := by
  have first := head?_segments_iff (p := parent)
  rw [or_iff_right some_bytes, parent_segments, List.head?_reverse, getLast?_trimIdle] at first
  rw [Bool.eq_iff_iff, ← first, isAbsolute_iff segments nonempty]

/-- The parent of a path that says where it starts is not empty. -/
theorem parent_ne_nil {parent : Path} (is : p.parent? = some parent)
    (named : p.fileName? = some name) (anchored : ∀ name, p.components.head? ≠ some (.name name)) :
    parent.bytes ≠ [] := by
  obtain ⟨directory, shape, down⟩ := leading_of_fileName? named
  rcases parent?_cases shape with ⟨bare, is'⟩ | ⟨-, is'⟩ | ⟨parent', is', some_bytes, -⟩
  · rw [components_of_leading shape down, ← passed_trimIdle, bare] at anchored
    exact absurd rfl (anchored name)
  · obtain rfl := Option.some.inj (is.symm.trans is')
    exact List.cons_ne_nil _ _
  · obtain rfl := Option.some.inj (is.symm.trans is')
    exact some_bytes

end Path

namespace FileSystem

variable {fs : FileSystem} {p : Path} {name : Bytes} {d : Location}

/-- What can be stood in is a directory, if it is there. -/
theorem get?_of_canStandIn (stands : fs.canStandIn d = true) (there : fs.get? d ≠ none) :
    fs.get? d = some .directory := by
  obtain ⟨node, found⟩ := Option.ne_none_iff_exists'.1 there
  rw [canStandIn, found] at stands
  cases node with
  | directory => exact found
  | file | link | device => cases stands

/-- The parent of a path leads to a directory. A bare name stands in the current directory. -/
def StandsIn (fs : FileSystem) (p : Path) (d : Location) : Prop :=
  ∃ parent, p.parent? = some parent ∧
    if parent.bytes = [] then d = fs.cwd else fs.resolve parent = .ok d

/-- **A path that ends in an entry stands in the directory of the entry.** -/
theorem standsIn_of_locate (located : fs.locate p = .ok (.entry d name false)) :
    fs.StandsIn p d := by
  obtain ⟨taken, before, segments, leads, -, busy, -⟩ := locate_bare_iff.1 located
  have nonempty : name ≠ [] := fun empty => busy (.inl empty)
  have absolute := Path.isAbsolute_iff segments nonempty
  have trimmed := leads.trimIdle
  rw [← Path.getLast?_trimIdle] at absolute
  rcases Path.parent?_cases (Path.leading_of_segments segments busy) with
    ⟨bare, parent⟩ | ⟨top, parent⟩ | ⟨parent, is, some_bytes, parent_segments⟩
  · have relative : p.isAbsolute = false := by
      rw [← Bool.not_eq_true, absolute, bare]
      simp
    rw [bare, startOf, relative] at trimmed
    cases trimmed
    exact ⟨_, parent, rfl⟩
  · rw [top, startOf, absolute.2 (by rw [top]; rfl)] at trimmed
    obtain rfl := trimmed.eq_of_idle (.inl rfl)
    refine ⟨_, parent, ?_⟩
    rw [if_neg (List.cons_ne_nil _ _)]
    rfl
  · obtain ⟨no_nul, -, short⟩ := accept_eq_ok_iff.1 taken
    have first := Path.prefix_of_segments segments parent_segments
    refine ⟨parent, is, ?_⟩
    rw [if_neg some_bytes, resolve_eq_ok_iff, accept_eq_ok_iff, leads_iff, startOf,
      Path.isAbsolute_of_segments segments nonempty parent_segments some_bytes, parent_segments]
    exact ⟨⟨fun nul => no_nul (first.subset nul), some_bytes, Nat.le_trans first.length_le short⟩,
      trimmed⟩

/-- The parent of a path leads to a directory, and the path ends in an entry of that name there. -/
structure StandsAs (fs : FileSystem) (p : Path) (d : Location) (name : Bytes) : Prop where
  parent : ∃ parent, p.parent? = some parent ∧ fs.resolve parent = .ok d
  last : p.components.getLast? = some (.name name)
  entry : fs.locate p = .ok (.entry d name false)

theorem standsAs_of_locate (located : fs.locate p = .ok (.entry d name false))
    (anchored : ∀ name, p.components.head? ≠ some (.name name)) : fs.StandsAs p d name := by
  have named := fileName?_of_locate located
  obtain ⟨parent, is, leads⟩ := standsIn_of_locate located
  rw [if_neg (Path.parent_ne_nil is named anchored)] at leads
  exact ⟨⟨parent, is, leads⟩, Path.fileName?_eq_some_iff.1 named, located⟩

end FileSystem

end CompilerDriver
