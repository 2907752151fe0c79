import CompilerDriver.Path

/-!
# Paths by their file name

* `pieces_append_cons` — a separator divides the pieces. `pieces_join`: what was joined at the slashes
  is cut at the same places again, so the segments of a path made of segments are these
  (`segments_ofSegments`). `mem_join`, `join_append` and `join_concat` say what stands in it, and at
  its ends.
* `leading_ofSegments` and `fileName?_ofSegments` — a path put together from a directory and a name
  has that name. `withFileName` and `withExtension` put their results together in this way.
* `head?_components` — the first component is told by the first segment.
* `components_of_leading` — the components of a path with a file name are those of its directory
  and, last, the name; so the file name is the last component (`fileName?_eq_some_iff`), **paths
  through the same components have the same file name** (`fileName?_of_components`), and idle
  segments right before the name make no difference (`passed_trimIdle`).
-/

namespace CompilerDriver

namespace Bytes

variable {b : UInt8} {p : Bytes}

theorem pieces_of_not_mem (plain : b ∉ p) : pieces b p = [p] := by
  induction p with
  | nil => rfl
  | cons c p ih =>
    rw [List.mem_cons, not_or] at plain
    simp only [pieces, if_neg (Ne.symm plain.1), ih plain.2]

/-- A separator divides the pieces into those before it and those after it. -/
theorem pieces_append_cons (front back : Bytes) :
    pieces b (front ++ b :: back) = pieces b front ++ pieces b back := by
  induction front with
  | nil => simp [pieces]
  | cons c front ih =>
    obtain ⟨piece, more, shape⟩ := List.exists_cons_of_ne_nil (pieces_ne_nil b front)
    simp only [List.cons_append, pieces, ih, shape]
    split <;> rfl

theorem pieces_append (plain : b ∉ p) (rest : Bytes) :
    pieces b (p ++ b :: rest) = p :: pieces b rest := by
  rw [pieces_append_cons, pieces_of_not_mem plain, List.singleton_append]

/-- Cutting what was joined gives the pieces back, if none of them holds the separator. -/
theorem pieces_join {ps : List Bytes} (nonempty : ps ≠ []) (plain : ∀ p ∈ ps, b ∉ p) :
    pieces b (join b ps) = ps := by
  induction ps with
  | nil => exact absurd rfl nonempty
  | cons p ps ih =>
    have first : b ∉ p := plain p List.mem_cons_self
    cases ps with
    | nil => exact pieces_of_not_mem first
    | cons q ps =>
      rw [join, pieces_append first, ih (by simp)]
      intro r mem
      exact plain r (List.mem_cons_of_mem _ mem)

/-- A byte of what was joined is the separator, or it stands in one of the parts. -/
theorem mem_join {c : UInt8} {ps : List Bytes} (mem : c ∈ join b ps) :
    c = b ∨ ∃ p ∈ ps, c ∈ p := by
  induction ps with
  | nil => cases mem
  | cons p ps ih =>
    cases ps with
    | nil => exact .inr ⟨p, List.mem_cons_self, mem⟩
    | cons q ps =>
      rw [join, List.mem_append, List.mem_cons] at mem
      rcases mem with here | separator | rest
      · exact .inr ⟨p, List.mem_cons_self, here⟩
      · exact .inl separator
      · rcases ih rest with separator | ⟨r, there, inside⟩
        · exact .inl separator
        · exact .inr ⟨r, .tail _ there, inside⟩

/-- What stands in one of the parts stands in the whole. -/
theorem mem_join_of_mem {c : UInt8} {ps : List Bytes} (mem : p ∈ ps) (inside : c ∈ p) :
    c ∈ join b ps := by
  induction ps with
  | nil => cases mem
  | cons q ps ih =>
    cases ps with
    | nil =>
      rw [List.mem_singleton.1 mem] at inside
      exact inside
    | cons r ps =>
      rw [join, List.mem_append, List.mem_cons]
      rcases List.mem_cons.1 mem with rfl | mem
      · exact .inl inside
      · exact .inr (.inr (ih mem))

/-- What is joined begins with what joining the first of the parts gives. -/
theorem join_append (ps qs : List Bytes) : join b ps <+: join b (ps ++ qs) := by
  induction ps with
  | nil => exact List.nil_prefix
  | cons p ps ih =>
    rw [List.cons_append]
    cases ps with
    | nil =>
      cases qs with
      | nil => exact List.prefix_refl _
      | cons q qs => exact List.prefix_append p _
    | cons q ps =>
      rw [join, join_cons b p (by simp)]
      exact (List.prefix_append_right_inj p).2 (List.cons_prefix_cons.2 ⟨rfl, ih⟩)

/-- What comes after the last part comes after all. -/
theorem join_concat (ps : List Bytes) (p tail : Bytes) :
    join b (ps ++ [p ++ tail]) = join b (ps ++ [p]) ++ tail := by
  induction ps with
  | nil => rfl
  | cons q ps ih =>
    rw [List.cons_append, List.cons_append, join_cons b q (by simp), join_cons b q (by simp), ih]
    simp

end Bytes

namespace Path

variable {p q : Path} {name : Bytes} {directory : List Bytes}

/-! ## Paths put together -/

/-- A byte of a segment is one of the path. -/
theorem mem_bytes_of_mem {s : Bytes} {b : UInt8} (mem : s ∈ p.segments) (inside : b ∈ s) :
    b ∈ p.bytes := by
  rw [← ofSegments_segments p]
  exact Bytes.mem_join_of_mem mem inside

/-- The segments of a path made of segments are these. -/
theorem segments_ofSegments {segments : List Bytes} (nonempty : segments ≠ [])
    (plain : ∀ s ∈ segments, Bytes.slash ∉ s) : (ofSegments segments).segments = segments :=
  Bytes.pieces_join nonempty plain

/-- A last segment that leads somewhere comes first among the leading ones. -/
theorem leading_of_segments (segments : p.segments = (name :: directory).reverse)
    (busy : ¬ IsIdle name) : p.leading = name :: directory := by
  rw [leading, segments, List.reverse_reverse]
  simp [busy]

section put

variable (plain : ∀ s ∈ name :: directory, Bytes.slash ∉ s)

include plain in
/-- The segments of a path put together from a directory and a name, last one first. -/
theorem segments_reverse_ofSegments :
    (ofSegments (name :: directory).reverse).segments = (name :: directory).reverse := by
  refine segments_ofSegments (by simp) ?_
  intro s mem
  exact plain s (List.mem_reverse.1 mem)

include plain in
/-- The name stays the last of the segments that leads anywhere. -/
theorem leading_ofSegments (busy : ¬ IsIdle name) :
    (ofSegments (name :: directory).reverse).leading = name :: directory :=
  leading_of_segments (segments_reverse_ofSegments plain) busy

include plain in
theorem fileName?_ofSegments (busy : ¬ IsIdle name) (down : name ≠ upSegment) :
    (ofSegments (name :: directory).reverse).fileName? = some name := by
  simp only [fileName?, leading_ofSegments plain busy, if_neg down]

end put

/-! ## The file name and what comes before it -/

/-- A path has a file name if it ends in a segment that leads somewhere else than up. -/
theorem leading_of_fileName? (named : p.fileName? = some name) :
    ∃ directory, p.leading = name :: directory ∧ name ≠ upSegment := by
  unfold fileName? at named
  split at named
  · rename_i last directory shape
    split at named
    · cases named
    · rename_i down
      cases named
      exact ⟨directory, shape, down⟩
  · cases named

/-- The last of the leading segments leads somewhere. -/
theorem busy_of_leading (shape : p.leading = name :: directory) : ¬ IsIdle name := by
  have := List.head?_dropWhile_not (fun s => decide (IsIdle s)) p.segments.reverse
  rw [leading] at shape
  rw [shape] at this
  simpa using this

/-- No leading segment holds a slash. -/
theorem plain_of_leading {s : Bytes} (mem : s ∈ p.leading) : Bytes.slash ∉ s := by
  refine slash_not_mem (p := p) ?_
  exact List.mem_reverse.1 ((List.dropWhile_sublist _).subset mem)

/-- The segments of a path are the leading ones and, after them, idle ones. -/
theorem segments_of_leading (shape : p.leading = name :: directory) :
    ∃ idle, p.segments = directory.reverse ++ name :: idle ∧ ∀ s ∈ idle, IsIdle s := by
  have split := List.takeWhile_append_dropWhile (p := fun s => decide (IsIdle s))
    (l := p.segments.reverse)
  have all := List.all_takeWhile (p := fun s => decide (IsIdle s)) (l := p.segments.reverse)
  rw [leading] at shape
  rw [shape] at split
  refine ⟨(p.segments.reverse.takeWhile fun s => decide (IsIdle s)).reverse, ?_, ?_⟩
  · have back := congrArg List.reverse split
    rw [List.reverse_reverse] at back
    refine back.symm.trans ?_
    simp
  · intro s mem
    simpa using List.all_eq_true.1 all s (List.mem_reverse.1 mem)

/-! ## Components -/

/-- What the first of several segments contributes to the components. -/
def opening (first : Bytes) : List Component :=
  if first = [] then [.root]
  else if first = hereSegment then [.here]
  else (componentOf? first).toList

/-- The components of a directory whose segments are these, last one first. -/
def passed (directory : List Bytes) : List Component :=
  match directory.reverse with
  | [] => []
  | first :: rest => opening first ++ rest.filterMap componentOf?

theorem components_of_segments {first second : Bytes} {rest : List Bytes}
    (shape : p.segments = first :: second :: rest) :
    p.components = opening first ++ (second :: rest).filterMap componentOf? := by
  unfold components opening
  rw [shape]
  simp only
  split
  · rfl
  · split
    · rfl
    · rw [List.filterMap_cons]
      cases componentOf? first <;> rfl

theorem componentOf?_of_busy {segment : Bytes} (busy : ¬ IsIdle segment) :
    componentOf? segment = some (if segment = upSegment then .up else .name segment) := by
  rw [componentOf?, if_neg busy]
  split <;> rfl

/-- A path whose first segment is not idle goes through its segments. -/
theorem components_of_busy {first : Bytes} {rest : List Bytes} (shape : p.segments = first :: rest)
    (busy : ¬ IsIdle first) : p.components = (first :: rest).filterMap componentOf? := by
  have leads := componentOf?_of_busy busy
  rw [IsIdle, not_or] at busy
  cases rest with
  | nil => simp only [components, shape, if_neg busy.2]
  | cons second rest =>
    rw [components_of_segments shape, opening, if_neg busy.1, if_neg busy.2, leads,
      List.filterMap_cons_some leads]
    rfl

/-- A path with a component is not empty. -/
theorem ne_nil_of_components {component : Component} (begins : p.components.head? = some component) :
    p.bytes ≠ [] := by
  obtain ⟨bytes⟩ := p
  rintro rfl
  cases begins

/-- The first component of a path that is not empty is told by its first segment. -/
theorem head?_components {first : Bytes} {rest : List Bytes} (shape : p.segments = first :: rest)
    (some_bytes : p.bytes ≠ []) :
    p.components.head? = some
      (if first = [] then .root
      else if first = hereSegment then .here
      else if first = upSegment then .up
      else .name first) := by
  by_cases idle : IsIdle first
  · cases rest with
    | nil =>
      rcases idle with empty | here
      · rw [← ofSegments_segments p, shape, empty] at some_bytes
        exact absurd rfl some_bytes
      · simp [components, shape, here, hereSegment]
    | cons second rest =>
      rw [components_of_segments shape, opening]
      rcases idle with empty | here
      · simp [empty]
      · simp [here, hereSegment]
  · rw [components_of_busy shape idle, List.filterMap_cons, componentOf?_of_busy idle]
    rw [IsIdle, not_or] at idle
    rw [if_neg idle.1, if_neg idle.2]
    rfl

theorem filterMap_idle {idle : List Bytes} (all : ∀ s ∈ idle, IsIdle s) :
    idle.filterMap componentOf? = [] := by
  rw [List.filterMap_eq_nil_iff]
  intro s mem
  simp [componentOf?, all s mem]

/-- The components of a path are those of its directory and, last, the one of its last segment that
leads anywhere. -/
theorem components_of_last {last : Bytes} {component : Component}
    (shape : p.leading = last :: directory) (leads : componentOf? last = some component) :
    p.components = passed directory ++ [component] := by
  have busy := busy_of_leading shape
  obtain ⟨idle, segments, all⟩ := segments_of_leading shape
  rcases before : directory.reverse with _ | ⟨first, rest⟩
  · -- The last segment is the first as well.
    rw [before, List.nil_append] at segments
    rw [passed, before]
    rcases idle with _ | ⟨second, idle⟩
    · have here : last ≠ hereSegment := fun h => busy (.inr h)
      simp [components, segments, here, leads]
    · have first : opening last = [component] := by
        simp only [IsIdle, not_or] at busy
        simp [opening, busy, leads]
      rw [components_of_segments segments, filterMap_idle all, first]
      rfl
  · rw [passed, before]
    rw [before] at segments
    have second : ∃ second tail, rest ++ last :: idle = second :: tail := by
      cases rest <;> simp
    obtain ⟨second, tail, eq⟩ := second
    rw [List.cons_append, eq] at segments
    rw [components_of_segments segments, ← eq, List.filterMap_append, List.filterMap_cons, leads,
      filterMap_idle all]
    simp

/-- The components of a path with a file name are those of its directory and, last, the name. -/
theorem components_of_leading (shape : p.leading = name :: directory) (down : name ≠ upSegment) :
    p.components = passed directory ++ [.name name] :=
  components_of_last shape (by simp [componentOf?, busy_of_leading shape, down])

/-- A path without a segment that leads anywhere goes to a root, stays here, or is empty. -/
theorem components_of_leading_nil (none_there : p.leading = []) :
    ∀ component ∈ p.components, component = .root ∨ component = .here := by
  have idle : ∀ s ∈ p.segments, IsIdle s := by
    intro s mem
    have split := List.takeWhile_append_dropWhile (p := fun s => decide (IsIdle s))
      (l := p.segments.reverse)
    have all := List.all_takeWhile (p := fun s => decide (IsIdle s)) (l := p.segments.reverse)
    rw [leading] at none_there
    rw [none_there, List.append_nil] at split
    rw [split] at all
    simpa using List.all_eq_true.1 all s (List.mem_reverse.2 mem)
  rcases shape : p.segments with _ | ⟨first, _ | ⟨second, rest⟩⟩
  · exact absurd shape p.segments_ne_nil
  · rw [shape] at idle
    have first_idle := idle first List.mem_cons_self
    simp only [components, shape, List.filterMap_cons, componentOf?, first_idle, if_true,
      List.filterMap_nil]
    split <;> simp
  · rw [shape] at idle
    rw [components_of_segments shape,
      filterMap_idle fun s mem => idle s (List.mem_cons_of_mem _ mem), List.append_nil]
    rcases idle first List.mem_cons_self with empty | here
    · simp [opening, empty]
    · simp [opening, here, hereSegment]

/-- **The file name of a path is the last of its components**, if that is a name. -/
theorem fileName?_eq_some_iff :
    p.fileName? = some name ↔ p.components.getLast? = some (.name name) := by
  constructor
  · intro named
    obtain ⟨directory, shape, down⟩ := leading_of_fileName? named
    rw [components_of_leading shape down, List.getLast?_concat]
  · intro ends
    rcases shape : p.leading with _ | ⟨last, directory⟩
    · have := components_of_leading_nil shape _ (List.mem_of_getLast? ends)
      simp at this
    · by_cases up : last = upSegment
      · have leads : componentOf? last = some .up := by
          rw [up]
          decide
        rw [components_of_last shape leads, List.getLast?_concat] at ends
        cases ends
      · rw [components_of_leading shape up, List.getLast?_concat] at ends
        cases ends
        simp only [fileName?, shape, if_neg up]

/-- Idle segments right before the name make no difference to the components. -/
theorem passed_trimIdle (directory : List Bytes) :
    passed (trimIdle directory) = passed directory := by
  induction directory with
  | nil => rfl
  | cons s rest ih =>
    cases rest with
    | nil => rfl
    | cons t rest =>
      rw [trimIdle]
      · split
        · rename_i idle
          rw [ih, passed, passed, List.reverse_cons (a := s)]
          rcases before : (t :: rest).reverse with _ | ⟨first, more⟩
          · simp at before
          · simp [componentOf?, idle]
        · rfl
      · simp

/-- Trimming leaves out segments at the end of a directory and keeps the others. -/
theorem trimIdle_suffix (directory : List Bytes) : trimIdle directory <:+ directory := by
  induction directory with
  | nil => exact List.suffix_refl _
  | cons s rest ih =>
    cases rest with
    | nil => exact List.suffix_refl _
    | cons t rest =>
      rw [trimIdle]
      · split
        · exact ih.trans (List.suffix_cons s _)
        · exact List.suffix_refl _
      · simp

/-- The first segment of all stays. -/
theorem getLast?_trimIdle (directory : List Bytes) :
    (trimIdle directory).getLast? = directory.getLast? := by
  induction directory with
  | nil => rfl
  | cons s rest ih =>
    cases rest with
    | nil => rfl
    | cons t rest =>
      rw [trimIdle]
      · split
        · rw [ih, List.getLast?_cons_cons]
        · rfl
      · simp

/-- **Paths through the same components have the same file name.** -/
theorem fileName?_of_components (named : (p.fileName?).isSome) (named' : (q.fileName?).isSome)
    (same : p.components = q.components) : p.fileName? = q.fileName? := by
  obtain ⟨n, hn⟩ := Option.isSome_iff_exists.1 named
  obtain ⟨m, hm⟩ := Option.isSome_iff_exists.1 named'
  obtain ⟨d, shape, down⟩ := leading_of_fileName? hn
  obtain ⟨d', shape', down'⟩ := leading_of_fileName? hm
  rw [components_of_leading shape down, components_of_leading shape' down'] at same
  have last := (List.append_inj' same rfl).2
  cases last
  rw [hn, hm]

end Path

end CompilerDriver
