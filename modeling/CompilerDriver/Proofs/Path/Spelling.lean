import CompilerDriver.Proofs.Path.Anchored

/-!
# Spellings of a path

* `steps` — the segments that lead somewhere. `filterMap_segment?` and `isAbsolute_iff_root`: the
  components of a path tell its steps and whether it starts at the root, and nothing else. So **paths
  that go through the same components once they are anchored have the same steps from the same
  start** (`steps_of_components`, `isAbsolute_of_components`).
* `Respelled` — the ways to write a path with more slashes and dots in it: slashes and `/.` where a
  slash stands, and `./` in front of a plain relative path.
* `components_of_respelled` — **a path that is respelled goes through the same components once it is
  anchored**. Each way puts in idle segments that have segments before and after them
  (`components_of_idle`), or the segment that anchoring would put in (`components_here`).
-/

namespace CompilerDriver.Path

variable {p q : Path}

/-! ## What the components tell -/

/-- The segments that lead somewhere. -/
def steps (segments : List Bytes) : List Bytes := segments.filter fun s => ¬ IsIdle s

/-- The segment that a component was read off; a root and a `.` at the front lead nowhere. -/
def Component.segment? : Component → Option Bytes
  | .root | .here => none
  | .up => some upSegment
  | .name segment => some segment

@[simp] theorem steps_nil : steps [] = [] := rfl

theorem steps_cons_of_idle {segment : Bytes} (idle : IsIdle segment) (rest : List Bytes) :
    steps (segment :: rest) = steps rest := by
  simp [steps, idle]

theorem steps_cons_of_busy {segment : Bytes} (busy : ¬ IsIdle segment) (rest : List Bytes) :
    steps (segment :: rest) = segment :: steps rest := by
  simp [steps, busy]

@[simp] theorem steps_append (before after : List Bytes) :
    steps (before ++ after) = steps before ++ steps after :=
  List.filter_append before after

@[simp] theorem steps_steps (segments : List Bytes) : steps (steps segments) = steps segments := by
  simp [steps]

theorem not_idle_of_mem_steps {segment : Bytes} {segments : List Bytes}
    (mem : segment ∈ steps segments) : ¬ IsIdle segment :=
  of_decide_eq_true (List.mem_filter.1 mem).2

/-- The component of a segment that leads somewhere tells the segment. -/
theorem exists_component_of_busy {segment : Bytes} (busy : ¬ IsIdle segment) :
    ∃ component, componentOf? segment = some component ∧ component.segment? = some segment := by
  rw [componentOf?_of_busy busy]
  by_cases up : segment = upSegment
  · exact ⟨.up, by rw [if_pos up], by rw [up]; rfl⟩
  · exact ⟨.name segment, by rw [if_neg up], rfl⟩

/-- Reading components off segments and going back keeps the segments that lead somewhere. -/
theorem filterMap_componentOf? (segments : List Bytes) :
    (segments.filterMap componentOf?).filterMap Component.segment? = steps segments := by
  induction segments with
  | nil => rfl
  | cons segment rest ih =>
    by_cases idle : IsIdle segment
    · rw [List.filterMap_cons_none (by simp [componentOf?, idle]), ih, steps_cons_of_idle idle]
    · obtain ⟨component, read, back⟩ := exists_component_of_busy idle
      rw [List.filterMap_cons_some read, List.filterMap_cons_some back, ih,
        steps_cons_of_busy idle]

theorem filterMap_opening (first : Bytes) :
    (opening first).filterMap Component.segment? = steps [first] := by
  unfold opening
  split
  · rename_i empty
    rw [steps_cons_of_idle (.inl empty)]
    rfl
  · split
    · rename_i here
      rw [steps_cons_of_idle (.inr here)]
      rfl
    · rw [← filterMap_componentOf?, List.filterMap_cons]
      cases componentOf? first <;> rfl

/-- The components of a path tell which of its segments lead somewhere. -/
theorem filterMap_segment? (p : Path) :
    p.components.filterMap Component.segment? = steps p.segments := by
  rcases shape : p.segments with _ | ⟨first, _ | ⟨second, rest⟩⟩
  · exact absurd shape p.segments_ne_nil
  · by_cases here : first = hereSegment
    · rw [steps_cons_of_idle (.inr here)]
      simp only [components, shape, if_pos here]
      rfl
    · simp only [components, shape, if_neg here]
      exact filterMap_componentOf? _
  · rw [components_of_segments shape, List.filterMap_append, filterMap_opening,
      filterMap_componentOf?, ← steps_append, List.singleton_append]

/-- The components of a path tell whether it starts at the root. -/
theorem isAbsolute_iff_root : p.isAbsolute = true ↔ p.components.head? = some .root := by
  obtain ⟨first, rest, shape⟩ := List.exists_cons_of_ne_nil p.segments_ne_nil
  by_cases empty : p.bytes = []
  · obtain ⟨bytes⟩ := p
    subst empty
    decide
  · have absolute := head?_segments_iff (p := p)
    rw [or_iff_right empty, shape, List.head?_cons, Option.some.injEq] at absolute
    rw [← absolute, head?_components shape empty]
    split
    · rename_i root
      simp [root]
    · rename_i other
      simp only [other, false_iff, Option.some.injEq]
      split
      · simp
      · split <;> simp

/-! ## Anchored paths through the same components -/

/-- Paths that go through the same components still do once they are anchored. -/
theorem components_anchored_congr (same : p.components = q.components) :
    p.anchored.components = q.anchored.components := by
  rcases anchored_cases p with ⟨name, begins, anchored⟩ | ⟨other, anchored⟩
  · have begins' : q.components.head? = some (.name name) := same ▸ begins
    rw [anchored, components_here begins, anchored_eq begins', components_here begins', same]
  · rw [anchored, anchored_eq_self (same ▸ other), same]

/-- Anchoring adds no steps. -/
theorem steps_anchored (p : Path) : steps p.anchored.segments = steps p.segments := by
  rw [← filterMap_segment?, ← filterMap_segment?]
  rcases components_anchored p with same | here
  · rw [same]
  · rw [here, List.filterMap_cons_none rfl]

section same

variable (same : p.anchored.components = q.anchored.components)

include same

/-- Paths through the same components have the same steps. -/
theorem steps_of_components : steps p.segments = steps q.segments := by
  rw [← steps_anchored p, ← steps_anchored q, ← filterMap_segment?, ← filterMap_segment?, same]

/-- Paths through the same components start at the same place. -/
theorem isAbsolute_of_components : p.isAbsolute = q.isAbsolute := by
  rw [← isAbsolute_anchored p, ← isAbsolute_anchored q, Bool.eq_iff_iff, isAbsolute_iff_root,
    isAbsolute_iff_root, same]

end same

/-! ## More slashes and dots -/

/-- A path is written like `p`, but for slashes and dots that make no difference. -/
inductive Respelled (p : Path) : Path → Prop where
  /-- Nothing is put in. -/
  | same : Respelled p p
  /-- A slash is doubled. -/
  | slash (front back : Bytes) (before : Respelled p ⟨front ++ Bytes.slash :: back⟩) :
      Respelled p ⟨front ++ Bytes.slash :: Bytes.slash :: back⟩
  /-- `/.` is put in before a slash. -/
  | dot (front back : Bytes) (before : Respelled p ⟨front ++ Bytes.slash :: back⟩) :
      Respelled p ⟨front ++ Bytes.slash :: Bytes.dot :: Bytes.slash :: back⟩
  /-- `./` is put in front of a path that begins with a name. -/
  | here {q : Path} {name : Bytes} (before : Respelled p q)
      (begins : q.components.head? = some (.name name)) :
      Respelled p ⟨Bytes.dot :: Bytes.slash :: q.bytes⟩

/-- An idle segment makes no difference where there are segments before it and after it. -/
theorem components_of_idle {before after : List Bytes} {segment : Bytes}
    (some_before : before ≠ []) (some_after : after ≠ []) (idle : IsIdle segment)
    (shape : p.segments = before ++ after) (shape' : q.segments = before ++ segment :: after) :
    p.components = q.components := by
  obtain ⟨first, before, rfl⟩ := List.exists_cons_of_ne_nil some_before
  have through {r : Path} {more : List Bytes} (shape : r.segments = first :: more)
      (some_more : more ≠ []) : r.components = opening first ++ more.filterMap componentOf? := by
    obtain ⟨second, rest, rfl⟩ := List.exists_cons_of_ne_nil some_more
    exact components_of_segments shape
  rw [List.cons_append] at shape shape'
  rw [through shape (by simp [some_after]), through shape' (by simp), List.filterMap_append,
    List.filterMap_append, List.filterMap_cons_none (by simp [componentOf?, idle])]

/-- A slash divides the segments of a path into those before it and those after it. -/
theorem segments_slash (front back : Bytes) :
    (⟨front ++ Bytes.slash :: back⟩ : Path).segments =
      (⟨front⟩ : Path).segments ++ (⟨back⟩ : Path).segments :=
  Bytes.pieces_append_cons front back

/-- Slashes and dots between two slashes are an idle segment. -/
theorem components_between {segment : Bytes} (idle : IsIdle segment) (front back : Bytes) :
    (⟨front ++ Bytes.slash :: back⟩ : Path).components =
      (⟨front ++ Bytes.slash :: (segment ++ Bytes.slash :: back)⟩ : Path).components := by
  have plain : Bytes.slash ∉ segment := by
    rcases idle with rfl | rfl <;> decide
  refine components_of_idle (segments_ne_nil _) (segments_ne_nil _) idle
    (segments_slash front back) ?_
  rw [segments_slash, segments_slash]
  exact congrArg _ (congrArg (· ++ _) (Bytes.pieces_of_not_mem plain))

/-- **A path that is respelled goes through the same components**, once it is anchored. -/
theorem components_of_respelled (respelled : p.Respelled q) :
    p.anchored.components = q.anchored.components := by
  induction respelled with
  | same => rfl
  | slash front back _ ih =>
    exact ih.trans (components_anchored_congr (components_between (.inl rfl) front back))
  | dot front back _ ih =>
    exact ih.trans (components_anchored_congr (components_between (.inr rfl) front back))
  | here _ begins ih =>
    -- What is put in front is what anchoring puts there, and anchoring again adds nothing.
    rw [ih, ← anchored_eq begins, anchored_anchored]

end CompilerDriver.Path
