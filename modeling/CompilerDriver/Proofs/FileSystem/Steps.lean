import CompilerDriver.Proofs.FileSystem.Sight
import CompilerDriver.Proofs.Path.Spelling

/-!
# Lookups go by the steps of a path

* `walk_cons_congr` — one segment is walked along alike before two rests that are walked along alike.
* `EndsBusy` — the last of some segments leads somewhere. What stands after an idle segment then needs
  the same directory as the idle segment does.
* `walk_steps` — **idle segments before a last step make no difference to a walk**, whether it arrives
  or fails. The induction is on the links first: the target of a link comes before what is left of the
  segments, and may hold idle segments itself.
* `resolve_of_components` — so **paths through the same components are resolved alike**, in every file
  system, if they end in a step and the operating system takes them.
-/

namespace CompilerDriver.FileSystem

variable {fs : FileSystem}

/-- The last segment, if there is one, leads somewhere. -/
def EndsBusy (segments : List Bytes) : Prop := ∀ last ∈ segments.getLast?, ¬ Path.IsIdle last

theorem EndsBusy.of_cons {segment : Bytes} {rest : List Bytes} (ends : EndsBusy (segment :: rest)) :
    EndsBusy rest := by
  intro last mem
  refine ends last ?_
  obtain ⟨front, rfl⟩ := List.getLast?_eq_some_iff.1 mem
  rw [← List.cons_append, List.getLast?_concat]
  rfl

/-- Where a last segment leads somewhere there is a step. -/
theorem EndsBusy.steps_ne_nil {segments : List Bytes} (ends : EndsBusy segments)
    (some_segment : segments ≠ []) : Path.steps segments ≠ [] := by
  obtain ⟨front, last, rfl⟩ := List.eq_nil_or_concat segments |>.resolve_left some_segment
  rw [List.concat_eq_append] at ends ⊢
  have busy := ends last (by rw [List.getLast?_concat]; rfl)
  simp [Path.steps_cons_of_busy busy]

theorem endsBusy_steps (segments : List Bytes) : EndsBusy (Path.steps segments) :=
  fun _ mem => Path.not_idle_of_mem_steps (List.mem_of_getLast? mem)

theorem EndsBusy.append {rest : List Bytes} (ends : EndsBusy rest) (some_rest : rest ≠ [])
    (before : List Bytes) : EndsBusy (before ++ rest) := by
  intro last mem
  refine ends last ?_
  rwa [List.getLast?_append, Option.or_eq_left_of_isSome (by simpa using some_rest)] at mem

/-! ## Walks -/

section walks

variable {links : Nat} {l : Location}

/-- One segment is walked along alike before two rests that are walked along alike, be it from
where the walk is or behind the target of a link. -/
theorem walk_cons_congr {rest rest' : List Bytes}
    (behind : ∀ l target, fs.onward links l (target ++ rest) = fs.onward links l (target ++ rest'))
    (same : ∀ l, fs.walk links l rest = fs.walk links l rest') (segment : Bytes) :
    fs.walk links l (segment :: rest) = fs.walk links l (segment :: rest') := by
  rw [walk_eq] at same ⊢
  simp only [walkBetweenLinks, behind, same]

/-- A walk takes only the steps if it does behind the targets of links. -/
theorem walk_steps_of_onward
    (behind : ∀ l target rest, EndsBusy rest →
      fs.onward links l (target ++ Path.steps rest) = fs.onward links l (target ++ rest))
    (segments : List Bytes) :
    EndsBusy segments → ∀ l, fs.walk links l (Path.steps segments) = fs.walk links l segments := by
  induction segments with
  | nil => exact fun _ _ => rfl
  | cons segment rest ih =>
    intro ends l
    by_cases idle : Path.IsIdle segment
    · rw [Path.steps_cons_of_idle idle]
      rcases stands : fs.canStandIn l with _ | _
      · -- Neither the idle segment nor the step that comes after it can be taken.
        have some_steps := ends.steps_ne_nil (List.cons_ne_nil segment rest)
        rw [Path.steps_cons_of_idle idle] at some_steps
        obtain ⟨step, more, shape⟩ := List.exists_cons_of_ne_nil some_steps
        rw [shape, walk_outside stands, walk_outside stands]
      · rw [walk_idle stands idle]
        exact ih ends.of_cons l
    · rw [Path.steps_cons_of_busy idle]
      exact walk_cons_congr (fun l target => behind l target rest ends.of_cons)
        (ih ends.of_cons) segment

/-- **A walk takes only the steps**: idle segments before the last step make no difference. -/
theorem walk_steps {segments : List Bytes} (ends : EndsBusy segments) :
    fs.walk links l (Path.steps segments) = fs.walk links l segments := by
  induction links generalizing l segments with
  | zero => exact walk_steps_of_onward (fun _ _ _ _ => rfl) segments ends l
  | succ links fewer =>
    refine walk_steps_of_onward (fun l target rest ends => ?_) segments ends l
    rcases rest with _ | ⟨segment, rest⟩
    · rfl
    have some_rest := List.cons_ne_nil segment rest
    have some_steps := ends.steps_ne_nil some_rest
    calc
      fs.walk links l (target ++ Path.steps (segment :: rest))
        = fs.walk links l (Path.steps (target ++ Path.steps (segment :: rest))) :=
          (fewer ((endsBusy_steps _).append some_steps target)).symm
      _ = fs.walk links l (Path.steps (target ++ segment :: rest)) := by
          rw [Path.steps_append, Path.steps_append, Path.steps_steps]
      _ = fs.walk links l (target ++ segment :: rest) := fewer (ends.append some_rest target)

end walks

/-! ## Lookups -/

section lookups

variable {p q : Path}

/-- A path that ends in an entry, with no slash after it, ends in a step. -/
theorem endsBusy_of_locate {directory : Location} {name : Bytes}
    (located : fs.locate p = .ok (.entry directory name false)) : EndsBusy p.segments := by
  obtain ⟨-, before, segments, -, -, busy, -⟩ := locate_bare_iff.1 located
  rw [segments, List.reverse_cons]
  intro last mem
  rw [List.getLast?_concat, Option.mem_some_iff] at mem
  exact mem ▸ busy

/-- **Paths through the same components are resolved alike**: the one leads where the other leads, or
fails as it does. -/
theorem resolve_of_components (taken : accept p = .ok ()) (taken' : accept q = .ok ())
    (ends : EndsBusy p.segments) (ends' : EndsBusy q.segments)
    (same : p.anchored.components = q.anchored.components) : fs.resolve p = fs.resolve q := by
  have start : startOf fs.cwd p = startOf fs.cwd q := by
    rw [startOf, startOf, Path.isAbsolute_of_components same]
  rw [resolve, resolve, taken, taken', start, ← walk_steps ends, ← walk_steps ends',
    Path.steps_of_components same]

end lookups

end CompilerDriver.FileSystem
