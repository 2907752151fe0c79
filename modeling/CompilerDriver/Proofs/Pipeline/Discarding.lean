import CompilerDriver.Proofs.FileSystem.Sight
import CompilerDriver.Proofs.Pipeline.Failures

/-!
# Removing an intermediate file

* `LacksOnly` — the files without one entry, all else being as before.
* `Sight.refusal?` — the reason for which a removal is refused, by what the path comes to.
* `discard_of_entry`, `discard_of_nothing`, `discard_of_refusal` — the three ways a removal can go,
  and `discard_cases`: there are no others.
* `discarding_of_run` — **removing an intermediate file is exact, all or nothing, and done once**.
-/

namespace CompilerDriver.FileSystem

/-- The files afterwards lack the entry at a location that was there before, and nothing else has
changed: no other entry, no contents of a file, and no directory that a process works in. -/
structure LacksOnly (fs : FileSystem) (l : Location) (after : FileSystem) : Prop where
  there : fs.get? l ≠ none
  entries : ∀ l', after.entryAt? l' = if l' = l then none else fs.entryAt? l'
  stored : after.stored = fs.stored
  cwd : after.cwd = fs.cwd
  waiting : after.waiting = fs.waiting

/-- Erasing an entry that is no directory takes that entry and nothing else. -/
theorem lacksOnly_erase {fs : FileSystem} {l : Location} {node : Node}
    (found : fs.get? l = some node) (file : node ≠ .directory) :
    fs.LacksOnly l (fs.erase l) where
  there := by
    rw [found]
    exact Option.some_ne_none node
  entries := entryAt_erase fs (ne_nil_of_not_canStandIn (not_canStandIn_of_get? found file))
  stored := rfl
  cwd := rfl
  waiting := rfl

theorem LacksOnly.get?_eq_none {fs after : FileSystem} {l : Location}
    (lacks : fs.LacksOnly l after) : after.get? l = none := by
  rw [get?, lacks.entries, if_pos rfl]
  rfl

/-- The reason for which a removal is refused, by what the path comes to. There is none if the path
comes to nothing, or to an entry that is no directory and has no slash after it. -/
def Sight.refusal? : Sight → Option Cause
  | .failure (.os .notFound) => none
  | .failure cause => some cause
  | .directory | .entry _ .directory _ => some (.os .isDirectory)
  | .entry _ _ true => some (.os .notDirectory)
  | .entry _ _ false => none

/-- A path comes to something for which a removal is refused, to nothing, or to an entry that can be
removed. -/
theorem Sight.cases (x : Sight) :
    (∃ cause, x.refusal? = some cause) ∨ x = .failure (.os .notFound) ∨
      ∃ l node, x = .entry l node false ∧ node ≠ .directory := by
  rcases x with ⟨l, _ | _ | _ | _, _ | _⟩ | _ | cause
  case entry.directory.false | entry.directory.true => exact .inl ⟨_, rfl⟩
  case entry.file.true | entry.link.true | entry.device.true => exact .inl ⟨_, rfl⟩
  case entry.file.false | entry.link.false | entry.device.false =>
    exact .inr (.inr ⟨l, _, rfl, by simp⟩)
  case directory => exact .inl ⟨_, rfl⟩
  case failure =>
    by_cases missing : cause = .os .notFound
    · exact .inr (.inl (by rw [missing]))
    · exact .inl ⟨cause, by unfold refusal?; split <;> simp_all⟩

/-- A removal that is refused fails with that reason, which is another than that nothing is
there. -/
theorem Sight.unlinked_of_refusal {x : Sight} {cause : Cause} (refused : x.refusal? = some cause)
    (fs : FileSystem) : x.unlinked fs = .error cause ∧ cause ≠ .os .notFound := by
  unfold refusal? at refused
  split at refused
  · cases refused
  · rename_i cause' other
    cases refused
    exact ⟨rfl, other⟩
  · cases refused
    exact ⟨rfl, by simp⟩
  · cases refused
    exact ⟨rfl, by simp⟩
  · rename_i l node no_directory
    cases refused
    cases node <;> simp_all [unlinked]
  · cases refused

end CompilerDriver.FileSystem

namespace CompilerDriver.Pipeline

open Plan FileSystem

variable {σ : Type}

section discard

variable (tools : Toolchain σ) {path : Path} (s : σ) {fs : FileSystem}

/-- An entry that is no directory is taken away, and that is noted. -/
theorem discard_of_entry {l : Location} {node : Node} (sees : fs.Sees path (.entry l node false))
    (file : node ≠ .directory) :
    perform tools (discard path) s fs =
      ⟨.ok (), [.unlinked path (.ok ()), noted .debug s!"removed {path.display}"], s,
        fs.erase l⟩ := by
  have reply : removal fs path = (.ok (), fs.erase l) := by
    rw [removal, unlink_eq, sees_iff.1 sees]
    cases node with
    | directory => exact absurd rfl file
    | file | link | device => rfl
  rw [perform_discard, reply]
  rfl

/-- Where there is nothing, nothing is done, and that is no failure. -/
theorem discard_of_nothing (sees : fs.Sees path (.failure (.os .notFound))) :
    perform tools (discard path) s fs =
      ⟨.ok (), [.unlinked path (.error (.os .notFound))], s, fs⟩ := by
  have reply : removal fs path = (.error (.os .notFound), fs) := by
    rw [removal, unlink_eq, sees_iff.1 sees]
    rfl
  rw [perform_discard, reply]
  rfl

/-- A removal that is refused fails with its path and the reason, and does nothing. -/
theorem discard_of_refusal {x : Sight} {cause : Cause} (sees : fs.Sees path x)
    (refused : x.refusal? = some cause) :
    perform tools (discard path) s fs =
      ⟨.error (.notRemoved path cause), [.unlinked path (.error cause)], s, fs⟩ := by
  obtain ⟨unlinked, other⟩ := Sight.unlinked_of_refusal refused fs
  have reply : removal fs path = (.error cause, fs) := by
    rw [removal, unlink_eq, sees_iff.1 sees, unlinked]
  rw [perform_discard, reply, discarded_of_refused path other]
  rfl

variable (path fs)

/-- A removal goes one of three ways: it takes an entry away, finds nothing, or is refused. -/
theorem discard_cases :
    (∃ l node, fs.Sees path (.entry l node false) ∧ node ≠ .directory ∧
      perform tools (discard path) s fs =
        ⟨.ok (), [.unlinked path (.ok ()), noted .debug s!"removed {path.display}"], s,
          fs.erase l⟩) ∨
    (fs.Sees path (.failure (.os .notFound)) ∧
      perform tools (discard path) s fs =
        ⟨.ok (), [.unlinked path (.error (.os .notFound))], s, fs⟩) ∨
    ∃ cause, perform tools (discard path) s fs =
      ⟨.error (.notRemoved path cause), [.unlinked path (.error cause)], s, fs⟩ := by
  rcases (fs.sight path).cases with ⟨cause, refused⟩ | nothing | ⟨l, node, seen, file⟩
  · exact .inr (.inr ⟨cause, discard_of_refusal tools s (sees_iff.2 rfl) refused⟩)
  · have sees : fs.Sees path (.failure (.os .notFound)) := sees_iff.2 nothing
    exact .inr (.inl ⟨sees, discard_of_nothing tools s sees⟩)
  · have sees : fs.Sees path (.entry l node false) := sees_iff.2 seen
    exact .inl ⟨l, node, sees, file, discard_of_entry tools s sees file⟩

/-- After a removal that succeeds the path comes to nothing. -/
theorem sees_of_discarded (done : (perform tools (discard path) s fs).result = .ok ()) :
    (perform tools (discard path) s fs).files.Sees path (.failure (.os .notFound)) := by
  rcases discard_cases tools path s fs with
    ⟨l, node, sees, file, run⟩ | ⟨sees, run⟩ | ⟨cause, run⟩
  · rw [run]
    exact sees_iff.2 (sight_erase (sees_iff.1 sees) file)
  · rw [run]
    exact sees
  · rw [run] at done
    cases done

/-- A removal is noted exactly if some entry is there before and not there after. -/
theorem noted_iff_of_discard :
    let run := perform tools (discard path) s fs
    noted .debug s!"removed {path.display}" ∈ run.events ↔
      ∃ l, fs.get? l ≠ none ∧ run.files.get? l = none := by
  intro run
  have unnoted (result : Except Cause Unit) :
      noted .debug s!"removed {path.display}" ∉ [Event.unlinked path result] := by
    rw [List.mem_singleton]
    intro same
    cases same
  have unchanged : ¬ ∃ l, fs.get? l ≠ none ∧ fs.get? l = none := fun ⟨_, there, gone⟩ => there gone
  rcases discard_cases tools path s fs with
    ⟨l, node, sees, file, eq⟩ | ⟨-, eq⟩ | ⟨cause, eq⟩ <;> rw [show run = _ from eq]
  · have found := (entry_of_sight (sees_iff.1 sees)).1
    have lacks := lacksOnly_erase found file
    exact iff_of_true (by simp) ⟨l, lacks.there, lacks.get?_eq_none⟩
  · exact iff_of_false (unnoted _) unchanged
  · exact iff_of_false (unnoted _) unchanged

end discard

/-- **Removing an intermediate file is exact, all or nothing, and done once.** A path comes to one
thing, if a last link is not followed. If that is an entry that is no directory, without a slash
after it, the entry is taken away, be it a link, and all else is left alone; if the path comes to
nothing, all is left alone; and both are successes. In all other cases the removal fails with the
path and the reason, and all is left alone. After a success the path comes to nothing, so that a
second removal succeeds and changes nothing. A removal is noted exactly if an entry was taken
away. -/
theorem discarding_of_run (tools : Toolchain σ) (path : Path) (s : σ) (fs : FileSystem) :
    let run := perform tools (discard path) s fs
    let again := perform tools (discard path) run.state run.files
    let removed := noted .debug s!"removed {path.display}"
    (∃ x, ∀ y, fs.Sees path y ↔ y = x) ∧
      (∀ l node, fs.Sees path (.entry l node false) → node ≠ .directory →
        run.result = .ok () ∧ fs.get? l = some node ∧ fs.LacksOnly l run.files) ∧
      (fs.Sees path (.failure (.os .notFound)) → run.result = .ok () ∧ run.files = fs) ∧
      (∀ x cause, fs.Sees path x → x.refusal? = some cause →
        run.result = .error (.notRemoved path cause) ∧ run.files = fs) ∧
      (run.result = .ok () → run.files.Sees path (.failure (.os .notFound)) ∧
        again.result = .ok () ∧ again.files = run.files) ∧
      (∀ failure, run.result = .error failure → run.files = fs) ∧
      (removed ∈ run.events ↔ ∃ l, fs.get? l ≠ none ∧ run.files.get? l = none) ∧
      (∀ entry, .recorded entry ∈ run.events → .recorded entry = removed) ∧
      run.calls = [] := by
  intro run again removed
  have ways := discard_cases tools path s fs
  change (∃ l node, _ ∧ _ ∧ run = _) ∨ (_ ∧ run = _) ∨ ∃ cause, run = _ at ways
  refine ⟨⟨fs.sight path, fun y => sees_iff.trans eq_comm⟩, ?_, ?_, ?_, ?_, ?_,
    noted_iff_of_discard tools path s fs, ?_, ?_⟩
  · intro l node sees file
    have found := (entry_of_sight (sees_iff.1 sees)).1
    rw [show run = _ from discard_of_entry tools s sees file]
    exact ⟨rfl, found, lacksOnly_erase found file⟩
  · intro sees
    rw [show run = _ from discard_of_nothing tools s sees]
    exact ⟨rfl, rfl⟩
  · intro x cause sees refused
    rw [show run = _ from discard_of_refusal tools s sees refused]
    exact ⟨rfl, rfl⟩
  · intro done
    have sees := sees_of_discarded tools path s fs done
    rw [show again = _ from discard_of_nothing tools run.state sees]
    exact ⟨sees, rfl, rfl⟩
  · intro failure failed
    rcases ways with ⟨l, node, -, -, eq⟩ | ⟨-, eq⟩ | ⟨cause, eq⟩
    · rw [eq] at failed
      cases failed
    · rw [eq]
    · rw [eq]
  · intro entry mem
    rcases ways with ⟨l, node, -, -, eq⟩ | ⟨-, eq⟩ | ⟨cause, eq⟩ <;>
      rw [eq] at mem <;>
      simp only [List.mem_cons, List.not_mem_nil, reduceCtorEq, false_or, or_false] at mem
    exact mem
  · rcases ways with ⟨l, node, -, -, eq⟩ | ⟨-, eq⟩ | ⟨cause, eq⟩ <;>
      rw [eq] <;> rfl

end CompilerDriver.Pipeline
