import CompilerDriver.Proofs.FileSystem.Agreement
import CompilerDriver.Proofs.Plan.Moments

/-!
# What calls and removals touch

* `WritesOnly` — a call writes at some places only, and leaves files there.
* `WritesOnly.alike`, `alike_removal` — **what writes at some places only, or removes what is named
  there, leaves a state of the files that agrees elsewhere** with the one before.
* `removal_of_locate` — what a removal comes to where there is a file or nothing.
-/

namespace CompilerDriver.Plan

open FileSystem

variable {σ : Type} {tools : Toolchain σ} {request : ToolCall} {s : σ} {fs f : FileSystem}
  {places inner : Location → Prop} {path : Path}

/-- A call writes at no other places than these. Where there was a regular file or nothing it leaves
a regular file or nothing. -/
structure WritesOnly (places : Location → Prop) (tools : Toolchain σ) (request : ToolCall) (s : σ)
    (fs : FileSystem) : Prop where
  cwd : (tools.answer request s fs).files.cwd = fs.cwd
  elsewhere : ∀ l, ¬ places l → (tools.answer request s fs).files.get? l = fs.get? l
  file : ∀ l, places l → (∀ node, fs.get? l = some node → node.isFile = true) →
    ∀ node, (tools.answer request s fs).files.get? l = some node → node.isFile = true

/-- A call that writes at some of the places makes no difference elsewhere. -/
theorem WritesOnly.alike (writes : WritesOnly inner tools request s f)
    (alike : AlikeOutside places fs f) (within : ∀ l, inner l → places l) :
    AlikeOutside places fs (tools.answer request s f).files := by
  refine alike.changed writes.cwd (fun l off => writes.elsewhere l (mt (within l) off)) ?_
  intro l place node found
  have before := (alike.leaf' l place).file
  by_cases mem : inner l
  · exact writes.file l mem before node found
  · rw [writes.elsewhere l mem] at found
    exact before node found

/-- A call that changes nothing writes nowhere. -/
theorem WritesOnly.of_same (same : (tools.answer request s fs).files = fs) :
    WritesOnly places tools request s fs where
  cwd := by rw [same]
  elsewhere l _ := by rw [same]
  file l _ before := by rwa [same]

/-- A call that puts a file at one of the places writes nowhere else. -/
theorem WritesOnly.of_put {l : Location} {contents : Bytes} {mode : Mode} (place : places l)
    (below : l ≠ []) (put : (tools.answer request s fs).files = fs.put l (.file contents mode)) :
    WritesOnly places tools request s fs where
  cwd := by rw [put, cwd_put]
  elsewhere l' off := by
    have other : l' ≠ l := by
      rintro rfl
      exact off place
    rw [put, get?_put fs below, if_neg other]
  file l' _ before node found := by
    rw [put, get?_put fs below] at found
    split at found
    · cases found
      rfl
    · exact before node found

/-- A removal changes at most that an entry is gone. -/
theorem removal_cases (fs : FileSystem) (path : Path) :
    (removal fs path).2 = fs ∨ ∃ l, fs.Names path l ∧ (removal fs path).2 = fs.erase l := by
  unfold removal
  cases done : fs.unlink path with
  | error cause => exact .inl rfl
  | ok after =>
    obtain ⟨directory, name, located, -, rfl⟩ := entry_of_unlink done
    exact .inr ⟨_, ⟨directory, name, false, located, rfl⟩, rfl⟩

/-- A removal of what is named at some places makes no difference elsewhere. -/
theorem alike_removal (alike : AlikeOutside places fs f)
    (named : ∀ l, fs.Names path l → places l) :
    AlikeOutside places fs (removal f path).2 := by
  rcases removal_cases f path with same | ⟨gone, names, erased⟩
  · rwa [same]
  · rw [erased]
    exact alike.erase (named gone (alike.names_iff.1 names))

/-- A removal erases the file at the end of a path, and finds nothing if there is none. -/
theorem removal_of_locate {directory : Location} {name : Bytes}
    (located : fs.locate path = .ok (.entry directory name false))
    (leaf : fs.Leaf (name :: directory)) :
    removal fs path =
      if fs.get? (name :: directory) = none then (.error (.os .notFound), fs)
      else (.ok (), fs.erase (name :: directory)) := by
  rw [removal, unlink_of_locate located leaf]
  by_cases empty : fs.get? (name :: directory) = none
  · simp only [if_pos empty]
  · simp only [if_neg empty]

/-- What the operating system does not take is not removed. -/
theorem removal_of_refused {cause : Cause} (refused : accept path = .error cause)
    (fs : FileSystem) : removal fs path = (.error cause, fs) := by
  rw [removal, unlink_of_refused refused]

end CompilerDriver.Plan
