import CompilerDriver.Proofs.FileSystem.Parent
import CompilerDriver.Proofs.Source.Form

/-!
# The directory of a source

* `Placed.standsAs_beside` — a path beside a source stands in the directory of the source under its
  own name, if it is not too long.
* `beside_of_validate` — **what is made from a source is beside its input**: in the directory to which
  the parent of the input leads, even where the input is a link to somewhere else.
-/

namespace CompilerDriver

open FileSystem

namespace Source

variable {fs : FileSystem} {p : Path} {source : Source}

section placed

variable {before : List Bytes} {stem extension tail : Bytes} {d : Location}

/-- A path beside a source has no zero byte if the source has none. -/
theorem Placed.no_nul_beside (placed : source.Placed fs before stem extension d)
    (no_nul : 0 ∉ source.path.bytes) (no_nul_tail : 0 ∉ tail) :
    0 ∉ (beside before (stem ++ tail)).bytes := by
  have around : ∀ s ∈ (stem ++ Bytes.dot :: extension) :: before, 0 ∉ s := by
    intro s mem nul
    refine no_nul (Path.mem_bytes_of_mem ?_ nul)
    rw [placed.segments]
    exact List.mem_reverse.2 mem
  intro nul
  rcases Bytes.mem_join nul with separator | ⟨s, mem, inside⟩
  · exact absurd separator (by decide)
  · rcases List.mem_cons.1 (List.mem_reverse.1 mem) with rfl | mem
    · have name := around _ List.mem_cons_self
      rw [List.mem_append, not_or] at name
      exact (List.mem_append.1 inside).elim name.1 no_nul_tail
    · exact around s (.tail _ ((Path.trimIdle_suffix before).subset mem)) inside

/-- A path beside a source stands in the directory of the source, if it is not too long. -/
theorem Placed.standsAs_beside (placed : source.Placed fs before stem extension d)
    (anchored : ∀ name, source.path.components.head? ≠ some (.name name))
    (no_nul : 0 ∉ source.path.bytes) (plain_tail : Bytes.slash ∉ tail ∧ 0 ∉ tail)
    (short_tail : tail.length ≤ 2)
    (room : (beside before (stem ++ tail)).bytes.length ≤ pathLimit) :
    fs.StandsAs (beside before (stem ++ tail)) d (stem ++ tail) := by
  obtain ⟨component, begins, other⟩ :=
    placed.head?_of_passed anchored (placed.components_beside plain_tail.1)
  have taken := accept_eq_ok_iff.2
    ⟨placed.no_nul_beside no_nul plain_tail.2, Path.ne_nil_of_components begins, room⟩
  refine standsAs_of_locate (placed.locate_beside plain_tail.1 short_tail taken) ?_
  rw [begins]
  exact fun name same => other name (Option.some.inj same)

end placed

/-- **What is made from a source is beside its input.** The parent of the input leads to a directory,
in which the input is an entry of its own name, be it a link. The parents of the files that are made
lead to the same directory, and there they are entries under the stem of that name. -/
theorem beside_of_validate (accepted : validate fs p = .ok source) :
    ∃ d stem extension, fs.get? d = some .directory ∧ fs.StandsIn p d ∧
      fs.locate p = .ok (.entry d (stem ++ Bytes.dot :: extension) false) ∧
      p.components.getLast? = some (.name (stem ++ Bytes.dot :: extension)) ∧
      Bytes.dot ∉ stem ∧ Bytes.dot ∉ extension ∧
      (source.preprocessed.bytes.length ≤ pathLimit →
        fs.StandsAs source.preprocessed d (stem ++ Bytes.ofString ".i")) ∧
      (source.assembly.bytes.length ≤ pathLimit →
        fs.StandsAs source.assembly d (stem ++ Bytes.ofString ".s")) ∧
      (source.executable.bytes.length ≤ pathLimit → fs.StandsAs source.executable d stem) := by
  obtain ⟨before, stem, extension, d, placed, located⟩ := placed_of_validate accepted
  have anchored := head?_path_of_validate accepted
  have no_nul : 0 ∉ source.path.bytes := by
    rw [path_of_validate accepted, Path.nul_mem_anchored]
    exact (accept_eq_ok_iff.1 (locate_bare_iff.1 located).1).1
  refine ⟨d, stem, extension, ?_, standsIn_of_locate located, located,
    Path.fileName?_eq_some_iff.1 (fileName?_of_locate located), placed.dot_stem,
    placed.dot_extension, ?_, ?_, ?_⟩
  · exact get?_of_canStandIn placed.stands placed.there
  · rw [preprocessed, placed.withExtension_eq]
    exact placed.standsAs_beside anchored no_nul (by decide) (by decide)
  · rw [assembly, placed.withExtension_eq]
    exact placed.standsAs_beside anchored no_nul (by decide) (by decide)
  · have stands := placed.standsAs_beside anchored no_nul ⟨List.not_mem_nil, List.not_mem_nil⟩
      (Nat.zero_le _)
    rwa [← placed.executable_eq, List.append_nil] at stands

/-- The input is a link in a directory that is reached over a link and back up: without the two dots
the path would lead elsewhere. -/
theorem beside_linked_input :
    let real : Location := [Bytes.ofString "deep", Bytes.ofString "real"]
    let start : FileSystem :=
      { entries := [([Bytes.ofString "w"], .directory),
          ([Bytes.ofString "sub", Bytes.ofString "w"], .link (Path.ofString "../real/deep")),
          ([Bytes.ofString "real"], .directory), (real, .directory),
          (Bytes.ofString "foo.c" :: real, .link (Path.ofString "../../bar")),
          ([Bytes.ofString "bar"], .file 0)]
        cwd := [Bytes.ofString "w"] }
    let p := Path.ofString "sub/../deep//foo.c"
    let source : Source :=
      ⟨Path.ofString "./sub/../deep//foo.c", Path.ofString "./sub/../deep/foo"⟩
    validate start p = .ok source ∧ start.resolve p = .ok [Bytes.ofString "bar"] ∧
      start.locate p = .ok (.entry real (Bytes.ofString "foo.c") false) ∧
      start.StandsIn p real ∧ start.StandsAs source.executable real (Bytes.ofString "foo") := by
  intro real start p source
  have accepted : validate start p = .ok source := rfl
  have located : start.locate p = .ok (.entry real (Bytes.ofString "foo.c") false) := rfl
  obtain ⟨d, stem, extension, -, parent, located', -, plain, -, -, -, made⟩ :=
    beside_of_validate accepted
  obtain ⟨rfl, name, -⟩ := Slot.entry.inj (Except.ok.inj (located.symm.trans located'))
  have shape : Bytes.ofString "foo" ++ Bytes.dot :: Bytes.ofString "c" =
      stem ++ Bytes.dot :: extension := name
  obtain rfl := stem_unique plain (by decide) shape
  have stands := made (by decide)
  exact ⟨accepted, rfl, located, parent, stands⟩

end Source

end CompilerDriver
