import CompilerDriver.Proofs.FileSystem.Steps
import CompilerDriver.Proofs.Source.Form

/-!
# Sources that are the same

* `Form.components_made` — the path of a source decides on the paths of all that is made from it, so
  the stem never decides whether two sources are the same (`Form.same_iff`).
* `resolve_of_validate` — accepted inputs through the same components **lead to the same place in every
  file system**, or fail there with the same error.
* `same_of_validate` — **sources are the same exactly if their anchored inputs go through the same
  components**, and then all that is said of the one holds of the other. More slashes and dots in the
  path of an input give the same source.
-/

namespace CompilerDriver

open FileSystem

namespace Source

variable {fs : FileSystem} {p q : Path} {source source' : Source}

/-! ## The path decides -/

section forms

variable {front front' : List Path.Component} {stem stem' extension extension' : Bytes}
  (form : source.Form front stem extension) (form' : source'.Form front' stem' extension')
  (same : source.path.components = source'.path.components)

include form form' same

/-- Sources whose paths go through the same components lie behind the same ones, and have the same
name and stem. -/
theorem Form.eq_of_path :
    front = front' ∧ stem ++ Bytes.dot :: extension = stem' ++ Bytes.dot :: extension' ∧
      stem = stem' := by
  rw [form.path, form'.path] at same
  obtain ⟨fronts, lasts⟩ := List.append_inj' same rfl
  have names : stem ++ Bytes.dot :: extension = stem' ++ Bytes.dot :: extension' :=
    Path.Component.name.inj (List.cons.inj lasts).1
  exact ⟨fronts, names, stem_unique form'.dot_stem form.dot_stem names⟩

/-- What is made from them goes through the same components as well. -/
theorem Form.components_made :
    source.made.map Path.components = source'.made.map Path.components := by
  obtain ⟨rfl, -, rfl⟩ := form.eq_of_path form' same
  simp only [made, List.map_cons, List.map_nil, form.preprocessed, form'.preprocessed,
    form.assembly, form'.assembly, form.executable, form'.executable]

end forms

/-- The stem does not decide whether sources are the same. -/
theorem Form.same_iff {front front' : List Path.Component} {stem stem' extension extension' : Bytes}
    (form : source.Form front stem extension) (form' : source'.Form front' stem' extension') :
    source.Same source' ↔ source.path.components = source'.path.components := by
  refine ⟨And.left, fun same => ⟨same, ?_⟩⟩
  obtain ⟨rfl, -, rfl⟩ := form.eq_of_path form' same
  exact form.executable.trans form'.executable.symm

/-! ## Inputs through the same components -/

/-- No slash and no dot comes after the name of an accepted input. -/
theorem endsBusy_of_validate (accepted : validate fs p = .ok source) : EndsBusy p.segments := by
  obtain ⟨_, _, _, _, -, located⟩ := placed_of_validate accepted
  exact endsBusy_of_locate located

/-- **Accepted inputs through the same components lead to the same place in every file system**, or
fail there alike. -/
theorem resolve_of_validate (accepted : validate fs p = .ok source)
    (accepted' : validate fs q = .ok source')
    (same : p.anchored.components = q.anchored.components) (fs' : FileSystem) :
    fs'.resolve p = fs'.resolve q :=
  resolve_of_components (accept_of_validate accepted) (accept_of_validate accepted')
    (endsBusy_of_validate accepted) (endsBusy_of_validate accepted') same

/-- **Sources are the same exactly if their inputs go through the same components**, once these are
anchored. Then the inputs lead to the same place in every file system, or fail there alike, they have
the same file name, and the files that are made from them have the same paths. An input with more
slashes and dots in it gives the same source. -/
theorem same_of_validate (accepted : validate fs p = .ok source)
    (accepted' : validate fs q = .ok source') :
    (source.Same source' ↔ p.anchored.components = q.anchored.components) ∧
      (source.Same source' →
        (∀ fs' : FileSystem, fs'.resolve p = fs'.resolve q) ∧ p.fileName? = q.fileName? ∧
          source.made.map Path.components = source'.made.map Path.components) ∧
      (p.Respelled q → source.Same source') := by
  obtain ⟨front, stem, extension, form, given, -⟩ := exists_form_of_validate accepted
  obtain ⟨front', stem', extension', form', given', -⟩ := exists_form_of_validate accepted'
  have decides := form.same_iff form'
  rw [path_of_validate accepted, path_of_validate accepted'] at decides
  refine ⟨decides, ?_, ?_⟩
  · intro same
    obtain ⟨-, names, -⟩ := form.eq_of_path form' same.1
    refine ⟨resolve_of_validate accepted accepted' (decides.1 same), ?_,
      form.components_made form' same.1⟩
    rw [given, given', names]
  · intro respelled
    exact decides.2 (Path.components_of_respelled respelled)

/-- A plain relative path over a link and back up, and the same with slashes and dots to spare. -/
theorem same_behind_dots :
    let real : Location := [Bytes.ofString "deep", Bytes.ofString "real"]
    let start : FileSystem :=
      { entries := [([Bytes.ofString "w"], .directory),
          ([Bytes.ofString "sub", Bytes.ofString "w"], .link (Path.ofString "../real/deep")),
          ([Bytes.ofString "real"], .directory), (real, .directory),
          (Bytes.ofString "foo.c" :: real, .file 0)]
        cwd := [Bytes.ofString "w"] }
    let p := Path.ofString "sub/../deep/foo.c"
    let q := Path.ofString ".//sub/./..//deep/foo.c"
    let source : Source :=
      ⟨Path.ofString "./sub/../deep/foo.c", Path.ofString "./sub/../deep/foo"⟩
    let source' : Source :=
      ⟨Path.ofString ".//sub/./..//deep/foo.c", Path.ofString ".//sub/./..//deep/foo"⟩
    validate start p = .ok source ∧ validate start q = .ok source' ∧ p.Respelled q ∧
      source.Same source' ∧ ∀ fs' : FileSystem, fs'.resolve p = fs'.resolve q := by
  intro real start p q source source'
  have accepted : validate start p = .ok source := rfl
  have accepted' : validate start q = .ok source' := rfl
  have respelled : p.Respelled q := by
    have dotted : p.Respelled (Path.ofString "sub/./../deep/foo.c") :=
      .dot (Bytes.ofString "sub") (Bytes.ofString "../deep/foo.c") .same
    have doubled : p.Respelled (Path.ofString "sub/./..//deep/foo.c") :=
      .slash (Bytes.ofString "sub/./..") (Bytes.ofString "deep/foo.c") dotted
    exact .slash (Bytes.ofString ".") (Bytes.ofString "sub/./..//deep/foo.c")
      (.here doubled rfl)
  obtain ⟨-, alike, sound⟩ := same_of_validate accepted accepted'
  exact ⟨accepted, accepted', respelled, sound respelled, (alike (sound respelled)).1⟩

/-- A directory and two dots are not taken out of a path: these inputs lead to one file, and their
sources differ. -/
example :
    let start : FileSystem :=
      { entries := [([Bytes.ofString "d"], .directory), ([Bytes.ofString "foo.c"], .file 0)]
        cwd := [] }
    let p := Path.ofString "foo.c"
    let q := Path.ofString "d/../foo.c"
    let source : Source := ⟨Path.ofString "./foo.c", Path.ofString "./foo"⟩
    let source' : Source := ⟨Path.ofString "./d/../foo.c", Path.ofString "./d/../foo"⟩
    validate start p = .ok source ∧ validate start q = .ok source' ∧
      start.resolve p = start.resolve q ∧ ¬ source.Same source' :=
  ⟨rfl, rfl, rfl, by decide⟩

end Source

end CompilerDriver
