import CompilerDriver.Proofs.Source.Anchor
import CompilerDriver.Proofs.Source.Place
import CompilerDriver.Proofs.Source.Shape

/-!
# The form of a source

* `Form` — how the four paths of a source are related: they lead through the same components, and
  after these comes the stem of the input's name, alone or with an extension.
* `form_of_validate` — **every source has this form**, whatever the path of the input looks like and
  whatever dots there are on the way to it.
-/

namespace CompilerDriver

open FileSystem

namespace Source

variable {fs : FileSystem} {p : Path} {source : Source}

/-! ## The paths of a source -/

/-- How the paths of a source are made: all four lead through the same components, and end in the stem
of the input's name, alone or with an extension. -/
structure Form (source : Source) (front : List Path.Component) (stem extension : Bytes) : Prop where
  path : source.path.components = front ++ [.name (stem ++ Bytes.dot :: extension)]
  executable : source.executable.components = front ++ [.name stem]
  preprocessed : source.preprocessed.components = front ++ [.name (stem ++ Bytes.ofString ".i")]
  assembly : source.assembly.components = front ++ [.name (stem ++ Bytes.ofString ".s")]
  /-- Byte for byte the executable, and its extension. -/
  preprocessed_bytes : source.preprocessed.bytes = source.executable.bytes ++ Bytes.ofString ".i"
  /-- Byte for byte the executable, and its extension. -/
  assembly_bytes : source.assembly.bytes = source.executable.bytes ++ Bytes.ofString ".s"
  stem_ne : stem ≠ []
  text_stem : Text.Utf8.IsText stem
  dot_stem : Bytes.dot ∉ stem
  slash_stem : Bytes.slash ∉ stem
  nul_stem : 0 ∉ stem
  extension_ne : extension ≠ []
  dot_extension : Bytes.dot ∉ extension

/-- What comes after a name comes after the whole path. -/
theorem bytes_beside (directory : List Bytes) (name tail : Bytes) :
    (beside directory (name ++ tail)).bytes = (beside directory name).bytes ++ tail := by
  simp only [beside, Path.ofSegments, List.reverse_cons]
  exact Bytes.join_concat _ _ _

section named

variable {directory : List Bytes} {stem extension tail : Bytes}
  (named : source.Named directory stem extension)

include named

/-- The paths of a source have their form if its name is text without a zero byte. -/
theorem Named.form (text : Text.Utf8.IsText (stem ++ Bytes.dot :: extension))
    (no_nul : 0 ∉ stem ++ Bytes.dot :: extension) :
    source.Form (Path.passed directory) stem extension := by
  have plain : Bytes.slash ∉ stem ++ Bytes.dot :: extension := by
    refine Path.plain_of_leading (p := source.path) ?_
    rw [named.leading]
    exact List.mem_cons_self
  rw [List.mem_append, not_or] at plain no_nul
  have executable : source.executable = beside directory stem := named.stem_eq
  refine
    { path := named.path_components
      executable := ?_
      preprocessed := ?_
      assembly := ?_
      preprocessed_bytes := ?_
      assembly_bytes := ?_
      stem_ne := named.stem_ne
      text_stem := isText_of_append_dot text named.dot_stem
      dot_stem := named.dot_stem
      slash_stem := plain.1
      nul_stem := no_nul.1
      extension_ne := named.extension_ne
      dot_extension := named.dot_extension }
  · have leads := named.components_beside List.not_mem_nil
    rwa [List.append_nil, ← executable] at leads
  · rw [Source.preprocessed, named.withExtension_eq]
    exact named.components_beside (by decide)
  · rw [Source.assembly, named.withExtension_eq]
    exact named.components_beside (by decide)
  · rw [Source.preprocessed, named.withExtension_eq, executable]
    exact bytes_beside _ _ _
  · rw [Source.assembly, named.withExtension_eq, executable]
    exact bytes_beside _ _ _

end named

namespace Form

variable {front : List Path.Component} {stem extension : Bytes}
  (form : source.Form front stem extension)

include form

/-- The names of the files that are made from a source. -/
theorem fileNames :
    source.made.map Path.fileName? =
      [some (stem ++ Bytes.ofString ".i"), some (stem ++ Bytes.ofString ".s"), some stem] := by
  have name_i : source.preprocessed.fileName? = some (stem ++ Bytes.ofString ".i") := by
    rw [Path.fileName?_eq_some_iff, form.preprocessed, List.getLast?_concat]
  have name_s : source.assembly.fileName? = some (stem ++ Bytes.ofString ".s") := by
    rw [Path.fileName?_eq_some_iff, form.assembly, List.getLast?_concat]
  have name : source.executable.fileName? = some stem := by
    rw [Path.fileName?_eq_some_iff, form.executable, List.getLast?_concat]
  rw [made, List.map_cons, List.map_cons, List.map_cons, name_i, name_s, name]
  rfl

/-- No two of the files that are made from a source have the same path. -/
theorem pairwise_made : source.made.Pairwise fun q r => q.components ≠ r.components := by
  have differ {q r : Path} (names : q.fileName? ≠ r.fileName?) : q.components ≠ r.components := by
    intro same
    refine names (Option.ext fun name => ?_)
    rw [Path.fileName?_eq_some_iff, Path.fileName?_eq_some_iff, same]
  have names : (source.made.map Path.fileName?).Pairwise (· ≠ ·) := by
    have i_ne_s : Bytes.ofString ".i" ≠ Bytes.ofString ".s" := by decide
    have i_ne_nil : Bytes.ofString ".i" ≠ [] := by decide
    have s_ne_nil : Bytes.ofString ".s" ≠ [] := by decide
    rw [form.fileNames]
    simp [i_ne_s, i_ne_nil, s_ne_nil]
  exact (List.pairwise_map.1 names).imp differ

/-- No name of a file that is made from a source is longer than that of the source. -/
theorem length_le {path : Path} (mem : path ∈ source.made) :
    ∃ name, path.fileName? = some name ∧
      name.length ≤ (stem ++ Bytes.dot :: extension).length := by
  have named : path.fileName? ∈ source.made.map Path.fileName? := List.mem_map_of_mem mem
  have some_extension := List.length_pos_iff.2 form.extension_ne
  rw [form.fileNames] at named
  simp only [List.mem_cons, List.not_mem_nil, or_false] at named
  rcases named with name_i | name_s | name
  · refine ⟨_, name_i, ?_⟩
    have two : (Bytes.ofString ".i").length = 2 := by decide
    simp only [List.length_append, List.length_cons, two]
    omega
  · refine ⟨_, name_s, ?_⟩
    have two : (Bytes.ofString ".s").length = 2 := by decide
    simp only [List.length_append, List.length_cons, two]
    omega
  · refine ⟨_, name, ?_⟩
    simp

end Form

/-- A name has one stem. -/
theorem stem_unique {stem stem' extension extension' : Bytes} (plain : Bytes.dot ∉ stem)
    (plain' : Bytes.dot ∉ stem')
    (same : stem' ++ Bytes.dot :: extension' = stem ++ Bytes.dot :: extension) : stem' = stem := by
  have cut := Bytes.cut?_append plain' extension'
  rw [same, Bytes.cut?_append plain] at cut
  cases cut
  rfl

/-- The paths of an accepted input have their form, for the stem of its name. -/
theorem exists_form_of_validate (accepted : validate fs p = .ok source) :
    ∃ front stem extension, source.Form front stem extension ∧
      p.fileName? = some (stem ++ Bytes.dot :: extension) ∧
      (stem ++ Bytes.dot :: extension).length ≤ nameLimit := by
  obtain ⟨-, name, _, given, checked, -⟩ := of_validate accepted
  obtain ⟨text, -⟩ := stemOfName?_eq_some_iff.1 checked
  obtain ⟨before, stem, extension, d, placed, located⟩ := placed_of_validate accepted
  obtain ⟨taken, before', segments, -⟩ := locate_bare_iff.1 located
  obtain rfl : name = stem ++ Bytes.dot :: extension :=
    Option.some.inj (given.symm.trans (fileName?_of_locate located))
  have no_nul : 0 ∉ stem ++ Bytes.dot :: extension := by
    intro nul
    refine (accept_eq_ok_iff.1 taken).1 (Path.mem_bytes_of_mem ?_ nul)
    rw [segments]
    simp
  exact ⟨_, stem, extension, placed.form text no_nul, given, placed.short⟩

/-- **Every source has this form.** Its path is that of the input, with `./` in front if the input does
not say where it starts. All four paths lead through the components that lead to the input, and end
in the stem of its name: text without a dot, a slash or a zero byte. So the files that are made from
a source differ, no name of theirs is longer than that of the input, which is no longer than it may
be, and nothing but the name of the input decides on these names. -/
theorem form_of_validate (accepted : validate fs p = .ok source) :
    ∃ front stem extension, source.Form front stem extension ∧
      (p.IsAnchored → source.path = p) ∧
      (¬ p.IsAnchored → source.path.bytes = Bytes.ofString "./" ++ p.bytes) ∧
      (∃ before, p.components = before ++ [.name (stem ++ Bytes.dot :: extension)] ∧
        (front = before ∨ front = .here :: before)) ∧
      source.executable.fileName? = some stem ∧
      source.made.Pairwise (fun q r => q.components ≠ r.components) ∧
      (∀ path ∈ source.made, ∃ name, path.fileName? = some name ∧
        name.length ≤ (stem ++ Bytes.dot :: extension).length) ∧
      (stem ++ Bytes.dot :: extension).length ≤ nameLimit ∧
      ∀ fs' p' source', validate fs' p' = .ok source' → p'.fileName? = p.fileName? →
        source'.made.map Path.fileName? = source.made.map Path.fileName? := by
  obtain ⟨front, stem, extension, form, given, short⟩ := exists_form_of_validate accepted
  have path := path_of_validate accepted
  have taken := (walk_of_isFile (of_validate accepted).1).1
  have some_bytes : p.bytes ≠ [] := (accept_eq_ok_iff.1 taken).2.1
  refine ⟨front, stem, extension, form, ?_, ?_, ?_, ?_, form.pairwise_made,
    fun _ => form.length_le, short, ?_⟩
  · intro sure
    rw [path, Path.anchored_of_isAnchored sure]
  · intro free
    rw [path, Path.anchored_of_not_isAnchored some_bytes free]
    rfl
  · obtain ⟨before, components⟩ := List.getLast?_eq_some_iff.1 (Path.fileName?_eq_some_iff.1 given)
    refine ⟨before, components, ?_⟩
    have whole := form.path
    rw [path] at whole
    rcases Path.components_anchored p with same | here
    · rw [same, components] at whole
      exact .inl (List.append_cancel_right whole).symm
    · rw [here, components, ← List.cons_append] at whole
      exact .inr (List.append_cancel_right whole).symm
  · rw [Path.fileName?_eq_some_iff, form.executable, List.getLast?_concat]
  · intro fs' p' source' accepted' same
    obtain ⟨front', stem', extension', form', given', -⟩ := exists_form_of_validate accepted'
    rw [given, given', Option.some.injEq] at same
    rw [form'.fileNames, form.fileNames, stem_unique form.dot_stem form'.dot_stem same]

/-- An input behind a directory with a dot in its name, a slash too many and a `.`. -/
theorem form_of_dotted_directory :
    let start : FileSystem :=
      { entries := [([Bytes.ofString "-foo.c", Bytes.ofString "v1.2"], .file 0),
          ([Bytes.ofString "v1.2"], .directory)]
        cwd := [] }
    let p := Path.ofString "v1.2//./-foo.c"
    let source : Source := ⟨Path.ofString "./v1.2//./-foo.c", Path.ofString "./v1.2/-foo"⟩
    validate start p = .ok source ∧ ¬ p.IsAnchored ∧
      source.path.bytes = Bytes.ofString "./" ++ p.bytes ∧
      source.made = [Path.ofString "./v1.2/-foo.i", Path.ofString "./v1.2/-foo.s",
        Path.ofString "./v1.2/-foo"] ∧
      source.made.Pairwise fun q r => q.components ≠ r.components := by
  intro start p source
  have accepted : validate start p = .ok source := rfl
  have free : ¬ p.IsAnchored := by decide
  obtain ⟨_, _, _, -, -, anchored, -, -, differ, -⟩ := form_of_validate accepted
  exact ⟨accepted, free, anchored free, rfl, differ⟩

end Source

end CompilerDriver
