import CompilerDriver.Source
import CompilerDriver.Proofs.Path.Anchored

/-!
# The names around a source

* `Named` — the name of a source is a stem, a dot and an extension, and its executable stands in the
  same directory under the stem alone.
* `named_of_validate` — **every input that is accepted is named in this way**.
* `Named.withExtension_eq` — what is made with another extension stands beside the source.
* `Named.fileNames`, `Named.fileNames_ne` — the names of the three files that are made from a source,
  and that they differ.
* `Named.components_iff` — an intermediate file is **the source itself exactly if the extensions
  agree**; the executable never is.
-/

namespace CompilerDriver

/-- What a cut at the first separator gives. -/
theorem Bytes.eq_of_cut? {b : UInt8} {s front back : Bytes} (cut : cut? b s = some (front, back)) :
    s = front ++ b :: back ∧ b ∉ front := by
  induction s generalizing front with
  | nil => cases cut
  | cons c s ih =>
    simp only [cut?] at cut
    split at cut
    · rename_i here
      cases cut
      simp [here]
    · rename_i other
      obtain ⟨⟨front', back'⟩, cut', eq⟩ := Option.map_eq_some_iff.1 cut
      cases eq
      obtain ⟨rfl, plain⟩ := ih cut'
      simp [plain, Ne.symm other]

theorem Bytes.cut?_append {b : UInt8} {front : Bytes} (plain : b ∉ front) (back : Bytes) :
    cut? b (front ++ b :: back) = some (front, back) := by
  induction front with
  | nil => simp [cut?]
  | cons c front ih =>
    rw [List.mem_cons, not_or] at plain
    simp [cut?, Ne.symm plain.1, ih plain.2]

/-- Taking bytes up to a separator goes past all that holds none. -/
theorem Bytes.takeWhile_append {b : UInt8} {front : Bytes} (plain : b ∉ front) (back : Bytes) :
    (front ++ back).takeWhile (· ≠ b) = front ++ back.takeWhile (· ≠ b) := by
  refine List.takeWhile_append_of_pos ?_
  intro c mem
  refine decide_eq_true ?_
  rintro rfl
  exact plain mem

namespace Source

/-- The path of a name in the directory of a source, whose segments are these, last one first. -/
def beside (directory : List Bytes) (name : Bytes) : Path :=
  Path.ofSegments (name :: Path.trimIdle directory).reverse

/-- What comes after the first dot of a source's name. -/
def extension (source : Source) : Bytes :=
  ((source.path.fileName?.bind (Bytes.cut? Bytes.dot)).map Prod.snd).getD []

/-- The name of a source is a stem, a dot and an extension, each of the two without a dot and not
empty. What is made from it goes into the same directory. -/
structure Named (source : Source) (directory : List Bytes) (stem extension : Bytes) : Prop where
  stem_ne : stem ≠ []
  dot_stem : Bytes.dot ∉ stem
  extension_ne : extension ≠ []
  dot_extension : Bytes.dot ∉ extension
  leading : source.path.leading = (stem ++ Bytes.dot :: extension) :: directory
  stem_eq : source.stem = beside directory stem

/-! ## Accepted inputs -/

/-- What the check of a name looks for. -/
theorem stemOfName?_eq_some_iff {name stem : Bytes} :
    stemOfName? name = some stem ↔ Text.Utf8.IsText name ∧
      ∃ extension, Bytes.cut? Bytes.dot name = some (stem, extension) ∧ stem ≠ [] ∧
        extension ≠ [] ∧ Bytes.dot ∉ extension := by
  unfold stemOfName?
  constructor
  · intro checked
    split at checked
    · rename_i text
      split at checked
      · rename_i front extension cut
        split at checked
        · rename_i shape
          cases checked
          exact ⟨text, extension, cut, shape⟩
        · cases checked
      · cases checked
    · cases checked
  · rintro ⟨text, extension, cut, shape⟩
    rw [if_pos text, cut]
    exact if_pos shape

/-- What the check of a name has found. -/
theorem eq_of_stemOfName? {name stem : Bytes} (checked : stemOfName? name = some stem) :
    ∃ extension, name = stem ++ Bytes.dot :: extension ∧ stem ≠ [] ∧ Bytes.dot ∉ stem ∧
      extension ≠ [] ∧ Bytes.dot ∉ extension := by
  obtain ⟨-, extension, cut, stem_ne, rest⟩ := stemOfName?_eq_some_iff.1 checked
  obtain ⟨eq, plain⟩ := Bytes.eq_of_cut? cut
  exact ⟨extension, eq, stem_ne, plain, rest⟩

/-- An accepted input is a regular file whose name has the right shape. -/
theorem of_validate {fs : FileSystem} {p : Path} {source : Source}
    (accepted : validate fs p = .ok source) :
    fs.isFile p = true ∧ ∃ name stem, p.fileName? = some name ∧ stemOfName? name = some stem ∧
      source = ⟨p.anchored, p.anchored.withFileName stem⟩ := by
  unfold validate at accepted
  split at accepted
  · rename_i file
    refine ⟨file, ?_⟩
    split at accepted
    · rename_i made shape
      cases accepted
      obtain ⟨stem, found, rfl⟩ := Option.map_eq_some_iff.1 shape
      obtain ⟨name, named, checked⟩ := Option.bind_eq_some_iff.1 found
      exact ⟨name, stem, named, checked, rfl⟩
    · cases accepted
  · cases accepted

/-- The path of a source is that of its input, anchored. -/
theorem path_of_validate {fs : FileSystem} {p : Path} {source : Source}
    (accepted : validate fs p = .ok source) : source.path = p.anchored := by
  obtain ⟨-, name, stem, -, -, rfl⟩ := of_validate accepted
  rfl

/-- **Every accepted input is named by a stem, a dot and an extension.** -/
theorem named_of_validate {fs : FileSystem} {p : Path} {source : Source}
    (accepted : validate fs p = .ok source) :
    ∃ directory stem extension, source.Named directory stem extension ∧
      p.fileName? = some (stem ++ Bytes.dot :: extension) := by
  obtain ⟨-, name, stem, named, checked, rfl⟩ := of_validate accepted
  obtain ⟨extension, rfl, stem_ne, dot_stem, extension_ne, dot_extension⟩ :=
    eq_of_stemOfName? checked
  obtain ⟨before, shape, -⟩ := Path.leading_of_fileName? named
  obtain ⟨directory, shape'⟩ := Path.leading_anchored shape
  refine ⟨directory, stem, extension,
    ⟨stem_ne, dot_stem, extension_ne, dot_extension, shape', ?_⟩, named⟩
  simp only [Path.withFileName, Path.fileName?_anchored named, shape', beside]

/-! ## What is made from a source -/

/-- A name that starts with a stem is neither idle nor does it lead up. -/
theorem busy_of_stem {stem : Bytes} (stem_ne : stem ≠ []) (dot_stem : Bytes.dot ∉ stem)
    (tail : Bytes) : ¬ Path.IsIdle (stem ++ tail) ∧ stem ++ tail ≠ Path.upSegment := by
  obtain ⟨b, rest, rfl⟩ := List.exists_cons_of_ne_nil stem_ne
  have other : b ≠ Bytes.dot := by
    rintro rfl
    exact dot_stem List.mem_cons_self
  simp [Path.IsIdle, Path.hereSegment, Path.upSegment, other]

/-- A name without a dot is all stem. -/
theorem stemOf_of_not_mem {name : Bytes} (plain : Bytes.dot ∉ name) : Path.stemOf name = name := by
  have all : ∀ b ∈ name.reverse, decide (b ≠ Bytes.dot) = true := by
    intro b mem
    refine decide_eq_true ?_
    rintro rfl
    exact plain (List.mem_reverse.1 mem)
  have none_left : (name.reverse ++ []).dropWhile (fun b => b ≠ Bytes.dot) = [] :=
    List.dropWhile_append_of_pos all
  rw [List.append_nil] at none_left
  rw [Path.stemOf, none_left]

namespace Named

variable {source : Source} {directory : List Bytes} {stem extension tail : Bytes}
  (named : source.Named directory stem extension)

include named

/-- No segment around a source holds a slash. -/
theorem plain (plain_tail : Bytes.slash ∉ tail) :
    ∀ s ∈ (stem ++ tail) :: Path.trimIdle directory, Bytes.slash ∉ s := by
  have around : ∀ s ∈ (stem ++ Bytes.dot :: extension) :: directory, Bytes.slash ∉ s := by
    rw [← named.leading]
    intro s mem
    exact Path.plain_of_leading mem
  intro s mem
  rcases List.mem_cons.1 mem with rfl | mem
  · have name := around _ List.mem_cons_self
    simp only [List.mem_append, not_or] at name ⊢
    exact ⟨name.1, plain_tail⟩
  · exact around s (List.mem_cons_of_mem _ ((Path.trimIdle_suffix directory).subset mem))

/-- A path beside a source is made of the segments around it, and its name is the last. -/
theorem beside_leading (plain_tail : Bytes.slash ∉ tail) :
    (beside directory (stem ++ tail)).leading = (stem ++ tail) :: Path.trimIdle directory :=
  Path.leading_ofSegments (named.plain plain_tail)
    (busy_of_stem named.stem_ne named.dot_stem tail).1

/-- A path beside a source leads through the same components, to its own name. -/
theorem components_beside (plain_tail : Bytes.slash ∉ tail) :
    (beside directory (stem ++ tail)).components =
      Path.passed directory ++ [.name (stem ++ tail)] := by
  obtain ⟨-, down⟩ := busy_of_stem named.stem_ne named.dot_stem tail
  rw [Path.components_of_leading (named.beside_leading plain_tail) down, Path.passed_trimIdle]

theorem beside_fileName? (plain_tail : Bytes.slash ∉ tail) :
    (beside directory (stem ++ tail)).fileName? = some (stem ++ tail) := by
  obtain ⟨busy, down⟩ := busy_of_stem named.stem_ne named.dot_stem tail
  exact Path.fileName?_ofSegments (named.plain plain_tail) busy down

/-- No slash comes after a path beside a source. -/
theorem beside_getLast? (plain_tail : Bytes.slash ∉ tail) :
    (beside directory (stem ++ tail)).segments.getLast? = some (stem ++ tail) := by
  rw [beside, Path.segments_reverse_ofSegments (named.plain plain_tail)]
  simp

/-- The executable stands under the stem alone. -/
theorem executable_eq : source.executable = beside directory (stem ++ []) := by
  rw [List.append_nil, executable, named.stem_eq]

/-- What is made with another extension stands under the stem and that extension. -/
theorem withExtension_eq (other : Bytes) :
    source.stem.withExtension other = beside directory (stem ++ Bytes.dot :: other) := by
  have shape := named.beside_leading List.not_mem_nil
  have name := named.beside_fileName? List.not_mem_nil
  rw [List.append_nil, ← named.stem_eq] at shape name
  simp only [Path.withExtension, name, shape, stemOf_of_not_mem named.dot_stem, beside]

/-- The names of the files that are made from a source are its stem with `.i`, with `.s` and with
nothing after it. -/
theorem fileNames :
    source.preprocessed.fileName? = some (stem ++ Bytes.ofString ".i") ∧
      source.assembly.fileName? = some (stem ++ Bytes.ofString ".s") ∧
      source.executable.fileName? = some stem := by
  refine ⟨?_, ?_, ?_⟩
  · rw [preprocessed, named.withExtension_eq]
    exact named.beside_fileName? (by decide)
  · rw [assembly, named.withExtension_eq]
    exact named.beside_fileName? (by decide)
  · rw [named.executable_eq, named.beside_fileName? (by simp), List.append_nil]

/-- The three names differ. -/
theorem fileNames_ne :
    source.preprocessed.fileName? ≠ source.assembly.fileName? ∧
      source.preprocessed.fileName? ≠ source.executable.fileName? ∧
      source.assembly.fileName? ≠ source.executable.fileName? := by
  obtain ⟨name_i, name_s, name⟩ := named.fileNames
  have i_ne_s : Bytes.ofString ".i" ≠ Bytes.ofString ".s" := by decide
  have i_ne_nil : Bytes.ofString ".i" ≠ [] := by decide
  have s_ne_nil : Bytes.ofString ".s" ≠ [] := by decide
  rw [name_i, name_s, name]
  simp [i_ne_s, i_ne_nil, s_ne_nil]

/-- No slash comes after the path of an intermediate file. -/
theorem ends :
    source.preprocessed.segments.getLast? ≠ some [] ∧
      source.assembly.segments.getLast? ≠ some [] := by
  rw [preprocessed, assembly, named.withExtension_eq, named.withExtension_eq,
    named.beside_getLast? (by decide), named.beside_getLast? (by decide)]
  simp

/-- The name of a source is its own path's file name. -/
theorem path_fileName? : source.path.fileName? = some (stem ++ Bytes.dot :: extension) := by
  obtain ⟨-, down⟩ := busy_of_stem named.stem_ne named.dot_stem (Bytes.dot :: extension)
  simp only [Path.fileName?, named.leading, if_neg down]

/-- The path of a source leads through the components before the name, to its name. -/
theorem path_components :
    source.path.components =
      Path.passed directory ++ [.name (stem ++ Bytes.dot :: extension)] := by
  obtain ⟨-, down⟩ := busy_of_stem named.stem_ne named.dot_stem (Bytes.dot :: extension)
  exact Path.components_of_leading named.leading down

/-- **A path beside a source goes through the same components exactly if the name is the same.** -/
theorem components_eq_iff (plain_tail : Bytes.slash ∉ tail) :
    (beside directory (stem ++ tail)).components = source.path.components ↔
      tail = Bytes.dot :: extension := by
  have name := named.beside_fileName? plain_tail
  constructor
  · intro same
    have eq := Path.fileName?_of_components (by rw [name]; rfl) (by rw [named.path_fileName?]; rfl)
      same
    rw [name, named.path_fileName?] at eq
    exact List.append_cancel_left (Option.some.inj eq)
  · rintro rfl
    rw [named.components_beside plain_tail, named.path_components]

theorem extension_eq : source.extension = extension := by
  rw [Source.extension, named.path_fileName?, Option.bind_some, Bytes.cut?_append named.dot_stem]
  rfl

/-- **The preprocessed file and the assembly are the source itself exactly if it has their
extension**, and the executable never is. -/
theorem components_iff :
    (source.preprocessed.components = source.path.components ↔
        source.extension = Bytes.ofString "i") ∧
      (source.assembly.components = source.path.components ↔
        source.extension = Bytes.ofString "s") ∧
      source.executable.components ≠ source.path.components := by
  rw [named.extension_eq]
  refine ⟨?_, ?_, ?_⟩
  · rw [preprocessed, named.withExtension_eq, named.components_eq_iff (by decide),
      List.cons_inj_right, eq_comm]
  · rw [assembly, named.withExtension_eq, named.components_eq_iff (by decide),
      List.cons_inj_right, eq_comm]
  · rw [named.executable_eq, Ne, named.components_eq_iff List.not_mem_nil]
    exact List.cons_ne_nil _ _ ∘ Eq.symm

/-- The name of a source is none of these three, if it does not have the extension of an
intermediate file. -/
theorem path_fileName?_ne (not_i : source.extension ≠ Bytes.ofString "i")
    (not_s : source.extension ≠ Bytes.ofString "s") :
    ∀ path ∈ [source.preprocessed, source.assembly, source.executable],
      some (stem ++ Bytes.dot :: extension) ≠ path.fileName? := by
  obtain ⟨name_i, name_s, name⟩ := named.fileNames
  rw [named.extension_eq] at not_i not_s
  intro path mem
  simp only [List.mem_cons, List.not_mem_nil, or_false] at mem
  rcases mem with rfl | rfl | rfl
  · rw [name_i]
    intro same
    exact not_i (List.cons_inj_right _ |>.1 (List.append_cancel_left (Option.some.inj same)))
  · rw [name_s]
    intro same
    exact not_s (List.cons_inj_right _ |>.1 (List.append_cancel_left (Option.some.inj same)))
  · rw [name]
    simp

end Named

end Source

end CompilerDriver
