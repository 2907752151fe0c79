import CompilerDriver.Proofs.Source.Names
import CompilerDriver.Proofs.Text.Utf8

/-!
# The inputs that are accepted

* `Shapely` — a name that is text, with one dot, which is neither its first character nor its last.
* `isSome_stemOfName?_iff` — **these are the names that have a stem**. The check looks at bytes, the
  shape is said of characters; `count_dot`, `head?_dot`, `getLast?_dot` and `takeWhile_dot` go from
  the one to the other.
* `fileName?_eq_some_iff` — the file name of a path is the last of its components.
* `LeadsToFile` — a path leads to a regular file. `isFile_iff` says that this is what is checked.
* `exists_validate_eq_ok_iff`, `validate_eq_inputNotFound`, `validate_eq_nameShape` — which inputs are
  accepted, and how the others are refused.
-/

namespace CompilerDriver

open String (utf8EncodeChar)

/-! ## One dot, not at the ends -/

/-- A name is cut by a dot into two parts without one, both not empty, exactly if it has one dot, and
that at neither end. -/
theorem Bytes.exists_cut_iff {name : Bytes} :
    (∃ front back, cut? dot name = some (front, back) ∧ front ≠ [] ∧ back ≠ [] ∧ dot ∉ back) ↔
      name.count dot = 1 ∧ name.head? ≠ some dot ∧ name.getLast? ≠ some dot := by
  constructor
  · rintro ⟨front, back, cut, front_ne, back_ne, plain'⟩
    obtain ⟨rfl, plain⟩ := eq_of_cut? cut
    refine ⟨?_, ?_, ?_⟩
    · rw [List.count_append, List.count_cons_self, List.count_eq_zero.2 plain,
        List.count_eq_zero.2 plain']
    · obtain ⟨b, front, rfl⟩ := List.exists_cons_of_ne_nil front_ne
      rintro same
      cases same
      exact plain List.mem_cons_self
    · obtain ⟨b, back, rfl⟩ := List.exists_cons_of_ne_nil back_ne
      intro same
      rw [List.getLast?_append, List.getLast?_cons_cons, Option.or_eq_left_of_isSome (by simp)] at same
      exact plain' (List.mem_of_getLast? same)
  · rintro ⟨once, first, last⟩
    have mem : dot ∈ name := List.count_pos_iff.1 (by omega)
    obtain ⟨front, back, rfl, plain⟩ := List.eq_append_cons_of_mem mem
    rw [List.count_append, List.count_cons_self, List.count_eq_zero.2 plain] at once
    have plain' : dot ∉ back := List.count_eq_zero.1 (by omega)
    refine ⟨front, back, cut?_append plain back, ?_, ?_, plain'⟩
    · rintro rfl
      exact first rfl
    · rintro rfl
      exact last (by simp)

/-! ## Dots among bytes and among characters -/

theorem encode_dot : utf8EncodeChar '.' = [Bytes.dot] := by decide

theorem dot_mem_encode_iff {c : Char} : Bytes.dot ∈ utf8EncodeChar c ↔ c = '.' := by
  rw [Text.Utf8.mem_encode_iff (by decide), ← Char.toNat_inj]
  rfl

theorem count_dot (cs : List Char) : (cs.flatMap utf8EncodeChar).count Bytes.dot = cs.count '.' := by
  induction cs with
  | nil => rfl
  | cons c cs ih =>
    rw [List.flatMap_cons, List.count_append, ih]
    by_cases same : c = '.'
    · rw [same, encode_dot, List.count_singleton_self, List.count_cons_self, Nat.add_comm]
    · have none_there := mt dot_mem_encode_iff.1 same
      rw [List.count_eq_zero.2 none_there, List.count_cons_of_ne same, Nat.zero_add]

theorem head?_dot (cs : List Char) :
    (cs.flatMap utf8EncodeChar).head? = some Bytes.dot ↔ cs.head? = some '.' := by
  cases cs with
  | nil => simp
  | cons c cs =>
    rw [List.flatMap_cons, List.head?_append, Option.or_eq_left_of_isSome (by simp),
      List.head?_cons, Option.some.injEq, ← dot_mem_encode_iff]
    constructor
    · exact List.mem_of_head?
    · intro mem
      rw [dot_mem_encode_iff.1 mem, encode_dot]
      rfl

theorem getLast?_dot (cs : List Char) :
    (cs.flatMap utf8EncodeChar).getLast? = some Bytes.dot ↔ cs.getLast? = some '.' := by
  rcases List.eq_nil_or_concat cs with rfl | ⟨front, c, rfl⟩
  · simp
  · rw [List.concat_eq_append, List.flatMap_append, List.flatMap_singleton, List.getLast?_append,
      Option.or_eq_left_of_isSome (by simp), List.getLast?_concat,
      Option.some.injEq, ← dot_mem_encode_iff]
    constructor
    · exact List.mem_of_getLast?
    · intro mem
      rw [dot_mem_encode_iff.1 mem, encode_dot]
      rfl

/-- Cutting at the first dot goes between two characters. -/
theorem takeWhile_dot (cs : List Char) :
    (cs.flatMap utf8EncodeChar).takeWhile (· ≠ Bytes.dot) =
      (cs.takeWhile (· ≠ '.')).flatMap utf8EncodeChar := by
  induction cs with
  | nil => rfl
  | cons c cs ih =>
    by_cases same : c = '.'
    · simp [same, encode_dot]
    · have all : ∀ b ∈ utf8EncodeChar c, decide (b ≠ Bytes.dot) = true := by
        intro b mem
        refine decide_eq_true ?_
        rintro rfl
        exact same (dot_mem_encode_iff.1 mem)
      rw [List.flatMap_cons, List.takeWhile_append_of_pos all, ih,
        List.takeWhile_cons_of_pos (by simpa using same), List.flatMap_cons]

/-- What stands before the first dot of a text is text. -/
theorem isText_of_append_dot {front back : Bytes}
    (text : Text.Utf8.IsText (front ++ Bytes.dot :: back)) (plain : Bytes.dot ∉ front) :
    Text.Utf8.IsText front := by
  obtain ⟨cs, whole⟩ := Text.Utf8.exists_flatMap _ text
  have cut := takeWhile_dot cs
  rw [← whole, Bytes.takeWhile_append plain, List.takeWhile_cons_of_neg (by simp),
    List.append_nil] at cut
  rw [cut, Text.Utf8.IsText, Text.Utf8.read_flatMap]
  simp

namespace Source

/-! ## The shape of a name -/

/-- A name that is text, with one dot among its characters, which is neither the first nor the last
of them. -/
def Shapely (name : Bytes) : Prop :=
  ∃ text : String, Bytes.ofString text = name ∧ text.toList.count '.' = 1 ∧
    text.toList.head? ≠ some '.' ∧ text.toList.getLast? ≠ some '.'

/-- The shape of a name by its bytes. -/
theorem shapely_iff {name : Bytes} :
    Shapely name ↔ Text.Utf8.IsText name ∧ name.count Bytes.dot = 1 ∧
      name.head? ≠ some Bytes.dot ∧ name.getLast? ≠ some Bytes.dot := by
  have of_text : ∀ text : String, Bytes.ofString text = name →
      (text.toList.count '.' = 1 ∧ text.toList.head? ≠ some '.' ∧
          text.toList.getLast? ≠ some '.' ↔
        name.count Bytes.dot = 1 ∧ name.head? ≠ some Bytes.dot ∧
          name.getLast? ≠ some Bytes.dot) := by
    rintro text rfl
    rw [← String.ofList_toList (s := text), Text.Utf8.ofString_ofList, String.toList_ofList,
      count_dot, Ne, Ne, Ne, Ne, head?_dot, getLast?_dot]
  rw [Text.Utf8.isText_iff]
  constructor
  · rintro ⟨text, bytes, shape⟩
    exact ⟨⟨text, bytes⟩, (of_text text bytes).1 shape⟩
  · rintro ⟨⟨text, bytes⟩, shape⟩
    exact ⟨text, bytes, (of_text text bytes).2 shape⟩

/-- **The names of this shape are those that have a stem.** -/
theorem isSome_stemOfName?_iff {name : Bytes} : (stemOfName? name).isSome ↔ Shapely name := by
  rw [shapely_iff, ← Bytes.exists_cut_iff, Option.isSome_iff_exists]
  constructor
  · rintro ⟨stem, checked⟩
    obtain ⟨text, extension, cut⟩ := stemOfName?_eq_some_iff.1 checked
    exact ⟨text, stem, extension, cut⟩
  · rintro ⟨text, stem, extension, cut⟩
    exact ⟨stem, stemOfName?_eq_some_iff.2 ⟨text, extension, cut⟩⟩

end Source

/-! ## Regular files -/

/-- A path leads to a regular file, through links to the end. -/
def FileSystem.LeadsToFile (fs : FileSystem) (p : Path) : Prop :=
  ∃ l contents mode, fs.resolve p = .ok l ∧ fs.get? l = some (.file contents mode)

theorem FileSystem.isFile_iff {fs : FileSystem} {p : Path} :
    fs.isFile p = true ↔ fs.LeadsToFile p := by
  unfold isFile node? LeadsToFile
  rcases fs.resolve p with cause | l
  · simp [Except.toOption]
  · simp only [Except.toOption, Option.map_some, Option.any_some, found]
    constructor
    · intro file
      rcases there : fs.get? l with _ | node
      · simp [there, Node.isFile] at file
      · cases node with
        | file contents mode => exact ⟨l, contents, mode, rfl, there⟩
        | directory | link | device => simp [there, Node.isFile] at file
    · rintro ⟨_, contents, mode, same, file⟩
      cases same
      rw [file]
      rfl

namespace Source

/-! ## Accepted and refused inputs -/

variable {fs : FileSystem} {p : Path}

/-- The last component of a path is a name of the right shape. -/
def EndsShapely (p : Path) : Prop :=
  ∃ name, p.components.getLast? = some (.name name) ∧ Shapely name

theorem isSome_ofPath?_iff : (ofPath? p).isSome ↔ EndsShapely p := by
  rw [ofPath?, Option.isSome_map, EndsShapely]
  constructor
  · intro checked
    obtain ⟨stem, checked⟩ := Option.isSome_iff_exists.1 checked
    obtain ⟨name, named, stemmed⟩ := Option.bind_eq_some_iff.1 checked
    exact ⟨name, Path.fileName?_eq_some_iff.1 named,
      isSome_stemOfName?_iff.1 (Option.isSome_iff_exists.2 ⟨stem, stemmed⟩)⟩
  · rintro ⟨name, ends, shape⟩
    rw [Path.fileName?_eq_some_iff.2 ends, Option.bind_some]
    exact isSome_stemOfName?_iff.2 shape

/-- **An input is accepted exactly if it leads to a regular file and is named shapely.** -/
theorem exists_validate_eq_ok_iff :
    (∃ source, validate fs p = .ok source) ↔ fs.LeadsToFile p ∧ EndsShapely p := by
  rw [← FileSystem.isFile_iff, ← isSome_ofPath?_iff, validate]
  constructor
  · rintro ⟨source, accepted⟩
    split at accepted
    · rename_i file
      split at accepted
      · rename_i found shape
        exact ⟨file, by rw [shape]; rfl⟩
      · cases accepted
    · cases accepted
  · rintro ⟨file, shape⟩
    obtain ⟨source, shape⟩ := Option.isSome_iff_exists.1 shape
    exact ⟨source, by rw [if_pos file, shape]⟩

/-- What leads to no regular file is not found, whatever its name looks like. -/
theorem validate_eq_inputNotFound (lost : ¬ fs.LeadsToFile p) :
    validate fs p = .error (.inputNotFound p) := by
  rw [validate, if_neg (mt FileSystem.isFile_iff.1 lost)]

/-- A directory is not found, and nor is what is not there, even under a name with two dots. -/
example :
    let fs : FileSystem := { entries := [([Bytes.ofString "foo.c"], .directory)], cwd := [] }
    validate fs (Path.ofString "foo.c") = .error (.inputNotFound (Path.ofString "foo.c")) ∧
      validate fs (Path.ofString "a.b.c") = .error (.inputNotFound (Path.ofString "a.b.c")) :=
  ⟨rfl, rfl⟩

/-- A regular file with another name is refused for its name. -/
theorem validate_eq_nameShape (file : fs.LeadsToFile p) (other : ¬ EndsShapely p) :
    validate fs p = .error (.nameShape p) := by
  rw [validate, if_pos (FileSystem.isFile_iff.2 file)]
  rw [← isSome_ofPath?_iff, Option.not_isSome_iff_eq_none] at other
  rw [other]

end Source

end CompilerDriver
