import CompilerDriver.Proofs.Source.Form

/-!
# A source opened again

* `accept_anchored_iff` — the operating system takes an anchored path if it takes the path and there
  is room for what is put in front.
* `reopened_of_validate` — **the path of a source leads to the file that was checked, and checking it
  gives the same source**, where there is room. Where there is none, the path that was accepted leads
  to a file and the one that is stored leads nowhere: the check comes before the anchor.
* `lost_behind_slashes` — such an input.
-/

namespace CompilerDriver

open FileSystem

section accept

variable {p : Path} (taken : accept p = .ok ())

include taken

/-- The operating system takes an anchored path if it takes the path and there is room. -/
theorem accept_anchored_iff : accept p.anchored = .ok () ↔ p.anchored.bytes.length ≤ pathLimit := by
  obtain ⟨no_nul, some_bytes, -⟩ := accept_eq_ok_iff.1 taken
  rw [accept_eq_ok_iff, Path.nul_mem_anchored, and_iff_right no_nul,
    and_iff_right (Path.anchored_ne_nil some_bytes)]

/-- Without room, the path is too long for every lookup. -/
theorem resolve_anchored_of_long (long : pathLimit < p.anchored.bytes.length) (fs : FileSystem) :
    fs.resolve p.anchored = .error (.os .nameTooLong) := by
  obtain ⟨no_nul, some_bytes, -⟩ := accept_eq_ok_iff.1 taken
  have refused : accept p.anchored = .error (.os .nameTooLong) := by
    rw [accept, if_neg (mt Path.nul_mem_anchored.1 no_nul),
      if_neg (Path.anchored_ne_nil some_bytes), if_pos long]
  rw [resolve, refused]
  rfl

end accept

namespace Source

variable {fs : FileSystem} {p : Path} {source : Source}

/-! ## The same source again -/

/-- The path of a source leads to the same source wherever it leads to a regular file. -/
theorem validate_path {fs' : FileSystem} (accepted : validate fs p = .ok source)
    (file : fs'.LeadsToFile source.path) : validate fs' source.path = .ok source := by
  obtain ⟨-, name, stem, given, checked, rfl⟩ := of_validate accepted
  have made : ofPath? p.anchored = some ⟨p.anchored, p.anchored.withFileName stem⟩ := by
    rw [ofPath?, Path.fileName?_anchored given, Option.bind_some, checked, Option.map_some,
      Path.anchored_anchored]
  rw [validate, if_pos (isFile_iff.2 file), made]

/-- Where there is no room for the anchor, the path of a source is not found. -/
theorem lost_of_long (accepted : validate fs p = .ok source)
    (long : pathLimit < source.path.bytes.length) (fs' : FileSystem) :
    fs'.resolve source.path = .error (.os .nameTooLong) ∧
      validate fs' source.path = .error (.inputNotFound source.path) := by
  rw [path_of_validate accepted] at long ⊢
  have refused := resolve_anchored_of_long (accept_of_validate accepted) long fs'
  refine ⟨refused, validate_eq_inputNotFound ?_⟩
  rintro ⟨l, contents, mode, resolved, -⟩
  rw [refused] at resolved
  cases resolved

/-- **The path of a source leads to the very file that was checked, and checking it gives the same
source**, unless there is no room for the two bytes in front of it. Then it is too long for every
lookup, and no longer found. -/
theorem reopened_of_validate (accepted : validate fs p = .ok source) :
    ∃ l contents mode, fs.resolve p = .ok l ∧ fs.get? l = some (.file contents mode) ∧
      (source.path.bytes.length ≤ pathLimit →
        fs.resolve source.path = .ok l ∧ validate fs source.path = .ok source) ∧
      (pathLimit < source.path.bytes.length → ∀ fs' : FileSystem,
        fs'.resolve source.path = .error (.os .nameTooLong) ∧
          validate fs' source.path = .error (.inputNotFound source.path)) ∧
      (pathLimit < source.path.bytes.length ↔
        ¬ p.IsAnchored ∧ pathLimit < p.bytes.length + 2) := by
  have file := (of_validate accepted).1
  have taken := (walk_of_isFile file).1
  obtain ⟨-, some_bytes, short⟩ := accept_eq_ok_iff.1 taken
  obtain ⟨l, contents, mode, resolved, there⟩ := isFile_iff.1 file
  have path := path_of_validate accepted
  refine ⟨l, contents, mode, resolved, there, ?_, lost_of_long accepted, ?_⟩
  · intro room
    have again : fs.resolve source.path = .ok l := by
      rw [path] at room ⊢
      exact resolve_anchored resolved ((accept_anchored_iff taken).2 room)
    exact ⟨again, validate_path accepted ⟨l, contents, mode, again, there⟩⟩
  · rw [path, Path.length_anchored some_bytes]
    split
    · rename_i sure
      simp [sure, short]
    · rename_i free
      simp [free]

/-- An input that is a link, behind a slash too many. -/
theorem reopened_through_link :
    let start : FileSystem :=
      { entries := [([Bytes.ofString "foo.c", Bytes.ofString "d"], .link (Path.ofString "../bar")),
          ([Bytes.ofString "d"], .directory), ([Bytes.ofString "bar"], .file 0)]
        cwd := [] }
    let source : Source := ⟨Path.ofString "./d//foo.c", Path.ofString "./d/foo"⟩
    validate start (Path.ofString "d//foo.c") = .ok source ∧
      start.resolve (Path.ofString "d//foo.c") = .ok [Bytes.ofString "bar"] ∧
      start.resolve source.path = .ok [Bytes.ofString "bar"] ∧
      validate start source.path = .ok source := by
  intro start source
  have accepted : validate start (Path.ofString "d//foo.c") = .ok source := rfl
  have file : start.resolve (Path.ofString "d//foo.c") = .ok [Bytes.ofString "bar"] := rfl
  obtain ⟨l, _, _, resolved, -, again, -⟩ := reopened_of_validate accepted
  obtain rfl : l = [Bytes.ofString "bar"] := Except.ok.inj (resolved.symm.trans file)
  exact ⟨accepted, file, again (by decide)⟩

end Source

/-! ## No room for the anchor -/

/-- Slashes in a row are cut into empty pieces. -/
theorem Bytes.pieces_replicate {b : UInt8} {last : Bytes} (plain : b ∉ last) (n : Nat) :
    pieces b (List.replicate n b ++ last) = List.replicate n [] ++ [last] := by
  induction n with
  | zero => exact pieces_of_not_mem plain
  | succ n ih =>
    have first := pieces_append (List.not_mem_nil (a := b)) (List.replicate n b ++ last)
    rw [List.nil_append, ih] at first
    rw [List.replicate_succ, List.replicate_succ]
    exact first

/-- Empty segments lead nowhere, however many there are. -/
theorem FileSystem.Leads.empties {fs : FileSystem} {links : Nat} {l d : Location}
    {rest : List Bytes} (stands : fs.canStandIn l = true) (onward : fs.Leads d links l rest)
    (n : Nat) : fs.Leads d links l (List.replicate n [] ++ rest) := by
  induction n with
  | zero => exact onward
  | succ n ih => exact .idle stands (.inl rfl) ih

namespace Source

/-- A file `foo.c` in a directory `d`. -/
def oneFile : FileSystem :=
  { entries := [([Bytes.ofString "foo.c", Bytes.ofString "d"], .file 0),
      ([Bytes.ofString "d"], .directory)]
    cwd := [] }

/-- The path of that file, with slashes to spare. -/
def slashed (n : Nat) : Path :=
  ⟨Bytes.ofString "d" ++ Bytes.slash :: (List.replicate n Bytes.slash ++ Bytes.ofString "foo.c")⟩

theorem segments_slashed (n : Nat) :
    (slashed n).segments =
      Bytes.ofString "d" :: (List.replicate n [] ++ [Bytes.ofString "foo.c"]) := by
  have directory := Bytes.pieces_append (b := Bytes.slash) (p := Bytes.ofString "d") (by decide)
    (List.replicate n Bytes.slash ++ Bytes.ofString "foo.c")
  rwa [Bytes.pieces_replicate (by decide)] at directory

theorem length_slashed (n : Nat) : (slashed n).bytes.length = n + 7 := by
  have one : (Bytes.ofString "d").length = 1 := by decide
  have five : (Bytes.ofString "foo.c").length = 5 := by decide
  simp only [slashed, List.length_append, List.length_cons, List.length_replicate, one, five]
  omega

theorem accept_slashed {n : Nat} (short : n + 7 ≤ pathLimit) : accept (slashed n) = .ok () := by
  refine accept_eq_ok_iff.2 ⟨?_, by simp [slashed], by rwa [length_slashed]⟩
  have plain : 0 ∉ Bytes.ofString "d" ∧ 0 ∉ Bytes.ofString "foo.c" := by decide
  simp [slashed, plain, Bytes.slash, List.mem_replicate]

/-- However many slashes there are, the path leads to the file, while it is not too long. -/
theorem leadsToFile_slashed {n : Nat} (short : n + 7 ≤ pathLimit) :
    oneFile.LeadsToFile (slashed n) := by
  have directory : oneFile.get? [Bytes.ofString "d"] = some .directory := rfl
  have file : oneFile.get? [Bytes.ofString "foo.c", Bytes.ofString "d"] = some (.file [] .plain) :=
    rfl
  have name : oneFile.Leads [Bytes.ofString "foo.c", Bytes.ofString "d"] linkLimit
      [Bytes.ofString "d"] [Bytes.ofString "foo.c"] :=
    .name rfl (by decide) (by decide) (by decide) (by decide) file (by simp) .arrived
  have leads : oneFile.Leads [Bytes.ofString "foo.c", Bytes.ofString "d"] linkLimit []
      (slashed n).segments := by
    rw [segments_slashed]
    exact .name rfl (by decide) (by decide) (by decide) (by decide) directory (by simp)
      (.empties rfl name n)
  exact ⟨_, [], .plain, resolve_eq_ok_iff.2 ⟨accept_slashed short, leads_iff.2 leads⟩, rfl⟩

theorem endsShapely_slashed (n : Nat) : EndsShapely (slashed n) := by
  have segments : (slashed n).segments =
      (Bytes.ofString "foo.c" :: (Bytes.ofString "d" :: List.replicate n []).reverse).reverse := by
    rw [segments_slashed]
    simp
  have named : (slashed n).fileName? = some (Bytes.ofString "foo.c") := by
    rw [Path.fileName?, Path.leading_of_segments segments (by decide)]
    rfl
  exact ⟨_, Path.fileName?_eq_some_iff.1 named, isSome_stemOfName?_iff.1 rfl⟩

/-- An input whose path is nearly as long as it may be leads to a regular file and is accepted. The
path that is stored for it leads nowhere. -/
theorem lost_behind_slashes :
    ∃ source, validate oneFile (slashed 4087) = .ok source ∧
      source.path.bytes = Bytes.ofString "./" ++ (slashed 4087).bytes ∧
      oneFile.resolve source.path = .error (.os .nameTooLong) ∧
      validate oneFile source.path = .error (.inputNotFound source.path) := by
  obtain ⟨source, accepted⟩ := exists_validate_eq_ok_iff.2
    ⟨leadsToFile_slashed (n := 4087) (by decide), endsShapely_slashed 4087⟩
  have begins : (slashed 4087).components.head? = some (.name (Bytes.ofString "d")) :=
    Path.head?_components (segments_slashed 4087) (List.cons_ne_nil _ _)
  have bytes : source.path.bytes = Bytes.ofString "./" ++ (slashed 4087).bytes := by
    rw [path_of_validate accepted, Path.anchored, begins]
    rfl
  have long : pathLimit < source.path.bytes.length := by
    have two : (Bytes.ofString "./").length = 2 := by decide
    rw [bytes, List.length_append, length_slashed, two]
    decide
  exact ⟨source, accepted, bytes, lost_of_long accepted long oneFile⟩

end Source

end CompilerDriver
