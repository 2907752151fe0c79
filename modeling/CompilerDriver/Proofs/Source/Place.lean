import CompilerDriver.Proofs.FileSystem.Agreement
import CompilerDriver.Proofs.Source.Names

/-!
# Where a source and what is made from it stand

* `fileName?_ne_of_validate` — **inputs with different stems have no file name in common**.
* `located_of_validate` — **each of the four paths of an accepted input ends in an entry of one
  directory**, unless the operating system does not take it: the two bytes that are put in front of
  a relative path may make it too long.
-/

namespace CompilerDriver

open FileSystem

namespace Source

/-- The files that are made from a source. -/
def made (source : Source) : List Path := [source.preprocessed, source.assembly, source.executable]

/-- The files of a source: itself, and what is made from it. -/
def files (source : Source) : List Path := source.path :: source.made

variable {fs : FileSystem} {p : Path} {source : Source}

/-- Up to the first dot, the name of each of the four files is the stem. -/
theorem Named.stem_of_mem {before : List Bytes} {stem extension : Bytes}
    (named : source.Named before stem extension) {path : Path} (mem : path ∈ source.files) :
    ∃ name, path.fileName? = some name ∧ name.takeWhile (· ≠ Bytes.dot) = stem := by
  obtain ⟨name_i, name_s, name⟩ := named.fileNames
  have up_to_dot (rest : Bytes) :
      (stem ++ Bytes.dot :: rest).takeWhile (· ≠ Bytes.dot) = stem := by
    rw [Bytes.takeWhile_append named.dot_stem, List.takeWhile_cons_of_neg (by simp),
      List.append_nil]
  simp only [files, made, List.mem_cons, List.not_mem_nil, or_false] at mem
  rcases mem with rfl | rfl | rfl | rfl
  · exact ⟨_, named.path_fileName?, up_to_dot _⟩
  · exact ⟨_, name_i, up_to_dot _⟩
  · exact ⟨_, name_s, up_to_dot _⟩
  · refine ⟨_, name, ?_⟩
    have whole := Bytes.takeWhile_append named.dot_stem []
    rwa [List.takeWhile_nil, List.append_nil] at whole

/-- **Inputs with different stems have no file name in common.** -/
theorem fileName?_ne_of_validate {fs' : FileSystem} {p' : Path} {source' : Source}
    (accepted : validate fs p = .ok source) (accepted' : validate fs' p' = .ok source')
    (stems : source.executable.fileName? ≠ source'.executable.fileName?) :
    ∀ path ∈ source.files, ∀ path' ∈ source'.files, path.fileName? ≠ path'.fileName? := by
  obtain ⟨before, stem, extension, named, -⟩ := named_of_validate accepted
  obtain ⟨before', stem', extension', named', -⟩ := named_of_validate accepted'
  intro path mem path' mem' same
  obtain ⟨name, given, up_to_dot⟩ := named.stem_of_mem mem
  obtain ⟨name', given', up_to_dot'⟩ := named'.stem_of_mem mem'
  obtain rfl : name = name' := Option.some.inj (given.symm.trans (same.trans given'))
  rw [named.fileNames.2.2, named'.fileNames.2.2, ← up_to_dot, ← up_to_dot'] at stems
  exact stems rfl

/-! ## Where they stand -/

/-- A path that is anchored starts where it did, and at most goes nowhere first. -/
theorem startOf_anchored (p : Path) (directory : Location) :
    p.anchored = p ∨
      (p.anchored.segments = Path.hereSegment :: p.segments ∧
        startOf directory p.anchored = startOf directory p) := by
  rcases Path.anchored_cases p with ⟨name, begins, anchored⟩ | ⟨-, same⟩
  · rw [anchored, startOf, startOf, Path.not_isAbsolute begins]
    exact .inr ⟨Path.segments_here p, rfl⟩
  · exact .inl same

/-- What leads to the directory of a path leads there from the anchored path too. -/
theorem leads_anchored {name : Bytes} {before : List Bytes} {d : Location}
    (segments : p.segments = (name :: before).reverse)
    (leads : fs.Leads d linkLimit (startOf fs.cwd p) before.reverse)
    (stands : fs.canStandIn d = true) :
    ∃ before', p.anchored.segments = (name :: before').reverse ∧
      fs.Leads d linkLimit (startOf fs.cwd p.anchored) before'.reverse := by
  rcases startOf_anchored p fs.cwd with same | ⟨segments', start⟩
  · rw [same]
    exact ⟨before, segments, leads⟩
  · refine ⟨before ++ [Path.hereSegment], ?_, ?_⟩
    · rw [segments', segments]
      simp
    · have stands : fs.canStandIn (startOf fs.cwd p) = true := by
        revert leads
        cases before.reverse with
        | nil => rintro ⟨⟩; exact stands
        | cons s rest => exact fun leads => canStandIn_of_walk (leads_iff.2 leads)
      rw [start, List.reverse_append]
      exact .idle stands (.inr rfl) leads

/-- Where a source stands: the segments before its name lead to a directory that is there, and the
name is not too long for an entry. -/
structure Placed (fs : FileSystem) (source : Source) (before : List Bytes) (stem extension : Bytes)
    (d : Location) : Prop extends source.Named before stem extension where
  segments : source.path.segments = ((stem ++ Bytes.dot :: extension) :: before).reverse
  leads : fs.Leads d linkLimit (startOf fs.cwd source.path) before.reverse
  stands : fs.canStandIn d = true
  there : fs.get? d ≠ none
  short : (stem ++ Bytes.dot :: extension).length ≤ nameLimit

/-- The operating system takes the path of an accepted input. -/
theorem accept_of_validate (accepted : validate fs p = .ok source) : accept p = .ok () :=
  (walk_of_isFile (of_validate accepted).1).1

/-- **Every source stands where its input does**: a last link is not followed. -/
theorem placed_of_validate (accepted : validate fs p = .ok source) :
    ∃ before stem extension d, source.Placed fs before stem extension d ∧
      fs.locate p = .ok (.entry d (stem ++ Bytes.dot :: extension) false) := by
  obtain ⟨before, stem, extension, named, given⟩ := named_of_validate accepted
  obtain ⟨file, _, _, -, -, rfl⟩ := of_validate accepted
  obtain ⟨d, node, located, -⟩ := locate_of_isFile file given
  obtain ⟨-, directory, segments, leads, stands, busy, down, there, short⟩ :=
    locate_bare_iff.1 located
  obtain ⟨before', segments', leads'⟩ := leads_anchored segments leads stands
  have leading := Path.leading_of_segments segments' busy
  obtain rfl : before' = before := (List.cons.inj (leading.symm.trans named.leading)).2
  exact ⟨before', stem, extension, d, ⟨named, segments', leads', stands, there, short⟩, located⟩

section placed

variable {before : List Bytes} {stem extension tail : Bytes} {d : Location}
  (placed : source.Placed fs before stem extension d)

include placed

/-- The path of a source ends in an entry of its directory. -/
theorem Placed.locate_path (taken : accept source.path = .ok ()) :
    fs.locate source.path = .ok (.entry d (stem ++ Bytes.dot :: extension) false) := by
  obtain ⟨busy, down⟩ := busy_of_stem placed.stem_ne placed.dot_stem (Bytes.dot :: extension)
  exact locate_bare_iff.2 ⟨taken, before, placed.segments, placed.leads, placed.stands, busy, down,
    placed.there, placed.short⟩

/-- What a path beside a source is looked up from, and how. -/
theorem Placed.leads_beside (plain_tail : Bytes.slash ∉ tail) :
    (beside before (stem ++ tail)).segments = ((stem ++ tail) :: Path.trimIdle before).reverse ∧
      fs.Leads d linkLimit (startOf fs.cwd (beside before (stem ++ tail)))
        (Path.trimIdle before).reverse := by
  have some_stem (rest : Bytes) : stem ++ rest ≠ [] := by simp [placed.stem_ne]
  have segments : (beside before (stem ++ tail)).segments =
      ((stem ++ tail) :: Path.trimIdle before).reverse :=
    Path.segments_reverse_ofSegments (placed.plain plain_tail)
  have absolute : (beside before (stem ++ tail)).isAbsolute = source.path.isAbsolute := by
    rw [Bool.eq_iff_iff, Path.isAbsolute_iff segments (some_stem tail),
      Path.isAbsolute_iff placed.segments (some_stem _), Path.getLast?_trimIdle]
  have start : startOf fs.cwd (beside before (stem ++ tail)) = startOf fs.cwd source.path := by
    rw [startOf, startOf, absolute]
  rw [start]
  exact ⟨segments, placed.leads.trimIdle⟩

/-- A path beside a source ends in an entry of the same directory, if it is no longer than a name
with an extension of one byte. -/
theorem Placed.locate_beside (plain_tail : Bytes.slash ∉ tail) (short_tail : tail.length ≤ 2)
    (taken : accept (beside before (stem ++ tail)) = .ok ()) :
    fs.locate (beside before (stem ++ tail)) = .ok (.entry d (stem ++ tail) false) := by
  obtain ⟨segments, leads⟩ := placed.leads_beside plain_tail
  obtain ⟨busy, down⟩ := busy_of_stem placed.stem_ne placed.dot_stem tail
  have short : (stem ++ tail).length ≤ nameLimit := by
    have := List.length_pos_iff.2 placed.extension_ne
    refine Nat.le_trans ?_ placed.short
    simp only [List.length_append, List.length_cons]
    omega
  exact locate_bare_iff.2 ⟨taken, _, segments, leads, placed.stands, busy, down, placed.there, short⟩

/-- What is made from a source is made in its directory, under its stem. -/
theorem Placed.locate_made :
    (accept source.preprocessed = .ok () →
        fs.locate source.preprocessed = .ok (.entry d (stem ++ Bytes.ofString ".i") false)) ∧
      (accept source.assembly = .ok () →
        fs.locate source.assembly = .ok (.entry d (stem ++ Bytes.ofString ".s") false)) ∧
      (accept source.executable = .ok () →
        fs.locate source.executable = .ok (.entry d stem false)) := by
  refine ⟨?_, ?_, ?_⟩
  · rw [preprocessed, placed.withExtension_eq]
    exact placed.locate_beside (by decide) (by decide)
  · rw [assembly, placed.withExtension_eq]
    exact placed.locate_beside (by decide) (by decide)
  · have locate := placed.locate_beside List.not_mem_nil (by decide)
    rwa [← placed.executable_eq, List.append_nil] at locate

end placed

/-- **Each of the four paths of an accepted input ends in an entry of one directory**, unless the
operating system does not take it. -/
theorem located_of_validate (accepted : validate fs p = .ok source) :
    ∃ d, ∀ path ∈ source.files, (∃ cause, accept path = .error cause) ∨
      ∃ name, fs.locate path = .ok (.entry d name false) := by
  obtain ⟨before, stem, extension, d, placed, -⟩ := placed_of_validate accepted
  obtain ⟨locate_i, locate_s, locate⟩ := placed.locate_made
  refine ⟨d, fun path mem => ?_⟩
  cases taken : accept path with
  | error cause => exact .inl ⟨cause, rfl⟩
  | ok done =>
    simp only [files, made, List.mem_cons, List.not_mem_nil, or_false] at mem
    rcases mem with rfl | rfl | rfl | rfl
    · exact .inr ⟨_, placed.locate_path taken⟩
    · exact .inr ⟨_, locate_i taken⟩
    · exact .inr ⟨_, locate_s taken⟩
    · exact .inr ⟨_, locate taken⟩

/-- **An anchored path leads where the path does**, if the operating system still takes it. -/
theorem resolve_anchored {l : Location} (resolved : fs.resolve p = .ok l)
    (taken : accept p.anchored = .ok ()) : fs.resolve p.anchored = .ok l := by
  obtain ⟨-, walked⟩ := resolve_eq_ok_iff.1 resolved
  refine resolve_eq_ok_iff.2 ⟨taken, ?_⟩
  rcases startOf_anchored p fs.cwd with same | ⟨segments, start⟩
  · rwa [same]
  · obtain ⟨first, rest, shape⟩ := List.exists_cons_of_ne_nil p.segments_ne_nil
    have stands : fs.canStandIn (startOf fs.cwd p) = true := by
      rw [shape] at walked
      exact canStandIn_of_walk walked
    rw [segments, start, walk_idle stands (.inr rfl)]
    exact walked

/-- The path of an accepted input is resolved, unless the operating system does not take it. -/
theorem resolved_of_validate (accepted : validate fs p = .ok source) :
    (∃ cause, accept source.path = .error cause) ∨ ∃ l, fs.resolve source.path = .ok l := by
  obtain ⟨file, name, made, -, -, rfl⟩ := of_validate accepted
  obtain ⟨taken, l, walked, -⟩ := walk_of_isFile file
  cases taken' : accept p.anchored with
  | error cause => exact .inl ⟨cause, rfl⟩
  | ok done => exact .inr ⟨l, resolve_anchored (resolve_eq_ok_iff.2 ⟨taken, walked⟩) taken'⟩

end Source

end CompilerDriver
