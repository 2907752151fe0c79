import CompilerDriver.Proofs.FileSystem.Vacancy

/-!
# File systems that agree outside some places

* `Leaf` — a location at which a regular file stands or nothing, so that no walk goes on from there.
* `AlikeOutside` — two file systems that agree everywhere but at some places, which are leaves in
  both.
* `AlikeOutside.leads` — **walks take the same way in both**, unless they end at such a place. So
  both locate the same entries (`AlikeOutside.locate`), and what is resolved to no such place reads
  the same (`AlikeOutside.read`).
* `AlikeOutside.changed` — what changes at most at the places makes no difference elsewhere: a file
  that is written there (`AlikeOutside.put`), or one that is erased (`AlikeOutside.erase`).
* `unlink_of_locate`, `read_of_locate` — what removing and reading find at a leaf.
-/

namespace CompilerDriver.FileSystem

/-- A regular file stands at a location, or nothing does; and the process does not work in there. -/
structure Leaf (fs : FileSystem) (l : Location) : Prop where
  file : ∀ node, fs.get? l = some node → node.isFile = true
  outside : isWithin l fs.cwd = false

/-- Two file systems, seen from the same directory, agree everywhere but at some places, which are
leaves in both. -/
structure AlikeOutside (places : Location → Prop) (fs fs' : FileSystem) : Prop where
  cwd : fs'.cwd = fs.cwd
  same : ∀ l, ¬ places l → fs'.get? l = fs.get? l
  leaf : ∀ l, places l → fs.Leaf l
  leaf' : ∀ l, places l → fs'.Leaf l

variable {places : Location → Prop} {fs fs' fs'' : FileSystem}

namespace AlikeOutside

theorem refl (leaf : ∀ l, places l → fs.Leaf l) : AlikeOutside places fs fs :=
  ⟨rfl, fun _ _ => rfl, leaf, leaf⟩

theorem symm (alike : AlikeOutside places fs fs') : AlikeOutside places fs' fs :=
  ⟨alike.cwd.symm, fun l off => (alike.same l off).symm, alike.leaf', alike.leaf⟩

end AlikeOutside

/-! ## Leaves are not on the way -/

/-- No one can stand in a file. -/
theorem Leaf.not_stands {l : Location} (leaf : fs.Leaf l) (there : fs.get? l ≠ none) :
    fs.canStandIn l = false := by
  obtain ⟨node, found⟩ := Option.ne_none_iff_exists'.1 there
  refine not_canStandIn_of_get? found ?_
  rintro rfl
  cases leaf.file _ found

theorem Leaf.ne_nil {l : Location} (leaf : fs.Leaf l) : l ≠ [] := by
  rintro rfl
  cases leaf.file .directory rfl

theorem isWithin_self (l : Location) : isWithin l l = true :=
  List.isSuffixOf_iff_suffix.2 (List.suffix_refl l)

theorem isWithin_cons {top : Location} {name : Bytes} {l : Location} :
    isWithin top (name :: l) = true ↔ top = name :: l ∨ isWithin top l = true := by
  simp only [isWithin, List.isSuffixOf_iff_suffix, List.suffix_cons_iff]

/-- A location lies outside all places. -/
def Outside (places : Location → Prop) (l : Location) : Prop :=
  ∀ top, places top → isWithin top l = false

theorem Outside.not_mem {l : Location} (outside : Outside places l) : ¬ places l := by
  intro mem
  have := outside l mem
  rw [isWithin_self] at this
  cases this

theorem Outside.tail {l : Location} (outside : Outside places l) : Outside places l.tail := by
  intro top mem
  cases l with
  | nil => exact outside top mem
  | cons name parent =>
    have apart := outside top mem
    rw [← Bool.not_eq_true] at apart ⊢
    exact fun within => apart (isWithin_cons.2 (.inr within))

theorem Outside.cons {l : Location} {name : Bytes} (outside : Outside places l)
    (off : ¬ places (name :: l)) : Outside places (name :: l) := by
  intro top mem
  rw [← Bool.not_eq_true]
  intro within
  rcases isWithin_cons.1 within with rfl | within
  · exact off mem
  · rw [outside top mem] at within
    cases within

namespace AlikeOutside

/-- No place is the root. -/
theorem outside_nil (alike : AlikeOutside places fs fs') : Outside places [] := by
  intro top mem
  rw [← Bool.not_eq_true, isWithin, List.isSuffixOf_iff_suffix, List.suffix_nil]
  exact (alike.leaf top mem).ne_nil

/-- A path starts outside all places. -/
theorem outside_startOf (alike : AlikeOutside places fs fs') (p : Path) :
    Outside places (startOf fs.cwd p) := by
  unfold startOf
  split
  · exact alike.outside_nil
  · exact fun top mem => (alike.leaf top mem).outside

theorem canStandIn (alike : AlikeOutside places fs fs') {l : Location} (off : ¬ places l) :
    fs'.canStandIn l = fs.canStandIn l := by
  rw [FileSystem.canStandIn, FileSystem.canStandIn, alike.same l off]

/-- **Walks take the same way in both**, unless they end at one of the places: no way leads through
a leaf. -/
theorem leads (alike : AlikeOutside places fs fs') {links : Nat} {l d : Location}
    {segments : List Bytes} (leads : fs.Leads d links l segments) (outside : Outside places l)
    (off : ¬ places d) : fs'.Leads d links l segments := by
  induction leads with
  | arrived => exact .arrived
  | idle stands idle onward ih =>
    rw [← alike.canStandIn outside.not_mem] at stands
    exact .idle stands idle (ih outside)
  | up stands onward ih =>
    rw [← alike.canStandIn outside.not_mem] at stands
    exact .up stands (ih outside.tail)
  | @link links l segment rest target stands busy down there short found onward ih =>
    have no_place : ¬ places (segment :: l) := by
      intro mem
      cases (alike.leaf _ mem).file _ found
    have start : Outside places (startOf l target) := by
      unfold startOf
      split
      · exact alike.outside_nil
      · exact outside
    rw [← alike.canStandIn outside.not_mem] at stands
    rw [← alike.same _ outside.not_mem] at there
    rw [← alike.same _ no_place] at found
    exact .link stands busy down there short found (ih start)
  | @name links l segment rest node stands busy down there short found no_link onward ih =>
    have no_place : ¬ places (segment :: l) := by
      intro mem
      -- The walk would have to end here, since no one can stand in a file.
      have stuck := (alike.leaf _ mem).not_stands (by rw [found]; exact Option.some_ne_none node)
      cases onward with
      | arrived => exact off mem
      | idle stands | up stands | link stands | name stands =>
        rw [stands] at stuck
        cases stuck
    rw [← alike.canStandIn outside.not_mem] at stands
    rw [← alike.same _ outside.not_mem] at there
    rw [← alike.same _ no_place] at found
    exact .name stands busy down there short found no_link (ih (outside.cons no_place))

theorem walk (alike : AlikeOutside places fs fs') {p : Path} {segments : List Bytes} {d : Location}
    (walked : fs.walk linkLimit (startOf fs.cwd p) segments = .ok d) (off : ¬ places d) :
    fs'.walk linkLimit (startOf fs'.cwd p) segments = .ok d := by
  rw [alike.cwd]
  exact leads_iff.2 (alike.leads (leads_iff.1 walked) (alike.outside_startOf p) off)

/-- Both locate the same entries. -/
theorem locate (alike : AlikeOutside places fs fs') {p : Path} {directory : Location} {name : Bytes}
    {slashAfter : Bool} (located : fs.locate p = .ok (.entry directory name slashAfter)) :
    fs'.locate p = .ok (.entry directory name slashAfter) := by
  obtain ⟨accepted, slot⟩ := locate_eq_ok_iff.1 located
  obtain ⟨before, shape, walked, stands, here, up, there, short, slash⟩ :=
    slotFrom_eq_entry_iff.1 slot
  have off : ¬ places directory := by
    intro mem
    rw [(alike.leaf _ mem).not_stands there] at stands
    cases stands
  refine locate_eq_ok_iff.2 ⟨accepted, slotFrom_eq_entry_iff.2 ?_⟩
  rw [← alike.canStandIn off] at stands
  rw [← alike.same _ off] at there
  exact ⟨before, shape, alike.walk walked off, stands, here, up, there, short, slash⟩

theorem names_iff (alike : AlikeOutside places fs fs') {p : Path} {l : Location} :
    fs'.Names p l ↔ fs.Names p l := by
  constructor
  · rintro ⟨directory, name, slashAfter, located, eq⟩
    exact ⟨directory, name, slashAfter, alike.symm.locate located, eq⟩
  · rintro ⟨directory, name, slashAfter, located, eq⟩
    exact ⟨directory, name, slashAfter, alike.locate located, eq⟩

/-- What changes at most at the places, and leaves regular files or nothing there, makes no
difference elsewhere. -/
theorem changed (alike : AlikeOutside places fs fs') (cwd : fs''.cwd = fs'.cwd)
    (same : ∀ l, ¬ places l → fs''.get? l = fs'.get? l)
    (file : ∀ l, places l → ∀ node, fs''.get? l = some node → node.isFile = true) :
    AlikeOutside places fs fs'' where
  cwd := cwd.trans alike.cwd
  same l off := (same l off).trans (alike.same l off)
  leaf := alike.leaf
  leaf' l place := by
    refine ⟨file l place, ?_⟩
    rw [cwd]
    exact (alike.leaf' l place).outside

/-- A file that is written to one of the places makes no difference elsewhere. -/
theorem put (alike : AlikeOutside places fs fs') {l : Location} (place : places l)
    (contents : Bytes) (mode : Mode) :
    AlikeOutside places fs (fs'.put l (.file contents mode)) := by
  have get? (l' : Location) := get?_put fs' (alike.leaf l place).ne_nil (.file contents mode) l'
  refine alike.changed (cwd_put ..) (fun l' off => ?_) fun l' place' node found => ?_
  · have other : l' ≠ l := by
      rintro rfl
      exact off place
    rw [get?, if_neg other]
  · rw [get?] at found
    split at found
    · cases found
      rfl
    · exact (alike.leaf' l' place').file node found

/-- What is erased from one of the places makes no difference elsewhere. -/
theorem erase (alike : AlikeOutside places fs fs') {gone : Location} (place : places gone) :
    AlikeOutside places fs (fs'.erase gone) := by
  have get? (l' : Location) := get?_erase fs' (alike.leaf gone place).ne_nil l'
  refine alike.changed (cwd_erase ..) (fun l' off => ?_) fun l' place' node found => ?_
  · have other : l' ≠ gone := by
      rintro rfl
      exact off place
    rw [get?, if_neg other]
  · rw [get?] at found
    split at found
    · cases found
    · exact (alike.leaf' l' place').file node found

end AlikeOutside

/-! ## From another directory -/

/-- The files as a process sees them that works in a directory. -/
def seenFrom (fs : FileSystem) (directory : Location) : FileSystem := { fs with cwd := directory }

@[simp] theorem get?_seenFrom (fs : FileSystem) (directory l : Location) :
    (fs.seenFrom directory).get? l = fs.get? l := rfl

theorem AlikeOutside.seenFrom_eq {directory : Location}
    (alike : AlikeOutside places (fs.seenFrom directory) fs') : fs'.seenFrom directory = fs' := by
  obtain rfl : fs'.cwd = directory := alike.cwd
  rfl

/-- It makes no difference from where two file systems are looked at, if it is no place. -/
theorem AlikeOutside.seenFrom (alike : AlikeOutside places fs fs') {directory : Location}
    (outside : ∀ l, places l → isWithin l directory = false) :
    AlikeOutside places (fs.seenFrom directory) (fs'.seenFrom directory) where
  cwd := rfl
  same := alike.same
  leaf l place := ⟨(alike.leaf l place).file, outside l place⟩
  leaf' l place := ⟨(alike.leaf' l place).file, outside l place⟩

/-! ## Reading -/

/-- What is resolved to no place reads the same in both. -/
theorem AlikeOutside.read (alike : AlikeOutside places fs fs') {p : Path} {l : Location}
    (resolved : fs.resolve p = .ok l) (off : ¬ places l) : fs'.read p = fs.read p := by
  obtain ⟨accepted, walked⟩ := resolve_eq_ok_iff.1 resolved
  have resolved' : fs'.resolve p = .ok l := resolve_eq_ok_iff.2 ⟨accepted, alike.walk walked off⟩
  simp only [FileSystem.read, resolved, resolved', bind, Except.bind, found, alike.same l off]

/-- A walk goes on from where it has arrived. -/
theorem Leads.append {links : Nat} {l between d : Location} {first second : List Bytes}
    (leads : fs.Leads between links l first) (onward : ∀ links, fs.Leads d links between second) :
    fs.Leads d links l (first ++ second) := by
  induction leads with
  | arrived => exact onward _
  | idle stands idle _ ih => exact .idle stands idle ih
  | up stands _ ih => exact .up stands ih
  | link stands busy down there short found _ ih =>
    rw [List.append_assoc] at ih
    exact .link stands busy down there short found ih
  | name stands busy down there short found no_link _ ih =>
    exact .name stands busy down there short found no_link ih

/-- Reading finds the contents of the file at the end of a path. -/
theorem read_of_locate {p : Path} {directory : Location} {name contents : Bytes} {mode : Mode}
    (located : fs.locate p = .ok (.entry directory name false))
    (file : fs.get? (name :: directory) = some (.file contents mode)) :
    fs.read p = .ok contents := by
  obtain ⟨accepted, before, segments, leads, stands, busy, down, there, short⟩ :=
    locate_bare_iff.1 located
  have last : ∀ links, fs.Leads (name :: directory) links directory [name] := fun links =>
    .name stands busy down there short file (by simp) .arrived
  have whole := leads.append last
  rw [← List.reverse_cons, ← segments] at whole
  have resolved : fs.resolve p = .ok (name :: directory) :=
    resolve_eq_ok_iff.2 ⟨accepted, leads_iff.2 whole⟩
  simp only [FileSystem.read, resolved, bind, Except.bind, found, file, Option.getD_some]

/-! ## Removing -/

/-- Removing erases the file at the end of a path, and finds nothing if there is none. -/
theorem unlink_of_locate {p : Path} {directory : Location} {name : Bytes}
    (located : fs.locate p = .ok (.entry directory name false))
    (leaf : fs.Leaf (name :: directory)) :
    fs.unlink p =
      if fs.get? (name :: directory) = none then .error (.os .notFound)
      else .ok (fs.erase (name :: directory)) := by
  unfold unlink
  simp only [located, bind, Except.bind]
  split
  · rename_i empty
    rw [if_pos empty]
  · rename_i folder
    cases leaf.file _ folder
  · rename_i there
    simp [there]

/-- What the operating system does not take is refused, whatever it is to be removed from. -/
theorem unlink_of_refused {p : Path} {cause : Cause} (refused : accept p = .error cause)
    (fs : FileSystem) : fs.unlink p = .error cause := by
  simp [unlink, FileSystem.locate, refused, bind, Except.bind]

theorem read_of_refused {p : Path} {cause : Cause} (refused : accept p = .error cause)
    (fs : FileSystem) : fs.read p = .error cause := by
  simp [FileSystem.read, resolve, refused, bind, Except.bind]

end CompilerDriver.FileSystem
