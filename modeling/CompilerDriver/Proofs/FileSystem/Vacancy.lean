import CompilerDriver.FileSystem.Update
import CompilerDriver.Proofs.FileSystem.Entry

/-!
# Removing an entry, and what is left at its path

* `Vacant` — nothing stands at the end of a path, a last link not being followed.
* `walk_erase` — a walk that arrives takes the same way after an entry that is no directory has been
  erased, unless it is stopped for want of that very entry.
* `vacant_of_unlink` and `vacant_of_unlink_notFound` — **after a removal that was done, and after
  one that found nothing, the path is vacant**.
* `get?_unlink` — a removal changes nothing but the entry that the path names.
-/

namespace CompilerDriver.FileSystem

variable {fs : FileSystem}

/-- There is no entry at the end of a path: looking at it, without following a last link, finds
nothing. -/
def Vacant (fs : FileSystem) (p : Path) : Prop := fs.locateEntry p = .error (.os .notFound)

/-- A path whose last segment is a name, so that no slash comes after it. -/
def Bare (p : Path) : Prop := p.segments.getLast? ≠ some []

/-- What is there and no directory cannot be stood in. -/
theorem not_canStandIn_of_get? {l : Location} {node : Node} (found : fs.get? l = some node)
    (file : node ≠ .directory) : fs.canStandIn l = false := by
  rw [canStandIn, found]
  cases node with
  | directory => exact absurd rfl file
  | file | link | device => rfl

/-! ## Walking where an entry has been erased -/

section erase

variable {gone : Location}

/-- Where no one can stand there is something, and it is not the root. -/
theorem ne_nil_of_not_canStandIn (file : fs.canStandIn gone = false) : gone ≠ [] := by
  rintro rfl
  simp [canStandIn, Node.isDirectory] at file

/-- Away from an erased entry all is as before. -/
theorem get?_erase_of_ne (file : fs.canStandIn gone = false) {l : Location} (other : l ≠ gone) :
    (fs.erase gone).get? l = fs.get? l := by
  rw [get?_erase fs (ne_nil_of_not_canStandIn file), if_neg other]

/-- Where one can stand is not the place of the erased entry, and one can still stand there. -/
theorem canStandIn_erase (file : fs.canStandIn gone = false) {l : Location}
    (stands : fs.canStandIn l = true) : l ≠ gone ∧ (fs.erase gone).canStandIn l = true := by
  have other : l ≠ gone := by
    rintro rfl
    rw [file] at stands
    cases stands
  refine ⟨other, ?_⟩
  rw [canStandIn, get?_erase_of_ne file other]
  exact stands

/-- A walk that leads somewhere leads there after an entry that is no directory has been erased, or
it is stopped because something on its way is not found. -/
theorem Leads.erase (file : fs.canStandIn gone = false) {links : Nat} {l d : Location}
    {segments : List Bytes} (leads : fs.Leads d links l segments) :
    (fs.erase gone).Leads d links l segments ∨
      (fs.erase gone).walk links l segments = .error .notFound := by
  have empty := get?_erase fs (ne_nil_of_not_canStandIn file) gone
  rw [if_pos rfl] at empty
  -- Where the walk stands is never where the entry was.
  induction leads with
  | arrived => exact .inl .arrived
  | idle stands idle onward ih =>
    obtain ⟨-, still⟩ := canStandIn_erase file stands
    rw [walk_idle still idle]
    exact ih.imp (.idle still idle) id
  | up stands onward ih =>
    obtain ⟨-, still⟩ := canStandIn_erase file stands
    rw [walk_up still]
    exact ih.imp (.up still) id
  | @link links l segment rest target stands busy down there short found onward ih =>
    obtain ⟨other, still⟩ := canStandIn_erase file stands
    rw [← get?_erase_of_ne file other] at there
    by_cases lost : segment :: l = gone
    · have missing : (fs.erase gone).get? (segment :: l) = none := by rwa [lost]
      exact .inr (walk_missing still busy down there short missing)
    · rw [← get?_erase_of_ne file lost] at found
      rw [walk_link still busy down there short found]
      exact ih.imp (.link still busy down there short found) id
  | @name links l segment rest node stands busy down there short found no_link onward ih =>
    obtain ⟨other, still⟩ := canStandIn_erase file stands
    rw [← get?_erase_of_ne file other] at there
    by_cases lost : segment :: l = gone
    · have missing : (fs.erase gone).get? (segment :: l) = none := by rwa [lost]
      exact .inr (walk_missing still busy down there short missing)
    · rw [← get?_erase_of_ne file lost] at found
      rw [walk_name still busy down there short found no_link]
      exact ih.imp (.name still busy down there short found no_link) id

/-- **A walk that arrives takes the same way after an entry that is no directory has been erased**,
or it is stopped because something on its way is not found. -/
theorem walk_erase (file : fs.canStandIn gone = false) {links : Nat} {l d : Location}
    {segments : List Bytes} (walked : fs.walk links l segments = .ok d) :
    (fs.erase gone).walk links l segments = .ok d ∨
      (fs.erase gone).walk links l segments = .error .notFound :=
  ((leads_iff.1 walked).erase file).imp leads_iff.2 id

end erase

/-! ## Removing -/

/-- A removal that was done has found an entry that is no directory, and has erased it. -/
theorem entry_of_unlink {p : Path} {after : FileSystem} (done : fs.unlink p = .ok after) :
    ∃ directory name, fs.locate p = .ok (.entry directory name false) ∧
      fs.canStandIn (name :: directory) = false ∧ after = fs.erase (name :: directory) := by
  unfold unlink at done
  rcases located : fs.locate p with cause | slot
  · rw [located] at done
    cases done
  · rw [located] at done
    cases slot with
    | whole => cases done
    | entry directory name slashAfter =>
      simp only [bind, Except.bind] at done
      split at done
      · cases done
      · cases done
      · rename_i node file found
        split at done
        · cases done
        · rename_i no_slash
          cases done
          rw [Bool.not_eq_true] at no_slash
          exact ⟨directory, name, by rw [no_slash], not_canStandIn_of_get? found file, rfl⟩

/-- A removal that has found nothing: there is no way to the entry, or no entry. -/
theorem entry_of_unlink_notFound {p : Path} (none_there : fs.unlink p = .error (.os .notFound)) :
    fs.locate p = .error (.os .notFound) ∨
      ∃ directory name slashAfter, fs.locate p = .ok (.entry directory name slashAfter) ∧
        fs.get? (name :: directory) = none := by
  unfold unlink at none_there
  rcases located : fs.locate p with cause | slot
  · rw [located] at none_there
    cases none_there
    exact .inl rfl
  · rw [located] at none_there
    cases slot with
    | whole => cases none_there
    | entry directory name slashAfter =>
      simp only [bind, Except.bind] at none_there
      split at none_there
      · rename_i empty
        exact .inr ⟨directory, name, slashAfter, rfl, empty⟩
      · cases none_there
      · split at none_there <;> cases none_there

/-- The entry of a path is located as before after another entry has been erased, if not for want
of that. -/
theorem locate_erase {gone : Location} (file : fs.canStandIn gone = false) {p : Path}
    {directory : Location} {name : Bytes} {slashAfter : Bool}
    (located : fs.locate p = .ok (.entry directory name slashAfter)) :
    (fs.erase gone).locate p = .ok (.entry directory name slashAfter) ∨
      (fs.erase gone).locate p = .error (.os .notFound) := by
  obtain ⟨accepted, slot⟩ := locate_eq_ok_iff.1 located
  obtain ⟨before, shape, walked, stands, here, up, there, short, slash⟩ :=
    slotFrom_eq_entry_iff.1 slot
  obtain ⟨other, still⟩ := canStandIn_erase file stands
  rcases walk_erase file walked with walked' | lost
  · left
    refine locate_eq_ok_iff.2 ⟨accepted, slotFrom_eq_entry_iff.2 ?_⟩
    rw [cwd_erase]
    exact ⟨before, shape, walked', still, here, up, by rwa [get?_erase_of_ne file other], short,
      slash⟩
  · right
    unfold locate slotFrom
    rw [shape]
    simp [accepted, lost, bind, Except.bind]

/-- A path without a slash at its end is vacant if it is located at no entry. -/
theorem vacant_of_locate {p : Path} {directory : Location} {name : Bytes}
    (located : fs.locate p = .ok (.entry directory name false))
    (empty : fs.get? (name :: directory) = none) : fs.Vacant p := by
  simp [Vacant, locateEntry, located, empty, bind, Except.bind]

/-- Nothing stands at a path that leads nowhere. -/
theorem vacant_of_locate_notFound {p : Path} (lost : fs.locate p = .error (.os .notFound)) :
    fs.Vacant p := by
  simp [Vacant, locateEntry, lost, bind, Except.bind]

/-- **After a removal that was done the path is vacant.** -/
theorem vacant_of_unlink {p : Path} {after : FileSystem} (done : fs.unlink p = .ok after) :
    after.Vacant p := by
  obtain ⟨directory, name, located, file, rfl⟩ := entry_of_unlink done
  rcases locate_erase file located with located' | lost
  · refine vacant_of_locate located' ?_
    rw [get?_erase fs (ne_nil_of_not_canStandIn file), if_pos rfl]
  · exact vacant_of_locate_notFound lost

/-- **A path is vacant if a removal has found nothing there.** -/
theorem vacant_of_unlink_notFound {p : Path} (bare : Bare p)
    (none_there : fs.unlink p = .error (.os .notFound)) : fs.Vacant p := by
  rcases entry_of_unlink_notFound none_there with
    lost | ⟨directory, name, slashAfter, located, empty⟩
  · exact vacant_of_locate_notFound lost
  · obtain ⟨before, -, -, -, -, -, -, -, slash⟩ :=
      slotFrom_eq_entry_iff.1 (locate_eq_ok_iff.1 located).2
    have no_slash : slashAfter = false := by
      rw [slash]
      exact decide_eq_false bare
    exact vacant_of_locate (no_slash ▸ located) empty

/-- **A removal changes nothing but the entry that the path names.** -/
theorem get?_unlink {p : Path} {after : FileSystem} (done : fs.unlink p = .ok after) {l : Location}
    (other : ¬ fs.Names p l) : after.get? l = fs.get? l := by
  obtain ⟨directory, name, located, file, rfl⟩ := entry_of_unlink done
  refine get?_erase_of_ne file ?_
  rintro rfl
  exact other ⟨directory, name, false, located, rfl⟩

end CompilerDriver.FileSystem
