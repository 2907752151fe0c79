import CompilerDriver.Proofs.FileSystem.Vacancy

/-!
# What a path comes to

* `Stops` — the ways in which a walk fails, told segment by segment like those of `Leads`.
* `leads_or_stops` — every walk leads somewhere or stops, and `stops_iff`: **a walk fails with an
  error exactly if it stops with it**.
* `Sees` — what a path comes to when a last link is not followed: an entry, a directory, or the
  failure that is met first. `sees_iff`: **a path comes to exactly one of these**, and `sight` works
  it out.
* `unlink_eq` — what removing a path does depends on what it comes to alone; `sight_erase`: after a
  removal that was done it comes to nothing.
-/

namespace CompilerDriver.FileSystem

variable {fs : FileSystem}

/-! ## Walks that stop -/

/-- A walk looks for a name: it stands in a directory that is there, and the name is none of those
that lead nowhere or up. -/
structure LooksFor (fs : FileSystem) (l : Location) (name : Bytes) : Prop where
  stands : fs.canStandIn l = true
  busy : ¬ Path.IsIdle name
  down : name ≠ Path.upSegment
  there : fs.get? l ≠ none
  short : name.length ≤ nameLimit

/-- A walk from a location along some segments fails with an error. -/
inductive Stops (fs : FileSystem) : OsError → (links : Nat) → Location → List Bytes → Prop where
  /-- The walk stands in what is no directory. -/
  | outside {links : Nat} {l : Location} {segment : Bytes} {rest : List Bytes}
      (file : fs.canStandIn l = false) : Stops fs .notDirectory links l (segment :: rest)
  /-- The walk stands in a directory that has been removed, and there are no names in there. -/
  | removed {links : Nat} {l : Location} {segment : Bytes} {rest : List Bytes}
      (nothing : fs.get? l = none) (busy : ¬ Path.IsIdle segment)
      (down : segment ≠ Path.upSegment) : Stops fs .notFound links l (segment :: rest)
  /-- The name is longer than any entry's. -/
  | long {links : Nat} {l : Location} {segment : Bytes} {rest : List Bytes}
      (stands : fs.canStandIn l = true) (busy : ¬ Path.IsIdle segment)
      (down : segment ≠ Path.upSegment) (there : fs.get? l ≠ none)
      (long : nameLimit < segment.length) : Stops fs .nameTooLong links l (segment :: rest)
  /-- There is no entry of that name. -/
  | missing {links : Nat} {l : Location} {segment : Bytes} {rest : List Bytes}
      (looks : fs.LooksFor l segment) (missing : fs.get? (segment :: l) = none) :
      Stops fs .notFound links l (segment :: rest)
  /-- There is a link, and no more may be followed. -/
  | tired {l : Location} {segment : Bytes} {rest : List Bytes} {target : Path}
      (looks : fs.LooksFor l segment) (found : fs.get? (segment :: l) = some (.link target)) :
      Stops fs .tooManyLinks 0 l (segment :: rest)
  /-- The walk goes on after an idle segment, and stops then. -/
  | idle {e : OsError} {links : Nat} {l : Location} {segment : Bytes} {rest : List Bytes}
      (stands : fs.canStandIn l = true) (idle : Path.IsIdle segment)
      (onward : Stops fs e links l rest) : Stops fs e links l (segment :: rest)
  /-- It goes on from the parent, and stops then. -/
  | up {e : OsError} {links : Nat} {l : Location} {rest : List Bytes}
      (stands : fs.canStandIn l = true) (onward : Stops fs e links l.tail rest) :
      Stops fs e links l (Path.upSegment :: rest)
  /-- It goes on along the target of a link, and stops then. -/
  | link {e : OsError} {links : Nat} {l : Location} {segment : Bytes} {rest : List Bytes}
      {target : Path} (looks : fs.LooksFor l segment)
      (found : fs.get? (segment :: l) = some (.link target))
      (onward : Stops fs e links (startOf l target) (target.segments ++ rest)) :
      Stops fs e (links + 1) l (segment :: rest)
  /-- It goes on from any other entry, and stops then. -/
  | name {e : OsError} {links : Nat} {l : Location} {segment : Bytes} {rest : List Bytes}
      {node : Node} (looks : fs.LooksFor l segment) (found : fs.get? (segment :: l) = some node)
      (no_link : ∀ target, node ≠ .link target) (onward : Stops fs e links (segment :: l) rest) :
      Stops fs e links l (segment :: rest)

section walks

variable {links : Nat} {l : Location} {segment : Bytes} {rest segments : List Bytes}

/-- A walk with a segment to go cannot start in what is no directory. -/
theorem walk_outside (file : fs.canStandIn l = false) :
    fs.walk links l (segment :: rest) = .error .notDirectory := by
  simp [walk_eq, walkBetweenLinks, file]

/-- Nothing is found in a directory that has been removed. -/
theorem walk_removed (nothing : fs.get? l = none) (busy : ¬ Path.IsIdle segment)
    (down : segment ≠ Path.upSegment) :
    fs.walk links l (segment :: rest) = .error .notFound := by
  simp [walk_eq, walkBetweenLinks, canStandIn, nothing, busy, down]

theorem walk_long (stands : fs.canStandIn l = true) (busy : ¬ Path.IsIdle segment)
    (down : segment ≠ Path.upSegment) (there : fs.get? l ≠ none)
    (long : nameLimit < segment.length) :
    fs.walk links l (segment :: rest) = .error .nameTooLong := by
  simp [walk_eq, walkBetweenLinks, stands, busy, down, there, long]

/-- A walk that stops fails with that error. -/
theorem Stops.walk {e : OsError} (stops : fs.Stops e links l segments) :
    fs.walk links l segments = .error e := by
  induction stops with
  | outside file => exact walk_outside file
  | removed nothing busy down => exact walk_removed nothing busy down
  | long stands busy down there long => exact walk_long stands busy down there long
  | missing looks missing =>
    exact walk_missing looks.stands looks.busy looks.down looks.there looks.short missing
  | tired looks found =>
    exact walk_link looks.stands looks.busy looks.down looks.there looks.short found
  | idle stands idle onward ih => rwa [walk_idle stands idle]
  | up stands onward ih => rwa [walk_up stands]
  | link looks found onward ih =>
    rwa [walk_link looks.stands looks.busy looks.down looks.there looks.short found]
  | name looks found no_link onward ih =>
    rwa [walk_name looks.stands looks.busy looks.down looks.there looks.short found no_link]

/-- A walk leads somewhere or stops. -/
def Ends (fs : FileSystem) (links : Nat) (l : Location) (segments : List Bytes) : Prop :=
  (∃ d, fs.Leads d links l segments) ∨ ∃ e, fs.Stops e links l segments

/-- What is found under a name that is not idle, before it is followed. -/
theorem looksFor_or_stops (links : Nat) (stands : fs.canStandIn l = true)
    (busy : ¬ Path.IsIdle segment) (down : segment ≠ Path.upSegment) (rest : List Bytes) :
    (∃ node, fs.LooksFor l segment ∧ fs.get? (segment :: l) = some node) ∨
      ∃ e, fs.Stops e links l (segment :: rest) := by
  by_cases nothing : fs.get? l = none
  · exact .inr ⟨_, .removed nothing busy down⟩
  · by_cases long : nameLimit < segment.length
    · exact .inr ⟨_, .long stands busy down nothing long⟩
    · have looks : fs.LooksFor l segment := ⟨stands, busy, down, nothing, Nat.not_lt.1 long⟩
      rcases found : fs.get? (segment :: l) with _ | node
      · exact .inr ⟨_, .missing looks found⟩
      · exact .inl ⟨node, looks, rfl⟩

/-- A walk ends if it does where a link is to be followed. -/
theorem ends_of_links {links : Nat}
    (follow : ∀ {l segment rest target}, fs.LooksFor l segment →
      fs.get? (segment :: l) = some (.link target) → fs.Ends links l (segment :: rest))
    (segments : List Bytes) : ∀ l, fs.Ends links l segments := by
  induction segments with
  | nil => exact fun l => .inl ⟨l, .arrived⟩
  | cons segment rest ih =>
    intro l
    rcases stands : fs.canStandIn l with _ | _
    · exact .inr ⟨_, .outside stands⟩
    by_cases idle : Path.IsIdle segment
    · exact (ih l).imp (fun ⟨d, leads⟩ => ⟨d, .idle stands idle leads⟩)
        fun ⟨e, stops⟩ => ⟨e, .idle stands idle stops⟩
    by_cases up : segment = Path.upSegment
    · subst up
      exact (ih l.tail).imp (fun ⟨d, leads⟩ => ⟨d, .up stands leads⟩)
        fun ⟨e, stops⟩ => ⟨e, .up stands stops⟩
    rcases looksFor_or_stops links stands idle up rest with ⟨node, looks, found⟩ | stops
    · by_cases link : ∃ target, node = .link target
      · obtain ⟨target, rfl⟩ := link
        exact follow looks found
      · have no_link : ∀ target, node ≠ .link target := fun target h => link ⟨target, h⟩
        exact (ih (segment :: l)).imp
          (fun ⟨d, leads⟩ => ⟨d, .name looks.stands looks.busy looks.down looks.there looks.short
            found no_link leads⟩)
          fun ⟨e, stops⟩ => ⟨e, .name looks found no_link stops⟩
    · exact .inr stops

/-- **Every walk leads somewhere or stops.** -/
theorem leads_or_stops (links : Nat) (l : Location) (segments : List Bytes) :
    fs.Ends links l segments := by
  induction links generalizing l segments with
  | zero => exact ends_of_links (fun looks found => .inr ⟨_, .tired looks found⟩) segments l
  | succ links fewer =>
    refine ends_of_links (fun looks found => ?_) segments l
    exact (fewer _ _).imp
      (fun ⟨d, leads⟩ => ⟨d, .link looks.stands looks.busy looks.down looks.there looks.short found
        leads⟩)
      fun ⟨e, stops⟩ => ⟨e, .link looks found stops⟩

/-- **A walk fails with an error exactly if it stops with it.** -/
theorem stops_iff {e : OsError} :
    fs.walk links l segments = .error e ↔ fs.Stops e links l segments := by
  constructor
  · intro failed
    rcases leads_or_stops links l segments with ⟨d, leads⟩ | ⟨e', stops⟩
    · rw [leads_iff.2 leads] at failed
      cases failed
    · have same := stops.walk
      rw [failed] at same
      cases same
      exact stops
  · exact Stops.walk

end walks

/-! ## What a path comes to -/

/-- What a path comes to when a last link is not followed. -/
inductive Sight where
  /-- An entry that is there, and whether slashes come after its name. -/
  | entry (l : Location) (node : Node) (slashAfter : Bool)
  /-- A directory that the path does not name: it is a root or ends in dots. -/
  | directory
  /-- Nothing, for this reason. -/
  | failure (cause : Cause)
deriving DecidableEq, Repr

/-- What the last name of a path comes to, once a walk along those before it has arrived. -/
inductive SeesLast (fs : FileSystem) (l : Location) (name : Bytes) (slashAfter : Bool) :
    Sight → Prop where
  /-- The walk has not arrived in a directory. -/
  | outside (file : fs.canStandIn l = false) :
      SeesLast fs l name slashAfter (.failure (.os .notDirectory))
  /-- The name is that of the directory itself or of its parent. -/
  | dots (stands : fs.canStandIn l = true)
      (dots : name = Path.hereSegment ∨ name = Path.upSegment) :
      SeesLast fs l name slashAfter .directory
  /-- The directory has been removed. -/
  | removed (nothing : fs.get? l = none) (here : name ≠ Path.hereSegment)
      (down : name ≠ Path.upSegment) : SeesLast fs l name slashAfter (.failure (.os .notFound))
  /-- The name is longer than any entry's. -/
  | long (stands : fs.canStandIn l = true) (there : fs.get? l ≠ none)
      (here : name ≠ Path.hereSegment) (down : name ≠ Path.upSegment)
      (long : nameLimit < name.length) :
      SeesLast fs l name slashAfter (.failure (.os .nameTooLong))
  /-- There is no entry of that name. -/
  | missing (looks : fs.LooksFor l name) (missing : fs.get? (name :: l) = none) :
      SeesLast fs l name slashAfter (.failure (.os .notFound))
  /-- There is one, be it a link. -/
  | entry {node : Node} (looks : fs.LooksFor l name) (found : fs.get? (name :: l) = some node) :
      SeesLast fs l name slashAfter (.entry (name :: l) node slashAfter)

/-- The segments of a path up to its last name, last one first: without the empty ones at the end. -/
def named (p : Path) : List Bytes := p.segments.reverse.dropWhile fun s => s = []

/-- Whether slashes come after the last name of a path. -/
def endsInSlash (p : Path) : Bool := p.segments.getLast? = some []

/-- What a path comes to when a last link is not followed. -/
inductive Sees (fs : FileSystem) (p : Path) : Sight → Prop where
  /-- A zero byte is in no path. -/
  | zero (zero : 0 ∈ p.bytes) : Sees fs p (.failure .nulInPath)
  /-- The empty path leads nowhere. -/
  | empty (empty : p.bytes = []) : Sees fs p (.failure (.os .notFound))
  /-- The path is longer than any. -/
  | long (no_zero : 0 ∉ p.bytes) (long : pathLimit < p.bytes.length) :
      Sees fs p (.failure (.os .nameTooLong))
  /-- The path is a root. -/
  | root (accepted : accept p = .ok ()) (nameless : named p = []) : Sees fs p .directory
  /-- The walk stops on the way to the last name. -/
  | lost {last : Bytes} {before : List Bytes} {e : OsError} (accepted : accept p = .ok ())
      (parts : named p = last :: before)
      (stops : fs.Stops e linkLimit (startOf fs.cwd p) before.reverse) :
      Sees fs p (.failure (.os e))
  /-- It arrives, and the last name comes to what there is. -/
  | last {last : Bytes} {before : List Bytes} {d : Location} {x : Sight}
      (accepted : accept p = .ok ()) (parts : named p = last :: before)
      (leads : fs.Leads d linkLimit (startOf fs.cwd p) before.reverse)
      (sees : fs.SeesLast d last (endsInSlash p) x) : Sees fs p x

/-- What a slot comes to. -/
def sightOf (fs : FileSystem) : Slot → Sight
  | .whole => .directory
  | .entry directory name slashAfter =>
    match fs.get? (name :: directory) with
    | none => .failure (.os .notFound)
    | some node => .entry (name :: directory) node slashAfter

/-- What a path comes to, worked out. -/
def sight (fs : FileSystem) (p : Path) : Sight :=
  match fs.locate p with
  | .error cause => .failure cause
  | .ok slot => fs.sightOf slot

/-! ## It comes to one thing -/

section sees

variable {p : Path} {x : Sight}

/-- The operating system refuses a path for a zero byte, because it is empty or too long. -/
theorem accept_eq_error_iff {cause : Cause} :
    accept p = .error cause ↔
      0 ∈ p.bytes ∧ cause = .nulInPath ∨ p.bytes = [] ∧ cause = .os .notFound ∨
        0 ∉ p.bytes ∧ pathLimit < p.bytes.length ∧ cause = .os .nameTooLong := by
  unfold accept
  split
  · rename_i zero
    have some_bytes : p.bytes ≠ [] := List.ne_nil_of_mem zero
    simp [zero, some_bytes, eq_comm]
  · rename_i no_zero
    split
    · rename_i empty
      simp [empty, eq_comm]
    · rename_i some_bytes
      split
      · rename_i long
        simp [no_zero, some_bytes, long, eq_comm]
      · rename_i short
        simp [no_zero, some_bytes, short]

/-- The last name of a path comes to something. -/
theorem exists_seesLast (fs : FileSystem) (l : Location) {name : Bytes} (some_name : name ≠ [])
    (slashAfter : Bool) : ∃ x, fs.SeesLast l name slashAfter x := by
  rcases stands : fs.canStandIn l with _ | _
  · exact ⟨_, .outside stands⟩
  by_cases dots : name = Path.hereSegment ∨ name = Path.upSegment
  · exact ⟨_, .dots stands dots⟩
  obtain ⟨here, down⟩ := not_or.1 dots
  by_cases nothing : fs.get? l = none
  · exact ⟨_, .removed nothing here down⟩
  by_cases long : nameLimit < name.length
  · exact ⟨_, .long stands nothing here down long⟩
  have looks : fs.LooksFor l name :=
    ⟨stands, not_or.2 ⟨some_name, here⟩, down, nothing, Nat.not_lt.1 long⟩
  rcases found : fs.get? (name :: l) with _ | node
  · exact ⟨_, .missing looks found⟩
  · exact ⟨_, .entry looks found⟩

/-- Every path comes to something. -/
theorem exists_sees (fs : FileSystem) (p : Path) : ∃ x, fs.Sees p x := by
  rcases accepted : accept p with cause | ⟨⟩
  · rcases accept_eq_error_iff.1 accepted with ⟨zero, rfl⟩ | ⟨empty, rfl⟩ | ⟨no_zero, long, rfl⟩
    · exact ⟨_, .zero zero⟩
    · exact ⟨_, .empty empty⟩
    · exact ⟨_, .long no_zero long⟩
  · rcases parts : named p with _ | ⟨last, before⟩
    · exact ⟨_, .root accepted parts⟩
    · rcases leads_or_stops linkLimit (startOf fs.cwd p) before.reverse with
        ⟨d, leads⟩ | ⟨e, stops⟩
      · obtain ⟨x, sees⟩ := exists_seesLast fs d (ne_nil_of_dropWhile parts) (endsInSlash p)
        exact ⟨x, .last accepted parts leads sees⟩
      · exact ⟨_, .lost accepted parts stops⟩

/-- What the operating system refuses fails for that reason. -/
theorem sight_of_refused {cause : Cause} (refused : accept p = .error cause) :
    fs.sight p = .failure cause := by
  simp [sight, locate, refused, bind, Except.bind]

/-- Past the last name but one a path comes to what the last one comes to. -/
theorem SeesLast.sight {last : Bytes} {before : List Bytes} {d : Location}
    (sees : fs.SeesLast d last (endsInSlash p) x) (accepted : accept p = .ok ())
    (parts : named p = last :: before)
    (walked : fs.walk linkLimit (startOf fs.cwd p) before.reverse = .ok d) : fs.sight p = x := by
  rw [named] at parts
  unfold FileSystem.sight locate slotFrom
  rw [parts]
  cases sees with
  | outside file => simp [accepted, walked, file, bind, Except.bind]
  | dots stands dots => simp [accepted, walked, stands, dots, sightOf, bind, Except.bind]
  | removed nothing here down =>
    simp [accepted, walked, canStandIn, nothing, here, down, bind, Except.bind]
  | long stands there here down long =>
    simp [accepted, walked, stands, there, here, down, long, bind, Except.bind]
  | missing looks missing =>
    obtain ⟨-, here⟩ := not_or.1 looks.busy
    simp [accepted, walked, looks.stands, looks.there, here, looks.down, Nat.not_lt.2 looks.short,
      sightOf, missing, bind, Except.bind]
  | entry looks found =>
    obtain ⟨-, here⟩ := not_or.1 looks.busy
    simp [accepted, walked, looks.stands, looks.there, here, looks.down, Nat.not_lt.2 looks.short,
      sightOf, found, endsInSlash, bind, Except.bind]

/-- What a path comes to is what is worked out. -/
theorem Sees.sight (sees : fs.Sees p x) : fs.sight p = x := by
  cases sees with
  | zero zero => exact sight_of_refused (accept_eq_error_iff.2 (.inl ⟨zero, rfl⟩))
  | empty empty => exact sight_of_refused (accept_eq_error_iff.2 (.inr (.inl ⟨empty, rfl⟩)))
  | long no_zero long =>
    exact sight_of_refused (accept_eq_error_iff.2 (.inr (.inr ⟨no_zero, long, rfl⟩)))
  | root accepted nameless =>
    rw [named] at nameless
    unfold FileSystem.sight locate slotFrom
    rw [nameless]
    simp [accepted, sightOf, bind, Except.bind]
  | lost accepted parts stops =>
    rw [named] at parts
    unfold FileSystem.sight locate slotFrom
    rw [parts]
    simp [accepted, stops_iff.2 stops, bind, Except.bind]
  | last accepted parts leads sees => exact sees.sight accepted parts (leads_iff.2 leads)

/-- **A path comes to exactly one thing**, and that can be worked out. -/
theorem sees_iff : fs.Sees p x ↔ fs.sight p = x := by
  constructor
  · exact Sees.sight
  · rintro rfl
    obtain ⟨x, sees⟩ := exists_sees fs p
    rwa [sees.sight]

/-- A link to itself is an entry like any other at the end of a path, and leads nowhere before
that. -/
example :
    let loop := Path.ofString "loop"
    let fs : FileSystem := { entries := [([loop.bytes], .link loop)], cwd := [] }
    fs.Sees loop (.entry [loop.bytes] (.link loop) false) ∧
      fs.Sees (Path.ofString "loop/foo.s") (.failure (.os .tooManyLinks)) := by
  intro loop fs
  exact ⟨sees_iff.2 (by decide +kernel), sees_iff.2 (by decide +kernel)⟩

/-! ## Removing what is seen -/

/-- What removing a path does, by what the path comes to. -/
def Sight.unlinked (fs : FileSystem) : Sight → Except Cause FileSystem
  | .failure cause => .error cause
  | .directory | .entry _ .directory _ => .error (.os .isDirectory)
  | .entry _ _ true => .error (.os .notDirectory)
  | .entry l _ false => .ok (fs.erase l)

/-- **What removing a path does depends on what the path comes to alone.** -/
theorem unlink_eq (fs : FileSystem) (p : Path) : fs.unlink p = (fs.sight p).unlinked fs := by
  unfold unlink sight
  rcases fs.locate p with cause | ⟨directory, name, slashAfter⟩ | _
  · rfl
  · simp only [bind, Except.bind, sightOf]
    rcases fs.get? (name :: directory) with _ | node
    · rfl
    · cases node <;> cases slashAfter <;> rfl
  · rfl

/-- What is at a path that an entry is seen at. -/
theorem entry_of_sight {l : Location} {node : Node} {slashAfter : Bool}
    (seen : fs.sight p = .entry l node slashAfter) :
    fs.get? l = some node ∧
      ∃ directory name, fs.locate p = .ok (.entry directory name slashAfter) ∧
        l = name :: directory := by
  unfold sight at seen
  rcases located : fs.locate p with cause | ⟨directory, name, slash⟩ | _
  · rw [located] at seen
    cases seen
  · simp only [located, sightOf] at seen
    rcases found : fs.get? (name :: directory) with _ | node'
    · rw [found] at seen
      cases seen
    · rw [found] at seen
      cases seen
      exact ⟨found, directory, name, rfl, rfl⟩
  · rw [located] at seen
    cases seen

/-- **After a removal that was done the path comes to nothing.** -/
theorem sight_erase {l : Location} {node : Node} {slashAfter : Bool}
    (seen : fs.sight p = .entry l node slashAfter) (file : node ≠ .directory) :
    (fs.erase l).sight p = .failure (.os .notFound) := by
  obtain ⟨found, directory, name, located, rfl⟩ := entry_of_sight seen
  have outside := not_canStandIn_of_get? found file
  have empty := get?_erase fs (List.cons_ne_nil name directory) (name :: directory)
  rw [if_pos rfl] at empty
  rcases locate_erase outside located with located' | lost
  · simp [sight, located', sightOf, empty]
  · simp [sight, lost]

end sees

end CompilerDriver.FileSystem
