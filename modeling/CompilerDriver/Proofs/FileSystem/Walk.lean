import CompilerDriver.FileSystem.Lookup

/-!
# Walks that arrive

* `Leads` — the ways in which a walk along segments can get to a location, one constructor for each
  kind of segment. A link that is followed costs one of the links that may be.
* `leads_iff` — **a walk arrives exactly if it leads there in this way**. What is said of walks
  further on is proved by induction on `Leads`, over segments and links at once.
* `Leads.split` — a walk along two lists of segments arrives somewhere after the first.
* `Leads.canStandIn` — a walk whose last segment leads nowhere ends in a directory.
* `Leads.trimIdle` — idle segments right before a name lead nowhere, so nothing changes if they are
  dropped.
-/

namespace CompilerDriver.FileSystem

variable {fs : FileSystem}

/-- A walk from a location along some segments leads to `d`. -/
inductive Leads (fs : FileSystem) (d : Location) :
    (links : Nat) → Location → List Bytes → Prop where
  /-- There are no more segments. -/
  | arrived {links : Nat} : Leads fs d links d []
  /-- An idle segment leads nowhere. -/
  | idle {links : Nat} {l : Location} {segment : Bytes} {rest : List Bytes}
      (stands : fs.canStandIn l = true) (idle : Path.IsIdle segment)
      (onward : Leads fs d links l rest) : Leads fs d links l (segment :: rest)
  /-- Two dots lead to the parent. -/
  | up {links : Nat} {l : Location} {rest : List Bytes} (stands : fs.canStandIn l = true)
      (onward : Leads fs d links l.tail rest) : Leads fs d links l (Path.upSegment :: rest)
  /-- The name of a link leads along its target. -/
  | link {links : Nat} {l : Location} {segment : Bytes} {rest : List Bytes} {target : Path}
      (stands : fs.canStandIn l = true) (busy : ¬ Path.IsIdle segment)
      (down : segment ≠ Path.upSegment) (there : fs.get? l ≠ none)
      (short : segment.length ≤ nameLimit) (found : fs.get? (segment :: l) = some (.link target))
      (onward : Leads fs d links (startOf l target) (target.segments ++ rest)) :
      Leads fs d (links + 1) l (segment :: rest)
  /-- The name of anything else leads there. -/
  | name {links : Nat} {l : Location} {segment : Bytes} {rest : List Bytes} {node : Node}
      (stands : fs.canStandIn l = true) (busy : ¬ Path.IsIdle segment)
      (down : segment ≠ Path.upSegment) (there : fs.get? l ≠ none)
      (short : segment.length ≤ nameLimit) (found : fs.get? (segment :: l) = some node)
      (no_link : ∀ target, node ≠ .link target) (onward : Leads fs d links (segment :: l) rest) :
      Leads fs d links l (segment :: rest)

/-! ## Errors among other causes -/

@[simp] theorem mapError_error {α : Type} (e : OsError) :
    (Except.error e : Except OsError α).mapError Cause.os = .error (.os e) := rfl

@[simp] theorem mapError_ok {α : Type} (a : α) :
    (Except.ok a : Except OsError α).mapError Cause.os = .ok a := rfl

/-! ## One segment of a walk -/

section steps

variable {links : Nat} {l d : Location} {segment : Bytes} {rest : List Bytes}

/-- What takes over at a link, when so many may be followed. -/
def onward (fs : FileSystem) : (links : Nat) → Location → List Bytes → Except OsError Location
  | 0 => fun _ _ => .error .tooManyLinks
  | links + 1 => fs.walk links

theorem walk_eq (links : Nat) : fs.walk links = fs.walkBetweenLinks (fs.onward links) := by
  cases links <;> rfl

theorem walk_idle (stands : fs.canStandIn l = true) (idle : Path.IsIdle segment) :
    fs.walk links l (segment :: rest) = fs.walk links l rest := by
  simp [walk_eq, walkBetweenLinks, stands, idle]

theorem walk_up (stands : fs.canStandIn l = true) :
    fs.walk links l (Path.upSegment :: rest) = fs.walk links l.tail rest := by
  have busy : ¬ Path.IsIdle Path.upSegment := by decide
  simp [walk_eq, walkBetweenLinks, stands, busy]

section name

variable (stands : fs.canStandIn l = true) (busy : ¬ Path.IsIdle segment)
  (down : segment ≠ Path.upSegment) (there : fs.get? l ≠ none)
  (short : segment.length ≤ nameLimit)

include stands busy down there short

theorem walk_missing (missing : fs.get? (segment :: l) = none) :
    fs.walk links l (segment :: rest) = .error .notFound := by
  simp [walk_eq, walkBetweenLinks, stands, busy, down, there, Nat.not_lt.2 short, missing]

theorem walk_link {target : Path} (found : fs.get? (segment :: l) = some (.link target)) :
    fs.walk links l (segment :: rest) =
      fs.onward links (startOf l target) (target.segments ++ rest) := by
  simp [walk_eq, walkBetweenLinks, stands, busy, down, there, Nat.not_lt.2 short, found]

theorem walk_name {node : Node} (found : fs.get? (segment :: l) = some node)
    (no_link : ∀ target, node ≠ .link target) :
    fs.walk links l (segment :: rest) = fs.walk links (segment :: l) rest := by
  cases node with
  | link target => exact absurd rfl (no_link target)
  | directory | file | device =>
    simp [walk_eq, walkBetweenLinks, stands, busy, down, there, Nat.not_lt.2 short, found]

end name

/-- A walk with a segment to go stands in a directory. -/
theorem canStandIn_of_walk (walked : fs.walk links l (segment :: rest) = .ok d) :
    fs.canStandIn l = true := by
  rw [← Bool.not_eq_false]
  intro outside
  simp [walk_eq, walkBetweenLinks, outside] at walked

/-- A walk that gets past a name was in a directory that is there, and the name is not too long. -/
theorem checked_of_walk (busy : ¬ Path.IsIdle segment) (down : segment ≠ Path.upSegment)
    (walked : fs.walk links l (segment :: rest) = .ok d) :
    fs.get? l ≠ none ∧ segment.length ≤ nameLimit := by
  have stands := canStandIn_of_walk walked
  simp only [walk_eq, walkBetweenLinks, stands, busy, down, Bool.not_true, Bool.false_eq_true,
    if_false] at walked
  split at walked
  · cases walked
  · rename_i there
    split at walked
    · cases walked
    · rename_i short
      exact ⟨fun h => there (by simp [h]), Nat.not_lt.1 short⟩

end steps

/-! ## A walk that arrives -/

/-- A walk leads where it arrives, if walks with fewer links do. -/
theorem leads_of_walk {links : Nat} {d : Location}
    (fewer : ∀ l segments, fs.onward links l segments = .ok d →
      ∃ fewer, links = fewer + 1 ∧ fs.Leads d fewer l segments)
    (segments : List Bytes) :
    ∀ l, fs.walk links l segments = .ok d → fs.Leads d links l segments := by
  induction segments with
  | nil =>
    intro l walked
    rw [walk_eq] at walked
    cases walked
    exact .arrived
  | cons segment rest ih =>
    intro l walked
    have stands := canStandIn_of_walk walked
    by_cases idle : Path.IsIdle segment
    · rw [walk_idle stands idle] at walked
      exact .idle stands idle (ih l walked)
    · by_cases up : segment = Path.upSegment
      · subst up
        rw [walk_up stands] at walked
        exact .up stands (ih l.tail walked)
      · obtain ⟨there, short⟩ := checked_of_walk idle up walked
        rcases found : fs.get? (segment :: l) with _ | node
        · rw [walk_missing stands idle up there short found] at walked
          cases walked
        · by_cases link : ∃ target, node = .link target
          · obtain ⟨target, rfl⟩ := link
            rw [walk_link stands idle up there short found] at walked
            obtain ⟨links', rfl, onward⟩ := fewer _ _ walked
            exact .link stands idle up there short found onward
          · have no_link : ∀ target, node ≠ .link target := fun target h => link ⟨target, h⟩
            rw [walk_name stands idle up there short found no_link] at walked
            exact .name stands idle up there short found no_link (ih _ walked)

/-- **A walk arrives exactly if it leads there.** -/
theorem leads_iff {links : Nat} {l d : Location} {segments : List Bytes} :
    fs.walk links l segments = .ok d ↔ fs.Leads d links l segments := by
  constructor
  · intro walked
    induction links generalizing l segments with
    | zero =>
      refine leads_of_walk ?_ segments l walked
      intro l segments walked
      cases walked
    | succ links ih =>
      refine leads_of_walk ?_ segments l walked
      intro l segments walked
      exact ⟨links, rfl, ih walked⟩
  · intro leads
    induction leads with
    | arrived =>
      rw [walk_eq]
      rfl
    | idle stands idle onward ih => rwa [walk_idle stands idle]
    | up stands onward ih => rwa [walk_up stands]
    | link stands busy down there short found onward ih =>
      rw [walk_link stands busy down there short found]
      exact ih
    | name stands busy down there short found no_link onward ih =>
      rwa [walk_name stands busy down there short found no_link]

namespace Leads

variable {links : Nat} {l d : Location}

/-- A walk along two lists of segments arrives somewhere after the first, and goes on from there. -/
theorem split {segments : List Bytes} (leads : fs.Leads d links l segments)
    {first second : List Bytes} (parts : segments = first ++ second) :
    ∃ between, fs.Leads between links l first ∧
      ∃ links', fs.Leads d links' between second := by
  induction leads generalizing first with
  | @arrived links =>
    obtain ⟨rfl, rfl⟩ := List.append_eq_nil_iff.1 parts.symm
    exact ⟨d, .arrived, links, .arrived⟩
  | @idle links l segment rest stands idle onward ih =>
    cases first with
    | nil =>
      subst parts
      exact ⟨l, .arrived, links, .idle stands idle onward⟩
    | cons s first =>
      obtain ⟨rfl, tail⟩ := List.cons.inj parts
      obtain ⟨between, before, after⟩ := ih tail
      exact ⟨between, .idle stands idle before, after⟩
  | @up links l rest stands onward ih =>
    cases first with
    | nil =>
      subst parts
      exact ⟨l, .arrived, links, .up stands onward⟩
    | cons s first =>
      obtain ⟨rfl, tail⟩ := List.cons.inj parts
      obtain ⟨between, before, after⟩ := ih tail
      exact ⟨between, .up stands before, after⟩
  | @link links l segment rest target stands busy down there short found onward ih =>
    cases first with
    | nil =>
      subst parts
      exact ⟨l, .arrived, _, .link stands busy down there short found onward⟩
    | cons s first =>
      obtain ⟨rfl, rfl⟩ := List.cons.inj parts
      -- The target comes before what is left of the first list.
      obtain ⟨between, before, after⟩ := ih (List.append_assoc target.segments first second).symm
      exact ⟨between, .link stands busy down there short found before, after⟩
  | @name links l segment rest node stands busy down there short found no_link onward ih =>
    cases first with
    | nil =>
      subst parts
      exact ⟨l, .arrived, links, .name stands busy down there short found no_link onward⟩
    | cons s first =>
      obtain ⟨rfl, tail⟩ := List.cons.inj parts
      obtain ⟨between, before, after⟩ := ih tail
      exact ⟨between, .name stands busy down there short found no_link before, after⟩

/-- **A walk whose last segment leads nowhere ends in a directory.** -/
theorem canStandIn {segments : List Bytes} (leads : fs.Leads d links l segments) {last : Bytes}
    (idle_last : Path.IsIdle last) (ends : segments.getLast? = some last) :
    fs.canStandIn d = true := by
  induction leads with
  | arrived => cases ends
  | @idle links l segment rest stands idle onward ih =>
    cases rest with
    | nil =>
      -- This was the last segment, so the walk ends where it stands.
      cases onward
      exact stands
    | cons next rest => exact ih (by rwa [List.getLast?_cons_cons] at ends)
  | @up links l rest stands onward ih =>
    cases rest with
    | nil =>
      cases ends
      exact absurd idle_last (by decide)
    | cons next rest => exact ih (by rwa [List.getLast?_cons_cons] at ends)
  | @link links l segment rest target stands busy down there short found onward ih =>
    cases rest with
    | nil =>
      cases ends
      exact absurd idle_last busy
    | cons next rest =>
      refine ih ?_
      rw [List.getLast?_cons_cons] at ends
      rw [List.getLast?_append, ends]
      rfl
  | @name links l segment rest node stands busy down there short found no_link onward ih =>
    cases rest with
    | nil =>
      cases ends
      exact absurd idle_last busy
    | cons next rest => exact ih (by rwa [List.getLast?_cons_cons] at ends)

/-- A walk along an idle segment stays where it starts. -/
theorem eq_of_idle {segment : Bytes} (idle : Path.IsIdle segment)
    (leads : fs.Leads d links l [segment]) : l = d := by
  cases leads with
  | idle _ _ onward =>
    cases onward
    rfl
  | up => exact absurd idle (by decide)
  | link _ busy | name _ busy => exact absurd idle busy

/-- Idle segments right before a name lead nowhere. -/
theorem trimIdle {directory : List Bytes} (leads : fs.Leads d links l directory.reverse) :
    fs.Leads d links l (Path.trimIdle directory).reverse := by
  induction directory with
  | nil => exact leads
  | cons s rest ih =>
    cases rest with
    | nil => exact leads
    | cons t rest =>
      rw [Path.trimIdle]
      · split
        · rename_i idle
          obtain ⟨between, before, links', last⟩ := leads.split List.reverse_cons
          obtain rfl := last.eq_of_idle idle
          exact ih before
        · exact leads
      · simp

end Leads

end CompilerDriver.FileSystem
