import CompilerDriver.Proofs.Pipeline.Cleanup
import CompilerDriver.Proofs.Plan.Footprint
import CompilerDriver.Proofs.Plan.Interleaving
import CompilerDriver.Proofs.Source.Place

/-!
# Runs at the same time

* `Job` — a run of the pipeline that is to be done somewhere; the locations of its four files are
  its own (`Job.Owns`).
* `KeepsToItself` — what is asked of the tools of a job: a call writes nothing but files of the job,
  and two calls that find these the same are answered alike and leave them the same.
* `AtWork.step` — one turn of a job changes nothing but its own files. `Matching.step` — one turn of
  a job comes to the same wherever its own files are the same.
* `undisturbed_of_run` — **only runs on the same stem race**: jobs on inputs with different stems do
  under every schedule what they do alone.
-/

namespace CompilerDriver.Pipeline

open Plan FileSystem

variable {ι σ : Type}

/-! ## Jobs -/

/-- A run of the pipeline that is to be done somewhere, by tools of its own. -/
structure Job (σ : Type) where
  source : Source
  cutoff : Stage
  keepAssembly : Bool
  tools : Toolchain σ
  /-- The state in which the tools start. -/
  state : σ
  /-- Where the job is done. -/
  directory : Location

namespace Job

/-- The process that does a job. -/
def process (job : Job σ) : Process σ (Except Failure Outcome) where
  tools := job.tools
  plan := (execute job.source job.cutoff job.keepAssembly).run
  state := job.state
  directory := job.directory

/-- The run of a job with nobody else at work. -/
def alone (job : Job σ) (start : FileSystem) : Run σ (Except Failure Outcome) :=
  perform job.tools (execute job.source job.cutoff job.keepAssembly) job.state
    (start.seenFrom job.directory)

/-- The moments of this run. -/
def moments (job : Job σ) (start : FileSystem) : List (Moment σ) :=
  Plan.moments job.tools job.state (start.seenFrom job.directory) (job.alone start).events

/-- A location is that of one of the four files of a job. -/
def Owns (job : Job σ) (start : FileSystem) (l : Location) : Prop :=
  ∃ path ∈ job.source.files, (start.seenFrom job.directory).Names path l

end Job

/-- Two answers are the same, and so are the files that they leave at some places. -/
structure SameAnswer (places : Location → Prop) (answer answer' : Answer σ) : Prop where
  reply : answer'.reply = answer.reply
  state : answer'.state = answer.state
  files : ∀ l, places l → answer'.files.get? l = answer.files.get? l

/-- What is asked of the tools of a job, at the moments of two courses of it: each call writes
nothing but files of the job, and two calls that find these the same are answered alike. -/
structure KeepsToItself (job : Job σ) (start : FileSystem) (past past' : List (Moment σ)) :
    Prop where
  keeps : ∀ m ∈ past ++ past', ∀ request, m.event.call? = some request →
    WritesOnly (job.Owns start) job.tools request m.state m.files
  alike : ∀ m ∈ past, ∀ m' ∈ past', ∀ request, m.event.call? = some request →
    m'.event.call? = some request → m'.state = m.state →
      (∀ l, job.Owns start l → m'.files.get? l = m.files.get? l) →
        SameAnswer (job.Owns start) (job.tools.answer request m.state m.files)
          (job.tools.answer request m'.state m'.files)

/-- What is asked over a longer time is asked over a shorter. -/
theorem KeepsToItself.mono {job : Job σ} {start : FileSystem} {past past' past'' : List (Moment σ)}
    (tame : KeepsToItself job start past past'') (shorter : past' ⊆ past'') :
    KeepsToItself job start past past' where
  keeps m mem := by
    refine tame.keeps m (List.mem_append.2 ?_)
    exact (List.mem_append.1 mem).imp id fun mem => shorter mem
  alike m mem m' mem' := tame.alike m mem m' (shorter mem')

/-! ## One turn of a job -/

/-- A process that is doing a job. -/
structure AtWork (job : Job σ) (start : FileSystem) (places : Location → Prop)
    (process : Process σ (Except Failure Outcome)) (files : FileSystem) : Prop where
  tools : process.tools = job.tools
  directory : process.directory = job.directory
  alike : AlikeOutside places (start.seenFrom job.directory) (files.seenFrom job.directory)

/-- What a process does next it does to files of the job. -/
structure Restrained (job : Job σ) (start : FileSystem)
    (process : Process σ (Except Failure Outcome)) (files : FileSystem) : Prop where
  keeps : ∀ request next, process.plan = .call request next →
    WritesOnly (job.Owns start) job.tools request process.state (files.seenFrom job.directory)
  removes : ∀ path next, process.plan = .unlink path next → path ∈ job.source.files

/-- Two processes that do a job have as much left of it, have done the same so far, and the files of
the job are the same. -/
structure Matching (job : Job σ) (start : FileSystem)
    (one other : Process σ (Except Failure Outcome) × FileSystem) : Prop where
  plan : other.1.plan = one.1.plan
  state : other.1.state = one.1.state
  actions : other.1.past.map (·.event.action?) = one.1.past.map (·.event.action?)
  files : ∀ l, job.Owns start l → other.2.get? l = one.2.get? l

section turn

variable {job : Job σ} {start files files' : FileSystem} {places : Location → Prop}
  {process process' : Process σ (Except Failure Outcome)} {path : Path} {p : Path}

/-- **A turn of a job changes nothing but files of the job.** -/
theorem AtWork.step (work : AtWork job start places process files)
    (restrained : Restrained job start process files)
    (within : ∀ l, job.Owns start l → places l) :
    AtWork job start places (process.step files).1 (process.step files).2 ∧
      ∀ l, ¬ job.Owns start l → (process.step files).2.get? l = files.get? l := by
  cases plan : process.plan with
  | done result =>
    rw [Process.step_of_done plan]
    exact ⟨work, fun _ _ => rfl⟩
  | call request next =>
    have keeps := restrained.keeps request next plan
    have alike := keeps.alike work.alike within
    rw [Process.step_of_call plan, work.tools, work.directory]
    simp only [Process.went, Moment.next, Event.after, work.tools]
    refine ⟨⟨rfl, alike.cwd, ?_⟩, keeps.elsewhere⟩
    rwa [alike.seenFrom_eq]
  | unlink path next =>
    have mem := restrained.removes path next plan
    have owned : ∀ l, (start.seenFrom job.directory).Names path l → job.Owns start l :=
      fun _ names => ⟨path, mem, names⟩
    have alike := alike_removal work.alike fun l names => within l (owned l names)
    rw [Process.step_of_unlink plan, work.directory]
    simp only [Process.went, Moment.next, Event.after, work.tools]
    refine ⟨⟨rfl, alike.cwd, ?_⟩, fun l foreign => ?_⟩
    · rwa [alike.seenFrom_eq]
    · exact get?_removal fun names => foreign (owned l (work.alike.names_iff.1 names))
  | record entry rest =>
    rw [Process.step_of_record plan, work.directory]
    simp only [Process.went, Moment.next, Event.after, work.tools]
    exact ⟨⟨rfl, rfl, work.alike⟩, fun _ _ => rfl⟩

/-- A removal of a file of a job comes to the same wherever the files of the job are the same. -/
theorem removal_of_owned
    (accepted : Source.validate (start.seenFrom job.directory) p = .ok job.source)
    (within : ∀ l, job.Owns start l → places l)
    (alike : AlikeOutside places (start.seenFrom job.directory) files)
    (alike' : AlikeOutside places (start.seenFrom job.directory) files')
    (same : ∀ l, job.Owns start l → files'.get? l = files.get? l) (mem : path ∈ job.source.files) :
    (removal files' path).1 = (removal files path).1 ∧
      ∀ l, job.Owns start l → (removal files' path).2.get? l = (removal files path).2.get? l := by
  obtain ⟨d, located⟩ := Source.located_of_validate accepted
  rcases located path mem with ⟨cause, refused⟩ | ⟨name, located⟩
  · rw [removal_of_refused refused, removal_of_refused refused]
    exact ⟨rfl, same⟩
  · have owned : job.Owns start (name :: d) := ⟨path, mem, d, name, false, located, rfl⟩
    have leaf := alike.leaf' _ (within _ owned)
    have leaf' := alike'.leaf' _ (within _ owned)
    rw [removal_of_locate (alike.locate located) leaf,
      removal_of_locate (alike'.locate located) leaf', same _ owned]
    split
    · exact ⟨rfl, same⟩
    · refine ⟨rfl, fun l place => ?_⟩
      rw [get?_erase _ leaf.ne_nil, get?_erase _ leaf.ne_nil, same l place]

/-- Moments with the same action that lead to the same keep two processes alike. -/
theorem Matching.went (matching : Matching job start (process, files) (process', files'))
    (work : AtWork job start places process files)
    (work' : AtWork job start places process' files') {m m' : Moment σ}
    {rest : Plan (Except Failure Outcome)} (action : m'.event.action? = m.event.action?)
    (state : (m'.next job.tools).1 = (m.next job.tools).1)
    (after : ∀ l, job.Owns start l →
      (m'.next job.tools).2.get? l = (m.next job.tools).2.get? l) :
    Matching job start (process.went m rest) (process'.went m' rest) := by
  rw [Process.went, Process.went, work.tools, work'.tools]
  refine ⟨rfl, state, ?_, after⟩
  rw [List.map_append, List.map_append, matching.actions, List.map_singleton, List.map_singleton,
    action]

/-- **A turn of a job comes to the same wherever the files of the job are the same.** -/
theorem Matching.step (matching : Matching job start (process, files) (process', files'))
    (work : AtWork job start places process files)
    (work' : AtWork job start places process' files')
    (accepted : Source.validate (start.seenFrom job.directory) p = .ok job.source)
    (within : ∀ l, job.Owns start l → places l)
    (removes : ∀ path next, process.plan = .unlink path next → path ∈ job.source.files)
    (answers : ∀ request next, process.plan = .call request next →
      SameAnswer (job.Owns start)
        (job.tools.answer request process.state (files.seenFrom job.directory))
        (job.tools.answer request process'.state (files'.seenFrom job.directory))) :
    Matching job start (process.step files) (process'.step files') := by
  have plan' : process'.plan = process.plan := matching.plan
  cases plan : process.plan with
  | done result =>
    rw [Process.step_of_done plan, Process.step_of_done (plan'.trans plan)]
    exact matching
  | call request next =>
    have same := answers request next plan
    rw [Process.step_of_call plan, Process.step_of_call (plan'.trans plan), work.tools,
      work'.tools, work.directory, work'.directory]
    simp only [same.reply]
    exact matching.went work work' rfl same.state same.files
  | unlink path next =>
    obtain ⟨reply, after⟩ := removal_of_owned accepted within work.alike work'.alike matching.files
      (removes path next plan)
    rw [Process.step_of_unlink plan, Process.step_of_unlink (plan'.trans plan), work.directory,
      work'.directory, reply]
    exact matching.went work work' rfl matching.state after
  | record entry rest =>
    rw [Process.step_of_record plan, Process.step_of_record (plan'.trans plan)]
    exact matching.went work work' rfl matching.state matching.files

end turn

/-! ## A job alone -/

section alone

variable {job : Job σ} {start : FileSystem} {places : Location → Prop} {p : Path}

/-- Whatever a job has done alone it does in its run. -/
theorem past_steps (job : Job σ) (start : FileSystem) (n : Nat) :
    (job.process.steps start n).1.past ⊆ job.moments start := by
  obtain ⟨past, -⟩ := job.process.steps_eq start n
  rw [past]
  exact List.take_subset n _

/-- In its run a job removes nothing but files of its own. -/
theorem mem_files_of_unlinked {m : Moment σ} (mem : m ∈ job.moments start) {path : Path}
    {result : Except Cause Unit} (event : m.event = .unlinked path result) :
    path ∈ job.source.files := by
  have way := execution_perform job.tools job.source job.cutoff job.keepAssembly job.state
    (start.seenFrom job.directory)
  rcases (way.of_unlinked mem event).2 with rfl | rfl <;>
  simp [Source.files, Source.made]

theorem mem_files_of_plan {n : Nat} {path : Path}
    {next : Except Cause Unit → Plan (Except Failure Outcome)}
    (plan : (job.process.steps start n).1.plan = .unlink path next) : path ∈ job.source.files := by
  obtain ⟨m, mem, result, event⟩ := Process.unlink_mem_step (job.process.steps start n).2 plan
  exact mem_files_of_unlinked (past_steps job start (n + 1) mem) event

/-- Alone, a job does what it does to files of its own. -/
theorem AtWork.restrained {n : Nat}
    (work : AtWork job start places (job.process.steps start n).1 (job.process.steps start n).2)
    (keeps : ∀ m ∈ job.moments start, ∀ request, m.event.call? = some request →
      WritesOnly (job.Owns start) job.tools request m.state m.files) :
    Restrained job start (job.process.steps start n).1 (job.process.steps start n).2 where
  keeps request next plan := by
    obtain ⟨m, mem, called, state, seen⟩ :=
      Process.call_mem_step (job.process.steps start n).2 plan
    have writes := keeps m (past_steps job start (n + 1) mem) request called
    rwa [state, seen, work.directory] at writes
  removes path next plan := mem_files_of_plan plan

/-- Alone, a job is at work after each of its turns. -/
theorem atWork_steps (leaf : ∀ l, places l → (start.seenFrom job.directory).Leaf l)
    (within : ∀ l, job.Owns start l → places l)
    (keeps : ∀ m ∈ job.moments start, ∀ request, m.event.call? = some request →
      WritesOnly (job.Owns start) job.tools request m.state m.files) (n : Nat) :
    AtWork job start places (job.process.steps start n).1 (job.process.steps start n).2 := by
  induction n with
  | zero => exact ⟨rfl, rfl, .refl leaf⟩
  | succ n ih => exact (ih.step (ih.restrained keeps) within).1

end alone

/-! ## Jobs together -/

/-- Jobs on accepted inputs with different stems, whose files are regular files or missing. -/
structure Separate (jobs : ι → Job σ) (start : FileSystem) : Prop where
  accepted : ∀ i, ∃ p, Source.validate (start.seenFrom (jobs i).directory) p = .ok (jobs i).source
  stems : ∀ i j, i ≠ j →
    (jobs i).source.executable.fileName? ≠ (jobs j).source.executable.fileName?
  leaf : ∀ i l, (jobs i).Owns start l → ∀ j, (start.seenFrom (jobs j).directory).Leaf l

/-- A location is that of a file of one of the jobs. -/
def Owned (jobs : ι → Job σ) (start : FileSystem) (l : Location) : Prop :=
  ∃ i, (jobs i).Owns start l

/-- The jobs, about to be done over the same files. -/
def together (jobs : ι → Job σ) (start : FileSystem) : System ι σ (Except Failure Outcome) where
  processes i := (jobs i).process
  files := start

namespace Separate

variable {jobs : ι → Job σ} {start : FileSystem} (separate : Separate jobs start) {i j : ι}

include separate

/-- **The names of the files of two jobs differ.** -/
theorem fileName?_ne (other : i ≠ j) :
    ∀ path ∈ (jobs i).source.files, ∀ path' ∈ (jobs j).source.files,
      path.fileName? ≠ path'.fileName? := by
  obtain ⟨p, accepted⟩ := separate.accepted i
  obtain ⟨p', accepted'⟩ := separate.accepted j
  exact Source.fileName?_ne_of_validate accepted accepted' (separate.stems i j other)

/-- What a job owns is named by no file of another. -/
theorem not_names (other : i ≠ j) {l : Location} (own : (jobs j).Owns start l) {fs : FileSystem}
    {path : Path} (mem : path ∈ (jobs i).source.files) : ¬ fs.Names path l := by
  obtain ⟨path', mem', names'⟩ := own
  intro names
  exact separate.fileName?_ne other path mem path' mem' (names.head.symm.trans names'.head)

theorem not_owns (other : i ≠ j) {l : Location} (own : (jobs j).Owns start l) :
    ¬ (jobs i).Owns start l := by
  rintro ⟨path, mem, names⟩
  exact separate.not_names other own mem names

end Separate

/-- Each job is as far as it is alone after as many turns. -/
structure KeepsPace [DecidableEq ι] (jobs : ι → Job σ) (start : FileSystem) (schedule : List ι)
    (system : System ι σ (Except Failure Outcome)) (i : ι) : Prop where
  work : AtWork (jobs i) start (Owned jobs start) (system.processes i) system.files
  matching : Matching (jobs i) start ((jobs i).process.steps start (schedule.count i))
    (system.processes i, system.files)

section together

variable [DecidableEq ι] {jobs : ι → Job σ} {start : FileSystem} {schedule : List ι}
  {system : System ι σ (Except Failure Outcome)} {i j : ι}

/-- A job that keeps pace does what it does to files of its own. -/
theorem KeepsPace.restrained (pace : KeepsPace jobs start schedule system i)
    (tame : KeepsToItself (jobs i) start ((jobs i).moments start)
      ((system.step i).processes i).past) :
    Restrained (jobs i) start (system.processes i) system.files where
  keeps request next plan := by
    obtain ⟨m, mem, called, state, seen⟩ := Process.call_mem_step system.files plan
    rw [← System.step_processes_self] at mem
    have writes := tame.keeps m (List.mem_append_right _ mem) request called
    rwa [state, seen, pace.work.directory] at writes
  removes path next plan := mem_files_of_plan (pace.matching.plan.symm.trans plan)

/-- **On its own turn** a job keeps pace. -/
theorem KeepsPace.own (pace : KeepsPace jobs start schedule system i)
    (separate : Separate jobs start)
    (tame : KeepsToItself (jobs i) start ((jobs i).moments start)
      ((system.step i).processes i).past) :
    KeepsPace jobs start (schedule ++ [i]) (system.step i) i := by
  obtain ⟨p, accepted⟩ := separate.accepted i
  have within : ∀ l, (jobs i).Owns start l → Owned jobs start l := fun l own => ⟨i, own⟩
  have leaf : ∀ l, Owned jobs start l → (start.seenFrom (jobs i).directory).Leaf l :=
    fun l ⟨j, own⟩ => separate.leaf j l own i
  have keeps := fun m mem => tame.keeps m (List.mem_append_left _ mem)
  have work := atWork_steps leaf within keeps (schedule.count i)
  have work' := pace.work
  have matching : Matching (jobs i) start ((jobs i).process.steps start (schedule.count i + 1))
      ((system.processes i).step system.files) := by
    refine Matching.step pace.matching work work' accepted within
      (fun path next => mem_files_of_plan) fun request next plan => ?_
    obtain ⟨m, mem, called, state, seen⟩ := Process.call_mem_step
      ((jobs i).process.steps start (schedule.count i)).2 plan
    obtain ⟨m', mem', called', state', seen'⟩ := Process.call_mem_step system.files
      (pace.matching.plan.trans plan)
    have same := tame.alike m (past_steps _ start (schedule.count i + 1) mem) m'
      (by rwa [System.step_processes_self]) request called called'
    rw [state, state', seen, seen', work.directory, work'.directory] at same
    exact same pace.matching.state pace.matching.files
  have turn := (pace.work.step (pace.restrained tame) within).1
  refine ⟨?_, ?_⟩
  · rw [System.step_processes_self]
    exact turn
  · rw [System.step_processes_self, List.count_append, List.count_singleton_self]
    exact matching

/-- **On the turn of another** a job keeps pace. -/
theorem KeepsPace.other (pace : KeepsPace jobs start schedule system i)
    (pace' : KeepsPace jobs start schedule system j) (separate : Separate jobs start)
    (other : i ≠ j)
    (tame : KeepsToItself (jobs j) start ((jobs j).moments start)
      ((system.step j).processes j).past) :
    KeepsPace jobs start (schedule ++ [j]) (system.step j) i := by
  have within : ∀ l, (jobs j).Owns start l → Owned jobs start l := fun l own => ⟨j, own⟩
  obtain ⟨turn, elsewhere⟩ := pace'.work.step (pace'.restrained tame) within
  have outside : ∀ l, Owned jobs start l → isWithin l (jobs i).directory = false :=
    fun l ⟨k, own⟩ => (separate.leaf k l own i).outside
  refine ⟨?_, ?_⟩
  · rw [System.step_processes_of_ne system other]
    exact ⟨pace.work.tools, pace.work.directory, turn.alike.seenFrom outside⟩
  · have none_more : (schedule ++ [j]).count i = schedule.count i := by
      simp [other.symm]
    rw [System.step_processes_of_ne system other, none_more]
    refine ⟨pace.matching.plan, pace.matching.state, pace.matching.actions, fun l own => ?_⟩
    exact (elsewhere l (separate.not_owns other.symm own)).trans (pace.matching.files l own)

/-- **All jobs keep pace under every schedule.** -/
theorem keepsPace_of_run (separate : Separate jobs start) (schedule : List ι)
    (tame : ∀ i, KeepsToItself (jobs i) start ((jobs i).moments start)
      (((together jobs start).run schedule).processes i).past) :
    ∀ i, KeepsPace jobs start schedule ((together jobs start).run schedule) i := by
  induction schedule using List.reverseRecOn with
  | nil =>
    intro i
    refine ⟨⟨rfl, rfl, .refl fun l ⟨j, own⟩ => separate.leaf j l own i⟩, rfl, rfl, rfl, ?_⟩
    exact fun _ _ => rfl
  | append_singleton schedule j ih =>
    rw [System.run_concat] at tame ⊢
    have pace := ih fun i => (tame i).mono (System.past_step _ i)
    intro i
    by_cases same : i = j
    · subst same
      exact (pace i).own separate (tame i)
    · exact (pace i).other (pace j) separate same (tame j)

end together

/-! ## Only runs on the same stem race -/

/-- A job has done by now what it does first when nobody else is at work. -/
structure Undisturbed (job : Job σ) (start : FileSystem) (turns : Nat)
    (process : Process σ (Except Failure Outcome)) (now : FileSystem) : Prop where
  actions : process.past.map (·.event.action?) =
    ((job.alone start).events.take turns).map Event.action?
  files : ∀ l, job.Owns start l → now.get? l =
    (ending job.tools job.state (start.seenFrom job.directory)
      ((job.alone start).events.take turns)).2.get? l
  /-- After enough turns it is done, and all is as if it had been alone. -/
  done : (job.alone start).events.length ≤ turns →
    process.past.filterMap (·.event.action?) = (job.alone start).actions ∧
      process.plan = .done (job.alone start).result ∧
      ∀ l, job.Owns start l → now.get? l = (job.alone start).files.get? l

/-- A job that keeps pace is undisturbed. -/
theorem KeepsPace.undisturbed [DecidableEq ι] {jobs : ι → Job σ} {start : FileSystem}
    {schedule : List ι} {system : System ι σ (Except Failure Outcome)} {i : ι}
    (pace : KeepsPace jobs start schedule system i) :
    Undisturbed (jobs i) start (schedule.count i) (system.processes i) system.files := by
  obtain ⟨past, after, -, -⟩ := (jobs i).process.steps_eq start (schedule.count i)
  have actions : (system.processes i).past.map (·.event.action?) =
      (((jobs i).alone start).events.take (schedule.count i)).map Event.action? := by
    have events := congrArg (List.map Moment.event) past
    rw [List.map_append, List.map_take, map_event_moments] at events
    have both := congrArg (List.map Event.action?) events
    rw [List.map_map] at both
    exact pace.matching.actions.trans both
  refine ⟨actions, fun l own => ?_, fun enough => ⟨?_, ?_, fun l own => ?_⟩⟩
  · have files := congrArg (fun after => after.2.get? l) after
    exact (pace.matching.files l own).trans files
  · have all := congrArg (List.filterMap id) actions
    rw [List.take_of_length_le enough, List.filterMap_map, List.filterMap_map] at all
    exact all
  · obtain ⟨ended, -⟩ := (jobs i).process.done_of_steps start enough
    exact pace.matching.plan.trans ended
  · obtain ⟨-, files⟩ := (jobs i).process.done_of_steps start enough
    exact (pace.matching.files l own).trans (congrArg (·.get? l) files)

section races

variable [DecidableEq ι] {jobs : ι → Job σ} {start : FileSystem} {schedule : List ι}
  {system : System ι σ (Except Failure Outcome)} {i j : ι}

/-- What a job that keeps pace has removed was of its own. -/
theorem KeepsPace.mem_files_of_unlinked (pace : KeepsPace jobs start schedule system i)
    {m : Moment σ} (mem : m ∈ (system.processes i).past) {path : Path}
    {result : Except Cause Unit} (event : m.event = .unlinked path result) :
    path ∈ (jobs i).source.files := by
  have action : some (.remove path result) ∈
      ((jobs i).process.steps start (schedule.count i)).1.past.map (·.event.action?) := by
    rw [← pace.matching.actions]
    refine List.mem_map.2 ⟨m, mem, ?_⟩
    rw [event]
    rfl
  obtain ⟨m', mem', action'⟩ := List.mem_map.1 action
  have event' : m'.event = .unlinked path result := by
    cases event : m'.event <;> simp_all [Event.action?]
  exact Pipeline.mem_files_of_unlinked (past_steps (jobs i) start _ mem') event'

/-- **No job touches a file of another.** -/
theorem KeepsPace.get?_next (pace : KeepsPace jobs start schedule system i)
    (separate : Separate jobs start) (other : i ≠ j)
    (tame : KeepsToItself (jobs i) start ((jobs i).moments start) (system.processes i).past)
    {m : Moment σ} (mem : m ∈ (system.processes i).past) {l : Location}
    (own : (jobs j).Owns start l) :
    (m.next (jobs i).tools).2.get? l = m.files.get? l := by
  cases event : m.event with
  | called request reply pieces =>
    have writes := tame.keeps m (List.mem_append_right _ mem) request (by rw [event]; rfl)
    rw [Moment.next, event]
    exact writes.elsewhere l (separate.not_owns other own)
  | unlinked path result =>
    rw [Moment.next, event]
    exact get?_removal (separate.not_names other own (pace.mem_files_of_unlinked mem event))
  | recorded entry =>
    rw [Moment.next, event]
    rfl

/-- **Only runs on the same stem race.** Take any number of runs on accepted inputs whose stems
differ and whose four files each are regular files or missing. The runs have no file name in common.
If the tools of each write no files but those of their run, and answer alike wherever these are the
same, each run does under every schedule what it does alone: it makes the same calls with the same
replies and the same removals with the same results, and comes to the same end, with its files as
they are then. And at no moment does it touch a file of another. -/
theorem undisturbed_of_run (separate : Separate jobs start) (schedule : List ι) :
    let system := (together jobs start).run schedule
    (∀ i, KeepsToItself (jobs i) start ((jobs i).moments start) (system.processes i).past) →
      (∀ i j, i ≠ j → ∀ path ∈ (jobs i).source.files, ∀ path' ∈ (jobs j).source.files,
        path.fileName? ≠ path'.fileName?) ∧
      (∀ i, Undisturbed (jobs i) start (schedule.count i) (system.processes i) system.files) ∧
      ∀ i j, i ≠ j → ∀ m ∈ (system.processes i).past, ∀ l, (jobs j).Owns start l →
        (m.next (jobs i).tools).2.get? l = m.files.get? l := by
  intro system tame
  have pace := keepsPace_of_run separate schedule tame
  refine ⟨fun i j other => separate.fileName?_ne other, fun i => (pace i).undisturbed, ?_⟩
  intro i j other m mem l own
  exact (pace i).get?_next separate other (tame i) mem own

end races

/-! ## Two runs that take turns -/

/-- Tools that copy what stands at one place to another, and fail if there is no file. -/
def relaying (places : ToolCall → Location × Location) : Toolchain Unit where
  answer request _ fs :=
    match fs.get? (places request).1 with
    | some (.file contents _) =>
      { reply := .ok .success
        state := ()
        files := fs.put (places request).2 (.file contents .plain) }
    | _ => { reply := .ok ⟨1⟩, state := (), files := fs }

/-- What such a tool does depends on nothing but what it copies. -/
theorem relaying_cases (places : ToolCall → Location × Location) (request : ToolCall)
    (fs : FileSystem) :
    (∃ contents mode, fs.get? (places request).1 = some (.file contents mode) ∧
      (relaying places).answer request () fs =
        { reply := .ok .success, state := (),
          files := fs.put (places request).2 (.file contents .plain) }) ∨
      ((∀ contents mode, fs.get? (places request).1 ≠ some (.file contents mode)) ∧
        (relaying places).answer request () fs =
          { reply := .ok ⟨1⟩, state := (), files := fs }) := by
  simp only [relaying]
  split
  · rename_i contents mode found
    exact .inl ⟨contents, mode, found, rfl⟩
  · rename_i no_file
    exact .inr ⟨no_file, rfl⟩

/-- Tools that copy within a job keep to it. -/
theorem keepsToItself_relaying {job : Job Unit} {start : FileSystem}
    {places : ToolCall → Location × Location} (tools : job.tools = relaying places)
    (source : ∀ request, job.Owns start (places request).1)
    (target : ∀ request, job.Owns start (places request).2) (past past' : List (Moment Unit)) :
    KeepsToItself job start past past' := by
  have target_ne (request : ToolCall) : (places request).2 ≠ [] := by
    obtain ⟨path, -, directory, name, slashAfter, -, eq⟩ := target request
    rw [eq]
    exact List.cons_ne_nil name directory
  refine ⟨fun m mem request called => ?_, fun m mem m' mem' request called called' state same => ?_⟩
  · rw [tools]
    rcases relaying_cases places request m.files with ⟨contents, mode, -, answer⟩ | ⟨-, answer⟩
    · exact .of_put (target request) (target_ne request) (congrArg Answer.files answer)
    · exact .of_same (congrArg Answer.files answer)
  · rw [tools]
    have input := same _ (source request)
    rcases relaying_cases places request m.files with
      ⟨contents, mode, found, answer⟩ | ⟨no_file, answer⟩ <;>
    rcases relaying_cases places request m'.files with
      ⟨contents', mode', found', answer'⟩ | ⟨no_file', answer'⟩
    · rw [input, found] at found'
      cases found'
      rw [answer, answer']
      refine ⟨rfl, rfl, fun l own => ?_⟩
      rw [get?_put _ (target_ne request), get?_put _ (target_ne request), same l own]
    · rw [input] at no_file'
      exact absurd found (no_file' contents mode)
    · rw [input] at found'
      exact absurd found' (no_file contents' mode')
    · rw [answer, answer']
      exact ⟨rfl, rfl, same⟩

/-- The four places of a source in the root. -/
def copyPlaces (stem : Bytes) : List Location :=
  [".c", ".i", ".s", ""].map fun tail => [stem ++ Bytes.ofString tail]

/-- A job on a source in the root, done by tools that copy. -/
def copyJob (stem : Bytes) : Job Unit :=
  let place (tail : String) : Location := [stem ++ Bytes.ofString tail]
  let anchor := Bytes.ofString "./"
  { source := ⟨⟨anchor ++ stem ++ Bytes.ofString ".c"⟩, ⟨anchor ++ stem⟩⟩
    cutoff := .full
    keepAssembly := false
    tools := relaying fun
      | .preprocess .. => (place ".c", place ".i")
      | .compile .. => (place ".i", place ".s")
      | .assemble .. => (place ".s", place "")
    state := ()
    directory := [] }

/-- Two runs in one directory, turn by turn. -/
theorem undisturbed_by_each_other :
    let stem (first : Bool) := Bytes.ofString (if first then "foo" else "bar")
    let jobs (first : Bool) := copyJob (stem first)
    let start : FileSystem :=
      { entries := [([Bytes.ofString "foo.c"], .file 0), ([Bytes.ofString "bar.c"], .file 1)]
        stored := [(0, ⟨Bytes.ofString "foo", .plain⟩), (1, ⟨Bytes.ofString "bar", .plain⟩)]
        cwd := [] }
    let schedule := (List.replicate 12 [true, false]).flatten
    let system := (together jobs start).run schedule
    Separate jobs start ∧
      (∀ first, Undisturbed (jobs first) start (schedule.count first) (system.processes first)
        system.files) ∧
      (∀ first, ((jobs first).alone start).events.length ≤ schedule.count first) ∧
      system.files.get? [Bytes.ofString "foo"] = some (.file (Bytes.ofString "foo") .plain) ∧
      system.files.get? [Bytes.ofString "bar"] = some (.file (Bytes.ofString "bar") .plain) ∧
      system.files.get? [Bytes.ofString "foo.s"] = none := by
  intro stem jobs start schedule system
  have located (first : Bool) : (jobs first).source.files.map start.locate =
      (copyPlaces (stem first)).map fun l => .ok (.entry l.tail (l.headD []) false) := by
    cases first <;> rfl
  have owns (first : Bool) {l : Location} :
      (jobs first).Owns start l ↔ l ∈ copyPlaces (stem first) := by
    have each := located first
    simp only [Source.files, Source.made, copyPlaces, List.map_cons, List.map_nil,
      List.cons.injEq, and_true] at each
    obtain ⟨path, preprocessed, assembly, executable⟩ := each
    have names {p : Path} {l' : Location} (located : start.locate p =
        .ok (.entry l'.tail (l'.headD []) false)) : start.Names p l ↔ l = l'.headD [] :: l'.tail :=
      names_iff_of_locate located
    have seen : start.seenFrom (jobs first).directory = start := rfl
    simp [Job.Owns, Source.files, Source.made, seen, names path, names preprocessed,
      names assembly, names executable, copyPlaces]
  have separate : Separate jobs start := by
    refine ⟨fun first => ?_, fun i j other => ?_, fun first l own second => ?_⟩
    · cases first
      · exact ⟨Path.ofString "bar.c", rfl⟩
      · exact ⟨Path.ofString "foo.c", rfl⟩
    · revert i j
      decide +kernel
    · rw [owns] at own
      have there : ∀ first, ∀ l ∈ copyPlaces (stem first),
          (start.get? l).all Node.isFile = true ∧ isWithin l [] = false := by decide +kernel
      obtain ⟨file, outside⟩ := there first l own
      refine ⟨fun node found => ?_, outside⟩
      rw [get?_seenFrom] at found
      rw [found] at file
      exact file
  have tame (first : Bool) : KeepsToItself (jobs first) start ((jobs first).moments start)
      (system.processes first).past := by
    refine keepsToItself_relaying rfl (fun request => ?_) (fun request => ?_) _ _ <;>
    rw [owns] <;> cases request <;> simp [copyPlaces]
  obtain ⟨-, undisturbed, -⟩ := undisturbed_of_run separate schedule tame
  refine ⟨separate, undisturbed, ?_, ?_, ?_, ?_⟩ <;>
  decide +kernel

end CompilerDriver.Pipeline
