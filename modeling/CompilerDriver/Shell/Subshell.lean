import CompilerDriver.Shell.State

/-!
# Processes of a shell

A shell carries out some phrases in processes of their own, which begin as copies of it: only what
the machine holds is shared. This file says how such a process begins, what is done at signals, how
a process ends, and how one is run without waiting for it.
-/

namespace CompilerDriver.Shell

/-- A copy of a shell as a process of its own. Traps are for the process that set them; only what is
not to be noticed stays so. -/
def State.branch (s : State) : State :=
  let (process, machine) := s.machine.startProcess
  { s with
    machine, process
    parent := s.process
    traps := s.traps.filter fun t => t.2 = []
    pending := []
    statusBefore := none
    loops := 0
    jobs := []
    ended := [] }

/-- Lets every process work that nobody has waited for. -/
def finishJobs : StateM State Unit :=
  modify fun s => s.jobs.foldl (fun s job =>
    let (report, machine) := job.work s.machine
    { s with machine, ended := (job.process, report) :: s.ended }) { s with jobs := [] }

section

variable (e : Evaluator)

/-- Does what is to be done at the signals that have come, in the order of their numbers. The status
is the same afterwards. -/
def runTraps : Act Unit := do
  let s ← get
  if s.pending = [] then return
  let status := s.statusBefore.getD s.status
  set { s with statusBefore := some status }
  let actions := (s.pending.mergeSort fun a b => a ≤ b).forM fun signal => do
    modify fun s => { s with pending := s.pending.filter (· ≠ signal) }
    let action := ((← get).trap? signal).getD []
    let _ ← e.text false action
    modify fun s => { s with status }
  Act.always actions fun t => { t with statusBefore := s.statusBefore }

/-- The code with which a process ends that has done its work, or has stopped. -/
def endCode (result : Except Stop Nat) (s : State) : Except Nat Nat :=
  match result with
  | .ok status => .ok status
  | .error (.exit code) => .ok code
  | .error (.killed signal) => .error signal
  | .error _ => .ok s.status

/-- The end of a process. What is to be done at the end is done once, unless a signal has killed the
process, and leaves its code as it is, unless it ends in another way itself. -/
def conclude (result : Except Stop Nat) : StateM State WaitReport := do
  match endCode result (← get) with
  | .error signal =>
    finishJobs
    return .killed signal
  | .ok code =>
    match (← get).trap? 0 with
    | none =>
      finishJobs
      return .exited code
    | some action =>
      modify fun s => { s with
        traps := s.traps.filter fun t => t.1 ≠ 0
        status := code
        statusBefore := some code
        loops := 0 }
      let last ← (e.text false action).run
      finishJobs
      match last with
      | .error (.exit code) => return .exited code
      | .error (.killed signal) => return .killed signal
      | .error .fault => return .exited (← get).status
      | _ => return .exited code

/-- Does something as the work of a process. -/
def work (body : Act Nat) (s : State) : WaitReport × Machine :=
  let (report, s) := (do conclude e (← body.run)).run s
  (report, s.machine.endProcess)

/-- Does something in a process of its own. -/
def apart (body : Act Nat) : Act WaitReport := do
  let s ← get
  let (report, machine) := work e body s.branch
  set { s with machine }
  return report

/-- Does something in a process of its own that nobody waits for. It has nothing to read, notices
neither an interrupt nor the request to quit, and works where the shell does now. -/
def background (body : Act Nat) : Act Unit := do
  let s ← get
  let branch := s.branch
  let branch := { branch with
    descriptors := branch.descriptors.assign 0 (.device .null)
    ignored := 2 :: 3 :: branch.ignored }
  let job : Job :=
    { process := branch.process
      ignored := branch.unnoticed
      work := fun m =>
        let files := { m.files.startProcess with cwd := s.machine.files.cwd }
        work e body { branch with machine := { m with files } } }
  set { s with
    machine := { s.machine with nextProcess := branch.machine.nextProcess }
    jobs := s.jobs ++ [job]
    lastJob := some branch.process }

/-- What something writes in a process of its own, without zeros and without the line ends at the
end. -/
def outputOf (body : Act Nat) : Act Bytes := do
  let (pipe, machine) := (← get).machine.addPipe
  modify fun s => { s with machine }
  let report ← apart e do
    modify fun s => { s with descriptors := s.descriptors.assign 1 (.pipe pipe true) }
    body
  let status ← Act.settle report
  modify fun s => { s with statusOfOutput := status }
  let text := ((← get).machine.pipes[pipe]?.getD []).filter (· ≠ 0)
  return (text.reverse.dropWhile (· = Bytes.newline)).reverse

end

end CompilerDriver.Shell
