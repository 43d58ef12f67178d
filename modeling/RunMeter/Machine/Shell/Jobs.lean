import RunMeter.Machine.Shell.State

/-!
# RunMeter.Machine.Shell.Jobs — the processes that a shell starts

A shell waits for the processes of the command at hand and notes how those in the background end meanwhile.

* `conclude`: waits for the processes of a command, says which of them a signal ended, and sets the status.
* `wait`: waits for jobs in the background.
* `told`: what is told of the jobs.

Nothing that is proved depends on this module.
-/

namespace RunMeter.Machine.Shell.Jobs

open Sh

/-- How many ends of processes are noted while one command is waited for. -/
def endBound : Nat := 1000000

/-- What a shell says of a program that a signal ended; nothing for an interrupt or a broken pipe. -/
def obituary? (signal : Nat) : Option String :=
  if signal = SignalNumber.interrupt || signal = SignalNumber.brokenPipe then none
  else some (SignalNumber.describe signal)

/-- Says that a signal ended a process. -/
def mourn (pid : Pid) (how : Ended) (text : Raw) : Sh Unit := do
  match how with
  | .code _ => pure ()
  | .signal n =>
    match obituary? n with
    | none => pure ()
    | some said =>
      if ← extended then
        let p ← shell
        warn (p.name ++ Raw.ofText ": line " ++ Raw.ofNat p.line ++ Raw.ofText ": " ++
          Raw.padStart 5 (Raw.ofNat pid) ++ ' ' :: Raw.padEnd 24 (Raw.ofText said) ++ text ++ ['\n'])
      else warn (Raw.ofText said ++ ['\n'])

/-- Notes how a process in the background ended. -/
def note (pid : Pid) (how : Ended) : Sh Unit :=
  update fun p => { p with jobs := p.jobs.map fun j =>
    { j with members := j.members.map fun m => if m.1 = pid then (pid, some how) else m } }

/-- Waits until all of some processes have ended.  The plain dialect says of each at once if a signal ended it. -/
def awaited : (fuel : Nat) → List (Pid × Option Ended) → Sh (List (Pid × Option Ended))
  | 0, members => return members
  | fuel + 1, members => do
    if members.all fun m => m.2.isSome then return members
    match ← act (Act.waitChild none true true) with
    | .ended pid how =>
      if members.any fun m => m.1 = pid then
        if !(← extended) then mourn pid how []
        awaited fuel (members.map fun m => if m.1 = pid then (pid, some how) else m)
      else
        note pid how
        awaited fuel members
    | _ => return members

/-- Sets how the shell stands to some of its jobs. -/
def mark (standing : Standing) (jobs : List Job) : Sh Unit :=
  update fun p => { p with jobs := p.jobs.map fun j =>
    if (jobs.map Job.leader).contains j.leader then { j with standing := standing } else j }

/-- Notes which processes in the background have ended by now. -/
def catchUp : (fuel : Nat) → Sh Unit
  | 0 => pure ()
  | fuel + 1 => do
    match ← act (Act.waitChild none false true) with
    | .ended pid how =>
      note pid how
      catchUp fuel
    | _ => pure ()

/-- Tells of the jobs that have ended by now, which the extended dialect does between commands. -/
def tidy : Sh Unit := do
  if ← extended then
    catchUp endBound
    let atEnd := (← shell).jobs.filter fun j => j.standing = .pending && j.ended.isSome
    for j in atEnd do
      match j.ended with
      | some how => if how != .signal SignalNumber.terminate then mourn j.leader how j.text
      | none => pure ()
    mark .told atEnd

/-- The number of a new job: the plain dialect takes the first that is free or belongs to a job that was told of,
the extended one the first after all others. -/
def freshNumber (d : Dialect) (jobs : List Job) : Nat :=
  if d = .plain then
    ((List.range (jobs.length + 1)).find? fun i =>
      !jobs.any fun j => j.number = i + 1 && j.standing = .pending).getD 0 + 1
  else ((jobs.filter fun j => j.standing = .pending).map Job.number).foldl max 0 + 1

/-- Forgets the job that was told of and whose number a new one takes. -/
def makeRoom : Sh Nat := do
  let p ← shell
  let number := freshNumber p.dialect p.jobs
  if p.dialect = .plain then
    update fun p => { p with jobs := p.jobs.filter fun j => j.number != number }
  return number

/-- Waits for the processes of a command, whose text is given, and sets the status. -/
def conclude (pids : List Pid) (text : Raw) : Sh Unit := do
  let _ ← makeRoom
  let ended ← awaited endBound (pids.map fun pid => (pid, none))
  let statuses := ended.map fun m => (m.2.map Ended.status).getD 0
  if ← extended then
    match ended.getLast? with
    | some (pid, some how) => mourn pid how text
    | _ => pure ()
  let status := if ← isOn "pipefail" then (statuses.filter (· != 0)).getLast?.getD 0 else statuses.getLast?.getD 0
  update fun p => { p with status := status, pipeStatuses := statuses }
  tidy

/-- Leaves processes to themselves, as a job. -/
def leave (pids : List Pid) (text : Raw) : Sh Unit := do
  tidy
  let number ← makeRoom
  update fun p => { p with
    jobs := p.jobs ++ [⟨number, pids.map fun pid => (pid, none), text, .pending⟩]
    lastJob := pids.getLast?
    status := 0 }

/-- The job of the plain dialect that a word means; without a word the last one.  A job is `controlled` if it is to
be brought to a terminal, which no job of a script can be. -/
def plainJob (controlled : Bool) (w : Option Raw) : Sh (Except Raw Job) := do
  let jobs := (← shell).jobs
  let name := w.getD (Raw.ofText "(null)")
  let found : Except Raw Job :=
    match w with
    | none | some ['%'] | some ['%', '+'] | some ['%', '%'] =>
      (jobs.getLast?.map Except.ok).getD (.error (Raw.ofText "No current job"))
    | some ['%', '-'] =>
      (jobs.dropLast.getLast?.map Except.ok).getD (.error (Raw.ofText "No previous job"))
    | some w =>
      let meant := if w.head? = some '%' then Raw.natural? w.tail else none
      match meant.bind fun n => jobs.find? fun j => j.number = n with
      | some j => .ok j
      | none => .error (Raw.ofText "No such job: " ++ w)
  match found with
  | .ok j =>
    if controlled then return .error (Raw.ofText "job " ++ name ++ Raw.ofText " not created under job control")
    else return .ok j
  | .error e => return .error e

/-- The job that a word means, if there is one. -/
def ofWord? (w : Raw) : Sh (Option Job) := do
  let known := (← shell).jobs.filter fun j => j.standing != .inherited
  let jobs := known.filter fun j => j.standing = .pending
  match w with
  | '%' :: rest =>
    if !(← extended) then return (← plainJob false (some w)).toOption
    match Raw.natural? rest with
    | some n => return jobs.find? fun j => j.number = n
    | none =>
      if rest.isEmpty || rest = ['%'] || rest = ['+'] then return jobs.getLast?
      else if rest = ['-'] then return jobs.dropLast.getLast?
      else return jobs.find? fun j => rest.isPrefixOf j.text
  | _ =>
    match Raw.natural? w with
    | some n => return known.find? fun j => j.members.any fun m => m.1 = n
    | none => return none

/-- How a job stands now. -/
def current (j : Job) : Sh Job := do
  return ((← shell).jobs.find? fun o => o.leader = j.leader).getD j

/-- Waits until a job has ended.  Gives its status, or nothing if a caught signal came first. -/
def waitFor (j : Job) : (fuel : Nat) → Sh (Option Nat)
  | 0 => return some 0
  | fuel + 1 => do
    match (← current j).ended with
    | some how =>
      if ← extended then tidy else mark .told [← current j]
      return some how.status
    | none =>
      match ← act (Act.waitChild none true false) with
      | .ended pid how =>
        note pid how
        if j.members.any fun m => m.1 = pid then
          if !(← extended) then mourn pid how []
        waitFor j fuel
      | .signal => return none
      | _ => return some 127

/-- The status that a wait has when a caught signal comes. -/
def interrupted : Sh Nat := do
  return 128 + (← act Act.task).arrived.headD 0

/-- Waits until all jobs have ended. -/
def waitForAll : (fuel : Nat) → Sh Unit
  | 0 => pure ()
  | fuel + 1 => do
    if (← shell).jobs.all fun j => j.standing = .inherited || j.ended.isSome then
      setStatus 0
      if ← extended then tidy else mark .told (← shell).jobs
    else match ← act (Act.waitChild none true false) with
      | .ended pid how =>
        note pid how
        waitForAll fuel
      | .signal => setStatus (← interrupted)
      | _ => setStatus 0

/-- Waits until one job has ended; its status. -/
def waitForAny : (fuel : Nat) → Sh Unit
  | 0 => pure ()
  | fuel + 1 => do
    match (← shell).jobs.find? fun j => j.standing = .pending && j.ended.isSome with
    | some j =>
      mark .told [j]
      setStatus ((j.ended.map Ended.status).getD 0)
    | none =>
      match ← act (Act.waitChild none true false) with
      | .ended pid how =>
        note pid how
        waitForAny fuel
      | .signal => setStatus (← interrupted)
      | _ => setStatus 127

/-- How a job stands, in words. -/
def stateOf (d : Dialect) (j : Job) : Raw :=
  match j.ended with
  | none => Raw.ofText "Running"
  | some (.code 0) => Raw.ofText "Done"
  | some (.code n) =>
    if d = .extended then Raw.ofText ("Exit " ++ toString n) else Raw.ofText ("Done(" ++ toString n ++ ")")
  | some (.signal n) => Raw.ofText (SignalNumber.describe n)

/-- What is told of the jobs: one line each, with process numbers if asked for.  The mark says which of them are
the last two. -/
def told (d : Dialect) (numbers : Bool) (jobs : List Job) : Raw :=
  let line (mark : Char) (j : Job) : Raw :=
    let number := if numbers then Raw.ofNat j.leader ++ [' '] else []
    if d = .extended then
      '[' :: Raw.ofNat j.number ++ [']', mark] ++ (if numbers then ' ' :: number else [' ', ' ']) ++
        Raw.padEnd 24 (stateOf d j) ++ j.text ++ (if j.ended.isNone then [' ', '&', '\n'] else ['\n'])
    else
      Raw.padEnd 33 ('[' :: Raw.ofNat j.number ++ [']', ' ', mark, ' '] ++ number ++ stateOf d j) ++
        (if j.members.length > 1 then (List.replicate (j.members.length - 1) " | ".toList).flatten else []) ++ ['\n']
  if d = .extended then
    jobs.zipIdx.flatMap fun (j, i) =>
      line (if i + 1 = jobs.length then '+' else if i + 2 = jobs.length then '-' else ' ') j
  else
    let marked := jobs.reverse.foldl (fun (before, text) j =>
      let mark := if before = 0 then '+' else if before = 1 then '-' else ' '
      (if j.ended.isSome then before else before + 1, text ++ line mark j)) (0, ([] : Raw))
    marked.2

/-- Forgets the jobs that have ended. -/
def forget : Sh Unit :=
  update fun p => { p with jobs := p.jobs.filter fun j => j.standing = .inherited || j.ended.isNone }

end RunMeter.Machine.Shell.Jobs
