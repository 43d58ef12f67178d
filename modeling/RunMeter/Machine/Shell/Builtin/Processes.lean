import RunMeter.Machine.Permissions
import RunMeter.Machine.Shell.Builtin.Basic
import RunMeter.Machine.Shell.Signals

/-!
# RunMeter.Machine.Shell.Builtin.Processes — signals, jobs and limits

Commands that send signals and say what is done at them, that wait for jobs, and that show what a process may do.

Nothing that is proved depends on this module.
-/

namespace RunMeter.Machine.Shell.Builtin

open Sh

/-- Sets or forgets what is done at some signals, up to the first word that names none. -/
def trapAll (action : Option Raw) : List Raw → Sh Unit
  | [] => setStatus 0
  | w :: ws => do
    let p ← shell
    match Signals.ofWord? p.dialect 0 w with
    | some n =>
      Signals.setTrap n action
      trapAll action ws
    | none =>
      if p.dialect = .plain then
        warn (Raw.ofText "trap: " ++ w ++ Raw.ofText ": bad trap\n")
        setStatus 1
      else if Signals.occasions.contains (Raw.text (Raw.toUpper w)) then
        let name := Raw.text (Raw.toUpper w)
        update fun p =>
          let others := p.occasions.filter fun o => o.1 != name
          { p with occasions := match action with
              | some text => others ++ [(name, text)]
              | none => others }
        trapAll action ws
      else
        complain (w ++ Raw.ofText ": invalid signal specification")
        trapAll action ws
        setStatus 1

/-- Lists what is done at signals: all of them, or some. -/
def listTraps (only : List Raw) : Sh Unit := do
  let p ← shell
  let quote := if p.dialect = .extended then Parameter.requoted else requoted
  let wanted := only.filterMap (Signals.ofWord? p.dialect 0)
  let inOrder := (p.traps.filter fun t => only.isEmpty || wanted.contains t.1).mergeSort fun a b => a.1 ≤ b.1
  let lines := inOrder.map fun t =>
    Raw.ofText "trap -- " ++ quote t.2 ++ ' ' :: Signals.trapName p.dialect t.1 ++ ['\n']
  let others := if only.isEmpty then p.occasions.map fun o =>
      Raw.ofText "trap -- " ++ quote o.2 ++ Raw.ofText (" " ++ o.1 ++ "\n")
    else []
  put (lines.flatten ++ others.flatten)

/-- The names of the signals in columns. -/
def signalTable : Raw :=
  let all := ((List.range SignalNumber.greatest).map (· + 1)).filter fun n => n != 32 && n != 33
  all.zipIdx.flatMap fun (n, i) =>
    Raw.padStart 2 (Raw.ofNat n) ++ ')' :: ' ' :: Signals.trapName .extended n ++
      [if i % 5 = 4 || i + 1 = all.length then '\n' else '\t']

/-- Says what is done at signals. -/
def trap : Command := fun args => do
  let d := (← shell).dialect
  let (chosen, words) ← optionsOf (if d = .extended then "lp" else "") args
  if given chosen 'l' then put signalTable
  else if given chosen 'p' then listTraps words
  else match words with
    | [] => listTraps []
    | [w] => trapAll none [w]
    | action :: signals =>
      if (if d = .extended then Raw.natural? action else Signals.ofWord? d 0 action).isSome &&
          action.all Char.isDigit then
        trapAll none (action :: signals)
      else trapAll (if action = ['-'] then none else some action) signals

/-- Gives up with what the plain dialect says if a word means no job. -/
def plainly (found : Except Raw Job) : Sh Unit := do
  if !(← extended) then
    match found with
    | .ok _ => pure ()
    | .error message => wrong message

/-- The target that a word means: a process, a group, or a job. -/
def target? (w : Raw) : Sh (Option Int) := do
  match w with
  | '%' :: _ =>
    match ← Jobs.ofWord? w with
    | some j => return some (if ← extended then (j.leader : Int) else -(j.leader : Int))
    | none =>
      plainly (← Jobs.plainJob false (some w))
      failed (w ++ Raw.ofText ": no such job") 1
      return none
  | _ =>
    match Raw.integer? w with
    | some n => return some n
    | none =>
      refused (Raw.ofText "Illegal number: " ++ w) (w ++ Raw.ofText ": arguments must be process or job IDs") 1
      return none

/-- Sends a signal to processes; the status says whether all of them were there. -/
def sendAll (signal : Nat) : List Raw → Sh Bool
  | [] => return true
  | w :: ws => do
    let sent ← match ← target? w with
      | none => pure false
      | some target =>
        match ← act (Act.send target signal) with
        | none => pure true
        | some e =>
          if ← extended then complain ('(' :: w ++ Raw.ofText (") - " ++ e.message))
          else complain (Raw.ofText (e.message ++ "\n"))
          pure false
    let others ← sendAll signal ws
    return sent && others

/-- How the command that sends signals is used. -/
def killUsage : Sh Unit := do
  if ← extended then
    warn (Raw.ofText
      "kill: usage: kill [-s sigspec | -n signum | -sigspec] pid | jobspec ... or kill -l [sigspec]\n")
    setStatus 2
  else wrong (Raw.ofText
    "Usage: kill [-s sigspec | -signum | -sigspec] [pid | job]... or\nkill -l [exitstatus]")

/-- Sends a signal to the processes that some words mean. -/
def deliver (signal : Nat) (targets : List Raw) : Sh Unit := do
  if targets.isEmpty then killUsage
  else
    let all ← sendAll signal targets
    setStatus (if all then 0 else 1)

/-- Lists signals in the plain dialect, or names one. -/
def plainSignalNames (words : List Raw) : Sh Unit := do
  match words with
  | [] =>
    let names := "0".toList :: ((List.range SignalNumber.greatest).map fun n => Signals.shownName .plain (n + 1))
    put (names.flatMap (· ++ ['\n']))
  | w :: _ =>
    let n ← number w
    let n := if n > 128 then n - 128 else n
    if 0 < n && n ≤ SignalNumber.greatest then put (Signals.shownName .plain n ++ ['\n'])
    else wrong (Raw.ofText "invalid signal number or exit status: " ++ w)

/-- Lists signals in the extended dialect, or tells name for number and number for name. -/
def extendedSignalNames (words : List Raw) : Sh Unit := do
  if words.isEmpty then put signalTable
  else for w in words do
    match Raw.natural? w with
    | some n =>
      let n := if n > 128 then n - 128 else n
      match SignalNumber.name? n with
      | some name => put (Raw.ofText (name ++ "\n"))
      | none => failed (w ++ Raw.ofText ": invalid signal specification") 1
    | none =>
      match Signals.ofWord? .extended 0 w with
      | some n => put (Raw.ofNat n ++ ['\n'])
      | none => failed (w ++ Raw.ofText ": invalid signal specification") 1

/-- Sends signals in the plain dialect. -/
def plainKill (args : List Raw) : Sh Unit := do
  let named := match args with
    | ('-' :: w) :: _ => Signals.ofWord? .plain 1 w
    | _ => none
  match named with
  | some signal => deliver signal (if args.tail.head? = some ['-', '-'] then args.drop 2 else args.tail)
  | none =>
    let (chosen, words) ← optionsOf "ls:" args
    if given chosen 'l' then plainSignalNames words
    else match valueOf? chosen 's' with
      | none => deliver SignalNumber.terminate words
      | some w =>
        match Signals.ofWord? .plain 1 w with
        | some signal => deliver signal words
        | none => wrong (Raw.ofText "invalid signal number or name: " ++ w)

/-- Sends signals in the extended dialect. -/
def extendedKill (args : List Raw) : Sh Unit := do
  let send (w : Raw) (targets : List Raw) : Sh Unit := do
    match Signals.ofWord? .extended 0 w with
    | some signal => deliver signal (if targets.head? = some ['-', '-'] then targets.tail else targets)
    | none => failed (w ++ Raw.ofText ": invalid signal specification") 1
  match args with
  | [] => killUsage
  | ['-', '-'] :: rest => deliver SignalNumber.terminate rest
  | ['-', 'l'] :: rest | ['-', 'L'] :: rest => extendedSignalNames rest
  | ['-', 's'] :: w :: rest | ['-', 'n'] :: w :: rest => send w rest
  | ('-' :: w@(_ :: _)) :: rest => send w rest
  | words => deliver SignalNumber.terminate words

/-- Sends signals. -/
def kill : Command := fun args => do
  if ← extended then extendedKill args else plainKill args

/-- Waits for one job that a word means. -/
def waitForWord (w : Raw) : Sh Unit := do
  match ← Jobs.ofWord? w with
  | some j =>
    match ← Jobs.waitFor j Jobs.endBound with
    | some status => setStatus status
    | none => setStatus (← Jobs.interrupted)
  | none =>
    if ← extended then
      match Raw.natural? w with
      | some _ => failed (Raw.ofText "pid " ++ w ++ Raw.ofText " is not a child of this shell") 127
      | none =>
        if w.head? = some '%' then failed (w ++ Raw.ofText ": no such job") 127
        else failed ('`' :: w ++ Raw.ofText "': not a pid or valid job spec") 1
    else
      if w.head? = some '%' then plainly (← Jobs.plainJob false (some w))
      let _ ← number w
      setStatus 127

/-- Waits for jobs. -/
def wait : Command := fun args => do
  let (chosen, words) ← optionsOf (if ← extended then "nfp:" else "") args
  if given chosen 'n' then Jobs.waitForAny Jobs.endBound
  else match words with
    | [] =>
      Jobs.waitForAll Jobs.endBound
      if ← extended then Jobs.forget
    | words => for w in words do waitForWord w

/-- Tells of jobs. -/
def jobs : Command := fun args => do
  let (chosen, words) ← optionsOf (if ← extended then "lnprs" else "lp") args
  Jobs.catchUp Jobs.endBound
  let p ← shell
  for w in words do plainly (← Jobs.plainJob false (some w))
  let wanted ← words.filterMapM Jobs.ofWord?
  let all := if words.isEmpty then p.jobs.filter fun j => p.dialect = .plain || j.standing != .told else wanted
  let all := if given chosen 's' then [] else if given chosen 'r' then all.filter fun j => j.ended.isNone else all
  if words.length > wanted.length then
    failed (words.headD [] ++ Raw.ofText ": no such job") 1
  else if given chosen 'p' then put (all.flatMap fun j => Raw.ofNat j.leader ++ ['\n'])
  else
    put (Jobs.told p.dialect (given chosen 'l') all)
    if p.dialect = .plain then Jobs.forget else Jobs.mark .told (all.filter fun j => j.ended.isSome)

/-- Forgets jobs without waiting for them. -/
def disown : Command := fun args => do
  let (chosen, words) ← optionsOf "ahr" args
  let all := (← shell).jobs
  let lost (ws : List Raw) : Sh Unit := do
    for w in ws do
      match ← Jobs.ofWord? w with
      | some j =>
        if !given chosen 'h' then
          update fun p => { p with jobs := p.jobs.filter fun o => o.leader != j.leader }
      | none => failed ((if words.isEmpty then Raw.ofText "current" else w) ++ Raw.ofText ": no such job") 1
  if words.isEmpty && (given chosen 'a' || given chosen 'r') then
    update fun p => { p with jobs := all.filter fun j => given chosen 'r' && j.ended.isSome }
  else lost (if words.isEmpty then [['%', '%']] else words)

/-- Brings a job to the terminal or back, which no job of a script can be. -/
def uncontrolled : Command := fun args => do
  if ← extended then failed (Raw.ofText "no job control") 1
  else
    let (_, words) ← optionsOf "" args
    plainly (← Jobs.plainJob true words.head?)

/-- Shows the time that was used, which is none. -/
def times : Command := fun _ => do
  if ← extended then put (Raw.ofText "0m0.000s 0m0.000s\n0m0.000s 0m0.000s\n")
  else put (Raw.ofText "0m0.000000s 0m0.000000s\n0m0.000000s 0m0.000000s\n")

/-- Sets or shows the permissions that new files do not get. -/
def umask : Command := fun args => do
  let (chosen, words) ← optionsOf (if ← extended then "Sp" else "S") args
  let mask := (← act Act.task).mask
  match words with
  | [] =>
    put ((if given chosen 'S' then Permissions.maskLetters mask else Raw.padZeros 4 (Raw.digits 8 mask)) ++ ['\n'])
  | w :: _ =>
    let isNumber := (w.headD ' ').isDigit
    let next := if isNumber then (Permissions.octal? w).map (· &&& 0o777)
      else (Permissions.changed? 0 (0o777 - mask) false w).map fun m => 0o777 - (m &&& 0o777)
    match next with
    | some m =>
      act (Act.change fun pid k => k.onTask pid fun t => { t with mask := m })
      setStatus 0
    | none =>
      if isNumber then refused (Raw.ofText "Illegal number: " ++ w) (w ++ Raw.ofText ": octal number out of range") 1
      else
        let said := ['`', w.headD ' '] ++ Raw.ofText "': invalid symbolic mode character"
        refused (Raw.ofText "Illegal mode: " ++ w) said 1

/-- The limits of a process: letter, name and value. -/
def limits : List (Char × String × String) :=
  [('t', "time(seconds)", "unlimited"), ('f', "file(blocks)", "unlimited"), ('d', "data(kbytes)", "unlimited"),
   ('s', "stack(kbytes)", "8192"), ('c', "coredump(blocks)", "0"), ('m', "memory(kbytes)", "unlimited"),
   ('l', "locked memory(kbytes)", "8192"), ('p', "process", "unlimited"), ('n', "nofiles", "1048576"),
   ('v', "vmemory(kbytes)", "unlimited"), ('w', "locks", "unlimited"), ('r', "rtprio", "0")]

/-- Shows what a process may use. -/
def ulimit : Command := fun args => do
  let (chosen, words) ← optionsOf "HSatfdscmlpnvwr" args
  let wanted := chosen.filter fun o => o.1 != 'H' && o.1 != 'S'
  if given chosen 'a' then
    put (limits.flatMap fun l => Raw.padEnd 20 (Raw.ofText l.2.1) ++ Raw.ofText (" " ++ l.2.2 ++ "\n"))
  else if !words.isEmpty then setStatus 0
  else
    let letter := ((wanted.getLast?).map Prod.fst).getD 'f'
    match limits.find? fun l => l.1 = letter with
    | some l => put (Raw.ofText (l.2.2 ++ "\n"))
    | none => setStatus 0

end RunMeter.Machine.Shell.Builtin
