import RunMeter.Runner

/-!
# RunMeter.Proofs.Runner.Measure — what one measurement consists of

The wait shows each moment as one effect and hands on the child's end (`await_eq`).  So a measurement is told by how
the command started and how it ended:

* `measure_of_launch_error`, `measure_of_wait_error`, `measure_of_status`: the command did not start; it started, but
  there is no news of its end; it started and ended.
* `measure_of_launch`: the order of the effects of a command that started.

Everything else about a measurement follows from these; nothing past this module unfolds it.
-/

namespace RunMeter

/-- What shows of a moment of the wait. -/
def Moment.effect : Moment → Effect
  | .interrupt => .log Runner.interrupted
  | .output stream octets => .child stream octets

namespace Runner

/-- **The wait**: one effect for each moment, in order, and the child's end unchanged. -/
theorem await_eq {α : Type} (moments : List Moment) (result : α) :
    await moments result = (moments.map Moment.effect, result) := by
  induction moments with
  | nil => rfl
  | cons m moments ih =>
    cases m with
    | interrupt => rw [await, ih]; rfl
    | output stream octets => rw [await, ih]; rfl

/-- A view that finds nothing in a warning and in the child's output finds nothing in a wait. -/
theorem filterMap_moments {α : Type} {f : Effect → Option α} (hwarning : f (.log interrupted) = none)
    (hchild : ∀ stream octets, f (.child stream octets) = none) (moments : List Moment) :
    (moments.map Moment.effect).filterMap f = [] := by
  rw [List.filterMap_map, List.filterMap_eq_nil_iff]
  intro m _
  cases m with
  | interrupt => exact hwarning
  | output stream octets => exact hchild stream octets

variable {host : Host} {c : Command}

theorem measure_of_launch_error {cause : IoError} (h : host.launch = .error cause) :
    measure host c = ([.launch c, .complain (RunError.launch c.name cause).message], .notRun) := by
  rw [measure, h]

theorem measure_of_wait_error {pid : Nat} {cause : IoError} (h : host.launch = .ok pid)
    (h' : host.ending = .error cause) :
    measure host c =
      (.launch c :: .log (spawned pid c) :: (host.moments.map Moment.effect ++
        [.complain (RunError.wait cause).message]), .notRun) := by
  rw [measure, h]
  simp only [await_eq, h', List.cons_append]

theorem measure_of_status {pid : Nat} {status : WaitStatus} (h : host.launch = .ok pid)
    (h' : host.ending = .ok status) :
    measure host c =
      (.launch c :: .log (spawned pid c) :: (host.moments.map Moment.effect ++
        .log (exited status host.elapsed) :: .log (concluded c (Outcome.ofStatus status)) :: conclude host),
       Outcome.ofStatus status) := by
  rw [measure, h]
  simp only [await_eq, h', List.cons_append]

/-- What the runner does once there is news of the child. -/
def aftermath (host : Host) (c : Command) : List Effect :=
  match host.ending with
  | .error cause => [.complain (RunError.wait cause).message]
  | .ok status => .log (exited status host.elapsed) :: .log (concluded c (Outcome.ofStatus status)) :: conclude host

/-- **The order of a measurement**: the start, the wait, and what follows it. -/
theorem measure_of_launch {pid : Nat} (h : host.launch = .ok pid) :
    (measure host c).1 =
      .launch c :: .log (spawned pid c) :: (host.moments.map Moment.effect ++ aftermath host c) := by
  unfold aftermath
  cases hending : host.ending with
  | error cause => rw [measure_of_wait_error h hending]
  | ok status => rw [measure_of_status h hending]

/-! ### The outcome -/

/-- Without a start there is no outcome to tell of. -/
theorem outcome_of_launch_error {cause : IoError} (h : host.launch = .error cause) :
    (measure host c).2 = .notRun := by
  rw [measure_of_launch_error h]

/-- Without news of the end there is none either, whether or not the command started. -/
theorem outcome_of_wait_error {cause : IoError} (h : host.ending = .error cause) :
    (measure host c).2 = .notRun := by
  cases hl : host.launch with
  | error cause' => exact outcome_of_launch_error hl
  | ok pid => rw [measure_of_wait_error hl h]

theorem outcome_of_status {pid : Nat} {status : WaitStatus} (h : host.launch = .ok pid)
    (h' : host.ending = .ok status) : (measure host c).2 = Outcome.ofStatus status := by
  rw [measure_of_status h h']

/-- The outcome is a matter of whether the command starts and of its end alone, not of which command it is. -/
theorem outcome_congr {host' : Host} {c' : Command} (hl : host.launch.isOk = host'.launch.isOk)
    (he : host.ending = host'.ending) : (measure host c).2 = (measure host' c').2 := by
  cases h : host.launch with
  | error cause =>
    cases h' : host'.launch with
    | error cause' => rw [outcome_of_launch_error h, outcome_of_launch_error h']
    | ok pid => rw [h, h'] at hl; contradiction
  | ok pid =>
    cases h' : host'.launch with
    | error cause => rw [h, h'] at hl; contradiction
    | ok pid' =>
      cases hend : host.ending with
      | error cause => rw [outcome_of_wait_error hend, outcome_of_wait_error (he ▸ hend)]
      | ok status => rw [outcome_of_status h hend, outcome_of_status h' (he ▸ hend)]

/-! ### The program -/

/-- A run without a command ends with one complaint. -/
theorem run_of_usage {host : Command → Host} {env : Environment} {words : List Octets} {e : RunError}
    (h : Command.ofWords words = .error e) :
    run host env words =
      ⟨[.complain e.message], Outcome.notRun.exitCode (RunnerSettings.ofEnvironment env).signalPolicy⟩ := by
  rw [run, h]

/-- A run with a command measures it, after one event for the log. -/
theorem run_of_command {host : Command → Host} {env : Environment} {words : List Octets} {c : Command}
    (h : Command.ofWords words = .ok c) :
    run host env words =
      ⟨.log (starting (RunnerSettings.ofEnvironment env) c) :: (measure (host c) c).1,
        (measure (host c) c).2.exitCode (RunnerSettings.ofEnvironment env).signalPolicy⟩ := by
  rw [run, h]

end Runner

/-- Words hold a command if there are at least two. -/
theorem Command.ofWords_of_length_lt {words : List Octets} (h : words.length < 2) :
    ∃ tool, ofWords words = .error (.usage tool) := by
  match words, h with
  | [], _ => exact ⟨runnerName, rfl⟩
  | [runner], _ => exact ⟨Utf8.lossy runner, rfl⟩

end RunMeter
