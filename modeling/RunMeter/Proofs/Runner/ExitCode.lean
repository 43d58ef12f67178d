import RunMeter.Proofs.Outcome.Status
import RunMeter.Proofs.Runner.Measure

/-!
# RunMeter.Proofs.Runner.ExitCode — the runner's exit code follows the child alone

A run exits with 1 if it has no command, if the command does not start, or if there is no news of its end.
Otherwise the code is the child's own, or what the policy makes of the signal that ended it (`run_exitCode`).
Interrupts, the memory query and the sink of the report have no part in it.
-/

namespace RunMeter.Runner

variable {host host' : Command → Host} {env env' : Environment} {words : List Octets} {c : Command}

/-- The policy is a matter of its own variable alone. -/
theorem signalPolicy_congr (h : env.get? RunnerSettings.policyVariable = env'.get? RunnerSettings.policyVariable) :
    (RunnerSettings.ofEnvironment env).signalPolicy = (RunnerSettings.ofEnvironment env').signalPolicy := by
  have htext : env.text? RunnerSettings.policyVariable = env'.text? RunnerSettings.policyVariable := by
    rw [Environment.text?, Environment.text?, h]
  exact congrArg RunnerSettings.policyOf htext

theorem exitCode_of_length_lt (h : words.length < 2) : (run host env words).exitCode = 1 := by
  obtain ⟨tool, hwords⟩ := Command.ofWords_of_length_lt h
  rw [run_of_usage hwords]
  rfl

theorem exitCode_of_notRun (hwords : Command.ofWords words = .ok c) (h : (measure (host c) c).2 = .notRun) :
    (run host env words).exitCode = 1 := by
  rw [run_of_command hwords, h]
  rfl

theorem exitCode_of_status {pid : Nat} {status : WaitStatus} (hwords : Command.ofWords words = .ok c)
    (hlaunch : (host c).launch = .ok pid) (hending : (host c).ending = .ok status) :
    (run host env words).exitCode =
      (Outcome.ofStatus status).exitCode (RunnerSettings.ofEnvironment env).signalPolicy := by
  rw [run_of_command hwords, outcome_of_status hlaunch hending]

/-- Runs that agree on the words, on the policy's variable, on whether the child starts and on how it ends agree on
the exit code. -/
theorem exitCode_congr
    (hpolicy : env.get? RunnerSettings.policyVariable = env'.get? RunnerSettings.policyVariable)
    (hhost : ∀ c, Command.ofWords words = .ok c →
      (host c).launch.isOk = (host' c).launch.isOk ∧ (host c).ending = (host' c).ending) :
    (run host env words).exitCode = (run host' env' words).exitCode := by
  cases hwords : Command.ofWords words with
  | error e => rw [run_of_usage hwords, run_of_usage hwords, signalPolicy_congr hpolicy]
  | ok c =>
    obtain ⟨hlaunch, hending⟩ := hhost c hwords
    rw [run_of_command hwords, run_of_command hwords, signalPolicy_congr hpolicy,
      outcome_congr hlaunch hending]

/-- **The exit code of a run.**  It is 1 without a command, without a start and without news of the end.  Otherwise it
is the code that the child exited with; for a signal it is 0 under the one policy, and 128 and the signal under the
other; and every child at its end did one or the other.  So two runs with the same words and the same policy variable,
whose children both start or both do not and end alike, have the same exit code, whatever else differs. -/
theorem run_exitCode (host : Command → Host) (env : Environment) (words : List Octets) :
    (words.length < 2 → (run host env words).exitCode = 1) ∧
    (∀ runner program args, words = runner :: program :: args →
      (∀ cause, (host ⟨program, args⟩).launch = .error cause → (run host env words).exitCode = 1) ∧
      (∀ cause, (host ⟨program, args⟩).ending = .error cause → (run host env words).exitCode = 1) ∧
      (∀ pid status, (host ⟨program, args⟩).launch = .ok pid → (host ⟨program, args⟩).ending = .ok status →
        (status.Terminated → (∃ code, status.Exits code) ∨ ∃ signal, status.KilledBy signal) ∧
        (∀ code, status.Exits code → (run host env words).exitCode = code) ∧
        (∀ signal, status.KilledBy signal →
          ((RunnerSettings.ofEnvironment env).signalPolicy = .zero → (run host env words).exitCode = 0) ∧
          ((RunnerSettings.ofEnvironment env).signalPolicy = .shell →
            (run host env words).exitCode.toNat = 128 + signal)))) ∧
    (∀ (host' : Command → Host) (env' : Environment),
      env.get? RunnerSettings.policyVariable = env'.get? RunnerSettings.policyVariable →
      (∀ c, Command.ofWords words = .ok c →
        (host c).launch.isOk = (host' c).launch.isOk ∧ (host c).ending = (host' c).ending) →
      (run host env words).exitCode = (run host' env' words).exitCode) := by
  refine ⟨exitCode_of_length_lt, ?_, fun host' env' => exitCode_congr⟩
  rintro runner program args rfl
  have hwords : Command.ofWords (runner :: program :: args) = .ok ⟨program, args⟩ := rfl
  refine ⟨fun cause h => exitCode_of_notRun hwords (outcome_of_launch_error h),
    fun cause h => exitCode_of_notRun hwords (outcome_of_wait_error h), ?_⟩
  intro pid status hlaunch hending
  rw [exitCode_of_status hwords hlaunch hending]
  refine ⟨WaitStatus.terminated_cases, fun code h => Outcome.exitCode_of_exits h _, fun signal h => ⟨?_, ?_⟩⟩
  · intro hpolicy
    rw [hpolicy]
    exact (Outcome.exitCode_of_killedBy h).1
  · intro hpolicy
    rw [hpolicy]
    exact (Outcome.exitCode_of_killedBy h).2

/-- A child that leaves a core file on signal 9: 137 with interrupts, no figure for its memory and a broken sink, and
137 without all that. -/
theorem run_exitCode_core :
    let env : Environment := ⟨[(RunnerSettings.policyVariable, Utf8.encode " Shell ")]⟩
    let words : List Octets := [Utf8.encode "bench_runner", Utf8.encode "sh", [0xff]]
    let troubled : Host :=
      ⟨.ok 7, [.interrupt, .interrupt], .ok ⟨0x89⟩, .zero, .error ⟨14⟩, .failsWrite (.os .brokenPipe)⟩
    let calm : Host := ⟨.ok 8, [], .ok ⟨0x89⟩, .zero, .ok 4096, .accepts⟩
    (run (fun _ => troubled) env words).exitCode.toNat = 137 ∧
    (run (fun _ => troubled) env words).exitCode = (run (fun _ => calm) env words).exitCode := by
  intro env words troubled calm
  have hpolicy : (RunnerSettings.ofEnvironment env).signalPolicy = .shell := by decide +kernel
  have hkilled : WaitStatus.KilledBy ⟨0x89⟩ 9 := ⟨by decide, by decide, by decide⟩
  obtain ⟨-, hcommand, hcongr⟩ := run_exitCode (fun _ => troubled) env words
  obtain ⟨-, -, hended⟩ := hcommand _ _ _ rfl
  obtain ⟨-, -, hsignal⟩ := hended 7 ⟨0x89⟩ rfl rfl
  exact ⟨(hsignal 9 hkilled).2 hpolicy, hcongr (fun _ => calm) env rfl fun c _ => ⟨rfl, rfl⟩⟩

end RunMeter.Runner
