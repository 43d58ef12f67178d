import RunMeter.Proofs.Runner.Measure

/-!
# RunMeter.Proofs.Runner.Launches — what the system is asked to start

A command is carried in two forms, as octets for the system and as a text for messages.  The octets are what is
launched, once and as they were given (`launches_run`), so that the words after the first can be told from the launch.
The text is in the log, in the error of a launch that fails and in the usage line; past these a run does not depend on
its command (`unnamed_measure`).
-/

namespace RunMeter

namespace Effect

/-- The commands that the system was asked to start, in order. -/
def launches (effects : List Effect) : List Command :=
  effects.filterMap fun
    | .launch c => some c
    | _ => none

/-- Whether an effect tells the command: it is its launch, or an event for the log. -/
def namesCommand : Effect → Bool
  | .launch _ | .log _ => true
  | _ => false

/-- Some effects without those that tell the command. -/
def unnamed (effects : List Effect) : List Effect :=
  effects.filter fun e => !namesCommand e

theorem launches_append (a b : List Effect) : launches (a ++ b) = launches a ++ launches b :=
  List.filterMap_append

theorem unnamed_append (a b : List Effect) : unnamed (a ++ b) = unnamed a ++ unnamed b :=
  List.filter_append a b

end Effect

namespace Runner

open Effect (launches unnamed stdout)

variable {host : Command → Host} {env : Environment}

/-! ### The launch -/

theorem launches_moments (moments : List Moment) : launches (moments.map Moment.effect) = [] :=
  filterMap_moments rfl (fun _ _ => rfl) moments

theorem launches_aftermath (host : Host) (c : Command) : launches (aftermath host c) = [] := by
  unfold aftermath conclude handOver
  cases host.ending with
  | error cause => rfl
  | ok status =>
    cases host.peak with
    | error cause => rfl
    | ok peak => cases host.sink.failure? <;> rfl

/-- A measurement launches its command once, whether or not it starts. -/
theorem launches_measure (host : Host) (c : Command) : launches (measure host c).1 = [c] := by
  cases hlaunch : host.launch with
  | error cause =>
    rw [measure_of_launch_error hlaunch]
    rfl
  | ok pid =>
    rw [measure_of_launch hlaunch]
    change c :: launches (host.moments.map Moment.effect ++ aftermath host c) = [c]
    rw [Effect.launches_append, launches_moments, launches_aftermath, List.append_nil]

/-- The commands in some words: one, of all the words after the first, if there are any. -/
def requested (words : List Octets) : List Command :=
  match words.tail with
  | [] => []
  | program :: args => [⟨program, args⟩]

/-- **What a run launches** is in its words alone. -/
theorem launches_run (host : Command → Host) (env : Environment) (words : List Octets) :
    launches (run host env words).effects = requested words := by
  match words with
  | [] => rfl
  | [_] => rfl
  | _ :: program :: args => exact launches_measure _ _

theorem flatMap_words_requested (words : List Octets) : (requested words).flatMap Command.words = words.tail := by
  match words with
  | [] => rfl
  | [_] => rfl
  | _ :: program :: args => exact List.flatMap_singleton _ _

/-- The words after the first can be told from what they launch. -/
theorem requested_inj {words words' : List Octets} : requested words = requested words' ↔ words.tail = words'.tail := by
  constructor
  · intro h
    rw [← flatMap_words_requested, h, flatMap_words_requested]
  · intro h
    rw [requested, requested, h]

/-! ### Runs without a command -/

/-- The name that the runner was called by, as a text. -/
def calledBy (words : List Octets) : String :=
  (words.head?.map Utf8.lossy).getD "bench_runner"

/-- A run without a command is one line of usage. -/
theorem run_of_length_lt {words : List Octets} (h : words.length < 2) :
    run host env words = ⟨[.complain ("Usage: " ++ calledBy words ++ " <command> [args...]")], 1⟩ := by
  match words, h with
  | [], _ => rfl
  | [_], _ => rfl

/-! ### Runs with a command -/

theorem run_cons (runner : Octets) (c : Command) :
    run host env (runner :: c.words) =
      ⟨.log (starting (RunnerSettings.ofEnvironment env) c) :: (measure (host c) c).1,
        (measure (host c) c).2.exitCode (RunnerSettings.ofEnvironment env).signalPolicy⟩ :=
  run_of_command rfl

section Texts

variable (host : Host) (c c' : Command)

theorem unnamed_aftermath : unnamed (aftermath host c) = unnamed (aftermath host c') := by
  unfold aftermath
  cases host.ending with
  | error cause => rfl
  | ok status => rfl

/-- The effects of a command that starts do not depend on which command it is, past those that tell it. -/
theorem unnamed_measure {pid : Nat} (h : host.launch = .ok pid) :
    unnamed (measure host c).1 = unnamed (measure host c').1 := by
  rw [measure_of_launch h, measure_of_launch h]
  change unnamed (host.moments.map Moment.effect ++ aftermath host c) =
    unnamed (host.moments.map Moment.effect ++ aftermath host c')
  rw [Effect.unnamed_append, Effect.unnamed_append, unnamed_aftermath host c c']

end Texts

/-! ### The program -/

/-- **A command is launched as it was given.**  Without one, nothing is launched, and the run is one line of usage and
the exit code 1.  With one, it is launched once, its words octet for octet, so that runs launch the same exactly if
their words after the first are the same; and the first word has no part in the run.  A command that the system answers
in the same way as another gives the same exit code and the same effects past its launch and its log, except that the
error of a launch that fails tells its program. -/
theorem launched_verbatim (host : Command → Host) (env : Environment) :
    (∀ words : List Octets, words.length < 2 →
      run host env words = ⟨[.complain ("Usage: " ++ calledBy words ++ " <command> [args...]")], 1⟩ ∧
      launches (run host env words).effects = [] ∧ stdout (run host env words).effects = []) ∧
    (∀ (runner program : Octets) (args : List Octets),
      launches (run host env (runner :: program :: args)).effects = [⟨program, args⟩]) ∧
    (∀ (host' : Command → Host) (env' : Environment) (words words' : List Octets),
      launches (run host env words).effects = launches (run host' env' words').effects ↔ words.tail = words'.tail) ∧
    (∀ (runner runner' program : Octets) (args : List Octets),
      run host env (runner :: program :: args) = run host env (runner' :: program :: args)) ∧
    (∀ (host' : Command → Host) (runner runner' : Octets) (c c' : Command), host c = host' c' →
      let one := run host env (runner :: c.words)
      let other := run host' env (runner' :: c'.words)
      one.exitCode = other.exitCode ∧
      (∀ pid, (host c).launch = .ok pid → unnamed one.effects = unnamed other.effects) ∧
      (∀ cause, (host c).launch = .error cause →
        unnamed one.effects = [.complain ("Failed to launch '" ++ Utf8.lossy c.program ++ "': " ++ cause.message)])) := by
  refine ⟨fun words h => ?_, fun runner program args => launches_run _ _ _, fun host' env' words words' => ?_,
    fun _ _ _ _ => rfl, ?_⟩
  · rw [run_of_length_lt h]
    exact ⟨rfl, rfl, rfl⟩
  · rw [launches_run, launches_run, requested_inj]
  · intro host' runner runner' c c' hsame one other
    have hone : one = _ := run_cons runner c
    have hother : other = _ := run_cons runner' c'
    rw [hone, hother, ← hsame]
    refine ⟨?_, fun pid h => ?_, fun cause h => ?_⟩
    · have houtcome : (measure (host c) c).2 = (measure (host c) c').2 := outcome_congr rfl rfl
      rw [houtcome]
    · exact unnamed_measure (host c) c c' h
    · rw [measure_of_launch_error h]
      rfl

/-- Two programs whose names are no texts, and read the same: the launches differ and nothing else does. -/
theorem launched_verbatim_same_text :
    let c : Command := ⟨[0xff], [[], Utf8.encode "--help"]⟩
    let c' : Command := ⟨[0xfe], [[], Utf8.encode "--help"]⟩
    let found : Command → Host := fun _ => ⟨.ok 7, [.output .stdout [0x41]], .ok ⟨0x300⟩, .zero, .ok 9, .accepts⟩
    let missing : Command → Host := fun _ => ⟨.error (.os .noEntry), [], .ok ⟨0⟩, .zero, .ok 9, .accepts⟩
    let own := Utf8.encode "bench_runner"
    c.name = c'.name ∧
    launches (run found .empty (own :: c.words)).effects ≠ launches (run found .empty (own :: c'.words)).effects ∧
    unnamed (run found .empty (own :: c.words)).effects = unnamed (run found .empty (own :: c'.words)).effects ∧
    unnamed (run missing .empty (own :: c.words)).effects =
      [.complain "Failed to launch '\ufffd': No such file or directory (os error 2)"] ∧
    run found .empty [[0xff]] = ⟨[.complain "Usage: \ufffd <command> [args...]"], 1⟩ := by
  intro c c' found missing own
  obtain ⟨usage, -, tails, -, texts⟩ := launched_verbatim found .empty
  obtain ⟨-, -, -, -, errors⟩ := launched_verbatim missing .empty
  have hname : c.name = c'.name := by decide +kernel
  have htail : (own :: c.words).tail ≠ (own :: c'.words).tail := by decide
  obtain ⟨-, started, -⟩ := texts found own own c c' rfl
  obtain ⟨-, -, refused⟩ := errors missing own own c c' rfl
  have hmessage : "Failed to launch '" ++ Utf8.lossy c.program ++ "': " ++ (IoError.os .noEntry).message =
      "Failed to launch '\ufffd': No such file or directory (os error 2)" := by decide +kernel
  have hcalled : calledBy [[0xff]] = "\ufffd" := by decide +kernel
  refine ⟨hname, fun h => htail ((tails found .empty _ _).1 h), started 7 rfl, ?_, ?_⟩
  · rw [refused _ rfl, hmessage]
  · rw [(usage [[0xff]] (by decide)).1, hcalled]
    rfl

end Runner
end RunMeter
