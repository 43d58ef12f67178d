import RunMeter.Log.Directive
import RunMeter.Proofs.Log.Passing
import RunMeter.Proofs.Runner.ExitCode
import RunMeter.Proofs.Runner.Trace
import RunMeter.Proofs.Workload.Stress

/-!
# RunMeter.Proofs.Log.Separation — the log never reaches the results

Two environments that differ in the override and in a program's own log variable differ in nothing that the program
uses but the filter on its log.  So the program does the same in both (`Runner.run_congr`, `Workload.tightLoop_congr`)
once its log is set up; only the recursion program tells its filter, in the one event that it begins with
(`recursionStress_eq_afterStart`).  A filter takes events from standard error, and setting a log up puts the lines about
its filter there and does nothing else (`Run.views_logged`).  So the results are the same (`SameResults`), and each log
that shows is what its filter leaves of one full log (`results_apart_from_log`).
-/

namespace RunMeter

open Effect (arriving childOutput complaints events passing reports stdout)

/-- Two runs of a program, each with a log of its own: standard output, whatever sink it is, and the exit code are the
same, and so are the complaints after the lines about the two filters. -/
structure SameResults (log log' : Log.Filter) (run run' : Run) : Prop where
  stdout : ∀ sink : Sink,
    arriving sink log.admits .stdout run.effects = arriving sink log'.admits .stdout run'.effects
  exitCode : run.exitCode = run'.exitCode
  complaints : ∃ own : List String,
    complaints (passing log.admits run.effects) = log.notices ++ own ∧
    complaints (passing log'.admits run'.effects) = log'.notices ++ own

/-! ### Setting the log up -/

namespace Effect

variable {α : Type}

/-- A view that finds nothing in complaints finds nothing in the lines about a filter. -/
theorem filterMap_opening {g : Effect → Option α} (h : ∀ line, g (.complain line) = none) (f : Log.Filter) :
    (opening f).filterMap g = [] :=
  List.filterMap_eq_nil_iff.2 fun e he => by
    obtain ⟨line, -, rfl⟩ := List.mem_map.1 he
    exact h line

theorem flatMap_opening {g : Effect → List α} (h : ∀ line, g (.complain line) = []) (f : Log.Filter) :
    (opening f).flatMap g = [] :=
  List.flatMap_eq_nil_iff.2 fun e he => by
    obtain ⟨line, -, rfl⟩ := List.mem_map.1 he
    exact h line

theorem complaints_opening (f : Log.Filter) : complaints (opening f) = f.notices := by
  rw [complaints, opening, List.filterMap_map]
  exact List.filterMap_some

end Effect

namespace Run

variable (run : Run) (f : Log.Filter)

theorem complaints_logged : complaints (run.logged f).effects = f.notices ++ complaints run.effects := by
  rw [logged, Effect.complaints_append, Effect.complaints_opening]

theorem events_logged : events (run.logged f).effects = events run.effects := by
  rw [logged, Effect.events_append, events, Effect.filterMap_opening fun _ => rfl, List.nil_append]

theorem reports_logged : reports (run.logged f).effects = reports run.effects := by
  rw [logged, Effect.reports_append, reports, Effect.filterMap_opening fun _ => rfl, List.nil_append]

/-- What arrives on standard output does not depend on the log, nor on the lines about its filter. -/
theorem arriving_stdout_logged (sink : Sink) :
    arriving sink f.admits .stdout (run.logged f).effects = run.effects.flatMap (Effect.outputOn sink .stdout) := by
  rw [Effect.arriving_stdout, logged, List.flatMap_append, Effect.flatMap_opening fun _ => rfl, List.nil_append]

/-- **Setting the log up** puts the lines about the filter before all complaints of a run and changes nothing else that
is seen of it. -/
theorem views_logged :
    (run.logged f).exitCode = run.exitCode ∧
    complaints (run.logged f).effects = f.notices ++ complaints run.effects ∧
    events (run.logged f).effects = events run.effects ∧
    stdout (run.logged f).effects = stdout run.effects ∧
    (∀ stream : Stream, childOutput stream (run.logged f).effects = childOutput stream run.effects) ∧
    (∀ sink : Sink, sink.received (run.logged f).effects = sink.received run.effects) := by
  refine ⟨rfl, run.complaints_logged f, run.events_logged f, ?_, fun stream => ?_, fun sink => ?_⟩
  · rw [logged, Effect.stdout_append, stdout, Effect.flatMap_opening fun _ => rfl, List.nil_append]
  · rw [logged, Effect.childOutput_append, childOutput, Effect.flatMap_opening fun _ => rfl, List.nil_append]
  · rw [Sink.received_eq, Sink.received_eq, reports_logged]

end Run

/-- Runs that are the same with the log off have the same results, whatever their logs are. -/
theorem SameResults.of_logOff {run run' : Run} (hexit : run.exitCode = run'.exitCode)
    (h : passing (fun _ => false) run.effects = passing (fun _ => false) run'.effects)
    (log log' : Log.Filter) : SameResults log log' (run.logged log) (run'.logged log') where
  stdout sink := by
    rw [Run.arriving_stdout_logged, Run.arriving_stdout_logged, ← Effect.arriving_stdout fun _ => false, arriving, h,
      ← arriving, Effect.arriving_stdout]
  exitCode := hexit
  complaints := by
    have hown : Effect.complaints run.effects = Effect.complaints run'.effects := by
      rw [← Effect.complaints_passing fun _ => false, h, Effect.complaints_passing]
    refine ⟨Effect.complaints run.effects, ?_, ?_⟩
    · rw [Effect.complaints_passing, Run.complaints_logged]
    · rw [Effect.complaints_passing, Run.complaints_logged, hown]

/-- Equal runs have the same results, whatever their logs are. -/
theorem SameResults.of_eq {run run' : Run} (h : run = run') (log log' : Log.Filter) :
    SameResults log log' (run.logged log) (run'.logged log') :=
  .of_logOff (congrArg Run.exitCode h) (congrArg (fun r => passing _ r.effects) h) log log'

/-- Runs that differ in their first event have the same results. -/
theorem SameResults.of_start (log log' : Log.Filter) (event event' : Log.Event) (run : Run) :
    SameResults log log' (Run.logged ⟨.log event :: run.effects, run.exitCode⟩ log)
      (Run.logged ⟨.log event' :: run.effects, run.exitCode⟩ log') := by
  have hoff (e : Log.Event) : passing (fun _ => false) (.log e :: run.effects) = passing (fun _ => false) run.effects :=
    List.filter_cons_of_neg nofun
  refine .of_logOff ?_ ?_ log log'
  · rfl
  · exact (hoff event).trans (hoff event').symm

/-! ### The runner -/

namespace Runner

variable {host : Command → Host} {env env' : Environment} {words : List Octets}

theorem starting_congr {settings settings' : RunnerSettings} (h : settings.signalPolicy = settings'.signalPolicy)
    (c : Command) : starting settings c = starting settings' c := by
  rw [starting, starting, h]

/-- The runner uses nothing of its settings but the policy. -/
theorem run_congr
    (h : (RunnerSettings.ofEnvironment env).signalPolicy = (RunnerSettings.ofEnvironment env').signalPolicy) :
    run host env words = run host env' words := by
  cases hwords : Command.ofWords words with
  | error e => rw [run_of_usage hwords, run_of_usage hwords, h]
  | ok c => rw [run_of_command hwords, run_of_command hwords, h, starting_congr h c]

/-- So it is for a run that a signal cuts short. -/
theorem cutShort_congr
    (h : (RunnerSettings.ofEnvironment env).signalPolicy = (RunnerSettings.ofEnvironment env').signalPolicy) :
    cutShort host env words = cutShort host env' words := by
  unfold cutShort
  cases Command.ofWords words with
  | error e => rfl
  | ok c => simp only [starting_congr h c]

end Runner

/-! ### The workloads -/

/-- Environments with the same variables but for the log give a workload the same settings but for the filter. -/
theorem WorkloadSettings.ofEnvironment_congr {env env' : Environment}
    (h : env.AgreeExcept [Log.overrideVariable, logVariable] env') :
    ofEnvironment env' = { ofEnvironment env with logFilter := (ofEnvironment env').logFilter } := by
  have hfield (f : Field) (hf : f.variableName ∉ [Log.overrideVariable, logVariable]) :
      f.get (ofEnvironment env) = f.get (ofEnvironment env') := schema.get_ofLookup_congr (h.text? hf)
  refine schema.ext fun f => ?_
  cases f with
  | logFilter => rfl
  | tightLoopIterations => exact (hfield .tightLoopIterations (by decide)).symm
  | fibIndex => exact (hfield .fibIndex (by decide)).symm
  | sumLoopLimit => exact (hfield .sumLoopLimit (by decide)).symm
  | diveDepth => exact (hfield .diveDepth (by decide)).symm
  | diveStackMiB => exact (hfield .diveStackMiB (by decide)).symm

namespace Workload

theorem tightLoop_congr {env env' : Environment} (elapsed : Duration)
    (h : (WorkloadSettings.ofEnvironment env).tightLoopIterations =
      (WorkloadSettings.ofEnvironment env').tightLoopIterations) :
    tightLoop env elapsed = tightLoop env' elapsed := by
  unfold tightLoop
  simp only [h]

/-- What the recursion program does after its first event. -/
def afterStart (rule : StackRule) (s : WorkloadSettings) : Run :=
  let before := (linesBeforeDive s).map Effect.print
  match stackDive rule s.diveDepth s.diveStackMiB with
  | .ok depth => ⟨before ++ [printNumber depth], 0⟩
  | .error e => ⟨before ++ e.lines.map .complain, errorCode⟩

/-- The recursion program tells all of its settings at its start. -/
theorem recursionStress_eq_afterStart (env : Environment) (rule : StackRule) {s : WorkloadSettings}
    (hs : WorkloadSettings.ofEnvironment env = s) :
    recursionStress env rule =
      ⟨.log (stressStarting s) :: (afterStart rule s).effects, (afterStart rule s).exitCode⟩ := by
  rw [recursionStress_eq env rule hs, afterStart]
  cases stackDive rule s.diveDepth s.diveStackMiB with
  | ok depth => rfl
  | error e => rfl

/-- After its start it has no use for the filter. -/
theorem afterStart_logFilter (rule : StackRule) (s : WorkloadSettings) (filter : String) :
    afterStart rule { s with logFilter := filter } = afterStart rule s := rfl

end Workload

/-! ### The three programs -/

/-- **The results of a program are apart from its log**, whatever library reads the filters.  Standard output and the
complaints are the same under every filter, and what shows of a log is the part of the full log that the filter admits;
by level and target, if the filter goes by them.  The filter in force is the strict reading of the override if that is a
text and can be read so, and else the lenient reading of the configured text.  For each of the three programs,
environments that differ in the override and the program's log variable give the same results, but for the lines about
the filter at the start, and the full log is the same, but for the filter's own text in the first event of the recursion
program. -/
theorem results_apart_from_log (lib : Log.Library) :
    (∀ (sink : Sink) (shows : Log.Event → Bool) (effects : List Effect),
      arriving sink shows .stdout effects = arriving sink (fun _ => false) .stdout effects ∧
      (sink.takes = true → arriving sink shows .stdout effects = stdout effects) ∧
      complaints (passing shows effects) = complaints effects ∧
      (passing shows effects).Sublist effects ∧
      events (passing shows effects) = (events effects).filter shows) ∧
    (∀ (filter : Log.Filter) (rule : Log.Level → String → Bool), filter.GoesBy rule → ∀ effects : List Effect,
      events (passing filter.admits effects) = (events effects).filter fun e => rule e.level e.target) ∧
    (∀ (env : Environment) (text : String) (filter : Log.Filter),
      env.get? Log.overrideVariable = some (Utf8.encode text) → lib.strict? text = some filter →
        Runner.logFilter lib env = filter ∧ Workload.logFilter lib env = filter) ∧
    (∀ env : Environment,
      (∀ text, env.get? Log.overrideVariable = some (Utf8.encode text) → lib.strict? text = none) →
        Runner.logFilter lib env = lib.lenient (RunnerSettings.ofEnvironment env).logFilter ∧
        Workload.logFilter lib env = lib.lenient (WorkloadSettings.ofEnvironment env).logFilter) ∧
    (∀ (host : Command → Host) (env env' : Environment) (words : List Octets),
      env.AgreeExcept [Log.overrideVariable, RunnerSettings.logVariable] env' →
      let run := Runner.program lib host env words
      let run' := Runner.program lib host env' words
      SameResults (Runner.logFilter lib env) (Runner.logFilter lib env') run run' ∧
        events run.effects = events run'.effects ∧
        Runner.cutShort host env words = Runner.cutShort host env' words) ∧
    (∀ (env env' : Environment) (elapsed : Duration),
      env.AgreeExcept [Log.overrideVariable, WorkloadSettings.logVariable] env' →
      let run := Workload.tightProgram lib env elapsed
      let run' := Workload.tightProgram lib env' elapsed
      SameResults (Workload.logFilter lib env) (Workload.logFilter lib env') run run' ∧
        events run.effects = events run'.effects) ∧
    (∀ (env env' : Environment) (rule : Workload.StackRule),
      env.AgreeExcept [Log.overrideVariable, WorkloadSettings.logVariable] env' →
      let run := Workload.stressProgram lib env rule
      let run' := Workload.stressProgram lib env' rule
      let s := WorkloadSettings.ofEnvironment env
      let s' := { s with logFilter := (WorkloadSettings.ofEnvironment env').logFilter }
      SameResults (Workload.logFilter lib env) (Workload.logFilter lib env') run run' ∧
        ∃ rest, events run.effects = Workload.stressStarting s :: rest ∧
          events run'.effects = Workload.stressStarting s' :: rest) := by
  refine ⟨fun sink shows effects => ⟨?_, fun htakes => Effect.arriving_stdout_of_takes shows htakes effects,
    Effect.complaints_passing shows effects, List.filter_sublist, Effect.events_passing shows effects⟩,
    fun filter rule hrule effects => Effect.events_passing_of_goesBy hrule effects, ?_, ?_, ?_, ?_, ?_⟩
  · rw [Effect.arriving_stdout, Effect.arriving_stdout]
  · intro env text filter hget hread
    have htext := (env.text?_eq_some_iff _).2 hget
    rw [Runner.logFilter, Workload.logFilter, htext, lib.inForce_of_strict hread, lib.inForce_of_strict hread]
    exact ⟨rfl, rfl⟩
  · intro env hunread
    have htext : ∀ text, env.text? Log.overrideVariable = some text → lib.strict? text = none := fun text h =>
      hunread text ((env.text?_eq_some_iff _).1 h)
    exact ⟨lib.inForce_of_unread htext _, lib.inForce_of_unread htext _⟩
  · intro host env env' words hagree run run'
    have hpolicy := Runner.signalPolicy_congr (hagree RunnerSettings.policyVariable (by decide))
    have hrun : Runner.run host env words = Runner.run host env' words := Runner.run_congr hpolicy
    refine ⟨.of_eq hrun _ _, ?_, Runner.cutShort_congr hpolicy⟩
    simp only [run, run', Runner.program, Run.events_logged, hrun]
  · intro env env' elapsed hagree run run'
    have hcount : (WorkloadSettings.ofEnvironment env').tightLoopIterations =
        (WorkloadSettings.ofEnvironment env).tightLoopIterations := by
      rw [WorkloadSettings.ofEnvironment_congr hagree]
    have hrun : Workload.tightLoop env elapsed = Workload.tightLoop env' elapsed :=
      Workload.tightLoop_congr elapsed hcount.symm
    refine ⟨.of_eq hrun _ _, ?_⟩
    simp only [run, run', Workload.tightProgram, Run.events_logged, hrun]
  · intro env env' rule hagree run run' s s'
    have hrun : Workload.recursionStress env rule = _ := Workload.recursionStress_eq_afterStart env rule rfl
    have hrun' : Workload.recursionStress env' rule = _ :=
      Workload.recursionStress_eq_afterStart env' rule (WorkloadSettings.ofEnvironment_congr hagree)
    rw [Workload.afterStart_logFilter] at hrun'
    simp only [run, run', Workload.stressProgram, hrun, hrun', Run.events_logged]
    exact ⟨.of_start _ _ _ _ (Workload.afterStart rule s), events (Workload.afterStart rule s).effects, rfl, rfl⟩

/-- A program that is not there, a count and a refused dive, with the log off and with all of it, and with a configured
filter that can not be read: nothing but the log and the lines about its filter tells the runs apart.  An override that
is no text leaves the configured filter in force. -/
theorem results_apart_from_log_off :
    let lib := Log.Directive.library
    let env : Environment := ⟨[(Log.overrideVariable, Utf8.encode "off"), ("TIGHT_LOOP_ITERATIONS", [0x31])]⟩
    let env' := env.set Log.overrideVariable (Utf8.encode "debug")
    let host : Host := ⟨.error (.os .noEntry), [], .ok ⟨0⟩, .zero, .ok 1024, .accepts⟩
    let words := [Utf8.encode "bench_runner", Utf8.encode "absent"]
    let refuse : Workload.StackRule := fun _ => some (.os .again)
    let debug := Log.Directive.filter [⟨"", 4⟩] []
    let effects := (Workload.stressProgram lib env' refuse).effects
    events (passing debug.admits effects) =
      (events effects).filter (fun e => Log.Directive.shows [⟨"", 4⟩] e.level e.target) ∧
    Runner.logFilter lib env' = debug ∧
    Workload.logFilter lib ⟨[(Log.overrideVariable, [0xff])]⟩ = lib.lenient "workloads=warn" ∧
    SameResults (Runner.logFilter lib env) (Runner.logFilter lib env')
      (Runner.program lib (fun _ => host) env words) (Runner.program lib (fun _ => host) env' words) ∧
    SameResults (Workload.logFilter lib env) (Workload.logFilter lib env')
      (Workload.tightProgram lib env .zero) (Workload.tightProgram lib env' .zero) ∧
    SameResults (Workload.logFilter lib env) (Workload.logFilter lib env')
      (Workload.stressProgram lib env refuse) (Workload.stressProgram lib env' refuse) := by
  intro lib env env' host words refuse debug effects
  have hagree (name : String) : env.AgreeExcept [Log.overrideVariable, name] env' :=
    (env.agreeExcept_set _ _).symm.mono (List.cons_subset_cons _ (List.nil_subset _))
  have hread : lib.strict? "debug" = some debug := by rfl
  obtain ⟨-, shown, inForce, configured, runner, tight, stress⟩ := results_apart_from_log Log.Directive.library
  refine ⟨shown debug _ (Log.Directive.filter_goesBy _ _) effects,
    (inForce env' "debug" debug (env.get?_set_self _ _) hread).1, ?_, (runner _ env env' words (hagree _)).1,
    (tight env env' .zero (hagree _)).1, (stress env env' refuse (hagree _)).1⟩
  refine (configured ⟨[(Log.overrideVariable, [0xff])]⟩ fun text hget => ?_).2
  exact absurd hget ((Environment.text?_eq_none_iff _ _).1 (by decide +kernel) text)

/-- An override with a level that there is not: the lenient reading of it would show no event; but the configured filter
is in force, and all four events show.  And a configured filter with such a level costs a line on standard error, which
no other filter does. -/
theorem unread_override_not_in_force :
    let lib := Log.Directive.library
    let text := "off,bench_runner=loud"
    let env : Environment :=
      ⟨[(Log.overrideVariable, Utf8.encode text), (RunnerSettings.logVariable, Utf8.encode "bench_runner=debug")]⟩
    let host : Host := ⟨.ok 7, [], .ok ⟨0⟩, .zero, .ok 1024, .accepts⟩
    let program (env : Environment) :=
      (Runner.program lib (fun _ => host) env [Utf8.encode "bench_runner", Utf8.encode "true"]).effects
    env.get? Log.overrideVariable = some (Utf8.encode text) ∧
    (events (program env)).filter (lib.lenient text).admits = [] ∧
    (events (passing (Runner.logFilter lib env).admits (program env))).length = 4 ∧
    (complaints (program ⟨[(RunnerSettings.logVariable, Utf8.encode "bench_runner=loud")]⟩)).length = 1 ∧
    complaints (program .empty) = [] := by
  decide +kernel

end RunMeter
