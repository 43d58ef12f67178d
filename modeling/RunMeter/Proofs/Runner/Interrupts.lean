import RunMeter.Proofs.Log.Passing
import RunMeter.Proofs.Runner.Trace
import RunMeter.Proofs.Runner.Waiting

/-!
# RunMeter.Proofs.Runner.Interrupts — interrupts cost a warning each and nothing else

A run of the runner is compared with the run of the same system without interrupts (`Host.undisturbed`).  The two
differ by the warnings alone (`run_undisturbed`), and the warnings all stand between the child's start and its end
(`measure_of_launch`).  With the runs of the wait from `Waiting` this gives `interrupts_ridden_out`: whatever the
order in which interrupts, output and the child's end come, the runner does what it would have done undisturbed.
-/

namespace RunMeter

/-- The system's part in a run as it is without interrupts. -/
def Host.undisturbed (host : Host) : Host :=
  { host with moments := host.moments.filter (· ≠ .interrupt) }

namespace Runner

open Effect (reports complaints stdout events)
open Waiting (Child Act State Step Keeps Heard moments ends interrupts)

variable {host : Host} {c : Command}

/-! ### Where the warnings are -/

/-- Only a warning is the warning of an interrupt. -/
theorem isWarning_of_level {event : Log.Event} (h : event.level ≠ .warn) : isWarning (.log event) = false :=
  isWarning_of_ne fun heq => h (congrArg Log.Event.level heq)

theorem isWarning_starting (settings : RunnerSettings) (c : Command) :
    isWarning (.log (starting settings c)) = false :=
  isWarning_of_level nofun

theorem isWarning_spawned (pid : Nat) (c : Command) : isWarning (.log (spawned pid c)) = false :=
  isWarning_of_level nofun

theorem isWarning_exited (status : WaitStatus) (elapsed : Duration) :
    isWarning (.log (exited status elapsed)) = false :=
  isWarning_of_level nofun

theorem isWarning_concluded (c : Command) (outcome : Outcome) : isWarning (.log (concluded c outcome)) = false :=
  isWarning_of_level nofun

/-- A report that does not arrive is warned of by another part of the runner. -/
theorem isWarning_unwritten (cause : IoError) : isWarning (.log (unwritten cause)) = false := by
  refine isWarning_of_ne fun heq => ?_
  have htarget : reportTarget = childTarget := congrArg Log.Event.target heq
  exact absurd htarget (by decide)

theorem quiet_conclude (host : Host) : quiet (conclude host) = conclude host := by
  unfold conclude handOver
  cases host.peak with
  | error cause => rfl
  | ok peak =>
    cases host.sink.failure? with
    | none => rfl
    | some cause =>
      simp only
      rw [quiet_cons rfl, quiet_cons rfl, quiet_cons (isWarning_unwritten cause)]
      rfl

/-- No warning comes after the wait. -/
theorem quiet_aftermath (host : Host) (c : Command) : quiet (aftermath host c) = aftermath host c := by
  unfold aftermath
  cases host.ending with
  | error cause => rfl
  | ok status =>
    simp only
    rw [quiet_cons (isWarning_exited _ _), quiet_cons (isWarning_concluded _ _), quiet_conclude]

/-- Without its warnings, a wait shows its other moments. -/
theorem quiet_moments (ms : List Moment) :
    quiet (ms.map Moment.effect) = (ms.filter (· ≠ .interrupt)).map Moment.effect := by
  induction ms with
  | nil => rfl
  | cons m ms ih =>
    cases m with
    | interrupt =>
      rw [List.map_cons, Moment.effect, quiet_cons_warning, ih]
      rfl
    | output stream octets =>
      rw [List.map_cons, Moment.effect, quiet_cons rfl, ih]
      rfl

/-- A wait shows one warning for each interrupt. -/
theorem countP_moments (ms : List Moment) : (ms.map Moment.effect).countP isWarning = ms.count .interrupt := by
  rw [List.countP_map, List.count]
  refine List.countP_congr fun m _ => ?_
  cases m <;> simp [Moment.effect, isWarning]

/-! ### A run without interrupts -/

theorem quiet_measure (host : Host) (c : Command) : quiet (measure host c).1 = (measure host.undisturbed c).1 := by
  cases hlaunch : host.launch with
  | error cause =>
    have hlaunch' : host.undisturbed.launch = .error cause := hlaunch
    rw [measure_of_launch_error hlaunch, measure_of_launch_error hlaunch']
    rfl
  | ok pid =>
    have hlaunch' : host.undisturbed.launch = .ok pid := hlaunch
    rw [measure_of_launch hlaunch, measure_of_launch hlaunch', quiet_cons rfl,
      quiet_cons (isWarning_spawned _ _), quiet_append, quiet_moments, quiet_aftermath]
    rfl

theorem outcome_undisturbed (host : Host) (c : Command) :
    (measure host c).2 = (measure host.undisturbed c).2 :=
  outcome_congr rfl rfl

/-! ### What the readers of a run see -/

/-- Leaving out the warnings is a way of showing events. -/
theorem quiet_eq_passing (es : List Effect) : quiet es = Effect.passing (· ≠ interrupted) es := by
  rw [quiet, Effect.passing]
  congr 1
  funext e
  cases e with
  | log event => exact decide_not.symm
  | _ => rfl

theorem complaints_quiet (es : List Effect) : complaints (quiet es) = complaints es := by
  rw [quiet_eq_passing, Effect.complaints_passing]

theorem reports_quiet (es : List Effect) : reports (quiet es) = reports es := by
  rw [quiet_eq_passing]
  exact Effect.filterMap_passing _ (fun _ => rfl) es

theorem events_quiet (es : List Effect) : events (quiet es) = (events es).filter (· ≠ interrupted) := by
  rw [quiet_eq_passing, Effect.events_passing]

theorem stdout_quiet (es : List Effect) : stdout (quiet es) = stdout es := by
  rw [quiet_eq_passing, Effect.stdout_passing]

/-- Two runs are the same, the warnings of interrupts apart. -/
structure SameButWarnings (a b : Run) : Prop where
  exitCode : a.exitCode = b.exitCode
  effects : quiet a.effects = b.effects
  stdout : stdout a.effects = stdout b.effects
  complaints : complaints a.effects = complaints b.effects
  reports : reports a.effects = reports b.effects
  received : ∀ sink : Sink, sink.received a.effects = sink.received b.effects
  events : (events a.effects).filter (· ≠ interrupted) = events b.effects

/-- The effects decide what everyone sees. -/
theorem SameButWarnings.of_effects {a b : Run} (hexit : a.exitCode = b.exitCode) (h : quiet a.effects = b.effects) :
    SameButWarnings a b where
  exitCode := hexit
  effects := h
  stdout := by rw [← h, stdout_quiet]
  complaints := by rw [← h, complaints_quiet]
  reports := by rw [← h, reports_quiet]
  received := fun sink => by rw [Sink.received_eq, Sink.received_eq, ← h, reports_quiet]
  events := by rw [← h, events_quiet]

/-- **A run and the run without interrupts** are the same, the warnings apart. -/
theorem run_undisturbed (host : Command → Host) (env : Environment) (words : List Octets) :
    SameButWarnings (run host env words) (run (fun c => (host c).undisturbed) env words) := by
  cases hwords : Command.ofWords words with
  | error e =>
    rw [run_of_usage hwords, run_of_usage hwords]
    exact .of_effects rfl rfl
  | ok c =>
    rw [run_of_command hwords, run_of_command hwords]
    refine .of_effects (by rw [outcome_undisturbed]) ?_
    rw [quiet_cons (isWarning_starting _ _), quiet_measure]

/-! ### The wait and the run -/

/-- The moments of a wait without its interrupts. -/
theorem moments_undisturbed (acts : List Act) :
    moments (acts.filter fun act => !act.isInterrupt) = (moments acts).filter (· ≠ .interrupt) := by
  rw [moments, moments, List.filterMap_filter, List.filter_filterMap]
  congr 1
  funext act
  cases act <;> rfl

/-- A wait that hears every interrupt shows one warning for each that was taken. -/
theorem countP_warnings {drop : Child → Child} {acts : List Act} {s : State} (hrun : Waiting.Run drop acts s)
    (hheard : Heard acts) : s.effects.countP isWarning = interrupts acts := by
  rw [Waiting.effects_eq_moments hrun hheard, countP_moments, interrupts]

/-- After the wait comes the child's end, and no warning. -/
theorem aftermath_spec (host : Host) (c : Command) :
    (∀ e ∈ aftermath host c, isWarning e = false) ∧
    ∀ status, host.ending = .ok status → (aftermath host c).head? = some (.log (exited status host.elapsed)) := by
  refine ⟨fun e he => ?_, fun status h => by rw [aftermath, h]; rfl⟩
  rw [← quiet_aftermath] at he
  simpa using (List.mem_filter.1 he).2

/-- **Riding out interrupts.**  Take any run of the wait, in which interrupts, output and the child's end come in any
order and the runner takes either where an interrupt and the end are both there, and let no listening for interrupts
fail.  As soon as the child has ended, the wait can return with its result, and it can do so after one interrupt more
if one is pending.  When it has returned, it was with the child's one result, unchanged, after one warning for each
interrupt that was taken, and a wait without interrupts would have come to the same.  A run of the runner with this
wait does what it would have done without interrupts, the warnings apart, and these stand between the child's start
and its end. -/
theorem interrupts_ridden_out {drop : Child → Child} (hdrop : Keeps drop) {acts : List Act} {s : State}
    (hrun : Waiting.Run drop acts s) (hheard : Heard acts) :
    (∀ r ∈ ends acts, s.place.Waits →
      ∃ s', Step drop s (.complete r) s' ∧ s'.place = .returned (r.mapError .wait)) ∧
    (∀ r ∈ ends acts, s.pending = true → s.place = .racing →
      ∃ s₁ s₂, Step drop s .interrupt s₁ ∧ Step drop s₁ (.complete r) s₂ ∧
        s₂.place = .returned (r.mapError .wait)) ∧
    (∀ v, s.place = .returned v → ∃ r, ends acts = [r] ∧ v = r.mapError .wait ∧
      await (moments acts) r = (s.effects, r) ∧
      s.effects.countP isWarning = interrupts acts ∧
      Waiting.Run drop (acts.filter fun act => !act.isInterrupt) s.quiet ∧
      ∀ (host : Command → Host) env words c pid, Command.ofWords words = .ok c → (host c).launch = .ok pid →
        (host c).moments = moments acts → (host c).ending = r →
        (host c).undisturbed.moments = moments (acts.filter fun act => !act.isInterrupt) ∧
        (measure (host c) c).2 = (measure (host c).undisturbed c).2 ∧
        SameButWarnings (run host env words) (run (fun c => (host c).undisturbed) env words) ∧
        ∃ after, (run host env words).effects =
            .log (starting (RunnerSettings.ofEnvironment env) c) :: .launch c :: .log (spawned pid c) ::
              (s.effects ++ after) ∧
          (∀ e ∈ after, isWarning e = false) ∧
          ∀ status, r = .ok status → after.head? = some (.log (exited status (host c).elapsed))) := by
  refine ⟨fun r hend hplace => Waiting.exists_complete hdrop hrun hend hplace,
    fun r hend hpending hplace => Waiting.exists_interrupt_complete hdrop hrun hend hpending hplace,
    fun v hplace => ?_⟩
  obtain ⟨r, hends, hv, hawait⟩ := Waiting.await_of_run hdrop hrun hheard hplace
  refine ⟨r, hends, hv, hawait, countP_warnings hrun hheard, hrun.quiet hdrop, ?_⟩
  intro host env words c pid hwords hlaunch hmoments hending
  refine ⟨?_, outcome_undisturbed (host c) c, run_undisturbed host env words, aftermath (host c) c, ?_, ?_⟩
  · rw [moments_undisturbed, ← hmoments]
    rfl
  · rw [run_of_command hwords, measure_of_launch hlaunch, hmoments, Waiting.effects_eq_moments hrun hheard]
  · obtain ⟨hnone, hhead⟩ := aftermath_spec (host c) c
    exact ⟨hnone, fun status hr => hhead status (hending.trans hr)⟩

/-- Two interrupts, the second taken when the child has already ended: the child's code comes through. -/
theorem interrupts_ridden_out_twice :
    let result : Except IoError WaitStatus := .ok ⟨0x300⟩
    let acts : List Act :=
      [.deliver, .interrupt, .write .stdout [0x68], .finish result, .deliver, .interrupt, .complete result]
    let s : State := ⟨.reaped, false, .returned (.ok ⟨0x300⟩),
      [.log interrupted, .child .stdout [0x68], .log interrupted]⟩
    let host : Host := ⟨.ok 7, moments acts, result, .zero, .ok 4096, .accepts⟩
    let words : List Octets := [Utf8.encode "bench_runner", Utf8.encode "sh"]
    Waiting.Run id acts s ∧ s.effects.countP isWarning = 2 ∧
    Waiting.Run id [.write .stdout [0x68], .finish result, .complete result] s.quiet ∧
    (run (fun _ => host) ⟨[]⟩ words).exitCode = (run (fun _ => host.undisturbed) ⟨[]⟩ words).exitCode := by
  intro result acts s host words
  have h1 : Step id ⟨.running, false, .racing, [.log interrupted]⟩ (.write .stdout [0x68]) _ := .write rfl trivial
  have h2 : Step id ⟨.running, false, .racing, [.log interrupted, .child .stdout [0x68]]⟩ (.finish result) _ :=
    .finish rfl trivial
  have hrun : Waiting.Run id acts s :=
    ((((((Waiting.Run.nil.snoc (.deliver trivial)).snoc (.interrupt rfl rfl)).snoc h1).snoc h2).snoc
      (.deliver trivial)).snoc (.interrupt rfl rfl)).snoc (.complete rfl trivial)
  have hheard : Heard acts := fun cause hmem => by simp [acts] at hmem
  obtain ⟨-, -, hreturned⟩ := interrupts_ridden_out ⟨rfl, fun _ => rfl⟩ hrun hheard
  obtain ⟨r, hends, -, -, hcount, hquiet, hsame⟩ := hreturned _ rfl
  have hr : r = result := (List.singleton_inj.1 hends).symm
  obtain ⟨-, -, hsame, -⟩ := hsame (fun _ => host) ⟨[]⟩ words _ 7 rfl rfl rfl hr.symm
  exact ⟨hrun, hcount, hquiet, hsame.exitCode⟩

end Runner
end RunMeter
