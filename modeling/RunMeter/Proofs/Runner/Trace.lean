import Mathlib.Data.List.Basic
import RunMeter.Proofs.Runner.Measure

/-!
# RunMeter.Proofs.Runner.Trace — the words that a measurement can show

What the runner itself does in a measurement is one of five words, and which one is decided by the system's answers
alone (`Trace`).  Only the number of warnings in a word is open, one for each interrupt.

* `own_measure_iff`: a measurement shows a word exactly if `Trace` allows it.
* `Trace.split_query`: the memory query comes once, after the child's end.
* `reports_measure`: the figures of a child that started, ended and has a known peak are handed on once.
* `measure_trace`: all of this together, with what the sink has got at the end.
-/

namespace RunMeter

namespace Effect

/-- Whether the child did it. -/
def isChild : Effect → Bool
  | child _ _ => true
  | _ => false

/-- What a program did itself. -/
def own (effects : List Effect) : List Effect :=
  effects.filter fun e => !e.isChild

@[simp] theorem own_append (a b : List Effect) : own (a ++ b) = own a ++ own b :=
  List.filter_append a b

@[simp] theorem own_cons_child (stream : Stream) (octets : Octets) (es : List Effect) :
    own (.child stream octets :: es) = own es := rfl

theorem own_cons {e : Effect} (h : e.isChild = false) (es : List Effect) : own (e :: es) = e :: own es :=
  List.filter_cons_of_pos (by rw [h]; rfl)

/-- The figures that were handed to the sink, in order. -/
def reports (effects : List Effect) : List Measurement :=
  effects.filterMap fun
    | report m => some m
    | _ => none

@[simp] theorem reports_append (a b : List Effect) : reports (a ++ b) = reports a ++ reports b :=
  List.filterMap_append

theorem reports_own (es : List Effect) : reports (own es) = reports es := by
  rw [reports, reports, own, List.filterMap_filter]
  congr 1
  funext e
  cases e <;> rfl

end Effect

theorem Sink.received_eq (sink : Sink) (es : List Effect) :
    sink.received es = if sink.takes then String.join ((Effect.reports es).map Measurement.report) else "" := by
  rw [received, Effect.reports, List.map_filterMap]
  congr 3
  funext e
  cases e <;> rfl

namespace Runner

open Effect (own reports)

/-- The warnings of a wait, one for each interrupt. -/
def warnings (moments : List Moment) : List Effect :=
  List.replicate (moments.count .interrupt) (.log interrupted)

/-- The child's own output apart, a wait shows its warnings. -/
theorem own_moments (moments : List Moment) : own (moments.map Moment.effect) = warnings moments := by
  induction moments with
  | nil => rfl
  | cons m moments ih =>
    cases m with
    | interrupt =>
      rw [List.map_cons, Moment.effect, Effect.own_cons rfl, ih, warnings, warnings, List.count_cons_self,
        List.replicate_succ]
    | output stream octets =>
      have hne : Moment.output stream octets ≠ .interrupt := nofun
      rw [List.map_cons, Moment.effect, Effect.own_cons_child, ih, warnings, warnings, List.count_cons_of_ne hne]

/-- What the runner does up to the end of a child and its outcome. -/
def untilConcluded (host : Host) (c : Command) (pid : Nat) (status : WaitStatus) : List Effect :=
  .launch c :: .log (spawned pid c) :: (warnings host.moments ++
    [.log (exited status host.elapsed), .log (concluded c (Outcome.ofStatus status))])

/-- The words that a measurement can show, the child's own output apart. -/
inductive Trace (host : Host) (c : Command) : List Effect → Prop
  /-- The command does not start: one complaint, and no event for the log. -/
  | notStarted {cause : IoError} (hlaunch : host.launch = .error cause) :
      Trace host c [.launch c, .complain (RunError.launch c.name cause).message]
  /-- There is no news of the child's end: one complaint after the warnings. -/
  | notAwaited {pid : Nat} {cause : IoError} (hlaunch : host.launch = .ok pid)
      (hending : host.ending = .error cause) :
      Trace host c (.launch c :: .log (spawned pid c) ::
        (warnings host.moments ++ [.complain (RunError.wait cause).message]))
  /-- The system does not tell the child's memory: one complaint in place of the report. -/
  | unmeasured {pid : Nat} {status : WaitStatus} {cause : Errno} (hlaunch : host.launch = .ok pid)
      (hending : host.ending = .ok status) (hpeak : host.peak = .error cause) :
      Trace host c (untilConcluded host c pid status ++ [.query, .complain (RunError.resources cause).message])
  /-- The report is handed to a sink that takes it and passes it on. -/
  | reported {pid : Nat} {status : WaitStatus} {peak : UInt64} (hlaunch : host.launch = .ok pid)
      (hending : host.ending = .ok status) (hpeak : host.peak = .ok peak) (hsink : host.sink.failure? = none) :
      Trace host c (untilConcluded host c pid status ++ [.query, .report ⟨host.elapsed, peak⟩])
  /-- The report is handed to a sink that does not, and one warning follows it. -/
  | lost {pid : Nat} {status : WaitStatus} {peak : UInt64} {cause : IoError} (hlaunch : host.launch = .ok pid)
      (hending : host.ending = .ok status) (hpeak : host.peak = .ok peak) (hsink : host.sink.failure? = some cause) :
      Trace host c (untilConcluded host c pid status ++
        [.query, .report ⟨host.elapsed, peak⟩, .log (unwritten cause)])

variable {host : Host} {c : Command}

/-! ### The words are those of a measurement -/

/-- What follows the wait is the runner's own work. -/
theorem own_aftermath (host : Host) (c : Command) : own (aftermath host c) = aftermath host c := by
  unfold aftermath conclude handOver
  cases host.ending with
  | error cause => rfl
  | ok status =>
    cases host.peak with
    | error cause => rfl
    | ok peak => cases host.sink.failure? <;> rfl

theorem own_measure_of_launch_error {cause : IoError} (h : host.launch = .error cause) :
    own (measure host c).1 = [.launch c, .complain (RunError.launch c.name cause).message] := by
  rw [measure_of_launch_error h]
  rfl

theorem own_measure_of_launch {pid : Nat} (h : host.launch = .ok pid) :
    own (measure host c).1 =
      .launch c :: .log (spawned pid c) :: (warnings host.moments ++ aftermath host c) := by
  rw [measure_of_launch h, Effect.own_cons rfl, Effect.own_cons rfl, Effect.own_append, own_moments, own_aftermath]

theorem own_measure_of_wait_error {pid : Nat} {cause : IoError} (h : host.launch = .ok pid)
    (h' : host.ending = .error cause) :
    own (measure host c).1 =
      .launch c :: .log (spawned pid c) :: (warnings host.moments ++ [.complain (RunError.wait cause).message]) := by
  rw [own_measure_of_launch h, aftermath, h']

theorem own_measure_of_status {pid : Nat} {status : WaitStatus} (h : host.launch = .ok pid)
    (h' : host.ending = .ok status) :
    own (measure host c).1 = untilConcluded host c pid status ++ conclude host := by
  rw [own_measure_of_launch h, aftermath, h', untilConcluded]
  simp only [List.cons_append, List.append_assoc, List.nil_append]

/-- Every measurement shows one of the words. -/
theorem trace_own_measure (host : Host) (c : Command) : Trace host c (own (measure host c).1) := by
  cases hlaunch : host.launch with
  | error cause =>
    rw [own_measure_of_launch_error hlaunch]
    exact .notStarted hlaunch
  | ok pid =>
    cases hending : host.ending with
    | error cause =>
      rw [own_measure_of_wait_error hlaunch hending]
      exact .notAwaited hlaunch hending
    | ok status =>
      rw [own_measure_of_status hlaunch hending]
      unfold conclude handOver
      cases hpeak : host.peak with
      | error cause => exact .unmeasured hlaunch hending hpeak
      | ok peak =>
        cases hsink : host.sink.failure? with
        | none => exact .reported hlaunch hending hpeak hsink
        | some cause => exact .lost hlaunch hending hpeak hsink

/-- The system's answers allow one word only. -/
theorem own_measure_iff {word : List Effect} : own (measure host c).1 = word ↔ Trace host c word := by
  refine ⟨fun h => h ▸ trace_own_measure host c, fun h => ?_⟩
  cases h with
  | notStarted hlaunch => exact own_measure_of_launch_error hlaunch
  | notAwaited hlaunch hending => exact own_measure_of_wait_error hlaunch hending
  | unmeasured hlaunch hending hpeak => rw [own_measure_of_status hlaunch hending, conclude, hpeak]
  | reported hlaunch hending hpeak hsink =>
    rw [own_measure_of_status hlaunch hending, conclude, hpeak]
    simp only [handOver, hsink]
  | lost hlaunch hending hpeak hsink =>
    rw [own_measure_of_status hlaunch hending, conclude, hpeak]
    simp only [handOver, hsink]

/-! ### The memory query -/

theorem query_notMem_warnings (moments : List Moment) : .query ∉ warnings moments := fun h => by
  have heq := List.eq_of_mem_replicate h
  contradiction

theorem query_notMem_untilConcluded {pid : Nat} {status : WaitStatus} :
    .query ∉ untilConcluded host c pid status := by
  simp [untilConcluded, query_notMem_warnings]

/-- What stands before the only query of a word. -/
theorem split_untilConcluded {pid : Nat} {status : WaitStatus} {before after rest : List Effect}
    (h : before ++ .query :: after = untilConcluded host c pid status ++ .query :: rest) (hrest : .query ∉ rest) :
    before = untilConcluded host c pid status ∧ .query ∉ after := by
  obtain ⟨h1, -, h3⟩ := (List.append_cons_inj_of_notMem query_notMem_untilConcluded hrest).1 h.symm
  exact ⟨h1.symm, h3 ▸ hrest⟩

/-- A word with a query is that of a child at its end.  The query follows the end, and no second one follows it. -/
theorem Trace.split_query {before after : List Effect} (h : Trace host c (before ++ .query :: after)) :
    ∃ pid status, host.launch = .ok pid ∧ host.ending = .ok status ∧
      before = untilConcluded host c pid status ∧ .query ∉ after := by
  have hmem : .query ∈ before ++ .query :: after := List.mem_append_right _ List.mem_cons_self
  generalize hword : before ++ .query :: after = word at h hmem
  cases h with
  | notStarted hlaunch => simp at hmem
  | notAwaited hlaunch hending => simp [query_notMem_warnings] at hmem
  | unmeasured hlaunch hending hpeak =>
    exact ⟨_, _, hlaunch, hending, split_untilConcluded hword (by simp)⟩
  | reported hlaunch hending hpeak hsink =>
    exact ⟨_, _, hlaunch, hending, split_untilConcluded hword (by simp)⟩
  | lost hlaunch hending hpeak hsink =>
    exact ⟨_, _, hlaunch, hending, split_untilConcluded hword (by simp)⟩

/-- The same in the effects as they come, the child's output among them. -/
theorem split_query {before after : List Effect} (h : (measure host c).1 = before ++ .query :: after) :
    ∃ pid status, host.launch = .ok pid ∧ host.ending = .ok status ∧
      own before = untilConcluded host c pid status ∧ .query ∉ after := by
  have htrace := trace_own_measure host c
  rw [h, Effect.own_append, Effect.own_cons rfl] at htrace
  obtain ⟨pid, status, hlaunch, hending, hbefore, hafter⟩ := htrace.split_query
  exact ⟨pid, status, hlaunch, hending, hbefore, fun hmem => hafter (List.mem_filter.2 ⟨hmem, rfl⟩)⟩

/-! ### The sink -/

theorem reports_warnings (moments : List Moment) : reports (warnings moments) = [] := by
  rw [reports, warnings, List.filterMap_replicate]

theorem reports_untilConcluded {pid : Nat} {status : WaitStatus} :
    reports (untilConcluded host c pid status) = [] := by
  change reports (warnings host.moments ++ _) = []
  rw [Effect.reports_append, reports_warnings]
  rfl

theorem reports_conclude (host : Host) :
    reports (conclude host) = match host.peak with
      | .ok peak => [⟨host.elapsed, peak⟩]
      | .error _ => [] := by
  unfold conclude handOver
  cases host.peak with
  | error cause => rfl
  | ok peak => cases host.sink.failure? <;> rfl

/-- **The figures that are handed on**: those of a child that started, ended and has a known peak, once. -/
theorem reports_measure (host : Host) (c : Command) :
    reports (measure host c).1 =
      match host.launch, host.ending, host.peak with
      | .ok _, .ok _, .ok peak => [⟨host.elapsed, peak⟩]
      | _, _, _ => [] := by
  rw [← Effect.reports_own]
  cases hlaunch : host.launch with
  | error cause =>
    rw [own_measure_of_launch_error hlaunch]
    rfl
  | ok pid =>
    cases hending : host.ending with
    | error cause =>
      rw [own_measure_of_wait_error hlaunch hending]
      change reports (warnings host.moments ++ _) = []
      rw [Effect.reports_append, reports_warnings]
      rfl
    | ok status =>
      rw [own_measure_of_status hlaunch hending, Effect.reports_append, reports_untilConcluded, reports_conclude]
      cases host.peak <;> rfl

/-- What the sink has got: the report of those figures, if it takes it, and otherwise nothing. -/
theorem received_measure (host : Host) (c : Command) :
    host.sink.received (measure host c).1 =
      match host.launch, host.ending, host.peak with
      | .ok _, .ok _, .ok peak => if host.sink.takes then Measurement.report ⟨host.elapsed, peak⟩ else ""
      | _, _, _ => "" := by
  rw [Sink.received_eq, reports_measure]
  cases host.launch with
  | error cause => simp
  | ok pid =>
    cases host.ending with
    | error cause => simp
    | ok status =>
      cases host.peak with
      | error cause => simp
      | ok peak => simp

/-- **The words of a measurement.**  What the runner does, the child's output apart, is the one word that the system's
answers allow, with as many warnings as there were interrupts.  Where the memory query stands, the child has ended and
all that belongs before it is done, and no query follows.  The sink has got the report of a child that started, ended
and has a known peak, if it takes it, and otherwise nothing.  The events of the words read as stated at the end. -/
theorem measure_trace (host : Host) (c : Command) :
    (∀ word, own (measure host c).1 = word ↔ Trace host c word) ∧
    (∀ before after, (measure host c).1 = before ++ .query :: after →
      ∃ pid status, host.launch = .ok pid ∧ host.ending = .ok status ∧
        own before = untilConcluded host c pid status ∧ .query ∉ after) ∧
    (host.sink.received (measure host c).1 =
      match host.launch, host.ending, host.peak with
      | .ok _, .ok _, .ok peak => if host.sink.takes then Measurement.report ⟨host.elapsed, peak⟩ else ""
      | _, _, _ => "") ∧
    ∀ pid status cause,
      (spawned pid c).message = "Spawned child process" ∧
      interrupted.message = "Interrupt received, waiting for child to exit" ∧ interrupted.level = .warn ∧
      (exited status host.elapsed).message = "Child exited" ∧
      (concluded c (Outcome.ofStatus status)).message =
        Utf8.lossy c.program ++ " " ++ (Outcome.ofStatus status).describe ∧
      (unwritten cause).message = "Failed to write measurement: " ++ cause.message ∧
      (unwritten cause).level = .warn := by
  refine ⟨fun word => own_measure_iff, fun before after => split_query, received_measure host c, ?_⟩
  intro pid status cause
  exact ⟨rfl, rfl, rfl, rfl, rfl, rfl, rfl⟩

/-- Two interrupts, output of the child between them, and a sink that takes the report and can not pass it on: the
query comes after the child's end, and a warning comes last. -/
theorem measure_trace_failing_flush :
    let host : Host :=
      ⟨.ok 7, [.interrupt, .output .stdout [0x68], .interrupt], .ok ⟨0x100⟩, .zero, .ok 4096,
        .failsFlush (.os .brokenPipe)⟩
    let c : Command := ⟨Utf8.encode "sh", []⟩
    let report : Effect := .report ⟨.zero, 4096⟩
    let warning : Effect := .log (unwritten (.os .brokenPipe))
    own (measure host c).1 = untilConcluded host c 7 ⟨0x100⟩ ++ [.query, report, warning] ∧
    .query ∉ [report, warning] ∧
    host.sink.received (measure host c).1 = Measurement.report ⟨.zero, 4096⟩ := by
  intro host c report warning
  obtain ⟨hword, hquery, hreceived, -⟩ := measure_trace host c
  obtain ⟨pid, status, -, -, -, hafter⟩ := hquery
    (.launch c :: .log (spawned 7 c) :: (host.moments.map Moment.effect ++
      [.log (exited ⟨0x100⟩ .zero), .log (concluded c (.failed 1))])) [report, warning] rfl
  exact ⟨(hword _).2 (.lost rfl rfl rfl rfl), hafter, hreceived⟩

end Runner
end RunMeter
