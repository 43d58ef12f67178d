import RunMeter.Proofs.Log.Passing
import RunMeter.Proofs.Measurement.Report
import RunMeter.Proofs.Runner.Trace

/-!
# RunMeter.Proofs.Runner.Output — what a run leaves on standard output

The child's octets and after them the report, if there is one, are written to standard output (`stdout_run`).  The
child's octets arrive there, and the report if the sink takes it (`arriving_run`).  With the report read from its
end this makes the output of a run tell the child's part and the figures apart, whatever the child wrote
(`report_decodes_uniquely`).
-/

namespace RunMeter

/-- The octets of some reports. -/
def Measurement.encodeReports (ms : List Measurement) : Octets :=
  ms.flatMap fun m => Utf8.encode m.report

open Effect (arriving childOutput reports stdout)
open Measurement (encodeReports)

namespace Effect

/-- What a program does itself is no output of the child. -/
theorem childOutput_own (stream : Stream) (es : List Effect) : childOutput stream (own es) = [] := by
  induction es with
  | nil => rfl
  | cons e es ih =>
    cases e with
    | child s octets => exact ih
    | _ => exact ih

/-- Without a line of the program's own, a sink that takes no report gets the child's output alone. -/
theorem outputOn_of_not_takes {sink : Sink} (hsink : sink.takes = false) {es : List Effect}
    (h : ∀ line, .print line ∉ es) : es.flatMap (outputOn sink .stdout) = childOutput .stdout es :=
  List.flatMap_congr fun e he => by
    cases e with
    | child stream octets => rfl
    | report m => rw [outputOn, output?, hsink, if_neg Bool.false_ne_true]
    | print line => exact absurd he (h line)
    | _ => rfl

/-- A program that puts no line of its own on standard output puts its reports there. -/
theorem stdout_own {es : List Effect} (h : ∀ line, .print line ∉ es) :
    stdout (own es) = encodeReports (reports es) := by
  induction es with
  | nil => rfl
  | cons e es ih =>
    have hrest := ih fun line hmem => h line (List.mem_cons_of_mem _ hmem)
    cases e with
    | report m => exact congrArg (Utf8.encode m.report ++ ·) hrest
    | print line => exact absurd List.mem_cons_self (h line)
    | _ => exact hrest

end Effect

namespace Runner

/-! ### The order on standard output -/

/-- A wait shows on standard output what the child writes there. -/
theorem stdout_moments (moments : List Moment) :
    stdout (moments.map Moment.effect) = childOutput .stdout (moments.map Moment.effect) := by
  induction moments with
  | nil => rfl
  | cons m moments ih =>
    cases m with
    | interrupt => exact ih
    | output stream octets =>
      cases stream with
      | stdout => exact congrArg (octets ++ ·) ih
      | stderr => exact ih

theorem reports_moments (moments : List Moment) : reports (moments.map Moment.effect) = [] :=
  filterMap_moments rfl (fun _ _ => rfl) moments

theorem print_notMem_aftermath (host : Host) (c : Command) (line : String) : .print line ∉ aftermath host c := by
  unfold aftermath conclude handOver
  cases host.ending with
  | error cause => simp
  | ok status =>
    cases host.peak with
    | error cause => simp
    | ok peak => cases host.sink.failure? <;> simp

/-- The runner puts no line of its own on standard output, but for the report. -/
theorem print_notMem_run (host : Command → Host) (env : Environment) (words : List Octets) (line : String) :
    .print line ∉ (run host env words).effects := by
  cases hwords : Command.ofWords words with
  | error e => rw [run_of_usage hwords]; simp
  | ok c =>
    rw [run_of_command hwords]
    cases hlaunch : (host c).launch with
    | error cause => rw [measure_of_launch_error hlaunch]; simp
    | ok pid =>
      rw [measure_of_launch hlaunch]
      have hmoments : .print line ∉ (host c).moments.map Moment.effect := fun h => by
        obtain ⟨m, -, hm⟩ := List.mem_map.1 h
        cases m <;> contradiction
      simp [hmoments, print_notMem_aftermath]

theorem stdout_measure (host : Host) (c : Command) :
    stdout (measure host c).1 =
      childOutput .stdout (measure host c).1 ++ encodeReports (reports (measure host c).1) := by
  cases hlaunch : host.launch with
  | error cause =>
    rw [measure_of_launch_error hlaunch]
    rfl
  | ok pid =>
    rw [measure_of_launch hlaunch]
    change stdout (host.moments.map Moment.effect ++ aftermath host c) =
      childOutput .stdout (host.moments.map Moment.effect ++ aftermath host c) ++
        encodeReports (reports (host.moments.map Moment.effect ++ aftermath host c))
    have hchild := Effect.childOutput_own .stdout (aftermath host c)
    have hreport := Effect.stdout_own (print_notMem_aftermath host c)
    rw [own_aftermath] at hchild hreport
    rw [Effect.stdout_append, Effect.childOutput_append, Effect.reports_append, stdout_moments, reports_moments,
      hchild, hreport, List.append_nil, List.nil_append]

/-- **What is written to standard output** in a run: the child's octets, and after them the report of the figures, if
there are any. -/
theorem stdout_run (host : Command → Host) (env : Environment) (words : List Octets) :
    stdout (run host env words).effects =
      childOutput .stdout (run host env words).effects ++ encodeReports (reports (run host env words).effects) := by
  cases hwords : Command.ofWords words with
  | error e =>
    rw [run_of_usage hwords]
    rfl
  | ok c =>
    rw [run_of_command hwords]
    exact stdout_measure (host c) c

/-- A child that starts and ends and has a known peak is reported once. -/
theorem reports_run_of_peak {host : Command → Host} {env : Environment} {words : List Octets} {c : Command}
    {pid : Nat} {status : WaitStatus} {peak : UInt64} (hwords : Command.ofWords words = .ok c)
    (hlaunch : (host c).launch = .ok pid) (hending : (host c).ending = .ok status) (hpeak : (host c).peak = .ok peak) :
    reports (run host env words).effects = [⟨(host c).elapsed, peak⟩] := by
  have hmeasure := reports_measure (host c) c
  rw [hlaunch, hending, hpeak] at hmeasure
  rw [run_of_command hwords]
  exact hmeasure

theorem stdout_run_of_reports {host : Command → Host} {env : Environment} {words : List Octets} {m : Measurement}
    (h : reports (run host env words).effects = [m]) :
    stdout (run host env words).effects =
      childOutput .stdout (run host env words).effects ++ Utf8.encode m.report := by
  rw [stdout_run, h, encodeReports, List.flatMap_singleton]

/-- **What arrives on standard output** in a run, whatever the log shows: the child's octets, and after them what the
sink has got. -/
theorem arriving_run (host : Command → Host) (env : Environment) (words : List Octets) (sink : Sink)
    (shows : Log.Event → Bool) :
    arriving sink shows .stdout (run host env words).effects =
      childOutput .stdout (run host env words).effects ++
        Utf8.encode (sink.received (run host env words).effects) := by
  rw [Sink.received_eq]
  cases htakes : sink.takes with
  | true =>
    rw [Effect.arriving_stdout_of_takes shows htakes, stdout_run, if_pos rfl, Utf8.encode_join, List.flatMap_map]
    rfl
  | false =>
    rw [Effect.arriving_stdout, Effect.outputOn_of_not_takes htakes (print_notMem_run host env words),
      if_neg Bool.false_ne_true]
    exact (List.append_nil _).symm

theorem arriving_run_of_reports {host : Command → Host} {env : Environment} {words : List Octets} {sink : Sink}
    {m : Measurement} (htakes : sink.takes = true) (h : reports (run host env words).effects = [m])
    (shows : Log.Event → Bool) :
    arriving sink shows .stdout (run host env words).effects =
      childOutput .stdout (run host env words).effects ++ Utf8.encode m.report := by
  rw [arriving_run, Sink.received_eq, h, if_pos htakes]
  simp

/-! ### Telling the report from the child's output -/

/-- **A report is decoded in one way**, whatever stands before it.  Outputs that end in the reports of two measurements
and are the same are the same before the reports, and the measurements have the same peak and the same printed time; so
it is for what arrives on standard output in two runs whose reports are taken.  Every report has two lines with the
seconds to five places and the peak in plain digits, no sign, no exponent and no zero too many, and the digits of the
peak read as the peak. -/
theorem report_decodes_uniquely :
    (∀ (c d : Octets) (m n : Measurement), c ++ Utf8.encode m.report = d ++ Utf8.encode n.report →
      c = d ∧ m.peakKb = n.peakKb ∧ m.elapsed.text = n.elapsed.text) ∧
    (∀ m : Measurement, ∃ whole places peak : List Char,
      m.report = m.text ++ "\n" ∧
      m.text = "Time: " ++ m.elapsed.text ++ "s\nPeak Memory: " ++ String.ofList peak ++ " KB" ∧
      m.elapsed.text = String.ofList (whole ++ '.' :: places) ∧
      Decimal.IsNumeral whole ∧ (∀ c ∈ places, c.isDigit = true) ∧ places.length = 5 ∧
      Decimal.IsNumeral peak ∧ Decimal.unsigned? peak = some m.peakKb.toNat) ∧
    (∀ (host host' : Command → Host) (env env' : Environment) (words words' : List Octets) (c c' : Command)
      (shows shows' : Log.Event → Bool) (m n : Measurement),
      Command.ofWords words = .ok c → Command.ofWords words' = .ok c' →
      (host c).sink.takes = true → (host' c').sink.takes = true →
      reports (run host env words).effects = [m] → reports (run host' env' words').effects = [n] →
      arriving (host c).sink shows .stdout (run host env words).effects =
        arriving (host' c').sink shows' .stdout (run host' env' words').effects →
      childOutput .stdout (run host env words).effects = childOutput .stdout (run host' env' words').effects ∧
        m.peakKb = n.peakKb ∧ m.elapsed.text = n.elapsed.text) := by
  refine ⟨fun c d m n => Measurement.report_inj, fun m => ?_, ?_⟩
  · let f := m.figures
    exact ⟨f.whole, f.places, f.peak, rfl, m.text_figures, m.time_figures.symm, f.isNumeral_whole, f.isDigit_places,
      f.length_places, f.isNumeral_peak, m.unsigned?_peak⟩
  · intro host host' env env' words words' c c' shows shows' m n _ _ htakes htakes' hm hn hout
    rw [arriving_run_of_reports htakes hm, arriving_run_of_reports htakes' hn] at hout
    exact Measurement.report_inj hout

/-- A child that writes a report of its own without the last end of line, in one piece and in two, and times that
differ by a nanosecond: the outputs are the same, and so are the child's part and the figures. -/
theorem report_decodes_uniquely_forged :
    let forged := Utf8.encode "Time: 9.99999s\nPeak Memory: 7 KB"
    let m : Measurement := ⟨.zero, 18446744073709551615⟩
    let n : Measurement := ⟨.ofNanos 1, 18446744073709551615⟩
    let whole : Host := ⟨.ok 7, [.output .stdout forged], .ok ⟨0⟩, m.elapsed, .ok m.peakKb, .accepts⟩
    let halves : Host :=
      ⟨.ok 8, [.output .stdout (forged.take 5), .interrupt, .output .stdout (forged.drop 5)], .ok ⟨9⟩, n.elapsed,
        .ok n.peakKb, .accepts⟩
    let words : List Octets := [[], Utf8.encode "sh"]
    let out (host : Host) :=
      arriving host.sink (fun _ => false) .stdout (run (fun _ => host) .empty words).effects
    (forged ++ Utf8.encode m.report = forged ++ Utf8.encode n.report ∧ m.elapsed.text = n.elapsed.text) ∧
    out whole = out halves ∧
    childOutput .stdout (run (fun _ => whole) .empty words).effects =
      childOutput .stdout (run (fun _ => halves) .empty words).effects := by
  intro forged m n whole halves words out
  obtain ⟨hreports, -, hruns⟩ := report_decodes_uniquely
  have hsame : forged ++ Utf8.encode m.report = forged ++ Utf8.encode n.report := by decide +kernel
  have hout : out whole = out halves := by decide +kernel
  have hm : reports (run (fun _ => whole) .empty words).effects = [m] := reports_run_of_peak rfl rfl rfl rfl
  have hn : reports (run (fun _ => halves) .empty words).effects = [n] := reports_run_of_peak rfl rfl rfl rfl
  obtain ⟨-, -, htime⟩ := hreports _ _ _ _ hsame
  let c : Command := ⟨Utf8.encode "sh", []⟩
  obtain ⟨hchild, -, -⟩ := hruns _ _ _ _ _ _ c c _ _ m n rfl rfl rfl rfl hm hn hout
  exact ⟨⟨hsame, htime⟩, hout, hchild⟩

end Runner
end RunMeter
