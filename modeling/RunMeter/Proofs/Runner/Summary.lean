import RunMeter.Proofs.Runner.Output
import RunMeter.Proofs.Text.Lines

/-!
# RunMeter.Proofs.Runner.Summary — the summary and the child's last line

The runner hands its standard output to the child and never sees what the child writes there, so the report follows the
child's last octet, whatever that is.  Where the child has ended its last line, or written nothing, the two lines of the
report are lines of their own.  Where it has not, the line of the seconds goes on where the child stopped
(`summary_shares_line`).

* `lines_stdout_run`: the lines on standard output after a run that reports.
* `summary_after_child`: where the two of the report stand among them, and what a reader finds who looks for them.
-/

namespace RunMeter

open Effect (childOutput stdout reports)
open Lines (newline lines ended unfinished firstStarting lastStarting)
namespace Measurement

/-- How the line of the seconds starts. -/
def timeStart : Octets := Utf8.encode "Time: "

/-- How the line of the peak starts. -/
def peakStart : Octets := Utf8.encode "Peak Memory: "

/-- The line of the seconds, without its end. -/
def timeLine (m : Measurement) : Octets :=
  Utf8.encode ("Time: " ++ m.elapsed.text ++ "s")

/-- The line of the peak, without its end. -/
def peakLine (m : Measurement) : Octets :=
  Utf8.encode ("Peak Memory: " ++ Decimal.ofNat m.peakKb.toNat ++ " KB")

theorem encode_report (m : Measurement) :
    Utf8.encode m.report = m.timeLine ++ [newline] ++ (m.peakLine ++ [newline]) := by
  have hend : Utf8.encode "s\nPeak Memory: " = Utf8.encode "s" ++ newline :: Utf8.encode "Peak Memory: " := by decide
  have hnewline : Utf8.encode "\n" = [newline] := by decide
  simp only [report, text, timeLine, peakLine, Utf8.encode_append, hend, hnewline, List.append_assoc,
    List.cons_append, List.nil_append]

/-- Each line starts in its own way. -/
theorem prefix_lines (m : Measurement) :
    timeStart <+: m.timeLine ∧ ¬timeStart <+: m.peakLine ∧ peakStart <+: m.peakLine ∧ ¬peakStart <+: m.timeLine := by
  have htime : Utf8.encode "Time: " = 0x54 :: Utf8.encode "ime: " := by decide
  have hpeak : Utf8.encode "Peak Memory: " = 0x50 :: Utf8.encode "eak Memory: " := by decide
  simp only [timeStart, peakStart, timeLine, peakLine, Utf8.encode_append, List.append_assoc, List.prefix_append,
    true_and]
  simp [htime, hpeak, List.cons_prefix_cons]

/-- Neither line of a report has a newline in it. -/
theorem newline_notMem_lines (m : Measurement) : newline ∉ m.timeLine ∧ newline ∉ m.peakLine := by
  have hdigits {cs : List Char} (h : ∀ c ∈ cs, c.isDigit = true ∨ c = '.') :
      newline ∉ Utf8.encode (String.ofList cs) := fun hb =>
    absurd (Utf8.toNat_of_mem_encode h hb).1 (by decide)
  have htime : newline ∉ Utf8.encode m.elapsed.text := hdigits fun _ => m.figures.isDigit_or_point
  have hpeak : newline ∉ Utf8.encode (Decimal.ofNat m.peakKb.toNat) :=
    hdigits fun c hc => .inl (Decimal.isDigit_of_mem_digits hc)
  have h1 : newline ∉ Utf8.encode "Time: " := by decide
  have h2 : newline ∉ Utf8.encode "s" := by decide
  have h3 : newline ∉ Utf8.encode "Peak Memory: " := by decide
  have h4 : newline ∉ Utf8.encode " KB" := by decide
  simp [timeLine, peakLine, Utf8.encode_append, htime, hpeak, h1, h2, h3, h4]

/-! ### Looking for the lines of a report -/

theorem lastStarting_peakLine (m : Measurement) (front : List Octets) :
    lastStarting peakStart (front ++ [m.peakLine]) = some m.peakLine := by
  obtain ⟨-, -, hpeak, -⟩ := m.prefix_lines
  exact Lines.lastStarting_of_last hpeak

theorem lastStarting_timeLine (m : Measurement) (front : List Octets) :
    lastStarting timeStart (front ++ [m.timeLine] ++ [m.peakLine]) = some m.timeLine := by
  obtain ⟨htime, hnot, -, -⟩ := m.prefix_lines
  rw [Lines.lastStarting_of_not hnot]
  exact Lines.lastStarting_of_last htime

theorem firstStarting_timeLine (m : Measurement) {front : List Octets} (h : ∀ l ∈ front, ¬timeStart <+: l) :
    firstStarting timeStart (front ++ [m.timeLine] ++ [m.peakLine]) = some m.timeLine := by
  obtain ⟨htime, -, -, -⟩ := m.prefix_lines
  rw [List.append_assoc, Lines.firstStarting_append h]
  exact Lines.firstStarting_of_first htime

/-- The line of the seconds is passed over as well. -/
theorem firstStarting_peakLine (m : Measurement) {front : List Octets} (h : ∀ l ∈ front, ¬peakStart <+: l) :
    firstStarting peakStart (front ++ [m.timeLine] ++ [m.peakLine]) = some m.peakLine := by
  obtain ⟨-, -, hpeak, hnot⟩ := m.prefix_lines
  have hall : ∀ l ∈ front ++ [m.timeLine], ¬peakStart <+: l := by
    intro l hl
    rcases List.mem_append.1 hl with hl | hl
    · exact h l hl
    · rw [List.mem_singleton.1 hl]
      exact hnot
  rw [Lines.firstStarting_append hall]
  exact Lines.firstStarting_of_first hpeak

end Measurement

open Measurement (timeStart peakStart)

namespace Runner

/-- The system's part in a run that succeeds: the child starts and ends, and its figures are known and taken. -/
structure Succeeds (host : Host) (m : Measurement) : Prop where
  launch : ∃ pid, host.launch = .ok pid
  ending : ∃ status, host.ending = .ok status
  peak : host.peak = .ok m.peakKb
  elapsed : host.elapsed = m.elapsed
  sink : host.sink = .accepts

section Succeeding

variable {host : Command → Host} {env : Environment} {words : List Octets} {c : Command} {m : Measurement}
  (hwords : Command.ofWords words = .ok c) (h : Succeeds (host c) m)
include hwords h

theorem reports_run_of_succeeds : reports (run host env words).effects = [m] := by
  obtain ⟨pid, hlaunch⟩ := h.launch
  obtain ⟨status, hending⟩ := h.ending
  rw [reports_run_of_peak hwords hlaunch hending h.peak, h.elapsed]

/-- The sink gets the report, and nothing else. -/
theorem received_run_of_succeeds : (host c).sink.received (run host env words).effects = m.report := by
  rw [Sink.received_eq, reports_run_of_succeeds hwords h, h.sink]
  simp [Sink.takes]

theorem lines_stdout_run :
    lines (stdout (run host env words).effects) =
      ended (childOutput .stdout (run host env words).effects) ++
        [unfinished (childOutput .stdout (run host env words).effects) ++ m.timeLine] ++ [m.peakLine] := by
  obtain ⟨htime, hpeak⟩ := m.newline_notMem_lines
  rw [stdout_run_of_reports (reports_run_of_succeeds hwords h), m.encode_report, ← List.append_assoc,
    Lines.lines_append_lines _ htime hpeak, List.append_assoc, List.singleton_append]

/-- Where the child's last line is ended, the report has its own. -/
theorem lines_stdout_run_of_ended (hended : unfinished (childOutput .stdout (run host env words).effects) = []) :
    lines (stdout (run host env words).effects) =
      lines (childOutput .stdout (run host env words).effects) ++ [m.timeLine] ++ [m.peakLine] := by
  have hchild : lines (childOutput .stdout (run host env words).effects) =
      ended (childOutput .stdout (run host env words).effects) := if_pos hended
  rw [lines_stdout_run hwords h, hended, hchild, List.nil_append]

/-- The lines of the report end the output just where they have lines of their own. -/
theorem suffix_lines_stdout_run_iff :
    [m.timeLine, m.peakLine] <:+ lines (stdout (run host env words).effects) ↔
      unfinished (childOutput .stdout (run host env words).effects) = [] := by
  constructor
  · rintro ⟨front, hfront⟩
    rw [lines_stdout_run hwords h, List.append_assoc] at hfront
    obtain ⟨-, hlast⟩ := List.append_inj' hfront rfl
    exact List.append_left_eq_self.1 (List.cons.inj hlast).1.symm
  · intro hended
    rw [lines_stdout_run_of_ended hwords h hended, List.append_assoc]
    exact List.suffix_append _ _

end Succeeding

/-- **The summary after the child's output.**  A run that reports leaves on standard output the lines that the child
ended, then the line of the seconds, which goes on where the child's last line stopped, and last the line of the peak.
The two are lines of their own just if the child wrote nothing there or wrote a newline last.  A reader who looks for
the last line of the peak finds it whatever the child wrote.  After a newline, or nothing, one who looks for the last
line of the seconds finds it as well, and one who looks for the first lines of both kinds finds them if none of the
child's lines starts so. -/
theorem summary_after_child {host : Command → Host} {env : Environment} {words : List Octets} {c : Command}
    {m : Measurement} (hwords : Command.ofWords words = .ok c)
    (h : Succeeds (host c) m) :
    let child := childOutput .stdout (run host env words).effects
    let out := stdout (run host env words).effects
    out = child ++ Utf8.encode ((host c).sink.received (run host env words).effects) ∧
    lines out = ended child ++ [unfinished child ++ m.timeLine, m.peakLine] ∧
    ([m.timeLine, m.peakLine] <:+ lines out ↔ child = [] ∨ child.getLast? = some newline) ∧
    lastStarting peakStart (lines out) = some m.peakLine ∧
    (child = [] ∨ child.getLast? = some newline →
      lastStarting timeStart (lines out) = some m.timeLine ∧
      ((∀ l ∈ lines child, ¬timeStart <+: l) → firstStarting timeStart (lines out) = some m.timeLine) ∧
      ((∀ l ∈ lines child, ¬peakStart <+: l) → firstStarting peakStart (lines out) = some m.peakLine)) := by
  intro child out
  rw [← Lines.unfinished_eq_nil_iff]
  refine ⟨?_, ?_, suffix_lines_stdout_run_iff hwords h, ?_, ?_⟩
  · rw [received_run_of_succeeds hwords h]
    exact stdout_run_of_reports (reports_run_of_succeeds hwords h)
  · exact (lines_stdout_run hwords h).trans (List.append_assoc _ _ _)
  · rw [lines_stdout_run hwords h]
    exact m.lastStarting_peakLine _
  · intro hended
    rw [lines_stdout_run_of_ended hwords h hended]
    exact ⟨m.lastStarting_timeLine _, m.firstStarting_timeLine, m.firstStarting_peakLine⟩

/-- A child that writes a line of its own like the one of the seconds, in two pieces, and ends it: the summary stands on
lines of its own, and its figures are the last of their kinds. -/
theorem summary_after_child_imitated :
    let m : Measurement := ⟨.ofNanos 1500000000, 4096⟩
    let host : Host :=
      ⟨.ok 7, [.output .stdout (Utf8.encode "Time: "), .interrupt, .output .stdout (Utf8.encode "9.99999s\n")],
        .ok ⟨0⟩, m.elapsed, .ok m.peakKb, .accepts⟩
    let words : List Octets := [[], Utf8.encode "sh"]
    let out := stdout (run (fun _ => host) .empty words).effects
    [m.timeLine, m.peakLine] <:+ lines out ∧
    lastStarting timeStart (lines out) = some (Utf8.encode "Time: 1.50000s") ∧
    lastStarting peakStart (lines out) = some (Utf8.encode "Peak Memory: 4096 KB") := by
  intro m host words out
  have hmeasured : Succeeds host m := ⟨⟨7, rfl⟩, ⟨⟨0⟩, rfl⟩, rfl, rfl, rfl⟩
  have hended : (childOutput .stdout (run (fun _ => host) .empty words).effects).getLast? = some newline := by
    decide +kernel
  have htime : m.timeLine = Utf8.encode "Time: 1.50000s" := by decide +kernel
  have hpeak : m.peakLine = Utf8.encode "Peak Memory: 4096 KB" := by decide +kernel
  obtain ⟨-, -, hown, hlastPeak, hreader⟩ :=
    @summary_after_child (fun _ => host) .empty words ⟨Utf8.encode "sh", []⟩ m rfl hmeasured
  exact ⟨hown.2 (.inr hended), htime ▸ (hreader (.inr hended)).1, hpeak ▸ hlastPeak⟩

/-- A child that ends no line has the line of the seconds go on with its own, where no reader finds it; and one that
imitates that line has the first such line for its own. -/
theorem summary_shares_line :
    let m : Measurement := ⟨.zero, 4096⟩
    let host (written : String) : Host :=
      ⟨.ok 7, [.output .stdout (Utf8.encode written)], .ok ⟨0⟩, m.elapsed, .ok m.peakKb, .accepts⟩
    let words : List Octets := [Utf8.encode "bench_runner", Utf8.encode "printf", Utf8.encode "x"]
    let out (written : String) := stdout (run (fun _ => host written) .empty words).effects
    lines (out "x") = [Utf8.encode "xTime: 0.00000s", Utf8.encode "Peak Memory: 4096 KB"] ∧
    ¬[m.timeLine, m.peakLine] <:+ lines (out "x") ∧
    firstStarting timeStart (lines (out "x")) = none ∧
    firstStarting timeStart (lines (out "Time: 9.99999s\n")) = some (Utf8.encode "Time: 9.99999s") := by
  decide +kernel

end Runner
end RunMeter
