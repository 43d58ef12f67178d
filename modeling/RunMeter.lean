import RunMeter.Checked
import RunMeter.Effect
import RunMeter.Host
import RunMeter.Log.Directive
import RunMeter.Log.Event
import RunMeter.Log.Filter
import RunMeter.Machine.Calendar
import RunMeter.Machine.Digest
import RunMeter.Machine.FileTree
import RunMeter.Machine.FileTree.Layout
import RunMeter.Machine.Format
import RunMeter.Machine.Kernel
import RunMeter.Machine.Kernel.Files
import RunMeter.Machine.Kernel.Signals
import RunMeter.Machine.Kernel.Streams
import RunMeter.Machine.Launch
import RunMeter.Machine.Permissions
import RunMeter.Machine.Program
import RunMeter.Machine.Programs
import RunMeter.Machine.Raw
import RunMeter.Machine.Regex
import RunMeter.Machine.Regex.Ordered
import RunMeter.Machine.Scheduler
import RunMeter.Machine.Shell.Arithmetic
import RunMeter.Machine.Shell.Arithmetic.Basic
import RunMeter.Machine.Shell.Arithmetic.Extended
import RunMeter.Machine.Shell.Arithmetic.Plain
import RunMeter.Machine.Shell.Bracketed
import RunMeter.Machine.Shell.Builtin.Basic
import RunMeter.Machine.Shell.Builtin.Flow
import RunMeter.Machine.Shell.Builtin.Input
import RunMeter.Machine.Shell.Builtin.Places
import RunMeter.Machine.Shell.Builtin.Processes
import RunMeter.Machine.Shell.Builtin.Table
import RunMeter.Machine.Shell.Builtin.Variables
import RunMeter.Machine.Shell.Commands
import RunMeter.Machine.Shell.Conditional
import RunMeter.Machine.Shell.Copies
import RunMeter.Machine.Shell.Evaluation
import RunMeter.Machine.Shell.Expansion
import RunMeter.Machine.Shell.Jobs
import RunMeter.Machine.Shell.Nesting
import RunMeter.Machine.Shell.Parameter
import RunMeter.Machine.Shell.Pattern
import RunMeter.Machine.Shell.Redirect
import RunMeter.Machine.Shell.Script
import RunMeter.Machine.Shell.Signals
import RunMeter.Machine.Shell.Source
import RunMeter.Machine.Shell.Start
import RunMeter.Machine.Shell.State
import RunMeter.Machine.Shell.Token
import RunMeter.Machine.Trial
import RunMeter.Machine.Utility.Amounts
import RunMeter.Machine.Utility.Awk
import RunMeter.Machine.Utility.Awk.Evaluation
import RunMeter.Machine.Utility.Awk.Program
import RunMeter.Machine.Utility.Awk.Reading
import RunMeter.Machine.Utility.Awk.State
import RunMeter.Machine.Utility.Awk.Value
import RunMeter.Machine.Utility.Bases
import RunMeter.Machine.Utility.Blocks
import RunMeter.Machine.Utility.Call
import RunMeter.Machine.Utility.CharacterSets
import RunMeter.Machine.Utility.Columns
import RunMeter.Machine.Utility.Condition
import RunMeter.Machine.Utility.Copying
import RunMeter.Machine.Utility.Digests
import RunMeter.Machine.Utility.Editing
import RunMeter.Machine.Utility.Editing.Script
import RunMeter.Machine.Utility.Expression
import RunMeter.Machine.Utility.Filing
import RunMeter.Machine.Utility.Finding
import RunMeter.Machine.Utility.Joining
import RunMeter.Machine.Utility.Listing
import RunMeter.Machine.Utility.Measuring
import RunMeter.Machine.Utility.Notice
import RunMeter.Machine.Utility.Owning
import RunMeter.Machine.Utility.Paragraphs
import RunMeter.Machine.Utility.Paths
import RunMeter.Machine.Utility.Perl
import RunMeter.Machine.Utility.Perl.Assigning
import RunMeter.Machine.Utility.Perl.Calling
import RunMeter.Machine.Utility.Perl.Evaluation
import RunMeter.Machine.Utility.Perl.Functions
import RunMeter.Machine.Utility.Perl.Grammar
import RunMeter.Machine.Utility.Perl.Library
import RunMeter.Machine.Utility.Perl.Matching
import RunMeter.Machine.Utility.Perl.Place
import RunMeter.Machine.Utility.Perl.Program
import RunMeter.Machine.Utility.Perl.Reading
import RunMeter.Machine.Utility.Perl.State
import RunMeter.Machine.Utility.Perl.Statements
import RunMeter.Machine.Utility.Perl.System
import RunMeter.Machine.Utility.Perl.Terms
import RunMeter.Machine.Utility.Perl.Texts
import RunMeter.Machine.Utility.Perl.Value
import RunMeter.Machine.Utility.Perl.Variables
import RunMeter.Machine.Utility.Perl.Words
import RunMeter.Machine.Utility.Piece
import RunMeter.Machine.Utility.Printing
import RunMeter.Machine.Utility.Python
import RunMeter.Machine.Utility.Python.Evaluation
import RunMeter.Machine.Utility.Python.Library
import RunMeter.Machine.Utility.Python.Names
import RunMeter.Machine.Utility.Python.Operators
import RunMeter.Machine.Utility.Python.Parts
import RunMeter.Machine.Utility.Python.Processes
import RunMeter.Machine.Utility.Python.Program
import RunMeter.Machine.Utility.Python.Reading
import RunMeter.Machine.Utility.Python.Sequences
import RunMeter.Machine.Utility.Python.State
import RunMeter.Machine.Utility.Python.System
import RunMeter.Machine.Utility.Python.Token
import RunMeter.Machine.Utility.Python.Value
import RunMeter.Machine.Utility.Searching
import RunMeter.Machine.Utility.Sorting
import RunMeter.Machine.Utility.Sources
import RunMeter.Machine.Utility.Splitting
import RunMeter.Machine.Utility.Starting
import RunMeter.Machine.Utility.Switching
import RunMeter.Machine.Utility.System
import RunMeter.Machine.Utility.Words
import RunMeter.Main
import RunMeter.Measurement
import RunMeter.Outcome
import RunMeter.Proofs.Checked.Operation
import RunMeter.Proofs.Checked.Repetition
import RunMeter.Proofs.Log.Separation
import RunMeter.Proofs.Measurement.Report
import RunMeter.Proofs.Outcome.Decoding
import RunMeter.Proofs.Outcome.Description
import RunMeter.Proofs.Outcome.Status
import RunMeter.Proofs.Runner.ExitCode
import RunMeter.Proofs.Runner.Interrupts
import RunMeter.Proofs.Runner.Launches
import RunMeter.Proofs.Runner.Output
import RunMeter.Proofs.Runner.Summary
import RunMeter.Proofs.Runner.Trace
import RunMeter.Proofs.Runner.Waiting
import RunMeter.Proofs.Settings.Image
import RunMeter.Proofs.Settings.Reading
import RunMeter.Proofs.Settings.Schema
import RunMeter.Proofs.Settings.SignalPolicy
import RunMeter.Proofs.Text.Decimal
import RunMeter.Proofs.Text.Letter
import RunMeter.Proofs.Text.Utf8
import RunMeter.Proofs.Time.Duration
import RunMeter.Proofs.Workload.CallTree
import RunMeter.Proofs.Workload.Descent
import RunMeter.Proofs.Workload.Fibonacci
import RunMeter.Proofs.Workload.Label
import RunMeter.Proofs.Workload.Loops
import RunMeter.Proofs.Workload.StackDive
import RunMeter.Proofs.Workload.StackSize
import RunMeter.Proofs.Workload.Stress
import RunMeter.Proofs.Workload.Turns
import RunMeter.RunError
import RunMeter.Runner
import RunMeter.Settings.Reading
import RunMeter.Settings.Runner
import RunMeter.Settings.Workload
import RunMeter.SignalPolicy
import RunMeter.System.Command
import RunMeter.System.Environment
import RunMeter.System.Errno
import RunMeter.System.IoError
import RunMeter.System.Signal
import RunMeter.System.WaitStatus
import RunMeter.Text.Blank
import RunMeter.Text.Decimal
import RunMeter.Text.Printable
import RunMeter.Text.Quoted
import RunMeter.Text.Utf8
import RunMeter.Time.Duration
import RunMeter.Time.Rounding
import RunMeter.Workload
import RunMeter.Workload.Fibonacci
import RunMeter.Workload.Label
import RunMeter.Workload.Loops
import RunMeter.Workload.StackDive
