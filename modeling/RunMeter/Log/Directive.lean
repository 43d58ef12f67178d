import RunMeter.Log.Filter

/-!
# RunMeter.Log.Directive — filters of levels and targets

One library of filters, with which the programs are run here.  It covers the directives that ask for a level and a
target; directives that name spans or fields it can not read.  No general theorem depends on it.

A directive allows events up to a level, of all targets or of those that start with a name.  Among the directives for an
event's target the one with the longest name decides, and of those the last.  An event that no directive is for is not
shown.  In a filter's text directives stand between commas: a level alone, a target alone (which allows everything) or
`target=level`.
-/

namespace RunMeter.Log

/-- One rule of a filter. -/
structure Directive where
  /-- The start of the targets that the directive is for. -/
  target : String
  /-- The greatest rank of level that it allows; nothing at 0. -/
  upTo : Nat

namespace Directive

/-- Whether the directive is for a target. -/
def covers (d : Directive) (target : String) : Bool :=
  d.target.toList.isPrefixOf target.toList

/-- The rank that a level's name or digit stands for. -/
def rank? (word : String) : Option Nat :=
  match String.ofList (word.toList.map Char.toLower) with
  | "off" | "0" => some 0
  | "error" | "1" => some 1
  | "warn" | "2" => some 2
  | "info" | "3" => some 3
  | "debug" | "4" => some 4
  | "trace" | "5" => some 5
  | _ => none

/-- A character of a target's name. -/
def isTargetChar (c : Char) : Bool :=
  c.isAlphanum || c == '_' || c == ':' || c == '-'

/-- A text that can name targets. -/
def isTarget (cs : List Char) : Bool :=
  !cs.isEmpty && cs.all isTargetChar

/-- The directive that a text denotes. -/
def ofText? (word : String) : Option Directive :=
  match rank? word with
  | some rank => some ⟨"", rank⟩
  | none =>
    let cs := word.toList
    let target := cs.takeWhile (· != '=')
    if !isTarget target then none
    else match cs.dropWhile (· != '=') with
      | _ :: level@(_ :: _) => (rank? (String.ofList level)).map fun rank => ⟨String.ofList target, rank⟩
      | _ => some ⟨String.ofList target, Level.trace.rank⟩

/-- Shows errors of every target and nothing else. -/
def errorsOnly : Directive := ⟨"", Level.error.rank⟩

/-- The texts between commas that are not empty. -/
def words (text : String) : List String :=
  ((text.toList.splitBy fun a b => a != ',' && b != ',').filter fun cs => !cs.contains ',').map String.ofList

/-- The directive that decides for a target. -/
def decisive? (ds : List Directive) (target : String) : Option Directive :=
  ds.foldl
    (fun best d =>
      if d.covers target && (best.all fun b => b.target.length ≤ d.target.length) then some d else best)
    none

/-- Whether some directives show events of a level and a target. -/
def shows (ds : List Directive) (level : Level) (target : String) : Bool :=
  match decisive? ds target with
  | some d => level.rank ≤ d.upTo
  | none => false

/-- The filter of some directives; without any it shows errors only. -/
def filter (ds : List Directive) (notices : List String) : Filter :=
  let ds := if ds.isEmpty then [errorsOnly] else ds
  ⟨fun e => shows ds e.level e.target, notices⟩

/-- The line about a text that is no directive.  Its words are the library's affair; nothing depends on them. -/
def notice (word : String) : String :=
  "ignoring `" ++ word ++ "`: invalid filter directive"

/-- The library of levels and targets. -/
def library : Library where
  strict? text :=
    let ds := (words text).map ofText?
    if ds.all Option.isSome then some (filter (ds.filterMap id) []) else none
  lenient text :=
    filter ((words text).filterMap ofText?) (((words text).filter fun word => (ofText? word).isNone).map notice)

/-- The library's filters ask for nothing but the level and the target of an event. -/
theorem filter_goesBy (ds : List Directive) (notices : List String) :
    (filter ds notices).GoesBy (shows (if ds.isEmpty then [errorsOnly] else ds)) :=
  ⟨fun _ => rfl⟩

end Directive
end RunMeter.Log
