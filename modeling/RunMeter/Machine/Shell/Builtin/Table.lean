import RunMeter.Machine.Shell.Builtin.Flow
import RunMeter.Machine.Shell.Builtin.Input
import RunMeter.Machine.Shell.Builtin.Places
import RunMeter.Machine.Shell.Builtin.Processes

/-!
# RunMeter.Machine.Shell.Builtin.Table — the shell's own commands by name

Those that run other commands are with the evaluation.

Nothing that is proved depends on this module.
-/

namespace RunMeter.Machine.Shell.Builtin

/-- The commands of both dialects, other than those that run commands. -/
def table : List (String × Command) :=
  [(":", colon), ("true", yes), ("false", no), ("echo", echo), ("printf", printf), ("test", test false),
   ("[", test true), ("exit", exit), ("return", back), ("break", leave), ("continue", resume), ("shift", shift),
   ("cd", cd), ("pwd", pwd), ("export", publish), ("readonly", readonly), ("unset", unset), ("set", configure),
   ("trap", trap), ("kill", kill), ("read", read), ("local", own), ("umask", umask), ("times", times),
   ("alias", aliasing), ("unalias", unalias), ("ulimit", ulimit), ("jobs", jobs), ("getopts", getopts),
   ("wait", wait), ("fg", uncontrolled), ("bg", uncontrolled)]

/-- The commands of the plain dialect alone. -/
def plainTable : List (String × Command) := [("chdir", cd)]

/-- The commands of the extended dialect alone. -/
def extendedTable : List (String × Command) :=
  [("declare", declareNames), ("typeset", declareNames), ("let", compute), ("shopt", shopt), ("mapfile", mapfile),
   ("readarray", mapfile), ("pushd", pushd), ("popd", popd), ("dirs", dirs), ("disown", disown), ("enable", colon),
   ("history", colon), ("logout", exit), ("caller", no), ("help", no), ("complete", colon), ("compgen", no),
   ("bind", colon), ("suspend", no)]

/-- The commands that run commands, which the evaluation knows. -/
def runners : List String := ["eval", ".", "exec", "command", "type", "hash"]

/-- Those of the extended dialect. -/
def extendedRunners : List String := ["source", "builtin"] ++ runners

/-- The command with a name. -/
def named? (d : Dialect) (name : String) : Option Command :=
  let own := if d = .extended then extendedTable else plainTable
  ((own ++ table).find? fun e => e.1 == name).map Prod.snd

/-- Whether the shell does a command itself. -/
def isBuiltin (d : Dialect) (name : String) : Bool :=
  (if d = .extended then extendedRunners else runners).contains name || (named? d name).isSome

end RunMeter.Machine.Shell.Builtin
