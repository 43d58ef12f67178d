import RunMeter.Machine.Permissions
import RunMeter.Machine.Utility.Call

/-!
# RunMeter.Machine.Utility.Paths — paths of files, and complaints about them

What the programs that list and change files have in common: parts of paths, permissions for new files, and the
forms of their complaints.

Nothing that is proved depends on this module.
-/

namespace RunMeter.Machine.Paths

/-- The last part of a path. -/
def lastName (path : Raw) : Raw :=
  let bare := Raw.dropEndWhile (· == '/') path
  if bare.isEmpty then path.take 1 else ((Raw.splitAt '/' bare).getLast?).getD []

/-- A name in a directory. -/
def inside (directory name : Raw) : Raw :=
  if directory.getLast? = some '/' then directory ++ name else directory ++ '/' :: name

/-- A complaint about what can not be done with a file. -/
def cannot (what : String) (path : Raw) (e : Errno) : Raw :=
  Raw.ofText ("cannot " ++ what ++ " ") ++ Raw.quoted path ++ Raw.ofText (": " ++ e.message)

/-- Whether two paths lead to one node. -/
def same (a b : Raw) : Act Bool :=
  Act.ask fun pid k =>
    match k.find pid a true, k.find pid b true with
    | .ok n, .ok m => n = m
    | _, _ => false

/-- Whether a path leads to a directory. -/
def isDirectory (path : Raw) : Act Bool :=
  Act.ask fun pid k =>
    match k.find pid path true with
    | .ok n => (k.files.node n).isDirectory
    | .error _ => false

/-- The node that a path leads to, if it does. -/
def found? (path : Raw) (follow : Bool) : Act (Option Node) :=
  Act.ask fun pid k => ((k.find pid path follow).toOption).map k.files.node

/-- The names in a directory, those that were given last first. -/
def namesIn (path : Raw) : Act (Except Errno (List Raw)) :=
  Act.ask fun pid k =>
    match k.find pid path true with
    | .error e => .error e
    | .ok n =>
      let node := k.files.node n
      if !node.isDirectory then .error .notDirectory
      else if !node.allows 4 then .error .access
      else .ok (((k.files.names n).map Prod.fst).reverse)

/-- Changes something about a path; complains if that can not be done, and tells if it could. -/
def doing (c : Call) (change : Pid → Kernel → Except Errno Kernel) (message : Errno → Raw) : Act Bool := do
  match ← Act.tryChange change with
  | none => return true
  | some e =>
    c.complain (message e)
    return false

/-- Does something with each path; the exit code says whether all of it worked. -/
def each (paths : List Raw) (f : Raw → Act Bool) : Act UInt8 := do
  let results ← paths.mapM f
  return if results.all id then 0 else 1

/-- Asks on standard error; tells if the answer on standard input is a yes. -/
def agreed (c : Call) (question : Raw) : Act Bool := do
  let _ ← Act.write 2 (c.name ++ Raw.ofText ": " ++ question ++ Raw.ofText "? ")
  match ← Act.readLineWithin 0 100000 [] with
  | .ok (a :: _) => return a = 'y' || a = 'Y'
  | _ => return false

/-- Whether something may be done: it may if nothing is asked, and if the answer is a yes. -/
def allowed (c : Call) (asks : Bool) (question : Raw) : Act Bool :=
  if asks then agreed c question else return true

/-- The permissions that a word asks for instead of the usual ones; the program ends if it asks for none. -/
def modeOf (c : Call) (g : Given) (usual : Nat) (isDirectory : Bool) : Act (Option Nat) := do
  match g.value? "m" with
  | none => return none
  | some w =>
    let mask := (← Act.task).mask
    match Permissions.changed? mask usual isDirectory w with
    | some mode => return some mode
    | none => c.fail (Raw.ofText "invalid mode " ++ Raw.quoted w) 1

/-- What a file is, in words. -/
def kindOf (n : Node) : String :=
  match n.body with
  | .directory .. => "directory"
  | .file [] => "regular empty file"
  | .file _ | .program _ => "regular file"
  | .link _ | .descriptor _ => "symbolic link"
  | .device _ => "character special file"
  | .fifo _ => "fifo"

/-- The operands of a program and the directory or file that they go to; the program ends if some are missing. -/
def targets (c : Call) (g : Given) : Act (List Raw × Raw) := do
  match g.value? "t" with
  | some directory =>
    if g.operands.isEmpty then c.misused (Raw.ofText "missing file operand") 1
    else return (g.operands, directory)
  | none =>
    match g.operands with
    | [] => c.misused (Raw.ofText "missing file operand") 1
    | [a] => c.misused (Raw.ofText "missing destination file operand after " ++ Raw.quoted a) 1
    | ws => return (ws.dropLast, (ws.getLast?).getD [])

/-- Each source with the path that it goes to: one in the target if that is a directory, or the target itself.  The
program ends if there are several and the target is no directory. -/
def pairs (c : Call) (g : Given) (sources : List Raw) (target : Raw) : Act (List (Raw × Raw)) := do
  let into ← isDirectory target
  if g.has "T" then
    match sources with
    | [_] => return sources.map fun s => (s, target)
    | _ => c.misused (Raw.ofText "extra operand " ++ Raw.quoted ((sources ++ [target]).getD 2 [])) 1
  else if into then return sources.map fun s => (s, inside target (lastName s))
  else if sources.length > 1 || g.has "t" then
    let e ← Act.ask fun pid k =>
      match k.find pid target true with
      | .ok _ => Errno.notDirectory
      | .error e => e
    c.fail (Raw.ofText "target " ++ Raw.quoted target ++ Raw.ofText (": " ++ e.message)) 1
  else return sources.map fun s => (s, target)

end RunMeter.Machine.Paths
