import RunMeter.Machine.Utility.Filing
import RunMeter.Machine.Utility.Listing

/-!
# RunMeter.Machine.Utility.Owning — programs about owners, room and names of files

* `chown`, `chgrp`: whose a file is.  The user of the machine can only leave that as it is.
* `install`, `mknod`: new files with permissions of their own.
* `du`: how much room files take.
* `pathchk`: whether paths can be given to files.

Nothing that is proved depends on this module.
-/

namespace RunMeter.Machine.Owning

open Paths

/-! ## Owners -/

/-- The number of a user or of a group by the name or number in a file of them. -/
def numberIn (file name : Raw) : Act (Option Nat) := do
  match Raw.natural? name with
  | some n => return some n
  | none =>
    match ← Call.contents file with
    | .error _ => return none
    | .ok text =>
      return (Raw.lines text).findSome? fun line =>
        match Raw.splitAt ':' line with
        | n :: _ :: number :: _ => if n = name then Raw.natural? number else none
        | _ => none

/-- The owner and the group that are asked for, and the word that asks. -/
structure Owner where
  user : Option Nat
  group : Option Nat
  shown : Raw

/-- What a change of owners is called. -/
def Owner.change (o : Owner) : String :=
  if o.user.isNone && o.group.isSome then "group" else "ownership"

/-- Whose a file is, by number. -/
def ownerOf (n : Node) : Nat := Listing.ownerNumber n

/-- Changes the owner of a file, or of all files in a directory too. -/
def changeOwner (c : Call) (g : Given) (o : Owner) : (fuel : Nat) → Raw → Act Bool
  | 0, _ => return false
  | fuel + 1, path => do
    match ← Act.node? path (!g.has "h") with
    | .error e =>
      if !g.has "f" then c.complain (cannot (if e = .noEntry && (← found? path false).isSome then "dereference" else "access") path e)
      return false
    | .ok (_, node) =>
      let own := node.ours && o.user.all (· = ownerOf node) && o.group.all (· = ownerOf node)
      let fine := own || (o.user.isNone && o.group.isNone)
      let inner ← if g.has "R" && node.isDirectory then do
          match ← namesIn path with
          | .ok names => names.mapM fun name => changeOwner c { g with switches := ("h", []) :: g.switches } o fuel (inside path name)
          | .error e =>
            c.complain (Raw.ofText "cannot read directory " ++ Raw.quoted path ++ Raw.ofText (": " ++ e.message))
            pure [false]
        else pure []
      if fine then
        if g.has "v" then
          c.emit (Raw.ofText (o.change ++ " of ") ++ Raw.quoted path ++ Raw.ofText " retained as " ++
            (if o.shown.isEmpty then Listing.ownerName node else o.shown) ++ ['\n']) 1
      else
        if !g.has "f" then
          c.complain (Raw.ofText ("changing " ++ o.change ++ " of ") ++ Raw.quoted path ++
            Raw.ofText (": " ++ Errno.notPermitted.message))
        if g.has "v" then
          c.emit (Raw.ofText ("failed to change " ++ o.change ++ " of ") ++ Raw.quoted path ++ Raw.ofText " from " ++
            Listing.ownerName node ++ Raw.ofText " to " ++ o.shown ++ ['\n']) 1
      return fine && inner.all id

/-- The switches for changes of owners. -/
def ownerSwitches : Switches :=
  ⟨"HLPRcfhv", [⟨"recursive", "R", .none⟩, ⟨"changes", "c", .none⟩, ⟨"dereference", "deref", .none⟩,
    ⟨"no-dereference", "h", .none⟩, ⟨"quiet", "f", .none⟩, ⟨"silent", "f", .none⟩, ⟨"verbose", "v", .none⟩,
    ⟨"reference", "ref", .required⟩, ⟨"from", "from", .required⟩, ⟨"preserve-root", "keep", .none⟩,
    ⟨"no-preserve-root", "root", .none⟩], false⟩

/-- The group that a word asks for; the program ends if there is none. -/
def groupOf (c : Call) (spec w : Raw) : Act (Option Nat) := do
  if w.isEmpty then return none
  else match ← numberIn "/etc/group".toList w with
    | some n => return some n
    | none => c.fail (Raw.ofText "invalid group: " ++ Raw.quoted spec) 1

/-- Changes the owners of files as `read` makes them of the first word. -/
def changing (read : Call → Raw → Act Owner) : Utility := fun c => do
  let g ← c.options ownerSwitches 1
  match g.value? "ref", g.operands with
  | some path, files =>
    if files.isEmpty then c.misused (Raw.ofText "missing operand") 1
    else match ← Act.node? path true with
    | .error e =>
      c.fail (Raw.ofText "failed to get attributes of " ++ Raw.quoted path ++ Raw.ofText (": " ++ e.message)) 1
    | .ok (_, node) =>
      each files (changeOwner c g ⟨some (ownerOf node), some (ownerOf node), Listing.ownerName node⟩ FileTree.maxPath)
  | none, [] => c.misused (Raw.ofText "missing operand") 1
  | none, [w] => c.misused (Raw.ofText "missing operand after " ++ Raw.quoted w) 1
  | none, w :: files => do
    let o ← read c w
    each files (changeOwner c g o FileTree.maxPath)

/-- Changes the owners of files. -/
def chown : Utility := changing fun c w => do
  let user := w.takeWhile (· != ':')
  let group := w.drop (user.length + 1)
  let number ← if user.isEmpty then pure none
    else match ← numberIn "/etc/passwd".toList user with
      | some n => pure (some n)
      | none => c.fail (Raw.ofText "invalid user: " ++ Raw.quoted w) 1
  return ⟨number, ← groupOf c w group, w⟩

/-- Changes the groups of files. -/
def chgrp : Utility := changing fun c w => do
  return ⟨none, ← groupOf c w w, w⟩

/-! ## New files -/

/-- Puts a copy of a file under a path, with permissions. -/
def installOne (c : Call) (g : Given) (mode : Nat) (source target : Raw) : Act Bool := do
  match ← Act.node? source true with
  | .error e =>
    c.complain (cannot "stat" source e)
    return false
  | .ok (number, node) =>
    if node.isDirectory then
      c.complain (Raw.ofText "omitting directory " ++ Raw.quoted source)
      return false
    let there ← Act.node? target true
    match there with
    | .ok (n, old) =>
      if old.isDirectory then
        c.complain (Raw.ofText "cannot overwrite directory " ++ Raw.quoted target ++ Raw.ofText " with non-directory")
        return false
      if n = number then
        c.complain (Raw.quoted source ++ Raw.ofText " and " ++ Raw.quoted target ++ Raw.ofText " are the same file")
        return false
      if g.has "b" || g.has "S" then
        let _ ← Act.tryChange fun pid k => k.move pid target (target ++ (g.value? "S").getD ['~'])
      else
        let _ ← Act.tryChange fun pid k => k.removeName pid target
    | .error _ => pure ()
    if g.has "v" then c.emit (Raw.quoted source ++ Raw.ofText " -> " ++ Raw.quoted target ++ ['\n']) 1
    let r : Filing.Copy := ⟨false, true, false, false, false, false, false, none, none⟩
    let done ← Filing.copyContents c r node source target false
    if done then
      let _ ← Act.tryChange fun pid k => k.setMode pid target mode
      if g.has "p" then
        let _ ← Act.tryChange fun pid k => k.setTime pid target node.changed
    return done

/-- Puts copies of files into places, or makes directories. -/
def install : Utility := fun c => do
  let g ← c.options ⟨"bcCdDg:m:o:pst:TS:v", [⟨"backup", "b", .optional⟩, ⟨"compare", "C", .none⟩,
    ⟨"directory", "d", .none⟩, ⟨"group", "g", .required⟩, ⟨"mode", "m", .required⟩, ⟨"owner", "o", .required⟩,
    ⟨"preserve-timestamps", "p", .none⟩, ⟨"strip", "s", .none⟩, ⟨"suffix", "S", .required⟩,
    ⟨"target-directory", "t", .required⟩, ⟨"no-target-directory", "T", .none⟩, ⟨"verbose", "v", .none⟩], false⟩ 1
  let mode ← match g.value? "m" with
    | none => pure 0o755
    | some w =>
      match Permissions.changed? 0 0 (g.has "d") w with
      | some n => pure n
      | none => c.fail (Raw.ofText "invalid mode " ++ Raw.quoted w) 1
  if g.has "d" then
    if g.operands.isEmpty then c.misused (Raw.ofText "missing file operand") 1
    else each g.operands fun path => do
      if (← found? path true).isSome && !(← isDirectory path) then
        c.complain (cannot "create directory" path .fileExists)
        return false
      let made ← Filing.makeAll c (g.has "v") (some mode) path
      if made then
        let _ ← Act.tryChange fun pid k => k.setMode pid path mode
      return made
  else
    if g.has "D" then
      let needed := match g.value? "t", g.operands with
        | some d, _ => some d
        | none, _ :: rest => (rest.getLast?).bind fun w =>
          let above := Raw.joined ['/'] (Raw.splitAt '/' w).dropLast
          if above.isEmpty then none else some above
        | none, [] => none
      match needed with
      | some d => if !(← isDirectory d) then let _ ← Filing.makeAll c false none d
      | none => pure ()
    let (sources, target) ← targets c g
    let all ← pairs c g sources target
    let results ← all.mapM fun (source, target) => installOne c g mode source target
    return if results.all id then 0 else 1

/-- Makes a pipe with a name; devices are not for the user of the machine. -/
def mknod : Utility := fun c => do
  let g ← c.options ⟨"m:Z", [⟨"mode", "m", .required⟩], false⟩ 1
  let mode ← modeOf c g 0o666 false
  let least := match g.operands with
    | [_, 'p' :: _] => 2
    | [_] | [] => 2
    | _ :: ('p' :: _) :: _ => 2
    | _ => 4
  if g.operands.length < least then
    match g.operands.getLast? with
    | none => c.misused (Raw.ofText "missing operand") 1
    | some w =>
      c.complain (Raw.ofText "missing operand after " ++ Raw.quoted w)
      if g.operands.length = 2 then
        let _ ← Act.write 2 (Raw.ofText "Special files require major and minor device numbers.\n")
      c.hint 1
  else if g.operands.length > least then
    c.misused (Raw.ofText "extra operand " ++ Raw.quoted (g.operands.getD least [])) 1
  else
    let path := g.operands.headD []
    match (g.operands.getD 1 []).head? with
    | some 'p' =>
      match ← Act.tryChange fun pid k => k.makeFifo pid path 0o666 with
      | some e => c.fail (Raw.displayed path ++ Raw.ofText (": " ++ e.message)) 1
      | none =>
        match mode with
        | some m => let _ ← Act.tryChange fun pid k => k.setMode pid path m
        | none => pure ()
        return 0
    | some 'b' | some 'c' | some 'u' =>
      let there := (← found? path false).isSome
      c.fail (Raw.displayed path ++ Raw.ofText (": " ++ (if there then Errno.fileExists else Errno.notPermitted).message)) 1
    | _ => c.misused (Raw.ofText "invalid device type " ++ Raw.quoted (g.operands.getD 1 [])) 1

/-! ## Room -/

/-- How sizes are counted and shown. -/
structure Scale where
  /-- Whether the lengths of files count in place of the room they take. -/
  apparent : Bool
  unit : Nat
  human : Bool
  mark : Char

/-- How much a file takes. -/
def Scale.sizeOf (s : Scale) (n : Node) : Nat :=
  if s.apparent then (if n.isDirectory then 4096 else n.size) else 512 * Listing.blocks n

/-- A line about a size and a path. -/
def Scale.line (s : Scale) (size : Nat) (path : Raw) : Raw :=
  (if s.human then Listing.humanSize size else Raw.ofNat ((size + s.unit - 1) / s.unit)) ++ '\t' :: path ++ [s.mark]

/-- What has been counted: lines, the last first, the files seen, and whether all could be read. -/
structure Count where
  lines : List Raw := []
  seen : List Nat := []
  fine : Bool := true

/-- Counts a file, or a directory with what is in it; gives the size of all of it. -/
def measure (c : Call) (s : Scale) (all : Bool) (most : Option Nat) :
    (fuel : Nat) → (depth : Nat) → (path : Raw) → Count → Act (Nat × Count)
  | 0, _, _, t => return (0, t)
  | fuel + 1, depth, path, t => do
    match ← Act.node? path false with
    | .error e =>
      c.complain (cannot "access" path e)
      return (0, { t with fine := false })
    | .ok (number, node) =>
      if t.seen.contains number then return (0, t)
      let t := { t with seen := number :: t.seen }
      let own := s.sizeOf node
      if !node.isDirectory then
        let shown := depth = 0 || (all && most.all (depth ≤ ·))
        return (own, if shown then { t with lines := s.line own path :: t.lines } else t)
      let names ← namesIn path
      let mut t := t
      let mut total := own
      match names with
      | .error e =>
        c.complain (Raw.ofText "cannot read directory " ++ Raw.quoted path ++ Raw.ofText (": " ++ e.message))
        t := { t with fine := false }
      | .ok names =>
        for name in names do
          let (size, after) ← measure c s all most fuel (depth + 1) (inside path name) t
          total := total + size
          t := after
      return (total, if most.all (depth ≤ ·) then { t with lines := s.line total path :: t.lines } else t)

/-- Tells how much room files take. -/
def du : Utility := fun c => do
  let g ← c.options ⟨"0abcd:DhHklLmPsSx", [⟨"all", "a", .none⟩, ⟨"apparent-size", "apparent", .none⟩,
    ⟨"bytes", "b", .none⟩, ⟨"total", "c", .none⟩, ⟨"max-depth", "d", .required⟩, ⟨"human-readable", "h", .none⟩,
    ⟨"summarize", "s", .none⟩, ⟨"null", "0", .none⟩, ⟨"dereference", "L", .none⟩, ⟨"separate-dirs", "S", .none⟩,
    ⟨"one-file-system", "x", .none⟩, ⟨"count-links", "l", .none⟩], false⟩ 1
  let depth ← match g.value? "d" with
    | none => pure none
    | some w =>
      match Raw.natural? w with
      | some n => pure (some n)
      | none => c.misused (Raw.ofText "invalid maximum depth " ++ Raw.quoted w) 1
  if g.has "a" && g.has "s" then c.misused (Raw.ofText "cannot both summarize and show all entries") 1
  let unit := match g.last? ["b", "k", "m", "h"] with
    | some "b" => 1
    | some "m" => 1048576
    | _ => 1024
  let s : Scale :=
    ⟨g.has "b" || g.has "apparent", unit, g.last? ["b", "k", "m", "h"] == some "h", if g.has "0" then '\x00' else '\n'⟩
  let mut t : Count := {}
  let mut total := 0
  for path in (if g.operands.isEmpty then [['.']] else g.operands) do
    let (size, after) ← measure c s (g.has "a") (if g.has "s" then some 0 else depth) FileTree.maxPath 0 path t
    total := total + size
    c.emit after.lines.reverse.flatten 1
    t := { after with lines := [] }
  if g.has "c" then c.emit (s.line total "total".toList) 1
  return if t.fine then 0 else 1

/-! ## Names -/

/-- What is wrong with a path as it stands. -/
def wrongName (g : Given) (path : Raw) : Option Raw :=
  let parts := (Raw.splitAt '/' path).filter (!·.isEmpty)
  let basic := g.has "p" || g.has "portability"
  let extra := g.has "P" || g.has "portability"
  let odd := path.find? fun ch => !(ch.isAlphanum || "._-/".toList.contains ch)
  if extra && parts.any fun w => w.head? = some '-' then
    some (Raw.ofText "leading '-' in a component of file name " ++ Raw.quoted path)
  else if (basic || extra) && path.isEmpty then some (Raw.ofText "empty file name")
  else if basic then
    match odd with
    | some ch =>
      some (Raw.ofText "non-portable character " ++ Raw.quoted [ch] ++ Raw.ofText " in file name " ++ Raw.quoted path)
    | none =>
      if path.length > 255 then
        some (Raw.ofText ("limit 255 exceeded by length " ++ toString path.length ++ " of file name ") ++ Raw.quoted path)
      else (parts.find? fun w => w.length > 14).map fun w =>
        Raw.ofText ("limit 14 exceeded by length " ++ toString w.length ++ " of file name component ") ++ Raw.quoted w
  else none

/-- Tells whether paths can be given to files. -/
def pathchk : Utility := fun c => do
  let g ← c.options ⟨"pP", [⟨"portability", "portability", .none⟩], true⟩ 1
  if g.operands.isEmpty then c.misused (Raw.ofText "missing operand") 1
  else each g.operands fun path => do
    match wrongName g path with
    | some message =>
      c.complain message
      return false
    | none =>
      if g.has "p" || g.has "portability" then return true
      let wrong ← Act.ask fun pid k => match k.find pid path false with
        | .error e => some e
        | .ok _ => none
      match wrong with
      | none => return true
      | some e =>
        if e = .noEntry && !path.isEmpty then return true
        else
          c.complain ((if path.isEmpty then Raw.quoted path else Raw.displayed path) ++ Raw.ofText (": " ++ e.message))
          return false

/-- The programs by name. -/
def programs : List (String × Utility) :=
  [("chown", chown), ("chgrp", chgrp), ("install", install), ("mknod", mknod), ("du", du), ("pathchk", pathchk)]

end RunMeter.Machine.Owning
