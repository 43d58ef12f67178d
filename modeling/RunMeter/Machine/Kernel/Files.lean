import RunMeter.Machine.Kernel.Streams

/-!
# RunMeter.Machine.Kernel.Files — what a process does with paths

Each operation says by an error number why it can not be done: the path does not lead there, the user of the
machine may not do it, or the file is of the wrong kind.

Nothing that is proved depends on this module.
-/

namespace RunMeter.Machine

/-- How a file is opened. -/
structure OpenMode where
  readable : Bool
  writable : Bool
  create : Bool
  exclusive : Bool
  truncate : Bool
  append : Bool

namespace OpenMode

/-- For reading. -/
def reading : OpenMode := ⟨true, false, false, false, false, false⟩

/-- For writing from the start, in a new file if there is none. -/
def writing : OpenMode := ⟨false, true, true, false, true, false⟩

/-- For writing at the end. -/
def appending : OpenMode := ⟨false, true, true, false, false, true⟩

/-- For reading and writing. -/
def updating : OpenMode := ⟨true, true, true, false, false, false⟩

/-- For writing in a new file only. -/
def fresh : OpenMode := ⟨false, true, true, true, false, false⟩

end OpenMode

namespace Kernel

/-- Where a path leads for a process. -/
def locate (k : Kernel) (pid : Pid) (path : Raw) (follow : Bool) : Except Errno Spot :=
  k.files.locate (k.task pid).cwd path follow

/-- The node that a path leads to for a process. -/
def find (k : Kernel) (pid : Pid) (path : Raw) (follow : Bool) : Except Errno Nat :=
  k.files.find (k.task pid).cwd path follow

/-- Whether names in a directory may be given and taken. -/
def mayRename (k : Kernel) (directory : Nat) : Bool :=
  let d := k.files.node directory
  d.allows 2 && d.allows 1

/-- A new node of the user's under a name. -/
def create (k : Kernel) (pid : Pid) (spot : Spot) (mode : Nat) (body : Body) : Kernel × Nat :=
  let mode := mode - (mode &&& (k.task pid).mask)
  let (files, n) := k.files.create k.now spot.directory spot.name ⟨mode, true, k.now, body⟩
  ({ k with files := files }, n)

/-- A process with a descriptor leading to a node. -/
def openNode (k : Kernel) (pid : Pid) (n : Nat) (m : OpenMode) (least : Nat) (closing : Bool) :
    Reaction (Except Errno Nat) :=
  let node := k.files.node n
  let opened (k : Kernel) (c : Channel) : Reaction (Except Errno Nat) :=
    let (k, fd) := k.openChannel pid least closing c
    .done k (.ok fd)
  let fail (e : Errno) : Reaction (Except Errno Nat) := .done k (.error e)
  if (m.readable && !node.allows 4) || (m.writable && !node.allows 2) then
    fail (if node.isDirectory && m.writable then .isDirectory else .access)
  else match node.body with
    | .directory .. => if m.writable then fail .isDirectory else opened k (.directory n)
    | .file _ =>
      let k := if m.truncate then k.onFiles fun t => t.change n fun f => { f with changed := k.now, body := .file [] }
        else k
      opened k (.file n 0 m.append m.readable m.writable)
    | .program _ => opened k (.file n 0 m.append m.readable false)
    | .link _ => fail .loop
    | .device .terminal => fail .noDevice
    | .device which => opened k (.device which m.readable m.writable)
    | .fifo p =>
      let pipe := k.pipe p
      if m.writable then
        if m.readable || k.hasEnd p false then
          opened (k.setPipe p { pipe with awaited := false }) (.pipe p m.readable true)
        else .wait none
      else opened (k.setPipe p { pipe with awaited := pipe.awaited || !k.hasEnd p true }) (.pipe p true false)
    | .descriptor fd =>
      match k.channelOf? pid fd with
      | none => fail .noEntry
      | some c =>
        match k.channel c with
        | .file n _ _ _ _ =>
          let k := if m.truncate then k.onFiles fun t => t.change n fun f => { f with body := .file [] } else k
          opened k (.file n 0 m.append m.readable m.writable)
        | .pipe n _ _ => opened k (.pipe n m.readable m.writable)
        | other => opened k other

/-- A process with a descriptor, the first from `least` on, leading to the file of a path. -/
def openPath (k : Kernel) (pid : Pid) (path : Raw) (m : OpenMode) (mode : Nat) (least : Nat) (closing : Bool) :
    Reaction (Except Errno Nat) :=
  match k.locate pid path (!m.exclusive) with
  | .error e => .done k (.error e)
  | .ok spot =>
    match spot.node with
    | some n =>
      if m.create && m.exclusive then .done k (.error .fileExists)
      else k.openNode pid n m least closing
    | none =>
      if !m.create then .done k (.error .noEntry)
      else if spot.slash then .done k (.error .isDirectory)
      else if !k.mayRename spot.directory then .done k (.error .access)
      else
        let (k, n) := k.create pid spot mode (.file [])
        let (k, fd) := k.openChannel pid least closing (.file n 0 m.append m.readable m.writable)
        .done k (.ok fd)

/-- The kernel with something new under a path where nothing is yet. -/
def make (k : Kernel) (pid : Pid) (path : Raw) (mode : Nat) (body : Kernel → Spot → Kernel × Body) :
    Except Errno Kernel :=
  match k.locate pid path false with
  | .error e => .error e
  | .ok spot =>
    if spot.node.isSome then .error .fileExists
    else
      let (k, made) := body k spot
      let isDirectory := match made with
        | .directory .. => true
        | _ => false
      if spot.slash && !isDirectory then .error .noEntry
      else if !k.mayRename spot.directory then .error .access
      else .ok (k.create pid spot mode made).1

/-- Makes a directory. -/
def makeDirectory (k : Kernel) (pid : Pid) (path : Raw) (mode : Nat) : Except Errno Kernel :=
  k.make pid path mode fun k spot => (k, .directory spot.directory [])

/-- Makes a link to a path.  Links have all permissions. -/
def makeLink (k : Kernel) (pid : Pid) (target path : Raw) : Except Errno Kernel :=
  if target.isEmpty then .error .noEntry
  else
    let bare := k.onTask pid fun t => { t with mask := 0 }
    (bare.make pid path 0o777 fun k _ => (k, .link target)).map fun made =>
      made.onTask pid fun t => { t with mask := (k.task pid).mask }

/-- Makes a pipe with a name. -/
def makeFifo (k : Kernel) (pid : Pid) (path : Raw) (mode : Nat) : Except Errno Kernel :=
  k.make pid path mode fun k _ =>
    let (k, n) := k.addPipe
    (k, .fifo n)

/-- Gives a node another name. -/
def addName (k : Kernel) (pid : Pid) (old new : Raw) : Except Errno Kernel := do
  let n ← k.find pid old false
  let spot ← k.locate pid new false
  if spot.node.isSome then throw .fileExists
  if (k.files.node n).isDirectory then throw .notPermitted
  if spot.slash then throw .noEntry
  if !k.mayRename spot.directory then throw .access
  return k.onFiles fun t => t.attach k.now spot.directory spot.name n

/-- Takes a name from a node that is no directory. -/
def removeName (k : Kernel) (pid : Pid) (path : Raw) : Except Errno Kernel := do
  let spot ← k.locate pid path false
  let n ← match spot.node with
    | some n => pure n
    | none => throw .noEntry
  if spot.name.isEmpty then throw .isDirectory
  if !k.mayRename spot.directory then throw .access
  if (k.files.node n).isDirectory then throw .isDirectory
  return k.onFiles fun t => t.detach k.now spot.directory spot.name

/-- Removes an empty directory. -/
def removeDirectory (k : Kernel) (pid : Pid) (path : Raw) : Except Errno Kernel := do
  let spot ← k.locate pid path false
  let n ← match spot.node with
    | some n => pure n
    | none => throw .noEntry
  if !(k.files.node n).isDirectory then throw .notDirectory
  let shown := Raw.dropEndWhile (· == '/') path
  if shown = ['.'] || ['/', '.'].isSuffixOf shown then throw .invalid
  if shown = ['.', '.'] || ['/', '.', '.'].isSuffixOf shown then throw .notEmpty
  if spot.name.isEmpty then throw .busy
  if !k.mayRename spot.directory then throw .access
  if !(k.files.names n).isEmpty then throw .notEmpty
  return k.onFiles fun t => t.detach k.now spot.directory spot.name

/-- Whether a directory is another or stands somewhere above it. -/
def isAbove (t : FileTree) (upper : Nat) : (fuel : Nat) → (n : Nat) → Bool
  | 0, _ => false
  | fuel + 1, n => n = upper || (n != FileTree.root && isAbove t upper fuel (t.parent n))

/-- Gives a node a name in place of its old one, and in place of what had the new one. -/
def move (k : Kernel) (pid : Pid) (old new : Raw) : Except Errno Kernel := do
  let source ← k.locate pid old false
  let n ← match source.node with
    | some n => pure n
    | none => throw .noEntry
  let target ← k.locate pid new false
  if source.name.isEmpty || (target.name.isEmpty && target.node.isSome) then throw .busy
  if !(k.mayRename source.directory && k.mayRename target.directory) then throw .access
  let moving := k.files.node n
  if moving.isDirectory && isAbove k.files n FileTree.maxPath target.directory then throw .invalid
  match target.node with
  | some there =>
    if there = n then return k
    let other := k.files.node there
    if other.isDirectory && !moving.isDirectory then throw .isDirectory
    if moving.isDirectory && !other.isDirectory then throw .notDirectory
    if other.isDirectory && !(k.files.names there).isEmpty then throw .notEmpty
  | none => if target.slash && !moving.isDirectory then throw .notDirectory
  return k.onFiles fun t =>
    let t := (t.detach k.now source.directory source.name).attach k.now target.directory target.name n
    t.change n fun f =>
      match f.body with
      | .directory _ names => { f with body := .directory target.directory names }
      | _ => f

/-- Changes the permissions of a file. -/
def setMode (k : Kernel) (pid : Pid) (path : Raw) (mode : Nat) : Except Errno Kernel := do
  let n ← k.find pid path true
  if !(k.files.node n).ours then throw .notPermitted
  return k.onFiles fun t => t.change n fun f => { f with mode := mode &&& 0o7777 }

/-- Says when a file was changed. -/
def setTime (k : Kernel) (pid : Pid) (path : Raw) (time : Instant) : Except Errno Kernel := do
  let n ← k.find pid path true
  if !(k.files.node n).ours then throw .notPermitted
  return k.onFiles fun t => t.change n fun f => { f with changed := time }

/-- Cuts a file off, or fills it up with zero octets. -/
def setSize (k : Kernel) (pid : Pid) (path : Raw) (size : Nat) : Except Errno Kernel := do
  let n ← k.find pid path true
  let node := k.files.node n
  match node.body with
  | .file contents =>
    if !node.allows 2 then throw .access
    let contents := contents.take size ++ List.replicate (size - contents.length) '\x00'
    return k.onFiles fun t => t.change n fun f => { f with changed := k.now, body := .file contents }
  | .directory .. => throw .isDirectory
  | _ => throw .invalid

/-- The target of a link. -/
def readLink (k : Kernel) (pid : Pid) (path : Raw) : Except Errno Raw := do
  match (k.files.node (← k.find pid path false)).body with
  | .link target => return target
  | _ => throw .invalid

/-- A process in another directory. -/
def enter (k : Kernel) (pid : Pid) (path : Raw) : Except Errno Kernel := do
  let n ← k.find pid path true
  let node := k.files.node n
  if !node.isDirectory then throw .notDirectory
  if !node.allows 1 then throw .access
  return k.onTask pid fun t => { t with cwd := n }

end Kernel
end RunMeter.Machine
