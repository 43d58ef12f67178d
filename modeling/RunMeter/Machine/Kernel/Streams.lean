import RunMeter.Machine.Kernel.Signals

/-!
# RunMeter.Machine.Kernel.Streams — descriptors and what goes through them

A descriptor leads to a channel, which processes share after a fork.  Reading an empty pipe waits as long as
some process can write to it; writing to a full one waits as long as some process can read it, and a pipe that
none can read is broken.

* `connect`, `close`, `addPipe`: descriptors.
* `read`, `write`: octets through a descriptor.

Nothing that is proved depends on this module.
-/

namespace RunMeter.Machine.Kernel

/-- A process with a descriptor leading to a channel. -/
def connect (k : Kernel) (pid : Pid) (fd : Nat) (slot : Slot) : Kernel :=
  k.onTask pid fun t => { t with fds := (fd, slot) :: t.fds.filter fun e => e.1 != fd }

/-- A process with a descriptor closed. -/
def close (k : Kernel) (pid : Pid) (fd : Nat) : Kernel :=
  k.onTask pid fun t => { t with fds := t.fds.filter fun e => e.1 != fd }

/-- The first descriptor from `least` on that a process does not use. -/
def freeFd (k : Kernel) (pid : Pid) (least : Nat) : Nat :=
  let used := (k.task pid).fds.map Prod.fst
  ((List.range (used.length + 1)).find? fun i => !used.contains (least + i)).getD 0 + least

/-- A new channel, by its number.  The number of a channel that no process uses is given again. -/
def addChannel (k : Kernel) (c : Channel) : Kernel × Nat :=
  let used (n : Nat) : Bool := k.tasks.any fun t => t.fds.any fun e => e.2.channel = n
  match (List.range k.channels.size).find? fun n => !used n with
  | some n => (k.setChannel n c, n)
  | none => ({ k with channels := k.channels.push c }, k.channels.size)

/-- A descriptor of a process leading to a new channel. -/
def openChannel (k : Kernel) (pid : Pid) (least : Nat) (closing : Bool) (c : Channel) : Kernel × Nat :=
  let (k, n) := k.addChannel c
  let fd := k.freeFd pid least
  (k.connect pid fd ⟨n, closing⟩, fd)

/-- Whether some process has an end of a pipe. -/
def hasEnd (k : Kernel) (pipe : Nat) (writing : Bool) : Bool :=
  k.tasks.any fun t => t.fds.any fun e =>
    match k.channel e.2.channel with
    | .pipe n readable writable => n = pipe && (if writing then writable else readable)
    | _ => false

/-- A new pipe, by its number.  That of a pipe without ends is given again, unless it has a name. -/
def addPipe (k : Kernel) : Kernel × Nat :=
  ({ k with pipes := k.pipes.push (.holding []) }, k.pipes.size)

/-- A process with both ends of a new pipe: the descriptors for reading and for writing. -/
def openPipe (k : Kernel) (pid : Pid) : Kernel × Nat × Nat :=
  let (k, n) := k.addPipe
  let (k, readFd) := k.openChannel pid 0 false (.pipe n true false)
  let (k, writeFd) := k.openChannel pid 0 false (.pipe n false true)
  (k, readFd, writeFd)

/-- The pipe with a number. -/
def pipe (k : Kernel) (n : Nat) : Pipe :=
  k.pipes.getD n (.holding [])

/-- Puts a pipe in the place of another. -/
def setPipe (k : Kernel) (n : Nat) (p : Pipe) : Kernel :=
  { k with pipes := k.pipes.setIfInBounds n p }

/-- Octets without order. -/
def disorder (seed count : Nat) : Raw :=
  ((List.range count).foldl (fun (s, r) _ =>
    let s := (s * 6364136223846793005 + 1442695040888963407) % 18446744073709551616
    (s, Char.ofNat (s / 72057594037927936) :: r)) (seed, ([] : Raw))).2

/-- Reads so many octets at most; none at the end. -/
def read (k : Kernel) (pid : Pid) (fd most : Nat) : Reaction (Except Errno Raw) :=
  match k.channelOf? pid fd with
  | none => .done k (.error .badDescriptor)
  | some c =>
    match k.channel c with
    | .shared _ => .done k (.error .badDescriptor)
    | .directory _ => .done k (.error .isDirectory)
    | .device _ false _ | .file _ _ _ false _ | .pipe _ false _ => .done k (.error .badDescriptor)
    | .device which true _ =>
      match which with
      | .zero | .full => .done k (.ok (List.replicate most '\x00'))
      | .random => .done { k with now := k.now + 1 } (.ok (disorder (k.now + pid) most))
      | _ => .done k (.ok [])
    | .file n offset append true writable =>
      match (k.files.node n).body with
      | .file contents =>
        let got := (contents.drop offset).take most
        .done (k.setChannel c (.file n (offset + got.length) append true writable)) (.ok got)
      | .program _ =>
        let got := (Node.programText.drop offset).take most
        .done (k.setChannel c (.file n (offset + got.length) append true writable)) (.ok got)
      | _ => .done k (.ok [])
    | .pipe n true _ =>
      let p := k.pipe n
      if p.size > 0 then
        let (got, p) := p.take most
        .done (k.setPipe n p) (.ok got)
      else if p.awaited || k.hasEnd n true then .wait none
      else .done k (.ok [])

/-- The contents of a file with octets put in at an offset. -/
def overwritten (contents : Raw) (offset : Nat) (octets : Raw) : Raw :=
  if offset = contents.length then contents ++ octets
  else contents.take offset ++ List.replicate (offset - contents.length) '\x00' ++ octets ++
    contents.drop (offset + octets.length)

/-- Writes octets, at least one; gives how many. -/
def write (k : Kernel) (pid : Pid) (fd : Nat) (octets : Raw) : Reaction (Except Errno Nat) :=
  match k.channelOf? pid fd with
  | none => .done k (.error .badDescriptor)
  | some c =>
    match k.channel c with
    | .directory _ | .device _ _ false | .file _ _ _ _ false | .pipe _ _ false => .done k (.error .badDescriptor)
    | .shared stream =>
      let k := if octets.isEmpty then k else { k with moments := .output stream (Raw.toOctets octets) :: k.moments }
      .done k (.ok octets.length)
    | .device which _ true =>
      .done k (if which = .full && !octets.isEmpty then .error .noSpace else .ok octets.length)
    | .file n offset append readable true =>
      match (k.files.node n).body with
      | .file contents =>
        let start := if append then contents.length else offset
        let k := k.onFiles fun t => t.change n fun f =>
          { f with changed := k.now, body := .file (overwritten contents start octets) }
        .done (k.setChannel c (.file n (start + octets.length) append readable true)) (.ok octets.length)
      | _ => .done k (.error .badDescriptor)
    | .pipe n _ true =>
      if !k.hasEnd n false then
        .done (k.strike pid SignalNumber.brokenPipe) (.error .brokenPipe)
      else
        let p := k.pipe n
        let room := Pipe.capacity - p.size
        if octets.length ≤ room then .done (k.setPipe n (p.push octets)) (.ok octets.length)
        else if octets.length ≤ Pipe.atomic || room < Pipe.atomic then .wait none
        else .done (k.setPipe n (p.push (octets.take room))) (.ok room)

/-- How far reading and writing goes in a file from where it is now; nothing if the channel has no place. -/
def seek (k : Kernel) (pid : Pid) (fd : Nat) (move : (offset size : Nat) → Int) : Except Errno (Kernel × Nat) :=
  match k.channelOf? pid fd with
  | none => .error .badDescriptor
  | some c =>
    match k.channel c with
    | .file n offset append readable writable =>
      let target := move offset (k.files.node n).size
      if target < 0 then .error .invalid
      else .ok (k.setChannel c (.file n target.toNat append readable writable), target.toNat)
    | .device .. => .ok (k, 0)
    | _ => .error .illegalSeek

end RunMeter.Machine.Kernel
