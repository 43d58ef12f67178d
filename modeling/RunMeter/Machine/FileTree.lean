import RunMeter.Machine.Raw
import RunMeter.System.Errno

/-!
# RunMeter.Machine.FileTree — the files of the machine

Files are numbered nodes.  A directory has names for nodes and knows the directory above it; the root is node 0.
A path is walked name by name: every name but the last has to lead to a directory that may be searched, a link
is followed where it stands in the way, and the walk says what is wrong first.

* `locate`: where a path leads, and whether something stands there.
* `Node.allows`: who may do what with a node.
* `attach`, `detach`, `change`: what is done to the tree.

Nothing that is proved depends on this module.
-/

namespace RunMeter.Machine

/-- A time in microseconds from the start of 1970. -/
abbrev Instant := Nat

/-- A device. -/
inductive Device where
  /-- It swallows what is written and gives nothing. -/
  | null
  /-- It swallows what is written and gives zero octets without end. -/
  | zero
  /-- It has no room for what is written and gives zero octets without end. -/
  | full
  /-- It gives octets without order and without end. -/
  | random
  /-- The terminal, of which there is none. -/
  | terminal
  deriving DecidableEq

/-- What a node is. -/
inductive Body where
  /-- A directory, the one above it, and its names in the order in which they were given. -/
  | directory (parent : Nat) (names : List (Raw × Nat))
  /-- A file with contents. -/
  | file (contents : Raw)
  /-- One of the machine's own programs, by name. -/
  | program (name : String)
  /-- A link to another path. -/
  | link (target : Raw)
  | device (which : Device)
  /-- A pipe with a name. -/
  | fifo (pipe : Nat)
  /-- What one of the descriptors of a process leads to. -/
  | descriptor (fd : Nat)

/-- A file of any kind.  It belongs to the user of the machine or else to its owner. -/
structure Node where
  mode : Nat
  ours : Bool
  changed : Instant
  body : Body

namespace Node

/-- Whether a node is a directory. -/
def isDirectory (n : Node) : Bool :=
  match n.body with
  | .directory .. => true
  | _ => false

/-- Whether a node is a link. -/
def isLink (n : Node) : Bool :=
  match n.body with
  | .link _ => true
  | _ => false

/-- Whether a node is a file with contents or a program. -/
def isRegular (n : Node) : Bool :=
  match n.body with
  | .file _ | .program _ => true
  | _ => false

/-- The bits of a mode that count for the user of the machine. -/
def ownBits (n : Node) : Nat :=
  (if n.ours then n.mode >>> 6 else n.mode) &&& 7

/-- Whether the user of the machine may read (4), write (2) or execute and search (1). -/
def allows (n : Node) (bit : Nat) : Bool :=
  n.ownBits &&& bit != 0

/-- What a program's file begins with, and nothing more is known of it. -/
def programText : Raw := "\x7fELF\x02\x01\x01\x00".toList

/-- The number of octets in a node. -/
def size (n : Node) : Nat :=
  match n.body with
  | .file contents => contents.length
  | .program _ => programText.length
  | .link target => target.length
  | .directory .. => 4096
  | _ => 0

end Node

/-- The files of the machine. -/
structure FileTree where
  nodes : Array Node

/-- Where a path leads: a name in a directory, and the node of that name if there is one.  The name is empty where
the path leads to the directory itself. -/
structure Spot where
  directory : Nat
  name : Raw
  node : Option Nat
  /-- Whether the path ends in a slash, so that only a directory will do. -/
  slash : Bool

namespace FileTree

/-- The longest name of a file. -/
def maxName : Nat := 255

/-- The longest path. -/
def maxPath : Nat := 4095

/-- How many links are followed on the way. -/
def maxLinks : Nat := 40

/-- The number of the root. -/
def root : Nat := 0

/-- The tree of a root alone. -/
def bare : FileTree := ⟨#[⟨0o755, false, 0, .directory root []⟩]⟩

/-- The node with a number. -/
def node (t : FileTree) (n : Nat) : Node :=
  t.nodes.getD n ⟨0, false, 0, .file []⟩

/-- The names in a directory with their nodes. -/
def names (t : FileTree) (n : Nat) : List (Raw × Nat) :=
  match (t.node n).body with
  | .directory _ names => names
  | _ => []

/-- The directory above one. -/
def parent (t : FileTree) (n : Nat) : Nat :=
  match (t.node n).body with
  | .directory parent _ => parent
  | _ => root

/-- The node of a name in a directory. -/
def child? (t : FileTree) (n : Nat) (name : Raw) : Option Nat :=
  ((t.names n).find? fun e => e.1 == name).map Prod.snd

/-- Walks the names of a path from a directory.  `follow` says that a link in the last place is followed. -/
def walk (t : FileTree) (follow slash : Bool) : (fuel links : Nat) → (here : Nat) → List Raw → Except Errno Spot
  | 0, _, _, _ => .error .loop
  | _ + 1, _, here, [] => .ok ⟨here, [], some here, slash⟩
  | fuel + 1, links, here, name :: rest =>
    let n := t.node here
    if !n.isDirectory then .error .notDirectory
    else if !n.allows 1 then .error .access
    else if name.length > maxName then .error .nameTooLong
    else if name.isEmpty || name == ['.'] then t.walk follow slash fuel links here rest
    else if name == ['.', '.'] then t.walk follow slash fuel links (t.parent here) rest
    else match t.child? here name with
      | none => if rest.isEmpty then .ok ⟨here, name, none, slash⟩ else .error .noEntry
      | some found =>
        match (t.node found).body with
        | .link target =>
          if rest.isEmpty && !follow && !slash then .ok ⟨here, name, some found, slash⟩
          else if links = 0 then .error .loop
          else if target.isEmpty then .error .noEntry
          else
            let start := if target.head? = some '/' then root else here
            t.walk follow slash fuel (links - 1) start ((Raw.splitAt '/' target).filter (!·.isEmpty) ++ rest)
        | _ => if rest.isEmpty then .ok ⟨here, name, some found, slash⟩ else t.walk follow slash fuel links found rest

/-- How many names are walked at most. -/
def walkBound : Nat := 100000

/-- Where a path leads from a directory.  The file itself need not be there. -/
def locate (t : FileTree) (cwd : Nat) (path : Raw) (follow : Bool) : Except Errno Spot :=
  if path.isEmpty then .error .noEntry
  else if path.length > maxPath then .error .nameTooLong
  else
    let start := if path.head? = some '/' then root else cwd
    let slash := path.getLast? = some '/'
    match t.walk follow slash walkBound maxLinks start ((Raw.splitAt '/' path).filter (!·.isEmpty)) with
    | .error e => .error e
    | .ok spot =>
      match spot.node with
      | some n => if slash && !(t.node n).isDirectory then .error .notDirectory else .ok spot
      | none => .ok spot

/-- The node that a path leads to. -/
def find (t : FileTree) (cwd : Nat) (path : Raw) (follow : Bool) : Except Errno Nat :=
  match t.locate cwd path follow with
  | .error e => .error e
  | .ok spot =>
    match spot.node with
    | some n => .ok n
    | none => .error .noEntry

/-- The tree with a node changed. -/
def change (t : FileTree) (n : Nat) (f : Node → Node) : FileTree :=
  ⟨t.nodes.modify n f⟩

/-- The tree with another list of names in a directory. -/
def rename (t : FileTree) (now : Instant) (n : Nat) (f : List (Raw × Nat) → List (Raw × Nat)) : FileTree :=
  t.change n fun d =>
    match d.body with
    | .directory parent names => { d with changed := now, body := .directory parent (f names) }
    | _ => d

/-- The tree with a name for a node in a directory. -/
def attach (t : FileTree) (now : Instant) (directory : Nat) (name : Raw) (n : Nat) : FileTree :=
  t.rename now directory fun names => names.filter (fun e => e.1 != name) ++ [(name, n)]

/-- The tree without a name in a directory. -/
def detach (t : FileTree) (now : Instant) (directory : Nat) (name : Raw) : FileTree :=
  t.rename now directory fun names => names.filter fun e => e.1 != name

/-- The tree with a new node under a name, and the node's number. -/
def create (t : FileTree) (now : Instant) (directory : Nat) (name : Raw) (new : Node) : FileTree × Nat :=
  let n := t.nodes.size
  ((⟨t.nodes.push new⟩ : FileTree).attach now directory name n, n)

/-- The path of a directory: the names from the root down, found upwards. -/
def pathUp (t : FileTree) : (fuel : Nat) → (n : Nat) → Raw → Raw
  | 0, _, below => below
  | fuel + 1, n, below =>
    if n = root then below
    else
      let up := t.parent n
      let name := ((t.names up).find? fun e => e.2 = n).map Prod.fst
      t.pathUp fuel up ('/' :: name.getD [] ++ below)

/-- The path of a directory. -/
def pathOf (t : FileTree) (n : Nat) : Raw :=
  let path := t.pathUp maxPath n []
  if path.isEmpty then ['/'] else path

/-- The names in a directory, in the order of octets. -/
def sortedNames (t : FileTree) (n : Nat) : List Raw :=
  ((t.names n).map Prod.fst).mergeSort Raw.atMost

/-- How many names lead to a node. -/
def linkCount (t : FileTree) (n : Nat) : Nat :=
  let here := t.node n
  if here.isDirectory then 2 + (t.names n).countP fun e => (t.node e.2).isDirectory
  else t.nodes.foldl (fun count d =>
    match d.body with
    | .directory _ names => count + names.countP fun e => e.2 = n
    | _ => count) 0

/-- The tree with a file of the machine's own under a path from the root, which makes the directories on its
way. -/
def install (t : FileTree) (mode : Nat) (ours : Bool) (body : Nat → Body) : (here : Nat) → List Raw → FileTree
  | _, [] => t
  | here, [name] => (t.create 0 here name ⟨mode, ours, 0, body here⟩).1
  | here, name :: rest =>
    match t.child? here name with
    | some found => t.install mode ours body found rest
    | none =>
      let (t, made) := t.create 0 here name ⟨0o755, false, 0, .directory here []⟩
      t.install mode ours body made rest

end FileTree
end RunMeter.Machine
