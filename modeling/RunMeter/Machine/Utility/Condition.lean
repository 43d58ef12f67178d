import RunMeter.Machine.Kernel.Files

/-!
# RunMeter.Machine.Utility.Condition — conditions on texts, numbers and files

What test and the opening bracket decide.  A condition joins parts by `-a` and `-o`, the first of which binds
more.  How a word is read depends on the words around it: the plain shell looks ahead from each word, the others
go by the number of words.

Nothing that is proved depends on this module.
-/

namespace RunMeter.Machine.Condition

/-- Which of the kinds of the program is meant. -/
inductive Kind where
  | plain
  | extended
  | alone
  deriving DecidableEq

/-- What conditions are decided by. -/
structure Scene where
  kind : Kind
  kernel : Kernel
  pid : Pid
  /-- Whether a variable has a value. -/
  isSet : Raw → Bool
  /-- Whether a switch of the shell is on. -/
  isOn : Raw → Bool

/-- What is wrong with a condition. -/
inductive Fault where
  | bracket
  | notNumber (w : Raw)
  | noArgument (op : Raw)
  | unexpected (w : Raw)
  | notUnary (w : Raw)
  | notBinary (w : Raw)
  | extra (w : Raw)
  | closing

namespace Fault

/-- What is said about a fault. -/
def message (kind : Kind) (f : Fault) : Raw :=
  let marked (w : Raw) : Raw := if kind = .alone then Raw.quoted w else w
  match f with
  | bracket => Raw.ofText (match kind with
    | .plain => "missing ]"
    | .extended => "missing `]'"
    | .alone => "missing ']'")
  | notNumber w =>
    match kind with
    | .plain => Raw.ofText "Illegal number: " ++ w
    | .extended => w ++ Raw.ofText ": integer expression expected"
    | .alone => Raw.ofText "invalid integer " ++ Raw.quoted w
  | noArgument op =>
    match kind with
    | .plain => op ++ Raw.ofText ": argument expected"
    | .extended => Raw.ofText "argument expected"
    | .alone => Raw.ofText "missing argument after " ++ Raw.quoted op
  | unexpected w => w ++ Raw.ofText ": unexpected operator"
  | notUnary w => marked w ++ Raw.ofText ": unary operator expected"
  | notBinary w => marked w ++ Raw.ofText ": binary operator expected"
  | extra w => if kind = .alone then Raw.ofText "extra argument " ++ Raw.quoted w else Raw.ofText "too many arguments"
  | closing => Raw.ofText (match kind with
    | .plain => "closing paren expected"
    | .extended => "`)' expected"
    | .alone => "')' expected")

end Fault

/-- The outcome of a condition: true or false, or what is wrong with it. -/
abbrev Verdict := Except Fault Bool

/-- The node of a path. -/
def node? (s : Scene) (path : Raw) (follow : Bool) : Option (Nat × Node) :=
  match s.kernel.find s.pid path follow with
  | .ok n => some (n, s.kernel.files.node n)
  | .error _ => none

/-- Whether a node is a pipe with a name, or a descriptor that leads to a pipe. -/
def isPipe (s : Scene) (n : Node) : Bool :=
  match n.body with
  | .fifo _ => true
  | .descriptor fd =>
    match (s.kernel.channelOf? s.pid fd).map s.kernel.channel with
    | some (.pipe ..) | some (.shared _) => true
    | _ => false
  | _ => false

/-- Whether a word is a condition on the word after it. -/
def isUnary (kind : Kind) (op : Raw) : Bool :=
  match op with
  | ['-', c] => (match kind with
    | .plain => "nzefdcsrwxhLpSbtugkOG"
    | .extended => "nzaefdcsrwxhLpSbtugkOGNovR"
    | .alone => "nzefdcsrwxhLpSbtugkOGN").toList.contains c
  | _ => false

/-- Whether a word is a condition on the words around it. -/
def isBinary (kind : Kind) (op : Raw) : Bool :=
  ((if kind = .plain then [] else ["=="]) ++
    ["=", "!=", "<", ">", "-eq", "-ne", "-lt", "-le", "-gt", "-ge", "-nt", "-ot", "-ef"]).contains (Raw.text op)

/-- A condition on one word. -/
def unary (s : Scene) (op : Raw) (w : Raw) : Bool :=
  let onFile (p : Node → Bool) : Bool := (node? s w true).any fun n => p n.2
  let ofBody (p : Body → Bool) : Bool := onFile fun n => p n.body
  match Raw.text op with
  | "-n" => !w.isEmpty
  | "-z" => w.isEmpty
  | "-e" | "-a" => onFile fun _ => true
  | "-r" => onFile fun n => n.allows 4
  | "-w" => onFile fun n => n.allows 2
  | "-x" => onFile fun n => n.allows 1
  | "-O" | "-G" => onFile Node.ours
  | "-N" => onFile fun _ => true
  | "-f" => onFile Node.isRegular
  | "-d" => onFile Node.isDirectory
  | "-h" | "-L" => (node? s w false).any fun n => n.2.isLink
  | "-c" => ofBody fun
    | .device _ => true
    | _ => false
  | "-p" => onFile (isPipe s)
  | "-s" => onFile fun n => n.size > 0
  | "-u" => onFile fun n => n.mode &&& 0o4000 != 0
  | "-g" => onFile fun n => n.mode &&& 0o2000 != 0
  | "-k" => onFile fun n => n.mode &&& 0o1000 != 0
  | "-v" => s.isSet w
  | "-o" => s.isOn w
  | _ => false

/-- A number in a condition. -/
def number (w : Raw) : Except Fault Int :=
  match Raw.integer? (Raw.trim w) with
  | some n => .ok n
  | none => .error (.notNumber w)

/-- Whether the first of two files was changed later. -/
def isNewer (s : Scene) (a b : Raw) : Bool :=
  match node? s a true, node? s b true with
  | some (_, m), some (_, n) => m.changed > n.changed
  | some _, none => true
  | none, _ => false

/-- A condition on two words. -/
def binary (s : Scene) (left op right : Raw) : Verdict :=
  let onNumbers (p : Int → Int → Bool) : Verdict := do
    return p (← number left) (← number right)
  match Raw.text op with
  | "=" | "==" => .ok (left == right)
  | "!=" => .ok (left != right)
  | "<" => .ok (!Raw.atMost right left)
  | ">" => .ok (!Raw.atMost left right)
  | "-eq" => onNumbers fun a b => a == b
  | "-ne" => onNumbers fun a b => a != b
  | "-lt" => onNumbers fun a b => a < b
  | "-le" => onNumbers fun a b => a ≤ b
  | "-gt" => onNumbers fun a b => b < a
  | "-ge" => onNumbers fun a b => b ≤ a
  | "-nt" => .ok (isNewer s left right)
  | "-ot" => .ok (isNewer s right left)
  | "-ef" => .ok (match node? s left true, node? s right true with
    | some (m, _), some (n, _) => m == n
    | _, _ => false)
  | _ => .ok false

/-! ## By the words that follow -/

/-- How a word is read where a condition goes on. -/
inductive Role where
  /-- There is no word. -/
  | none
  | operand
  | unary
  | binary
  | not
  | and
  | or
  | opening
  | closing
  deriving DecidableEq

/-- How the first of some words is read.  A condition on one word is an operand where nothing stands for it to be
about, or where what stands there joins it to another. -/
def role : List Raw → Role
  | [] => .none
  | w :: rest =>
    if isUnary .plain w then
      match rest with
      | [] => .operand
      | [_] => .unary
      | next :: _ => if isBinary .plain next then .operand else .unary
    else if isBinary .plain w then .binary
    else match w with
      | ['!'] => .not
      | ['-', 'a'] => .and
      | ['-', 'o'] => .or
      | ['('] => if rest.isEmpty then .operand else .opening
      | [')'] => .closing
      | _ => .operand

/-- What is decided: a choice, a conjunction or a single condition. -/
inductive Goal where
  | alternatives
  | conjunction
  | term

/-- Decides a condition that starts with the first of some words, which is read as `first`.  Gives the words from
the last one that it took. -/
def evaluate (s : Scene) : (fuel : Nat) → Goal → (first : Role) → List Raw → Except Fault (Bool × List Raw)
  | 0, _, _, ws => .ok (false, ws)
  | fuel + 1, .alternatives, first, ws => do
    let (a, last) ← evaluate s fuel .conjunction first ws
    if role (last.drop 1) = .or then
      let rest := last.drop 2
      let (b, last) ← evaluate s fuel .alternatives (role rest) rest
      return (a || b, last)
    else return (a, last)
  | fuel + 1, .conjunction, first, ws => do
    let (a, last) ← evaluate s fuel .term first ws
    if role (last.drop 1) = .and then
      let rest := last.drop 2
      let (b, last) ← evaluate s fuel .conjunction (role rest) rest
      return (a && b, last)
    else return (a, last)
  | fuel + 1, .term, first, ws =>
    match first with
    | .not => do
      let (a, last) ← evaluate s fuel .term (role ws.tail) ws.tail
      return (!a, last)
    | .none => .ok (false, ws)
    | .opening =>
      if role ws.tail = .closing then .ok (false, ws.tail)
      else do
        let (a, last) ← evaluate s fuel .alternatives (role ws.tail) ws.tail
        if role (last.drop 1) = .closing then return (a, last.drop 1)
        else .error .closing
    | .unary =>
      match ws with
      | op :: w :: rest => .ok (unary s op w, w :: rest)
      | [op] => .error (.noArgument op)
      | [] => .ok (false, [])
    | _ =>
      match ws with
      | left :: op :: rest =>
        if isBinary .plain op then
          match rest with
          | [] => .error (.noArgument op)
          | right :: rest => do return (← binary s left op right, right :: rest)
        else .ok (!left.isEmpty, left :: op :: rest)
      | [w] => .ok (!w.isEmpty, [w])
      | [] => .ok (false, [])

/-- Decides a condition that takes all of some words. -/
def whole (s : Scene) (first : Role) (ws : List Raw) : Verdict := do
  let (v, last) ← evaluate s (4 * ws.length + 4) .alternatives first ws
  match last with
  | w :: _ :: _ => .error (.unexpected w)
  | _ => return v

/-- Decides a condition of three words. -/
def ofThree (s : Scene) (a op b : Raw) : Verdict :=
  if isBinary .plain op then whole s .operand [a, op, b]
  else if a = ['('] ∧ b = [')'] then whole s (role [op]) [op]
  else if a = ['!'] then do return !(← whole s (role [op, b]) [op, b])
  else whole s (role [a, op, b]) [a, op, b]

/-- Decides a condition as the plain shell does.  One of three or four words is read in a way of its own. -/
def byWords (s : Scene) (ws : List Raw) : Verdict :=
  match ws with
  | [] => .ok false
  | [a, op, b] => ofThree s a op b
  | [a, b, c, d] =>
    if a = ['('] ∧ d = [')'] then whole s (role [b, c]) [b, c]
    else if a = ['!'] then do return !(← ofThree s b c d)
    else whole s (role ws) ws
  | _ => whole s (role ws) ws

/-! ## By the number of words -/

/-- Decides what stands at the start of some words, and gives the words after it. -/
def parse (s : Scene) : (fuel : Nat) → Goal → List Raw → Except Fault (Bool × List Raw)
  | 0, _, ws => .ok (false, ws)
  | fuel + 1, .alternatives, ws => do
    let (a, rest) ← parse s fuel .conjunction ws
    match rest with
    | ['-', 'o'] :: rest =>
      let (b, rest) ← parse s fuel .alternatives rest
      return (a || b, rest)
    | rest => return (a, rest)
  | fuel + 1, .conjunction, ws => do
    let (a, rest) ← parse s fuel .term ws
    match rest with
    | ['-', 'a'] :: rest =>
      let (b, rest) ← parse s fuel .conjunction rest
      return (a && b, rest)
    | rest => return (a, rest)
  | fuel + 1, .term, ws =>
    match ws with
    | [] => .error (.noArgument [])
    | w :: rest =>
      let other : Except Fault (Bool × List Raw) :=
        match rest with
        | op :: right :: more =>
          if isBinary s.kind op then do return (← binary s w op right, more)
          else if isUnary s.kind w then .ok (unary s w op, right :: more)
          else .ok (!w.isEmpty, rest)
        | [x] =>
          if isUnary s.kind w then .ok (unary s w x, [])
          else .ok (!w.isEmpty, rest)
        | [] => .ok (!w.isEmpty, [])
      match w with
      | ['!'] =>
        if rest.isEmpty then .error (.noArgument w)
        else do
          let (a, rest) ← parse s fuel .term rest
          return (!a, rest)
      | ['('] => do
        let (a, rest) ← parse s fuel .alternatives rest
        match rest with
        | [')'] :: rest => return (a, rest)
        | _ => .error .closing
      | _ => other

/-- Decides a condition of more words. -/
def ofMany (s : Scene) (ws : List Raw) : Verdict := do
  let (v, rest) ← parse s (4 * ws.length + 4) .alternatives ws
  match rest with
  | [] => return v
  | w :: _ => .error (.extra w)

/-- Decides a condition of two words. -/
def ofTwo (s : Scene) (a b : Raw) : Verdict :=
  if a = ['!'] then .ok b.isEmpty
  else if isUnary s.kind a then .ok (unary s a b)
  else .error (.notUnary a)

/-- Decides a condition as all but the plain shell do. -/
def byCount (s : Scene) : List Raw → Verdict
  | [] => .ok false
  | [a] => .ok (!a.isEmpty)
  | [a, b] => ofTwo s a b
  | [a, op, b] =>
    if isBinary s.kind op then binary s a op b
    else if op = ['-', 'a'] then .ok (!a.isEmpty && !b.isEmpty)
    else if op = ['-', 'o'] then .ok (!a.isEmpty || !b.isEmpty)
    else if a = ['!'] then do return !(← ofTwo s op b)
    else if a = ['('] ∧ b = [')'] then .ok (!op.isEmpty)
    else .error (.notBinary op)
  | ws@(a :: rest@(b :: c :: [d])) =>
    if a = ['!'] then do return !(← byCount s rest)
    else if a = ['('] ∧ d = [')'] then ofTwo s b c
    else ofMany s ws
  | ws => ofMany s ws

/-- Decides the words after the name; `bracketed` says that the last of them has to be a closing bracket. -/
def ofWords (s : Scene) (bracketed : Bool) (ws : List Raw) : Verdict :=
  let decide (ws : List Raw) : Verdict := if s.kind = .plain then byWords s ws else byCount s ws
  if bracketed then
    if ws.getLast? = some [']'] then decide ws.dropLast else .error .bracket
  else decide ws

end RunMeter.Machine.Condition
