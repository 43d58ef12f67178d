import RunMeter.Machine.Calendar
import RunMeter.Machine.Utility.Python.Names

/-!
# RunMeter.Machine.Utility.Python.Library — the functions that are always there, and those of modules

* `call?`: a function that needs no module.
* `make`: a value of a kind that is always there.
* `system?`: the functions of modules about the system.

Nothing that is proved depends on this module.
-/

namespace RunMeter.Machine.Python
namespace Running

/-! ## Exceptions as they are told -/

/-- The lines that tell of places, of which those that are repeated often are counted. -/
def placesTold : (fuel : Nat) → List Spot → List Text
  | 0, _ => []
  | _, [] => []
  | fuel + 1, p :: rest =>
    let line : Text :=
      "  File \"".toList ++ p.file ++ "\", line ".toList ++ Raw.ofNat p.line ++ ", in ".toList ++ p.function
    let lines := line :: p.source.map fun t => "    ".toList ++ t
    let same := rest.takeWhile (· == p)
    if same.length > 2 then
      let more := same.length - 2
      lines ++ lines ++ lines ++
        ["  [Previous line repeated ".toList ++ Raw.ofNat more ++ (if more = 1 then " more time]" else " more times]").toList] ++
        placesTold fuel (rest.drop same.length)
    else lines ++ placesTold fuel rest

/-- What is told of an exception: where it arose, and what came before it. -/
def mishapTold (s : Store) : (fuel : Nat) → Nat → List Text
  | 0, _ => []
  | fuel + 1, n =>
    match s.at n with
    | .mishap m =>
      let before : List Text := match m.cause, m.context with
        | some c, _ => mishapTold s fuel c ++
            [[], "The above exception was the direct cause of the following exception:".toList, []]
        | none, some c =>
          if m.bare then [] else mishapTold s fuel c ++
            [[], "During handling of the above exception, another exception occurred:".toList, []]
        | none, none => []
      let name := match m.kind with
        | .object k => match s.at k with
          | .kind c => c.name
          | _ => []
        | k => Value.kindShown s k
      let text := match m.attributes.lookup "shown text".toList with
        | some (.text t) => t
        | _ => (Value.object n).printed s
      let hint : Text := match m.attributes.lookup "hint".toList with
        | some (.text t) => ". Did you mean: '".toList ++ t ++ "'?".toList
        | _ => []
      let places := placesTold (m.trace.length + 1) m.trace
      let head := if m.trace.isEmpty then [] else "Traceback (most recent call last):".toList :: places
      let extra : List Text := match m.attributes.lookup "fault".toList with
        | some (.text t) => [t]
        | _ => []
      before ++ head ++ extra ++ [if text.isEmpty && hint.isEmpty then name else name ++ ": ".toList ++ text ++ hint]
    | _ => []

/-- All that is told of an exception. -/
def report (s : Store) (n : Nat) : Raw :=
  Text.toRaw ((mishapTold s 50 n).flatMap fun l => l ++ ['\n'])

/-! ## Kinds -/

/-- The kinds that a kind belongs to, itself first. -/
def lineage (s : Store) : (fuel : Nat) → Value → List Value
  | 0, _ => []
  | fuel + 1, k =>
    match k with
    | .kind "bool" => [k, .kind "int"]
    | .kind n =>
      if n == "io.UnsupportedOperation" then [k, .kind "OSError", .kind "ValueError", .kind "Exception", .kind "BaseException"]
      else match mishapKinds.find? fun e => e.1 == n with
        | some (_, above) => k :: lineage s fuel (.kind above)
        | none => [k]
    | .object n =>
      match s.at n with
      | .kind c => k :: c.bases.flatMap (lineage s fuel)
      | _ => [k]
    | k => [k]

/-- The kind of a value. -/
def kindOf (s : Store) (v : Value) : Value :=
  match v with
  | .object n =>
    match s.at n with
    | .instance k _ => k
    | .mishap m => m.kind
    | _ => .kind (v.kindName s)
  | .member k _ _ => .kind k
  | v => .kind (v.kindName s)

/-- Whether a value is of a kind, or of one of several. -/
def isOfKind (s : Store) (v : Value) : (fuel : Nat) → Value → Bool
  | 0, _ => false
  | fuel + 1, k =>
    match k with
    | .tuple ks => ks.any (isOfKind s v fuel)
    | .kind "object" => true
    | .kind "int" => (v matches .member ..) || (lineage s 50 (kindOf s v)).any (Value.equal s k)
    | k => (lineage s 50 (kindOf s v)).any (Value.equal s k)

/-- The kind of exceptions that a kind belongs to, if it belongs to one that is always there. -/
def mishapBase? (s : Store) (k : Value) : Option String :=
  (lineage s 50 k).findSome? fun k => match k with
    | .kind n => if isMishapKind n || n == "io.UnsupportedOperation" then some n else none
    | _ => none

/-- A new exception. -/
def newMishap (k : Value) (args : List Value) : Running Value := do
  let base := (mishapBase? (← store) k).getD "Exception"
  let attributes : List (Text × Value) := match base, args with
    | "SystemExit", [] => [("code".toList, .nothing)]
    | "SystemExit", [v] => [("code".toList, v)]
    | "SystemExit", vs => [("code".toList, .tuple vs)]
    | "subprocess.CalledProcessError", status :: command :: _ =>
      [("returncode".toList, status), ("cmd".toList, command)]
    | _, _ => []
  let isSystem := (lineage (← store) 50 k).any fun k => k matches .kind "OSError"
  let (k, attributes) : Value × List (Text × Value) := match isSystem, args with
    | true, number :: message :: rest =>
      let kind := match k, number with
        | .kind "OSError", .int n => Value.kind (errnoKind ⟨Int32.ofInt n⟩)
        | k, _ => k
      (kind, [("errno".toList, number), ("strerror".toList, message)] ++ (rest.take 1).map fun v => ("filename".toList, v))
    | _, _ => (k, attributes)
  create (.mishap ⟨k, args, attributes, none, none, false, []⟩)

/-! ## Texts and numbers -/

/-- A number in digits of a base, with single low lines between digits. -/
def digitsText? (base : Nat) (t : Text) : Option Nat :=
  let isDigit (c : Char) : Bool := c.isAlphanum && Raw.digitValue c.toLower < base
  let groups := Raw.splitAt '_' t
  if groups.all fun g => !g.isEmpty && g.all isDigit then some (Raw.valueIn base (groups.flatten.map Char.toLower))
  else none

/-- The whole number that a text is. -/
def wholeText? (base : Nat) (t : Text) : Option Int :=
  let (negative, body) : Bool × Text := match Raw.trim t with
    | '-' :: rest => (true, rest)
    | '+' :: rest => (false, rest)
    | rest => (false, rest)
  let (base, body) : Nat × Text := match body with
    | '0' :: c :: rest =>
      let marked := match c.toLower with
        | 'x' => 16
        | 'o' => 8
        | 'b' => 2
        | _ => 0
      if marked != 0 && (base = 0 || base = marked) then (marked, rest) else (if base = 0 then 10 else base, body)
    | body => (if base = 0 then 10 else base, body)
  (digitsText? base body).map fun n => if negative then -(n : Int) else n

/-- The floating-point number that a text is. -/
def realText? (t : Text) : Option Float :=
  let (negative, body) : Bool × Text := match Raw.trim t with
    | '-' :: rest => (true, rest)
    | '+' :: rest => (false, rest)
    | rest => (false, rest)
  let signed (f : Float) : Option Float := some (if negative then -f else f)
  match Raw.text (Raw.toLower body) with
  | "inf" | "infinity" => signed (1.0 / 0.0)
  | "nan" => signed (0.0 / 0.0)
  | _ =>
    let digitAt := match body with
      | '.' :: d :: _ => d.isDigit
      | d :: _ => d.isDigit
      | [] => false
    if !digitAt then none
    else match numberText.decimal (fun test t =>
        let taken := t.takeWhile test
        (taken, t.drop taken.length)) body with
      | (.int n, []) => signed (Float.ofNat n)
      | (.real f, []) => signed f
      | _ => none

/-- A value in a format. -/
def formatted (m : Means) (v : Value) (spec : Text) : Running Text := do
  if spec.isEmpty then printedBy m v
  else
    match Form.ofText spec with
    | none => raise "ValueError" "Invalid format specifier"
    | some f =>
      match f.render (← store) v with
      | .ok t => return t
      | .error message => if message.startsWith "unsupported" then raiseKind message else raise "ValueError" message

/-- A value as a conversion shows it. -/
def converted (m : Means) (v : Value) (conversion : Option Char) : Running Value := do
  match conversion with
  | some 's' => return .text (← printedBy m v)
  | some _ => return .text (← shownBy m v)
  | none => return v

/-- A text with values in braces. -/
def bracesFormatted (m : Means) (args : List Value) (named : List (Text × Value))
    (lookup : Value → Text → Running Value) : (fuel : Nat) → (next : Nat) → Text → Running Text
  | 0, _, _ => return []
  | _, _, [] => return []
  | fuel + 1, next, c :: rest => do
    if c = '\x7b' && rest.head? != some '\x7b' then
      let width := innerEnd (rest.length + 1) 0 none (rest.map fun d => if d = '"' || d = '\'' then '_' else d)
      let name := rest.take width
      let (conversion, after) : Option Char × Text := match rest.drop width with
        | '!' :: d :: after => (some d, after)
        | after => (none, after)
      let (spec, after) : Text × Text := match after with
        | ':' :: body =>
          let rec upTo : (depth : Nat) → Text → Text × Text
            | _, [] => ([], [])
            | depth, d :: more =>
              if d = '\x7d' && depth = 0 then ([], d :: more)
              else
                let (t, left) := upTo (if d = '\x7b' then depth + 1 else if d = '\x7d' then depth - 1 else depth) more
                (d :: t, left)
          upTo 0 body
        | after => ([], after)
      match after with
      | '\x7d' :: left =>
        let base := name.takeWhile fun d => d != '.' && d != '['
        let (v, next) ← if base.isEmpty then
            match args[next]? with
            | some v => pure (v, next + 1)
            | none => raise "IndexError" "Replacement index 0 out of range for positional args tuple"
          else if base.all Char.isDigit then
            match args[Raw.valueIn 10 base]? with
            | some v => pure (v, next)
            | none =>
              raise "IndexError" s!"Replacement index {Raw.valueIn 10 base} out of range for positional args tuple"
          else match named.lookup base with
            | some v => pure (v, next)
            | none => raiseWith "KeyError" [.text base] []
        let v ← access v (name.drop base.length) name.length
        let spec ← if spec.contains '\x7b' then bracesFormatted m args named lookup fuel next spec else pure spec
        let t ← formatted m (← converted m v conversion) spec
        return t ++ (← bracesFormatted m args named lookup fuel next left)
      | _ => raise "ValueError" "expected '\x7d' before end of string"
    else if c = '\x7d' && rest.head? != some '\x7d' then raise "ValueError" "Single '\x7d' encountered in format string"
    else if c = '\x7b' || c = '\x7d' then
      return c :: (← bracesFormatted m args named lookup fuel next (rest.drop 1))
    else return c :: (← bracesFormatted m args named lookup fuel next rest)
where
  /-- What attributes and elements after a name lead to. -/
  access (v : Value) (path : Text) : (fuel : Nat) → Running Value
    | 0 => return v
    | fuel + 1 => do
      match path with
      | '.' :: rest =>
        let n := rest.takeWhile fun d => d != '.' && d != '['
        access (← lookup v n) (rest.drop n.length) fuel
      | '[' :: rest =>
        let k := rest.takeWhile (· != ']')
        let key : Value := if k.all Char.isDigit then .int (Raw.valueIn 10 k) else .text k
        access (← elementOf m v key) (rest.drop (k.length + 1)) fuel
      | _ => return v

/-! ## Values of kinds -/

/-- A value of a kind that is always there. -/
def make (m : Means) (kind : String) (args : List Value) (named : List (Text × Value)) : Running Value := do
  let s ← store
  match kind, args with
  | "int", [] => return .int 0
  | "int", v :: rest =>
    let base ← match rest, named.lookup "base".toList with
      | b :: _, _ => intOf b
      | [], some b => intOf b
      | [], none => pure 10
    match v with
    | .real f =>
      match wholePart? f with
      | some n => return .int n
      | none =>
        if f.isNaN then raise "ValueError" "cannot convert float NaN to integer"
        else raise "OverflowError" "cannot convert float infinity to integer"
    | .text t =>
      match wholeText? base.toNat t with
      | some n => return .int n
      | none => raise "ValueError" (s!"invalid literal for int() with base {base}: " ++ Raw.text (v.shown s))
    | v =>
      match v.int?, v.octets? s with
      | some n, _ => return .int n
      | none, some r =>
        match wholeText? base.toNat r with
        | some n => return .int n
        | none => raise "ValueError" (s!"invalid literal for int() with base {base}: " ++ Raw.text (v.shown s))
      | none, none =>
        raiseKind ("int() argument must be a string, a bytes-like object or a real number, not '" ++ v.kindName s ++ "'")
  | "float", [] => return .real 0
  | "float", v :: _ =>
    match v with
    | .text t =>
      match realText? t with
      | some f => return .real f
      | none => raise "ValueError" ("could not convert string to float: " ++ Raw.text (v.shown s))
    | v =>
      match v.real? with
      | some f => return .real f
      | none => raiseKind ("float() argument must be a string or a real number, not '" ++ v.kindName s ++ "'")
  | "bool", [] => return .truth false
  | "bool", v :: _ => return .truth (← truthOf m v)
  | "str", [] => return .text []
  | "str", [v] => return .text (← printedBy m v)
  | "str", v :: _ =>
    match v.octets? s with
    | some r => return .text (← decoded r "strict".toList)
    | none => raiseKind ("decoding to str: need a bytes-like object, " ++ v.kindName s ++ " found")
  | "bytes", [] => return .octets []
  | "bytearray", [] => create (.octetArray [])
  | "bytes", v :: rest | "bytearray", v :: rest =>
    let wrap (r : Raw) : Running Value := if kind == "bytes" then pure (.octets r) else create (.octetArray r)
    match v with
    | .text t =>
      if rest.isEmpty && named.isEmpty then raiseKind "string argument without an encoding" else wrap (Text.toRaw t)
    | v =>
      match v.octets? s, v.int? with
      | some r, _ => wrap r
      | none, some n =>
        if n < 0 then raise "ValueError" "negative count"
        else if n.toNat ≥ mostLength then raise "MemoryError" ""
        else if n.toNat ≥ vastLength then
          return if kind == "bytes" then .vast (.octets ['\x00']) n.toNat else .vast (.builtin "bytearray") n.toNat
        else wrap (List.replicate n.toNat '\x00')
      | none, none =>
        let ns ← (← itemsOf m v).mapM intOf
        if ns.any fun n => n < 0 || n > 255 then raise "ValueError" "bytes must be in range(0, 256)"
        else wrap (ns.map fun n => Char.ofNat n.toNat)
  | "list", [] => newList []
  | "list", v :: _ =>
    match v with
    | .vast (.int _) _ | .vast (.nothing) _ => return v
    | v => newList (← itemsOf m v)
  | "tuple", [] => return .tuple []
  | "tuple", v :: _ => return .tuple (← itemsOf m v)
  | "set", [] | "frozenset", [] => create (.set (kind == "frozenset") [])
  | "set", v :: _ | "frozenset", v :: _ =>
    let vs ← itemsOf m v
    match vs.find? fun v => !(v.isKey s Value.depth) with
    | some v => raiseKind ("unhashable type: '" ++ v.kindName s ++ "'")
    | none => create (.set (kind == "frozenset") (distinct s vs))
  | "dict", args =>
    let es ← match args with
      | v :: _ => entriesOf m v
      | [] => pure []
    let all := es ++ named.map fun (k, v) => (Value.text k, v)
    create (.dict (all.foldl (fun es (k, v) => withEntry s k v es) []))
  | "range", args =>
    match ← args.mapM intOf with
    | [b] => return .range 0 b 1
    | [a, b] => return .range a b 1
    | [a, b, c] => if c = 0 then raise "ValueError" "range() arg 3 must not be zero" else return .range a b c
    | _ => raiseKind "range expected at least 1 argument, got 0"
  | "enumerate", v :: rest =>
    let start ← match rest, named.lookup "start".toList with
      | a :: _, _ => intOf a
      | [], some a => intOf a
      | [], none => pure 0
    create (.iterator (.items ((← itemsOf m v).zipIdx.map fun (v, i) => .tuple [.int (start + i), v])))
  | "reversed", v :: _ => create (.iterator (.items (← itemsOf m v).reverse))
  | "zip", args =>
    let lists ← args.mapM (itemsOf m)
    let n := (lists.map List.length).foldl min ((lists.head?.map List.length).getD 0)
    create (.iterator (.items ((List.range n).map fun i => .tuple (lists.map fun l => l.getD i .nothing))))
  | "map", f :: rest =>
    let lists ← rest.mapM (itemsOf m)
    let n := (lists.map List.length).foldl min ((lists.head?.map List.length).getD 0)
    let vs ← (List.range n).mapM fun i => m.call f (lists.map fun l => l.getD i .nothing) []
    create (.iterator (.items vs))
  | "filter", f :: v :: _ =>
    let vs ← (← itemsOf m v).filterM fun v => do
      match f with
      | .nothing => truthOf m v
      | f => truthOf m (← m.call f [v] [])
    create (.iterator (.items vs))
  | "slice", [b] => return .slice .nothing b .nothing
  | "slice", [a, b] => return .slice a b .nothing
  | "slice", a :: b :: c :: _ => return .slice a b c
  | "type", [v] => return kindOf s v
  | "object", _ => create (.instance (.kind "object") [])
  | "memoryview", v :: _ => return v
  | "staticmethod", v :: _ | "classmethod", v :: _ | "property", v :: _ => return v
  | "Signals", v :: _ =>
    match v.int? with
    | some n =>
      match if n ≥ 1 && n ≤ 64 then SignalNumber.name? n.toNat else none with
      | some name => return .member "Signals" ("SIG" ++ name) n
      | none => raise "ValueError" (Raw.text (v.shown s) ++ " is not a valid Signals")
    | none => raise "ValueError" (Raw.text (v.shown s) ++ " is not a valid Signals")
  | "Popen", args => return .object (← startProcess m [] args named)
  | kind, args =>
    if isMishapKind kind then newMishap (.kind kind) args
    else raiseKind ("cannot create '" ++ kind ++ "' instances")

/-! ## Functions -/

/-- The stream that output goes to. -/
def outletOf (name : String) : Running (Option Nat) := do
  match ← attributeOf "sys" name with
  | .object n => return some n
  | _ => return none

/-- Writes what is kept of all streams. -/
def flushAll : Running Unit := do
  for i in List.range (← store).size do
    match ← objectAt i with
    | .stream s =>
      if !s.closed then
        let _ ← tryFlush i
    | _ => pure ()

/-- Shows values. -/
def print (m : Means) (args : List Value) (named : List (Text × Value)) : Running Value := do
  let text (name usual : String) : Running Text := do
    match named.lookup name.toList with
    | none | some .nothing => return usual.toList
    | some (.text t) => return t
    | some v => raiseKind (name ++ " must be None or a string, not " ++ (← kindName v))
  let between ← text "sep" " "
  let ending ← text "end" "\n"
  let parts ← args.mapM (printedBy m)
  let line := Raw.joined between parts ++ ending
  let target ← match named.lookup "file".toList with
    | none | some .nothing => attributeOf "sys" "stdout"
    | some v => pure v
  match ← stream? target with
  | some (n, s, octets) =>
    if s.closed then raise "ValueError" "I/O operation on closed file."
    if octets then raiseKind "a bytes-like object is required, not 'str'"
    if !s.writable then notMeant "writable"
    emit n false (Text.toRaw line)
    if ((named.lookup "flush".toList).map (Value.isTrue (← store))).getD false then flush n
  | none =>
    match ← ownMethod? target "write" with
    | some f => let _ ← m.call f [target, .text line] []
    | none =>
      if !(target matches .nothing) then
        raise "AttributeError" ("'" ++ (← kindName target) ++ "' object has no attribute 'write'")
  return .nothing

/-- A text of a value for other programs to read. -/
def dataText (s : Store) : (fuel : Nat) → Value → Text
  | 0, _ => []
  | fuel + 1, v =>
    let text (t : Text) : Text := '"' :: t.flatMap (fun c =>
      if c = '"' || c = '\\' then ['\\', c]
      else if c = '\n' then ['\\', 'n'] else if c = '\t' then ['\\', 't'] else if c = '\r' then ['\\', 'r']
      else if c.toNat < 32 || (c.toNat ≥ 127 && c.toNat < 65536) then
        (if c.toNat = 127 then [c] else "\\u".toList ++ Value.hexDigits 4 c.toNat)
      else if c.toNat ≥ 65536 then
        let n := c.toNat - 65536
        "\\u".toList ++ Value.hexDigits 4 (55296 + n / 1024) ++ "\\u".toList ++ Value.hexDigits 4 (56320 + n % 1024)
      else [c]) ++ ['"']
    match v with
    | .nothing => "null".toList
    | .truth b => (if b then "true" else "false").toList
    | .text t => text t
    | .tuple vs => '[' :: Value.listed (vs.map (dataText s fuel)) ++ [']']
    | .object n =>
      match s.at n with
      | .list vs => '[' :: Value.listed (vs.toList.map (dataText s fuel)) ++ [']']
      | .dict es => '\x7b' :: Value.listed (es.map fun (k, w) =>
          (match k with
            | .text t => text t
            | k => text (k.printed s)) ++ ": ".toList ++ dataText s fuel w) ++ ['\x7d']
      | _ => v.shown s
    | v => v.printed s

/-- The bytes that are told of an object's size. -/
def sizeTold (s : Store) (v : Value) : Int :=
  match v with
  | .int n => 28 + 4 * ((Nat.log2 n.natAbs / 30 : Nat) : Int)
  | .text t => 49 + t.length
  | .octets r => 33 + r.length
  | .vast (.text t) n => 49 + t.length * n
  | .vast (.octets r) n => 33 + r.length * n
  | .vast _ n => 56 + 8 * n
  | .tuple vs => 40 + 8 * vs.length
  | .object n => match s.at n with
    | .list vs => 56 + 8 * vs.size
    | .dict es => if es.isEmpty then 64 else 232
    | _ => 48
  | _ => 24

/-- Ends the program with a value. -/
def quit {α : Type} (args : List Value) : Running α := do
  let code := match args with
    | [] => .nothing
    | [.tuple vs] => .tuple vs
    | v :: _ => v
  raiseWith "SystemExit" (args.take 1) [("code".toList, code)]

/-- The greatest or the least of values. -/
def extreme (m : Means) (name : String) (args : List Value) (named : List (Text × Value)) : Running Value := do
  let vs ← match args with
    | [v] => itemsOf m v
    | vs => pure vs
  match vs with
  | [] =>
    match named.lookup "default".toList with
    | some v => return v
    | none => raise "ValueError" (name ++ "() arg is an empty sequence")
  | vs =>
    let ordered ← sorted m vs (named.lookup "key".toList) (name == "max")
    return ordered.headD .nothing

/-- The value of a function that needs no module. -/
def call? (m : Means) (lookup? : Value → Text → Running (Option Value)) (carryOut : Bool → Text → Running Value)
    (name : String) (args : List Value) (named : List (Text × Value)) : Running (Option Value) := do
  let s ← store
  let counted (n : Nat) : Running Unit := do
    if args.length != n then
      raiseKind (name ++ "() takes exactly " ++ (if n = 1 then "one argument" else toString n ++ " arguments") ++
        s!" ({args.length} given)")
  let one : Running Value := do
    counted 1
    return args.headD .nothing
  match name, args with
  | "print", args => return some (← print m args named)
  | "exit", args | "quit", args => quit args
  | "len", _ => do return some (.int (← lengthOf m (← one)))
  | "repr", _ | "ascii", _ => do return some (.text (← shownBy m (← one)))
  | "abs", _ => do
    let v ← one
    match v with
    | .real f => return some (.real f.abs)
    | v => match v.int? with
      | some n => return some (.int n.natAbs)
      | none => raiseKind ("bad operand type for abs(): '" ++ v.kindName s ++ "'")
  | "chr", _ => do
    let n ← intOf (← one)
    if n < 0 || n > 0x10FFFF then raise "ValueError" "chr() arg not in range(0x110000)"
    else return some (.text [Char.ofNat n.toNat])
  | "ord", _ => do
    match ← one with
    | .text [c] => return some (.int c.toNat)
    | .octets [c] => return some (.int c.toNat)
    | .text t => raiseKind s!"ord() expected a character, but string of length {t.length} found"
    | v => raiseKind ("ord() expected string of length 1, but " ++ v.kindName s ++ " found")
  | "hex", _ | "oct", _ | "bin", _ => do
    let n ← intOf (← one)
    let (mark, base) := if name == "hex" then ("0x", 16) else if name == "oct" then ("0o", 8) else ("0b", 2)
    return some (.text ((if n < 0 then ['-'] else []) ++ mark.toList ++ Raw.digits base n.natAbs))
  | "sum", v :: rest => do
    let start := (rest.head?).getD ((named.lookup "start".toList).getD (.int 0))
    let vs ← itemsOf m v
    let total ← vs.foldlM (fun acc v => arithmetic m .add "+" acc v) start
    return some total
  | "min", args | "max", args => return some (← extreme m name args named)
  | "sorted", v :: _ => do
    let reverse := ((named.lookup "reverse".toList).map (Value.isTrue s)).getD false
    return some (← newList (← sorted m (← itemsOf m v) (named.lookup "key".toList) reverse))
  | "any", _ => do
    for v in ← itemsOf m (← one) do
      if ← truthOf m v then return some (.truth true)
    return some (.truth false)
  | "all", _ => do
    for v in ← itemsOf m (← one) do
      if !(← truthOf m v) then return some (.truth false)
    return some (.truth true)
  | "divmod", [a, b] => do
    return some (.tuple [← arithmetic m .divideDown "divmod()" a b, ← arithmetic m .modulo "divmod()" a b])
  | "pow", [a, b] => return some (← arithmetic m .power "**" a b)
  | "pow", [a, b, c] => do
    let (x, y, z) := (← intOf a, ← intOf b, ← intOf c)
    if z = 0 then raise "ValueError" "pow() 3rd argument cannot be 0"
    let rec power : (fuel : Nat) → Int → Nat → Int → Int
      | 0, _, _, r => r
      | fuel + 1, b, e, r => if e = 0 then r else power fuel (b * b % z) (e / 2) (if e % 2 = 1 then r * b % z else r)
    return some (.int (Int.fmod (power (Nat.log2 y.toNat + 2) (x % z) y.toNat 1) z))
  | "round", v :: rest => do
    let places ← match rest with
      | [] | [.nothing] => pure none
      | p :: _ => do pure (some (← intOf p))
    match v, places with
    | .real f, none =>
      match Quantity.ofFloat f with
      | ⟨negative, .finite q⟩ => return some (.int (Rounding.halfEven (if negative then -q else q)))
      | _ => raise "ValueError" "cannot convert float NaN to integer"
    | .real f, some p =>
      match Quantity.ofFloat f with
      | ⟨negative, .finite q⟩ =>
        let n := Rounding.halfEven (q * Quantity.tenPow p)
        let r := if p > 0 then Float.ofScientific n.toNat true p.toNat else Float.ofScientific n.toNat false (-p).toNat
        return some (.real (if negative then -r else r))
      | _ => return some v
    | v, none => do return some (.int (← intOf v))
    | v, some p => do
      let n ← intOf v
      if p ≥ 0 then return some (.int n)
      else
        let unit : Int := Int.pow 10 (-p).toNat
        return some (.int (Rounding.halfEven ((n : Rat) / (unit : Rat)) * unit))
  | "isinstance", [v, k] => return some (.truth (isOfKind s v 50 k))
  | "issubclass", [a, k] =>
    let ks := match k with
      | .tuple ks => ks
      | k => [k]
    return some (.truth ((lineage s 50 a).any fun x => ks.any (Value.equal s x)))
  | "callable", _ => do
    let v ← one
    return some (.truth (match v with
      | .builtin _ | .method .. | .kind _ => true
      | .object n => match s.at n with
        | .function _ | .kind _ => true
        | _ => false
      | _ => false))
  | "hasattr", [v, .text n] => return some (.truth (← lookup? v n).isSome)
  | "getattr", v :: .text n :: rest => do
    match ← lookup? v n, rest with
    | some w, _ => return some w
    | none, usual :: _ => return some usual
    | none, [] => raise "AttributeError" ("'" ++ v.kindName s ++ "' object has no attribute '" ++ Raw.text n ++ "'")
  | "setattr", [v, .text n, w] => do
    match v with
    | .object i => setField i n w
    | .module k => setAttributeOf k n w
    | _ => pure ()
    return some .nothing
  | "id", _ => do
    match ← one with
    | .object n => return some (.int (139637976727552 + 64 * n))
    | _ => return some (.int 9788960)
  | "hash", _ => do
    let v ← one
    if !(v.isKey s Value.depth) then raiseKind ("unhashable type: '" ++ v.kindName s ++ "'")
    else return some (.int ((v.int?).getD 5740354900026072187))
  | "iter", _ => do
    let v ← one
    match v with
    | .object n => match s.at n with
      | .iterator _ | .stream _ => return some v
      | _ => return some (← create (.iterator (← cursorOf m v)))
    | v => return some (← create (.iterator (← cursorOf m v)))
  | "next", v :: rest => do
    let afterwards : Running (Option Value) := do
      match rest with
      | usual :: _ => return some usual
      | [] => raiseWith "StopIteration" [] []
    match v with
    | .object n => match s.at n with
      | .iterator c =>
        match ← nextItem n c with
        | some w => return some w
        | none => afterwards
      | .stream _ =>
        match ← nextItem n (.lines v) with
        | some w => return some w
        | none => afterwards
      | _ => raiseKind ("'" ++ v.kindName s ++ "' object is not an iterator")
    | v => raiseKind ("'" ++ v.kindName s ++ "' object is not an iterator")
  | "input", args => do
    match ← outletOf "stdout" with
    | some n =>
      match args with
      | v :: _ => emit n false (Text.toRaw (← printedBy m v))
      | [] => pure ()
      flush n
    | none => pure ()
    match ← outletOf "stdin" with
    | some n =>
      match ← takeLine n with
      | [] => raise "EOFError" "EOF when reading a line"
      | line => return some (.text (Text.ofRaw (Raw.dropEndWhile (· == '\n') line)))
    | none => raise "RuntimeError" "input(): lost sys.stdin"
  | "format", v :: rest => do
    let spec := match rest with
      | .text t :: _ => t
      | _ => []
    return some (.text (← formatted m v spec))
  | "open", v :: rest => do
    let mode := match rest, named.lookup "mode".toList with
      | .text t :: _, _ => Raw.text t
      | _, some (.text t) => Raw.text t
      | _, _ => "r"
    return some (← openStream v mode)
  | "eval", .text t :: _ => return some (← carryOut true t)
  | "exec", .text t :: _ => return some (← carryOut false t)
  | "compile", .text t :: _ => return some (.text t)
  | "__import__", .text t :: _ => do
    if isModule (Raw.text t) then return some (.module (Raw.text (t.takeWhile (· != '.'))))
    else raise "ModuleNotFoundError" ("No module named '" ++ Raw.text t ++ "'")
  | "globals", _ | "locals", _ | "vars", _ => do
    let st ← get
    let vs := ((st.scopes[if name == "globals" then 0 else st.scope]?).map Scope.vars).getD []
    return some (← create (.dict (vs.map fun (k, v) => (.text k, v))))
  | "dir", [] => do
    let st ← get
    let vs := ((st.scopes[st.scope]?).map Scope.vars).getD []
    return some (← newList ((vs.map fun e => e.1).mergeSort Raw.atMost |>.map .text))
  | "help", _ | "breakpoint", _ => return some .nothing
  | name, _ =>
    if builtinFunctions.contains name then raiseKind (name ++ "() got wrong arguments") else return none

end Running
end RunMeter.Machine.Python
