import RunMeter.Machine.Utility.Python.System

/-!
# RunMeter.Machine.Utility.Python.Parts — the parts of objects, and what objects can be asked to do

* `partOf?`: what a name after a point stands for.
* `ask?`: a method of a value.

Nothing that is proved depends on this module.
-/

namespace RunMeter.Machine.Python

/-- What texts can be asked to do. -/
def textMethods : List String :=
  ["capitalize", "casefold", "center", "count", "encode", "endswith", "expandtabs", "find", "format", "index",
   "isalnum", "isalpha", "isascii", "isdecimal", "isdigit", "isidentifier", "islower", "isnumeric", "isprintable",
   "isspace", "isupper", "join", "ljust", "lower", "lstrip", "partition", "removeprefix", "removesuffix", "replace",
   "rfind", "rindex", "rjust", "rpartition", "rsplit", "rstrip", "split", "splitlines", "startswith", "strip",
   "swapcase", "title", "upper", "zfill"]

/-- What values of a kind that is always there can be asked to do. -/
def methodsOf (kind : String) : List String :=
  match kind with
  | "str" => textMethods
  | "bytes" => ["decode", "hex"] ++ textMethods.filter fun n => !(["encode", "format", "casefold", "isdecimal", "isidentifier",
      "isnumeric", "isprintable"].contains n)
  | "bytearray" => ["append", "decode", "extend", "hex", "clear"] ++ textMethods.filter fun n => !(["encode", "format"].contains n)
  | "list" => ["append", "clear", "copy", "count", "extend", "index", "insert", "pop", "remove", "reverse", "sort"]
  | "tuple" => ["count", "index"]
  | "range" => ["count", "index"]
  | "dict" => ["clear", "copy", "fromkeys", "get", "items", "keys", "pop", "popitem", "setdefault", "update", "values"]
  | "set" | "frozenset" => ["add", "clear", "copy", "difference", "discard", "intersection", "isdisjoint", "issubset",
      "issuperset", "pop", "remove", "symmetric_difference", "union", "update"]
  | "int" | "bool" | "Signals" => ["bit_count", "bit_length", "conjugate", "to_bytes", "from_bytes"]
  | "float" => ["is_integer", "conjugate", "as_integer_ratio"]
  | "_io.TextIOWrapper" | "_io.BufferedWriter" | "_io.BufferedReader" =>
    ["close", "fileno", "flush", "isatty", "read", "readable", "readline", "readlines", "reconfigure", "seek",
     "seekable", "tell", "writable", "write", "writelines", "__enter__", "__exit__"]
  | "Popen" => ["wait", "poll", "communicate", "kill", "terminate", "send_signal", "__enter__", "__exit__"]
  | "CompletedProcess" => ["check_returncode"]
  | "Thread" => ["start", "join", "is_alive", "run"]
  | _ => []

namespace Running

/-- What a name after a point stands for. -/
def partOf? (v : Value) (name : Text) : Running (Option Value) := do
  let s ← store
  let n := Raw.text name
  let kind := v.kindName s
  let known : Option Value :=
    if (methodsOf kind).contains n then some (.method v name)
    else match n with
      | "__class__" => some (kindOf s v)
      | "__doc__" => some .nothing
      | _ => none
  match v with
  | .module "ctypes library" => return some (.builtin ("ctypes library." ++ n))
  | .module mod => attributeOfModule mod name
  | .member _ label k =>
    match n with
    | "name" => return some (.text label.toList)
    | "value" => return some (.int k)
    | _ => return known
  | .int _ | .truth _ | .real _ =>
    match n with
    | "real" | "numerator" => return some v
    | "imag" => return some (.int 0)
    | "denominator" => return some (.int 1)
    | _ => return known
  | .range a b c =>
    match n with
    | "start" => return some (.int a)
    | "stop" => return some (.int b)
    | "step" => return some (.int c)
    | _ => return known
  | .tuple [x, y, z, _, _] =>
    match n with
    | "major" => return some x
    | "minor" => return some y
    | "micro" => return some z
    | _ => return known
  | .kind k =>
    match n with
    | "__name__" | "__qualname__" => return some (.text ((Raw.splitAt '.' k.toList).getLast?.getD []))
    | _ =>
      if k == "Signals" && (signalMember? n).isSome then return signalMember? n
      else if (methodsOf k).contains n || n == "__init__" || n == "maketrans" then return some (.method v name)
      else return none
  | .builtin b =>
    match n with
    | "__name__" => return some (.text ((Raw.splitAt '.' b.toList).getLast?.getD []))
    | _ => return known
  | .under i =>
    match s.at i, n with
    | .stream st, "name" => return some st.name
    | .stream st, "closed" => return some (.truth st.closed)
    | .stream _, "raw" => return some v
    | _, _ => return known
  | .object i =>
    match s.at i with
    | .instance k fs =>
      match fs.lookup name with
      | some w => return some w
      | none =>
        match k with
        | .kind "super" => ofBases s i
        | .kind _ => return known
        | k =>
          match ownMethod?.inherited s name 50 k with
          | some (.object f) =>
            match s.at f with
            | .function _ => return some (.method v name)
            | _ => return some (.object f)
          | some w => return some w
          | none =>
            if n == "__dict__" then return some (← create (.dict (fs.map fun (a, w) => (.text a, w)))) else return known
    | .mishap x =>
      match x.attributes.lookup name with
      | some w => return some w
      | none =>
        match ownMethod?.inherited s name 50 x.kind with
        | some (.object f) =>
          match s.at f with
          | .function _ => return some (.method v name)
          | _ => return some (.object f)
        | some w => return some w
        | none =>
          match n with
          | "args" => return some (.tuple x.args)
          | "__cause__" => return some ((x.cause.map .object).getD .nothing)
          | "__context__" => return some ((x.context.map .object).getD .nothing)
          | "__traceback__" => return some .nothing
          | "with_traceback" | "add_note" | "__init__" | "__str__" => return some (.method v name)
          | "errno" | "strerror" | "filename" =>
            return if isOfKind s v 50 (.kind "OSError") then some .nothing else none
          | _ => return known
    | .kind k =>
      match ownMethod?.inherited s name 50 v with
      | some w => return some w
      | none =>
        match n with
        | "__name__" | "__qualname__" => return some (.text k.name)
        | "__init__" => return some (.method v name)
        | _ => return none
    | .function f =>
      match n with
      | "__name__" | "__qualname__" => return some (.text f.name)
      | _ => return known
    | .stream st =>
      match n with
      | "name" => return some st.name
      | "mode" => return some (.text st.mode.toList)
      | "closed" => return some (.truth st.closed)
      | "encoding" => return some (.text "utf-8".toList)
      | "errors" => return some (.text "strict".toList)
      | "line_buffering" => return some (.truth st.byLine)
      | "buffer" => return some (.under i)
      | _ => return known
    | _ => return known
  | _ => return known
where
  /-- What the kinds that an object's kind belongs to have by the name. -/
  ofBases (s : Store) (i : Nat) : Running (Option Value) := do
    let self ← field i "self"
    match ← field i "kind" with
    | .object k =>
      match s.at k with
      | .kind c =>
        match c.bases.findSome? (ownMethod?.inherited s name 50) with
        | some f => return some (← create (.instance (.kind "bound") [("function".toList, f), ("self".toList, self)]))
        | none => return some (.method self ("base ".toList ++ name))
      | _ => return none
    | _ => return none

/-- What a name after a point stands for; there has to be something. -/
def part (v : Value) (name : Text) : Running Value := do
  match ← partOf? v name with
  | some w => return w
  | none =>
    let s ← store
    let n := Raw.text name
    let (message, candidates) : String × List String := match v with
      | .module mod =>
        ("module '" ++ (if mod == "os.path" then "posixpath" else mod) ++ "' has no attribute '" ++ n ++ "'",
          ((moduleFunctions.lookup mod).getD []).mergeSort fun a b => Raw.atMost a.toList b.toList)
      | .kind k => ("type object '" ++ k ++ "' has no attribute '" ++ n ++ "'", methodsOf k)
      | .object i =>
        match s.at i with
        | .kind k => ("type object '" ++ Raw.text k.name ++ "' has no attribute '" ++ n ++ "'", [])
        | .instance _ fs =>
          ("'" ++ v.kindName s ++ "' object has no attribute '" ++ n ++ "'", fs.map fun e => Raw.text e.1)
        | _ => ("'" ++ v.kindName s ++ "' object has no attribute '" ++ n ++ "'", methodsOf (v.kindName s))
      | v => ("'" ++ v.kindName s ++ "' object has no attribute '" ++ n ++ "'", methodsOf (v.kindName s))
    let hint : List (Text × Value) := match suggestion? name (candidates.map String.toList) with
      | some t => [("hint".toList, .text t)]
      | none => []
    raiseWith "AttributeError" [.text message.toList] hint

/-- The value of a method of a value. -/
def ask? (m : Means) (self : Value) (name : Text) (args : List Value) (named : List (Text × Value)) :
    Running (Option Value) := do
  let s ← store
  let n := Raw.text name
  match self with
  | .text t =>
    match n with
    | "format" => return some (.text (← bracesFormatted m args named part (t.length + 1) 0 t))
    | "encode" =>
      match args.head? with
      | some (.text e) =>
        let label := Raw.text (Raw.toLower e)
        if label == "ascii" || label == "latin-1" then
          return some (.octets (t.map fun c => Char.ofNat (c.toNat % 256)))
        else return some (.octets (Text.toRaw t))
      | _ => return some (.octets (Text.toRaw t))
    | n => commonMethod m t .text textOf n args named
  | .octets r => octetMethod m r n args named
  | .vast .. => return some .nothing
  | .tuple vs =>
    match n, args with
    | "count", [v] => return some (.int (vs.filter (Value.equal s v)).length)
    | "index", v :: _ =>
      match vs.findIdx? (Value.equal s v) with
      | some i => return some (.int i)
      | none => raise "ValueError" "tuple.index(x): x not in tuple"
    | _, _ => return none
  | .int _ | .truth _ | .member .. =>
    let k ← intOf self
    match n, args with
    | "bit_length", [] => return some (.int (if k = 0 then 0 else Nat.log2 k.natAbs + 1 : Nat))
    | "bit_count", [] => return some (.int ((Raw.digits 2 k.natAbs).filter (· == '1')).length)
    | "conjugate", [] => return some (.int k)
    | "to_bytes", args =>
      let size := (← intOf (args.getD 0 (.int 1))).toNat
      let big := match args.drop 1, named.lookup "byteorder".toList with
        | .text t :: _, _ | _, some (.text t) => t == "big".toList
        | _, _ => true
      let octets := (List.range size).map fun i => Char.ofNat (k.toNat / Nat.pow 256 i % 256)
      return some (.octets (if big then octets.reverse else octets))
    | _, _ => return none
  | .real f =>
    match n with
    | "is_integer" => return some (.truth (f.floor == f))
    | "conjugate" => return some self
    | _ => return none
  | .kind k =>
    match k, n, args with
    | "int", "from_bytes", v :: rest =>
      let r := (v.octets? s).getD []
      let big := match rest, named.lookup "byteorder".toList with
        | .text t :: _, _ | _, some (.text t) => t == "big".toList
        | _, _ => true
      let value : Nat := (if big then r else r.reverse).foldl (fun n c => n * 256 + c.toNat) 0
      return some (.int value)
    | "dict", "fromkeys", v :: rest =>
      let keys ← itemsOf m v
      return some (← create (.dict (keys.foldl (fun es k => withEntry s k (rest.headD .nothing) es) [])))
    | "bytes", "fromhex", .text t :: _ =>
      let ds := t.filter Raw.isHex
      return some (.octets ((List.range (ds.length / 2)).map fun i => Char.ofNat (Raw.valueIn 16 ((ds.drop (2 * i)).take 2))))
    | _, "__init__", .object i :: rest =>
      match s.at i with
      | .mishap x => put i (.mishap { x with args := rest })
      | _ => pure ()
      return some .nothing
    | "str", n, .text t :: rest => commonMethod m t .text textOf n rest named
    | _, _, v :: rest => return some (← m.call (.method v name) rest named)
    | _, _, [] => raiseKind ("unbound method " ++ k ++ "." ++ n ++ "() needs an argument")
  | .under i =>
    match s.at i with
    | .stream st => streamMethod m i st true n args
    | _ => return none
  | .object i =>
    match s.at i with
    | .list vs => listMethod m i vs n args named
    | .dict es => dictMethod m i es n args named
    | .set frozen vs => setMethod m i frozen vs n args
    | .octetArray r =>
      match n, args with
      | "append", [v] =>
        put i (.octetArray (r ++ [Char.ofNat (← intOf v).toNat]))
        return some .nothing
      | "extend", [v] =>
        let more ← match v.octets? s with
          | some q => pure q
          | none => (← itemsOf m v).mapM fun w => do return Char.ofNat (← intOf w).toNat
        put i (.octetArray (r ++ more))
        return some .nothing
      | "clear", [] =>
        put i (.octetArray [])
        return some .nothing
      | n, args => octetMethod m r n args named
    | .stream st => streamMethod m i st st.octets n args
    | .instance (.kind "Popen") _ | .instance (.kind "CompletedProcess") _ => processMethod m i n args named
    | .instance (.kind "Thread") fs =>
      if n == "start" || n == "run" then
        let inner ← match fs.lookup "args".toList with
          | some v => itemsOf m v
          | none => pure []
        let _ ← m.call ((fs.lookup "target".toList).getD .nothing) inner []
      return some (if n == "is_alive" then .truth false else .nothing)
    | .mishap x =>
      match n with
      | "base __init__" | "__init__" =>
        put i (.mishap { x with args := args })
        return some .nothing
      | "with_traceback" => return some self
      | "__str__" | "base __str__" =>
        return some (.text (self.printed s))
      | "add_note" => return some .nothing
      | _ => return none
    | .kind _ =>
      match n, args with
      | "__init__", .object j :: rest =>
        match s.at j with
        | .mishap x => put j (.mishap { x with args := rest })
        | _ => pure ()
        return some .nothing
      | _, _ => return none
    | .instance _ _ => if n.startsWith "base " then return some .nothing else return none
    | _ => return none
  | _ => return none

end Running
end RunMeter.Machine.Python
