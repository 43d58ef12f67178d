import RunMeter.Machine.Format
import RunMeter.Machine.Utility.Python.Reading
import RunMeter.Text.Printable

/-!
# RunMeter.Machine.Utility.Python.Value — values, objects, and how they are shown

A value is plain, or it names an object of the store: something that can change, or that is one and the same
wherever it is named.

* `Value.shown`: a value as programs write it.
* `Value.equal`, `Value.compare?`: sameness and order.
* `Form.render`: a value in a format.

Nothing that is proved depends on this module.
-/

namespace RunMeter.Machine.Python

/-- A value. -/
inductive Value where
  | nothing
  | ellipsis
  | truth (b : Bool)
  | int (n : Int)
  | real (f : Float)
  | text (t : Text)
  | octets (r : Raw)
  | tuple (items : List Value)
  | range (first last step : Int)
  | slice (first last step : Value)
  /-- A long sequence that is one and the same over and over, and is not spread out. -/
  | vast (unit : Value) (count : Nat)
  /-- A number with a name, of some kind. -/
  | member (kind name : String) (n : Int)
  | object (n : Nat)
  /-- A stream of text taken as one of octets. -/
  | under (n : Nat)
  | builtin (name : String)
  | method (self : Value) (name : Text)
  | module (name : String)
  | kind (name : String)

instance : Inhabited Value := ⟨.nothing⟩

/-- Where the items of an iterator come from. -/
inductive Cursor where
  | items (left : List Value)
  /-- Numbers, of which there are so many. -/
  | numbers (next step : Int) (count : Nat)
  /-- Numbers without end. -/
  | endless (next step : Int)
  | lines (stream : Value)

/-- A stream of a file. -/
structure Stream where
  fd : Nat
  name : Value
  mode : String
  readable : Bool
  writable : Bool
  /-- Whether it is one of octets. -/
  octets : Bool
  /-- Whether an end of line makes it write what is kept. -/
  byLine : Bool
  /-- Whether everything is written at once. -/
  prompt : Bool
  closed : Bool
  /-- Text on its way, and octets after it, the last first. -/
  pending : List Raw
  pendingSize : Nat
  kept : List Raw
  keptSize : Nat
  /-- What has been read and not been used. -/
  ahead : Raw
  atEnd : Bool

/-- What a function does. -/
inductive Body where
  | lines (ls : List Line)
  | expr (e : Expr)

/-- A function of a program. -/
structure Function where
  name : Text
  parameters : List (Taking × Text × Option Value)
  locals : List Text
  body : Body
  /-- Whether it gives values one after another. -/
  yields : Bool
  /-- The scope that it was made in. -/
  scope : Nat

/-- A place in a program: a file, a function and a line, and what is shown of that line. -/
structure Spot where
  file : Text
  function : Text
  line : Nat
  source : List Text
  deriving BEq

/-- An exception. -/
structure Mishap where
  kind : Value
  args : List Value
  attributes : List (Text × Value)
  /-- The exception that was being dealt with, and the one that is said to be the cause. -/
  context : Option Nat
  cause : Option Nat
  /-- Whether the context is not told. -/
  bare : Bool
  trace : List Spot

/-- A kind of objects of a program. -/
structure Kind where
  name : Text
  bases : List Value
  attributes : List (Text × Value)

/-- An object. -/
inductive Object where
  | list (items : Array Value)
  | dict (entries : List (Value × Value))
  | set (frozen : Bool) (items : List Value)
  | octetArray (r : Raw)
  /-- The keys, the values or the entries of a mapping. -/
  | view (what : String) (dict : Nat)
  | iterator (c : Cursor)
  | stream (s : Stream)
  | function (f : Function)
  | kind (k : Kind)
  | instance (kind : Value) (attributes : List (Text × Value))
  | mishap (m : Mishap)

/-- The objects of a program. -/
abbrev Store := Array Object

/-- The object with a number. -/
def Store.at (s : Store) (n : Nat) : Object := s.getD n (.list #[])

/-- The kinds of exceptions, each with the one that it belongs to. -/
def mishapKinds : List (String × String) :=
  [("SystemExit", "BaseException"), ("KeyboardInterrupt", "BaseException"), ("GeneratorExit", "BaseException"),
   ("Exception", "BaseException"), ("ArithmeticError", "Exception"), ("ZeroDivisionError", "ArithmeticError"),
   ("OverflowError", "ArithmeticError"), ("FloatingPointError", "ArithmeticError"), ("AssertionError", "Exception"),
   ("AttributeError", "Exception"), ("BufferError", "Exception"), ("EOFError", "Exception"),
   ("ImportError", "Exception"), ("ModuleNotFoundError", "ImportError"), ("LookupError", "Exception"),
   ("IndexError", "LookupError"), ("KeyError", "LookupError"), ("MemoryError", "Exception"), ("NameError", "Exception"),
   ("UnboundLocalError", "NameError"), ("OSError", "Exception"), ("BlockingIOError", "OSError"),
   ("ChildProcessError", "OSError"), ("ConnectionError", "OSError"), ("BrokenPipeError", "ConnectionError"),
   ("FileExistsError", "OSError"), ("FileNotFoundError", "OSError"), ("InterruptedError", "OSError"),
   ("IsADirectoryError", "OSError"), ("NotADirectoryError", "OSError"), ("PermissionError", "OSError"),
   ("ProcessLookupError", "OSError"), ("TimeoutError", "OSError"), ("ReferenceError", "Exception"),
   ("RuntimeError", "Exception"), ("NotImplementedError", "RuntimeError"), ("RecursionError", "RuntimeError"),
   ("StopIteration", "Exception"), ("SyntaxError", "Exception"), ("IndentationError", "SyntaxError"),
   ("SystemError", "Exception"), ("TypeError", "Exception"), ("ValueError", "Exception"),
   ("UnicodeError", "ValueError"), ("UnicodeDecodeError", "UnicodeError"), ("UnicodeEncodeError", "UnicodeError"),
   ("Warning", "Exception"), ("UserWarning", "Warning"), ("DeprecationWarning", "Warning"),
   ("RuntimeWarning", "Warning"), ("subprocess.SubprocessError", "Exception"),
   ("subprocess.CalledProcessError", "subprocess.SubprocessError"),
   ("subprocess.TimeoutExpired", "subprocess.SubprocessError")]

/-- Whether a kind that is always there is one of exceptions. -/
def isMishapKind (name : String) : Bool :=
  name == "BaseException" || mishapKinds.any fun k => k.1 == name

namespace Value

/-- The number that a value stands for in arithmetic. -/
def int? : Value → Option Int
  | int n => some n
  | truth b => some (if b then 1 else 0)
  | member _ _ n => some n
  | _ => none

/-- The number of a value as a floating-point one. -/
def real? (v : Value) : Option Float :=
  match v with
  | real f => some f
  | v => v.int?.map Float.ofInt

/-- The name of a value's kind. -/
def kindName (s : Store) : Value → String
  | nothing => "NoneType"
  | ellipsis => "ellipsis"
  | truth _ => "bool"
  | int _ => "int"
  | real _ => "float"
  | text _ => "str"
  | octets _ => "bytes"
  | tuple _ => "tuple"
  | range .. => "range"
  | slice .. => "slice"
  | vast u _ => match u with
    | text _ => "str"
    | octets _ => "bytes"
    | tuple _ => "tuple"
    | builtin _ => "bytearray"
    | _ => "list"
  | member k _ _ => k
  | under _ => "_io.BufferedWriter"
  | builtin n => if n.contains '.' then "builtin_function_or_method" else "builtin_function_or_method"
  | method (object n) _ => match Store.at s n with
    | .instance .. => "method"
    | _ => "builtin_function_or_method"
  | method _ _ => "builtin_function_or_method"
  | module _ => "module"
  | kind _ => "type"
  | object n => match Store.at s n with
    | .list _ => "list"
    | .dict _ => "dict"
    | .set frozen _ => if frozen then "frozenset" else "set"
    | .octetArray _ => "bytearray"
    | .view what _ => what
    | .iterator _ => "iterator"
    | .stream s =>
      if !s.octets then "_io.TextIOWrapper" else if s.writable then "_io.BufferedWriter" else "_io.BufferedReader"
    | .function _ => "function"
    | .kind _ => "type"
    | .instance (kind k) _ => k
    | .instance (object k) _ | .mishap { kind := object k, .. } => match Store.at s k with
      | .kind k => Raw.text k.name
      | _ => "object"
    | .mishap { kind := kind k, .. } => k
    | _ => "object"

/-! ## How values are shown -/

/-- The fewest digits that read back as a positive number, and its decimal exponent. -/
def shortest (f : Float) : Raw × Int :=
  match Quantity.ofFloat f with
  | ⟨_, .finite q⟩ =>
    let tries := (List.range 17).map fun p => Quantity.scaled q p
    let readsBack (t : Raw × Int) : Bool :=
      let places : Int := t.2 - (t.1.length - 1 : Nat)
      Float.ofScientific (Raw.valueIn 10 t.1) (places < 0) places.natAbs == f.abs
    (tries.find? readsBack).getD (Quantity.scaled q 16)
  | _ => ([], 0)

/-- A floating-point number as programs write it. -/
def realShown (f : Float) : Text :=
  match Quantity.ofFloat f with
  | ⟨_, .undefined⟩ => "nan".toList
  | ⟨negative, .infinite⟩ => (if negative then "-inf" else "inf").toList
  | ⟨negative, .finite q⟩ =>
    let sign : Text := if negative then ['-'] else []
    if q = 0 then sign ++ "0.0".toList
    else
      let (ds, e) := shortest f
      let ds := Raw.dropEndWhile (· == '0') ds
      if e < -4 || e ≥ 16 then
        sign ++ ds.take 1 ++ (if ds.length > 1 then '.' :: ds.drop 1 else []) ++ 'e' :: Quantity.exponentText e
      else if e < 0 then sign ++ "0.".toList ++ List.replicate (-e - 1).toNat '0' ++ ds
      else
        let whole := ds.take (e + 1).toNat
        let fraction := ds.drop (e + 1).toNat
        sign ++ whole ++ List.replicate ((e + 1).toNat - whole.length) '0' ++
            '.' :: (if fraction.isEmpty then ['0'] else fraction)

/-- The quote that a text is shown in. -/
def quoteFor (t : Text) : Char := if t.contains '\'' && !t.contains '"' then '"' else '\''

/-- So many digits in base sixteen. -/
def hexDigits (width n : Nat) : Text := Raw.padZeros width (Raw.digits 16 n)

/-- A character as it is shown between quotes. -/
def charShown (quote c : Char) : Text :=
  if c = quote || c = '\\' then ['\\', c]
  else match c with
    | '\n' => ['\\', 'n']
    | '\r' => ['\\', 'r']
    | '\t' => ['\\', 't']
    | c =>
      match Text.stray? c with
      | some n => "\\udc".toList ++ hexDigits 2 n
      | none =>
        let n := c.toNat
        if n < 127 then (if n < 32 then "\\x".toList ++ hexDigits 2 n else [c])
        else if Printable.isPrintable c then [c]
        else if n < 256 then "\\x".toList ++ hexDigits 2 n
        else if n < 65536 then "\\u".toList ++ hexDigits 4 n
        else "\\U".toList ++ hexDigits 8 n

/-- A text as programs write it. -/
def textShown (t : Text) : Text :=
  let q := quoteFor t
  q :: t.flatMap (charShown q) ++ [q]

/-- Octets as programs write them. -/
def octetsShown (r : Raw) : Text :=
  let q := quoteFor r
  'b' :: q :: r.flatMap (fun c => if c.toNat ≥ 127 then "\\x".toList ++ hexDigits 2 c.toNat else charShown q c) ++ [q]

/-- Parts with commas between them. -/
def listed (parts : List Text) : Text := Raw.joined ", ".toList parts

/-- The number that is told of an object's place. -/
def placeOf (n : Nat) : Text := "0x7f".toList ++ hexDigits 10 (0x1234560000 + 64 * n)

/-- The name of a kind with that of its module. -/
def kindShown (s : Store) (v : Value) : Text :=
  match v with
  | kind n => n.toList
  | object n => match Store.at s n with
    | .kind k => "__main__.".toList ++ k.name
    | _ => "object".toList
  | _ => "object".toList

/-- The text of an exception. -/
def mishapText (one many : Value → Text) (m : Mishap) : Text :=
  let isFile := (m.attributes.lookup "errno".toList).isSome
  if isFile then
    match m.args with
    | number :: message :: _ =>
      let path := match m.attributes.lookup "filename".toList with
        | some nothing | none => []
        | some p => ": ".toList ++ many p
      let second := match m.attributes.lookup "filename2".toList with
        | some p => " -> ".toList ++ many p
        | none => []
      "[Errno ".toList ++ one number ++ "] ".toList ++ one message ++ path ++ second
    | _ => []
  else match m.attributes.lookup "told".toList with
    | some v => one v
    | none =>
      match m.args with
      | [] => []
      | [v] => if m.kind matches kind "KeyError" then many v else one v
      | vs => many (tuple vs)

/-- The items of a view of a mapping. -/
def viewed (s : Store) (what : String) (dict : Nat) : List Value :=
  match s.at dict with
  | .dict es => es.map fun (k, v) =>
    if what == "dict_keys" then k else if what == "dict_values" then v else tuple [k, v]
  | _ => []

/-- A value as programs write it, or as it is printed if it is `plain`. -/
def written (s : Store) : (fuel : Nat) → (plain : Bool) → Value → Text
  | 0, _, _ => "...".toList
  | fuel + 1, plain, v =>
    let inner := written s fuel false
    let entry (e : Value × Value) : Text := inner e.1 ++ ": ".toList ++ inner e.2
    match v with
    | nothing => "None".toList
    | ellipsis => "Ellipsis".toList
    | truth b => (if b then "True" else "False").toList
    | int n => Raw.ofInt n
    | real f => realShown f
    | text t => if plain then t else textShown t
    | octets r => octetsShown r
    | tuple [v] => '(' :: inner v ++ ",)".toList
    | tuple vs => '(' :: listed (vs.map inner) ++ [')']
    | range a b c => "range(".toList ++ Raw.ofInt a ++ ", ".toList ++ Raw.ofInt b ++
        (if c = 1 then [] else ", ".toList ++ Raw.ofInt c) ++ [')']
    | slice a b c => "slice(".toList ++ listed [inner a, inner b, inner c] ++ [')']
    | vast (text t) n => if plain then (List.replicate n t).flatten else textShown (List.replicate n t).flatten
    | vast (octets r) n => octetsShown (List.replicate n r).flatten
    | vast (builtin _) n => "bytearray(".toList ++ octetsShown (List.replicate n '\x00') ++ [')']
    | vast (tuple vs) n => inner (tuple (List.replicate n vs).flatten)
    | vast v n => '[' :: listed ((List.replicate n (inner v))) ++ [']']
    | member k name n =>
      if plain then Raw.ofInt n else '<' :: k.toList ++ '.' :: name.toList ++ ": ".toList ++ Raw.ofInt n ++ ['>']
    | under n => match Store.at s n with
      | .stream st =>
        "<_io.".toList ++ (if st.writable then "BufferedWriter" else "BufferedReader").toList ++ " name=".toList ++
          inner st.name ++ ['>']
      | _ => []
    | builtin n => "<built-in function ".toList ++ ((Raw.splitAt '.' n.toList).getLast?.getD []) ++ ['>']
    | method self name => match self with
      | object n => match Store.at s n with
        | .instance k _ =>
          "<bound method ".toList ++ kindShown s k ++ '.' :: name ++ " of ".toList ++ inner self ++ ['>']
        | _ =>
          "<built-in method ".toList ++ name ++ " of ".toList ++ (kindName s self).toList ++ " object at ".toList ++
              placeOf n ++ ['>']
      | _ =>
        "<built-in method ".toList ++ name ++ " of ".toList ++ (kindName s self).toList ++ " object at ".toList ++
            placeOf 0 ++ ['>']
    | module n =>
      if ["sys", "time", "builtins", "errno", "itertools", "signal"].contains n then
        "<module '".toList ++ n.toList ++ "' (built-in)>".toList
      else "<module '".toList ++ n.toList ++ "' from '/usr/lib/python3.11/".toList ++ n.toList ++ ".py'>".toList
    | kind n => "<class '".toList ++ n.toList ++ "'>".toList
    | object n =>
      match Store.at s n with
      | .list vs => '[' :: listed (vs.toList.map inner) ++ [']']
      | .dict es => '\x7b' :: listed (es.map entry) ++ ['\x7d']
      | .set frozen vs =>
        let body := '\x7b' :: listed (vs.map inner) ++ ['\x7d']
        if frozen then "frozenset(".toList ++ (if vs.isEmpty then [] else body) ++ [')']
        else if vs.isEmpty then "set()".toList else body
      | .octetArray r => "bytearray(".toList ++ octetsShown r ++ [')']
      | .view what d => what.toList ++ "([".toList ++ listed ((viewed s what d).map inner) ++ "])".toList
      | .iterator _ => "<iterator object at ".toList ++ placeOf n ++ ['>']
      | .stream st =>
        if st.octets then "<_io.".toList ++ (if st.writable then "BufferedWriter" else "BufferedReader").toList ++ " name=".toList ++
          inner st.name ++ ['>']
        else "<_io.TextIOWrapper name=".toList ++ inner st.name ++ " mode=".toList ++ textShown st.mode.toList ++
          " encoding='utf-8'>".toList
      | .function f => "<function ".toList ++ f.name ++ " at ".toList ++ placeOf n ++ ['>']
      | .kind k => "<class '__main__.".toList ++ k.name ++ "'>".toList
      | .instance k attributes =>
        match k with
        | kind "CompletedProcess" => "CompletedProcess(".toList ++ listed (attributes.filterMap fun (a, v) =>
            if v matches nothing then none else some (a ++ '=' :: inner v)) ++ [')']
        | k => '<' :: kindShown s k ++ " object at ".toList ++ placeOf n ++ ['>']
      | .mishap m =>
        if plain then mishapText (written s fuel true) inner m
        else
          let name := (Raw.splitAt '.' (kindShown s m.kind)).getLast?.getD []
          match m.args with
          | [v] => name ++ '(' :: inner v ++ [')']
          | vs => name ++ '(' :: listed (vs.map inner) ++ [')']

/-- How deep values are shown. -/
def depth : Nat := 200

/-- A value as programs write it. -/
def shown (s : Store) (v : Value) : Text := written s depth false v

/-- A value as it is printed. -/
def printed (s : Store) (v : Value) : Text := written s depth true v

/-! ## Sameness and order -/

/-- The items of a sequence in place. -/
def items? (s : Store) : Value → Option (List Value)
  | tuple vs => some vs
  | object n => match Store.at s n with
    | .list vs => some vs.toList
    | .view what d => some (viewed s what d)
    | _ => none
  | vast (tuple vs) n => some (List.replicate n vs).flatten
  | vast (text t) n => some ((List.replicate n t).flatten.map fun c => text [c])
  | vast (octets r) n => some ((List.replicate n r).flatten.map fun c => int c.toNat)
  | vast (builtin _) n => some (List.replicate n (int 0))
  | vast v n => some (List.replicate n v)
  | _ => none

/-- Octets of a value that holds such. -/
def octets? (s : Store) : Value → Option Raw
  | octets r => some r
  | vast (octets r) n => some (List.replicate n r).flatten
  | vast (builtin _) n => some (List.replicate n '\x00')
  | object n => match Store.at s n with
    | .octetArray r => some r
    | _ => none
  | _ => none

/-- Whether two values are equal. -/
def equalWithin (s : Store) : (fuel : Nat) → Value → Value → Bool
  | 0, _, _ => false
  | fuel + 1, a, b =>
    let same := equalWithin s fuel
    let sameAll (vs ws : List Value) : Bool := vs.length = ws.length && (vs.zip ws).all fun (v, w) => same v w
    match a.int?, b.int? with
    | some m, some n => m = n
    | _, _ =>
      match a.real?, b.real? with
      | some f, some g => f == g
      | _, _ =>
        match a, b with
        | nothing, nothing => true
        | ellipsis, ellipsis => true
        | text t, text u => t == u
        | tuple vs, tuple ws => sameAll vs ws
        | range a b c, range a' b' c' => a = a' && b = b' && c = c'
        | vast u m, vast v n => m = n && same u v
        | builtin m, builtin n => m == n
        | kind m, kind n => m == n
        | module m, module n => m == n
        | method v m, method w n => m == n && same v w
        | under m, under n => m = n
        | object m, object n =>
          m = n || match Store.at s m, Store.at s n with
            | .list vs, .list ws => vs.size = ws.size && sameAll vs.toList ws.toList
            | .dict es, .dict fs => es.length = fs.length && es.all fun (k, v) => fs.any fun (k', v') => same k k' && same v v'
            | .set _ vs, .set _ ws => vs.length = ws.length && vs.all fun v => ws.any (same v)
            | .octetArray r, .octetArray q => r == q
            | _, _ => false
        | a, b =>
          match a.octets? s, b.octets? s with
          | some r, some q => r == q
          | _, _ => false

/-- Whether two values are equal. -/
def equal (s : Store) (a b : Value) : Bool := equalWithin s depth a b

/-- Whether two values are one and the same. -/
def identical (s : Store) (a b : Value) : Bool :=
  match a, b with
  | object m, object n => m = n
  | truth a, truth b => a == b
  | truth _, _ | _, truth _ => false
  | int m, int n => m = n
  | int _, _ | _, int _ => false
  | a, b => equal s a b

/-- The order of two texts. -/
def textOrder : Text → Text → Ordering
  | [], [] => .eq
  | [], _ => .lt
  | _, [] => .gt
  | a :: as, b :: bs => if a = b then textOrder as bs else if a < b then .lt else .gt

/-- The order of two values, if they have one; `some none` stands for numbers without order. -/
def orderWithin (s : Store) : (fuel : Nat) → Value → Value → Option (Option Ordering)
  | 0, _, _ => none
  | fuel + 1, a, b =>
    let rec sequences : List Value → List Value → Option (Option Ordering)
      | [], [] => some (some .eq)
      | [], _ => some (some .lt)
      | _, [] => some (some .gt)
      | v :: vs, w :: ws => if equal s v w then sequences vs ws else orderWithin s fuel v w
    match a.int?, b.int? with
    | some m, some n => some (some (compare m n))
    | _, _ =>
      match a.real?, b.real? with
      | some f, some g =>
        some (if f < g then some .lt else if f > g then some .gt else if f == g then some .eq else none)
      | _, _ =>
        match a, b with
        | text t, text u => some (some (textOrder t u))
        | tuple vs, tuple ws => sequences vs ws
        | a, b =>
          match a.octets? s, b.octets? s with
          | some r, some q => some (some (textOrder r q))
          | _, _ =>
            match a, b with
            | object _, object _ =>
              match a.items? s, b.items? s with
              | some vs, some ws => sequences vs ws
              | _, _ => none
            | _, _ => none

/-- Whether a value counts as true. -/
def isTrue (s : Store) : Value → Bool
  | nothing => false
  | truth b => b
  | int n | member _ _ n => n != 0
  | real f => f != 0
  | text t => !t.isEmpty
  | octets r => !r.isEmpty
  | tuple vs => !vs.isEmpty
  | range a b c => if c > 0 then a < b else a > b
  | object n => match Store.at s n with
    | .list vs => !vs.isEmpty
    | .dict es => !es.isEmpty
    | .set _ vs => !vs.isEmpty
    | .octetArray r => !r.isEmpty
    | .view what d => !(viewed s what d).isEmpty
    | _ => true
  | _ => true

/-- Whether a value can be a key. -/
def isKey (s : Store) : (fuel : Nat) → Value → Bool
  | 0, _ => false
  | fuel + 1, v =>
    match v with
    | tuple vs => vs.all (isKey s fuel)
    | object n => match Store.at s n with
      | .list _ | .dict _ | .octetArray _ => false
      | .set frozen _ => frozen
      | _ => true
    | _ => true

end Value

/-! ## Formats -/

/-- How a value is shown in a field. -/
structure Form where
  fill : Char
  align : Option Char
  sign : Char
  alternate : Bool
  zeros : Bool
  width : Nat
  grouping : Option Char
  precision : Option Nat
  letter : Option Char

namespace Form

/-- Reads a format. -/
def ofText (t : Text) : Option Form :=
  let isAlign (c : Char) : Bool := c = '<' || c = '>' || c = '^' || c = '='
  let (fill, align, rest) : Char × Option Char × Text := match t with
    | f :: a :: rest =>
      if isAlign a then (f, some a, rest) else if isAlign f then (' ', some f, a :: rest) else (' ', none, t)
    | [a] => if isAlign a then (' ', some a, []) else (' ', none, t)
    | [] => (' ', none, [])
  let (sign, rest) : Char × Text := match rest with
    | '+' :: rest => ('+', rest)
    | '-' :: rest => ('-', rest)
    | ' ' :: rest => (' ', rest)
    | rest => ('-', rest)
  let (alternate, rest) : Bool × Text := match rest with
    | '#' :: rest => (true, rest)
    | rest => (false, rest)
  let (zeros, rest) : Bool × Text := match rest with
    | '0' :: rest => (true, rest)
    | rest => (false, rest)
  let width := rest.takeWhile Char.isDigit
  let rest := rest.drop width.length
  let (grouping, rest) : Option Char × Text := match rest with
    | ',' :: rest => (some ',', rest)
    | '_' :: rest => (some '_', rest)
    | rest => (none, rest)
  let (precision, rest) : Option Nat × Text := match rest with
    | '.' :: rest =>
      let ds := rest.takeWhile Char.isDigit
      (some (Raw.valueIn 10 ds), rest.drop ds.length)
    | rest => (none, rest)
  match rest with
  | [] => some ⟨fill, align, sign, alternate, zeros, Raw.valueIn 10 width, grouping, precision, none⟩
  | [c] => some ⟨fill, align, sign, alternate, zeros, Raw.valueIn 10 width, grouping, precision, some c⟩
  | _ => none

/-- Puts a text into a field, on the right if `toRight` and nothing else is said. -/
def padded (f : Form) (toRight : Bool) (sign body : Text) : Text :=
  let length := sign.length + body.length
  let gap := f.width - length
  let fill := if f.zeros && f.align.isNone then '0' else f.fill
  let align := f.align.getD (if f.zeros then '=' else if toRight then '>' else '<')
  match align with
  | '<' => sign ++ body ++ List.replicate gap fill
  | '^' => List.replicate (gap / 2) fill ++ sign ++ body ++ List.replicate (gap - gap / 2) fill
  | '=' => sign ++ List.replicate gap fill ++ body
  | _ => List.replicate gap fill ++ sign ++ body

/-- Digits in groups, with a sign between them. -/
def grouped (mark : Option Char) (size : Nat) (ds : Text) : Text :=
  match mark with
  | none => ds
  | some m =>
    let rec inGroups : (fuel : Nat) → Text → List Text
      | 0, t => [t]
      | fuel + 1, t => if t.length ≤ size then [t] else t.take size :: inGroups fuel (t.drop size)
    (Raw.joined [m] (inGroups ds.length ds.reverse)).reverse

/-- The sign of a number. -/
def signOf (f : Form) (negative : Bool) : Text :=
  if negative then ['-'] else if f.sign = '-' then [] else [f.sign]

/-- A floating-point number with a letter. -/
def realBody (f : Form) (letter : Char) (x : Float) : Text × Text :=
  let q := Quantity.ofFloat x
  let sign := f.signOf q.negative
  let upper (t : Text) : Text := if letter.isUpper then Raw.toUpper t else t
  match q.magnitude with
  | .undefined => (f.signOf false, upper "nan".toList)
  | .infinite => (sign, upper "inf".toList)
  | .finite r =>
    let p := f.precision.getD 6
    let body := match letter.toLower with
      | 'f' => Quantity.fixed r p f.alternate
      | 'e' => Quantity.exponential r p f.alternate 'e'
      | '%' => Quantity.fixed (r * 100) p f.alternate ++ ['%']
      | _ => Quantity.general r p f.alternate 'e'
    let whole := body.takeWhile Char.isDigit
    (sign, upper (grouped f.grouping 3 whole ++ body.drop whole.length))

/-- A value in a format, or what is wrong with that. -/
def render (f : Form) (s : Store) (v : Value) : Except String Text :=
  let unknown (kind : String) : Except String Text :=
    .error ("Unknown format code '" ++ String.singleton (f.letter.getD ' ') ++ "' for object of type '" ++ kind ++ "'")
  let real (x : Float) : Except String Text :=
    match f.letter with
    | none | some 'n' =>
      match f.precision with
      | none =>
        let body := Value.realShown x
        let (sign, digits) := match body with
          | '-' :: rest => (f.signOf true, rest)
          | rest => (f.signOf false, rest)
        let whole := digits.takeWhile Char.isDigit
        .ok (f.padded true sign (grouped f.grouping 3 whole ++ digits.drop whole.length))
      | some _ =>
        let (sign, body) := f.realBody 'g' x
        let body := if body.all Char.isDigit then body ++ ".0".toList else body
        .ok (f.padded true sign body)
    | some c =>
      if "eEfFgG%".toList.contains c then
        let (sign, body) := f.realBody c x
        .ok (f.padded true sign body)
      else unknown "float"
  match v with
  | .text t =>
    match f.letter with
    | none | some 's' => .ok (f.padded false [] (match f.precision with
        | some p => t.take p
        | none => t))
    | _ => unknown "str"
  | .real x => real x
  | v =>
    match v.int? with
    | some n =>
      let based (base size : Nat) (mark : String) (upper : Bool) : Except String Text :=
        let ds := grouped f.grouping size (Raw.digits base n.natAbs)
        let body := (if f.alternate then mark.toList else []) ++ ds
        .ok (f.padded true (f.signOf (n < 0)) (if upper then Raw.toUpper body else body))
      match f.letter with
      | none | some 'd' | some 'n' =>
        if (v matches .truth _) && f.letter.isNone then .ok (f.padded false [] (v.printed s))
        else .ok (f.padded true (f.signOf (n < 0)) (grouped f.grouping 3 (Raw.ofNat n.natAbs)))
      | some 'x' => based 16 4 "0x" false
      | some 'X' => based 16 4 "0x" true
      | some 'o' => based 8 4 "0o" false
      | some 'b' => based 2 4 "0b" false
      | some 'c' => .ok (f.padded false [] [Char.ofNat n.toNat])
      | some c => if "eEfFgG%".toList.contains c then real (Float.ofInt n) else unknown "int"
    | none => .error ("unsupported format string passed to " ++ v.kindName s ++ ".__format__")

end Form

end RunMeter.Machine.Python
