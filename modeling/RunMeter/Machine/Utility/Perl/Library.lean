import RunMeter.Machine.Calendar
import RunMeter.Machine.Utility.Perl.State

/-!
# RunMeter.Machine.Utility.Perl.Library — functions of values alone

* `pureCall?`: the value of a function that neither changes anything nor asks the system.

Nothing that is proved depends on this module.
-/

namespace RunMeter.Machine.Perl

/-- The first place from one on where a text stands in another. -/
def placeOf? (part text : Raw) (first : Nat) : Option Nat :=
  let rec look : Nat → Raw → Option Nat
    | i, [] => if part.isEmpty then some i else none
    | i, r@(_ :: rest) => if part.isPrefixOf r then some i else look (i + 1) rest
  look first (text.drop first)

/-- The last place up to one where a text stands in another. -/
def lastPlaceOf? (part text : Raw) (last : Nat) : Option Nat :=
  ((List.range (min last text.length + 1)).reverse).find? fun i => part.isPrefixOf (text.drop i)

/-- Where a part of a text begins and how long it is; nothing if it begins outside the text. -/
def partOf? (size : Nat) (first : Int) (length : Option Int) : Option (Nat × Nat) :=
  let start : Int := if first < 0 then size + first else first
  let stop : Int := match length with
    | none => size
    | some n => if n < 0 then size + n else start + n
  if start > size || (start < 0 && stop < 0) then none
  else
    let a := (max start 0).toNat
    let b := (min stop size).toNat
    some (a, b - a)

/-- A text in which all but letters and digits have a backslash before them. -/
def quotemeta (r : Raw) : Raw :=
  r.flatMap fun c => if isWordChar c || c.toNat > 127 then [c] else ['\\', c]

/-- The number that a text in base eight, or in one that it tells itself, stands for. -/
def octal (r : Raw) : Nat :=
  let body := (Raw.trim r).filter (· != '_')
  match body with
  | '0' :: 'x' :: rest | '0' :: 'X' :: rest | 'x' :: rest => Raw.valueIn 16 (rest.takeWhile Raw.isHex)
  | '0' :: 'b' :: rest | '0' :: 'B' :: rest | 'b' :: rest => Raw.valueIn 2 (rest.takeWhile fun c => c = '0' || c = '1')
  | '0' :: 'o' :: rest => Raw.valueIn 8 (rest.takeWhile Raw.isOctal)
  | rest => Raw.valueIn 8 (rest.takeWhile Raw.isOctal)

/-- The number that a text in base sixteen stands for. -/
def hexadecimal (r : Raw) : Nat :=
  let body := r.filter (· != '_')
  match body with
  | '0' :: 'x' :: rest | '0' :: 'X' :: rest | 'x' :: rest => Raw.valueIn 16 (rest.takeWhile Raw.isHex)
  | rest => Raw.valueIn 16 (rest.takeWhile Raw.isHex)

/-- A number cut towards zero. -/
def cutNumber (v : Value) : Value :=
  match v.number with
  | .real f =>
    if f.isFinite then
      let g := if f < 0 then Float.ceil f else Float.floor f
      match whole? g with
      | some n => .int n
      | none => .real g
    else .real f
  | n => n

/-- A floating-point number, as a whole one if it is. -/
def settledReal (f : Float) : Value := (Value.real f).settled

/-- Values without those that came before, by a key. -/
def unique (key : Value → Raw) (vs : List Value) : List Value :=
  (vs.foldl (fun (done : Std.HashMap Raw Unit × List Value) v =>
    let k := key v
    if done.1.contains k then done else (done.1.insert k (), v :: done.2)) (∅, [])).2.reverse

/-- The greater of two values, or the smaller. -/
def chosenOf (better : Value → Value → Bool) : List Value → Value
  | [] => .undefined
  | v :: vs => vs.foldl (fun a b => if better b a then b else a) v

/-- The numbers that names stand for. -/
def constantOf? (name : String) : Option Value :=
  match name with
  | "WNOHANG" => some (.int 1)
  | "WUNTRACED" => some (.int 2)
  | "EXIT_SUCCESS" => some (.int 0)
  | "EXIT_FAILURE" => some (.int 1)
  | "INT_MAX" => some (.int 2147483647)
  | "INT_MIN" => some (.int (-2147483648))
  | "UINT_MAX" => some (.int 4294967295)
  | "LONG_MAX" => some (.int 9223372036854775807)
  | "LONG_MIN" => some (.int (-9223372036854775808))
  | "DBL_MAX" => some (.real 1.7976931348623157e308)
  | "DBL_MIN" => some (.real 2.2250738585072014e-308)
  | "SIG_DFL" => some (.text "DEFAULT".toList)
  | "SIG_IGN" => some (.text "IGNORE".toList)
  | "LOCK_SH" => some (.int 1)
  | "LOCK_EX" => some (.int 2)
  | "LOCK_NB" => some (.int 4)
  | "LOCK_UN" => some (.int 8)
  | "SEEK_SET" => some (.int 0)
  | "SEEK_CUR" => some (.int 1)
  | "SEEK_END" => some (.int 2)
  | "O_RDONLY" => some (.int 0)
  | "O_WRONLY" => some (.int 1)
  | "O_RDWR" => some (.int 2)
  | "O_CREAT" => some (.int 64)
  | "O_EXCL" => some (.int 128)
  | "O_TRUNC" => some (.int 512)
  | "O_APPEND" => some (.int 1024)
  | name =>
    if name.startsWith "SIG" then
      (SignalNumber.named? (Raw.text (name.toList.drop 3))).map fun n => .int (n : Nat)
    else (Errno.table.find? fun e => e.symbol == name).map fun e => .int (e.number : Nat)

/-- The parts of a path: what it ends with, what is before it, and what it ends with without one of some endings. -/
def pathParts (path : Raw) : Raw × Raw :=
  let name := (path.reverse.takeWhile (· != '/')).reverse
  (path.take (path.length - name.length), name)

/-- The last part of a path. -/
def lastPart (path : Raw) : Raw :=
  let bare := Raw.dropEndWhile (· == '/') path
  if bare.isEmpty then path.take 1 else (pathParts bare).2

/-- A path without its last part. -/
def headPart (path : Raw) : Raw :=
  let bare := Raw.dropEndWhile (· == '/') path
  if bare.isEmpty then (if path.isEmpty then ['.'] else ['/'])
  else
    let head := (pathParts bare).1
    if head.isEmpty then ['.']
    else
      let cut := Raw.dropEndWhile (· == '/') head
      if cut.isEmpty then ['/'] else cut

/-- The parts of a time, as a list, or as a text. -/
def timeParts (seconds : Int) (many : Bool) : List Value :=
  let d := Date.ofSeconds seconds
  if many then
    [d.second, d.minute, d.hour, d.day, d.month - 1].map (fun n => Value.int (n : Nat)) ++
      [.int (d.year - 1900), .int (d.weekday : Nat), .int (d.yearDay - 1 : Nat), .int 0]
  else
    let form := "%a %b %e %H:%M:%S %Y".toList
    [.text (Calendar.formatted (Calendar.Shown.at Calendar.Zone.universal seconds 0) form)]

/-- The value of a function that neither changes anything nor asks the system, or what is wrong with its values. -/
def pureCall? (name : String) (args : List Value) (many : Bool) : Option (Except String (List Value)) :=
  let first := args.headD .undefined
  let second := args.getD 1 .undefined
  let one (v : Value) : Option (Except String (List Value)) := some (.ok [v])
  let text (r : Raw) : Option (Except String (List Value)) := one (.text r)
  let int (n : Int) : Option (Except String (List Value)) := one (.int n)
  let real (f : Float) : Option (Except String (List Value)) := one (.real f)
  match name with
  | "lc" | "fc" | "tolower" => text (Raw.toLower first.toText)
  | "uc" | "toupper" => text (Raw.toUpper first.toText)
  | "lcfirst" => match first.toText with
    | c :: rest => text (c.toLower :: rest)
    | [] => text []
  | "ucfirst" => match first.toText with
    | c :: rest => text (c.toUpper :: rest)
    | [] => text []
  | "length" => if first.isDefined then int first.toText.length else one .undefined
  | "chr" => text [Char.ofNat first.toNat]
  | "ord" => int ((first.toText.headD '\x00').toNat : Nat)
  | "int" | "trunc" => one (cutNumber first)
  | "abs" => match first.number with
    | .int n => int n.natAbs
    | v => real (Float.abs v.float)
  | "sqrt" =>
    if first.float < 0 then some (.error ("Can't take sqrt of " ++ Raw.text first.toText))
    else one (settledReal (Float.sqrt first.float))
  | "log" =>
    if first.float ≤ 0 then some (.error ("Can't take log of " ++ Raw.text first.toText))
    else real (Float.log first.float)
  | "sin" => real (Float.sin first.float)
  | "cos" => real (Float.cos first.float)
  | "exp" => real (Float.exp first.float)
  | "atan2" => real (Float.atan2 first.float second.float)
  | "floor" => one (settledReal (Float.floor first.float))
  | "ceil" => one (settledReal (Float.ceil first.float))
  | "round" => one (settledReal (Float.round first.float))
  | "pow" => one (settledReal (Float.pow first.float second.float))
  | "fmod" =>
    let a := first.float
    let b := second.float
    let q := a / b
    one (settledReal (a - (if q < 0 then Float.ceil q else Float.floor q) * b))
  | "hex" => int (hexadecimal first.toText : Nat)
  | "oct" => int (octal first.toText : Nat)
  | "quotemeta" => text (quotemeta first.toText)
  | "index" =>
    let t := first.toText
    let start := match args.drop 2 with
      | v :: _ => min v.toNat t.length
      | [] => 0
    int (match placeOf? second.toText t start with
      | some i => (i : Int)
      | none => -1)
  | "rindex" =>
    let t := first.toText
    let stop := match args.drop 2 with
      | v :: _ => if v.toInt < 0 then 0 else v.toNat
      | [] => t.length
    int (match lastPlaceOf? second.toText t stop with
      | some i => (i : Int)
      | none => -1)
  | "sprintf" => text (printedWith first.toText (args.drop 1))
  | "join" => text (Raw.joined first.toText ((args.drop 1).map Value.toText))
  | "reverse" => if many then some (.ok args.reverse) else text (args.flatMap Value.toText).reverse
  | "sum" | "sum0" =>
    if args.isEmpty then one (if name == "sum" then .undefined else .int 0)
    else one (args.foldl (fun a b => arithmetic (· + ·) (· + ·) a b) (.int 0))
  | "product" => one (args.foldl (fun a b => arithmetic (· * ·) (· * ·) a b) (.int 1))
  | "min" | "fmin" => one (chosenOf (fun a b => numberOrder a b == some .lt) args).number
  | "max" | "fmax" => one (chosenOf (fun a b => numberOrder a b == some .gt) args).number
  | "minstr" => one (chosenOf (fun a b => textOrder a.toText b.toText == .lt) args)
  | "maxstr" => one (chosenOf (fun a b => textOrder a.toText b.toText == .gt) args)
  | "uniq" | "uniqstr" =>
    let vs := unique Value.toText args
    if many then some (.ok vs) else int vs.length
  | "uniqnum" =>
    let vs := unique (fun v => v.number.settled.toText) args
    if many then some (.ok vs) else int vs.length
  | "head" =>
    let n := first.toInt
    let vs := args.drop 1
    some (.ok (if n < 0 then vs.take (vs.length - n.natAbs) else vs.take n.toNat))
  | "tail" =>
    let n := first.toInt
    let vs := args.drop 1
    some (.ok (if n < 0 then vs.drop n.natAbs else vs.drop (vs.length - n.toNat)))
  | "shuffle" => some (.ok args)
  | "looks_like_number" =>
    one (.ofBool (match first with
      | .int _ | .real _ | .dual .. => true
      | .text r => looksLikeNumber r
      | _ => false))
  | "dualvar" => one (.dual first.toInt second.toText)
  | "refaddr" => match first with
    | .reference _ c => int (Value.address c : Nat)
    | _ => one .undefined
  | "weaken" | "readonly" | "study" | "lock" => one (.int 0)
  | "WIFEXITED" => one (.ofBool (first.toInt % 128 = 0))
  | "WEXITSTATUS" => int (first.toInt / 256 % 256)
  | "WIFSIGNALED" => one (.ofBool (first.toInt % 128 != 0 && first.toInt % 128 != 127))
  | "WTERMSIG" => int (first.toInt % 128)
  | "strerror" => text (Running.errnoText first.toNat)
  | "strtol" =>
    let base := if args.length > 1 then second.toNat else 10
    let ds := first.toText.takeWhile fun c => c.isAlphanum && Raw.digitValue c < base
    some (.ok ([.int (Raw.valueIn base ds : Nat)] ++ if many then [.int (first.toText.length - ds.length : Nat)] else []))
  | "strtod" => one first.number
  | "isatty" => one (.ofBool false)
  | "basename" =>
    let path := lastPart first.toText
    let suffix := (args.drop 1).find? fun v => v.toText.isSuffixOf path && v.toText.length < path.length
    text (match suffix with
      | some v => path.take (path.length - v.toText.length)
      | none => path)
  | "dirname" => text (headPart first.toText)
  | "fileparse" =>
    let (head, name) := pathParts first.toText
    some (.ok [.text name, .text (if head.isEmpty then "./".toList else head), .text []])
  | "timegm" | "timelocal" =>
    let part (i : Nat) : Nat := (args.getD i .undefined).toNat
    let year := (args.getD 5 .undefined).toInt
    let d : Date := { (Date.ofSeconds 0) with
      year := if year < 1000 then year + 1900 else year
      month := part 4 + 1
      day := part 3
      hour := part 2
      minute := part 1
      second := part 0 }
    int d.seconds
  | "strftime" =>
    let part (i : Nat) : Int := (args.getD (i + 1) .undefined).toInt
    let seconds :=
      Date.dayNumber (part 5 + 1900 + part 4 / 12) (part 4 % 12 + 1).toNat 1 * 86400 + (part 3 - 1) * 86400 +
      part 2 * 3600 + part 1 * 60 + part 0
    text (Calendar.formatted (Calendar.Shown.at Calendar.Zone.universal seconds 0) first.toText)
  | "tv_interval" => none
  | _ => (constantOf? name).map fun v => .ok [v]

/-! ## Values written out -/

namespace Running

/-- Whether a text is written without quotes. -/
def isPlainNumber (r : Raw) : Bool :=
  let body := if r.head? = some '-' then r.drop 1 else r
  (body = ['0'] || (!body.isEmpty && body.head? != some '0' && body.all Char.isDigit && body.length < 10)) &&
      r != ['-', '0']

/-- A text in plain quotes. -/
def quotedText (r : Raw) : Raw :=
  '\'' :: r.flatMap (fun c => if c = '\'' || c = '\\' then ['\\', c] else [c]) ++ ['\'']

/-- A value written out as a program would write it, so far to the right. -/
def dumped (sorted narrow : Bool) : (fuel : Nat) → (indent : Nat) → Value → Running Raw
  | 0, _, _ => return []
  | fuel + 1, indent, v => do
    match v with
    | .undefined => return "undef".toList
    | .int n => return if isPlainNumber (Raw.ofInt n) then Raw.ofInt n else quotedText (Raw.ofInt n)
    | .text r | .dual _ r => return if isPlainNumber r then r else quotedText r
    | .real f => return quotedText (realShown f)
    | .pattern r flags => return "qr/".toList ++ r ++ '/' :: flags
    | .reference sign c =>
      let kind := (← get).kinds.get? c
      let indent := if kind.isSome then indent + 7 else indent
      let margin (extra : Nat) : Raw := '\n' :: List.replicate (indent + extra) ' '
      let body : Raw ← match sign with
        | .array => do
          let vs ← arrayOf c
          if vs.isEmpty then pure "[]".toList
          else
            let parts ← vs.toList.mapM (dumped sorted narrow fuel (indent + 2))
            pure ('[' :: Raw.joined [','] (parts.map (margin 2 ++ ·)) ++ margin 0 ++ [']'])
        | .table => do
          let es := (← tableOf c).entries
          let es := if sorted then es.mergeSort fun a b => Raw.atMost a.1 b.1 else es
          if es.isEmpty then pure ['\x7b', '\x7d']
          else
            let parts ← es.mapM fun (k, w) => do
              let key := quotedText k ++ " => ".toList
              return key ++ (← dumped sorted narrow fuel (indent + 2 + if narrow then 0 else key.length) w)
            pure ('\x7b' :: Raw.joined [','] (parts.map (margin 2 ++ ·)) ++ margin 0 ++ ['\x7d'])
        | .scalar => do pure ('\\' :: (← dumped sorted narrow fuel (indent + 2) (← valueOf c)))
        | .code => pure ("sub \x7b \"DUMMY\" \x7d".toList)
        | .handle => pure "\\*\x7b'::$fh'\x7d".toList
      match kind with
      | some k => return "bless( ".toList ++ body ++ ", ".toList ++ quotedText k ++ " )".toList
      | none => return body

/-- Values written out, each as what a variable is given. -/
def dumpedAll (args : List Value) : Running Raw := do
  let narrow := (← plain "Data::Dumper::Indent").toText = ['1']
  let terse := (← plain "Data::Dumper::Terse").isTrue
  let sorted := (← plain "Data::Dumper::Sortkeys").isTrue
  let parts ← args.zipIdx.mapM fun (v, i) => do
    let head := "$VAR".toList ++ Raw.ofNat (i + 1) ++ " = ".toList
    if terse then return (← dumped sorted narrow 200 0 v) ++ ['\n']
    else return head ++ (← dumped sorted narrow 200 (if narrow then 0 else 8) v) ++ ";\n".toList
  return parts.flatten

end Running
end RunMeter.Machine.Perl
