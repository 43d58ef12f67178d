import RunMeter.Machine.Utility.Perl.Calling

/-!
# RunMeter.Machine.Utility.Perl.Functions — the functions that are always there

* `function`: the value of one.

Nothing that is proved depends on this module.
-/

namespace RunMeter.Machine.Perl

/-- The functions that work on the usual variable where nothing is given. -/
def usualNames : List String :=
  ["lc", "uc", "lcfirst", "ucfirst", "fc", "length", "chr", "ord", "int", "abs", "sqrt", "sin", "cos", "exp", "log",
   "hex", "oct", "quotemeta", "rmdir", "readlink", "stat", "lstat", "unlink", "chomp", "chop", "defined", "glob", "ref",
   "alarm", "mkdir"]

/-- The functions of a fixed number of single values. -/
def singleNames : List String :=
  ["index", "rindex", "atan2", "rename", "link", "symlink", "mkdir", "waitpid", "truncate", "fmod", "pow", "floor",
   "ceil", "dup2", "dup", "strerror", "dirname", "looks_like_number", "raise", "usleep", "nanosleep", "ualarm", "sleep",
   "alarm", "Time::HiRes::sleep", "Time::HiRes::alarm", "dualvar", "refaddr", "_exit", "strtol", "strtod",
   "getpriority", "setpgid", "access", "write", "toupper", "tolower", "WIFEXITED", "WEXITSTATUS", "WIFSIGNALED",
   "WTERMSIG", "isatty", "nice", "round", "trunc", "srand", "rand", "umask", "localtime", "gmtime", "chdir"]

namespace Running

/-- Takes a number of values out of an array and puts others in their place. -/
def splice (n : Nat) (args : List Value) : Running (List Value) := do
  let vs ← arrayOf n
  let size := vs.size
  let first := match args with
    | v :: _ => min ((indexIn? size v.toInt).getD 0) size
    | [] => 0
  let count := match args.drop 1 with
    | v :: _ =>
      if !v.isDefined then size - first
      else if v.toInt < 0 then (size : Int) - first + v.toInt |>.toNat
      else min v.toNat (size - first)
    | [] => size - first
  setCell n (.array (vs.extract 0 first ++ (args.drop 2).toArray ++ vs.extract (first + count) size))
  return (vs.extract first (first + count)).toList

/-- The next key of a table that is gone through one after another. -/
def eachOf (n : Nat) (many : Bool) : Running (List Value) := do
  let t ← tableOf n
  match t.entries.drop t.turn with
  | (k, v) :: _ =>
    onTable n fun t => { t with turn := t.turn + 1 }
    return if many then [.text k, v] else [.text k]
  | [] =>
    onTable n fun t => { t with turn := 0 }
    return if many then [] else [.undefined]

/-- Where a function was called, as a list. -/
def callerOf (level : Nat) (asked many : Bool) : Running (List Value) := do
  let s ← get
  match s.frames.drop level with
  | [] => return if many then [] else [.undefined]
  | f :: _ =>
    if !many then return [.text f.package]
    else
      let base := [Value.text f.package, .text s.file, .int f.line]
      return if asked then base ++ [.text ("main::".toList ++ f.name), .int 1, .ofBool f.wantsMany] else base

/-- The cell of the array that a function takes values of. -/
def arrayFor (m : Means) (args : List Expr) : Running (Option Nat) := do
  match args with
  | e :: _ => m.container .array true e
  | [] =>
    let s ← get
    return some (if s.frames.isEmpty then wordsCell else s.args)

/-- The cell for a stream that is opened. -/
def opened (m : Means) (e : Expr) : Running Nat := do
  match e with
  | .bare w => globalCell .handle w
  | .text w => globalCell .handle (shortName w)
  | .name .handle w => globalCell .handle w
  | .localized (.name .handle w) => localName .handle w
  | e =>
    let t ← m.target e
    match ← load t with
    | .reference .handle n => return n
    | .text w => globalCell .handle (shortName w)
    | _ =>
      let name := match knownNames e with
        | .name .scalar w => '$' :: w
        | _ => "$fh".toList
      let n ← newCell (.stream (Stream.closed name))
      store t (.reference .handle n)
      return n

/-- Carries out a text as a program; a mishap ends it and not the whole. -/
def evaluated (m : Means) (wants : Bool) (text : Raw) : Running (List Value) := do
  let s ← get
  let p : Place := { s.place with
    left := text, mark := [], before := [], line := 1, skipped := 0, package := s.package, file := "(eval 1)".toList
    defined := definedIn 1000 text ++ s.place.defined }
  match statementsOf p with
  | .error f =>
    setPlain "@" (.text f.message)
    return if wants then [] else [.undefined]
  | .ok (ss, p) =>
    modify fun s =>
      let place := { s.place with defined := p.defined, constants := p.constants, imported := p.imported }
      { s with place := { place with speaks := p.speaks, firm := p.firm } }
    let file := s.file
    modify fun s => { s with file := "(eval 1)".toList }
    let vs ← attempted m wants ss
    modify fun s => { s with file }
    return vs

/-- The value of a function that is always there. -/
def function (m : Means) (name : String) (args : List Expr) (wants : Bool) : Running (List Value) := do
  let usual : Expr := .name .scalar ['_']
  let args := if args.isEmpty && usualNames.contains name then [usual] else args
  let first := args.headD usual
  match name with
  | "joined" =>
    let vs ← m.many first
    return [.text (Raw.joined (← plain "\"").toText (← vs.mapM textOf))]
  | "defined" =>
    match first with
    | .call n none => return [.ofBool (← codeCell? n).isSome]
    | .name .array n => return [.ofBool !(← arrayOf (← nameCell .array n)).isEmpty]
    | .list [.call n none] => return [.ofBool (← codeCell? n).isSome]
    | e => return [.ofBool (← m.single e).isDefined]
  | "exists" =>
    match first with
    | .entry t k | .list [.entry t k] =>
      match ← m.container .table false t with
      | some n => return [.ofBool ((← tableOf n).get? (← keyText m k)).isSome]
      | none => return [.ofBool false]
    | .element a i =>
      match ← m.container .array false a with
      | some n =>
        let size := (← arrayOf n).size
        return [.ofBool ((indexIn? size (← m.single i).toInt).any (· < size))]
      | none => return [.ofBool false]
    | .call n _ => return [.ofBool (← codeCell? n).isSome]
    | _ => return [.ofBool false]
  | "delete" =>
    match first with
    | .entry t k | .list [.entry t k] | .localized (.entry t k) =>
      match ← m.container .table false t with
      | some n =>
        let key ← keyText m k
        let old := (← tableOf n).get? key
        onTable n fun t => t.erase key
        if n = signalCell then installSignal key
        return [old.getD .undefined]
      | none => return [.undefined]
    | .entries t ks =>
      let keys ← m.many ks
      match ← m.container .table false t with
      | some n =>
        let old := (← tableOf n)
        onTable n fun t => keys.foldl (fun t k => t.erase k.toText) t
        return keys.map fun k => (old.get? k.toText).getD .undefined
      | none => return []
    | .element a i =>
      match ← m.container .array false a with
      | some n =>
        let vs ← arrayOf n
        match indexIn? vs.size (← m.single i).toInt with
        | some k =>
          if k + 1 = vs.size then setCell n (.array vs.pop) else onArray n fun vs => vs.setIfInBounds k .undefined
          return [vs.getD k .undefined]
        | none => return [.undefined]
      | none => return [.undefined]
    | _ => return [.undefined]
  | "undef" =>
    match args with
    | [] => return [.undefined]
    | e :: _ =>
      match e with
      | .name .array _ | .through .array _ =>
        match ← m.container .array true e with
        | some n => setCell n (.array #[])
        | none => pure ()
      | .name .table _ | .through .table _ =>
        match ← m.container .table true e with
        | some n => storeAll .table n []
        | none => pure ()
      | .call n _ => setGlobal .code n (← newCell (emptyOf .code))
      | e => do
        let t ← m.target e
        store t .undefined
      return [.undefined]
  | "scalar" => return [← m.single first]
  | "wantarray" =>
    match (← get).frames.head? with
    | some f => return [.ofBool f.wantsMany]
    | none => return [.undefined]
  | "push" | "unshift" =>
    match ← arrayFor m args with
    | some n =>
      let vs ← manyOf m (args.drop 1)
      onArray n fun old => if name == "push" then vs.foldl Array.push old else vs.toArray ++ old
      return [.int (← arrayOf n).size]
    | none => return [.int 0]
  | "pop" | "shift" =>
    match ← arrayFor m args with
    | some n =>
      let vs ← arrayOf n
      if vs.isEmpty then return [.undefined]
      else if name == "pop" then
        onArray n Array.pop
        return [vs.back?.getD .undefined]
      else
        onArray n fun vs => vs.extract 1 vs.size
        return [vs.getD 0 .undefined]
    | none => return [.undefined]
  | "splice" =>
    match ← arrayFor m args with
    | some n =>
      let head ← singles m ((args.drop 1).take 2)
      let rest ← manyOf m (args.drop 3)
      let gone ← splice n (head ++ rest)
      return if wants then gone else [gone.getLastD .undefined]
    | none => return []
  | "keys" | "values" | "each" =>
    let isArray : Bool := match first with
      | .name .array _ | .through .array _ => true
      | _ => false
    if isArray then
      match ← m.container .array true first with
      | some n =>
        let vs ← arrayOf n
        if name == "values" then return if wants then vs.toList else [.int vs.size]
        else return if wants then (List.range vs.size).map fun (i : Nat) => .int i else [.int vs.size]
      | none => return []
    else
      match ← m.container .table true first with
      | some n =>
        if name == "each" then eachOf n wants
        else
          onTable n fun t => { t with turn := 0 }
          let t ← tableOf n
          if !wants then return [.int t.size]
          else return t.entries.map fun (k, v) => if name == "keys" then .text k else v
      | none => return []
  | "chomp" | "chop" =>
    return [.int (← shortenedEach m depth (name == "chomp") args)]
  | "split" =>
    let pattern ← match first with
      | .matches _ none text flags => do
        match ← m.single text with
        | .pattern r own => pure (Value.pattern r own)
        | v => do
          let r ← textOf v
          pure (if r = [' '] then Value.pattern r flags else .pattern r flags)
      | e => m.single e
    let rest ← singles m (args.drop 1)
    let subject ← match rest with
      | v :: _ => textOf v
      | [] => do textOf (← m.single usual)
    let limit := ((rest.drop 1).headD (.int 0)).toInt
    let vs ← splitText pattern subject limit
    return if wants then vs else [.int vs.length]
  | "pos" =>
    let t ← m.target first
    match (← get).positions.get? t.key with
    | some p => return [.int (p / 2 : Nat)]
    | none => return [.undefined]
  | "sort" =>
    let vs ← manyOf m args
    return vs.mergeSort fun a b => Raw.atMost a.toText b.toText
  | "reverse" =>
    let vs ← if wants || !args.isEmpty then manyOf m args else do pure [← m.single usual]
    if wants then return vs.reverse else return [.text (← vs.mapM textOf).flatten.reverse]
  | "open" =>
    let n ← opened m first
    let rest ← singles m ((args.drop 1).take 2)
    let more ← manyOf m (args.drop 3)
    return [← openStream m n (rest ++ more)]
  | "close" =>
    match ← (if args.isEmpty then do return some (← get).selected else sourceCell m first) with
    | some n => return [.ofBool (← closeStream m n)]
    | none =>
      fault Errno.badDescriptor
      return [.ofBool false]
  | "eof" =>
    match args with
    | [] =>
      match (← get).lastRead with
      | some n => return [.ofBool (← isAtEnd m n)]
      | none => return [.int 1]
    | e :: _ =>
      match ← sourceCell m e with
      | some n => return [.ofBool (← isAtEnd m n)]
      | none => return [.int 1]
  | "fileno" =>
    match ← sourceCell m first with
    | some n =>
      match (← streamOf n).fd with
      | some fd => return [.int fd]
      | none => return [.undefined]
    | none => return [.undefined]
  | "binmode" =>
    let layer := (← singles m (args.drop 1)).map Value.toText
    match ← sourceCell m first with
    | some n =>
      let isWide := layer.any fun r => (Raw.after? "utf".toList (Raw.toLower r)).isSome
      onStream n fun s => { s with wide := isWide }
    | none => pure ()
    return [.int 1]
  | "flock" => return [.int 1]
  | "readline" => if wants then m.many (.readLine first) else return [← m.single (.readLine first)]
  | "getc" =>
    match ← (if args.isEmpty then return some inputCell else sourceCell m first) with
    | some n =>
      let r ← takeOctets m n 1 1000
      return [if r.isEmpty then .undefined else .text r]
    | none => return [.undefined]
  | "read" | "sysread" =>
    let n? ← sourceCell m first
    let t ← m.target (args.getD 1 usual)
    let rest ← singles m (args.drop 2)
    match n? with
    | some n =>
      let count := (rest.headD .undefined).toNat
      let r ← if name == "sysread" then do
          let s ← streamOf n
          match s.fd with
          | some fd =>
            match ← act (Act.readOrSignal fd count) with
            | .ok r => pure (some r)
            | .error e => do
              fault e
              let _ ← checkSignals m
              pure none
          | none => pure none
        else some <$> takeOctets m n count Act.blockBound
      match r with
      | none => return [.undefined]
      | some r =>
        let place := (rest.drop 1).head?
        let old ← load t
        let before := match place with
          | some p => old.toText.take p.toNat
          | none => []
        store t (.text (before ++ r))
        return [.int r.length]
    | none => return [.undefined]
  | "syswrite" =>
    let rest ← singles m (args.drop 1)
    match ← sourceCell m first with
    | some n =>
      let r := (rest.headD .undefined).toText
      let r := match rest.drop 1 with
        | l :: o => (r.drop (o.headD (.int 0)).toNat).take l.toNat
        | [] => r
      match (← streamOf n).fd with
      | some fd =>
        match ← act (Act.write fd (octetsOf r)) with
        | none => return [.int r.length]
        | some e =>
          fault e
          let _ ← checkSignals m
          return [.undefined]
      | none => return [.undefined]
    | none => return [.undefined]
  | "seek" | "sysseek" =>
    let rest ← singles m (args.drop 1)
    match ← sourceCell m first with
    | some n =>
      let _ ← flush n
      match (← streamOf n).fd with
      | some fd =>
        let place := (rest.headD .undefined).toInt
        let whence := (rest.getD 1 (.int 0)).toInt
        let ahead := (← streamOf n).ahead.length
        match ← granted (← act (Act.seek fd fun offset size =>
            place + (if whence = 1 then (offset : Int) - ahead else if whence = 2 then (size : Int) else 0))) with
        | some _ =>
          onStream n fun s => { s with ahead := [] }
          return [.int 1]
        | none => return [.ofBool false]
      | none => return [.ofBool false]
    | none => return [.ofBool false]
  | "tell" =>
    match ← sourceCell m first with
    | some n =>
      let s ← streamOf n
      match s.fd with
      | some fd =>
        match ← act (Act.seek fd fun offset _ => (offset : Int)) with
        | .ok place => return [.int ((place : Int) - s.ahead.length + s.keptSize)]
        | .error _ => return [.int (-1)]
      | none => return [.int (-1)]
    | none => return [.int (-1)]
  | "truncate" =>
    let size := (← m.single (args.getD 1 (.int 0))).toNat
    match ← sourceCell m first with
    | some _ => return [.int 1]
    | none =>
      let path := (← m.single first).toText
      return [.ofBool (← doing fun pid k => k.setSize pid path size)]
  | "opendir" =>
    let path := (← m.single (args.getD 1 usual)).toText
    match ← act (Paths.namesIn path) with
    | .ok names =>
      let n ← opened m first
      onStream n fun s => { s with names := some (".".toList :: "..".toList :: names) }
      return [.int 1]
    | .error e =>
      fault e
      return [.ofBool false]
  | "readdir" =>
    match ← sourceCell m first with
    | some n =>
      let names := ((← streamOf n).names).getD []
      if wants then
        onStream n fun s => { s with names := some [] }
        return names.map Value.text
      else
        onStream n fun s => { s with names := some (names.drop 1) }
        return [(names.head?.map Value.text).getD .undefined]
    | none => return if wants then [] else [.undefined]
  | "closedir" => return [.int 1]
  | "pipe" =>
    let a ← opened m first
    let b ← opened m (args.getD 1 usual)
    let (r, w) ← act Act.pipe
    attach a (Stream.ofFd [] r true false false) r
    attach b (Stream.ofFd [] w false true false) w
    return [.int 1]
  | "select" =>
    match args with
    | [] => do
      let n := (← get).selected
      let name := (← streamOf n).name
      return [if n ≤ errorCell then .text ("main::".toList ++ name) else .reference .handle n]
    | [e] => do
      match ← sourceCell m e with
      | some n => return (← systemCall? m "select" [.reference .handle n] wants).getD []
      | none => return [.undefined]
    | es => do
      let vs ← singles m es
      return (← systemCall? m "select" vs wants).getD []
  | "substr" =>
    match args with
    | [whole, a, b, new] =>
      let t ← m.target (.builtin "substr" [whole, a, b])
      let old ← load t
      let v ← m.single new
      store t v
      return [old]
    | whole :: rest =>
      let r ← textOf (← m.single whole)
      let vs ← singles m rest
      match partOf? r.length (vs.headD .undefined).toInt ((vs.drop 1).head?.map Value.toInt) with
      | some (place, length) => return [.text ((r.drop place).take length)]
      | none => return [.undefined]
    | [] => return [.undefined]
  | "sprintf" =>
    let vs ← (← manyOf m args).mapM plainValue
    return [.text (printedWith (vs.headD .undefined).toText (vs.drop 1))]
  | "join" =>
    let mark ← m.single first
    let vs ← manyOf m (args.drop 1)
    return [.text (Raw.joined mark.toText (← vs.mapM textOf))]
  | "exit" =>
    let v ← if args.isEmpty then pure (.int 0) else m.single first
    throw (.exit (UInt8.ofNat (v.toInt % 256).toNat))
  | "caller" =>
    if args.isEmpty then callerOf 0 false wants else callerOf (← m.single first).toNat true wants
  | "eval" => evaluated m wants (← m.single first).toText
  | "do" =>
    let path := (← m.single first).toText
    match ← act (Call.contents path) with
    | .ok text => evaluated m wants text
    | .error e =>
      fault e
      return [.undefined]
  | "require" => return [.int 1]
  | "ref" => return [.text (← referenceKind (← m.single first))]
  | "localtime" | "gmtime" =>
    let vs ← singles m args
    return (← systemCall? m name vs wants).getD []
  | "lock" | "study" => return [.int 1]
  | "time" | "times" | "wait" | "fork" | "getppid" | "Time::HiRes::time" | "getlogin" =>
    return (← systemCall? m name [] wants).getD []
  | "chroot" => return [.ofBool false]
  | name =>
    let vs ← if unaryNames.contains name || singleNames.contains name then singles m args else manyOf m args
    match ← library m name vs wants with
    | some vs => return vs
    | none =>
      die ("Undefined subroutine &main::".toList ++ name.toList ++ " called".toList)

end Running
end RunMeter.Machine.Perl
