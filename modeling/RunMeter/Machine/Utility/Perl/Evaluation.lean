import RunMeter.Machine.Utility.Perl.Functions

/-!
# RunMeter.Machine.Utility.Perl.Evaluation — programs carried out

* `single`, `many`: the value of an expression where one is asked for, and its values where many are.
* `execAll`: statements carried out.

Nothing that is proved depends on this module.
-/

namespace RunMeter.Machine.Perl
namespace Running

/-- The table of groups that have names. -/
def groupTable : Running Nat := do
  let es ← namedGroups
  newCell (.table (es.foldl (fun t (k, v) => t.put k v) Table.empty))

/-- Lets a new file take the place of one that is read, for what is written. -/
def changeInPlace (path : Raw) : Running Unit := do
  match (← get).inPlace with
  | none => return
  | some ending =>
    if ending.isEmpty then
      let _ ← doing fun pid k => k.removeName pid path
    else
      let kept :=
        if ending.contains '*' then ending.flatMap fun ch => if ch = '*' then path else [ch] else path ++ ending
      let _ ← doing fun pid k => k.move pid path kept
    let n ← newCell (.stream (Stream.closed "ARGVOUT".toList))
    let _ ← openFile n ['>'] path
    modify fun s => { s with selected := n, changing := true }

/-- Closes the file that has taken the place of another. -/
def endChange : Running Unit := do
  let s ← get
  if s.changing then
    let n := s.selected
    let _ ← flush n
    match (← streamOf n).fd with
    | some fd => act (Act.close fd)
    | none => pure ()
    setCell n (.stream (Stream.closed "ARGVOUT".toList))
    modify fun s => { s with selected := outputCell, changing := false }

/-- The names of the files that are read where none is named, one after another: false if there is none left. -/
def openNext : (fuel : Nat) → (n : Nat) → Running Bool
  | 0, _ => return false
  | fuel + 1, n => do
    let s ← get
    let words ← arrayOf wordsCell
    match words[0]? with
    | none =>
      if s.began then return false
      else
        modify fun s => { s with began := true }
        onStream n fun s => { s with fd := some 0, reads := true, ahead := [], atEnd := false }
        return true
    | some w =>
      modify fun s => { s with began := true }
      onArray wordsCell fun vs => vs.extract 1 vs.size
      let path := w.toText
      setPlain "ARGV" w
      if path = ['-'] then
        onStream n fun s => { s with fd := some 0, reads := true, ahead := [], atEnd := false }
        return true
      else
        let isDirectory ← act (Paths.isDirectory path)
        match ← act (Act.openFile path .reading) with
        | .ok fd =>
          if isDirectory then
            act (Act.close fd)
            openNext fuel n
          else
            changeInPlace path
            onStream n fun s => { s with fd := some fd, reads := true, ahead := [], atEnd := false }
            return true
        | .error e =>
          fault e
          let place ← whereabouts
          tell ("Can't open ".toList ++ path ++ ": ".toList ++ e.message.toList ++ place)
          openNext fuel n

/-- A line of the files that the words name. -/
def lineOfFiles (m : Means) : (fuel : Nat) → Running (Option Raw)
  | 0 => return none
  | fuel + 1 => do
    let n ← globalCell .handle "ARGV".toList
    let s ← streamOf n
    if s.fd.isNone then
      if ← openNext 100000 n then lineOfFiles m fuel
      else
        -- the next time begins anew
        modify fun s => { s with began := false }
        return none
    else
      match ← takeLine m n with
      | some line => return some line
      | none =>
        match s.fd with
        | some fd => if fd != 0 then act (Act.close fd)
        | none => pure ()
        onStream n fun s => { s with fd := none, ahead := [] }
        endChange
        lineOfFiles m fuel

/-- All lines of the files that the words name. -/
def linesOfFiles (m : Means) : (fuel : Nat) → Running (List Raw)
  | 0 => return []
  | fuel + 1 => do
    match ← lineOfFiles m Act.blockBound with
    | some line => return line :: (← linesOfFiles m fuel)
    | none => return []

mutual

/-- How the parts of a program are carried out from elsewhere. -/
def means (c : Call) : (fuel : Nat) → Means
  | 0 => Means.none c
  | fuel + 1 =>
    { program := c
      call := fun f args wants => invoke (fun many ss => execAll c fuel many ss) f args wants
      single := fun e => single c fuel e
      many := fun e => many c fuel e
      target := fun e => target c fuel e
      container := fun sign makes e => container c fuel sign makes e
      carryOut := fun wants ss => execAll c fuel wants ss }

/-- The cell of an array or a table that an expression names.  It is made if there is none and `makes` asks for it. -/
def container (c : Call) : (fuel : Nat) → (sign : Sign) → (makes : Bool) → Expr → Running (Option Nat)
  | 0, _, _, _ => return none
  | fuel + 1, sign, makes, e => do
    match e with
    | .name .table ['+'] => return some (← groupTable)
    | .name s name => return some (← nameCell s name)
    | .declare .. =>
      declareAll e
      container c fuel sign makes (knownNames e)
    | .localized (.name s name) => return some (← localName s name)
    | .localized e => container c fuel sign makes e
    | .through _ inner =>
      let v ← single c fuel inner
      match v with
      | .reference s n =>
        if s = sign then return some n
        else
          let word := match sign with
            | .array => "an ARRAY"
            | .table => "a HASH"
            | .code => "a CODE"
            | .scalar => "a SCALAR"
            | .handle => "a GLOB"
          if s = .scalar && sign = .scalar then return some n
          else die (("Not " ++ word ++ " reference").toList)
      | .undefined =>
        if makes then
          let n ← newCell (emptyOf sign)
          let t ← target c fuel inner
          store t (.reference sign n)
          return some n
        else return none
      | v =>
        let name := v.toText
        let word := match sign with
          | .array => "an ARRAY"
          | .table => "a HASH"
          | .scalar => "a SCALAR"
          | .code => "a subroutine"
          | .handle => "a symbol"
        if (← get).place.firm && sign != .handle && sign != .code then
          die ("Can't use string (\"".toList ++ name.take 32 ++ "\"".toList ++ (if name.length > 32 then "...".toList else []) ++
            (") as " ++ word ++ " ref while \"strict refs\" in use").toList)
        else if name.isEmpty then return none
        else
          let name := if name.head? = some '*' then name.drop 1 else name
          return some (← globalCell sign (shortName name))
    | .newArray _ | .newTable _ | .builtin .. | .call .. | .invoke .. | .method .. | .list _ | .block _ | .choice .. =>
      match ← single c fuel e with
      | .reference _ n => return some n
      | _ => return none
    | e =>
      let t ← target c fuel e
      match ← load t with
      | .reference _ n => return some n
      | .undefined =>
        if makes then
          let n ← newCell (emptyOf sign)
          store t (.reference sign n)
          return some n
        else return none
      | _ => return none

/-- What an expression names, to be given a value. -/
def target (c : Call) : (fuel : Nat) → Expr → Running Target
  | 0, _ => return .nothing
  | fuel + 1, e => do
    match e with
    | .name .scalar name => targetOfName name
    | .name .handle name => return .special name
    | .declare _ names _ =>
      declareAll e
      match names with
      | some (.scalar, name) :: _ => return .cell (← nameCell .scalar name)
      | _ => return .nothing
    | .localized inner =>
      match inner with
      | .name .scalar name =>
        if (← special? name).isSome then return .special name
        else return .cell (← localName .scalar name)
      | inner =>
        let t ← target c fuel inner
        localTarget t
        return t
    | .through .scalar inner =>
      match ← container c fuel .scalar true (.through .scalar inner) with
      | some n => return .cell n
      | none => return .nothing
    | .element array index =>
      match ← container c fuel .array true array with
      | some n =>
        let i := (← single c fuel index).toInt
        match indexIn? (← arrayOf n).size i with
        | some k => return .element n k
        | none => die ("Modification of non-creatable array value attempted, subscript ".toList ++ Raw.ofInt i)
      | none => return .nothing
    | .entry table key =>
      match ← container c fuel .table true table with
      | some n => return .entry n (← keyText (means c fuel) key)
      | none => return .nothing
    | .lastIndex array =>
      match ← container c fuel .array true array with
      | some n => return .lastIndex n
      | none => return .nothing
    | .list es =>
      match es.getLast? with
      | some e => target c fuel e
      | none => return .nothing
    | .assign _ inner _ =>
      let _ ← single c fuel e
      target c fuel (knownNames inner)
    | .step _ true inner =>
      let _ ← single c fuel e
      target c fuel inner
    | .choice test a b => if (← single c fuel test).isTrue then target c fuel a else target c fuel b
    | .builtin "substr" (whole :: rest) =>
      let t ← target c fuel whole
      let vs ← singles (means c fuel) rest
      let size := (← load t).toText.length
      match partOf? size (vs.headD .undefined).toInt ((vs.drop 1).head?.map Value.toInt) with
      | some (first, length) => return .part t first length
      | none => die "substr outside of string".toList
    | .builtin "local" (e :: _) => target c fuel (.localized e)
    | e =>
      let v ← single c fuel e
      return .cell (← newCell (.scalar v))

/-- The value of an expression where one is asked for. -/
def single (c : Call) : (fuel : Nat) → Expr → Running Value
  | 0, _ => return .undefined
  | fuel + 1, e => do
    let m := means c fuel
    match e with
    | .int n => return .int n
    | .real f => return .real f
    | .text r => return .text r
    | .filled parts =>
      let vs ← singles (means c fuel) parts
      return .text (← vs.mapM textOf).flatten
    | .bare w =>
      match ← codeCell? w with
      | some n => return (← (means c fuel).call (.reference .code n) [] false).getLastD .undefined
      | none => return .text w
    | .name .scalar name => load (← targetOfName name)
    | .name .array name => return .int (← arrayOf (← nameCell .array name)).size
    | .name .table ['+'] => return .int (← namedGroups).length
    | .name .table name => return .int (← tableOf (← nameCell .table name)).size
    | .name .handle name => return .reference .handle (← globalCell .handle name)
    | .name .code name => return .reference .code (← globalCell .code name)
    | .declare _ names isList =>
      declareAll e
      match names, isList with
      | [some (sign, name)], false => single c fuel (.name sign name)
      | _, _ => return .undefined
    | .through .scalar _ => load (← target c fuel e)
    | .through .array _ =>
      match ← container c fuel .array false e with
      | some n => return .int (← arrayOf n).size
      | none => die "Can't use an undefined value as an ARRAY reference".toList
    | .through .table _ =>
      match ← container c fuel .table false e with
      | some n => return .int (← tableOf n).size
      | none => die "Can't use an undefined value as a HASH reference".toList
    | .through .handle inner => single c fuel inner
    | .through .code inner => single c fuel inner
    | .element array index =>
      match ← container c fuel .array false array with
      | some n =>
        let i := (← single c fuel index).toInt
        let vs ← arrayOf n
        match indexIn? vs.size i with
        | some k => return vs.getD k .undefined
        | none => return .undefined
      | none => return .undefined
    | .entry table key =>
      match ← container c fuel .table false table with
      | some n => return ((← tableOf n).get? (← keyText (means c fuel) key)).getD .undefined
      | none =>
        let _ ← keyText (means c fuel) key
        return .undefined
    | .elements .. | .entries .. | .pick .. | .pairs .. => return (← many c fuel e).getLastD .undefined
    | .lastIndex array =>
      match ← container c fuel .array false array with
      | some n => return .int ((← arrayOf n).size - 1 : Int)
      | none => return .int (-1)
    | .list es => lastOf (means c fuel) es
    | .assign op goal v => return (← assignment (means c fuel) false op goal v).getLastD .undefined
    | .step up after goal =>
      let t ← target c fuel goal
      let old ← load t
      let new := stepped up old
      store t new
      if after then return new
      else return (match old with
        | .undefined => if up then .int 0 else .undefined
        | v => v)
    | .binary op a b =>
      let x ← single c fuel a
      let y ← single c fuel b
      match op with
      | .join | .compare true _ | .ordering true | .repeated => operate op (← plainValue x) (← plainValue y)
      | op => operate op x y
    | .listTimes items count =>
      let v ← lastOf (means c fuel) items
      operate .repeated v (← single c fuel count)
    | .both a b =>
      let x ← single c fuel a
      if x.isTrue then single c fuel b else return x
    | .either a b =>
      let x ← single c fuel a
      if x.isTrue then return x else single c fuel b
    | .orDefined a b =>
      let x ← single c fuel a
      if x.isDefined then return x else single c fuel b
    | .exclusive a b =>
      let x ← single c fuel a
      let y ← single c fuel b
      return .ofBool (x.isTrue != y.isTrue)
    | .not e => return .ofBool !(← single c fuel e).isTrue
    | .negative e =>
      let v ← single c fuel e
      match v with
      | .text r =>
        match r with
        | [] => return .int 0
        | ch :: rest =>
          if isWordStart ch then return .text ('-' :: r)
          else if ch = '-' && !(looksLikeNumber r) then return .text ('+' :: rest)
          else if ch = '+' && !(looksLikeNumber r) then return .text ('-' :: rest)
          else return opposite v.number
      | v => return opposite v.number
    | .complement e => return .int (18446744073709551615 - (← single c fuel e).toWord : Nat)
    | .choice test a b => if (← single c fuel test).isTrue then single c fuel a else single c fuel b
    | .range a b =>
      let vs ← many c fuel (.range a b)
      return vs.getLastD .undefined
    | .reference inner => return (← referencesTo (means c fuel) depth inner).getLastD .undefined
    | .newArray items => return .reference .array (← newCell (.array (← manyOf (means c fuel) items).toArray))
    | .newTable items =>
      let vs ← manyOf (means c fuel) items
      return .reference .table (← newCell (.table (tableOfValues Table.empty vs)))
    | .newCode body =>
      let s ← get
      return .reference .code (← newCell (.code ⟨"__ANON__".toList, s.package, body, some s.scope⟩))
    | .call .. | .invoke .. | .method .. => return (← called (means c fuel) false e).getLastD .undefined
    | .builtin name args => return (← function (means c fuel) name args false).getLastD .undefined
    | .withBlock name body args =>
      let vs ← blockFunction (means c fuel) name body args
      match name with
      | "map" | "grep" => return .int vs.length
      | "any" | "all" | "none" | "notall" | "first" | "reduce" => return vs.headD .undefined
      | _ => return .int vs.length
    | .print how outlet args => write (means c fuel) how outlet args
    | .pattern text flags =>
      let r ← patternText (means c fuel) text
      let flags := flags.filter "imsxn".toList.contains
      let _ ← expression r flags
      return .pattern r flags
    | .matches negated goal text flags =>
      let vs ← matching (means c fuel) negated goal text flags false
      return vs.headD .undefined
    | .substitute goal text new flags => substitution (means c fuel) goal text new flags
    | .transliterate goal source result flags =>
      let t ← target c fuel (goal.getD (.name .scalar ['_']))
      let has (ch : Char) : Bool := flags.contains ch
      let old := (← load t).toText
      let (r, count) := exchange source result (has 'c') (has 'd') (has 's') old
      if has 'r' then return .text r
      else
        if r != old then store t (.text r)
        return .int count
    | .readLine source =>
      match ← sourceCell (means c fuel) source with
      | some n => return ((← takeLine m n).map Value.text).getD .undefined
      | none => return .undefined
    | .readFiles => return ((← lineOfFiles m Act.blockBound).map Value.text).getD .undefined
    | .command text =>
      let r := (← single c fuel text).toText
      match ← outputOf m r with
      | some out => return .text out
      | none => return .undefined
    | .fileTest letter inner =>
      let v ← match inner with
        | .bare w => do
          match ← streamCell? (.text w) with
          | some n => pure (Value.reference .handle n)
          | none => pure (.text w)
        | inner => single c fuel inner
      fileTest letter v
    | .localized inner =>
      if takesMany inner then
        let _ ← assignFrom (means c fuel) depth (.localized inner) []
        return .undefined
      else load (← target c fuel e)
    | .block body => return (← inBlock (execAll c fuel false body)).getLastD .undefined
    | .attempt body => return (← attempted (means c fuel) false body).getLastD .undefined
    | .leave exit label => throw (.leave exit label)
    | .give values => giveBack (means c fuel) values

/-- The values of an expression where many are asked for. -/
def many (c : Call) : (fuel : Nat) → Expr → Running (List Value)
  | 0, _ => return []
  | fuel + 1, e => do
    let m := means c fuel
    match e with
    | .name .array name => return (← arrayOf (← nameCell .array name)).toList
    | .name .table ['+'] => return (← namedGroups).flatMap fun (k, v) => [.text k, v]
    | .name .table name => return valuesOfTable (← tableOf (← nameCell .table name))
    | .bare w =>
      match ← codeCell? w with
      | some n => (means c fuel).call (.reference .code n) [] true
      | none => return [.text w]
    | .declare .. =>
      declareAll e
      many c fuel (knownNames e)
    | .through .array _ =>
      match ← container c fuel .array false e with
      | some n => loadAll .array n
      | none => return []
    | .through .table _ =>
      match ← container c fuel .table false e with
      | some n => loadAll .table n
      | none => return []
    | .elements array indices =>
      let is ← many c fuel indices
      match ← container c fuel .array false array with
      | some n =>
        let vs ← arrayOf n
        return is.map fun i => ((indexIn? vs.size i.toInt).map fun k => vs.getD k .undefined).getD .undefined
      | none => return is.map fun _ => .undefined
    | .entries table keys =>
      let ks ← many c fuel keys
      match ← container c fuel .table false table with
      | some n =>
        let t ← tableOf n
        return ks.map fun k => (t.get? k.toText).getD .undefined
      | none => return ks.map fun _ => .undefined
    | .pairs isTable inner keys =>
      let ks ← many c fuel keys
      match ← container c fuel (if isTable then .table else .array) false inner with
      | some n =>
        if isTable then
          let t ← tableOf n
          return ks.flatMap fun k => [k, (t.get? k.toText).getD .undefined]
        else
          let vs ← arrayOf n
          return ks.flatMap fun k => [k, ((indexIn? vs.size k.toInt).map fun i => vs.getD i .undefined).getD .undefined]
      | none => return ks.flatMap fun k => [k, .undefined]
    | .pick values indices =>
      let vs := (← many c fuel values).toArray
      let is ← many c fuel indices
      if vs.isEmpty then return []
      else return is.map fun i => ((indexIn? vs.size i.toInt).map fun k => vs.getD k .undefined).getD .undefined
    | .list es => manyOf (means c fuel) es
    | .assign op goal v => assignment (means c fuel) true op goal v
    | .listTimes items count =>
      let vs ← manyOf (means c fuel) items
      let n := (← single c fuel count).toNat
      return (List.replicate (min n (repeatBound / max vs.length 1)) vs).flatten
    | .both a b =>
      let x ← single c fuel a
      if x.isTrue then many c fuel b else return [x]
    | .either a b =>
      let x ← single c fuel a
      if x.isTrue then return [x] else many c fuel b
    | .orDefined a b =>
      let x ← single c fuel a
      if x.isDefined then return [x] else many c fuel b
    | .choice test a b => if (← single c fuel test).isTrue then many c fuel a else many c fuel b
    | .range a b =>
      let x ← single c fuel a
      let y ← single c fuel b
      return rangeOf x y
    | .reference inner => referencesTo (means c fuel) depth inner
    | .call .. | .invoke .. | .method .. => called (means c fuel) true e
    | .builtin name args => function (means c fuel) name args true
    | .withBlock name body args => blockFunction (means c fuel) name body args
    | .matches negated goal text flags => matching (means c fuel) negated goal text flags true
    | .readLine source =>
      match ← sourceCell (means c fuel) source with
      | some n => return (← takeLines m n Act.blockBound).map Value.text
      | none => return []
    | .readFiles => return (← linesOfFiles m Act.blockBound).map Value.text
    | .command _ =>
      let v ← single c fuel e
      return (Raw.linesWithEnds v.toText).map Value.text
    | .localized inner =>
      if takesMany inner then
        let _ ← assignFrom (means c fuel) depth (.localized inner) []
        return []
      else return [← load (← target c fuel e)]
    | .block body => inBlock (execAll c fuel true body)
    | .attempt body => attempted (means c fuel) true body
    | e => return [← single c fuel e]

/-- Carries out a statement; gives its values if `wants` tells that they may count. -/
def exec (c : Call) : (fuel : Nat) → (wants : Bool) → Statement → Running (List Value)
  | 0, _, _ => return []
  | fuel + 1, wants, s => do
    let m := means c fuel
    match s with
    | .value line e =>
      modify fun s => { s with line }
      let s ← get
      if s.catches || s.alarm.isSome then pausing m
      if wants then many c fuel e else do return [← single c fuel e]
    | .choice line branches otherwise =>
      modify fun s => { s with line }
      chosenBranch c fuel wants branches otherwise
    | .block label body =>
      let _ ← round c fuel label body
      return []
    | .loop line label test body after =>
      modify fun s => { s with line }
      inBlock (loop c fuel line label test body after)
      return []
    | .count line label first test step body =>
      modify fun s => { s with line }
      inBlock do
        match first with
        | some e => let _ ← single c fuel e
        | none => pure ()
        loop c fuel line label test body (match step with
          | some e => [.value line e]
          | none => [])
      return []
    | .each line label isOwn name values body =>
      modify fun s => { s with line }
      let places ← placesOf c fuel values
      let key := keyOf .scalar name
      let s ← get
      let before := s.globals.get? key
      let isOwn := isOwn || (s.scope.lookup key).isSome
      let afterwards : Running Unit :=
        if isOwn then return
        else modify fun s => { s with globals := match before with
          | some n => s.globals.insert key n
          | none => s.globals.erase key }
      (inBlock (eachRound c fuel line label isOwn name places body)) |> tryCatchThe Jump <| fun j => do
        afterwards
        throw j
      afterwards
      return []
    | .loopAfter line body test =>
      modify fun s => { s with line }
      pausing m
      let _ ← single c fuel body
      if (← single c fuel test).isTrue then exec c fuel wants (.loopAfter line body test) else return []
    | .define name body => do
      let scope := (← get).scope
      define name body (some scope)
      return []
    | .package name none =>
      modify fun s => { s with package := name }
      return []
    | .package name (some body) =>
      let before := (← get).package
      modify fun s => { s with package := name }
      let _ ← inBlock (execAll c fuel false body)
      modify fun s => { s with package := before }
      return []
    | .atStart _ => return []
    | .atEnd number _ =>
      modify fun s => if s.ends.any fun e => e.1 = number then s else { s with ends := (number, s.scope) :: s.ends }
      return []

/-- Carries out the first branch whose test holds. -/
def chosenBranch (c : Call) : (fuel : Nat) → (wants : Bool) → List (Expr × List Statement) → List Statement → Running (List Value)
  | 0, _, _, _ => return []
  | fuel + 1, wants, [], otherwise => inBlock (execAll c fuel wants otherwise)
  | fuel + 1, wants, (test, body) :: rest, otherwise => do
    let scope := (← get).scope
    let v ← single c fuel test
    if v.isTrue then
      let vs ← inBlock (execAll c fuel wants body)
      modify fun s => { s with scope }
      return vs
    else
      let vs ← chosenBranch c fuel wants rest otherwise
      modify fun s => { s with scope }
      return vs

/-- Carries out the body of a loop once; tells if the loop goes on. -/
def round (c : Call) : (fuel : Nat) → Option Raw → List Statement → Running Bool
  | 0, _, _ => return false
  | fuel + 1, label, body => do
    let again ← (do
      let _ ← inBlock (execAll c fuel false body)
      return Exit.next) |> tryCatchThe Jump <| fun j => match j with
        | .leave exit l => if l.isNone || l == label then return exit else throw j
        | j => throw j
    match again with
    | .next => return true
    | .last => return false
    | .redo => round c fuel label body

/-- Carries out a loop while a test holds. -/
def loop (c : Call) : (fuel : Nat) → (line : Nat) → Option Raw → Option Expr → (body after : List Statement) → Running Unit
  | 0, _, _, _, _, _ => return
  | fuel + 1, line, label, test, body, after => do
    let m := means c fuel
    modify fun s => { s with line }
    pausing m
    let scope := (← get).scope
    let goesOn ← match test with
      | some e => do pure (← single c fuel e).isTrue
      | none => pure true
    if goesOn then
      if ← round c fuel label body then
        if !after.isEmpty then
          let _ ← execAll c fuel false after
        modify fun s => { s with scope }
        loop c fuel line label test body after

/-- The values that a loop goes over, with what they are values of. -/
def placesOf (c : Call) : (fuel : Nat) → Expr → Running (List (Value × Target))
  | 0, _ => return []
  | fuel + 1, e => do
    match e with
    | .list es => placesOfAll c fuel es
    | .name .array _ | .through .array _ =>
      match ← container c fuel .array true e with
      | some n => return (← arrayOf n).toList.zipIdx.map fun (v, i) => (v, .element n i)
      | none => return []
    | .name .scalar _ | .element .. | .entry .. =>
      let t ← target c fuel e
      return [(← load t, t)]
    | .builtin "values" [table] =>
      match ← container c fuel .table true table with
      | some n => return (← tableOf n).entries.map fun (k, v) => (v, .entry n k)
      | none => return []
    | e => return (← many c fuel e).map fun v => (v, .nothing)

/-- Those of several expressions. -/
def placesOfAll (c : Call) : (fuel : Nat) → List Expr → Running (List (Value × Target))
  | 0, _ => return []
  | _, [] => return []
  | fuel + 1, e :: rest => do
    let vs ← placesOf c fuel e
    match rest with
    | [] => return vs
    | rest => return vs ++ (← placesOfAll c fuel rest)

/-- Carries out a loop over values. -/
def eachRound (c : Call) : (fuel : Nat) → (line : Nat) → Option Raw → (isOwn : Bool) → (name : Raw) → List (Value × Target) →
    List Statement → Running Unit
  | 0, _, _, _, _, _, _ => return
  | _, _, _, _, _, [], _ => return
  | fuel + 1, line, label, isOwn, name, (v, t) :: rest, body => do
    let m := means c fuel
    modify fun s => { s with line }
    pausing m
    let n ← match t with
      | .cell n => pure n
      | _ => newCell (.scalar v)
    let scope := (← get).scope
    if isOwn then bindName .scalar name n else setGlobal .scalar name n
    let back : Running Unit := do
      match t with
      | .element .. | .entry .. => do store t (← valueOf n)
      | _ => return
    let goesOn ← (round c fuel label body) |> tryCatchThe Jump <| fun j => do
      back
      throw j
    back
    modify fun s => { s with scope }
    if goesOn then eachRound c fuel line label isOwn name rest body

/-- Carries out statements; gives the values of the last. -/
def execAll (c : Call) : (fuel : Nat) → (wants : Bool) → List Statement → Running (List Value)
  | 0, _, _ => return []
  | _, _, [] => return []
  | fuel + 1, wants, [s] => exec c fuel wants s
  | fuel + 1, wants, s :: rest => do
    let _ ← exec c fuel false s
    execAll c fuel wants rest

end

end Running

/-- How deep and how long a program goes. -/
def evaluationBound : Nat := 1000000000000

/-- The functions that statements define, with those of blocks and packages in them. -/
def definitions : (fuel : Nat) → List Statement → List (Raw × List Statement)
  | 0, _ => []
  | fuel + 1, ss => ss.flatMap fun s => match s with
    | .define name body => [(name, body)]
    | .block _ body => definitions fuel body
    | .package _ (some body) => definitions fuel body
    | .loop _ _ _ body _ => definitions fuel body
    | _ => []

/-- What is to be carried out before all else. -/
def beginnings : (fuel : Nat) → List Statement → List (List Statement)
  | 0, _ => []
  | fuel + 1, ss => ss.flatMap fun s => match s with
    | .atStart body => [body]
    | .loop _ _ _ body _ => beginnings fuel body
    | .block _ body => beginnings fuel body
    | _ => []

/-- What is to be carried out after all else, with its numbers. -/
def endings : (fuel : Nat) → List Statement → List (Nat × List Statement)
  | 0, _ => []
  | fuel + 1, ss => ss.flatMap fun s => match s with
    | .atEnd number body => [(number, body)]
    | .loop _ _ _ body _ => endings fuel body
    | .block _ body => endings fuel body
    | _ => []

end RunMeter.Machine.Perl
