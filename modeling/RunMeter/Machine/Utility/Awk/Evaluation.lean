import RunMeter.Machine.Calendar
import RunMeter.Machine.Utility.Awk.State

/-!
# RunMeter.Machine.Utility.Awk.Evaluation — awk programs carried out

* `eval`: the value of an expression.
* `exec`: a statement carried out.
* `Program.carryOut`: a whole program.

Nothing that is proved depends on this module.
-/

namespace RunMeter.Machine.Awk

open Running

/-! ## Texts -/

/-- A number of arithmetic. -/
def Arithmetic.apply : Arithmetic → Float → Float → Float
  | add, a, b => a + b
  | subtract, a, b => a - b
  | multiply, a, b => a * b
  | divide, a, b => a / b
  | power, a, b => Float.pow a b
  | modulo, a, b =>
    match Quantity.ofFloat a, Quantity.ofFloat b with
    | ⟨negative, .finite x⟩, ⟨_, .finite y⟩ =>
      if y = 0 then 0.0 / 0.0
      else
        let rest := x - ((x / y).floor : Rat) * y
        let f := Float.ofInt rest.num / Float.ofNat rest.den
        if negative then -f else f
    | ⟨_, .finite _⟩, ⟨_, .infinite⟩ => a
    | _, _ => 0.0 / 0.0

/-- Whether an ordering is as a comparison asks. -/
def Order.admits : Order → Ordering → Bool
  | less, o => o == .lt
  | atMost, o => o != .gt
  | equal, o => o == .eq
  | different, o => o != .eq
  | greater, o => o == .gt
  | atLeast, o => o != .lt

/-- What takes the place of a match: an ampersand stands for the match unless a backslash is before it. -/
def filled (found : Raw) : Raw → Raw
  | [] => []
  | '\\' :: '\\' :: '&' :: rest => '\\' :: found ++ filled found rest
  | '\\' :: '&' :: rest => '&' :: filled found rest
  | '&' :: rest => found ++ filled found rest
  | c :: rest => c :: filled found rest

/-- A text with matches replaced. -/
def replaced (text : Array Char) (new : Raw) : (place : Nat) → List Regex.Match → Raw
  | place, [] => Regex.between text place text.size
  | place, m :: rest =>
    Regex.between text place m.first ++ filled (Regex.between text m.first m.last) new ++ replaced text new m.last rest

/-- The place where a text stands in another, from 1 on; 0 if nowhere. -/
def indexOf (part : Raw) : (place : Nat) → Raw → Nat
  | place, [] => if part.isEmpty then place else 0
  | place, r@(_ :: rest) => if part.isPrefixOf r then place else indexOf part (place + 1) rest

/-- A number rounded to a whole one. -/
def rounded (f : Float) : Int := truncated (Float.floor (f + 0.5))

/-- A part of a text: so many characters from a place on. -/
def cut (text : Raw) (start : Float) (length : Option Float) : Raw :=
  let first := rounded start
  let last : Int := match length with
    | some n => rounded (start + n)
    | none => text.length + 1
  let first := max first 1
  if last ≤ first then [] else (text.drop (first - 1).toNat).take (last - first).toNat

/-! ## Formats -/

/-- A sign of a format that stands for no values, or what is written and the values that are left. -/
inductive Written where
  | text (r : Raw)
  | short

/-- Writes a format with values; `none` at the end of the parts if values are missing. -/
def formatted (form : Raw) : (fuel : Nat) → Raw → List Value → List Raw × Bool
  | 0, _, _ => ([], true)
  | _, [], _ => ([], true)
  | fuel + 1, '%' :: '%' :: rest, vs =>
    let (more, done) := formatted form fuel rest vs
    (['%'] :: more, done)
  | fuel + 1, '%' :: spec, vs =>
    let flags := spec.takeWhile "-+ #0".toList.contains
    let measure (r : Raw) (vs : List Value) : Option Int × Raw × Option (List Value) :=
      match r with
      | '*' :: rest =>
        match vs with
        | v :: more => (some (truncated v.toNumber), rest, some more)
        | [] => (none, rest, none)
      | r =>
        let ds := r.takeWhile Char.isDigit
        (if ds.isEmpty then none else some (Raw.valueIn 10 ds : Int), r.drop ds.length, some vs)
    let (width, rest, left) := measure (spec.drop flags.length) vs
    let (precision, rest, left) : Option Int × Raw × Option (List Value) := match rest, left with
      | '.' :: rest, some vs =>
        let (p, rest, left) := measure rest vs
        (some (p.getD 0), rest, left)
      | rest, left => (none, rest, left)
    let rest := rest.dropWhile "hlLqjzt".toList.contains
    match rest, left with
    | letter :: after, some (v :: more) =>
      let c : Conversion := ⟨flags, width, precision, if letter = 'i' then 'd' else letter⟩
      let shown : Raw := match letter with
        | 'd' | 'i' => c.signed (truncated v.toNumber)
        | 'o' | 'x' | 'X' | 'u' => c.unsigned (truncated v.toNumber % 18446744073709551616).toNat
        | 'c' => c.field (match v with
            | .number f => [Char.ofNat ((truncated f) % 256).toNat]
            | v => [(v.toText form).headD '\x00'])
        | 's' => c.text (v.toText form)
        | 'e' | 'E' | 'f' | 'F' | 'g' | 'G' | 'a' | 'A' => c.real true (Quantity.ofFloat v.toNumber)
        | letter => '%' :: flags ++ [letter]
      let (parts, done) := formatted form fuel after more
      (shown :: parts, done)
    | [], _ => (['%' :: spec], true)
    | _, _ => ([], false)
  | fuel + 1, c :: rest, vs =>
    let plain := (c :: rest).takeWhile (· != '%')
    let (more, done) := formatted form fuel ((c :: rest).drop plain.length) vs
    (plain :: more, done)

/-- What a format writes; the program ends if values are missing. -/
def printed (c : Call) (what : String) (values : List Value) : Running Raw := do
  let form ← Running.form
  match values with
  | [] => return []
  | f :: vs =>
    let text := f.toText form
    let (parts, done) := formatted form (text.length + 1) text vs
    if done then return parts.flatten
    else
      modify fun s => if what == "printf" then { s with output := s.output.put parts.flatten } else s
      crash c (Raw.ofText ("not enough arguments passed to " ++ what ++ "(\"") ++ text ++ Raw.ofText "\")")

/-! ## Evaluation -/

/-- The key that values make together. -/
def keyOf (values : List Value) : Running Raw := do
  let form ← Running.form
  match values with
  | [v] => return v.toText form
  | vs => return Raw.joined (← plainText "SUBSEP") (vs.map (Value.toText form))

/-- A number without special order between 0 and 1, and the next seed. -/
def nextRandom (seed : Nat) : Float × Nat :=
  let next := (seed * 6364136223846793005 + 1442695040888963407) % 18446744073709551616
  (Float.ofNat (next / 2048) / 9007199254740992.0, next)

/-- The value of a function that is always there, for values. -/
def builtin (c : Call) (name : String) (vs : List Value) : Running Value := do
  let form ← Running.form
  let text (i : Nat) : Raw := (vs.getD i .unset).toText form
  let number (i : Nat) : Float := (vs.getD i .unset).toNumber
  let wrong : Running Value := do
    flushAll c
    act (c.fail (Raw.ofText ("line 1: wrong number of arguments in call to " ++ name)) 2)
  match name, vs.length with
  | "substr", 2 => return .text (cut (text 0) (number 1) none)
  | "substr", 3 => return .text (cut (text 0) (number 1) (some (number 2)))
  | "index", 2 => return .number (Float.ofNat (indexOf (text 1) 1 (text 0)))
  | "sprintf", _ => return .text (← printed c "sprintf" vs)
  | "sin", 1 => return .number (Float.sin (number 0))
  | "cos", 1 => return .number (Float.cos (number 0))
  | "atan2", 2 => return .number (Float.atan2 (number 0) (number 1))
  | "exp", 1 => return .number (Float.exp (number 0))
  | "log", 1 => return .number (Float.log (number 0))
  | "sqrt", 1 => return .number (Float.sqrt (number 0))
  | "int", 1 =>
    let f := number 0
    return .number (if f < 0 then Float.ceil f else Float.floor f)
  | "rand", _ =>
    let (f, next) := nextRandom (← get).random
    modify fun s => { s with random := next }
    return .number f
  | "srand", n =>
    let before := (← get).seed
    let seed ← if n = 0 then do pure (Float.ofNat ((← act Act.now) / 1000000)) else pure (number 0)
    modify fun s => { s with seed, random := (truncated seed).natAbs }
    return .number before
  | "tolower", 1 => return .text (Raw.toLower (text 0))
  | "toupper", 1 => return .text (Raw.toUpper (text 0))
  | "system", 1 =>
    flushAll c
    let pid ← act (startCommand c (text 0) 1 1 [])
    return .number (statusOf (← act (Starting.endOf pid)))
  | "close", 1 => return .number (← closeNamed (text 0))
  | "fflush", _ =>
    flushAll c
    return .number 0
  | "systime", _ => return .number (Float.ofNat ((← act Act.now) / 1000000))
  | "strftime", n =>
    let seconds ← if n < 2 then do pure ((← act Act.now) / 1000000 : Nat) else pure (truncated (number 1)).toNat
    let shape := if n = 0 then "%c".toList else text 0
    return .text (Calendar.formatted (Calendar.Shown.at Calendar.Zone.universal seconds 0) shape)
  | _, _ => wrong

mutual

/-- The value of an expression. -/
def eval (c : Call) : (fuel : Nat) → Expr → Running Value
  | 0, _ => return .unset
  | fuel + 1, e =>
    match e with
    | .number f => return .number f
    | .text r => return .text r
    | .group e => eval c fuel e
    | .pattern t => do return .ofBool ((← regex c t).isIn (← get).record)
    | .name n => variableValue c n
    | .element n keys => do
      let key ← keyOf (← evalAll c fuel keys)
      let t ← tableOf n
      match (← table t).get? key with
      | some v => return v
      | none =>
        onTable t fun t => t.put key .unset
        return .unset
    | .field i => do field c (← fieldNumber c (← eval c fuel i))
    | .assign op target value => do
      let v ← match op with
        | none => eval c fuel value
        | some op => do
          let right ← eval c fuel value
          let left ← eval c fuel target
          pure (.number (op.apply left.toNumber right.toNumber))
      assign c fuel target v
      return v
    | .step up after target => do
      let old := (← eval c fuel target).toNumber
      let new := if up then old + 1 else old - 1
      assign c fuel target (.number new)
      return .number (if after then new else old)
    | .negative e => do return .number (-(← eval c fuel e).toNumber)
    | .positive e => do return .number (← eval c fuel e).toNumber
    | .not e => do return .ofBool (!(← eval c fuel e).isTrue)
    | .arithmetic op a b => do
      let x ← eval c fuel a
      let y ← eval c fuel b
      return .number (op.apply x.toNumber y.toNumber)
    | .joined a b => do
      let x ← eval c fuel a
      let y ← eval c fuel b
      let form ← Running.form
      return .text (x.toText form ++ y.toText form)
    | .compare op a b => do
      let x ← eval c fuel a
      let y ← eval c fuel b
      return .ofBool (op.admits (x.compare (← Running.form) y))
    | .matches negated a b => do
      let x ← eval c fuel a
      let e ← match b with
        | .pattern t => regex c t
        | b => do regex c ((← eval c fuel b).toText (← Running.form))
      return .ofBool (e.isIn (x.toText (← Running.form)) != negated)
    | .both a b => do
      if (← eval c fuel a).isTrue then return .ofBool (← eval c fuel b).isTrue else return .ofBool false
    | .either a b => do
      if (← eval c fuel a).isTrue then return .ofBool true else return .ofBool (← eval c fuel b).isTrue
    | .choice test a b => do
      if (← eval c fuel test).isTrue then eval c fuel a else eval c fuel b
    | .isKey keys n => do
      let key ← keyOf (← evalAll c fuel keys)
      let t ← tableOf n
      return .ofBool ((← table t).get? key).isSome
    | .call n args => call c fuel n args
    | .builtin n args => special c fuel (Raw.text n) args
    | .read target => do
      match ← nextRecord c 1000000 with
      | none => return .number 0
      | some r =>
        match target with
        | none => setRecord r
        | some t => assign c fuel t (Value.read r)
        return .number 1
    | .readFile target path => do
      let name := (← eval c fuel path).toText (← Running.form)
      let (status, r) ← readFrom c false name
      if status == 1 then
        match target with
        | none => setRecord r
        | some t => assign c fuel t (Value.read r)
      return .number status
    | .readCommand target command => do
      let name := (← eval c fuel command).toText (← Running.form)
      let (status, r) ← readFrom c true name
      if status == 1 then
        countUp "NR"
        match target with
        | none => setRecord r
        | some t => assign c fuel t (Value.read r)
      return .number status

/-- The values of expressions. -/
def evalAll (c : Call) : (fuel : Nat) → List Expr → Running (List Value)
  | 0, _ => return []
  | _, [] => return []
  | fuel + 1, e :: rest => do
    let v ← eval c fuel e
    return v :: (← evalAll c fuel rest)

/-- Gives what an expression names a value. -/
def assign (c : Call) : (fuel : Nat) → Expr → Value → Running Unit
  | 0, _, _ => return
  | fuel + 1, target, v => do
    match target with
    | .name n => setVariable c n v
    | .element n keys =>
      let key ← keyOf (← evalAll c fuel keys)
      let t ← tableOf n
      onTable t fun t => t.put key v
    | .field i =>
      let n ← fieldNumber c (← eval c fuel i)
      setField c n (v.toText (← Running.form))
    | .group e => assign c fuel e v
    | _ => return

/-- The value of a function of the program. -/
def call (c : Call) : (fuel : Nat) → Raw → List Expr → Running Value
  | 0, _, _ => return .unset
  | fuel + 1, n, args => do
    match (← get).functions.find? fun f => f.name = n with
    | none => return .unset
    | some f =>
      act (Act.ask fun _ _ => ())
      let given ← bindings c fuel args
      let spare ← (f.parameters.drop given.length).mapM fun _ => do return Binding.free (← newTable)
      let frame := f.parameters.zip (given ++ spare)
      modify fun s => { s with locals := frame :: s.locals }
      let result ← (do
        execAll c fuel f.body
        return Value.unset) |> tryCatchThe Jump <| fun j => match j with
          | .give v => return v
          | j => do
            modify fun s => { s with locals := s.locals.drop 1 }
            throw j
      modify fun s => { s with locals := s.locals.drop 1 }
      return result

/-- What the parameters of a function stand for: values, or the tables that names stand for. -/
def bindings (c : Call) : (fuel : Nat) → List Expr → Running (List Binding)
  | 0, _ => return []
  | _, [] => return []
  | fuel + 1, e :: rest => do
    let b ← match e with
      | .name n => do
        match ← binding? n with
        | some (.table t) => pure (Binding.table t)
        | some (.free t) => pure (Binding.free t)
        | some (.value v) => pure (Binding.value v)
        | none => do
          if n = "NF".toList then pure (Binding.value (← variableValue c n))
          else
            let t ← newTable
            bindName n (.free t)
            pure (Binding.free t)
      | e => do pure (Binding.value (← eval c fuel e))
    return b :: (← bindings c fuel rest)

/-- The value of a function that is always there. -/
def special (c : Call) : (fuel : Nat) → String → List Expr → Running Value
  | 0, _, _ => return .unset
  | fuel + 1, name, args => do
    let form ← Running.form
    let expression (e : Expr) : Running Regex := do
      match e with
      | .pattern t => regex c t
      | e => do regex c ((← eval c fuel e).toText form)
    match name, args with
    | "length", [] => return .number (Float.ofNat (← get).record.length)
    | "length", [.name n] =>
      match ← binding? n with
      | some (.table t) => return .number (Float.ofNat (← table t).size)
      | _ => return .number (Float.ofNat ((← variableValue c n).toText form).length)
    | "length", e :: _ => return .number (Float.ofNat ((← eval c fuel e).toText form).length)
    | "split", text :: .name n :: rest =>
      let text := (← eval c fuel text).toText form
      let sep ← match rest with
        | [] => separator c (← plainText "FS")
        | .pattern t :: _ => do pure (.pattern (← regex c t))
        | e :: _ => do separator c ((← eval c fuel e).toText form)
      let parts := sep.split text
      let t ← tableOf n
      onTable t fun _ => (parts.zipIdx.foldl (fun t (part, i) => t.put (Raw.ofNat (i + 1)) (Value.read part)) Table.empty)
      return .number (Float.ofNat parts.length)
    | "match", [text, e] =>
      let text := (← eval c fuel text).toText form
      match (← expression e).search? text with
      | some m =>
        setPlain "RSTART" (.number (Float.ofNat (m.first + 1)))
        setPlain "RLENGTH" (.number (Float.ofNat (m.last - m.first)))
        return .number (Float.ofNat (m.first + 1))
      | none =>
        setPlain "RSTART" (.number 0)
        setPlain "RLENGTH" (.number (-1))
        return .number 0
    | "sub", e :: new :: rest | "gsub", e :: new :: rest =>
      let e ← expression e
      let new := (← eval c fuel new).toText form
      let target := rest.headD (.field (.number 0))
      let text := ((← eval c fuel target).toText form).toArray
      let found := if name == "sub" then (e.searchFrom? text 0).toList else e.allMatches text
      if !found.isEmpty then assign c fuel target (.text (replaced text new 0 found))
      return .number (Float.ofNat found.length)
    | name, args => builtin c name (← evalAll c fuel args)

/-- Carries out a statement. -/
def exec (c : Call) : (fuel : Nat) → Statement → Running Unit
  | 0, _ => return
  | fuel + 1, s => do
    /- The body of a loop once; tells if the loop goes on. -/
    let once (body : List Statement) : Running Bool := do
      act (Act.ask fun _ _ => ())
      (do
        execAll c fuel body
        return true) |> tryCatchThe Jump <| fun j => match j with
          | .leave => return false
          | .again => return true
          | j => throw j
    let lead (o : Outlet) (octets : Raw) : Running Unit := do
      match o with
      | .standard =>
        modify fun s => { s with output := s.output.put octets }
        let s ← get
        if s.output.size ≥ Sources.Kept.most then flushOutput c
      | .file e => do writeTo c .file ((← eval c fuel e).toText (← Running.form)) octets
      | .append e => do writeTo c .append ((← eval c fuel e).toText (← Running.form)) octets
      | .command e => do writeTo c .command ((← eval c fuel e).toText (← Running.form)) octets
    match s with
    | .value e =>
      let _ ← eval c fuel e
    | .print values outlet =>
      let vs ← evalAll c fuel values
      let form ← plainText "OFMT"
      let text ← if values.isEmpty then do pure (← get).record
        else do pure (Raw.joined (← plainText "OFS") (vs.map (Value.toText form)))
      lead outlet (text ++ (← plainText "ORS"))
    | .printf values outlet =>
      let vs ← evalAll c fuel values
      lead outlet (← printed c "printf" vs)
    | .choice test yes no =>
      if (← eval c fuel test).isTrue then execAll c fuel yes else execAll c fuel no
    | .loop test body =>
      if (← eval c fuel test).isTrue then
        if ← once body then exec c fuel (.loop test body)
    | .loopAfter body test =>
      if ← once body then
        if (← eval c fuel test).isTrue then exec c fuel (.loopAfter body test)
    | .count first test step body =>
      match first with
      | some s =>
        exec c fuel s
        exec c fuel (.count none test step body)
      | none =>
        let goesOn ← match test with
          | some e => do pure (← eval c fuel e).isTrue
          | none => pure true
        if goesOn then
          if ← once body then
            match step with
            | some s => exec c fuel s
            | none => pure ()
            exec c fuel (.count none test step body)
    | .each key n body =>
      let t ← tableOf n
      execEach c fuel key t body (← table t).keys
    | .block body => execAll c fuel body
    | .leave => throw .leave
    | .again => throw .again
    | .next => throw .next
    | .nextFile => throw .nextFile
    | .exit code =>
      match code with
      | some e =>
        let v ← eval c fuel e
        modify fun s => { s with code := UInt8.ofNat (truncated v.toNumber % 256).toNat }
      | none => pure ()
      throw .exit
    | .give value =>
      let v ← match value with
        | some e => eval c fuel e
        | none => pure .unset
      throw (.give v)
    | .delete n keys =>
      let t ← tableOf n
      match keys with
      | some ks =>
        let key ← keyOf (← evalAll c fuel ks)
        onTable t fun t => t.erase key
      | none => onTable t fun _ => Table.empty

/-- Carries out a loop for each key. -/
def execEach (c : Call) : (fuel : Nat) → Raw → (table : Nat) → List Statement → List Raw → Running Unit
  | 0, _, _, _, _ => return
  | _, _, _, _, [] => return
  | fuel + 1, name, t, body, key :: rest => do
    act (Act.ask fun _ _ => ())
    setVariable c name (Value.read key)
    let goesOn ← (do
      execAll c fuel body
      return true) |> tryCatchThe Jump <| fun j => match j with
        | .leave => return false
        | .again => return true
        | j => throw j
    if goesOn then execEach c fuel name t body rest

/-- Carries out statements. -/
def execAll (c : Call) : (fuel : Nat) → List Statement → Running Unit
  | 0, _ => return
  | _, [] => return
  | fuel + 1, s :: rest => do
    exec c fuel s
    execAll c fuel rest

end

/-! ## Programs -/

/-- How deep and how long a program goes. -/
def bound : Nat := 1000000000000

/-- The action of a rule. -/
def Rule.action (r : Rule) : List Statement :=
  r.body.getD [.print [] .standard]

/-- Whether a rule applies to the record at hand. -/
def applies (c : Call) (index : Nat) (r : Rule) : Running Bool := do
  match r.occasion with
  | .always => return true
  | .when e => return (← eval c bound e).isTrue
  | .between first last =>
    let isOpen := (← get).ranges.contains index
    let begins ← if isOpen then pure true else do pure (← eval c bound first).isTrue
    if begins then
      if (← eval c bound last).isTrue then modify fun s => { s with ranges := s.ranges.filter (· != index) }
      else if !isOpen then modify fun s => { s with ranges := index :: s.ranges }
    return begins
  | _ => return false

/-- Applies the rules to the record at hand. -/
def applyRules (c : Call) (rules : List (Rule × Nat)) : Running Unit :=
  rules.forM fun (r, index) => do
    if ← applies c index r then execAll c bound r.action

/-- Reads records and applies the rules to each. -/
def readAll (c : Call) (rules : List (Rule × Nat)) : (fuel : Nat) → Running Unit
  | 0 => return
  | fuel + 1 => do
    match ← nextRecord c 1000000 with
    | none => return
    | some r =>
      setRecord r
      applyRules c rules |> tryCatchThe Jump <| fun j => match j with
        | .next => return
        | .nextFile => closeMain
        | j => throw j
      readAll c rules fuel

/-- The actions of the rules for an occasion. -/
def Program.actions (p : Program) (atStart : Bool) : List Statement :=
  p.rules.flatMap fun r => match r.occasion, atStart with
    | .start, true => r.action
    | .finish, false => r.action
    | _, _ => []

/-- Whether a program reads input. -/
def Program.reads (p : Program) : Bool :=
  p.rules.any fun r => match r.occasion with
    | .start => false
    | _ => true

/-- Carries out a program. -/
def Program.carryOut (c : Call) (p : Program) : Running Unit := do
  let main := p.rules.zipIdx.filter fun (r, _) => match r.occasion with
    | .start | .finish => false
    | _ => true
  (do
    execAll c bound (p.actions true)
    if p.reads then
      readAll c main bound) |> tryCatchThe Jump <| fun _ => do
        modify fun s => { s with finished := true }
  let s ← get
  if p.reads || !s.finished then
    execAll c bound (p.actions false) |> tryCatchThe Jump <| fun _ => return
  closeAll c

end RunMeter.Machine.Awk
