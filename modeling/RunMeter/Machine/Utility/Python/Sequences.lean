import RunMeter.Machine.Utility.Python.State

/-!
# RunMeter.Machine.Utility.Python.Sequences — texts, lists and mappings

* `itemsOf`: the items of a value, one after another.
* `elementOf`: an element or a part of a sequence or a mapping.
* `textMethod`, `octetMethod`, `listMethod`, `dictMethod`, `setMethod`: what they can be asked to do.

Nothing that is proved depends on this module.
-/

namespace RunMeter.Machine.Python

/-- What carrying out a program lends to the functions that are always there. -/
structure Means where
  program : Call
  /-- Calls a value with values, some of them by name. -/
  call : Value → List Value → List (Text × Value) → Running Value

namespace Running

/-- Entries of a mapping with one put in. -/
def withEntry (s : Store) (key v : Value) : List (Value × Value) → List (Value × Value)
  | [] => [(key, v)]
  | (k, old) :: rest => if k.equal s key then (k, v) :: rest else (k, old) :: withEntry s key v rest

/-- Values without those that are equal to an earlier one. -/
def distinct (s : Store) (vs : List Value) : List Value :=
  (vs.foldl (fun kept v => if kept.any (Value.equal s v) then kept else v :: kept) []).reverse

/-- How many numbers a range has. -/
def rangeCount (first last step : Int) : Nat :=
  if step > 0 then (if first < last then ((last - first - 1) / step + 1).toNat else 0)
  else if first > last then ((first - last - 1) / (-step) + 1).toNat else 0

/-- The number that a value must be. -/
def intOf (v : Value) : Running Int := do
  match v.int? with
  | some n => return n
  | none => raiseKind ("'" ++ (← kindName v) ++ "' object cannot be interpreted as an integer")

/-- The text that a value must be. -/
def textOf (v : Value) : Running Text := do
  match v with
  | .text t => return t
  | v => raiseKind ("expected str, not " ++ (← kindName v))

/-- The method of a value of a program's own kind, if it has one by a name. -/
def ownMethod? (v : Value) (name : String) : Running (Option Value) := do
  match v with
  | .object n =>
    let kind? : Option Value := match ← objectAt n with
      | .instance k _ => some k
      | .mishap m => some m.kind
      | _ => none
    match kind? with
    | some k => return inherited (← store) name.toList 50 k
    | none => return none
  | _ => return none
where
  /-- What a kind or one of those that it belongs to has by a name. -/
  inherited (s : Store) (name : Text) : (fuel : Nat) → Value → Option Value
    | 0, _ => none
    | fuel + 1, k =>
      match k with
      | .object n => match s.at n with
        | .kind k =>
          match k.attributes.lookup name with
          | some v => some v
          | none => k.bases.findSome? (inherited s name fuel)
        | _ => none
      | _ => none

/-- A value as it is printed, in its own way if it has one. -/
def printedBy (m : Means) (v : Value) : Running Text := do
  match ← ownMethod? v "__str__" with
  | some f => textOf (← m.call f [v] [])
  | none =>
    match ← ownMethod? v "__repr__" with
    | some f => textOf (← m.call f [v] [])
    | none => printed v

/-- A value as programs write it, in its own way if it has one. -/
def shownBy (m : Means) (v : Value) : Running Text := do
  match ← ownMethod? v "__repr__" with
  | some f => textOf (← m.call f [v] [])
  | none => return v.shown (← store)

/-- The next item of an iterator. -/
def nextItem (n : Nat) (c : Cursor) : Running (Option Value) := do
  match c with
  | .items [] => return none
  | .items (v :: rest) =>
    put n (.iterator (.items rest))
    return some v
  | .numbers _ _ 0 => return none
  | .numbers next step (count + 1) =>
    put n (.iterator (.numbers (next + step) step count))
    return some (.int next)
  | .endless next step =>
    put n (.iterator (.endless (next + step) step))
    return some (.int next)
  | .lines stream =>
    match ← stream? stream with
    | some (i, _, octets) =>
      match ← takeLine i with
      | [] => return none
      | line => return some (if octets then .octets line else .text (Text.ofRaw line))
    | none => return none

/-- What the items of a value come from. -/
def cursorOf (m : Means) (v : Value) : Running Cursor := do
  let s ← store
  match v with
  | .text t => return .items (t.map fun c => .text [c])
  | .range a b c => return .numbers a c (rangeCount a b c)
  | .kind "Signals" => return .items ((List.range 31).filterMap fun i =>
      (SignalNumber.name? (i + 1)).map fun n => .member "Signals" ("SIG" ++ n) (i + 1 : Nat))
  | v =>
    match v.items? s, v.octets? s with
    | some vs, _ => return .items vs
    | none, some r => return .items (r.map fun c => .int c.toNat)
    | none, none =>
      match v with
      | .object n =>
        match s.at n with
        | .dict es => return .items (es.map Prod.fst)
        | .set _ vs => return .items vs
        | .iterator c =>
          match c with
          | .lines _ | .endless .. => return c
          | c =>
            put n (.iterator (.items []))
            return c
        | .stream _ => return .lines v
        | .instance .. =>
          match ← ownMethod? v "__iter__" with
          | some f =>
            let inner ← m.call f [v] []
            match inner with
            | .object i => match ← objectAt i with
              | .iterator c => return c
              | .list vs => return .items vs.toList
              | _ => raiseKind ("'" ++ (← kindName v) ++ "' object is not iterable")
            | _ => raiseKind ("'" ++ (← kindName v) ++ "' object is not iterable")
          | none => raiseKind ("'" ++ (← kindName v) ++ "' object is not iterable")
        | _ => raiseKind ("'" ++ (← kindName v) ++ "' object is not iterable")
      | .under _ => return .lines v
      | v => raiseKind ("'" ++ (← kindName v) ++ "' object is not iterable")

/-- All items of a value. -/
def itemsOf (m : Means) (v : Value) : Running (List Value) := do
  match ← cursorOf m v with
  | .items vs => return vs
  | .numbers next step count => return (List.range count).map fun (i : Nat) => .int (next + step * i)
  | .endless .. => raise "MemoryError" ""
  | .lines stream =>
    match ← stream? stream with
    | some (i, _, octets) =>
      return (← takeLines i Act.blockBound).map fun l => if octets then .octets l else .text (Text.ofRaw l)
    | none => return []

/-- The bounds of a part of a sequence that is so long: the first index, the step, and how many items. -/
def partOf (first last step : Value) (length : Nat) : Running (Int × Int × Nat) := do
  let number (v : Value) (usual : Int) : Running Int := do
    match v with
    | .nothing => return usual
    | v => match v.int? with
      | some n => return n
      | none => raiseKind "slice indices must be integers or None or have an __index__ method"
  let step ← number step 1
  if step = 0 then raise "ValueError" "slice step cannot be zero"
  let n : Int := length
  let clamp (i low high : Int) : Int := max low (min high (if i < 0 then i + n else i))
  let a ← number first (if step > 0 then 0 else n)
  let (a, b) ← if step > 0 then do
      let b ← number last n
      pure (clamp a 0 n, clamp b 0 n)
    else do
      let b : Int ← match last with
        | .nothing => pure (-1)
        | v => do
          let b ← number v 0
          pure (clamp b (-1) (n - 1))
      pure ((match first with
        | .nothing => n - 1
        | _ => clamp a (-1) (n - 1)), b)
  return (a, step, rangeCount a b step)

/-- Items of a list at a first index and at steps from there. -/
def pick {α : Type} (items : Array α) (first step : Int) (count : Nat) : List α :=
  (List.range count).filterMap fun (i : Nat) => items[(first + step * i).toNat]?

/-- The index of an element, counted from the start. -/
def indexIn (key : Value) (length : Nat) (what : String) : Running Nat := do
  match key.int? with
  | none => raiseKind (what ++ " indices must be integers or slices, not " ++ (← kindName key))
  | some i =>
    let j := if i < 0 then i + length else i
    if j < 0 || j ≥ length then
      let place := if what == "byte" then "index" else if what == "string" then "string index" else what ++ " index"
      raise "IndexError" (place ++ " out of range")
    else return j.toNat

/-- An element of a value, or a part of it. -/
def elementOf (m : Means) (v key : Value) : Running Value := do
  let s ← store
  let part {α : Type} (items : List α) (make : List α → Running Value) : Running Value := do
    match key with
    | .slice a b c =>
      let (first, step, count) ← partOf a b c items.length
      make (pick items.toArray first step count)
    | _ => make items
  let isPart := key matches .slice ..
  match v with
  | .text t =>
    if isPart then part t fun t => pure (.text t)
    else return .text ((t.drop (← indexIn key t.length "string")).take 1)
  | .tuple vs =>
    if isPart then part vs fun vs => pure (.tuple vs)
    else return vs.getD (← indexIn key vs.length "tuple") .nothing
  | .range a b c =>
    let n := rangeCount a b c
    if isPart then
      match key with
      | .slice x y z =>
        let (first, step, count) ← partOf x y z n
        return .range (a + c * first) (a + c * (first + step * count)) (c * step)
      | _ => return v
    else return .int (a + c * (← indexIn key n "range"))
  | v =>
    match v.octets? s with
    | some r =>
      if isPart then part r fun r => pure (.octets r)
      else return .int ((r.getD (← indexIn key r.length "byte") '\x00').toNat)
    | none =>
      match v with
      | .object n =>
        match s.at n with
        | .list vs =>
          if isPart then part vs.toList newList
          else return vs.getD (← indexIn key vs.size "list") .nothing
        | .dict es =>
          if !(key.isKey s Value.depth) then raiseKind ("unhashable type: '" ++ key.kindName s ++ "'")
          else match es.find? fun e => e.1.equal s key with
            | some e => return e.2
            | none =>
              let places :=
                if n = environmentObject then [⟨"<frozen os>".toList, "__getitem__".toList, 679, []⟩] else []
              raiseIn places (raiseWith "KeyError" [key] [])
        | .instance .. =>
          match ← ownMethod? v "__getitem__" with
          | some f => m.call f [v, key] []
          | none => raiseKind ("'" ++ v.kindName s ++ "' object is not subscriptable")
        | _ => raiseKind ("'" ++ v.kindName s ++ "' object is not subscriptable")
      | .vast u n =>
        match v.items? s with
        | some vs =>
          if isPart then part vs newList
          else
            let i ← indexIn key vs.length "list"
            return vs.getD i .nothing
        | none =>
          match u with
          | .text t =>
            let i ← indexIn key (n * t.length) "string"
            return .text ((t.drop (i % t.length)).take 1)
          | _ => raiseKind "object is not subscriptable"
      | .kind "Signals" =>
        match key with
        | .text t =>
          match SignalNumber.named? (Raw.text (t.drop 3)) with
          | some n => return .member "Signals" (Raw.text t) (n : Nat)
          | none => raiseWith "KeyError" [key] []
        | _ => raiseWith "KeyError" [key] []
      | .kind "type" => raiseKind "'type' object is not subscriptable"
      | .kind _ => return v
      | v => raiseKind ("'" ++ v.kindName s ++ "' object is not subscriptable")

/-- Puts an element into a value. -/
def setElement (m : Means) (v key new : Value) : Running Unit := do
  let s ← store
  match v with
  | .object n =>
    match s.at n with
    | .list vs =>
      match key with
      | .slice a b c =>
        let (first, step, count) ← partOf a b c vs.size
        let items ← itemsOf m new
        let start := first.toNat
        if step = 1 then put n (.list ((vs.toList.take start) ++ items ++ vs.toList.drop (start + count)).toArray)
        else
          put n (.list ((items.take count).zipIdx.foldl (fun vs (v, i) => vs.setIfInBounds (first + step * i).toNat v) vs))
      | key =>
        match key.int? with
        | none => raiseKind ("list indices must be integers or slices, not " ++ key.kindName s)
        | some i =>
          let j := if i < 0 then i + vs.size else i
          if j < 0 || j ≥ vs.size then raise "IndexError" "list assignment index out of range"
          else put n (.list (vs.setIfInBounds j.toNat new))
    | .dict es =>
      if !(key.isKey s Value.depth) then raiseKind ("unhashable type: '" ++ key.kindName s ++ "'")
      else put n (.dict (withEntry s key new es))
    | .octetArray r =>
      let i ← indexIn key r.length "bytearray"
      put n (.octetArray (r.set i (Char.ofNat (← intOf new).toNat)))
    | .instance .. =>
      match ← ownMethod? v "__setitem__" with
      | some f => let _ ← m.call f [v, key, new] []
      | none => raiseKind ("'" ++ v.kindName s ++ "' object does not support item assignment")
    | _ => raiseKind ("'" ++ v.kindName s ++ "' object does not support item assignment")
  | .vast .. => return
  | v => raiseKind ("'" ++ v.kindName s ++ "' object does not support item assignment")

/-- Takes an element out of a value. -/
def deleteElement (v key : Value) : Running Unit := do
  let s ← store
  match v with
  | .object n =>
    match s.at n with
    | .list vs =>
      match key with
      | .slice a b c =>
        let (first, step, count) ← partOf a b c vs.size
        let gone := (List.range count).map fun (i : Nat) => (first + step * i).toNat
        put n (.list ((vs.toList.zipIdx.filter fun e => !gone.contains e.2).map Prod.fst).toArray)
      | key =>
        let i ← indexIn key vs.size "list"
        put n (.list (vs.toList.eraseIdx i).toArray)
    | .dict es =>
      if es.any fun e => e.1.equal s key then put n (.dict (es.filter fun e => !(e.1.equal s key)))
      else raiseWith "KeyError" [key] []
    | _ => raiseKind ("'" ++ v.kindName s ++ "' object doesn't support item deletion")
  | v => raiseKind ("'" ++ v.kindName s ++ "' object doesn't support item deletion")

/-- How long a value is. -/
def lengthOf (m : Means) (v : Value) : Running Nat := do
  let s ← store
  match v with
  | .text t => return t.length
  | .octets r => return r.length
  | .tuple vs => return vs.length
  | .range a b c => return rangeCount a b c
  | .vast u n =>
    match u with
    | .text t => return t.length * n
    | .octets r => return r.length * n
    | .tuple vs => return vs.length * n
    | _ => return n
  | .object n =>
    match s.at n with
    | .list vs => return vs.size
    | .dict es => return es.length
    | .set _ vs => return vs.length
    | .octetArray r => return r.length
    | .view what d => return (Value.viewed s what d).length
    | _ =>
      match ← ownMethod? v "__len__" with
      | some f => return (← intOf (← m.call f [v] [])).toNat
      | none => raiseKind ("object of type '" ++ v.kindName s ++ "' has no len()")
  | v => raiseKind ("object of type '" ++ v.kindName s ++ "' has no len()")

/-- Whether a value is true, in its own way if it has one. -/
def truthOf (m : Means) (v : Value) : Running Bool := do
  match ← ownMethod? v "__bool__" with
  | some f => return (← m.call f [v] []).isTrue (← store)
  | none =>
    match ← ownMethod? v "__len__" with
    | some f => return (← intOf (← m.call f [v] [])) != 0
    | none => return v.isTrue (← store)

/-- Whether a part stands in a text. -/
def isPartOf (part : Text) : Text → Bool
  | [] => part.isEmpty
  | t@(_ :: rest) => part.isPrefixOf t || isPartOf part rest

/-- Whether a value has another one in it. -/
def contains (m : Means) (v item : Value) : Running Bool := do
  let s ← store
  match v, item with
  | .text t, .text u => return isPartOf u t
  | .text _, item => raiseKind ("'in <string>' requires string as left operand, not " ++ item.kindName s)
  | .range a b c, item =>
    match item.int? with
    | some n => return (if c > 0 then a ≤ n && n < b else b < n && n ≤ a) && (n - a) % c = 0
    | none => return false
  | v, item =>
    match v.octets? s, item.octets? s with
    | some r, some q => return isPartOf q r
    | _, _ =>
      match ← ownMethod? v "__contains__" with
      | some f => return (← m.call f [v, item] []).isTrue s
      | none =>
        match v with
        | .object n => match s.at n with
          | .dict es => return es.any fun e => e.1.equal s item
          | .iterator _ | .set .. | .list _ | .stream _ | .instance .. | .view .. =>
            return (← itemsOf m v).any (Value.equal s item)
          | _ => raiseKind ("argument of type '" ++ v.kindName s ++ "' is not iterable")
        | .tuple _ | .octets _ | .vast .. | .kind "Signals" => return (← itemsOf m v).any (Value.equal s item)
        | v => raiseKind ("argument of type '" ++ v.kindName s ++ "' is not iterable")

/-- Puts values in order by their keys. -/
def sorted (m : Means) (vs : List Value) (key : Option Value) (reverse : Bool) : Running (List Value) := do
  let keyed ← vs.mapM fun v => do
    match key with
    | none | some .nothing => return (v, v)
    | some f => return (← m.call f [v] [], v)
  let s ← store
  let keys := keyed.map Prod.fst
  for (a, b) in keys.zip (keys.drop 1) do
    if (a.orderWithin s Value.depth b).isNone then
      raiseKind ("'<' not supported between instances of '" ++ b.kindName s ++ "' and '" ++ a.kindName s ++ "'")
  let before (a b : Value × Value) : Bool :=
    match a.1.orderWithin s Value.depth b.1 with
    | some (some o) => if reverse then o != .lt else o != .gt
    | _ => true
  return (keyed.mergeSort before).map Prod.snd

/-! ## Texts -/

/-- A text cut where another one stands, at most so often. -/
def cutAt (mark : Text) (most : Option Nat) (t : Text) : List Text :=
  let rec cut : (fuel : Nat) → (left : Option Nat) → (taken : Text) → Text → List Text
    | 0, _, taken, t => [taken.reverse ++ t]
    | _, _, taken, [] => [taken.reverse]
    | fuel + 1, left, taken, c :: rest =>
      if left = some 0 then [taken.reverse ++ c :: rest]
      else if mark.isPrefixOf (c :: rest) then taken.reverse :: cut fuel (left.map (· - 1)) [] ((c :: rest).drop mark.length)
      else cut fuel left (c :: taken) rest
  if mark.isEmpty then [t] else cut (t.length + 1) most [] t

/-- The words of a text, at most so many before the rest. -/
def wordsOf (most : Option Nat) (t : Text) : List Text :=
  let rec words : (fuel : Nat) → (left : Option Nat) → Text → List Text
    | 0, _, _ => []
    | fuel + 1, left, t =>
      match t.dropWhile Raw.isSpace with
      | [] => []
      | t =>
        if left = some 0 then [Raw.dropEndWhile Raw.isSpace t]
        else
          let w := t.takeWhile fun c => !Raw.isSpace c
          w :: words fuel (left.map (· - 1)) (t.drop w.length)
  words (t.length + 1) most t

/-- The first place where a part stands. -/
def placeIn (part : Text) : (place : Nat) → Text → Option Nat
  | place, [] => if part.isEmpty then some place else none
  | place, t@(_ :: rest) => if part.isPrefixOf t then some place else placeIn part (place + 1) rest

/-- The last place where a part stands. -/
def lastPlaceIn (part t : Text) : Option Nat :=
  (placeIn part.reverse 0 t.reverse).map fun i => t.length - i - part.length

/-- Lines of a text, with or without their ends. -/
def splitLines (keep : Bool) (t : Text) : List Text :=
  let ls := Raw.linesWithEnds t
  if keep then ls else ls.map fun l => if l.getLast? = some '\n' then
    (if l.dropLast.getLast? = some '\r' then l.dropLast.dropLast else l.dropLast) else l

/-- Letters at the starts of words in capitals, and others small. -/
def titled : (inWord : Bool) → Text → Text
  | _, [] => []
  | inWord, c :: rest => (if inWord then c.toLower else c.toUpper) :: titled c.isAlpha rest

/-- The value of what a text or octets can be asked to do, if it is the same for both; `wrap` makes a value. -/
def commonMethod (m : Means) (t : Text) (wrap : Text → Value) (unwrap : Value → Running Text) (name : String)
    (args : List Value) (named : List (Text × Value)) : Running (Option Value) := do
  let arg (i : Nat) (key : String) : Option Value :=
    match args[i]? with
    | some v => some v
    | none => named.lookup key.toList
  let most (i : Nat) : Running (Option Nat) := do
    match arg i "maxsplit" with
    | none => return none
    | some v =>
      let n ← intOf v
      return if n < 0 then none else some n.toNat
  let charSet : Running (Char → Bool) := do
    match args.head? with
    | none | some .nothing => return Raw.isSpace
    | some v =>
      let set ← unwrap v
      return set.contains
  let some? (v : Value) : Running (Option Value) := return some v
  let truth (b : Bool) : Running (Option Value) := return some (.truth b)
  let count (o : Option Nat) : Running (Option Value) := return some (.int (match o with
    | some n => n
    | none => -1))
  let within : Running Text := do
    match args[1]?, args[2]? with
    | none, _ => return t
    | some a, b =>
      let (first, step, n) ← partOf a (b.getD .nothing) .nothing t.length
      return pick t.toArray first step n
  let affix (test : Text → Text → Bool) : Running (Option Value) := do
    match args with
    | .tuple vs :: _ => truth ((← vs.mapM unwrap).any fun p => test p t)
    | v :: _ => truth (test (← unwrap v) (← within))
    | [] => raiseKind (name ++ "() takes at least 1 argument (0 given)")
  let padding (f : Nat → Char → Text) : Running (Option Value) := do
    let w := (← intOf (args.getD 0 (.int 0))).toNat
    let fill := ((← (args[1]?).mapM unwrap).getD [' ']).headD ' '
    some? (wrap (f (w - t.length) fill))
  match name with
  | "upper" => some? (wrap (Raw.toUpper t))
  | "lower" | "casefold" => some? (wrap (Raw.toLower t))
  | "swapcase" => some? (wrap (t.map fun c => if c.isUpper then c.toLower else c.toUpper))
  | "title" => some? (wrap (titled false t))
  | "capitalize" => some? (wrap ((Raw.toUpper (t.take 1)) ++ Raw.toLower (t.drop 1)))
  | "strip" => do
    let set ← charSet
    some? (wrap (Raw.dropEndWhile set (t.dropWhile set)))
  | "lstrip" => do some? (wrap (t.dropWhile (← charSet)))
  | "rstrip" => do some? (wrap (Raw.dropEndWhile (← charSet) t))
  | "split" => do
    match arg 0 "sep" with
    | none | some .nothing => return some (← newList ((wordsOf (← most 1) t).map wrap))
    | some v =>
      let mark ← unwrap v
      if mark.isEmpty then raise "ValueError" "empty separator"
      return some (← newList ((cutAt mark (← most 1) t).map wrap))
  | "rsplit" => do
    match arg 0 "sep" with
    | none | some .nothing =>
      return some (← newList (((wordsOf (← most 1) t.reverse).map List.reverse).reverse.map wrap))
    | some v =>
      let mark ← unwrap v
      return some (← newList (((cutAt mark.reverse (← most 1) t.reverse).map List.reverse).reverse.map wrap))
  | "splitlines" => do
    let keep := ((arg 0 "keepends").map (Value.isTrue (← store))).getD false
    return some (← newList ((splitLines keep t).map wrap))
  | "join" => do
    let vs ← itemsOf m (args.headD .nothing)
    let parts ← vs.zipIdx.mapM fun (v, i) => do
      match v with
      | .text u => return u
      | .octets r => return r
      | v => raiseKind (s!"sequence item {i}: expected str instance, " ++ (← kindName v) ++ " found")
    some? (wrap (Raw.joined t parts))
  | "replace" => do
    let old ← unwrap (args.getD 0 .nothing)
    let new ← unwrap (args.getD 1 .nothing)
    let n ← (args[2]?).mapM intOf
    if old.isEmpty then some? (wrap (new ++ t.flatMap fun c => c :: new))
    else some? (wrap (Raw.joined new (cutAt old (n.bind fun n => if n < 0 then none else some n.toNat) t)))
  | "startswith" => affix List.isPrefixOf
  | "endswith" => affix List.isSuffixOf
  | "find" => do count (placeIn (← unwrap (args.getD 0 .nothing)) 0 (← within))
  | "rfind" => do count (lastPlaceIn (← unwrap (args.getD 0 .nothing)) (← within))
  | "index" | "rindex" => do
    let part ← unwrap (args.getD 0 .nothing)
    match if name == "index" then placeIn part 0 t else lastPlaceIn part t with
    | some i => some? (.int i)
    | none => raise "ValueError" "substring not found"
  | "count" => do
    let part ← unwrap (args.getD 0 .nothing)
    some? (.int (if part.isEmpty then t.length + 1 else (cutAt part none t).length - 1 : Nat))
  | "isdigit" | "isdecimal" | "isnumeric" => truth (!t.isEmpty && t.all Char.isDigit)
  | "isalpha" => truth (!t.isEmpty && t.all fun c => c.isAlpha || c.toNat > 191)
  | "isalnum" => truth (!t.isEmpty && t.all fun c => c.isAlphanum || c.toNat > 191)
  | "isspace" => truth (!t.isEmpty && t.all Raw.isSpace)
  | "isupper" => truth (t.any Char.isUpper && !(t.any Char.isLower))
  | "islower" => truth (t.any Char.isLower && !(t.any Char.isUpper))
  | "isascii" => truth (t.all fun c => c.toNat < 128)
  | "isprintable" => truth (t.all Printable.isPrintable)
  | "isidentifier" => truth (Raw.isName t)
  | "zfill" => do
    let w := (← intOf (args.headD .nothing)).toNat
    match t with
    | c :: rest =>
      if c = '-' || c = '+' then some? (wrap (c :: Raw.padZeros (w - 1) rest)) else some? (wrap (Raw.padZeros w t))
    | [] => some? (wrap (Raw.padZeros w t))
  | "ljust" => padding fun gap fill => t ++ List.replicate gap fill
  | "rjust" => padding fun gap fill => List.replicate gap fill ++ t
  | "center" => do
    let w := (← intOf (args.getD 0 (.int 0))).toNat
    padding fun gap fill =>
      let left := gap / 2 + (if gap % 2 = 1 && w % 2 = 1 then 1 else 0)
      List.replicate left fill ++ t ++ List.replicate (gap - left) fill
  | "partition" | "rpartition" => do
    let part ← unwrap (args.headD .nothing)
    match if name == "partition" then placeIn part 0 t else lastPlaceIn part t with
    | some i => some? (.tuple [wrap (t.take i), wrap part, wrap (t.drop (i + part.length))])
    | none =>
      some? (if name == "partition" then .tuple [wrap t, wrap [], wrap []] else .tuple [wrap [], wrap [], wrap t])
  | "removeprefix" => do
    let part ← unwrap (args.headD .nothing)
    some? (wrap (if part.isPrefixOf t then t.drop part.length else t))
  | "removesuffix" => do
    let part ← unwrap (args.headD .nothing)
    some? (wrap (if part.isSuffixOf t && !part.isEmpty then t.take (t.length - part.length) else t))
  | "expandtabs" => some? (wrap (t.foldl (fun done c =>
      if c = '\t' then done ++ List.replicate (8 - done.length % 8) ' ' else done ++ [c]) []))
  | _ => return none

/-- Characters of octets, or an exception. -/
def decoded (r : Raw) (mode : Text) : Running Text := do
  match Utf8.decode? (Raw.toOctets r) with
  | some s => return s.toList
  | none =>
    match Raw.text mode with
    | "ignore" => return (Text.ofRaw r).filter fun c => (Text.stray? c).isNone
    | "replace" => return (Utf8.lossy (Raw.toOctets r)).toList
    | "surrogateescape" => return Text.ofRaw r
    | _ =>
      let good := ((Text.ofRaw r).takeWhile fun c => (Text.stray? c).isNone)
      let place := (Text.toRaw good).length
      let octet := ((r.drop place).headD '\x00').toNat
      raise "UnicodeDecodeError" ("'utf-8' codec can't decode byte 0x" ++ Raw.text (Value.hexDigits 2 octet) ++
        s!" in position {place}: invalid start byte")

/-- What octets can be asked to do. -/
def octetMethod (m : Means) (r : Raw) (name : String) (args : List Value) (named : List (Text × Value)) :
    Running (Option Value) := do
  match name with
  | "decode" => do
    let mode : Text := match args.drop 1 with
      | .text t :: _ => t
      | _ => match named.lookup "errors".toList with
        | some (.text t) => t
        | _ => "strict".toList
    return some (.text (← decoded r mode))
  | "hex" => return some (.text (r.flatMap fun c => Value.hexDigits 2 c.toNat))
  | name =>
    commonMethod m r .octets (fun v => do
      match v.octets? (← store) with
      | some r => return r
      | none => raiseKind ("a bytes-like object is required, not '" ++ (← kindName v) ++ "'")) name args named

/-! ## Lists, mappings and sets -/

/-- What a list can be asked to do. -/
def listMethod (m : Means) (n : Nat) (vs : Array Value) (name : String) (args : List Value) (named : List (Text × Value)) :
    Running (Option Value) := do
  let s ← store
  let done (vs : Array Value) : Running (Option Value) := do
    put n (.list vs)
    return some .nothing
  match name, args with
  | "append", [v] => done (vs.push v)
  | "extend", [v] => do done (vs ++ (← itemsOf m v).toArray)
  | "insert", [i, v] => do
    let i ← intOf i
    let place := (max 0 (min (vs.size : Int) (if i < 0 then i + vs.size else i))).toNat
    done ((vs.toList.take place) ++ v :: vs.toList.drop place).toArray
  | "pop", args => do
    if vs.isEmpty then raise "IndexError" "pop from empty list"
    let i ← intOf (args.headD (.int (-1)))
    let j := if i < 0 then i + vs.size else i
    if j < 0 || j ≥ vs.size then raise "IndexError" "pop index out of range"
    put n (.list (vs.toList.eraseIdx j.toNat).toArray)
    return vs[j.toNat]?
  | "remove", [v] =>
    match vs.toList.findIdx? (Value.equal s v) with
    | some i => done (vs.toList.eraseIdx i).toArray
    | none => raise "ValueError" "list.remove(x): x not in list"
  | "clear", [] => done #[]
  | "index", v :: _ =>
    match vs.toList.findIdx? (Value.equal s v) with
    | some i => return some (.int i)
    | none => raise "ValueError" (Raw.text (v.shown s) ++ " is not in list")
  | "count", [v] => return some (.int (vs.toList.filter (Value.equal s v)).length)
  | "reverse", [] => done vs.reverse
  | "copy", [] => return some (← newList vs.toList)
  | "sort", [] => do
    let reverse := ((named.lookup "reverse".toList).map (Value.isTrue s)).getD false
    done (← sorted m vs.toList (named.lookup "key".toList) reverse).toArray
  | _, _ => return none

/-- The entries of a mapping, or of pairs. -/
def entriesOf (m : Means) (v : Value) : Running (List (Value × Value)) := do
  match v with
  | .object n =>
    match ← objectAt n with
    | .dict es => return es
    | _ => pairs v
  | v => pairs v
where
  /-- The entries that pairs make. -/
  pairs (v : Value) : Running (List (Value × Value)) := do
    (← itemsOf m v).mapM fun p => do
      match ← itemsOf m p with
      | [k, v] => return (k, v)
      | _ => raise "ValueError" "dictionary update sequence element #0 has length 1; 2 is required"

/-- What a mapping can be asked to do. -/
def dictMethod (m : Means) (n : Nat) (es : List (Value × Value)) (name : String) (args : List Value)
    (named : List (Text × Value)) : Running (Option Value) := do
  let s ← store
  let found (key : Value) : Option Value := (es.find? fun e => e.1.equal s key).map Prod.snd
  match name, args with
  | "get", key :: rest => return some ((found key).getD (rest.headD .nothing))
  | "keys", [] => return some (← create (.view "dict_keys" n))
  | "values", [] => return some (← create (.view "dict_values" n))
  | "items", [] => return some (← create (.view "dict_items" n))
  | "pop", key :: rest =>
    match found key, rest with
    | some v, _ =>
      put n (.dict (es.filter fun e => !(e.1.equal s key)))
      return some v
    | none, usual :: _ => return some usual
    | none, [] => raiseWith "KeyError" [key] []
  | "setdefault", key :: rest =>
    match found key with
    | some v => return some v
    | none =>
      let v := rest.headD .nothing
      put n (.dict (es ++ [(key, v)]))
      return some v
  | "update", args => do
    let more ← match args with
      | v :: _ => entriesOf m v
      | [] => pure []
    let all := more ++ named.map fun (k, v) => (.text k, v)
    put n (.dict (all.foldl (fun es (k, v) => withEntry s k v es) es))
    return some .nothing
  | "clear", [] =>
    put n (.dict [])
    return some .nothing
  | "copy", [] => return some (← create (.dict es))
  | "popitem", [] =>
    match es.getLast? with
    | some (k, v) =>
      put n (.dict es.dropLast)
      return some (.tuple [k, v])
    | none => raiseWith "KeyError" [.text "popitem(): dictionary is empty".toList] []
  | _, _ => return none

/-- What a set can be asked to do. -/
def setMethod (m : Means) (n : Nat) (frozen : Bool) (vs : List Value) (name : String) (args : List Value) :
    Running (Option Value) := do
  let s ← store
  let others ← args.mapM fun v => do
    if ["add", "remove", "discard"].contains name then return [] else itemsOf m v
  let isIn (v : Value) (ws : List Value) : Bool := ws.any (Value.equal s v)
  let new (ws : List Value) : Running (Option Value) := return some (← create (.set frozen ws))
  let done (ws : List Value) : Running (Option Value) := do
    put n (.set frozen ws)
    return some .nothing
  match name, args with
  | "add", [v] =>
    if !(v.isKey s Value.depth) then raiseKind ("unhashable type: '" ++ v.kindName s ++ "'")
    done (if isIn v vs then vs else vs ++ [v])
  | "discard", [v] => done (vs.filter fun w => !(w.equal s v))
  | "remove", [v] =>
    if isIn v vs then done (vs.filter fun w => !(w.equal s v)) else raiseWith "KeyError" [v] []
  | "pop", [] =>
    match vs with
    | v :: rest =>
      put n (.set frozen rest)
      return some v
    | [] => raiseWith "KeyError" [.text "pop from an empty set".toList] []
  | "clear", [] => done []
  | "copy", [] => new vs
  | "union", _ => new (distinct s (vs ++ others.flatten))
  | "update", _ => done (distinct s (vs ++ others.flatten))
  | "intersection", _ => new (vs.filter fun v => others.all (isIn v))
  | "difference", _ => new (vs.filter fun v => !(others.any (isIn v)))
  | "symmetric_difference", _ =>
    let ws := others.flatten
    new (vs.filter (fun v => !(isIn v ws)) ++ ws.filter fun v => !(isIn v vs))
  | "issubset", _ => return some (.truth (vs.all fun v => isIn v others.flatten))
  | "issuperset", _ => return some (.truth (others.flatten.all fun v => isIn v vs))
  | "isdisjoint", _ => return some (.truth (!(vs.any fun v => isIn v others.flatten)))
  | _, _ => return none

end Running
end RunMeter.Machine.Python
