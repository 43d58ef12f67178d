import RunMeter.Machine.Utility.Sorting

/-!
# RunMeter.Machine.Utility.Joining — programs that relate lines and words

* `join`: lines of two files with a field in common.
* `tsort`: words in an order that pairs of them ask for.

Nothing that is proved depends on this module.
-/

namespace RunMeter.Machine.Joining

open Sources

/-! ## Lines with a field in common -/

/-- A field of the output: the common one, or one of a file's. -/
inductive Part where
  | common
  | field (file place : Nat)

/-- How lines are joined. -/
structure Rule where
  separator : Option Char
  folded : Bool
  /-- The common field in each file, from 0 on. -/
  places : Nat × Nat
  filler : Raw
  parts : Option (List Part)
  /-- The files whose lines are shown without a partner. -/
  alone : List Nat
  pairs : Bool
  /-- Whether order is checked: always, never, or only if some line has no partner. -/
  checking : Option Bool
  header : Bool
  mark : Char

/-- A line of a file, by its number. -/
structure Row where
  number : Nat
  text : Raw
  fields : List Raw

namespace Rule

/-- The fields of a line. -/
def fields (r : Rule) (line : Raw) : List Raw :=
  match r.separator with
  | some ch => if ch = '\n' then [line] else if line.isEmpty then [] else Raw.splitAt ch line
  | none =>
    let blank (ch : Char) : Bool := ch == ' ' || ch == '\t' || ch == '\n'
    let words := (Raw.splitBy blank line).filter (!·.isEmpty)
    if !words.isEmpty && line.getLast?.any blank then words ++ [[]] else words

/-- The place of the common field in a file. -/
def place (r : Rule) (file : Nat) : Nat := if file = 1 then r.places.1 else r.places.2

/-- The common field of a line of a file. -/
def key (r : Rule) (file : Nat) (row : Row) : Raw := row.fields.getD (r.place file) []

/-- The order of two common fields. -/
def order (r : Rule) (a b : Raw) : Ordering :=
  if r.folded then Sorting.octetOrder (Raw.toLower a) (Raw.toLower b) else Sorting.octetOrder a b

/-- A field of a line, or what stands for one that is missing. -/
def shown (r : Rule) (row : Option Row) (place : Nat) : Raw :=
  let field := (row.map fun row => row.fields.getD place []).getD []
  if field.isEmpty then r.filler else field

/-- The fields of a line but the common one. -/
def others (r : Rule) (row : Option Row) (file : Nat) (count : Option Nat) : List Raw :=
  let n := count.getD ((row.map fun row => row.fields.length).getD 0)
  ((List.range n).filter (· != r.place file)).map (r.shown row)

/-- A line of output; `counts` are the numbers of fields that each file's lines are shown with. -/
def line (r : Rule) (counts : Option (Nat × Nat)) (one two : Option Row) : Raw :=
  let common := match one, two with
    | none, row => r.shown row (r.place 2)
    | row, _ => r.shown row (r.place 1)
  let fields := match r.parts with
    | some parts => parts.map fun p => match p with
      | .common => common
      | .field file place => r.shown (if file = 1 then one else two) place
    | none => common :: r.others one 1 (counts.map Prod.fst) ++ r.others two 2 (counts.map Prod.snd)
  Raw.joined [r.separator.getD ' '] fields ++ [r.mark]

end Rule

/-- The state of a join: what is shown, the last first, which files have been complained about, and whether a line
without a partner has been seen. -/
structure Joined where
  pieces : List Piece := []
  disorder : List Nat := []
  unpaired : Bool := false

/-- A file that is being read: its number, its name and the lines left. -/
structure Reader where
  file : Nat
  name : Raw
  rest : List Row

namespace Joined

/-- More output. -/
def put (s : Joined) (octets : Raw) : Joined := { s with pieces := .output octets :: s.pieces }

/-- Goes on to the next line of a file, and complains if the two are out of order.  A complaint ends the program if
order is always checked. -/
def advance (r : Rule) (s : Joined) (f : Reader) : Joined × Reader × Bool :=
  match f.rest with
  | [] => (s, f, false)
  | row :: rest =>
    let f' := { f with rest := rest }
    let checks := match r.checking with
      | some b => b
      | none => s.unpaired
    match rest with
    | [] => (s, f', false)
    | next :: _ =>
      if checks && !s.disorder.contains f.file && r.order (r.key f.file row) (r.key f.file next) = .gt then
        let message := f.name ++ Raw.ofText (":" ++ toString next.number ++ ": is not sorted: ") ++ next.text
        ({ s with pieces := .complaint message :: s.pieces, disorder := f.file :: s.disorder }, f', r.checking = some true)
      else (s, f', false)

/-- Goes on as long as the lines of a file have a common field; gives those lines. -/
def sameKey (r : Rule) : (fuel : Nat) → (key : Raw) → Joined → Reader → List Row → List Row × Joined × Reader × Bool
  | 0, _, s, f, taken => (taken.reverse, s, f, false)
  | fuel + 1, key, s, f, taken =>
    match f.rest with
    | row :: _ =>
      if r.order key (r.key f.file row) = .eq then
        let (s, f, atEnd) := advance r s f
        if atEnd then ((row :: taken).reverse, s, f, true) else sameKey r fuel key s f (row :: taken)
      else (taken.reverse, s, f, false)
    | [] => (taken.reverse, s, f, false)

/-- The lines of a file that are left. -/
def tail (r : Rule) (counts : Option (Nat × Nat)) : (fuel : Nat) → Joined → Reader → Joined
  | 0, s, _ => s
  | fuel + 1, s, f =>
    match f.rest with
    | [] => s
    | row :: _ =>
      let s := if r.alone.contains f.file then
          s.put (if f.file = 1 then r.line counts (some row) none else r.line counts none (some row))
        else s
      let (s, f, atEnd) := advance r s f
      if atEnd then s else tail r counts fuel s f

/-- Joins the lines of two files. -/
def run (r : Rule) (counts : Option (Nat × Nat)) : (fuel : Nat) → Joined → Reader → Reader → Joined
  | 0, s, _, _ => s
  | fuel + 1, s, f, g =>
    match f.rest, g.rest with
    | a :: _, b :: _ =>
      match r.order (r.key 1 a) (r.key 2 b) with
      | .lt =>
        let s := if r.alone.contains 1 then s.put (r.line counts (some a) none) else s
        let (s, f, atEnd) := advance r s f
        if atEnd then s else run r counts fuel { s with unpaired := true } f g
      | .gt =>
        let s := if r.alone.contains 2 then s.put (r.line counts none (some b)) else s
        let (s, g, atEnd) := advance r s g
        if atEnd then s else run r counts fuel { s with unpaired := true } f g
      | .eq =>
        let key := r.key 1 a
        let (as, s, f, atEnd) := sameKey r (f.rest.length + 1) key s f []
        if atEnd then s
        else
          let (bs, s, g, atEnd) := sameKey r (g.rest.length + 1) key s g []
          if atEnd then s
          else
            let out := if r.pairs then as.flatMap fun a => bs.flatMap fun b => r.line counts (some a) (some b) else []
            run r counts fuel (s.put out) f g
    | as, bs =>
      let checks := r.checking != some false
      let s := if (r.alone.contains 1 || checks) && !as.isEmpty then
          tail r counts (as.length + 1) { s with unpaired := s.unpaired || !bs.isEmpty } f
        else s
      if (r.alone.contains 2 || checks) && !bs.isEmpty then
        tail r counts (bs.length + 1) { s with unpaired := s.unpaired || !as.isEmpty } g
      else s

end Joined

/-- The rows of a text. -/
def rowsOf (r : Rule) (text : Raw) : List Row :=
  (records r.mark text).zipIdx.map fun (line, i) => ⟨i + 1, line, r.fields line⟩

/-- The place that a word means. -/
def placeOf (c : Call) (w : Raw) : Act Nat := do
  match Raw.natural? w with
  | some (n + 1) => return n
  | _ => c.fail (Raw.ofText "invalid field number: " ++ Raw.quoted w) 1

/-- The part that a word means. -/
def partOf (c : Call) (w : Raw) : Act Part := do
  match w with
  | '0' :: [] => return .common
  | '0' :: _ => c.fail (Raw.ofText "invalid field specifier: " ++ Raw.quoted w) 1
  | '1' :: '.' :: rest => return .field 1 (← placeOf c rest)
  | '2' :: '.' :: rest => return .field 2 (← placeOf c rest)
  | '1' :: _ | '2' :: _ => c.fail (Raw.ofText "invalid field specifier: " ++ Raw.quoted w) 1
  | w => c.fail (Raw.ofText "invalid file number in field spec: " ++ Raw.quoted w) 1

/-- The field that some switches choose. -/
def chosen (c : Call) (places : List Nat) : Act Nat := do
  match places with
  | [] => return 0
  | p :: rest =>
    match rest.find? (· != p) with
    | some q => c.fail (Raw.ofText ("incompatible join fields " ++ toString p ++ ", " ++ toString q)) 1
    | none => return p

/-- The separator that some switches choose. -/
def separatorOf (c : Call) (ws : List Raw) : Act (Option Char) := do
  let found ← ws.mapM fun w => do
    match w with
    | [] => pure '\n'
    | [ch] => pure ch
    | ['\\', '0'] => pure '\x00'
    | w => c.fail (Raw.ofText "multi-character tab " ++ Raw.quoted w) 1
  match found with
  | [] => return none
  | ch :: rest => if rest.any (· != ch) then c.fail (Raw.ofText "incompatible tabs") 1 else return some ch

/-- The files that some switches choose. -/
def filesOf (c : Call) (ws : List Raw) : Act (List Nat) :=
  ws.mapM fun w => do
    match w with
    | ['1'] => pure 1
    | ['2'] => pure 2
    | w => c.fail (Raw.ofText "invalid field number: " ++ Raw.quoted w) 1

/-- Joins lines of two files. -/
def join : Utility := fun c => do
  let g ← c.options ⟨"a:e:i1:2:j:o:t:v:z", [⟨"ignore-case", "i", .none⟩, ⟨"check-order", "check", .none⟩,
    ⟨"nocheck-order", "nocheck", .none⟩, ⟨"zero-terminated", "z", .none⟩, ⟨"header", "header", .none⟩], false⟩ 1
  let values (keys : List String) : List Raw := (g.switches.filter fun s => keys.contains s.1).map Prod.snd
  let first ← (values ["1", "j"]).mapM (placeOf c)
  let second ← (values ["2", "j"]).mapM (placeOf c)
  let alone ← filesOf c (values ["a", "v"])
  let separator ← separatorOf c (values ["t"])
  let formats := values ["o"]
  let parts ← match formats.filter (· != "auto".toList) with
    | [] => pure none
    | ws => do
      let parts ← (ws.flatMap fun w => (Raw.splitBy (fun ch => ch == ',' || ch == ' ' || ch == '\t') w)).mapM (partOf c)
      pure (some parts)
  match values ["e"] with
  | e :: more => if more.any (· != e) then c.fail (Raw.ofText "conflicting empty-field replacement strings") 1
  | [] => pure ()
  match g.operands with
  | [] => c.misused (Raw.ofText "missing operand") 1
  | [a] => c.misused (Raw.ofText "missing operand after " ++ Raw.quoted a) 1
  | _ :: _ :: extra :: _ => c.misused (Raw.ofText "extra operand " ++ Raw.quoted extra) 1
  | [a, b] =>
    let r : Rule := ⟨separator, g.has "i", (← chosen c first, ← chosen c second), (g.value? "e").getD [], parts, alone,
      !g.has "v", (g.last? ["check", "nocheck"]).map (· == "check"), g.has "header", if g.has "z" then '\x00' else '\n'⟩
    if a = ['-'] && b = ['-'] then c.fail (Raw.ofText "both files cannot be standard input") 1
    let read (path : Raw) : Act Raw := do
      match ← Call.contents path with
      | .ok text => return text
      | .error e => c.fail (if e = .isDirectory then Raw.ofText ("read error: " ++ e.message) else Call.about path e) 1
    let one := rowsOf r (← read a)
    let two := rowsOf r (← read b)
    let counts := if formats.contains "auto".toList then
        some (((one.head?.map fun x => x.fields.length).getD 0), ((two.head?.map fun x => x.fields.length).getD 0))
      else none
    let headed := r.header && !(one.isEmpty && two.isEmpty)
    let blank : Row := ⟨0, [], []⟩
    let top := if headed then r.line counts (some (one.headD blank)) (some (two.headD blank)) else []
    let (one, two) := if headed then (one.drop 1, two.drop 1) else (one, two)
    let s := Joined.run r counts (one.length + two.length + 2) {} ⟨1, a, one⟩ ⟨2, b, two⟩
    c.emit top 1
    c.display s.pieces.reverse 1
    if s.disorder.isEmpty then return 0
    else if r.checking = some true then return 1
    else c.fail (Raw.ofText "input is not in sorted order") 1

/-! ## Words in order -/

/-- A word: how many words have to come before it that have not, and those that come after it, the last told first. -/
structure Item where
  name : Raw
  before : Nat
  after : List Nat
  shown : Bool
  /-- The item that follows on the way around a loop. -/
  next : Option Nat

/-- The items, in the order of their names. -/
abbrev Items := Array Item

namespace Items

/-- Changes an item. -/
def on (items : Items) (i : Nat) (f : Item → Item) : Items :=
  match items[i]? with
  | some item => items.setIfInBounds i (f item)
  | none => items

/-- An item by its place. -/
def item (items : Items) (i : Nat) : Item := items.getD i ⟨[], 0, [], true, none⟩

/-- The items of some words, without relations. -/
def ofWords (ws : List Raw) : Items :=
  ((((ws.mergeSort fun a b => Sorting.octetOrder a b != .gt).foldl (fun (found : List Raw) w =>
    if found.head? = some w then found else w :: found) []).reverse).map fun w => ⟨w, 0, [], false, none⟩).toArray

/-- Says that one word comes before another. -/
def relate (items : Items) (a b : Raw) : Items :=
  if a = b then items
  else match items.findIdx? (fun i => i.name == a), items.findIdx? (fun i => i.name == b) with
  | some i, some j =>
    (items.on i fun x => { x with after := j :: x.after }).on j fun x => { x with before := x.before + 1 }
  | _, _ => items

/-- The items that nothing has to come before any more. -/
def free (items : Items) : List Nat :=
  (List.range items.size).filter fun i => (items.item i).before = 0 && !(items.item i).shown

/-- Shows items that are free, and those that get free by that; gives the names, the last first. -/
def release : (fuel : Nat) → Items → (queue : List Nat) → (names : List Raw) → Items × List Raw
  | 0, items, _, names => (items, names)
  | _, items, [], names => (items, names)
  | fuel + 1, items, i :: queue, names =>
    let x := items.item i
    let (items, freed) := x.after.foldl (fun (items, freed) j =>
      let items := items.on j fun y => { y with before := y.before - 1 }
      (items, if (items.item j).before = 0 then freed ++ [j] else freed)) (items.on i fun y => { y with shown := true }, [])
    release fuel items (queue ++ freed) (x.name :: names)

/-- Takes the links of a way off. -/
def unlink : (fuel : Nat) → Items → Option Nat → Items
  | 0, items, _ => items
  | _, items, none => items
  | fuel + 1, items, some i => unlink fuel (items.on i fun x => { x with next := none }) (items.item i).next

/-- The names on a way up to an item, and the way with its links off. -/
def traced : (fuel : Nat) → Items → (last : Nat) → Option Nat → List Raw → List Raw × Items
  | 0, items, _, _, names => (names.reverse, items)
  | _, items, _, none, names => (names.reverse, items)
  | fuel + 1, items, last, some i, names =>
    let x := items.item i
    if i = last then ((x.name :: names).reverse, unlink (items.size + 1) items (some i))
    else traced fuel (items.on i fun y => { y with next := none }) last x.next (x.name :: names)

/-- Walks over the items once to find a loop, whose end `way` is so far.  If it closes, its names are given and one
relation of it is taken off. -/
def walk (items : Items) : List Nat → (way : Option Nat) → Items × Option Nat × Option (List Raw)
  | [], way => (items, way, none)
  | k :: rest, way =>
    let x := items.item k
    if x.before = 0 then walk items rest way
    else match way with
    | none => walk items rest (some k)
    | some w =>
      if !x.after.contains w then walk items rest way
      else match x.next with
      | some _ =>
        let (names, items) := traced (items.size + 1) items k (some w) []
        let items :=
          (items.on w fun y => { y with before := y.before - 1 }).on k fun y => { y with after := y.after.erase w }
        (items, none, some names)
      | none => walk (items.on k fun y => { y with next := some w }) rest (some k)

/-- Walks over the items until a loop is found. -/
def findLoop : (fuel : Nat) → Items → (way : Option Nat) → Items × List Raw
  | 0, items, _ => (items, [])
  | fuel + 1, items, way =>
    match walk items (List.range items.size) way with
    | (items, _, some names) => (items, names)
    | (items, none, none) => (items, [])
    | (items, way, none) => findLoop fuel items way

/-- The names in order, with complaints about loops. -/
def sorted (file : Raw) : (fuel : Nat) → Items → List Piece
  | 0, _ => []
  | fuel + 1, items =>
    let (items, names) := release (items.size + 1) items items.free []
    let out : Piece := .output (names.reverse.flatMap (· ++ ['\n']))
    if items.all Item.shown then [out]
    else
      let (items, loop) := findLoop (items.size * items.size + 2) items none
      out :: .complaint (Raw.displayed file ++ Raw.ofText ": input contains a loop:") :: loop.map Piece.complaint ++
        sorted file fuel items

end Items

/-- The pairs of words; nothing if one is left over. -/
def paired : List Raw → Option (List (Raw × Raw))
  | [] => some []
  | [_] => none
  | a :: b :: rest => (paired rest).map ((a, b) :: ·)

/-- Puts words in order. -/
def tsort : Utility := fun c => do
  let g ← c.options ⟨"", [], false⟩ 1
  match g.operands with
  | _ :: extra :: _ => c.misused (Raw.ofText "extra operand " ++ Raw.quoted extra) 1
  | paths =>
    let path := paths.headD ['-']
    match ← Call.contents path with
    | .error e =>
      c.fail (Raw.displayed path ++ Raw.ofText (": " ++ (if e = .isDirectory then "read error: " else "") ++ e.message)) 1
    | .ok text =>
      let words := (Raw.splitBy (fun ch => ch == ' ' || ch == '\t' || ch == '\n') text).filter (!·.isEmpty)
      match paired words with
      | none => c.fail (Raw.displayed path ++ Raw.ofText ": input contains an odd number of tokens") 1
      | some pairs =>
        let items := pairs.foldl (fun items p => items.relate p.1 p.2) (Items.ofWords words)
        let pieces := items.sorted path (pairs.length + 2)
        c.display pieces 1
        return if pieces.length > 1 then 1 else 0

/-- The programs by name. -/
def programs : List (String × Utility) := [("join", join), ("tsort", tsort)]

end RunMeter.Machine.Joining
