import RunMeter.Machine.Raw

/-!
# RunMeter.Machine.Calendar — dates and times of day

Time is counted in seconds from the start of 1970.  Years have the lengths of the calendar in use today for all
times.

* `Date.ofSeconds`, `Date.seconds`: a count as a date, and back.
* `format`: a date in the form that a text with marks asks for.
* `ofText?`: the time that words mean.

Nothing that is proved depends on this module.
-/

namespace RunMeter.Machine

/-- A date and a time of day. -/
structure Date where
  year : Int
  /-- From 1 to 12. -/
  month : Nat
  /-- From 1 on. -/
  day : Nat
  hour : Nat
  minute : Nat
  second : Nat

namespace Date

/-- How many seconds a day has. -/
def dayLength : Int := 86400

/-- Days from the start of 1970 to a day of a month.  Years are counted from March on, so that a leap day comes
last. -/
def dayNumber (year : Int) (month day : Nat) : Int :=
  let y := if month ≤ 2 then year - 1 else year
  let era := y / 400
  let inEra := y - era * 400
  let m : Int := if month > 2 then month - 3 else month + 9
  let dayOfYear := (153 * m + 2) / 5 + day - 1
  era * 146097 + (inEra * 365 + inEra / 4 - inEra / 100 + dayOfYear) - 719468

/-- The date of a day counted from the start of 1970. -/
def ofDay (n : Int) : Int × Nat × Nat :=
  let z := n + 719468
  let era := z / 146097
  let inEra := z - era * 146097
  let year := (inEra - inEra / 1460 + inEra / 36524 - inEra / 146096) / 365
  let dayOfYear := inEra - (365 * year + year / 4 - year / 100)
  let m := (5 * dayOfYear + 2) / 153
  let day := dayOfYear - (153 * m + 2) / 5 + 1
  let month := if m < 10 then m + 3 else m - 9
  (year + era * 400 + (if month ≤ 2 then 1 else 0), month.toNat, day.toNat)

/-- The seconds from the start of 1970 to a date. -/
def seconds (d : Date) : Int :=
  dayNumber d.year d.month d.day * dayLength + d.hour * 3600 + d.minute * 60 + d.second

/-- The date so many seconds after the start of 1970. -/
def ofSeconds (n : Int) : Date :=
  let day := n / dayLength
  let rest := (n - day * dayLength).toNat
  let (year, month, dayOfMonth) := ofDay day
  ⟨year, month, dayOfMonth, rest / 3600, rest / 60 % 60, rest % 60⟩

/-- The day of the week, Sunday being 0. -/
def weekday (d : Date) : Nat := ((dayNumber d.year d.month d.day + 4) % 7).toNat

/-- The day of the year, from 1 on. -/
def yearDay (d : Date) : Nat := (dayNumber d.year d.month d.day - dayNumber d.year 1 1).toNat + 1

/-- How many days a month has. -/
def monthLength (year : Int) (month : Nat) : Nat :=
  let (y, m) := if month = 12 then (year + 1, 1) else (year, month + 1)
  (dayNumber y m 1 - dayNumber year month 1).toNat

/-- The week of the year and the year that it belongs to, where weeks begin on Monday and belong to the year of their
Thursday. -/
def week (d : Date) : Int × Nat :=
  let day := dayNumber d.year d.month d.day
  let monday := day - (((d.weekday : Int) + 6) % 7)
  let (year, _, _) := ofDay (monday + 3)
  let first := dayNumber year 1 4
  let start := first - ((first + 3) % 7)
  (year, ((monday - start) / 7).toNat + 1)

end Date

namespace Calendar

/-- The names of the days of the week. -/
def days : List String := ["Sunday", "Monday", "Tuesday", "Wednesday", "Thursday", "Friday", "Saturday"]

/-- The names of the months. -/
def months : List String :=
  ["January", "February", "March", "April", "May", "June", "July", "August", "September", "October", "November",
   "December"]

/-- A place on earth by its time: how many seconds it is ahead, and the name of its time. -/
structure Zone where
  ahead : Int
  name : Raw

/-- The time that all others are counted from. -/
def Zone.universal : Zone := ⟨0, "UTC".toList⟩

/-- The zone that a variable describes: a name and how many hours it is behind, perhaps with minutes. -/
def Zone.ofText (w : Raw) : Zone :=
  let w := w.dropWhile (· == ':')
  let (name, rest) : Raw × Raw := match w with
    | '<' :: body => (body.takeWhile (· != '>'), (body.dropWhile (· != '>')).drop 1)
    | body => (body.takeWhile Char.isAlpha, body.dropWhile Char.isAlpha)
  let (negative, digits) := match rest with
    | '-' :: ds => (true, ds)
    | '+' :: ds => (false, ds)
    | ds => (false, ds)
  let parts := (Raw.splitAt ':' (digits.takeWhile fun c => c.isDigit || c == ':')).map (Raw.valueIn 10)
  let behind : Int := parts.getD 0 0 * 3600 + parts.getD 1 0 * 60 + parts.getD 2 0
  if name.length < 3 then ⟨0, if name.isEmpty then "UTC".toList else name⟩
  else ⟨if negative then behind else -behind, name⟩

/-- How far a zone is ahead, as hours and minutes with a sign, and colons between some of them. -/
def shownZone (ahead : Int) (colons : Nat) : Raw :=
  let n := ahead.natAbs
  let two (k : Nat) : Raw := Raw.padZeros 2 (Raw.ofNat k)
  let sign := if ahead < 0 then '-' else '+'
  let colon := if colons > 0 then [':'] else []
  if colons = 3 then sign :: two (n / 3600)
  else sign :: two (n / 3600) ++ colon ++ two (n / 60 % 60) ++ (if colons = 2 then ':' :: two (n % 60) else [])

/-- A moment as it is to be shown. -/
structure Shown where
  date : Date
  zone : Zone
  seconds : Int
  nanos : Nat

/-- A moment in a zone. -/
def Shown.at (zone : Zone) (seconds : Int) (nanos : Nat) : Shown :=
  ⟨Date.ofSeconds (seconds + zone.ahead), zone, seconds, nanos⟩

/-- How a mark of a format is filled up: the character, if there is one, and the width. -/
structure Filling where
  flag : Option Char
  width : Option Nat
  upper : Bool
  swapped : Bool

/-- A number filled up, usually with a character to a width. -/
def Filling.number (f : Filling) (usual : Char) (width : Nat) (n : Int) : Raw :=
  let fill := match f.flag with
    | some '-' => none
    | some '_' => some ' '
    | some '0' => some '0'
    | _ => some usual
  let digits := Raw.ofNat n.natAbs
  let sign : Raw := if n < 0 then ['-'] else []
  let width := f.width.getD width
  match fill with
  | none => sign ++ digits
  | some '0' => sign ++ Raw.padZeros (width - sign.length) digits
  | some _ => Raw.padStart width (sign ++ digits)

/-- A text filled up. -/
def Filling.text (f : Filling) (r : Raw) : Raw :=
  let r := if f.upper then Raw.toUpper r else if f.swapped then r.map (fun c => if c.isUpper then c.toLower else c.toUpper) else r
  let fill := if f.flag = some '0' then '0' else ' '
  List.replicate (f.width.getD 0 - r.length) fill ++ r

/-- A part of a name. -/
def nameOf (names : List String) (i length : Nat) : Raw := ((names.getD i "?").toList).take length

/-- A moment in the form that a format asks for, of at most `fuel` marks. -/
def format (s : Shown) : (fuel : Nat) → Raw → Raw
  | 0, _ => []
  | _, [] => []
  | fuel + 1, '%' :: rest =>
    let flags := rest.takeWhile "-_0^#+".toList.contains
    let after := rest.drop flags.length
    let digits := after.takeWhile Char.isDigit
    let after := after.drop digits.length
    let colons := after.takeWhile (· == ':')
    let after := (after.drop colons.length).dropWhile fun c => c == 'E' || c == 'O'
    let f : Filling := ⟨(flags.filter fun c => c == '-' || c == '_' || c == '0').getLast?,
      if digits.isEmpty then none else some (Raw.valueIn 10 digits), flags.contains '^', flags.contains '#'⟩
    let d := s.date
    let two (n : Nat) : Option Raw := some (f.number '0' 2 n)
    let twelve := if d.hour % 12 = 0 then 12 else d.hour % 12
    let again (form : String) : Option Raw := some (f.text (format s fuel form.toList))
    let half := if d.hour < 12 then "AM" else "PM"
    let shown : Option Raw := match after.headD ' ' with
      | '%' => some ['%']
      | 'n' => some ['\n']
      | 't' => some ['\t']
      | 'a' => some (f.text (nameOf days d.weekday 3))
      | 'A' => some (f.text (nameOf days d.weekday 20))
      | 'b' | 'h' => some (f.text (nameOf months (d.month - 1) 3))
      | 'B' => some (f.text (nameOf months (d.month - 1) 20))
      | 'c' => again "%a %b %e %H:%M:%S %Y"
      | 'C' => some (f.number '0' 2 (d.year / 100))
      | 'd' => two d.day
      | 'D' | 'x' => again "%m/%d/%y"
      | 'e' => some (f.number ' ' 2 d.day)
      | 'F' => again "%Y-%m-%d"
      | 'g' => some (f.number '0' 2 (d.week.1 % 100))
      | 'G' => some (f.number '0' 4 d.week.1)
      | 'H' => two d.hour
      | 'I' => two twelve
      | 'j' => some (f.number '0' 3 d.yearDay)
      | 'k' => some (f.number ' ' 2 d.hour)
      | 'l' => some (f.number ' ' 2 twelve)
      | 'm' => two d.month
      | 'M' => two d.minute
      | 'N' =>
        let nine := Raw.padZeros 9 (Raw.ofNat s.nanos)
        some (match f.width with
          | some w => nine.take w
          | none => nine)
      | 'p' => some (if f.swapped then Raw.toLower half.toList else f.text half.toList)
      | 'P' => some (f.text (Raw.toLower half.toList))
      | 'q' => some (f.number '0' 1 ((d.month + 2) / 3 : Nat))
      | 'r' => again "%I:%M:%S %p"
      | 'R' => again "%H:%M"
      | 's' => some (f.number '0' 1 s.seconds)
      | 'S' => two d.second
      | 'T' | 'X' => again "%H:%M:%S"
      | 'u' => some (f.number '0' 1 (if d.weekday = 0 then 7 else d.weekday : Nat))
      | 'U' => two ((d.yearDay + 6 - d.weekday) / 7)
      | 'V' => two d.week.2
      | 'w' => some (f.number '0' 1 d.weekday)
      | 'W' => two ((d.yearDay + 6 - (d.weekday + 6) % 7) / 7)
      | 'y' => some (f.number '0' 2 (d.year % 100))
      | 'Y' => some (f.number '0' 4 d.year)
      | 'z' => some (shownZone s.zone.ahead colons.length)
      | 'Z' => some (if f.swapped then Raw.toLower s.zone.name else f.text s.zone.name)
      | _ => none
    match shown with
    | some r => r ++ format s fuel (after.drop 1)
    | none => '%' :: format s fuel rest
  | fuel + 1, c :: rest => c :: format s fuel rest

/-- A moment in the form that a format asks for. -/
def formatted (s : Shown) (form : Raw) : Raw := format s (form.length + 10) form

/-! ## Reading -/

/-- What the words of a time have said so far: a day, a time of day in seconds, a zone, and what is to be added. -/
structure Said where
  day : Option (Int × Nat × Nat)
  time : Option Nat
  nanos : Nat
  zone : Option Int
  months : Int
  days : Int
  seconds : Int
  /-- A count of seconds that says it all. -/
  count : Option Int

/-- Nothing said. -/
def Said.nothing : Said := ⟨none, none, 0, none, 0, 0, 0, none⟩

/-- Whether numbers make a date. -/
def day? (year : Int) (month day : Nat) : Option (Int × Nat × Nat) :=
  if 1 ≤ month && month ≤ 12 && 1 ≤ day && day ≤ Date.monthLength year month then some (year, month, day) else none

/-- The seconds of a time of day, with what follows it. -/
def time? (w : Raw) : Option (Nat × Nat × Raw) :=
  let hour := w.takeWhile Char.isDigit
  match w.drop hour.length with
  | ':' :: rest =>
    let minute := rest.takeWhile Char.isDigit
    let (second, fraction, after) : Raw × Raw × Raw := match rest.drop minute.length with
      | ':' :: rest =>
        let second := rest.takeWhile Char.isDigit
        match rest.drop second.length with
        | '.' :: more =>
          let fraction := more.takeWhile Char.isDigit
          (second, fraction, more.drop fraction.length)
        | after => (second, [], after)
      | after => (['0'], [], after)
    let (h, m, s) := (Raw.valueIn 10 hour, Raw.valueIn 10 minute, Raw.valueIn 10 second)
    let fine := !hour.isEmpty && hour.length ≤ 2 && minute.length = 2 && !second.isEmpty && h < 24 && m < 60 && s ≤ 60
    if fine then some (h * 3600 + m * 60 + s, Raw.valueIn 10 ((fraction ++ "000000000".toList).take 9), after) else none
  | _ => none

/-- How far ahead a zone in digits is. -/
def ahead? (w : Raw) : Option Int :=
  match w with
  | sign :: rest =>
    let digits := rest.filter Char.isDigit
    let fine :=
      (sign = '+' || sign = '-') && !digits.isEmpty && digits.length ≤ 4 && rest.all fun c => c.isDigit || c == ':'
    let n := Raw.valueIn 10 digits
    let seconds : Int := if digits.length ≤ 2 then n * 3600 else (n / 100) * 3600 + (n % 100) * 60
    if fine then some (if sign = '-' then -seconds else seconds) else none
  | [] => none

/-- The number of a name among some, by three letters or more of it. -/
def named? (names : List String) (w : Raw) : Option Nat :=
  let low := Raw.toLower w
  if low.length < 3 then none else names.findIdx? fun n => low.isPrefixOf (Raw.toLower n.toList)

/-- What is said with so many of a unit more. -/
def Said.plus (s : Said) (n : Int) (unit : Raw) : Option Said :=
  let name := Raw.text (Raw.toLower (if unit.getLast? = some 's' && unit.length > 3 then unit.dropLast else unit))
  match name with
  | "year" => some { s with months := s.months + 12 * n }
  | "month" => some { s with months := s.months + n }
  | "fortnight" => some { s with days := s.days + 14 * n }
  | "week" => some { s with days := s.days + 7 * n }
  | "day" => some { s with days := s.days + n }
  | "hour" => some { s with seconds := s.seconds + 3600 * n }
  | "min" | "minute" => some { s with seconds := s.seconds + 60 * n }
  | "sec" | "second" => some { s with seconds := s.seconds + n }
  | _ => none

/-- What a word says that holds a date, a time or both. -/
def Said.word (s : Said) (w : Raw) : Option Said :=
  let digits := w.takeWhile Char.isDigit
  match w, w.drop digits.length with
  | '@' :: n, _ =>
    let whole := n.takeWhile (· != '.')
    (Raw.integer? whole).map fun n' => { s with
      count := some n', nanos := Raw.valueIn 10 (((n.drop (whole.length + 1)) ++ "000000000".toList).take 9) }
  | _, '-' :: rest =>
    if digits.length < 4 then none
    else
      let month := rest.takeWhile Char.isDigit
      match rest.drop month.length with
      | '-' :: rest =>
        let day := rest.takeWhile Char.isDigit
        match day? (Raw.valueIn 10 digits) (Raw.valueIn 10 month) (Raw.valueIn 10 day), rest.drop day.length with
        | some d, [] => some { s with day := some d }
        | some d, sep :: clock =>
          if sep = 'T' || sep = 't' then
            match time? clock with
            | some (t, nanos, zone) =>
              let s := { s with day := some d, time := some t, nanos := nanos }
              if zone.isEmpty then some s
              else if Raw.toLower zone = ['z'] then some { s with zone := some 0 }
              else (ahead? zone).map fun z => { s with zone := some z }
            | none => none
          else none
        | none, _ => none
      | _ => none
  | _, ':' :: _ =>
    match time? w with
    | some (t, nanos, zone) =>
      let s := { s with time := some t, nanos := nanos }
      if zone.isEmpty then some s
      else if Raw.toLower zone = ['z'] then some { s with zone := some 0 }
      else (ahead? zone).map fun z => { s with zone := some z }
    | none => none
  | _, '/' :: rest =>
    match (Raw.splitAt '/' (digits ++ '/' :: rest)).map Raw.natural? with
    | [some a, some b, some c] =>
      let found := if digits.length = 4 then day? a b c else day? (if c < 69 then c + 2000 else if c < 100 then c + 1900 else c) a b
      found.map fun d => { s with day := some d }
    | _ => none
  | _, [] =>
    if digits.length = 8 then
      let n := Raw.valueIn 10 digits
      (day? (n / 10000 : Nat) (n / 100 % 100) (n % 100)).map fun d => { s with day := some d }
    else none
  | _, _ => none

/-- The moment that words mean, read from `fuel` words at most. -/
def saidBy (today : Int × Nat × Nat) : (fuel : Nat) → Said → List Raw → Option Said
  | 0, _, _ => none
  | _, s, [] => some s
  | fuel + 1, s, w :: rest =>
    let low := Raw.text (Raw.toLower w)
    let on (s : Option Said) (rest : List Raw) : Option Said := s.bind fun s => saidBy today fuel s rest
    match low with
    | "now" => on (some s) rest
    | "today" => on (some s) rest
    | "yesterday" => on (some { s with days := s.days - 1 }) rest
    | "tomorrow" => on (some { s with days := s.days + 1 }) rest
    | "utc" | "gmt" | "z" => on (some { s with zone := some 0 }) rest
    | _ =>
      match named? months w, named? days w, s.word w with
      | some m, _, _ =>
        match rest.map Raw.natural? with
        | some d :: some y :: _ => on ((day? y (m + 1) d).map fun d => { s with day := some d }) (rest.drop 2)
        | some d :: _ => on ((day? today.1 (m + 1) d).map fun d => { s with day := some d }) (rest.drop 1)
        | _ => none
      | none, some _, _ => on (some s) rest
      | none, none, some s => on (some s) rest
      | none, none, none =>
        match Raw.integer? w with
        | some n =>
          match rest with
          | unit :: after =>
            let ago := after.head?.map Raw.toLower = some "ago".toList
            match s.plus (if ago then -n else n) unit with
            | some s => saidBy today fuel s (if ago then after.drop 1 else after)
            | none =>
              match named? months unit, (after.head?.bind Raw.natural?) with
              | some m, some y => on ((day? y (m + 1) n.toNat).map fun d => { s with day := some d }) (after.drop 1)
              | some m, none => on ((day? today.1 (m + 1) n.toNat).map fun d => { s with day := some d }) after
              | none, _ => none
          | [] =>
            if s.time.isSome && (w.head? = some '+' || w.head? = some '-') then
              on ((ahead? w).map fun z => { s with zone := some z }) rest
            else none
        | none =>
          match rest with
          | unit :: _ =>
            if low = "next" then on (s.plus 1 unit) (rest.drop 1)
            else if low = "last" then on (s.plus (-1) unit) (rest.drop 1)
            else none
          | [] => (s.plus 1 w).bind fun s => saidBy today fuel s rest

/-- The moment that a text means, in seconds and parts of a second, for a zone and a moment that is now. -/
def ofText? (zone : Zone) (now : Int) (nanos : Nat) (text : Raw) : Option (Int × Nat) :=
  let here := Date.ofSeconds (now + zone.ahead)
  let ws := Raw.words text
  match saidBy (here.year, here.month, here.day) (2 * ws.length + 2) .nothing ws with
  | none => none
  | some s =>
    match s.count with
    | some n => some (n + s.days * Date.dayLength + s.seconds, s.nanos)
    | none =>
      let (year, month, day) := s.day.getD (here.year, here.month, here.day)
      let moved : Int := year * 12 + (month - 1 : Nat) + s.months
      let clock :=
        s.time.getD (if s.day.isSome || ws.isEmpty then 0 else here.hour * 3600 + here.minute * 60 + here.second)
      let start := Date.dayNumber (moved / 12) (moved % 12).toNat.succ 1 + (day - 1 : Nat)
      some (start * Date.dayLength + clock + s.days * Date.dayLength + s.seconds - s.zone.getD zone.ahead,
        if s.time.isSome then s.nanos else if s.day.isSome then 0 else nanos)

end Calendar
end RunMeter.Machine
