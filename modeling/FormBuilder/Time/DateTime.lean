import FormBuilder.Decimal.Numeral
import FormBuilder.Scalar
import FormBuilder.Time.Calendar
/-! Moments with or without an offset from universal time, and the texts they are read from. -/
namespace FormBuilder
open FormBuilder.Text (isDigitAscii)

/-- A wall clock reading. Without an offset nobody knows where the clock hangs. -/
structure DateTime where
  wall : Int
  micro : Nat
  offset : Option Int
  deriving DecidableEq, Repr

namespace DateTime

def ofEpoch (seconds : Int) : DateTime := ⟨seconds,0,some 0⟩

def epoch (d : DateTime) : Int := d.wall - d.offset.getD 0

def padded (width n : Nat) : List Char :=
  let digits := Nat.toDigits 10 n
  List.replicate (width - digits.length) '0' ++ digits

def dateText (d : Date) : List Char :=
  padded 4 d.year.toNat ++ '-' :: padded 2 d.month ++ '-' :: padded 2 d.day

def clockText (secondOfDay : Nat) : List Char :=
  padded 2 (secondOfDay / 3600) ++ ':' :: padded 2 (secondOfDay / 60 % 60) ++ ':' :: padded 2 (secondOfDay % 60)

def offsetText (seconds : Int) : List Char :=
  if seconds = 0 then ['Z']
  else
    let minutes := seconds.natAbs / 60
    (if seconds < 0 then '-' else '+') :: padded 2 (minutes / 60) ++ ':' :: padded 2 (minutes % 60)

def isoText (d : DateTime) : String :=
  String.ofList (dateText (.ofDays (d.wall / 86400)) ++ 'T' :: clockText (d.wall % 86400).toNat ++
    (if d.micro = 0 then [] else '.' :: padded 6 d.micro) ++ (d.offset.map offsetText).getD [])

def display? (d : DateTime) (ahead : Int → Int) : Option String :=
  let wall := d.epoch + ahead d.epoch
  let date := Date.ofDays (wall / 86400)
  if (Date.ofDays (d.epoch / 86400)).valid && date.valid then
    some (String.ofList ((toString date.year).toList ++ '-' :: padded 2 date.month ++ '-' :: padded 2 date.day ++
      ' ' :: clockText (wall % 86400).toNat))
  else none

def takeDigits (count : Nat) (cs : List Char) : Option (Nat × List Char) :=
  let digits := cs.take count
  if digits.length = count ∧ digits.all isDigitAscii then some (Numeral.natOf digits,cs.drop count) else none

def expect (c : Char) : List Char → Option (List Char)
  | [] => none
  | d :: rest => if c = d then some rest else none

def microOf (digits : List Char) : Nat :=
  let kept := digits.take 6
  Numeral.natOf kept * Nat.pow 10 (6 - kept.length)

def ofParts (date : Date) (secondOfDay : Int) (micro : Nat) (offset : Option Int) : Option DateTime :=
  if date.valid then some ⟨date.toDays * 86400 + secondOfDay,micro,offset⟩ else none

/-! ### The strict grammar: `YYYY-MM-DD`, then hours and minutes, perhaps seconds and an offset. -/

def readDate (cs : List Char) : Option (Date × List Char) := do
  let (year,cs) ← takeDigits 4 cs
  let (month,cs) ← takeDigits 2 (← expect '-' cs)
  let (day,cs) ← takeDigits 2 (← expect '-' cs)
  let date : Date := ⟨year,month,day⟩
  if date.valid then some (date,cs) else none

def readSeconds (cs : List Char) : Option (Nat × Nat × List Char) :=
  match cs with
  | ':' :: rest => do
    let (second,rest) ← takeDigits 2 rest
    if 60 ≤ second then none
    else
      match rest with
      | mark :: more =>
        if mark = '.' ∨ mark = ',' then
          let digits := more.takeWhile isDigitAscii
          if digits.isEmpty || 9 < digits.length then none else some (second,microOf digits,more.dropWhile isDigitAscii)
        else some (second,0,rest)
      | [] => some (second,0,[])
  | _ => some (0,0,cs)

def readOffset : List Char → Option (Option Int)
  | [] => some none
  | ['Z'] | ['z'] => some (some 0)
  | sign :: rest =>
    if sign = '+' ∨ sign = '-' then do
      let (hours,rest) ← takeDigits 2 rest
      let rest := match rest with
        | ':' :: more => more
        | _ => rest
      let (minutes,rest) ← takeDigits 2 rest
      if !rest.isEmpty || 60 ≤ minutes || 24 ≤ hours then none
      else
        let seconds : Int := (hours * 60 + minutes : Nat) * 60
        some (some (if sign = '-' then -seconds else seconds))
    else none

def readMoment (cs : List Char) : Option DateTime := do
  let (date,cs) ← readDate cs
  match cs with
  | [] => ofParts date 0 0 none
  | mark :: cs =>
    if !(List.contains ['T','t',' ','_'] mark) then none
    else
      let (hour,cs) ← takeDigits 2 cs
      let (minute,cs) ← takeDigits 2 (← expect ':' cs)
      let (second,micro,cs) ← readSeconds cs
      let offset ← readOffset cs
      if 24 ≤ hour ∨ 60 ≤ minute then none
      else ofParts date (hour * 3600 + minute * 60 + second : Nat) micro offset

def ofStamp (numerator : Int) (denominator : Nat) : Option DateTime :=
  let scale : Nat := if 20000000000 * denominator < numerator.natAbs then 1000 else 1
  let micros := (numerator * 1000000) / ((denominator * scale : Nat) : Int)
  let moment : DateTime := ⟨micros / 1000000,(micros % 1000000).toNat,some 0⟩
  if (Date.ofDays (moment.wall / 86400)).valid then some moment else none

def ofStampText (cs : List Char) : Option DateTime := do
  let n ← Numeral.read? cs
  if n.exponent ≠ 0 ∨ n.whole.isEmpty then none
  else
    let digits : Int := Numeral.natOf (n.whole ++ n.fraction)
    ofStamp (if n.negative then -digits else digits) (Nat.pow 10 n.fraction.length)

def read : Value → Checked DateTime
  | .str s =>
    match readMoment s.toList <|> ofStampText s.toList with
    | some d => .ok d
    | none => .fault .badDateTime
  | .int n => (ofStamp n 1).elim (.fault .badDateTime) .ok
  | .float (.finite x) => (ofStamp x.units Dyadic64.unitsPerOne).elim (.fault .badDateTime) .ok
  | _ => .fault .notDateTime

/-! ### The loose grammar: compact forms, any mark between date and clock, ordinal weeks. -/

def ofWeek (year week weekday : Nat) : Option Date :=
  let fourth : Date := ⟨year,1,4⟩
  let monday := fourth.toDays - (fourth.toDays + 3) % 7
  let date := Date.ofDays (monday + ((week : Int) - 1) * 7 + weekday - 1)
  let lastWeek : Nat :=
    let first := ((⟨year,1,1⟩ : Date).toDays + 3) % 7
    if first = 3 || (first = 2 && isLeapYear year) then 53 else 52
  if 1 ≤ week ∧ week ≤ lastWeek ∧ 1 ≤ weekday ∧ weekday ≤ 7 ∧ date.valid then some date else none

def charAt (cs : List Char) (n : Nat) : Char := cs.getD n '\x00'

def looseDateLength (cs : List Char) : Nat :=
  if cs.length = 7 then 7
  else if charAt cs 4 = '-' then
    if charAt cs 5 = 'W' then (if charAt cs 8 = '-' && !isDigitAscii (charAt cs 10) then 10 else 8)
    else 10
  else if charAt cs 4 = 'W' then
    let digits := 7 + ((cs.drop 7).takeWhile isDigitAscii).length
    if digits < 9 then digits else if digits % 2 = 0 then 7 else 8
  else 8

def readLooseWeek (length year : Nat) (dashed : Bool) (cs : List Char) : Option Date := do
  let (week,cs) ← takeDigits 2 cs
  if length ≤ (if dashed then 8 else 7) then ofWeek year week 1
  else
    let (weekday,_) ← takeDigits 1 (← if dashed then expect '-' cs else some cs)
    ofWeek year week weekday

def readLooseDate (length : Nat) (cs : List Char) : Option Date := do
  let (year,cs) ← takeDigits 4 cs
  let dashed := cs.head? = some '-'
  let cs := if dashed then cs.drop 1 else cs
  match cs with
  | 'W' :: week => readLooseWeek length year dashed week
  | _ =>
    let (month,cs) ← takeDigits 2 cs
    let (day,_) ← takeDigits 2 (← if dashed then expect '-' cs else some cs)
    let date : Date := ⟨year,month,day⟩
    if date.valid then some date else none

structure LooseClock where
  fields : List Nat
  micro : Nat
  exact : Bool

def LooseClock.seconds (c : LooseClock) : Nat := c.fields.getD 0 0 * 3600 + c.fields.getD 1 0 * 60 + c.fields.getD 2 0

def LooseClock.isTimeOfDay (c : LooseClock) : Bool :=
  c.fields.getD 0 0 < 24 && c.fields.getD 1 0 < 60 && c.fields.getD 2 0 < 60

def readLooseFraction (after : Char) (fields : List Nat) (cs : List Char) : Option LooseClock :=
  let kept := cs.take 6
  if kept.all isDigitAscii then
    some ⟨fields,microOf kept,((cs.drop 6).dropWhile isDigitAscii).headD after = '\x00'⟩
  else none

def readLooseClock (after : Char) (colons : Bool) (fields : List Nat) : (left : Nat) → List Char → Option LooseClock
  | 0,cs => readLooseFraction after fields cs
  | left + 1,cs => do
    let (n,cs) ← takeDigits 2 cs
    let fields := fields ++ [n]
    match cs with
    | [] => some ⟨fields,0,after = '\x00'⟩
    | [c] => if c.toNat < 128 then some ⟨fields,0,c = '\x00'⟩ else none
    | c :: more =>
      let colons := if left = 2 then c = ':' else colons
      if colons && c = ':' then readLooseClock after colons fields left more
      else if c = '.' ∨ c = ',' then readLooseFraction after fields more
      else if colons then none
      else readLooseClock after colons fields left cs

def isZoneMark (c : Char) : Bool := c = '-' || c = '+' || c = 'Z'

def readLooseOffset (cs : List Char) : Option Int :=
  match cs with
  | [] => none
  | mark :: rest =>
    if mark = 'Z' then (if rest.headD '\x00' = '\x00' then some 0 else none)
    else do
      let clock ← readLooseClock '\x00' false [] 3 rest
      if !clock.exact || 86400 ≤ clock.seconds then none
      else
        let ahead : Int := if clock.seconds = 0 then 0 else clock.seconds * 1000000 + clock.micro
        some (if mark = '-' then -ahead else ahead)

def readLooseTime (date : Date) (cs : List Char) : Option DateTime := do
  let text := cs.takeWhile (fun c => !isZoneMark c)
  let zone := cs.drop text.length
  let clock ← readLooseClock (zone.headD '\x00') false [] 3 text
  if !clock.isTimeOfDay then none
  else
    let moment ← ofParts date clock.seconds clock.micro none
    if zone.isEmpty then (if clock.exact then some moment else none)
    else
      let ahead ← readLooseOffset zone
      let micros := moment.wall * 1000000 + moment.micro - ahead
      some ⟨micros / 1000000,(micros % 1000000).toNat,some 0⟩

def readLoose (cs : List Char) : Option DateTime := do
  if cs.length < 7 then none
  let length := looseDateLength cs
  let date ← readLooseDate length cs
  match cs.drop length with
  | [] => ofParts date 0 0 none
  | _ :: time => readLooseTime date time

def isPlaced (d : DateTime) : Bool := d.offset.isSome || (Date.ofDays (d.wall / 86400 - 1)).valid

def displayText? (text : String) (ahead : Int → Int) : Option String :=
  match (readLoose text.toList).filter isPlaced with
  | some d => d.display? ahead
  | none => some text

end DateTime
end FormBuilder
