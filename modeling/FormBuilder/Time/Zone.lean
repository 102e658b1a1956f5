import FormBuilder.Time.Calendar
import FormBuilder.Time.ZoneData
/-! Time zones: how far a zone's clocks were ahead of universal time at any moment. A zone lists its
changes one by one, and from some year on may follow a yearly rule instead. -/
namespace FormBuilder

structure YearDay where
  month : Nat
  /-- One to four, or five for the last one of the month. -/
  week : Nat
  /-- From zero, Sunday. -/
  weekday : Nat
  seconds : Int
  deriving DecidableEq, Repr

def YearDay.wall (d : YearDay) (year : Int) : Int :=
  let first := (⟨year,d.month,1⟩ : Date).toDays
  let weekdayOfFirst := (first + 4) % 7
  let day := 1 + ((d.weekday : Int) - weekdayOfFirst) % 7 + 7 * ((d.week : Int) - 1)
  let day := if (daysInMonth year d.month : Int) < day then day - 7 else day
  (first + day - 1) * 86400 + d.seconds

structure ZoneRule where
  since : Int
  standard : Int
  summer : Int
  starts : YearDay
  ends : YearDay
  deriving DecidableEq, Repr

def ZoneRule.offset (r : ZoneRule) (year t : Int) : Int :=
  let start := r.starts.wall year - r.standard
  let stop := r.ends.wall year - r.summer
  if start ≤ stop then (if start ≤ t ∧ t < stop then r.summer else r.standard)
  else (if stop ≤ t ∧ t < start then r.standard else r.summer)

structure Zone where
  names : List String
  first : Int
  changes : List (Int × Int)
  rule : Option ZoneRule
  deriving Repr

namespace Zone

def utc : Zone := ⟨["UTC"],0,[],none⟩

def listed (z : Zone) (t : Int) : Int := ((z.changes.takeWhile (fun c => c.1 ≤ t)).getLast?.map (·.2)).getD z.first

def offset (z : Zone) (t : Int) : Int :=
  let year := (Date.ofDays (t / 86400)).year
  match z.rule with
  | some r => if r.since ≤ year then r.offset year t else z.listed t
  | none => z.listed t

def tabulated (z : Zone) (t : Int) : Int :=
  let seconds := if t < -2147483648 then z.first else z.offset (min t 2147483647)
  (seconds + 30) / 60 * 60

/-! ### The zones there are -/

def wordsFrom (word : List Char) : List Char → List (List Char)
  | [] => if word.isEmpty then [] else [word.reverse]
  | c :: rest =>
    if c = ' ' ∨ c = '\n' then (if word.isEmpty then wordsFrom [] rest else word.reverse :: wordsFrom [] rest)
    else wordsFrom (c :: word) rest

def words (text : String) : List String := (wordsFrom [] text.toList).map String.ofList

def numbers (text : String) : List Int := (words text).map (fun w => w.toInt?.getD 0)

def origin : Int := -5000000000

structure Reading where
  changes : List (Int × Int)
  moment : Int
  pending : Option Int
  unit : Int
  value : Int

def Reading.complete (r : Reading) : Reading :=
  match r.pending with
  | none => r
  | some offset =>
    let moment := r.moment + r.value * r.unit
    { r with changes := (moment,offset) :: r.changes, moment }

def digitValue (c : Char) : Int := if c.isDigit then (c.toNat : Int) - 48 else (c.toNat : Int) - 87

def Reading.next (offsets : List Int) (r : Reading) (c : Char) : Reading :=
  if c.isUpper then { r.complete with pending := some (offsets.getD (c.toNat - 65) 0), unit := 900, value := 0 }
  else if c = '.' then { r with unit := 1 }
  else if c = ' ' ∨ c = '\n' then r
  else { r with value := r.value * 36 + digitValue c }

def readChanges (offsets : List Int) (text : String) : List (Int × Int) :=
  (text.toList.foldl (Reading.next offsets) ⟨[],origin,none,900,0⟩).complete.changes.reverse

def readRule : List Int → Option ZoneRule
  | [since,standard,summer,m,w,d,s,m',w',d',s'] =>
    some ⟨since,standard,summer,⟨m.toNat,w.toNat,d.toNat,s⟩,⟨m'.toNat,w'.toNat,d'.toNat,s'⟩⟩
  | _ => none

def ofEntry (names : List String) : List String → Zone
  | [head,changes,rule] =>
    let offsets := numbers ((head.splitOn "=").getD 1 "")
    ⟨names,offsets.headD 0,readChanges offsets changes,readRule (numbers rule)⟩
  | _ => ⟨names,0,[],none⟩

def entries : List String := (zoneWords.splitOn ";").dropLast

def namesOf (entry : String) : List String := words ((entry.splitOn "=").headD "")

def findBy (same : String → Bool) : Option Zone :=
  (entries.find? (fun e => (namesOf e).any same)).map (fun e => ofEntry (namesOf e) (e.splitOn "|"))

def find? (name : String) : Option Zone := findBy (· == name)

def lowered (name : String) : String := String.ofList (name.toList.map Char.toLower)

def withSigns (name : String) : String := (name.replace "_plus_" "+").replace "_minus_" "-"

def findAnyCase? (name : String) : Option Zone :=
  findBy (fun n => lowered n == lowered (withSigns name) && n != "Factory")

end Zone
end FormBuilder
