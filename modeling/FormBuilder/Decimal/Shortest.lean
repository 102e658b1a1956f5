import FormBuilder.Decimal.Double
/-! The shortest decimal text of a binary64 number: the fewest digits that read back as the same
number, and of two such texts the nearer. -/
namespace FormBuilder.Shortest

structure Decimal where
  digits : Nat
  exponent : Int
  deriving DecidableEq, Repr

def Decimal.readsBack (d : Decimal) (x : Dyadic64) : Bool :=
  Double.ofDecimal x.negative d.digits d.exponent == .finite x

def decimalOrder (num den : Nat) : Int :=
  if den ≤ num then ((toString (num / den)).length : Int) - 1
  else
    -- the quotient den / num is above one; its digits bound the order from both sides
    let n := (toString (den / num)).length
    if den ≤ num * Nat.pow 10 (n - 1) then -((n - 1 : Nat) : Int) else -(n : Int)

def neighbours (num den count : Nat) : List Decimal :=
  let e := decimalOrder num den - (count - 1 : Nat)
  let n := if 0 ≤ e then num else num * Nat.pow 10 (-e).toNat
  let d := if 0 ≤ e then den * Nat.pow 10 e.toNat else den
  let low := n / d
  let nearLow := if 2 * (n % d) = d then low % 2 = 0 else 2 * (n % d) < d
  if nearLow then [⟨low,e⟩,⟨low + 1,e⟩] else [⟨low + 1,e⟩,⟨low,e⟩]

def search (x : Dyadic64) (num den : Nat) : (fuel count : Nat) → Decimal
  | 0,_ => ⟨x.significand,0⟩
  | fuel + 1,count =>
    match (neighbours num den count).find? (·.readsBack x) with
    | some d => d
    | none => search x num den fuel (count + 1)

/-- Seventeen digits always suffice. -/
def decimal (x : Dyadic64) : Decimal :=
  if x.significand = 0 then ⟨0,0⟩ else search x x.magnitude Dyadic64.unitsPerOne 17 1

def strip (text : List Char) : List Char := (text.reverse.dropWhile (· == '0')).reverse

def pad (width : Nat) (text : String) : String :=
  String.ofList (List.replicate (width - text.length) '0') ++ text

def scientific : List Char → String
  | [] => "0"
  | [c] => String.ofList [c]
  | c :: rest => String.ofList (c :: '.' :: rest)

def positional (digits : List Char) (order : Int) : String :=
  if order < 0 then "0." ++ String.ofList (List.replicate (-order - 1).toNat '0') ++ String.ofList digits
  else
    let whole := order.toNat + 1
    let front := digits.take whole
    let back := digits.drop whole
    String.ofList (front ++ List.replicate (whole - front.length) '0') ++ "." ++
      (if back.isEmpty then "0" else String.ofList back)

def text : Double → String
  | .nan => "nan"
  | .infinite negative => if negative then "-inf" else "inf"
  | .finite x =>
    let sign := if x.negative then "-" else ""
    if x.significand = 0 then sign ++ "0.0" else
    let d := decimal x
    let written := (toString d.digits).toList
    let order := d.exponent + (written.length : Int) - 1
    let digits := strip written
    if -4 ≤ order ∧ order < 16 then sign ++ positional digits order
    else sign ++ scientific digits ++ "e" ++ (if order < 0 then "-" else "+") ++ pad 2 (toString order.natAbs)

end FormBuilder.Shortest
