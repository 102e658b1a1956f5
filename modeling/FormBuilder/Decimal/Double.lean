/-! Binary64 numbers as exact data. A finite number is kept in its one canonical form, so equality
of values is equality of bits, and everything about it is decided in exact integer arithmetic:
the single rounding step is `ofRatio`, which takes the nearest number and lets a tie go to the
even significand. -/
namespace FormBuilder

/-- The significand and exponent of a binary64 number: full width above the least exponent, and
anything narrower only at the least exponent. -/
def Canonical (significand : Nat) (exponent : Int) : Prop :=
  significand < Nat.pow 2 53 ∧ -1074 ≤ exponent ∧ exponent ≤ 971 ∧ (exponent = -1074 ∨ Nat.pow 2 52 ≤ significand)
instance (s e) : Decidable (Canonical s e) := by unfold Canonical; infer_instance

structure Dyadic64 where
  negative : Bool
  significand : Nat
  exponent : Int
  canonical : Canonical significand exponent
  deriving DecidableEq, Repr

inductive Double where
  | nan
  | infinite (negative : Bool)
  | finite (value : Dyadic64)
  deriving DecidableEq, Repr

namespace Dyadic64

def zero (negative : Bool) : Dyadic64 := ⟨negative,0,-1074,by decide⟩

/-- The magnitude counted in units of `2 ^ -1074`, of which every finite number is a multiple. -/
def magnitude (x : Dyadic64) : Nat := x.significand * Nat.pow 2 (x.exponent + 1074).toNat

def units (x : Dyadic64) : Int := if x.negative then -(x.magnitude : Int) else x.magnitude

def unitsPerOne : Nat := Nat.pow 2 1074

def isInteger (x : Dyadic64) : Bool := x.magnitude % unitsPerOne == 0

def toInt (x : Dyadic64) : Int :=
  if x.negative then -((x.magnitude / unitsPerOne : Nat) : Int) else (x.magnitude / unitsPerOne : Nat)

end Dyadic64

namespace Double
open Dyadic64 (unitsPerOne)

def roundHalfEven (num den : Nat) : Nat :=
  let q := num / den
  let r := num % den
  if 2 * r < den then q else if den < 2 * r then q + 1 else if q % 2 = 0 then q else q + 1

def binaryOrder (num den : Nat) : Int :=
  let guess : Int := (num.log2 : Int) - (den.log2 : Int)
  let reached := if 0 ≤ guess then den * Nat.pow 2 guess.toNat ≤ num else den ≤ num * Nat.pow 2 (-guess).toNat
  if reached then guess else guess - 1

def ofRatio (negative : Bool) (num den : Nat) : Double :=
  if num = 0 then .finite (.zero negative) else
  let e := max (-1074) (binaryOrder num den - 52)
  let s := if 0 ≤ e then roundHalfEven num (den * Nat.pow 2 e.toNat) else roundHalfEven (num * Nat.pow 2 (-e).toNat) den
  let carried := if s = Nat.pow 2 53 then (Nat.pow 2 52,e + 1) else (s,e)
  if h : Canonical carried.1 carried.2 then .finite ⟨negative,carried.1,carried.2,h⟩ else .infinite negative

def ofDecimal (negative : Bool) (digits : Nat) (exponent : Int) : Double :=
  if digits = 0 then .finite (.zero negative)
  else if 0 ≤ exponent then
    if 400 < exponent then .infinite negative else ofRatio negative (digits * Nat.pow 10 exponent.toNat) 1
  else if (digits.log2 : Int) + 1101 < -3 * exponent then .finite (.zero negative)
  else ofRatio negative digits (Nat.pow 10 (-exponent).toNat)

def ofInt (n : Int) : Double := ofDecimal (decide (n < 0)) n.natAbs 0

def zero : Double := .finite (.zero false)
def one : Double := ofInt 1

def isFinite : Double → Bool
  | .finite _ => true
  | _ => false

def isNan : Double → Bool
  | .nan => true
  | _ => false

def isZero : Double → Bool
  | .finite x => x.significand == 0
  | _ => false

def lt : Double → Double → Bool
  | .nan,_ => false
  | _,.nan => false
  | .infinite true,.infinite true => false
  | .infinite true,_ => true
  | .infinite false,_ => false
  | .finite _,.infinite negative => !negative
  | .finite x,.finite y => decide (x.units < y.units)

def intLt (n : Int) : Double → Bool
  | .nan => false
  | .infinite negative => !negative
  | .finite y => decide (n * unitsPerOne < y.units)

def ltInt : Double → Int → Bool
  | .nan,_ => false
  | .infinite negative,_ => negative
  | .finite x,n => decide (x.units < n * unitsPerOne)

def sub : Double → Double → Double
  | .finite x,.finite y =>
    let d := x.units - y.units
    ofRatio (decide (d < 0)) d.natAbs unitsPerOne
  | .infinite a,.infinite b => if a = b then .nan else .infinite a
  | .infinite a,.finite _ => .infinite a
  | .finite _,.infinite b => .infinite (!b)
  | _,_ => .nan

def le (x y : Double) : Bool := !x.isNan && !y.isNan && !lt y x

def toInt? : Double → Option Int
  | .finite x => if x.isInteger then some x.toInt else none
  | _ => none

end Double
end FormBuilder
