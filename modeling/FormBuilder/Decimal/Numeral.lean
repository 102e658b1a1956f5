import FormBuilder.Decimal.Double
import FormBuilder.Text.Blank
import FormBuilder.Text.Spelling
/-! Decimal numerals as people type them: an optional sign, digits with at most one point, and an
optional exponent, all in ASCII. -/
namespace FormBuilder
open Text (isDigitAscii)

structure Numeral where
  negative : Bool
  whole : List Char
  fraction : List Char
  exponent : Int
  plain : Bool
  deriving DecidableEq, Repr

namespace Numeral

def digitValue (c : Char) : Nat := c.toNat - 48

def natOf (digits : List Char) : Nat := digits.foldl (fun n c => n * 10 + digitValue c) 0

def takeSign : List Char → Bool × List Char
  | '-' :: rest => (true,rest)
  | '+' :: rest => (false,rest)
  | cs => (false,cs)

def readExponent : List Char → Option Int
  | [] => some 0
  | mark :: rest =>
    if mark = 'e' ∨ mark = 'E' then
      let (negative,digits) := takeSign rest
      if digits.isEmpty || !digits.all isDigitAscii then none
      else some (if negative then -(natOf digits : Int) else natOf digits)
    else none

def read? (cs : List Char) : Option Numeral :=
  let (negative,body) := takeSign cs
  let whole := body.takeWhile isDigitAscii
  match body.dropWhile isDigitAscii with
  | '.' :: rest =>
    let fraction := rest.takeWhile isDigitAscii
    if whole.isEmpty && fraction.isEmpty then none
    else (readExponent (rest.dropWhile isDigitAscii)).map (fun e => ⟨negative,whole,fraction,e,false⟩)
  | rest =>
    if whole.isEmpty then none
    else (readExponent rest).map (fun e => ⟨negative,whole,[],e,rest.isEmpty⟩)

def toDouble (n : Numeral) : Double :=
  .ofDecimal n.negative (natOf (n.whole ++ n.fraction)) (n.exponent - n.fraction.length)

def toInt (n : Numeral) : Int :=
  if n.negative then -(natOf n.whole : Int) else natOf n.whole

end Numeral
end FormBuilder
