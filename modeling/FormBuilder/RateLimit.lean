import FormBuilder.Decimal.Double
/-! A fixed-window rate limiter: the first request under a key opens a window, and until the window
has passed only so many requests are let through. -/
namespace FormBuilder

class Moment (τ : Type) where
  since : τ → τ → τ
  atLeast : τ → τ → Bool

instance : Moment Int := ⟨(· - ·),fun a b => b ≤ a⟩

instance : Moment Double := ⟨Double.sub,fun a b => Double.le b a⟩

structure Window (τ : Type) where
  key : String
  openedAt : τ
  count : Nat
  deriving DecidableEq, Repr

structure Limiter (τ : Type) where
  most : Int
  length : τ
  windows : List (Window τ)
  deriving DecidableEq, Repr

namespace Limiter
variable {τ : Type} [Moment τ]

def passed (l : Limiter τ) (now : τ) (w : Window τ) : Bool :=
  Moment.atLeast (Moment.since now w.openedAt) l.length

def evict (l : Limiter τ) (now : τ) : Limiter τ := { l with windows := l.windows.filter (fun w => !l.passed now w) }

def find? (l : Limiter τ) (key : String) : Option (Window τ) := l.windows.find? (fun w => w.key == key)

def count (l : Limiter τ) (key : String) : Limiter τ :=
  { l with windows := l.windows.map (fun w => if w.key = key then { w with count := w.count + 1 } else w) }

def allow (l : Limiter τ) (now : τ) (key : String) : Limiter τ × Bool :=
  let l := l.evict now
  match l.find? key with
  | none => ({ l with windows := l.windows ++ [⟨key,now,1⟩] },true)
  | some w => if l.most ≤ w.count then (l,false) else (l.count key,true)

def remaining (l : Limiter τ) (now : τ) (key : String) : Int :=
  match l.find? key with
  | none => l.most
  | some w => if l.passed now w then l.most else max (l.most - w.count) 0

def reset (l : Limiter τ) : Limiter τ := { l with windows := [] }

end Limiter
end FormBuilder
