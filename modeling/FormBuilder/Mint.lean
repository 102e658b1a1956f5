import FormBuilder.Text.Quoted
/-! Fresh names. Each name carries the time in milliseconds and a count that never repeats, so a
mint that is threaded through a run hands out every name once. -/
namespace FormBuilder

structure Mint where
  millis : Int
  fieldIds : Nat
  slugs : Nat
  deriving DecidableEq, Repr

namespace Mint

def atSeconds (seconds : Int) : Mint := ⟨seconds * 1000,0,0⟩

def setSeconds (m : Mint) (seconds : Int) : Mint := { m with millis := seconds * 1000 }

def seconds (m : Mint) : Int := m.millis / 1000

def fieldId (m : Mint) : String × Mint :=
  (String.ofList ("field-".toList ++ (toString m.millis).toList ++ '-' :: Text.hexText 7 (m.fieldIds + 1)),
    { m with fieldIds := m.fieldIds + 1 })

def slug (m : Mint) (base : String) : String × Mint :=
  (String.ofList (base.toList ++ '-' :: (toString m.millis).toList ++ '-' :: Text.hexText 5 (m.slugs + 1)),
    { m with slugs := m.slugs + 1 })

end Mint
end FormBuilder
