/-! What the library tells whoever operates it, besides its answers. -/
namespace FormBuilder

inductive Level where
  | warning
  | error
  deriving DecidableEq, Repr

def Level.name : Level → String
  | warning => "WARNING"
  | error => "ERROR"

structure Notice where
  level : Level
  message : String
  deriving DecidableEq, Repr

end FormBuilder
