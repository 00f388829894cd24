/-!
What a command line says of an option that takes a value. An option can be there without one: a pair of dashes that is
joined to it only ends the options, and so leaves its value empty.
-/

namespace CacheSeal

inductive Argument (α : Type) where
  | absent
  | empty
  | given (value : α)
deriving DecidableEq, Repr

namespace Argument

variable {α β : Type}

def isAbsent : Argument α → Bool
  | absent => true
  | _ => false

def value? : Argument α → Option α
  | given value => some value
  | _ => none

def map (f : α → β) : Argument α → Argument β
  | absent => absent
  | empty => empty
  | given value => given (f value)

/-- An argument whose value, if there is one, has been judged. -/
def judge {ε : Type} (verdict : α → Except ε β) : Argument α → Except ε (Argument β)
  | absent => .ok absent
  | empty => .ok empty
  | given value => do return given (← verdict value)

end Argument

end CacheSeal
