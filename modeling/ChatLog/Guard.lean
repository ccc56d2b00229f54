/-!
A guard that lets at most one search run. Taking it never waits: while it is held it is refused.
-/
namespace ChatLog

structure Guard where
  isBusy : Bool
deriving DecidableEq, Repr

namespace Guard

def free : Guard := ⟨false⟩

def acquire? (guard : Guard) : Option Guard :=
  if guard.isBusy then none else some { guard with isBusy := true }

def release (guard : Guard) : Guard :=
  { guard with isBusy := false }

end Guard

end ChatLog
