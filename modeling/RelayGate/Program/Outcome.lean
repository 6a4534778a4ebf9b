import RelayGate.Access
import RelayGate.Event
import RelayGate.RecordAccount

/-!
# What a call leaves behind
-/

namespace RelayGate.Program

/-- The store after a call, and what the call announced. -/
structure Outcome where
  store : Store
  events : List Event

end RelayGate.Program
