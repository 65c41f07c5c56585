import CallContract.Value

/-!
# Journal — what is recorded while the library works

Each record has a level, the part of the library that wrote it, a message, and details for those who sort records by
machine.
-/

namespace CallContract

inductive Level
  | debug | info | warning | error
  deriving DecidableEq, Inhabited

/-- The part of the library that writes a record. -/
inductive Channel
  | settings | contracts | resolution | coercion | validation
  deriving DecidableEq, Inhabited

/-- What a record adds to its message. -/
structure Details where
  event : String
  /-- The service concerned; `none` when there is no service. -/
  service? : Option String
  param? : Option String := none
  /-- The names concerned: texts, unless something that is no map stands where a context should. -/
  names? : Option (List Value) := none

structure Record where
  level : Level
  channel : Channel
  message : String
  details? : Option Details := none

-- Records in the order in which they were written.
abbrev Journal := List Record

end CallContract
