import CallContract.Calendar.Zone
import CallContract.Room

/-!
# World — what conversions find around them

Texts can leave open what only the world knows: the current date, the clock of the host and the rules of the regions in
the time-zone database.  The room on the stack is part of it too.
-/

namespace CallContract

open CallContract.Calendar

structure World where
  today : Date
  /-- The clock of the host. -/
  clock : HostClock
  /-- The rules that the time-zone database has for the name of a region. -/
  rulesOf : String → ZoneRules
  room : Room

-- A world in which every clock keeps universal time.
def World.ofRoom (room : Room) : World :=
  { today := ⟨2024, 1, 31, by decide⟩, clock := .universal, rulesOf := fun _ => .constant 0, room }

end CallContract
