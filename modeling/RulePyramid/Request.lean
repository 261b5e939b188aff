/-!
Requests for rulesets. Requests are numbered in the order in which they are issued; a ticket is
current as long as no later number has been given out.
-/

namespace RulePyramid

/-- What the response to a request is handed in with. -/
structure Ticket where
  number : UInt64
  rulesetId : String
  deriving DecidableEq

/-- The number given out last. -/
structure Tracker where
  latest : UInt64 := 0
  deriving DecidableEq

namespace Tracker

/-- Gives out the next number, so that no ticket issued so far is current any more. -/
def advance (t : Tracker) : UInt64 × Tracker := (t.latest + 1, ⟨t.latest + 1⟩)

def issue (t : Tracker) (rulesetId : String) : Ticket × Tracker :=
  let (number, t) := t.advance
  (⟨number, rulesetId⟩, t)

def isCurrent (t : Tracker) (ticket : Ticket) : Bool := t.latest = ticket.number

end Tracker

end RulePyramid
