import SecureHeaders.Proofs.HeaderLines
import SecureHeaders.Proofs.LateFaults
import SecureHeaders.Proofs.PrintedAddress
/-!
The check command beside the serve command. Both load the same configuration and fail alike where
it does not load. Where it loads, the serve command checks it again with another address for its
listener, which is sound because a printed address can be read, and announces what the check
command lists.
-/

namespace SecureHeaders

open Config (Content)
open Log (Event)
open Net (SocketAddress)

namespace Cli

/-- The events of a start, before any filter. -/
def Start.events : Start → List Event
  | .unloaded _ => []
  | .failed _ events _ => events
  | .serving _ events => events

def isInfo (e : Event) : Bool := e.level = .info

def announcement : String := "Security header enabled"

/-- Events of which none at the level of information announces a header. -/
def Silent (events : List Event) : Prop := ∀ e ∈ events, isInfo e = true → e.message ≠ announcement

theorem Silent.append {a b : List Event} (first : Silent a) (second : Silent b) :
    Silent (a ++ b) := by
  intro e member
  rcases List.mem_append.1 member with early | late
  · exact first e early
  · exact second e late

theorem Silent.filter {events : List Event} (silent : Silent events) :
    Silent (events.filter isInfo) := by
  intro e member
  exact silent e (List.mem_filter.1 member).1

end Cli
end SecureHeaders
