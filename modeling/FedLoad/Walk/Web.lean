import FedLoad.Url.Basic
import FedLoad.Walk.Basic
/-!
# The web out of reach

When no server can be reached, every request is lost. One that could be sent is lost on the network.
One that could not be sent, because its address cannot be read or is none of a web page, is sorted
by the words of the message about it, in which the address stands where it could be read.
-/
namespace FedLoad.Web

/-- Why a request that could not be sent is lost. -/
def unsent (message : String) : Reply := .lost (.ofMessage message) message .zero

/-- What comes of a request when no server can be reached. -/
def replyOffline (url : String) : Reply :=
  match Url.read url with
  | .error _ => unsent "builder error"
  | .ok origin =>
    if origin.scheme == "http" || origin.scheme == "https" then
      .lost .network s!"error sending request for url ({url})" .zero
    else unsent s!"builder error for url ({url})"

/-- The web when no server can be reached. -/
def offline : Web := fun _ url => replyOffline url

end FedLoad.Web
