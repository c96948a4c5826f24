import GuestBridge.Host.Graphics
import GuestBridge.Host.Page
import GuestBridge.Host.Scheduling
/-!
The sample host: everything that a guest may count on without further ado.
-/

set_option autoImplicit false

namespace GuestBridge.Host

def defaults : List Capability :=
  Page.capabilities ++ Scheduling.capabilities ++ Graphics.capabilities

end GuestBridge.Host
