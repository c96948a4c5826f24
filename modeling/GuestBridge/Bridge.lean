import GuestBridge.Guest
import GuestBridge.HandleTable
import GuestBridge.Linking
import GuestBridge.Memory.Views
import GuestBridge.Text.Codec
/-!
One guest wired to a host: its settings and capabilities, the handles it has been given, and the
machine that it runs on.
-/

set_option autoImplicit false

namespace GuestBridge

/-- An instance of a guest module: memory, the guest's own state, and what its imports are. -/
structure Machine (σ : Type) where
  memory : Memory
  maxPages : Nat
  state : σ
  bindings : List Binding

structure BoundExports (σ : Type) where
  malloc : GuestFunction σ
  realloc? : Option (GuestFunction σ)
  free? : Option (GuestFunction σ)
  exnStore : GuestFunction σ
  start? : Option (GuestFunction σ)
  table? : Option (FunctionTable σ)

/-- How deep calls between guest and host may nest, and how many turns one run of the event loop or
of the finalizers may take. -/
structure Limits where
  depth : Nat := 1000000
  turns : Nat := 1000000000

structure Bridge (σ : Type) where
  settings : Settings
  registry : Registry
  handles : HandleTable
  views : Views
  codec : Codec
  host : Host
  capabilities : List Capability
  machine : Machine σ
  bound : Option (BoundExports σ)
  /-- The module of the instance, once there is one that calls can go to. -/
  active : Option (GuestModule σ)
  limits : Limits

namespace Bridge

variable {σ : Type}

/-- A bridge with no guest yet. The machine is there for instances to replace. -/
def create (settings : Settings) (registry : Registry) (state : σ) : Bridge σ where
  settings := settings
  registry := registry
  handles := .empty settings.strictHandles
  views := .empty
  codec := .fresh settings.decodeCeiling
  host := .empty
  capabilities := []
  machine := ⟨.zeroed 0 0, 0, state, []⟩
  bound := none
  active := none
  limits := {}

instance : HasClosures (Bridge σ) where
  closures b := b.host.realm.closures
  setClosures b closures :=
    { b with host := { b.host with realm := { b.host.realm with closures := closures } } }

def isActive (b : Bridge σ) : Bool := b.active.isSome

end Bridge

abbrev BridgeAction (σ : Type) := Action (Bridge σ)

/-- How to call into the guest. -/
abbrev GuestCaller (σ : Type) := GuestFunction σ → List Core → BridgeAction σ (List Core)

end GuestBridge
