import GuestBridge.Capability
/-!
A graphics device: adapters, the format of the canvas and bind groups.
-/

set_option autoImplicit false

namespace GuestBridge.Host.Graphics

def powerPreferences : List String := ["low-power", "high-performance"]

def textureFormats : List String := [
  "r8unorm", "r8snorm", "rg8unorm", "rgba8unorm", "rgba8unorm-srgb", "bgra8unorm",
  "bgra8unorm-srgb", "rgba16float", "rgba32float", "depth24plus", "depth32float"]

def initial : GuestBridge.Graphics := ⟨["tether software adapter"], none, "bgra8unorm", []⟩

/-- A promise of the first adapter, or of `null` if there is none. -/
def requestAdapter (_ : List Value) : HostCall Value := do
  let graphics ← HostCall.facility .graphics initial
  match graphics.adapters with
  | name :: _ =>
    let identity ← HostCall.inRealm (·.freshIdentity)
    HostCall.newPromise (.settled (.fulfilled (.adapter identity name)))
  | [] => HostCall.newPromise (.settled (.fulfilled .null))

def adapterName (args : List Value) : HostCall Value :=
  match args.getD 0 .undefined with
  | .adapter _ name => return .string name
  | v => throw (v.notA "a GPUAdapter")

def setPowerPreference (args : List Value) : HostCall Value := do
  let graphics ← HostCall.facility .graphics initial
  HostCall.setFacility .graphics
    { graphics with powerPreference := (args.getD 0 .undefined).asString? }
  return .undefined

def preferredCanvasFormat (_ : List Value) : HostCall Value := do
  return .string (← HostCall.facility .graphics initial).canvasFormat

/-- Replaces the group with the same index, or adds it in order. -/
def putGroup (index : UInt32) (words : List UInt32) :
    List (UInt32 × List UInt32) → List (UInt32 × List UInt32)
  | [] => [(index, words)]
  | (i, ws) :: rest =>
    if index < i then (index, words) :: (i, ws) :: rest
    else if index = i then (index, words) :: rest
    else (i, ws) :: putGroup index words rest

/-- The index is clamped to 32 bits without a sign. -/
def setBindGroup (args : List Value) : HostCall Value := do
  let index := ((args.getD 0 .undefined).asNumber?.getD .zero).toUInt32
  let words := (args.getD 1 .undefined).asWords?.getD []
  let graphics ← HostCall.facility .graphics initial
  HostCall.setFacility .graphics
    { graphics with bindGroups := putGroup index words graphics.bindGroups }
  return .undefined

def capabilities : List Capability := [
  ⟨"gpu_request_adapter", [], .handle, false, requestAdapter⟩,
  ⟨"gpu_adapter_name", [.handle], .text, true, adapterName⟩,
  ⟨"gpu_set_power_preference", [.choice powerPreferences], .unit, false, setPowerPreference⟩,
  ⟨"gpu_preferred_canvas_format", [], .choice textureFormats, false, preferredCanvasFormat⟩,
  ⟨"gpu_set_bind_group", [.i32, .words], .unit, false, setBindGroup⟩]

end GuestBridge.Host.Graphics
