import GuestBridge.Host.Defaults
import GuestBridge.Main
import GuestBridge.Memory.Views
import GuestBridge.Proofs.Callbacks.Conduct
import GuestBridge.Proofs.Elements.Forest
import GuestBridge.Proofs.Elements.Moves
import GuestBridge.Proofs.Elements.Page
import GuestBridge.Proofs.Finalizers.Leftover
import GuestBridge.Proofs.Finalizers.Precedence
import GuestBridge.Proofs.Graphics.BindGroups
import GuestBridge.Proofs.Guests.Unreached
import GuestBridge.Proofs.Handles.FreeList
import GuestBridge.Proofs.Handles.Growth
import GuestBridge.Proofs.Handles.Modes
import GuestBridge.Proofs.Handles.Refinement
import GuestBridge.Proofs.Inspection
import GuestBridge.Proofs.Intrinsics.Conversions
import GuestBridge.Proofs.Intrinsics.DroppedHandles
import GuestBridge.Proofs.Intrinsics.ReturnPointers
import GuestBridge.Proofs.Intrinsics.Strictness
import GuestBridge.Proofs.Lifetime.Destruction
import GuestBridge.Proofs.Lifetime.Environment
import GuestBridge.Proofs.Linking
import GuestBridge.Proofs.Memory.Access
import GuestBridge.Proofs.Memory.Staleness
import GuestBridge.Proofs.Microtasks
import GuestBridge.Proofs.Microtasks.Order
import GuestBridge.Proofs.Promises.Adoption
import GuestBridge.Proofs.Promises.Reactions
import GuestBridge.Proofs.Promises.Termination
import GuestBridge.Proofs.Startup
import GuestBridge.Proofs.Text.Accounting
import GuestBridge.Proofs.Text.Blocks
import GuestBridge.Proofs.Text.Decoding
import GuestBridge.Proofs.Text.Transfer
import GuestBridge.Proofs.Thunks.Failures
import GuestBridge.Proofs.Timers.Index
import GuestBridge.Proofs.Timers.Reuse
import GuestBridge.Proofs.Timers.Run
import GuestBridge.Proofs.Timers.Splitting
import GuestBridge.Proofs.Timers.Words
import GuestBridge.Proofs.Values
import GuestBridge.Sample.Arena
import GuestBridge.Sample.Exerciser
import GuestBridge.Sample.Scripted
import GuestBridge.Sample.Ticker
