import GuestBridge.Host.Defaults
import GuestBridge.Proofs.Action
import GuestBridge.Proofs.Facilities
import GuestBridge.Proofs.Timers.Course
/-!
Host functions that schedule and cancel timers and leave them alone otherwise, and that queue
microtasks behind those that wait. The sample host offers no others. All but one of them leave the
bind groups of the graphics device alone as well.
-/

set_option autoImplicit false

namespace GuestBridge

/-- Timers are scheduled and cancelled in between, but none fires. -/
def EventLoop.Meanwhile (e e' : EventLoop) : Prop :=
  ∃ history, (∀ t, .fired t ∉ history) ∧ e.Course history e'

namespace EventLoop.Meanwhile

variable {e e' : EventLoop}

theorem tasks (same : e'.agenda = e.agenda) : e.Meanwhile e' :=
  ⟨[], fun _ => List.not_mem_nil, .single (.tasks same)⟩

theorem setTimeout (e : EventLoop) (callback : Nat) (delay : UInt64) :
    e.Meanwhile (e.setTimeout callback delay).2 :=
  ⟨_, by simp, .single (.scheduled e callback delay)⟩

theorem clearTimeout (e : EventLoop) (id : UInt32) : e.Meanwhile (e.clearTimeout id).2 := by
  rcases found : e.clearTimeout id with ⟨_ | t, e'⟩
  · exact ⟨[], fun _ => List.not_mem_nil, .single (.missed found)⟩
  · exact ⟨_, by simp, .single (.cancelled found)⟩

instance : Std.Refl EventLoop.Meanwhile := ⟨fun _ => tasks rfl⟩

instance : IsTrans EventLoop EventLoop.Meanwhile where
  trans _ _ _ := fun ⟨first, quiet, course⟩ ⟨second, quiet', onward⟩ =>
    ⟨first ++ second, fun t fired => (List.mem_append.1 fired).elim (quiet t) (quiet' t),
      course.append onward⟩

end EventLoop.Meanwhile

/-- What is done to the event loop while timers are scheduled and cancelled and microtasks join
their queue. -/
structure EventLoop.Served (e e' : EventLoop) : Prop where
  meanwhile : e.Meanwhile e'
  tasks : e.microtasks <+: e'.microtasks

namespace EventLoop.Served

variable {e e' : EventLoop}

theorem queues (queues : e.Queues e') : e.Served e' := ⟨.tasks queues.agenda, queues.tasks⟩

theorem same (same : e' = e) : e.Served e' := .queues (.of_eq same)

theorem setTimeout (e : EventLoop) (callback : Nat) (delay : UInt64) :
    e.Served (e.setTimeout callback delay).2 :=
  ⟨.setTimeout e callback delay, List.prefix_rfl⟩

theorem clearTimeout (e : EventLoop) (id : UInt32) : e.Served (e.clearTimeout id).2 := by
  refine ⟨.clearTimeout e id, ?_⟩
  unfold EventLoop.clearTimeout
  split <;> exact List.prefix_rfl

instance : Std.Refl EventLoop.Served := ⟨fun _ => same rfl⟩

instance : IsTrans EventLoop EventLoop.Served where
  trans _ _ _ first second :=
    ⟨IsTrans.trans _ _ _ first.meanwhile second.meanwhile, first.tasks.trans second.tasks⟩

end EventLoop.Served

/-- One host after another, as far as the timers are concerned. -/
def Host.Meanwhile (h h' : Host) : Prop := h.realm.events.Meanwhile h'.realm.events

/-- The same, as far as the event loop is concerned. -/
def Host.Served (h h' : Host) : Prop := h.realm.events.Served h'.realm.events

instance : Std.Refl Host.Served := ⟨fun h => Std.Refl.refl h.realm.events⟩

instance : IsTrans Host Host.Served where
  trans _ _ _ first second := IsTrans.trans (r := EventLoop.Served) _ _ _ first second

/-- Whatever it is called with and when, the host function only schedules and cancels timers. -/
def Capability.Timely (c : Capability) : Prop :=
  ∀ args, Action.Along Host.Meanwhile (c.call args)

/-- Whatever it is called with and when, the host function leaves the microtasks that wait in their
order. Those that it queues come after them. -/
def Capability.Orderly (c : Capability) : Prop :=
  ∀ args, Action.Along
    (fun h h' : Host => h.realm.events.microtasks <+: h'.realm.events.microtasks) (c.call args)

/-- The host function does nothing to the event loop but that. -/
def Capability.Serves (c : Capability) : Prop := ∀ args, Action.Along Host.Served (c.call args)

theorem Capability.Serves.timely {c : Capability} (serves : c.Serves) : c.Timely :=
  fun args => (serves args).mono fun _ _ served => served.meanwhile

theorem Capability.Serves.orderly {c : Capability} (serves : c.Serves) : c.Orderly :=
  fun args => (serves args).mono fun _ _ served => served.tasks

/-- Hosts stay related as long as host functions queue microtasks at most, and do to their
facilities anything that sets no bind groups. -/
class Host.Admits (R : Host → Host → Prop) : Prop extends Std.Refl R, IsTrans Host R where
  queues : ∀ (h : Host) (r : Realm), h.realm.events.Queues r.events → R h { h with realm := r }
  facility : ∀ (h : Host) (kind : Facility) (state : kind.State), kind ≠ .graphics →
    R h { h with extensions := h.extensions.set kind state }
  device : ∀ (h : Host) (g : Graphics), g.bindGroups = h.bindGroups →
    R h { h with extensions := h.extensions.set .graphics g }

/-- The same if they schedule and cancel timers as well. -/
class Host.Abides (R : Host → Host → Prop) : Prop extends Host.Admits R where
  realm : ∀ (h : Host) (r : Realm), h.realm.events.Served r.events → R h { h with realm := r }
  queues h r tasks := realm h r (.queues tasks)

instance : Host.Abides Host.Served where
  realm _ _ served := served
  facility _ _ _ _ := .same rfl
  device _ _ _ := .same rfl

/-- The timers and the clock are the same. -/
def Host.Alike (h h' : Host) : Prop := h'.realm.events.agenda = h.realm.events.agenda

instance : Host.Admits Host.Alike where
  refl _ := rfl
  trans _ _ _ first second := second.trans first
  queues _ _ tasks := tasks.agenda
  facility _ _ _ _ := rfl
  device _ _ _ := rfl

open GuestBridge.Action (Along)

variable {R : Host → Host → Prop} [Host.Admits R]

namespace HostCall

theorem along_changeRealm {f : Realm → Realm}
    (step : ∀ r : Realm, r.events.Queues (f r).events) :
    Along R (changeRealm f) :=
  .modify fun h => Host.Admits.queues h _ (step h.realm)

theorem along_inRealm {α : Type} {f : Realm → α × Realm}
    (step : ∀ r : Realm, r.events.Queues (f r).2.events) : Along R (inRealm f) :=
  .get_bind fun h => Host.Admits.queues h _ (step h.realm)

theorem along_timed {R : Host → Host → Prop} [Host.Abides R] {f : Realm → Realm}
    (step : ∀ r : Realm, r.events.Served (f r).events) : Along R (changeRealm f) :=
  .modify fun h => Host.Abides.realm h _ (step h.realm)

theorem along_getRealm : Along R getRealm := .bind .get fun _ => .pure _

theorem along_hold (v : Value) : Along R (changeRealm (·.hold v)) :=
  along_changeRealm fun r => r.queues_hold v

theorem along_facility {kind : Facility} (apart : kind ≠ .graphics) (initial : kind.State) :
    Along R (facility kind initial) := by
  refine .get_bind fun h => ?_
  show R h { h with extensions := (h.extensions.getOrInsert kind initial).2 }
  unfold Extensions.getOrInsert
  split
  · exact Std.Refl.refl h
  · exact Host.Admits.facility h kind initial apart

theorem along_setFacility {kind : Facility} (apart : kind ≠ .graphics) (state : kind.State) :
    Along R (setFacility kind state) :=
  .modify fun h => Host.Admits.facility h kind state apart

theorem along_sharing (v : Value) : Along R (sharing v) :=
  .bind (along_hold v) fun _ => .pure _

theorem along_newPromise (promise : Promise) : Along R (newPromise promise) :=
  .bind (along_inRealm fun _ => .of_eq rfl) fun _ => .pure _

theorem along_newElement (tag : String) : Along R (inRealm (·.newElement tag)) :=
  along_inRealm fun _ => .of_eq rfl

end HostCall

namespace Host

open HostCall

namespace Page

theorem along_elementArgument (args : List Value) (i : Nat) :
    Along R (elementArgument args i) := by
  unfold elementArgument
  split
  · exact .pure _
  · exact .throw _

theorem along_bodyElement : Along R bodyElement := by
  refine .bind .get fun h => ?_
  split
  · exact .pure _
  · exact .bind (along_newElement _) fun _ =>
      .bind (along_setFacility (by decide) _) fun _ => .pure _

theorem along_logTo (level : ConsoleLevel) (args : List Value) :
    Along R (logTo level args) :=
  .bind (along_facility (by decide) _) fun _ =>
    .bind (along_setFacility (by decide) _) fun _ => .pure _

theorem along_createElement (args : List Value) : Along R (createElement args) := by
  unfold createElement
  simp only
  split
  · exact .bind (along_newElement _) fun _ => .pure _
  · exact .throw _

theorem along_getElementById (args : List Value) : Along R (getElementById args) := by
  refine .bind along_bodyElement fun body => ?_
  simp only
  split
  · exact .pure _
  · refine .bind along_getRealm fun r => ?_
    split
    · exact along_sharing _
    · exact .pure _

theorem along_appendChild (args : List Value) : Along R (appendChild args) := by
  refine .bind (along_elementArgument _ _) fun parent =>
    .bind (along_elementArgument _ _) fun child => .bind along_getRealm fun r => ?_
  split
  · exact .bind (along_changeRealm fun _ => .of_eq rfl) fun _ => along_sharing _
  · exact .throw _

theorem along_writeClipboard (args : List Value) : Along R (writeClipboard args) := by
  refine .bind (along_facility (by decide) _) fun clipboard => ?_
  split
  · exact along_newPromise _
  · exact .bind (along_setFacility (by decide) _) fun _ => along_newPromise _

theorem queues_replaceContent (r : Realm) (e : Nat) (text : String) :
    r.events.Queues (replaceContent r e text).events :=
  Realm.queues_run { r with elements := (r.elements.setText e text).1 } _

theorem admits : ∀ c ∈ capabilities, ∀ args, Along R (c.call args) := by
  simp only [capabilities, List.forall_mem_cons]
  refine ⟨along_logTo .log, along_logTo .warn, along_logTo .error, ?body, along_createElement,
    along_getElementById, ?setId, ?setText, ?text, along_appendChild, ?count, ?tag,
    along_writeClipboard, ?readClipboard, nofun⟩
  case body => exact fun _ => .bind along_bodyElement fun _ => along_sharing _
  case setId =>
    exact fun _ => .bind (along_elementArgument _ _) fun _ =>
      .bind (along_changeRealm fun _ => .of_eq rfl) fun _ => .pure _
  case setText =>
    exact fun _ => .bind (along_elementArgument _ _) fun _ =>
      .bind (along_changeRealm fun r => queues_replaceContent r _ _) fun _ => .pure _
  case readClipboard =>
    exact fun _ => .bind (along_facility (by decide) _) fun _ => along_newPromise _
  all_goals
    exact fun _ => .bind (along_elementArgument _ _) fun _ => .bind along_getRealm fun _ => .pure _

end Page

namespace Scheduling

theorem along_functionArgument (args : List Value) (i : Nat) :
    Along R (functionArgument args i) := by
  unfold functionArgument
  simp only
  split
  · exact .pure _
  · exact .throw _

theorem along_promiseArgument (args : List Value) (i : Nat) :
    Along R (promiseArgument args i) := by
  unfold promiseArgument
  simp only
  split
  · exact .pure _
  · exact .throw _

theorem along_queueMicrotask (args : List Value) : Along R (queueMicrotask args) :=
  .bind (along_functionArgument _ _) fun _ =>
    .bind (along_changeRealm fun r => IsTrans.trans _ _ _ (r.queues_hold _) (.queue _ _))
      fun _ => .pure _

theorem along_promiseResolve (args : List Value) : Along R (promiseResolve args) := by
  unfold promiseResolve
  simp only
  split
  · exact along_sharing _
  · refine .bind (along_inRealm fun _ => .of_eq rfl) fun p =>
      .bind (along_changeRealm fun r => ?_) fun _ => .pure _
    exact IsTrans.trans _ _ _ (r.queues_hold _) (Realm.queues_resolve ..)

theorem along_promiseThen (args : List Value) : Along R (promiseThen args) :=
  .bind (along_promiseArgument _ _) fun _ => .bind (along_functionArgument _ _) fun _ =>
    .bind (along_hold _) fun _ =>
      .bind (along_inRealm fun r => r.queues_andThen _ _) fun _ => .pure _

def timerSetter : Capability := ⟨"set_timeout", [.handle, .i32], .i32, true, setTimeout⟩

def timerClearer : Capability := ⟨"clear_timeout", [.i32], .unit, false, clearTimeout⟩

theorem offers_timers : [timerSetter, timerClearer] <+: capabilities := ⟨_, rfl⟩

theorem admits : ∀ c ∈ capabilities, c ≠ timerSetter → c ≠ timerClearer →
    ∀ args, Along R (c.call args) := by
  simp only [capabilities, List.forall_mem_cons]
  refine ⟨fun other => absurd rfl other, fun _ other => absurd rfl other,
    fun _ _ => along_queueMicrotask, fun _ _ => along_promiseResolve, fun _ _ => along_promiseThen,
    fun _ _ => ?now, nofun⟩
  case now => exact fun _ => .bind along_getRealm fun _ => .pure _

/-- What scheduling a timer does to the host. -/
theorem perform_setTimeout (args : List Value) (h : Host) :
    ((setTimeout args).run.run h).2 =
      match (args.getD 0 .undefined).asFunction? with
      | none => h
      | some callback =>
        { h with realm := { h.realm.hold (.function callback) with
          events :=
            (h.realm.events.setTimeout callback (numberArgument args 1).toUInt64).2 } } := by
  unfold setTimeout functionArgument
  dsimp only
  rcases (args.getD 0 .undefined).asFunction? with _ | callback <;> rfl

theorem agenda_cancelTimer (r : Realm) (id : UInt32) :
    (cancelTimer r id).events.agenda = (r.events.clearTimeout id).2.agenda := by
  unfold cancelTimer
  split
  · next timer events found =>
    rw [found]
    exact (Realm.queues_letGo { r with events := events } _).agenda
  · next events found => rw [found]

theorem served_cancelTimer (r : Realm) (id : UInt32) :
    r.events.Served (cancelTimer r id).events := by
  have cleared := EventLoop.Served.clearTimeout r.events id
  unfold cancelTimer
  split
  · next timer events found =>
    rw [found] at cleared
    exact IsTrans.trans _ _ _ cleared
      (.queues (Realm.queues_letGo { r with events := events } (.function timer.callback)))
  · next events found =>
    rw [found] at cleared
    exact cleared

section

variable {R : Host → Host → Prop} [Host.Abides R]

theorem along_setTimeout (args : List Value) : Along R (setTimeout args) := by
  intro h
  rw [perform_setTimeout]
  split
  · exact Std.Refl.refl h
  · exact Host.Abides.realm h _ (.setTimeout h.realm.events _ _)

theorem along_clearTimeout (args : List Value) : Along R (clearTimeout args) :=
  .bind (along_timed fun r => served_cancelTimer r _) fun _ => .pure _

theorem abide (c : Capability) (inside : c ∈ capabilities) (args : List Value) :
    Along R (c.call args) := by
  by_cases setter : c = timerSetter
  · exact setter ▸ along_setTimeout args
  · by_cases clearer : c = timerClearer
    · exact clearer ▸ along_clearTimeout args
    · exact admits c inside setter clearer args

end

end Scheduling

namespace Graphics

theorem along_device : Along R (facility .graphics initial) := by
  refine .get_bind fun h => ?_
  show R h { h with extensions := (h.extensions.getOrInsert .graphics initial).2 }
  unfold Extensions.getOrInsert
  split
  · exact Std.Refl.refl h
  · next none => exact Admits.device h initial (by rw [bindGroups, Host.device, none]; rfl)

/-- Looking at the device leaves it as it is found. -/
theorem perform_device (h : Host) : ∃ extensions,
    (facility .graphics initial).run.run h =
      (.ok h.device, { h with extensions := extensions }) ∧
    Host.device { h with extensions := extensions } = h.device := by
  refine ⟨(h.extensions.getOrInsert .graphics initial).2, ?_, ?_⟩
  · show (Except.ok (h.extensions.getOrInsert .graphics initial).1, _) = _
    rw [Extensions.fst_getOrInsert]
    rfl
  · unfold Extensions.getOrInsert
    split
    · rfl
    · next none =>
      rw [device_set, Host.device, none]
      rfl

/-- What is set on the device is made of what it is. -/
theorem along_setDevice {change : GuestBridge.Graphics → GuestBridge.Graphics}
    (step : ∀ h : Host, R h { h with extensions := h.extensions.set .graphics (change h.device) }) :
    Along R (do
      let graphics ← facility .graphics initial
      setFacility .graphics (change graphics)
      return .undefined : HostCall Value) := by
  refine along_device.bind_ok fun h graphics later found => ?_
  obtain ⟨extensions, looked, same⟩ := perform_device h
  rw [looked] at found
  cases found
  have set := step { h with extensions := extensions }
  rw [same] at set
  exact set

theorem along_requestAdapter (args : List Value) : Along R (requestAdapter args) := by
  refine .bind along_device fun graphics => ?_
  split
  · exact .bind (along_inRealm fun _ => .of_eq rfl) fun _ => along_newPromise _
  · exact along_newPromise _

theorem along_adapterName (args : List Value) : Along R (adapterName args) := by
  unfold adapterName
  split
  · exact .pure _
  · exact .throw _

theorem along_setPowerPreference (args : List Value) : Along R (setPowerPreference args) :=
  along_setDevice fun h => Admits.device h _ rfl

def groupSetter : Capability := ⟨"gpu_set_bind_group", [.i32, .words], .unit, false, setBindGroup⟩

theorem offers_groupSetter : [groupSetter] <:+ capabilities := ⟨capabilities.take 4, rfl⟩

theorem admits : ∀ c ∈ capabilities, c ≠ groupSetter → ∀ args, Along R (c.call args) := by
  simp only [capabilities, List.forall_mem_cons]
  refine ⟨fun _ => along_requestAdapter, fun _ => along_adapterName,
    fun _ => along_setPowerPreference, fun _ _ => ?format, fun other => absurd rfl other, nofun⟩
  case format => exact .bind along_device fun _ => .pure _

theorem serves_groupSetter : groupSetter.Serves :=
  fun _ => along_setDevice fun _ => .same rfl

end Graphics

open Scheduling (timerSetter timerClearer)

/-- The sample host schedules timers by one function only, cancels them by another, and sets bind
groups by a third. -/
theorem defaults_admits : ∀ c ∈ defaults, c ≠ Graphics.groupSetter → c ≠ timerSetter →
    c ≠ timerClearer → ∀ args, Along R (c.call args) := by
  intro c inside grouping setting clearing
  simp only [defaults, List.mem_append] at inside
  rcases inside with (page | scheduling) | graphics
  · exact Page.admits c page
  · exact Scheduling.admits c scheduling setting clearing
  · exact Graphics.admits c graphics grouping

theorem defaults_abide {R : Host → Host → Prop} [Host.Abides R] : ∀ c ∈ defaults,
    c ≠ Graphics.groupSetter → ∀ args, Along R (c.call args) := by
  intro c inside other
  simp only [defaults, List.mem_append] at inside
  rcases inside with (page | scheduling) | graphics
  · exact Page.admits c page
  · exact Scheduling.abide c scheduling
  · exact Graphics.admits c graphics other

/-- Nothing else gets at the timers. -/
theorem defaults_alike {c : Capability} (inside : c ∈ defaults) (setting : c ≠ timerSetter)
    (clearing : c ≠ timerClearer) (args : List Value) : Along Host.Alike (c.call args) := by
  by_cases grouping : c = Graphics.groupSetter
  · exact grouping ▸ Graphics.along_setDevice fun _ => rfl
  · exact defaults_admits c inside grouping setting clearing args

/-- The sample host keeps to what guests may do with the event loop. -/
theorem defaults_serve : ∀ c ∈ defaults, c.Serves := by
  intro c inside
  by_cases setter : c = Graphics.groupSetter
  · exact setter ▸ Graphics.serves_groupSetter
  · exact defaults_abide c inside setter

theorem defaults_timely : ∀ c ∈ defaults, c.Timely :=
  fun c inside => (defaults_serve c inside).timely

theorem defaults_orderly : ∀ c ∈ defaults, c.Orderly :=
  fun c inside => (defaults_serve c inside).orderly

end Host

namespace Registry

theorem mem_define {r : Registry} {c d : Capability} (inside : d ∈ (r.define c).entries) :
    d ∈ r.entries ∨ d = c := by
  rcases List.mem_append.1 inside with old | new
  · exact .inl (List.mem_of_mem_filter old)
  · exact .inr (List.mem_singleton.1 new)

theorem mem_defineAll {r : Registry} {cs : List Capability} {d : Capability}
    (inside : d ∈ (r.defineAll cs).entries) : d ∈ r.entries ∨ d ∈ cs := by
  induction cs generalizing r with
  | nil => exact .inl inside
  | cons c rest ih =>
    rcases ih inside with before | later
    · rcases mem_define before with old | rfl
      · exact .inl old
      · exact .inr (List.mem_cons_self ..)
    · exact .inr (List.mem_cons_of_mem _ later)

end Registry

end GuestBridge
