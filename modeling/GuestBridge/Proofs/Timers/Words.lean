import GuestBridge.Proofs.Doubles
import GuestBridge.Proofs.Finalizers.Leftover
import GuestBridge.Proofs.Thunks.Failures
import GuestBridge.Proofs.Timers.Index
import GuestBridge.Proofs.Timers.Timely
/-!
Timers as guests know them. Scheduling a timer yields a word, and a word cancels. The id of a timer
becomes that word by way of a number, and a word becomes an id the same way back; on either way what
does not fit is replaced by what comes nearest. So a word is good for its timer while ids are below
`2 ^ 31`. Of the ids above none can be cancelled, and all of them share a word with the last one
below.
-/

set_option autoImplicit false

namespace GuestBridge

variable {σ : Type}

/-- The word that a guest is given for a timer. -/
def Timer.word (t : Timer) : UInt32 := (Double.ofUInt32 t.id).toInt32Word

theorem Timer.word_eq (t : Timer) :
    t.word = if t.id.toNat < 2 ^ 31 then t.id else 0x7fffffff := Double.toInt32Word_ofUInt32 t.id

/-- A word comes to the id of a timer only if that id is small. Zero is the id of none. -/
theorem Timer.cancelled_id_iff {t : Timer} (nonzero : t.id ≠ 0) (w : UInt32) :
    (Double.ofInt32Word w).toUInt32 = t.id ↔ t.id.toNat < 2 ^ 31 ∧ w = t.word := by
  rw [Double.toUInt32_ofInt32Word, t.word_eq]
  by_cases low : w.toNat < 2 ^ 31
  · rw [if_pos low]
    constructor
    · rintro rfl
      exact ⟨low, (if_pos low).symm⟩
    · rintro ⟨small, same⟩
      rwa [if_pos small] at same
  · rw [if_neg low]
    refine ⟨fun same => absurd same.symm nonzero, fun ⟨small, same⟩ => ?_⟩
    rw [if_pos small] at same
    exact absurd (same ▸ small) low

namespace EventLoop

/-- The index leads from the id of the timer to the timer itself. -/
def Leads (e : EventLoop) (t : Timer) : Prop := (t.id, t.key) ∈ e.keys

instance (e : EventLoop) (t : Timer) : Decidable (e.Leads t) :=
  inferInstanceAs (Decidable (_ ∈ e.keys))

theorem leads_agenda {e e' : EventLoop} (same : e'.agenda = e.agenda) (t : Timer) :
    e'.Leads t ↔ e.Leads t := by
  have keys := congrArg EventLoop.keys same
  change e'.keys = e.keys at keys
  rw [Leads, Leads, keys]

/-- As long as no id is given out twice, each leads to its timer. -/
theorem Numbered.leads {e : EventLoop} (numbered : e.Numbered) {t : Timer}
    (pending : t ∈ e.timers) : e.Leads t :=
  (numbered.indexed.same t.id t.key).2 ⟨t, pending, rfl, rfl⟩

/-- The word cancels the timer. -/
def Answers (e : EventLoop) (t : Timer) (w : UInt32) : Prop :=
  t.id.toNat < 2 ^ 31 ∧ w = t.word ∧ e.Leads t

/-- What holds of the index however many timers were scheduled. Once ids are given out again there
may be timers that it does not lead to. -/
structure Led (e : EventLoop) : Prop where
  queued : e.Queued
  unique : (e.keys.map Prod.fst).Nodup
  pending : ∀ id key, (id, key) ∈ e.keys → ∃ t ∈ e.timers, t.id = id ∧ t.key = key
  nonzero : ∀ t ∈ e.timers, t.id ≠ 0
  next : e.nextId ≠ 0

namespace Led

variable {e : EventLoop}

theorem empty : EventLoop.empty.Led := ⟨.empty, List.nodup_nil, nofun, nofun, by decide⟩

/-- Two keys behind one id are the same. -/
theorem key_eq (led : e.Led) {id : UInt32} {key other : TimerKey} (here : (id, key) ∈ e.keys)
    (there : (id, other) ∈ e.keys) : key = other :=
  congrArg Prod.snd (List.inj_on_of_nodup_map led.unique here there rfl)

theorem leads (led : e.Led) {id : UInt32} {t : Timer} (pending : t ∈ e.timers)
    (entry : (id, t.key) ∈ e.keys) : t.id = id ∧ e.Leads t := by
  obtain ⟨u, there, rfl, same⟩ := led.pending _ _ entry
  obtain rfl := led.queued.eq_of_order there pending (congrArg TimerKey.order same)
  exact ⟨rfl, entry⟩

theorem setTimeout (led : e.Led) (callback : Nat) (delay : UInt64) :
    (e.setTimeout callback delay).2.Led := by
  constructor
  case queued => exact led.queued.setTimeout callback delay
  case unique => exact unique_setTimeout led.unique callback delay
  case pending =>
    intro id key entry
    rw [keys_setTimeout, List.mem_cons, mem_eraseId] at entry
    rcases entry with new | ⟨old, -⟩
    · cases new
      exact ⟨_, (e.mem_setTimeout callback delay _).2 (.inl rfl), rfl, rfl⟩
    · obtain ⟨t, inside, same⟩ := led.pending id key old
      exact ⟨t, (e.mem_setTimeout callback delay t).2 (.inr inside), same⟩
  case nonzero =>
    intro t inside
    rcases (e.mem_setTimeout callback delay t).1 inside with rfl | old
    · exact led.next
    · exact led.nonzero t old
  case next =>
    change idAfter e.nextId ≠ 0
    unfold idAfter
    split
    · decide
    · assumption

/-- Some timers gone, and with each the entry that led to it. -/
theorem fewer (led : e.Led) {e' : EventLoop} (queued : e'.Queued)
    (timers : e'.timers ⊆ e.timers) (keys : e'.keys.Sublist e.keys)
    (left : ∀ t ∈ e.timers, e.Leads t → (t.id, t.key) ∈ e'.keys → t ∈ e'.timers)
    (next : e'.nextId = e.nextId) : e'.Led where
  queued := queued
  unique := led.unique.sublist (keys.map _)
  pending id key entry := by
    obtain ⟨t, inside, rfl, rfl⟩ := led.pending id key (keys.subset entry)
    exact ⟨t, left t inside (keys.subset entry) entry, rfl, rfl⟩
  nonzero t inside := led.nonzero t (timers inside)
  next := next ▸ led.next

/-- An id cancels the timer that the index leads to from there, and no other. -/
theorem mem_clearTimeout (led : e.Led) (id : UInt32) {t : Timer} (pending : t ∈ e.timers) :
    t ∉ (e.clearTimeout id).2.timers ↔ t.id = id ∧ e.Leads t := by
  rcases e.clearTimeout_cases id with ⟨absent, unchanged⟩ | ⟨key, present, changed⟩
  · rw [unchanged]
    refine ⟨fun gone => absurd pending gone, ?_⟩
    rintro ⟨rfl, entry⟩
    exact absurd (beq_self_eq_true t.id) (List.find?_eq_none.1 absent _ entry)
  · have found : (id, key) ∈ e.keys := List.mem_of_find?_eq_some present
    have kept : t ∉ (e.clearTimeout id).2.timers ↔ t.key = key := by
      rw [changed, List.mem_filter, bne_iff_ne]
      simp only [pending, true_and, ne_eq, not_not]
    rw [kept]
    constructor
    · rintro rfl
      exact led.leads pending found
    · rintro ⟨rfl, entry⟩
      exact led.key_eq entry found

theorem clearTimeout (led : e.Led) (id : UInt32) : (e.clearTimeout id).2.Led := by
  have gone (t : Timer) (pending : t ∈ e.timers) := led.mem_clearTimeout id pending
  have queued := led.queued.clearTimeout id
  rcases e.clearTimeout_cases id with ⟨-, unchanged⟩ | ⟨key, -, changed⟩
  · rw [unchanged]
    exact led
  · rw [changed] at gone queued ⊢
    refine led.fewer queued List.filter_sublist.subset List.filter_sublist
      (fun t pending _ entry => ?_) rfl
    by_contra absent
    exact (mem_eraseId.1 entry).2 ((gone t pending).1 absent).1

theorem popDue (led : e.Led) (deadline : UInt64) : (e.popDue deadline).2.Led := by
  have queued := led.queued.popDue deadline
  rcases e.popDue_cases deadline with ⟨unchanged, -⟩ | ⟨t, rest, timers, -, changed⟩
  · rw [unchanged]
    exact led
  · rw [changed] at queued ⊢
    refine led.fewer queued (timers ▸ List.subset_cons_self t rest) List.filter_sublist
      (fun u pending _ entry => ?_) rfl
    rw [timers] at pending
    refine (List.mem_cons.1 pending).resolve_left ?_
    rintro rfl
    exact (mem_eraseId.1 entry).2 rfl

theorem advanceTo (led : e.Led) (time : UInt64) : (e.advanceTo time).Led :=
  ⟨led.queued.advanceTo time, led.unique, led.pending, led.nonzero, led.next⟩

/-- The microtasks do not count. -/
theorem of_agenda (led : e.Led) {e' : EventLoop} (same : e'.agenda = e.agenda) : e'.Led := by
  have timers := congrArg EventLoop.timers same
  have scheduled := congrArg EventLoop.scheduled same
  have keys := congrArg EventLoop.keys same
  have next := congrArg EventLoop.nextId same
  simp only [agenda] at timers scheduled keys next
  obtain ⟨⟨ascending, known, distinct⟩, unique, pending, nonzero, following⟩ := led
  rw [← timers] at ascending distinct known pending nonzero
  rw [← scheduled] at known
  rw [← keys] at unique pending
  exact ⟨⟨ascending, known, distinct⟩, unique, pending, nonzero, next ▸ following⟩

end Led

theorem agenda_setTimeout (e : EventLoop) (callback : Nat) (delay : UInt64) :
    (e.setTimeout callback delay).2.agenda = (e.agenda.setTimeout callback delay).2 := rfl

theorem agenda_clearTimeout (e : EventLoop) (id : UInt32) :
    (e.clearTimeout id).2.agenda = (e.agenda.clearTimeout id).2 := by
  simp only [clearTimeout, agenda]
  split <;> rfl

/-- The timers are as some operations have left them, and be the microtasks as they may. -/
def Reached (e : EventLoop) : Prop := ∃ ops, e.agenda = (TimerRecord.start.run ops).loop.agenda

end EventLoop

theorem TimerRecord.led_run (ops : List TimerOp) : (start.run ops).loop.Led := by
  have step (r : TimerRecord) (op : TimerOp) (led : r.loop.Led) : (r.step op).loop.Led := by
    cases op with
    | schedule callback delay => exact led.setTimeout callback delay
    | cancel id => exact led.clearTimeout id
    | take deadline => exact led.popDue deadline
    | advance time => exact led.advanceTo time
  have all (r : TimerRecord) (led : r.loop.Led) : (r.run ops).loop.Led := by
    induction ops generalizing r with
    | nil => exact led
    | cons op rest ih => exact ih (r.step op) (step r op led)
  exact all start .empty

namespace EventLoop.Reached

variable {e e' : EventLoop}

theorem led (reached : e.Reached) : e.Led := by
  obtain ⟨ops, same⟩ := reached
  exact (TimerRecord.led_run ops).of_agenda same

theorem setTimeout (reached : e.Reached) {callback : Nat} {delay : UInt64}
    (same : e'.agenda = (e.setTimeout callback delay).2.agenda) : e'.Reached := by
  obtain ⟨ops, whence⟩ := reached
  refine ⟨ops ++ [.schedule callback delay], ?_⟩
  rw [same, agenda_setTimeout, whence, ← agenda_setTimeout, TimerRecord.run_append]
  rfl

theorem clearTimeout (reached : e.Reached) {id : UInt32}
    (same : e'.agenda = (e.clearTimeout id).2.agenda) : e'.Reached := by
  obtain ⟨ops, whence⟩ := reached
  refine ⟨ops ++ [.cancel id], ?_⟩
  rw [same, agenda_clearTimeout, whence, ← agenda_clearTimeout, TimerRecord.run_append]
  rfl

end EventLoop.Reached

/-- What a word does to the timers when a guest cancels with it. -/
structure EventLoop.CancelledBy (e : EventLoop) (w : UInt32) (e' : EventLoop) : Prop where
  fewer : e'.timers ⊆ e.timers
  gone : ∀ t ∈ e.timers, t ∉ e'.timers ↔ e.Answers t w
  alone : ∀ t ∈ e.timers, ∀ u ∈ e.timers, e.Answers t w → e.Answers u w → u = t

theorem EventLoop.Led.cancelledBy {e e' : EventLoop} (led : e.Led) (w : UInt32)
    (timers : e'.timers = (e.clearTimeout (Double.ofInt32Word w).toUInt32).2.timers) :
    e.CancelledBy w e' := by
  constructor
  case fewer =>
    rw [timers]
    rcases e.clearTimeout_cases (Double.ofInt32Word w).toUInt32 with ⟨-, same⟩ | ⟨key, -, same⟩
    · exact same ▸ List.Subset.refl _
    · exact same ▸ List.filter_sublist.subset
  case gone =>
    intro t pending
    rw [timers, led.mem_clearTimeout _ pending, eq_comm,
      Timer.cancelled_id_iff (led.nonzero t pending), Answers, and_assoc]
  case alone =>
    rintro t here u there ⟨small, rfl, entry⟩ ⟨small', same, entry'⟩
    rw [t.word_eq, u.word_eq, if_pos small, if_pos small'] at same
    refine led.queued.eq_of_order there here (congrArg TimerKey.order ?_)
    exact led.key_eq entry' (same ▸ entry)

namespace BridgeAction

open Host.Scheduling

variable {b : Bridge σ} {exports : BoundExports σ} (present : b.bound = some exports)
  (call : GuestCaller σ) {index : Nat}

include present

theorem dispatch_timerSetter (linked : b.capabilities[index]? = some timerSetter)
    {handle : UInt32} {callback : Nat}
    (found : b.handles.tryGet handle = .ok (.function callback)) (delay : UInt32) :
    let time := (Double.ofInt32Word delay).toUInt64
    (dispatch call index [.word handle, .word delay]).perform b =
      (.ok [.word (b.host.realm.events.newTimer callback time).word],
        { b with host := { b.host with realm := { b.host.realm.hold (.function callback) with
          events := (b.host.realm.events.setTimeout callback time).2 } } }) := by
  intro time
  let t := b.host.realm.events.newTimer callback time
  let scheduled : Realm := { b.host.realm.hold (.function callback) with
    events := (b.host.realm.events.setTimeout callback time).2 }
  let values : List Value := [.function callback, .number (Double.ofInt32Word delay)]
  have shared : Shared timerSetter.params [[.word handle], [.word delay]] :=
    .cons rfl (.cons rfl .nil)
  have peeked : (tryPeek (σ := σ) handle).perform b = (.ok (.function callback), b) := by
    show (b.handles.tryGet handle, b) = _
    rw [found]
  have converted : (convertAll timerSetter.params [[.word handle], [.word delay]]).perform b =
      (.ok values, b) := by
    simp only [timerSetter, convertAll_cons, convert]
    rw [Action.perform_bind_ok _ _ peeked]
    rfl
  have ended : (timerSetter.call values).run.run b.host =
      (.ok (.number (Double.ofUInt32 t.id)), { b.host with realm := scheduled }) := rfl
  have ends : HostEnds timerSetter values b (.ok (.word t.word)) _ := .fit ended rfl
  have kept : scheduled.letGo (.number (Double.ofUInt32 t.id)) = scheduled := Realm.letGo_eq rfl
  have responded := dispatch_converted shared (fun _ => rfl) linked present converted call
  have done := responded.trans (respond_ended ends call 0)
  simp only [Lowered.keepsValue, Bool.false_eq_true, ↓reduceIte, kept] at done
  exact done

theorem dispatch_timerClearer (linked : b.capabilities[index]? = some timerClearer)
    (w : UInt32) :
    (dispatch call index [.word w]).perform b = (.ok [], { b with host := { b.host with
      realm := cancelTimer b.host.realm (Double.ofInt32Word w).toUInt32 } }) := by
  let cleared := cancelTimer b.host.realm (Double.ofInt32Word w).toUInt32
  have shared : Shared timerClearer.params [[.word w]] := .cons rfl .nil
  have converted : (convertAll timerClearer.params [[.word w]]).perform b =
      (.ok [.number (Double.ofInt32Word w)], b) := rfl
  have ended : (timerClearer.call [.number (Double.ofInt32Word w)]).run.run b.host =
      (.ok .undefined, { b.host with realm := cleared }) := rfl
  have ends : HostEnds timerClearer _ b (.ok .unit) _ := .fit ended rfl
  have kept : cleared.letGo .undefined = cleared := Realm.letGo_eq rfl
  have responded := dispatch_converted shared (fun _ => rfl) linked present converted call
  have done := responded.trans (respond_ended ends call 0)
  simp only [Lowered.keepsValue, Bool.false_eq_true, ↓reduceIte, kept] at done
  exact done

end BridgeAction

open BridgeAction Host.Scheduling

/-- A guest that schedules a timer gets its word. In whatever state the timers are, a word cancels
one of them at most, namely that whose word it is, provided that the id is below `2 ^ 31` and still
leads to the timer; and it always does as long as no id has been given out twice. -/
theorem timers_cancelled_by_word {b : Bridge σ} {exports : BoundExports σ}
    (present : b.bound = some exports) (reached : b.host.realm.events.Reached) {set clear : Nat}
    (sets : b.capabilities[set]? = some timerSetter)
    (clears : b.capabilities[clear]? = some timerClearer) (call : GuestCaller σ) :
    (∀ handle delay callback, b.handles.tryGet handle = .ok (.function callback) →
      ∃ t b', (dispatch call set [.word handle, .word delay]).perform b = (.ok [.word t.word], b') ∧
        t.callback = callback ∧ b'.host.realm.events.Reached ∧ b'.host.realm.events.Leads t ∧
        ∀ u, u ∈ b'.host.realm.events.timers ↔ u = t ∨ u ∈ b.host.realm.events.timers) ∧
    (∀ w, ∃ b', (dispatch call clear [.word w]).perform b = (.ok [], b') ∧
      b'.host.realm.events.Reached ∧ b.host.realm.events.CancelledBy w b'.host.realm.events) ∧
    ∀ ops, b.host.realm.events.agenda = (TimerRecord.start.run ops).loop.agenda →
      ops.countP TimerOp.isSchedule ≤ UInt32.size - 1 →
      ∀ t ∈ b.host.realm.events.timers, b.host.realm.events.Leads t := by
  refine ⟨fun handle delay callback found => ?_, fun w => ?_, fun ops same few t pending => ?_⟩
  · have returned := dispatch_timerSetter present call sets found delay
    exact ⟨_, _, returned, rfl, reached.setTimeout rfl, List.mem_cons_self ..,
      EventLoop.mem_setTimeout _ callback _⟩
  · have agenda := agenda_cancelTimer b.host.realm (Double.ofInt32Word w).toUInt32
    exact ⟨_, dispatch_timerClearer present call clears w, reached.clearTimeout agenda,
      reached.led.cancelledBy w (EventLoop.of_agenda agenda).1⟩
  · obtain ⟨kept, -⟩ := TimerRecord.start_kept.run ops (by change 0 + _ ≤ _; omega)
    rw [(EventLoop.of_agenda same).1] at pending
    exact (EventLoop.leads_agenda same t).2 (kept.numbered.leads pending)

/-! A guest that has a closure and a place to schedule and to cancel it from. -/

namespace Timekeeper

def exports : BoundExports Unit :=
  ⟨⟨⟨[.i32, .i32], [.i32]⟩, fun _ => .yield [.word 0]⟩, none, none,
    ⟨⟨[.i32], []⟩, fun _ => .yield []⟩, none, none⟩

/-- The closure is behind the first handle. -/
def bridge (events : EventLoop) : Bridge Unit :=
  let (callback, realm) := Realm.empty.newClosure .guest 0 1 2 3
  let b := Bridge.create {} .empty ()
  { b with
    handles := (b.handles.alloc (.function callback)).2
    host := { b.host with realm := { realm with events := events } }
    capabilities := [timerSetter, timerClearer]
    bound := some exports }

end Timekeeper

/-- With two timers pending, the word of the second cancels it and leaves the first. -/
theorem timers_cancelled_by_word_two :
    let ops : List TimerOp := [.schedule 0 5, .schedule 0 7]
    let b := Timekeeper.bridge (TimerRecord.start.run ops).loop
    let first : Timer := ⟨⟨5, 0⟩, 1, 0⟩
    let second : Timer := ⟨⟨7, 1⟩, 2, 0⟩
    b.bound = some Timekeeper.exports ∧ b.host.realm.events.Reached ∧
      b.capabilities[0]? = some timerSetter ∧ b.capabilities[1]? = some timerClearer ∧
      ∃ b', (dispatch (callWithin 1) 1 [.word 2]).perform b = (.ok [], b') ∧
        first ∈ b'.host.realm.events.timers ∧ second ∉ b'.host.realm.events.timers := by
  intro ops b first second
  have reached : b.host.realm.events.Reached := ⟨ops, rfl⟩
  have pending : first ∈ b.host.realm.events.timers ∧ second ∈ b.host.realm.events.timers := by
    decide
  have answers : b.host.realm.events.Answers second 2 :=
    ⟨by decide, second.word_eq.symm, by decide⟩
  obtain ⟨-, cancels, -⟩ := timers_cancelled_by_word (rfl : b.bound = some Timekeeper.exports)
    reached (rfl : b.capabilities[0]? = some timerSetter)
    (rfl : b.capabilities[1]? = some timerClearer) (callWithin 1)
  obtain ⟨b', returned, -, cancelled⟩ := cancels 2
  refine ⟨rfl, reached, rfl, rfl, b', returned, ?_, (cancelled.gone second pending.2).2 answers⟩
  by_contra gone
  have other := (cancelled.gone first pending.1).1 gone
  exact absurd (cancelled.alone second pending.2 first pending.1 answers other) (by decide)

/-! A guest that schedules so many timers that the next one has an id too large for its word. -/

namespace Timekeeper

/-- Schedules timers and cancels each of them, and then schedules one more. -/
def pulses : Nat → Code Unit (List Core)
  | 0 => .call 1 [.word 4, .word 0] fun _ => .yield []
  | laps + 1 => .call 1 [.word 4, .word 0] fun given => .call 2 given fun _ => pulses laps

def malloc : GuestFunction Unit := ⟨⟨[.i32, .i32], [.i32]⟩, fun _ => .yield [.word 0]⟩

def exnStore : GuestFunction Unit := ⟨⟨[.i32], []⟩, fun _ => .yield []⟩

/-- Makes a closure, which is behind the first handle. -/
def start : GuestFunction Unit :=
  ⟨⟨[], []⟩, fun _ => .call 0 [.word 0, .word 1, .word 2, .word 3] fun _ => .yield []⟩

def pulse (laps : Nat) : GuestFunction Unit := ⟨⟨[], []⟩, fun _ => pulses laps⟩

def guest (laps : Nat) : GuestModule Unit where
  imports := [
    ⟨"__bridge", "closure_new", .func, some Intrinsic.closureNew.signature⟩,
    ⟨"host", "set_timeout", .func, some ⟨[.i32, .i32], [.i32]⟩⟩,
    ⟨"host", "clear_timeout", .func, some ⟨[.i32], []⟩⟩]
  exports := [
    ("memory", .memory 1 1),
    ("__bridge_malloc", .func malloc),
    ("__bridge_exn_store", .func exnStore),
    ("__bridge_start", .func start),
    ("pulse", .func (pulse laps))]
  data := []
  onCreation := none
  initial := ()

def host : Registry := Registry.empty.defineAll Host.defaults

def started (laps : Nat) : Bridge Unit :=
  (Bridge.create {} host ()).after (.start (.module (guest laps)))

/-- What the guest needs to schedule and cancel timers of its closure. -/
structure Poised (b : Bridge Unit) : Prop where
  bound : b.bound = some ⟨malloc, none, none, exnStore, some start, none⟩
  capabilities : b.capabilities = [timerSetter, timerClearer]
  bindings : b.machine.bindings = [.intrinsic .closureNew, .capability 0, .capability 1]
  callback : b.handles.tryGet 4 = .ok (.function 0)

theorem poised (laps : Nat) : Poised (started laps) := ⟨rfl, rfl, rfl, rfl⟩

/-- No timer is pending, and some have been scheduled. -/
def idle (n : Nat) : EventLoop :=
  { EventLoop.empty with scheduled := n, nextId := UInt32.ofNat (n + 1) }

theorem id_idle {n : Nat} (few : n + 1 < 2 ^ 32) (time : UInt64) :
    ((idle n).newTimer 0 time).id.toNat = n + 1 := by
  change (UInt32.ofNat (n + 1)).toNat = n + 1
  rw [UInt32.toNat_ofNat', Nat.mod_eq_of_lt few]

theorem led_idle {n : Nat} (few : n + 1 < 2 ^ 32) : (idle n).Led where
  queued := ⟨.nil, nofun, .nil⟩
  unique := List.nodup_nil
  pending := nofun
  nonzero := nofun
  next zero := by
    have number := id_idle few 0
    change (idle n).nextId.toNat = n + 1 at number
    rw [zero] at number
    cases number

/-- Cancelling the only timer leaves none. -/
theorem clearTimeout_idle {n : Nat} (few : n + 1 < 2 ^ 31) (time : UInt64) :
    ((idle n).setTimeout 0 time).2.clearTimeout ((idle n).newTimer 0 time).id =
      (some ((idle n).newTimer 0 time), idle (n + 1)) := by
  have large : UInt32.ofNat n + 1 + 1 ≠ 0 := by
    rw [← UInt32.toNat_inj.ne]
    simp
    omega
  have next : EventLoop.idAfter (UInt32.ofNat n + 1) = UInt32.ofNat n + 1 + 1 := if_neg large
  simp [EventLoop.clearTimeout, EventLoop.setTimeout, EventLoop.newTimer, idle, EventLoop.empty,
    EventLoop.insertTimer, EventLoop.eraseId, next]

theorem instant : (Double.ofInt32Word 0).toUInt64 = 0 := by decide +kernel

variable {b : Bridge Unit} (call : GuestCaller Unit)

/-- The bridge when the guest has scheduled a timer that is due at once. -/
def armed (b : Bridge Unit) : Bridge Unit :=
  { b with host := { b.host with realm := { b.host.realm.hold (.function 0) with
    events := (b.host.realm.events.setTimeout 0 0).2 } } }

theorem Poised.armed (poised : Poised b) : Poised (armed b) :=
  ⟨poised.bound, poised.capabilities, poised.bindings, poised.callback⟩

theorem dispatch_set (poised : Poised b) : (dispatch call 0 [.word 4, .word 0]).perform b =
    (.ok [.word (b.host.realm.events.newTimer 0 0).word], armed b) := by
  have linked : b.capabilities[0]? = some timerSetter := by rw [poised.capabilities]; rfl
  have performed := dispatch_timerSetter poised.bound call linked poised.callback 0
  rw [instant] at performed
  exact performed

theorem dispatch_clear (poised : Poised b) (w : UInt32) : (dispatch call 1 [.word w]).perform b =
    (.ok [], { b with host := { b.host with
      realm := cancelTimer b.host.realm (Double.ofInt32Word w).toUInt32 } }) := by
  have linked : b.capabilities[1]? = some timerClearer := by rw [poised.capabilities]; rfl
  exact dispatch_timerClearer poised.bound call linked w

theorem serveImport_set (poised : Poised b) : (serveImport call 1 [.word 4, .word 0]).perform b =
    (.ok [.word (b.host.realm.events.newTimer 0 0).word], armed b) := by
  rw [← dispatch_set call poised]
  simp [serveImport, poised.bindings]

/-- Scheduling a timer and cancelling it by its word leaves everything else as it was. -/
theorem serveImport_clear (poised : Poised b) {n : Nat} (idles : b.host.realm.events = idle n)
    (few : n + 1 < 2 ^ 31)
    (held : (b.host.realm.closures.hold 0).release 0 = b.host.realm.closures) :
    (serveImport call 2 [.word (b.host.realm.events.newTimer 0 0).word]).perform (armed b) =
      (.ok [], b.withEvents (idle (n + 1))) := by
  rw [idles]
  let t := (idle n).newTimer 0 0
  have number : t.id.toNat = n + 1 := id_idle (by omega) 0
  have nonzero : t.id ≠ 0 := by
    intro zero
    rw [zero] at number
    cases number
  have id : (Double.ofInt32Word t.word).toUInt32 = t.id :=
    (Timer.cancelled_id_iff nonzero t.word).2 ⟨by omega, rfl⟩
  have served : (serveImport call 2 [.word t.word]).perform (armed b) =
      (dispatch call 1 [.word t.word]).perform (armed b) := by
    simp [serveImport, poised.armed.bindings]
  have cancelled : cancelTimer (armed b).host.realm t.id =
      { b.host.realm with events := idle (n + 1) } := by
    have found : (armed b).host.realm.events.clearTimeout t.id = (some t, idle (n + 1)) := by
      change (b.host.realm.events.setTimeout 0 0).2.clearTimeout t.id = _
      rw [idles]
      exact clearTimeout_idle few 0
    rw [cancelTimer, found]
    refine Realm.letGo_eq ?_
    simp only [Realm.doJob, armed, Realm.hold, held, t, EventLoop.newTimer]
  rw [served, dispatch_clear call poised.armed, id, cancelled]
  rfl

theorem perform_pulses (poised : Poised b)
    (held : (b.host.realm.closures.hold 0).release 0 = b.host.realm.closures) (laps : Nat) {n : Nat}
    (idles : b.host.realm.events = idle n) (few : n + laps < 2 ^ 31 - 1) :
    ((pulses laps).run (serveImport call)).perform b =
      (.ok [], armed (b.withEvents (idle (n + laps)))) := by
  induction laps generalizing b n with
  | zero =>
    have same : b.withEvents (idle n) = b := by
      rw [← idles]
      rfl
    simp only [pulses, Code.run, Action.perform_bind, serveImport_set call poised,
      Action.perform_pure, Nat.add_zero, same]
  | succ laps ih =>
    have next : Poised (b.withEvents (idle (n + 1))) :=
      ⟨poised.bound, poised.capabilities, poised.bindings, poised.callback⟩
    have onward := ih next held rfl (by omega)
    rw [Nat.add_right_comm] at onward
    rw [pulses]
    simp only [Code.run, Action.perform_bind, serveImport_set call poised,
      serveImport_clear call poised idles (by omega) held, onward]
    rfl

theorem after_pulse {laps : Nat} (few : laps < 2 ^ 31 - 1) :
    (started laps).after (.callDynamic "pulse" []) =
      armed ((started laps).withEvents (idle laps)) := by
  let ended := armed ((started laps).withEvents (idle laps))
  have found : (exportedFunction "pulse").perform (started laps) =
      (.ok (pulse laps), started laps) :=
    rfl
  have called : (callChecked (pulse laps) []).perform (started laps) = (.ok [], ended) := by
    have ran :=
      perform_pulses (callWithin 999999) (poised laps) rfl laps (rfl : _ = idle 0) (by omega)
    rw [Nat.zero_add] at ran
    exact ran
  have swept : drain.perform ended = (.ok 0, ended) := by
    rw [perform_drain]
    rfl
  change ((callDynamic "pulse" []).perform (started laps)).2 = ended
  rw [callDynamic_found found, (swept_settled _ _).drained, called, swept]

/-- The bridge after so many timers that the last of them has the largest id with a word of its
own. -/
def late : Bridge Unit := (started (2 ^ 31 - 2)).after (.callDynamic "pulse" [])

theorem late_eq : late = armed ((started (2 ^ 31 - 2)).withEvents (idle (2 ^ 31 - 2))) :=
  after_pulse (by decide)

theorem late_reachable : late.Reachable host := .asked _ (.asked _ (.created {} ()))

theorem poised_late : Poised late := late_eq ▸ Poised.armed ⟨rfl, rfl, rfl, rfl⟩

theorem events_late : late.host.realm.events = ((idle (2 ^ 31 - 2)).setTimeout 0 0).2 := by
  rw [late_eq]
  rfl

end Timekeeper

/-- After a long run a guest has scheduled one timer and schedules another. The word that it gets
for the second cancels the first, and no word cancels the second. -/
theorem last_timer_survives_its_word :
    let b := Timekeeper.late
    b.Reachable Timekeeper.host ∧
    ∃ t other w b₁, (dispatch (callWithin 1) 0 [.word 4, .word 0]).perform b =
        (.ok [.word w], b₁) ∧ t ∉ b.host.realm.events.timers ∧
      t ∈ b₁.host.realm.events.timers ∧ other ∈ b₁.host.realm.events.timers ∧
      (∃ b₂, (dispatch (callWithin 1) 1 [.word w]).perform b₁ = (.ok [], b₂) ∧
        other ∉ b₂.host.realm.events.timers) ∧
      ∀ v, ∃ b₂, (dispatch (callWithin 1) 1 [.word v]).perform b₁ = (.ok [], b₂) ∧
        t ∈ b₂.host.realm.events.timers := by
  have reachable := Timekeeper.late_reachable
  have poised := Timekeeper.poised_late
  have events := Timekeeper.events_late
  -- From here on the run that has led to the bridge must not be looked into.
  generalize Timekeeper.late = b at reachable poised events
  refine ⟨reachable, ?_⟩
  let e := ((Timekeeper.idle (2 ^ 31 - 2)).setTimeout 0 0).2
  let other := (Timekeeper.idle (2 ^ 31 - 2)).newTimer 0 0
  let t := e.newTimer 0 0
  let b₁ := Timekeeper.armed b
  have events₁ : b₁.host.realm.events = (e.setTimeout 0 0).2 := by
    change (b.host.realm.events.setTimeout 0 0).2 = _
    rw [events]
  have led : b₁.host.realm.events.Led := by
    rw [events₁]
    exact ((Timekeeper.led_idle (by decide)).setTimeout 0 0).setTimeout 0 0
  have pending : t ∈ b₁.host.realm.events.timers ∧ other ∈ b₁.host.realm.events.timers := by
    rw [events₁]
    decide
  -- The id of the one is the largest below `2 ^ 31`, and that of the other comes right after it.
  have answers : b₁.host.realm.events.Answers other t.word := by
    refine ⟨by decide, ?_, by rw [events₁]; decide⟩
    rw [t.word_eq, other.word_eq]
    decide
  have large (v : UInt32) : ¬ b₁.host.realm.events.Answers t v := fun ⟨small, _⟩ =>
    absurd small (by decide)
  have cancels (v : UInt32) : ∃ b₂,
      (dispatch (callWithin 1) 1 [.word v]).perform b₁ = (.ok [], b₂) ∧
        b₁.host.realm.events.CancelledBy v b₂.host.realm.events :=
    ⟨_, Timekeeper.dispatch_clear (callWithin 1) poised.armed v,
      led.cancelledBy v (EventLoop.of_agenda (agenda_cancelTimer _ _)).1⟩
  have scheduled := Timekeeper.dispatch_set (callWithin 1) poised
  rw [events] at scheduled
  refine ⟨t, other, t.word, b₁, scheduled, ?_, pending.1, pending.2, ?_, fun v => ?_⟩
  · rw [events]
    decide
  · obtain ⟨b₂, returned, cancelled⟩ := cancels t.word
    exact ⟨b₂, returned, (cancelled.gone other pending.2).2 answers⟩
  · obtain ⟨b₂, returned, cancelled⟩ := cancels v
    refine ⟨b₂, returned, ?_⟩
    by_contra gone
    exact large v ((cancelled.gone t pending.1).1 gone)

end GuestBridge
