import GuestBridge.Proofs.Timers.Words
/-!
Ids that are given out again. They go round after as many timers as there are ids, whatever is still
pending then. So they tell the pending timers apart just as long as none of these outlasts a whole
round of others; one that does shares its id, and the index leads to it no longer.
-/

set_option autoImplicit false

namespace GuestBridge

namespace EventLoop

/-- So many timers have ids of their own. -/
def idRound : Nat := UInt32.size - 1

/-- The ids of pending timers differ. -/
def Distinct (e : EventLoop) : Prop := e.timers.Pairwise fun t u => t.id ≠ u.id

/-- Fewer timers than make a round were scheduled after one that is pending. -/
def Punctual (e : EventLoop) : Prop := ∀ t ∈ e.timers, e.scheduled ≤ t.key.order + idRound

/-- What holds of ids wherever in its rounds the counter is. -/
structure Cycled (e : EventLoop) : Prop where
  led : e.Led
  number : ∀ t ∈ e.timers, t.id.toNat = t.key.order % idRound + 1
  next : e.nextId.toNat = e.scheduled % idRound + 1

/-- Nothing is scheduled; timers may go. -/
structure Dwindles (e e' : EventLoop) : Prop where
  timers : e'.timers ⊆ e.timers
  scheduled : e'.scheduled = e.scheduled
  nextId : e'.nextId = e.nextId

theorem Dwindles.refl (e : EventLoop) : e.Dwindles e := ⟨List.Subset.refl _, rfl, rfl⟩

theorem dwindles_clearTimeout (e : EventLoop) (id : UInt32) :
    e.Dwindles (e.clearTimeout id).2 := by
  rcases e.clearTimeout_cases id with ⟨-, same⟩ | ⟨key, -, same⟩
  · exact same ▸ .refl e
  · exact same ▸ ⟨List.filter_sublist.subset, rfl, rfl⟩

theorem dwindles_popDue (e : EventLoop) (deadline : UInt64) :
    e.Dwindles (e.popDue deadline).2 := by
  rcases e.popDue_cases deadline with ⟨same, -⟩ | ⟨t, rest, timers, -, same⟩
  · exact same ▸ .refl e
  · exact same ▸ ⟨timers ▸ List.subset_cons_self t rest, rfl, rfl⟩

theorem toNat_idAfter {id : UInt32} {count : Nat} (number : id.toNat = count % idRound + 1) :
    (idAfter id).toNat = (count + 1) % idRound + 1 := by
  have round : idRound = 4294967295 := rfl
  have sum : (id + 1).toNat = (id.toNat + 1) % 4294967296 := UInt32.toNat_add ..
  rw [round] at number ⊢
  unfold idAfter
  split
  · next zero =>
    rw [zero] at sum
    change 0 = _ at sum
    change 1 = _
    omega
  · next other =>
    have nonzero : (id + 1).toNat ≠ 0 := fun zero => other (UInt32.toNat_inj.1 zero)
    omega

namespace Cycled

variable {e : EventLoop}

theorem empty : EventLoop.empty.Cycled := ⟨.empty, nofun, rfl⟩

theorem dwindles (cycled : e.Cycled) {e' : EventLoop} (dwindles : e.Dwindles e')
    (led : e'.Led) : e'.Cycled where
  led := led
  number t inside := cycled.number t (dwindles.timers inside)
  next := by
    rw [dwindles.scheduled, dwindles.nextId]
    exact cycled.next

theorem setTimeout (cycled : e.Cycled) (callback : Nat) (delay : UInt64) :
    (e.setTimeout callback delay).2.Cycled where
  led := cycled.led.setTimeout callback delay
  number t inside := by
    rcases (e.mem_setTimeout callback delay t).1 inside with rfl | old
    · exact cycled.next
    · exact cycled.number t old
  next := toNat_idAfter cycled.next

/-- Timers with one id were scheduled one or more whole rounds apart. -/
theorem apart (cycled : e.Cycled) {t u : Timer} (ht : t ∈ e.timers) (hu : u ∈ e.timers)
    (same : t.id = u.id) (later : t.key.order < u.key.order) :
    t.key.order + idRound ≤ u.key.order := by
  have round : idRound = 4294967295 := rfl
  have numbers := congrArg UInt32.toNat same
  rw [cycled.number t ht, cycled.number u hu, round] at numbers
  omega

theorem distinct_of_punctual (cycled : e.Cycled) (punctual : e.Punctual) : e.Distinct := by
  refine cycled.led.queued.nodup.pairwise_of_forall_ne fun t ht u hu other same => ?_
  rcases Nat.lt_trichotomy t.key.order u.key.order with first | tie | second
  · have known := cycled.led.queued.known u hu
    have apart := cycled.apart ht hu same first
    have room := punctual t ht
    omega
  · exact other (cycled.led.queued.eq_of_order ht hu tie)
  · have known := cycled.led.queued.known t ht
    have apart := cycled.apart hu ht same.symm second
    have room := punctual u hu
    omega

end Cycled

/-- The index leads to every pending timer. -/
def Traced (e : EventLoop) : Prop := ∀ t ∈ e.timers, e.Leads t

variable {e : EventLoop}

theorem Distinct.eq_of_id (distinct : e.Distinct) {t u : Timer} (ht : t ∈ e.timers)
    (hu : u ∈ e.timers) (same : t.id = u.id) : t = u := by
  have symmetric : Std.Symm fun t u : Timer => t.id ≠ u.id := ⟨fun _ _ apart => apart.symm⟩
  by_contra apart
  exact distinct.forall ht hu apart same

theorem Led.distinct (led : e.Led) (traced : e.Traced) : e.Distinct := by
  refine led.queued.nodup.pairwise_of_forall_ne fun t ht u hu other same => other ?_
  have entry : (t.id, u.key) ∈ e.keys := same ▸ traced u hu
  exact led.queued.eq_of_order ht hu (congrArg TimerKey.order (led.key_eq (traced t ht) entry))

theorem Led.indexed (led : e.Led) (traced : e.Traced) : e.Indexed := by
  refine ⟨led.unique, fun id key => ⟨led.pending id key, ?_⟩⟩
  rintro ⟨t, inside, rfl, rfl⟩
  exact traced t inside

theorem Indexed.traced (indexed : e.Indexed) : e.Traced :=
  fun t inside => (indexed.same t.id t.key).2 ⟨t, inside, rfl, rfl⟩

/-- Where ids differ with the new timer, no older one has its id. -/
theorem Distinct.ne_nextId {callback : Nat} {delay : UInt64}
    (distinct : (e.setTimeout callback delay).2.Distinct) (led : e.Led) {t : Timer}
    (old : t ∈ e.timers) : t.id ≠ e.nextId := by
  intro same
  have inside := (e.mem_setTimeout callback delay t).2 (.inr old)
  have new := (e.mem_setTimeout callback delay _).2 (.inl rfl)
  obtain rfl := distinct.eq_of_id inside new same
  exact Nat.lt_irrefl _ (led.queued.known _ old)

/-- An older timer with the id of the new one would lose its entry. -/
theorem Traced.setTimeout (traced : e.Traced) {callback : Nat} {delay : UInt64}
    (led : e.Led) (distinct : (e.setTimeout callback delay).2.Distinct) :
    (e.setTimeout callback delay).2.Traced := by
  intro t inside
  rw [Leads, keys_setTimeout, List.mem_cons, mem_eraseId]
  rcases (e.mem_setTimeout callback delay t).1 inside with rfl | old
  · exact .inl rfl
  · exact .inr ⟨traced t old, distinct.ne_nextId led old⟩

theorem Traced.clearTimeout (traced : e.Traced) (led : e.Led) (id : UInt32) :
    (e.clearTimeout id).2.Traced := by
  have gone (t : Timer) (pending : t ∈ e.timers) := led.mem_clearTimeout id pending
  rcases e.clearTimeout_cases id with ⟨-, same⟩ | ⟨key, -, changed⟩
  · exact same ▸ traced
  · rw [changed] at gone ⊢
    intro t left
    have pending : t ∈ e.timers := List.filter_sublist.subset left
    refine mem_eraseId.2 ⟨traced t pending, fun same => ?_⟩
    exact (gone t pending).2 ⟨same, traced t pending⟩ left

theorem Traced.popDue (traced : e.Traced) (led : e.Led) (deadline : UInt64) :
    (e.popDue deadline).2.Traced := by
  rcases e.popDue_cases deadline with ⟨same, -⟩ | ⟨t, rest, timers, -, changed⟩
  · exact same ▸ traced
  · rw [changed]
    intro u left
    have once := led.queued.nodup
    rw [timers, List.nodup_cons] at once
    have first : t ∈ e.timers := timers ▸ List.mem_cons_self ..
    have pending : u ∈ e.timers := timers ▸ List.mem_cons_of_mem _ left
    refine mem_eraseId.2 ⟨traced u pending, fun same => once.1 ?_⟩
    obtain rfl := (led.distinct traced).eq_of_id pending first same
    exact left

/-- The next timer gets the id of one that has lasted for a round. -/
theorem Punctual.setTimeout (punctual : e.Punctual) {callback : Nat} {delay : UInt64}
    (cycled : e.Cycled) (distinct : (e.setTimeout callback delay).2.Distinct) :
    (e.setTimeout callback delay).2.Punctual := by
  have round : idRound = 4294967295 := rfl
  intro t inside
  change e.scheduled + 1 ≤ t.key.order + idRound
  rcases (e.mem_setTimeout callback delay t).1 inside with rfl | old
  · change e.scheduled + 1 ≤ e.scheduled + idRound
    omega
  · refine Nat.succ_le_of_lt (Nat.lt_of_le_of_ne (punctual t old) fun last => ?_)
    have number := cycled.number t old
    have next := cycled.next
    rw [last, Nat.add_mod_right, ← number] at next
    exact distinct.ne_nextId cycled.led old (UInt32.toNat_inj.1 next.symm)

theorem Punctual.dwindles (punctual : e.Punctual) {e' : EventLoop} (dwindles : e.Dwindles e') :
    e'.Punctual :=
  fun t inside => dwindles.scheduled ▸ punctual t (dwindles.timers inside)

end EventLoop

namespace TimerRecord

open EventLoop

/-- At every moment of a run. -/
def Throughout (ops : List TimerOp) (P : EventLoop → Prop) : Prop :=
  ∀ before after, ops = before ++ after → P (start.run before).loop

theorem cycled_step {r : TimerRecord} (cycled : r.loop.Cycled) (op : TimerOp) :
    (r.step op).loop.Cycled := by
  cases op with
  | schedule callback delay => exact cycled.setTimeout callback delay
  | cancel id => exact cycled.dwindles (dwindles_clearTimeout _ id) (cycled.led.clearTimeout id)
  | take deadline =>
    exact cycled.dwindles (dwindles_popDue _ deadline) (cycled.led.popDue deadline)
  | advance time =>
    exact cycled.dwindles ⟨List.Subset.refl _, rfl, rfl⟩ (cycled.led.advanceTo time)

theorem cycled_run (ops : List TimerOp) : (start.run ops).loop.Cycled := by
  induction ops using List.reverseRecOn with
  | nil => exact .empty
  | append_singleton before op ih =>
    rw [run_append]
    exact cycled_step ih op

/-- What a step keeps as long as something else holds after it. -/
theorem Throughout.keeps {P Q : EventLoop → Prop} {ops : List TimerOp}
    (throughout : Throughout ops P) (first : Q EventLoop.empty)
    (step : ∀ (r : TimerRecord) op, r.loop.Cycled → Q r.loop → P (r.step op).loop →
      Q (r.step op).loop) : Throughout ops Q := by
  intro before
  induction before using List.reverseRecOn with
  | nil => exact fun _ _ => first
  | append_singleton before op ih =>
    intro after split
    have earlier : ops = before ++ (op :: after) := by
      rw [split, List.append_assoc, List.singleton_append]
    have holds := throughout _ after split
    rw [run_append] at holds ⊢
    exact step _ op (cycled_run before) (ih _ earlier) holds

theorem Throughout.punctual {ops : List TimerOp} (distinct : Throughout ops Distinct) :
    Throughout ops Punctual := by
  refine distinct.keeps nofun fun r op cycled punctual after => ?_
  cases op with
  | schedule callback delay => exact punctual.setTimeout cycled after
  | cancel id => exact punctual.dwindles (dwindles_clearTimeout _ id)
  | take deadline => exact punctual.dwindles (dwindles_popDue _ deadline)
  | advance time => exact punctual

theorem Throughout.traced {ops : List TimerOp} (distinct : Throughout ops Distinct) :
    Throughout ops Traced := by
  refine distinct.keeps nofun fun r op cycled traced after => ?_
  cases op with
  | schedule callback delay => exact traced.setTimeout cycled.led after
  | cancel id => exact traced.clearTimeout cycled.led id
  | take deadline => exact traced.popDue cycled.led deadline
  | advance time => exact traced

/-- Ids are given out in rounds. At every moment the index leads from an id to the timer that is
cancelled by it, if to any. The ids of the timers that are pending differ all through a run, and the
indexes agree, just if none of these timers outlasts a round of others. -/
theorem ids_differ_within_a_round (ops : List TimerOp) :
    (Throughout ops fun e => e.Cycled ∧
      (∀ t ∈ e.timers, ∀ u ∈ e.timers, t.id = u.id → t.key.order < u.key.order →
        t.key.order + idRound ≤ u.key.order) ∧
      ∀ id, ∀ t ∈ e.timers, t ∉ (e.clearTimeout id).2.timers ↔ t.id = id ∧ e.Leads t) ∧
    (Throughout ops Distinct ↔ Throughout ops Punctual) ∧
    (Throughout ops Indexed ↔ Throughout ops Punctual) := by
  have spread (punctual : Throughout ops Punctual) : Throughout ops Distinct :=
    fun before after split =>
      (cycled_run before).distinct_of_punctual (punctual before after split)
  refine ⟨fun before after _ => ?_, ⟨Throughout.punctual, spread⟩, fun indexed => ?_,
    fun punctual before after split => ?_⟩
  · have cycled := cycled_run before
    exact ⟨cycled, fun t ht u hu => cycled.apart ht hu,
      fun id t pending => cycled.led.mem_clearTimeout id pending⟩
  · apply Throughout.punctual
    intro before after split
    exact (cycled_run before).led.distinct (indexed before after split).traced
  · exact (cycled_run before).led.indexed ((spread punctual).traced before after split)

/-! A timer that lasts while all other ids are given out. -/

/-- It is due at the end of time. -/
def lasting : Timer := ⟨⟨0xffffffffffffffff, 0⟩, 1, 0⟩

/-- Timers that are taken at once, after one that lasts. -/
def lapping (others : Nat) : List TimerOp :=
  .schedule 0 0xffffffffffffffff :: (List.replicate others [.schedule 0 0, .take 0]).flatten

/-- The lasting timer alone is left. -/
def alone (scheduled : Nat) (id : UInt32) : EventLoop :=
  ⟨0, scheduled, id, [lasting], [(1, lasting.key)], []⟩

theorem eraseId_other {id other : UInt32} {key : TimerKey} (apart : other ≠ id) :
    eraseId id [(other, key)] = [(other, key)] :=
  List.filter_cons_of_pos (bne_iff_ne.2 apart)

theorem eraseId_self (id : UInt32) (key : TimerKey) (keys : List (UInt32 × TimerKey)) :
    eraseId id ((id, key) :: keys) = eraseId id keys :=
  List.filter_cons_of_neg fun apart => bne_iff_ne.1 apart rfl

theorem alone_taken {scheduled : Nat} {id : UInt32} (other : 1 ≠ id) {r : TimerRecord}
    (here : r.loop = alone scheduled id) :
    (r.run [.schedule 0 0, .take 0]).loop = alone (scheduled + 1) (idAfter id) := by
  let key : TimerKey := ⟨0, scheduled⟩
  have added : ((alone scheduled id).setTimeout 0 0).2 = ⟨0, scheduled + 1, idAfter id,
      [⟨key, id, 0⟩, lasting], (id, key) :: eraseId id [(1, lasting.key)], []⟩ := rfl
  change ((r.loop.setTimeout 0 0).2.popDue 0).2 = _
  rw [here, added, eraseId_other other]
  change (⟨0, scheduled + 1, idAfter id, [lasting],
    eraseId id [(id, key), (1, lasting.key)], []⟩ : EventLoop) = _
  rw [eraseId_self, eraseId_other other, alone]

theorem alone_lapping {others : Nat} (few : others < idRound) :
    ∃ id : UInt32, id.toNat = (others + 1) % idRound + 1 ∧
      (start.run (lapping others)).loop = alone (others + 1) id := by
  have round : idRound = 4294967295 := rfl
  induction others with
  | zero => exact ⟨2, rfl, rfl⟩
  | succ others ih =>
    obtain ⟨id, number, left⟩ := ih (Nat.lt_of_succ_lt few)
    have other : 1 ≠ id := by
      rintro rfl
      change 1 = (others + 1) % idRound + 1 at number
      rw [round] at number few
      omega
    refine ⟨idAfter id, toNat_idAfter number, ?_⟩
    have more : lapping (others + 1) = lapping others ++ [.schedule 0 0, .take 0] := by
      rw [lapping, lapping, List.replicate_succ', List.flatten_append, List.cons_append]
      rfl
    rw [more, run_append]
    exact alone_taken other left

/-- The next timer has the id of the one that lasts. -/
def sharing (scheduled : Nat) : EventLoop :=
  let key : TimerKey := ⟨0, scheduled⟩
  ⟨0, scheduled + 1, 2, [⟨key, 1, 0⟩, lasting], [(1, key)], []⟩

theorem sharing_lapping {others : Nat} (round : others + 1 = idRound) :
    (start.run (lapping others ++ [.schedule 0 0])).loop = sharing (others + 1) := by
  obtain ⟨id, number, left⟩ := alone_lapping (Nat.lt_of_succ_le (Nat.le_of_eq round))
  rw [round, Nat.mod_self] at number
  obtain rfl : id = 1 := UInt32.toNat_inj.1 number
  rw [run_append]
  change ((start.run (lapping others)).loop.setTimeout 0 0).2 = _
  rw [left]
  rfl

theorem clearTimeout_sharing (scheduled : Nat) : (sharing scheduled).clearTimeout 1 =
    (some ⟨⟨0, scheduled⟩, 1, 0⟩, ⟨0, scheduled + 1, 2, [lasting], [], []⟩) := by
  have other : lasting.key ≠ ⟨0, scheduled⟩ := nofun
  unfold clearTimeout sharing
  simp [other, eraseId]

/-- The lasting timer shares its id with a new one. The id cancels the new one alone, and then none,
as if the other were not pending. -/
theorem lasting_timer_shares_id :
    let e := (start.run (lapping (idRound - 1) ++ [.schedule 0 0])).loop
    ∃ t : Timer, e.timers = [t, lasting] ∧ t ≠ lasting ∧ t.id = lasting.id ∧ ¬ e.Leads lasting ∧
      (e.clearTimeout lasting.id).1 = some t ∧
      (e.clearTimeout lasting.id).2.timers = [lasting] ∧
      ((e.clearTimeout lasting.id).2.clearTimeout lasting.id).1 = none := by
  have round : idRound - 1 + 1 = idRound := Nat.sub_add_cancel (by decide)
  rw [sharing_lapping round, round]
  generalize idRound = scheduled
  intro e
  have early : (0 : UInt64) ≠ lasting.key.due := by decide
  have cleared : e.clearTimeout lasting.id = _ := clearTimeout_sharing scheduled
  have untraced : ¬ e.Leads lasting := by
    intro entry
    have entries : e.keys = [(1, ⟨0, scheduled⟩)] := rfl
    rw [Leads, entries] at entry
    exact early (congrArg (fun entry => entry.2.due) (List.mem_singleton.1 entry)).symm
  refine ⟨_, rfl, ?_, rfl, untraced, congrArg Prod.fst cleared, ?_, ?_⟩
  · exact fun same => early (congrArg (fun t => t.key.due) same)
  · rw [cleared]
  · rw [cleared]
    rfl

end TimerRecord

end GuestBridge
