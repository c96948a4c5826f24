import GuestBridge.Proofs.Text.Decoding
/-!
How a codec shares out what it reads among its decoders. Whether a decoder is changed depends on all
that was read since the one before came in, and on nothing else; what a read yields depends on the
bytes in question only. Sums are exact: the count that is clamped to 64 bits never needs to be.
-/

set_option autoImplicit false

namespace GuestBridge

namespace Codec

variable {c : Codec} {length : Nat}

/-- The ceiling fits into the count, so that a count at the clamp has reached it. -/
theorem account_cases (bounded : c.ceiling < UInt64.size) (length : Nat) :
    (c.ceiling ≤ c.decoded + length ∧
      c.account length = { c with generation := c.generation + 1, decoded := length }) ∨
    (c.decoded + length < c.ceiling ∧
      c.account length = { c with decoded := c.decoded + length }) := by
  unfold account
  by_cases reached : c.ceiling ≤ c.decoded + length
  · refine .inl ⟨reached, if_pos ?_⟩
    omega
  · have below : min (c.decoded + length) (UInt64.size - 1) = c.decoded + length := by omega
    rw [below, if_neg reached]
    exact .inr ⟨Nat.lt_of_not_le reached, rfl⟩

end Codec

/-- A number of bytes that are to be read as text, from an offset on. -/
structure TextRead where
  memory : Memory
  offset : UInt32
  length : UInt32

namespace TextRead

def Inside (t : TextRead) : Prop := t.offset.toNat + t.length.toNat ≤ t.memory.size

def bytes (t : TextRead) : List UInt8 := t.memory.bytesAt t.offset t.length

/-- What a codec yields for it. -/
def outcome (c : Codec) (t : TextRead) : Except Fault String :=
  (c.read t.memory t.offset t.length).1

theorem length_bytes (t : TextRead) : t.bytes.length = t.length.toNat := by
  rw [bytes, Memory.bytesAt, List.length_map, List.length_range]

/-- Where the bytes are, and what the codec has read before, makes no difference. -/
theorem outcome_congr {t u : TextRead} (insideT : t.Inside) (insideU : u.Inside)
    (same : t.bytes = u.bytes) (c d : Codec) : t.outcome c = u.outcome d := by
  have lengths : t.length.toNat = u.length.toNat := by
    rw [← t.length_bytes, ← u.length_bytes, same]
  change t.memory.bytesAt t.offset t.length = u.memory.bytesAt u.offset u.length at same
  change Codec.text t.memory t.offset t.length = Codec.text u.memory u.offset u.length
  rw [Codec.text_inside insideT, Codec.text_inside insideU, lengths, same]

end TextRead

/-- What is asked of a codec from its making on. -/
structure Reading where
  ceiling : UInt64
  reads : List TextRead

namespace Reading

variable (r : Reading)

/-- The codec before read number `i`. -/
def codec (i : Nat) : Codec :=
  (r.reads.take i).foldl (fun c t => (c.read t.memory t.offset t.length).2)
    (.fresh r.ceiling.toNat)

/-- How many bytes the reads from number `s` on ask for that come before number `i`. -/
def total (s i : Nat) : Nat := (((r.reads.drop s).take (i - s)).map fun t => t.length.toNat).sum

/-- Read number `i` gets a fresh decoder. -/
def Replaces (i : Nat) : Prop := (r.codec (i + 1)).generation ≠ (r.codec i).generation

instance (i : Nat) : Decidable (r.Replaces i) := inferInstanceAs (Decidable (_ ≠ _))

/-- Number `s` is the last read before number `i` that got a fresh decoder, or the first of all if
none did. -/
structure Since (s i : Nat) : Prop where
  begins : s = 0 ∨ s < i ∧ r.Replaces s
  lasts : ∀ j, s < j → j < i → ¬ r.Replaces j

def replacements (i : Nat) : Nat := (List.range i).countP fun j => r.Replaces j

variable {r} {s i : Nat}

theorem codec_succ {t : TextRead} (here : r.reads[i]? = some t) :
    r.codec (i + 1) = (r.codec i).account t.length.toNat := by
  unfold codec
  rw [List.take_add_one, here, List.foldl_append]
  rfl

theorem total_self (r : Reading) (i : Nat) : r.total i i = 0 := by
  rw [total, Nat.sub_self]
  rfl

theorem total_succ {t : TextRead} (here : r.reads[i]? = some t) (order : s ≤ i) :
    r.total s (i + 1) = r.total s i + t.length.toNat := by
  have next : (r.reads.drop s)[i - s]? = some t := by
    rw [List.getElem?_drop, Nat.add_sub_cancel' order, here]
  unfold total
  rw [Nat.sub_add_comm order, List.take_add_one, next, List.map_append, List.sum_append]
  rfl

theorem replacements_succ (r : Reading) (i : Nat) :
    r.replacements (i + 1) = r.replacements i + if r.Replaces i then 1 else 0 := by
  rw [replacements, List.range_succ, List.countP_append, List.countP_singleton]
  simp only [decide_eq_true_eq]
  rfl

namespace Since

theorem le (since : r.Since s i) : s ≤ i := by
  rcases since.begins with rfl | ⟨before, -⟩
  · exact Nat.zero_le i
  · exact Nat.le_of_lt before

theorem start (r : Reading) : r.Since 0 0 :=
  ⟨.inl rfl, fun _ _ below => absurd below (Nat.not_lt_zero _)⟩

theorem here (replaced : r.Replaces i) : r.Since i (i + 1) :=
  ⟨.inr ⟨Nat.lt_succ_self i, replaced⟩, fun _ above below => by omega⟩

theorem still (since : r.Since s i) (kept : ¬ r.Replaces i) : r.Since s (i + 1) := by
  constructor
  case begins =>
    exact since.begins.imp_right fun ⟨before, replaced⟩ => ⟨Nat.lt_succ_of_lt before, replaced⟩
  case lasts =>
    intro j above below
    rcases Nat.lt_succ_iff_lt_or_eq.1 below with earlier | rfl
    · exact since.lasts j above earlier
    · exact kept

theorem unique {s' : Nat} (one : r.Since s i) (other : r.Since s' i) : s = s' := by
  have none {a b : Nat} (first : r.Since a i) (second : r.Since b i) : ¬ a < b := by
    intro order
    rcases second.begins with rfl | ⟨before, replaced⟩
    · exact absurd order (Nat.not_lt_zero _)
    · exact first.lasts b order before replaced
  exact Nat.le_antisymm (Nat.not_lt.1 (none other one)) (Nat.not_lt.1 (none one other))

end Since

/-- What holds before read number `i`: the decoder in use has what was asked for since it came in,
and that is below the ceiling unless it is one read. -/
structure Shared (r : Reading) (s i : Nat) : Prop where
  since : r.Since s i
  decoded : (r.codec i).decoded = r.total s i
  ceiling : (r.codec i).ceiling = r.ceiling.toNat
  generation : (r.codec i).generation = r.replacements i

theorem shared_start (r : Reading) : r.Shared 0 0 := ⟨.start r, (r.total_self 0).symm, rfl, rfl⟩

/-- The next read goes to the decoder in use if the ceiling is not reached with it, and else to a
fresh one. -/
theorem Shared.next (shared : r.Shared s i) {t : TextRead} (here : r.reads[i]? = some t) :
    (r.ceiling.toNat ≤ r.total s (i + 1) ∧ r.Replaces i ∧ r.Shared i (i + 1) ∧
      (r.codec (i + 1)).decoded = t.length.toNat) ∨
    (r.total s (i + 1) < r.ceiling.toNat ∧ ¬ r.Replaces i ∧ r.Shared s (i + 1)) := by
  have bounded : (r.codec i).ceiling < UInt64.size := shared.ceiling ▸ r.ceiling.toNat_lt
  have whole := total_succ here shared.since.le
  have alone := total_succ here (Nat.le_refl i)
  have after := codec_succ here
  rw [total_self, Nat.zero_add] at alone
  rcases (r.codec i).account_cases bounded t.length.toNat with ⟨reached, fresh⟩ | ⟨below, kept⟩
  · rw [fresh] at after
    rw [shared.ceiling, shared.decoded, ← whole] at reached
    have replaced : r.Replaces i := by
      rw [Replaces, after]
      exact Nat.succ_ne_self _
    refine .inl ⟨reached, replaced, ⟨.here replaced, ?_, ?_, ?_⟩, by rw [after]⟩
    · rw [after, alone]
    · rw [after]
      exact shared.ceiling
    · rw [after, replacements_succ, if_pos replaced, ← shared.generation]
  · rw [kept] at after
    rw [shared.ceiling, shared.decoded, ← whole] at below
    have same : ¬ r.Replaces i := by
      rw [Replaces, after]
      exact fun apart => apart rfl
    refine .inr ⟨below, same, ⟨shared.since.still same, ?_, ?_, ?_⟩⟩
    · rw [after, whole, ← shared.decoded]
    · rw [after]
      exact shared.ceiling
    · rw [after, replacements_succ, if_neg same, ← shared.generation]
      rfl

theorem exists_shared (r : Reading) (within : i ≤ r.reads.length) : ∃ s, r.Shared s i := by
  induction i with
  | zero => exact ⟨0, r.shared_start⟩
  | succ i ih =>
    obtain ⟨s, shared⟩ := ih (Nat.le_of_succ_le within)
    rcases shared.next (List.getElem?_eq_getElem within) with ⟨-, -, after, -⟩ | ⟨-, -, after⟩
    · exact ⟨i, after⟩
    · exact ⟨s, after⟩

/-- Any reads, of any memories and any lengths, whether they succeed or fail: a read gets a fresh
decoder just if the ceiling is reached by what was asked for since the last one that did, itself
included; the count is what the decoder in use was asked for, and below the ceiling unless that is a
single read; and no read's outcome depends on any of this. -/
theorem decoders_share_reads (r : Reading) :
    (∀ i ≤ r.reads.length, ∃ s, r.Since s i) ∧
    (∀ i (_ : i < r.reads.length) (s : Nat), r.Since s i →
      (r.Replaces i ↔ r.ceiling.toNat ≤ r.total s (i + 1))) ∧
    (∀ i ≤ r.reads.length, (r.codec i).generation = r.replacements i ∧
      ∀ s, r.Since s i → (r.codec i).decoded = r.total s i) ∧
    (∀ i (within : i < r.reads.length), (r.codec (i + 1)).decoded < r.ceiling.toNat ∨
      (r.codec (i + 1)).decoded = r.reads[i].length.toNat) ∧
    ∀ (t : TextRead) (i : Nat),
      (t.Inside → ∀ (u : TextRead) (c : Codec), u.Inside → u.bytes = t.bytes →
        t.outcome (r.codec i) = u.outcome c) ∧
      (¬ t.Inside → t.outcome (r.codec i) =
        .error (.outOfBounds t.offset t.length t.memory.size)) := by
  refine ⟨fun i within => ?_, fun i within s since => ?_, fun i within => ?_, fun i within => ?_,
    fun t i => ⟨fun inside u c insideU same => TextRead.outcome_congr inside insideU same.symm _ _,
      fun outside => Codec.text_outside (Nat.lt_of_not_le outside)⟩⟩
  · obtain ⟨s, shared⟩ := r.exists_shared within
    exact ⟨s, shared.since⟩
  · obtain ⟨s', shared⟩ := r.exists_shared (Nat.le_of_lt within)
    obtain rfl := since.unique shared.since
    rcases shared.next (List.getElem?_eq_getElem within) with
      ⟨reached, replaced, -⟩ | ⟨below, same, -⟩
    · exact iff_of_true replaced reached
    · exact iff_of_false same (Nat.not_le.2 below)
  · obtain ⟨s', shared⟩ := r.exists_shared within
    refine ⟨shared.generation, fun s since => ?_⟩
    obtain rfl := since.unique shared.since
    exact shared.decoded
  · obtain ⟨s, shared⟩ := r.exists_shared (Nat.le_of_lt within)
    rcases shared.next (List.getElem?_eq_getElem within) with
      ⟨-, -, -, single⟩ | ⟨below, -, after⟩
    · exact .inr single
    · exact .inl (after.decoded ▸ below)

end Reading

end GuestBridge
