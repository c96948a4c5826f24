/-!
UTF-8. `decode` accepts exactly the well-formed byte sequences and otherwise says how long the
longest well-formed beginning is; `encode` writes a text.
-/

set_option autoImplicit false

namespace GuestBridge.Text.Utf8

def encode (s : String) : List UInt8 :=
  s.toList.flatMap String.utf8EncodeChar

/-- Number of 16-bit units of the text in UTF-16: two for a character beyond the first plane. -/
def units16 (s : String) : Nat :=
  s.toList.foldl (fun n c => n + if c.toNat < 0x10000 then 1 else 2) 0

def isContinuation (b : UInt8) : Bool := 0x80 ≤ b && b ≤ 0xbf

/-- The bytes that may follow a leading byte of three or four: no overlong forms, no surrogates,
nothing above `10FFFF`. -/
def secondByteOk (lead second : UInt8) : Bool :=
  if lead == 0xe0 then 0xa0 ≤ second && second ≤ 0xbf
  else if lead == 0xed then 0x80 ≤ second && second ≤ 0x9f
  else if lead == 0xf0 then 0x90 ≤ second && second ≤ 0xbf
  else if lead == 0xf4 then 0x80 ≤ second && second ≤ 0x8f
  else isContinuation second

def bits (b : UInt8) (mask : UInt8) : Nat := (b &&& mask).toNat

/-- The first character of a byte sequence and the number of bytes it takes. -/
def first? : List UInt8 → Option (Char × Nat)
  | [] => none
  | a :: rest =>
    if a < 0x80 then some (Char.ofNat a.toNat, 1)
    else if 0xc2 ≤ a && a ≤ 0xdf then
      match rest with
      | b :: _ =>
        if isContinuation b then some (Char.ofNat (bits a 0x1f * 64 + bits b 0x3f), 2) else none
      | [] => none
    else if 0xe0 ≤ a && a ≤ 0xef then
      match rest with
      | b :: c :: _ =>
        if secondByteOk a b && isContinuation c then
          some (Char.ofNat (bits a 0x0f * 4096 + bits b 0x3f * 64 + bits c 0x3f), 3)
        else none
      | _ => none
    else if 0xf0 ≤ a && a ≤ 0xf4 then
      match rest with
      | b :: c :: d :: _ =>
        if secondByteOk a b && isContinuation c && isContinuation d then
          some (Char.ofNat
            (bits a 0x07 * 262144 + bits b 0x3f * 4096 + bits c 0x3f * 64 + bits d 0x3f), 4)
        else none
      | _ => none
    else none

theorem first?_width_pos {bytes : List UInt8} {c : Char} {n : Nat}
    (h : first? bytes = some (c, n)) : 0 < n ∧ bytes ≠ [] := by
  unfold first? at h
  split at h
  · simp at h
  · refine ⟨?_, by simp⟩
    repeat' split at h
    all_goals first
      | (simp only [Option.some.injEq, Prod.mk.injEq] at h; omega)
      | simp at h

/-- Reads characters until the end or the first ill-formed place, which `seen` counts up to. -/
def decodeFrom (bytes : List UInt8) (seen : Nat) (text : List Char) : Except Nat (List Char) :=
  match _hit : first? bytes with
  | some (c, n) => decodeFrom (bytes.drop n) (seen + n) (c :: text)
  | none => if bytes.isEmpty then .ok text.reverse else .error seen
termination_by bytes.length
decreasing_by
  have width := first?_width_pos _hit
  have := List.length_pos_iff.2 width.2
  simp only [List.length_drop]
  omega

/-- The text of well-formed bytes, or the length of their longest well-formed beginning. -/
def decode (bytes : List UInt8) : Except Nat String :=
  (decodeFrom bytes 0 []).map String.ofList

end GuestBridge.Text.Utf8
