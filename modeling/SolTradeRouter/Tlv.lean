import SolTradeRouter.Bytes

/-!
# Streams of type-length-value entries

An entry is a two-byte type, a two-byte length and a value of that length. A
stream is a sequence of entries, up to an entry of type zero or to the last
few bytes that are too short for a header. The types and values that a reader
admits are a parameter.

A header determines the split of the bytes behind it. So a stream has one
reading: an admitted stream carries only admitted entries, whichever way its
entries are found.
-/

namespace Tlv

open Bytes

variable {Allowed : UInt16 → List UInt8 → Prop} {kind kind' : UInt16}
  {value value' rest rest' bytes : List UInt8}

/-- An entry, header first. -/
def entry (kind : UInt16) (value : List UInt8) : List UInt8 :=
  ofUInt16 kind ++ ofUInt16 (UInt16.ofNat value.length) ++ value

/-- **The streams of admitted entries.** -/
inductive Stream (Allowed : UInt16 → List UInt8 → Prop) : List UInt8 → Prop
  | trailing {bytes : List UInt8} (hshort : bytes.length < 4) : Stream Allowed bytes
  | stop (len : UInt16) (rest : List UInt8) :
    Stream Allowed (ofUInt16 0 ++ ofUInt16 len ++ rest)
  | entry {kind : UInt16} {value rest : List UInt8} (hkind : kind ≠ 0)
    (hlen : value.length < 2 ^ 16) (hallowed : Allowed kind value)
    (hrest : Stream Allowed rest) : Stream Allowed (entry kind value ++ rest)

/-- **A stream carries an entry** when it stands before the end. -/
inductive Carries (kind : UInt16) (value : List UInt8) : List UInt8 → Prop
  | head (rest : List UInt8) (hkind : kind ≠ 0) (hlen : value.length < 2 ^ 16) :
    Carries kind value (entry kind value ++ rest)
  | tail {kind' : UInt16} {value' rest : List UInt8} (hkind : kind' ≠ 0)
    (hlen : value'.length < 2 ^ 16) (hrest : Carries kind value rest) :
    Carries kind value (entry kind' value' ++ rest)

/-! ## The first header -/

/-- The kind a header gives. -/
def kindOf (bytes : List UInt8) : UInt16 := toUInt16 (bytes.take 2)

/-- The length it gives. -/
def lenOf (bytes : List UInt8) : ℕ := (toUInt16 ((bytes.drop 2).take 2)).toNat

/-- The bytes of that length after it. -/
def valueOf (bytes : List UInt8) : List UInt8 := (bytes.drop 4).take (lenOf bytes)

/-- And what comes after those. -/
def restOf (bytes : List UInt8) : List UInt8 := bytes.drop (4 + lenOf bytes)

/-- A length has sixteen bits. -/
theorem lenOf_lt (bytes : List UInt8) : lenOf bytes < 2 ^ 16 := UInt16.toNat_lt _

/-- A value is as long as its header says, if the bytes are there. -/
theorem length_valueOf (h : 4 + lenOf bytes ≤ bytes.length) :
    (valueOf bytes).length = lenOf bytes := by
  rw [valueOf, List.length_take, List.length_drop]
  omega

/-- An entry is its header and its value. -/
@[simp] theorem length_entry : (entry kind value).length = 4 + value.length := by
  simp only [entry, List.length_append, length_ofUInt16]

/-- The two numbers of a header, in front of anything. -/
theorem kindOf_header (len : UInt16) : kindOf (ofUInt16 kind ++ ofUInt16 len ++ rest) = kind := by
  rw [kindOf, List.append_assoc, List.take_left' (length_ofUInt16 kind), toUInt16_ofUInt16]

/-- Its length is read back in front of anything, too. -/
theorem lenOf_header (len : UInt16) :
    lenOf (ofUInt16 kind ++ ofUInt16 len ++ rest) = len.toNat := by
  rw [lenOf, List.append_assoc, List.drop_left' (length_ofUInt16 kind),
    List.take_left' (length_ofUInt16 len), toUInt16_ofUInt16]

/-- An entry's kind is the one it was written with. -/
theorem kindOf_entry : kindOf (entry kind value ++ rest) = kind := by
  rw [entry, List.append_assoc, kindOf_header]

/-- Its length is that of its value, if that fits a header. -/
theorem lenOf_entry (hlen : value.length < 2 ^ 16) :
    lenOf (entry kind value ++ rest) = value.length := by
  rw [entry, List.append_assoc, lenOf_header]
  exact UInt16.toNat_ofNat_of_lt' hlen

/-- Its value is what was written. -/
theorem valueOf_entry (hlen : value.length < 2 ^ 16) :
    valueOf (entry kind value ++ rest) = value := by
  have hheader : (ofUInt16 kind ++ ofUInt16 (UInt16.ofNat value.length)).length = 4 := by
    simp only [List.length_append, length_ofUInt16]
  rw [valueOf, lenOf_entry hlen, entry, List.append_assoc, List.drop_left' hheader,
    List.take_left]

/-- And what follows is untouched. -/
theorem restOf_entry (hlen : value.length < 2 ^ 16) :
    restOf (entry kind value ++ rest) = rest := by
  rw [restOf, lenOf_entry hlen, List.drop_left' length_entry]

/-- **A header that fits splits the bytes.** -/
theorem entry_append (h : 4 + lenOf bytes ≤ bytes.length) :
    entry (kindOf bytes) (valueOf bytes) ++ restOf bytes = bytes := by
  have hkind : ofUInt16 (kindOf bytes) = bytes.take 2 :=
    ofUInt16_toUInt16 (by rw [List.length_take]; omega)
  have hlen : ofUInt16 (UInt16.ofNat (valueOf bytes).length) = (bytes.drop 2).take 2 := by
    rw [length_valueOf h, lenOf, UInt16.ofNat_toNat]
    exact ofUInt16_toUInt16 (by rw [List.length_take, List.length_drop]; omega)
  rw [entry, hkind, hlen, valueOf, restOf, ← List.drop_drop, List.append_assoc,
    List.take_append_drop, List.append_assoc, ← List.drop_drop (i := 2) (j := 2),
    List.take_append_drop, List.take_append_drop]

/-! ## One reading -/

/-- **A stream with a header, by that header.** -/
theorem stream_iff (h : 4 ≤ bytes.length) : Stream Allowed bytes ↔ kindOf bytes = 0
    ∨ (kindOf bytes ≠ 0 ∧ 4 + lenOf bytes ≤ bytes.length
      ∧ Allowed (kindOf bytes) (valueOf bytes) ∧ Stream Allowed (restOf bytes)) := by
  constructor
  · intro hstream
    cases hstream with
    | trailing hshort => omega
    | stop len rest => exact .inl (kindOf_header len)
    | entry hkind hlen hallowed hrest =>
      rw [kindOf_entry, lenOf_entry hlen, valueOf_entry hlen, restOf_entry hlen]
      refine .inr ⟨hkind, ?_, hallowed, hrest⟩
      rw [List.length_append, length_entry]
      omega
  · rintro (hzero | ⟨hkind, hfits, hallowed, hrest⟩)
    · have hbytes : bytes = ofUInt16 0 ++ ofUInt16 (toUInt16 ((bytes.drop 2).take 2))
          ++ bytes.drop 4 := by
        rw [← hzero, kindOf, ofUInt16_toUInt16 (by rw [List.length_take]; omega),
          ofUInt16_toUInt16 (by rw [List.length_take, List.length_drop]; omega),
          List.append_assoc, ← List.drop_drop (i := 2) (j := 2), List.take_append_drop,
          List.take_append_drop]
      rw [hbytes]
      exact .stop _ _
    · rw [← entry_append hfits]
      refine .entry hkind ?_ hallowed hrest
      rw [length_valueOf hfits]
      exact lenOf_lt bytes

/-- **An admitted stream carries admitted entries only.** -/
theorem Stream.allowed (h : Stream Allowed bytes) (hcarries : Carries kind value bytes) :
    Allowed kind value := by
  induction hcarries with
  | head rest hkind hlen =>
    have hlong : 4 ≤ (Tlv.entry kind value ++ rest).length := by
      rw [List.length_append, length_entry]
      omega
    have hread := (stream_iff hlong).mp h
    rw [kindOf_entry, valueOf_entry hlen] at hread
    exact (hread.resolve_left hkind).2.2.1
  | tail hkind hlen _ ih =>
    rename_i kind' value' rest _
    have hlong : 4 ≤ (Tlv.entry kind' value' ++ rest).length := by
      rw [List.length_append, length_entry]
      omega
    have hread := (stream_iff hlong).mp h
    rw [kindOf_entry, restOf_entry hlen] at hread
    exact ih (hread.resolve_left hkind).2.2.2

end Tlv
