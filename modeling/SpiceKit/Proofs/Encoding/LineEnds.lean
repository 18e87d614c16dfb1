import SpiceKit.Proofs.Encoding.Utf8

/-!
# Line ends in bytes

A file is judged here by its bytes alone. Which bytes are text is a question with an answer outside
this library, the `ByteArray.IsValidUTF8` of the standard one, and **decoding succeeds exactly on
those** (`Utf8.exists_decode_iff_isValidUTF8`).

`Utf8.unifyReturns` replaces line ends byte by byte, and knows nothing of characters. That it may do
so is the merit of the encoding: a byte below `0x80` is never a part of a longer character
(`Utf8.toNat_eq_of_mem_encodeChar`). So **unifying the line ends of a text and then encoding it is
the same as replacing bytes** (`Utf8.encode_unifyNewlines`), and no other byte is touched.
-/

set_option autoImplicit false

namespace SpiceKit
namespace Utf8

/-! ## Which bytes are text -/

/-- The bytes of a character are those of the standard library. So `Utf8.encode` is compared with
the library once, one character at a time. -/
theorem encodeChar_eq_utf8EncodeChar (c : Char) : encodeChar c = String.utf8EncodeChar c := by
  have hvalid := toNat_char c
  have hval : c.val.toNat = c.toNat := rfl
  unfold encodeChar String.utf8EncodeChar
  simp only [Nat.toUInt8, hval]
  -- The same four lengths; the sums are the other way round, and the lead byte is not cut, since its
  -- length leaves nothing to cut.
  by_cases h₁ : c.toNat < 0x80
  · rw [if_pos h₁, if_pos (by omega)]
  by_cases h₂ : c.toNat < 0x800
  · have hlead : c.toNat / 64 % 32 = c.toNat / 64 := Nat.mod_eq_of_lt (by omega)
    rw [if_neg h₁, if_pos h₂, if_neg (by omega), if_pos (by omega), hlead]
    simp only [Nat.add_comm]
  by_cases h₃ : c.toNat < 0x10000
  · have hlead : c.toNat / 4096 % 16 = c.toNat / 4096 := Nat.mod_eq_of_lt (by omega)
    rw [if_neg h₁, if_neg h₂, if_pos h₃, if_neg (by omega), if_neg (by omega), if_pos (by omega),
      hlead]
    simp only [Nat.add_comm]
  · have hlead : c.toNat / 262144 % 8 = c.toNat / 262144 := Nat.mod_eq_of_lt (by omega)
    rw [if_neg h₁, if_neg h₂, if_neg h₃, if_neg (by omega), if_neg (by omega), if_neg (by omega),
      hlead]
    simp only [Nat.add_comm]

theorem toByteArray_encode (text : List Char) : (encode text).toByteArray = text.utf8Encode := by
  have hchars : encodeChar = String.utf8EncodeChar := funext encodeChar_eq_utf8EncodeChar
  rw [encode, hchars, List.utf8Encode]

/-- **Bytes can be decoded exactly when they are valid by the standard library.** `Utf8.decode` is a
machine of its own, so this holds it to a definition that nobody here has written. -/
theorem exists_decode_iff_isValidUTF8 {bytes : List UInt8} :
    (∃ text, decode bytes = .ok text) ↔ bytes.toByteArray.IsValidUTF8 := by
  constructor
  · rintro ⟨text, htext⟩
    refine ⟨text, ?_⟩
    rw [← toByteArray_encode, decode_eq_ok_iff.mp htext]
  · rintro ⟨text, hbytes⟩
    refine ⟨text, decode_eq_ok_iff.mpr ?_⟩
    rw [← toByteArray_encode, List.toByteArray_inj] at hbytes
    exact hbytes.symm

/-! ## Replacing bytes -/

def dropPairedReturns : List UInt8 → List UInt8
  | [] => []
  | b :: bytes =>
    if b = 0x0D ∧ bytes.head? = some 0x0A then dropPairedReturns bytes
    else b :: dropPairedReturns bytes

/-- The bytes with one line feed for each carriage return and line feed, and for each carriage
return that is left. It speaks of bytes alone; `encode_unifyNewlines` says that it does to the bytes
what `Text.unifyNewlines` does to the text. -/
def unifyReturns (bytes : List UInt8) : List UInt8 :=
  (dropPairedReturns bytes).map fun b => if b = 0x0D then 0x0A else b

theorem dropPairedReturns_of_not_mem {a : List UInt8} (h : 0x0D ∉ a) (bytes : List UInt8) :
    dropPairedReturns (a ++ bytes) = a ++ dropPairedReturns bytes := by
  induction a with
  | nil => rfl
  | cons b a ih =>
    rw [List.mem_cons, not_or] at h
    rw [List.cons_append, dropPairedReturns, if_neg fun hpair => h.1 hpair.1.symm, ih h.2,
      List.cons_append]

theorem unifyReturns_append_of_not_mem {a : List UInt8} (h : 0x0D ∉ a) (bytes : List UInt8) :
    unifyReturns (a ++ bytes) = a ++ unifyReturns bytes := by
  have hkept : (a.map fun b => if b = 0x0D then 0x0A else b) = a := by
    refine (List.map_congr_left fun b hb => if_neg ?_).trans (List.map_id' a)
    rintro rfl
    exact h hb
  rw [unifyReturns, dropPairedReturns_of_not_mem h, List.map_append, hkept, unifyReturns]

theorem unifyReturns_pair (bytes : List UInt8) :
    unifyReturns (0x0D :: 0x0A :: bytes) = 0x0A :: unifyReturns bytes := by
  simp [unifyReturns, dropPairedReturns]

theorem unifyReturns_lone {bytes : List UInt8} (h : bytes.head? ≠ some 0x0A) :
    unifyReturns (0x0D :: bytes) = 0x0A :: unifyReturns bytes := by
  simp [unifyReturns, dropPairedReturns, h]

theorem return_not_mem_unifyReturns (bytes : List UInt8) : 0x0D ∉ unifyReturns bytes := by
  intro hmem
  obtain ⟨b, -, hb⟩ := List.mem_map.mp hmem
  split at hb
  · cases hb
  · rename_i hne
    exact hne hb

/-- Bytes are left as they are exactly when there is no carriage return among them. A text that was
written without any comes back byte by byte. -/
theorem unifyReturns_eq_self_iff {bytes : List UInt8} :
    unifyReturns bytes = bytes ↔ 0x0D ∉ bytes := by
  constructor
  · intro hsame
    rw [← hsame]
    exact return_not_mem_unifyReturns bytes
  · intro hnone
    have happend := unifyReturns_append_of_not_mem hnone []
    rwa [List.append_nil, show unifyReturns [] = [] from rfl, List.append_nil] at happend

/-! ## Bytes and characters -/

theorem encodeChar_of_lt {c : Char} (h : c.toNat < 0x80) : encodeChar c = [c.toNat.toUInt8] := by
  rw [encodeChar, if_pos h]

theorem le_of_mem_encodeChar {c : Char} {b : UInt8} (hc : 0x80 ≤ c.toNat) (h : b ∈ encodeChar c) :
    0x80 ≤ b.toNat := by
  have hvalid := toNat_char c
  rw [encodeChar, if_neg (by omega)] at h
  split at h
  · simp only [List.mem_cons, List.not_mem_nil, or_false] at h
    rcases h with rfl | rfl
    all_goals rw [toNat_toUInt8 (by omega)]; omega
  · split at h
    · simp only [List.mem_cons, List.not_mem_nil, or_false] at h
      rcases h with rfl | rfl | rfl
      all_goals rw [toNat_toUInt8 (by omega)]; omega
    · simp only [List.mem_cons, List.not_mem_nil, or_false] at h
      rcases h with rfl | rfl | rfl | rfl
      all_goals rw [toNat_toUInt8 (by omega)]; omega

/-- **A byte below `0x80` is a character of its own.** -/
theorem toNat_eq_of_mem_encodeChar {c : Char} {b : UInt8} (h : b ∈ encodeChar c)
    (hlow : b.toNat < 0x80) : c.toNat = b.toNat := by
  by_cases hc : c.toNat < 0x80
  · rw [encodeChar_of_lt hc, List.mem_singleton] at h
    rw [h, toNat_toUInt8 (by omega)]
  · have := le_of_mem_encodeChar (by omega) h
    omega

theorem return_not_mem_encodeChar {c : Char} (h : c ≠ '\r') : 0x0D ∉ encodeChar c :=
  fun hmem => h (Char.toNat_inj.mp (toNat_eq_of_mem_encodeChar hmem (by decide)))

theorem encode_cons (c : Char) (cs : List Char) : encode (c :: cs) = encodeChar c ++ encode cs :=
  List.flatMap_cons

theorem head?_encode_ne {cs : List Char} (h : cs.head? ≠ some '\n') :
    (encode cs).head? ≠ some 0x0A := by
  cases cs with
  | nil => exact nofun
  | cons c cs =>
    obtain ⟨lead, tail, hbytes, -⟩ := exists_readPiece c []
    rw [encode_cons, hbytes, List.cons_append, List.head?_cons]
    intro hlead
    have hmem : 0x0A ∈ encodeChar c := by
      rw [hbytes, Option.some.inj hlead]
      exact List.mem_cons_self
    exact h (congrArg some (Char.toNat_inj.mp (toNat_eq_of_mem_encodeChar hmem (by decide))))

/-- **Unifying the line ends of a text is replacing bytes.** `unifyReturns` does to bytes what
`Text.unifyNewlines` does to characters; that the two commute is what lets `load_and_save` speak of
bytes. -/
theorem encode_unifyNewlines (cs : List Char) :
    encode (Text.unifyNewlines cs) = unifyReturns (encode cs) := by
  fun_induction Text.unifyNewlines cs with
  | case1 => rfl
  | case2 cs ih =>
    have hpair : encode ('\r' :: '\n' :: cs) = 0x0D :: 0x0A :: encode cs := rfl
    rw [hpair, unifyReturns_pair, ← ih]
    rfl
  | case3 cs hlone ih =>
    have hreturn : encode ('\r' :: cs) = 0x0D :: encode cs := rfl
    have hhead : cs.head? ≠ some '\n' := fun hhead => by
      obtain ⟨rest, hrest⟩ := List.head?_eq_some_iff.mp hhead
      exact hlone rest hrest
    rw [hreturn, unifyReturns_lone (head?_encode_ne hhead), ← ih]
    rfl
  | case4 c cs _ hc ih =>
    rw [encode_cons, encode_cons, ih, unifyReturns_append_of_not_mem (return_not_mem_encodeChar hc)]

end Utf8

namespace Disk

theorem exists_textOfBytes_iff {bytes : List UInt8} :
    (∃ text, textOfBytes bytes = .ok text) ↔ bytes.toByteArray.IsValidUTF8 := by
  rw [← Utf8.exists_decode_iff_isValidUTF8]
  unfold textOfBytes
  cases Utf8.decode bytes with
  | error fault => simp [Except.map]
  | ok raw => simp [Except.map]

/-- **What is read of a file is written back as its bytes with other line ends.** The two sides are
`encode_unifyNewlines` behind a decoding. -/
theorem encode_of_textOfBytes {bytes : List UInt8} {text : List Char}
    (h : textOfBytes bytes = .ok text) : Utf8.encode text = Utf8.unifyReturns bytes := by
  unfold textOfBytes at h
  cases hraw : Utf8.decode bytes with
  | error fault => simp [hraw, Except.map] at h
  | ok raw =>
    obtain rfl : Text.unifyNewlines raw = text := by simpa [hraw, Except.map] using h
    rw [Utf8.encode_unifyNewlines, Utf8.decode_eq_ok_iff.mp hraw]

end Disk
end SpiceKit
