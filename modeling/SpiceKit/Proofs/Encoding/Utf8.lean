import SpiceKit.Disk.Text

/-!
# Encoded text is read back

The bytes of a character are the piece that stands for it, whatever follows them: the lead byte says
how many bytes are owed, and each of these is in the range that is asked for. So **decoding gives
back what was encoded** (`Utf8.decode_encode`).

The other way round, a piece that is read as a character is made of the bytes of that character,
since each lead byte admits only those values that need as many bytes as it asks for. Hence **bytes
can be decoded exactly when they encode a text** (`Utf8.decode_eq_ok_iff`).

Reading a text file unifies its line ends besides. A text that has been read holds no carriage
return, and unifying its line ends once more changes nothing (`Disk.textOfBytes_encode`).
-/

set_option autoImplicit false

namespace SpiceKit
namespace Utf8

/-! ## Characters -/

theorem toNat_toUInt8 {n : Nat} (h : n < 256) : n.toUInt8.toNat = n := by
  simp [Nat.toUInt8, UInt8.toNat_ofNat', Nat.mod_eq_of_lt h]

theorem readTail_zero (taken : List UInt8) (value least greatest : Nat) (bytes : List UInt8) :
    readTail taken value 0 least greatest bytes = .char (Char.ofNat value) := by
  cases bytes <;> rfl

theorem readTail_succ {n least greatest : Nat} (hleast : least ≤ n) (hgreatest : n ≤ greatest)
    (hbyte : n < 256) (taken : List UInt8) (value owed : Nat) (bytes : List UInt8) :
    readTail taken value (owed + 1) least greatest (n.toUInt8 :: bytes) =
      readTail (n.toUInt8 :: taken) (value * 64 + (n - 0x80)) owed 0x80 0xBF bytes := by
  rw [readTail, toNat_toUInt8 hbyte, if_pos ⟨hleast, hgreatest⟩]

theorem readPiece_of_tail? {lead count least greatest : Nat} (hlead : 0x80 ≤ lead)
    (hbyte : lead < 256) (htail : tail? lead = some ⟨count, least, greatest⟩) (rest : List UInt8) :
    readPiece lead.toUInt8 rest =
      readTail [lead.toUInt8] (leadBits lead count) count least greatest rest := by
  rw [readPiece, toNat_toUInt8 hbyte, if_neg (by omega), htail]

theorem toNat_char (c : Char) : c.toNat < 0xD800 ∨ 0xDFFF < c.toNat ∧ c.toNat < 0x110000 :=
  c.valid

/-- The lead byte of three admits the second one of every character: below 0x1000 that starts late,
and before the surrogates it ends early. -/
theorem exists_tail?_three {n : Nat} (hleast : 0x800 ≤ n) (hgreatest : n < 0x10000)
    (hvalid : n < 0xD800 ∨ 0xDFFF < n) : ∃ least greatest,
      tail? (0xE0 + n / 4096) = some ⟨2, least, greatest⟩ ∧
        least ≤ 0x80 + n / 64 % 64 ∧ 0x80 + n / 64 % 64 ≤ greatest := by
  unfold tail?
  by_cases hfirst : n / 4096 = 0
  · exact ⟨0xA0, 0xBF, by simp [hfirst], by omega, by omega⟩
  by_cases hsurrogate : n / 4096 = 13
  · exact ⟨0x80, 0x9F, by simp [hsurrogate], by omega, by omega⟩
  · refine ⟨0x80, 0xBF, ?_, by omega, by omega⟩
    rw [if_neg (by omega), if_neg (by omega), if_neg (by omega), if_neg (by omega),
      if_pos (by omega)]

/-- The lead byte of four admits the second one of every character: below 0x40000 that starts late,
and at the end of all code points it ends early. -/
theorem exists_tail?_four {n : Nat} (hleast : 0x10000 ≤ n) (hgreatest : n < 0x110000) :
    ∃ least greatest, tail? (0xF0 + n / 262144) = some ⟨3, least, greatest⟩ ∧
      least ≤ 0x80 + n / 4096 % 64 ∧ 0x80 + n / 4096 % 64 ≤ greatest := by
  unfold tail?
  by_cases hfirst : n / 262144 = 0
  · exact ⟨0x90, 0xBF, by simp [hfirst], by omega, by omega⟩
  by_cases hlast : n / 262144 = 4
  · exact ⟨0x80, 0x8F, by simp [hlast], by omega, by omega⟩
  · refine ⟨0x80, 0xBF, ?_, by omega, by omega⟩
    rw [if_neg (by omega), if_neg (by omega), if_neg (by omega), if_neg (by omega),
      if_neg (by omega), if_neg (by omega), if_pos (by omega)]

/-- **The bytes of a character are read as that character.** `pieces_encode` repeats it along a
text. -/
theorem exists_readPiece (c : Char) (rest : List UInt8) :
    ∃ lead tail, encodeChar c = lead :: tail ∧ readPiece lead (tail ++ rest) = .char c := by
  have hvalid := toNat_char c
  have hc : Char.ofNat c.toNat = c := Char.ofNat_toNat c
  unfold encodeChar
  generalize c.toNat = n at hvalid hc
  -- One case per number of bytes. In each the bits that are read add up to `n` again.
  by_cases h1 : n < 0x80
  · refine ⟨_, _, if_pos h1, ?_⟩
    rw [readPiece, toNat_toUInt8 (by omega), if_pos h1, hc]
  by_cases h2 : n < 0x800
  · refine ⟨_, _, by rw [if_neg h1, if_pos h2], ?_⟩
    have htail : tail? (0xC0 + n / 64) = some ⟨1, 0x80, 0xBF⟩ := by
      rw [tail?, if_neg (by omega), if_pos (by omega)]
    rw [readPiece_of_tail? (by omega) (by omega) htail, List.cons_append,
      readTail_succ (by omega) (by omega) (by omega), readTail_zero, leadBits, if_pos rfl]
    rw [show (0xC0 + n / 64 - 0xC0) * 64 + (0x80 + n % 64 - 0x80) = n by omega, hc]
  by_cases h3 : n < 0x10000
  · refine ⟨_, _, by rw [if_neg h1, if_neg h2, if_pos h3], ?_⟩
    obtain ⟨least, greatest, htail, hleast, hgreatest⟩ :=
      exists_tail?_three (by omega) h3 (by omega)
    rw [readPiece_of_tail? (by omega) (by omega) htail, List.cons_append, List.cons_append,
      readTail_succ hleast hgreatest (by omega), readTail_succ (by omega) (by omega) (by omega),
      readTail_zero, leadBits, if_neg (by decide), if_pos rfl]
    rw [show ((0xE0 + n / 4096 - 0xE0) * 64 + (0x80 + n / 64 % 64 - 0x80)) * 64 +
      (0x80 + n % 64 - 0x80) = n by omega, hc]
  · refine ⟨_, _, by rw [if_neg h1, if_neg h2, if_neg h3], ?_⟩
    obtain ⟨least, greatest, htail, hleast, hgreatest⟩ :=
      exists_tail?_four (n := n) (by omega) (by omega)
    rw [readPiece_of_tail? (by omega) (by omega) htail, List.cons_append, List.cons_append,
      List.cons_append, readTail_succ hleast hgreatest (by omega),
      readTail_succ (by omega) (by omega) (by omega), readTail_succ (by omega) (by omega) (by omega),
      readTail_zero, leadBits, if_neg (by decide), if_neg (by decide)]
    rw [show (((0xF0 + n / 262144 - 0xF0) * 64 + (0x80 + n / 4096 % 64 - 0x80)) * 64 +
      (0x80 + n / 64 % 64 - 0x80)) * 64 + (0x80 + n % 64 - 0x80) = n by omega, hc]

/-! ## Texts -/

theorem encode_append (cs ds : List Char) : encode (cs ++ ds) = encode cs ++ encode ds :=
  List.flatMap_append

theorem length_encode_replicate (n : Nat) (c : Char) :
    (encode (List.replicate n c)).length = n * (encodeChar c).length := by
  simp [encode, List.flatMap_replicate]

theorem piecesFrom_length_append (taken rest : List UInt8) :
    piecesFrom taken.length (taken ++ rest) = piecesFrom 0 rest := by
  induction taken with
  | nil => rfl
  | cons b taken ih => exact ih

theorem pieces_encode (cs : List Char) : pieces (encode cs) = cs.map .char := by
  induction cs with
  | nil => rfl
  | cons c cs ih =>
    obtain ⟨lead, tail, hbytes, hpiece⟩ := exists_readPiece c (encode cs)
    have hencode : encode (c :: cs) = lead :: (tail ++ encode cs) := by
      rw [encode, List.flatMap_cons, hbytes]
      rfl
    have hsize : (Piece.char c).size - 1 = tail.length := by
      rw [Piece.size, hbytes]
      rfl
    rw [hencode, pieces, piecesFrom, hpiece, hsize, piecesFrom_length_append, List.map_cons]
    exact congrArg _ ih

theorem textOf_chars (offset : Nat) (cs : List Char) : textOf offset (cs.map .char) = .ok cs := by
  induction cs generalizing offset with
  | nil => rfl
  | cons c cs ih =>
    rw [List.map_cons, textOf, ih]
    rfl

/-- **Decoding gives back what was encoded.** With `encode_of_textOf` for the other direction this
gives `decode_eq_ok_iff`. -/
theorem decode_encode (cs : List Char) : decode (encode cs) = .ok cs := by
  rw [decode, pieces_encode, textOf_chars]

/-! ## What can be decoded -/

theorem toUInt8_eq_of_toNat {n : Nat} {b : UInt8} (h : n = b.toNat) : n.toUInt8 = b := by
  rw [h]
  exact UInt8.ofNat_toNat

theorem toNat_ofNat_of_valid {n : Nat} (h : n < 0xD800 ∨ 0xDFFF < n ∧ n < 0x110000) :
    (Char.ofNat n).toNat = n := by
  have hvalid : n.isValidChar := h
  rw [Char.ofNat, dif_pos hvalid]
  rfl

theorem readTail_succ_eq_char {taken : List UInt8} {value owed least greatest : Nat}
    {bytes : List UInt8} {c : Char}
    (h : readTail taken value (owed + 1) least greatest bytes = .char c) :
    ∃ b rest, bytes = b :: rest ∧ least ≤ b.toNat ∧ b.toNat ≤ greatest ∧
      readTail (b :: taken) (value * 64 + (b.toNat - 0x80)) owed 0x80 0xBF rest = .char c := by
  cases bytes with
  | nil => cases h
  | cons b rest =>
    rw [readTail] at h
    split at h
    · rename_i hrange
      exact ⟨b, rest, rfl, hrange.1, hrange.2, h⟩
    · cases h

theorem readTail_zero_eq_char {taken : List UInt8} {value least greatest : Nat} {bytes : List UInt8}
    {c : Char} (h : readTail taken value 0 least greatest bytes = .char c) : c = Char.ofNat value := by
  rw [readTail_zero] at h
  exact (Piece.char.inj h).symm

/-- The lead bytes that ask for a tail, by how many bytes they ask for. The ranges that the second
byte is bound to are part of each case. -/
theorem tail?_cases {lead count least greatest : Nat}
    (h : tail? lead = some ⟨count, least, greatest⟩) :
    (count = 1 ∧ 0xC2 ≤ lead ∧ lead < 0xE0 ∧ 0x80 ≤ least ∧ greatest ≤ 0xBF) ∨
    (count = 2 ∧ 0xE0 ≤ lead ∧ lead < 0xF0 ∧ 0x80 ≤ least ∧ greatest ≤ 0xBF ∧
      (lead = 0xE0 → least = 0xA0) ∧ (lead = 0xED → greatest = 0x9F)) ∨
    (count = 3 ∧ 0xF0 ≤ lead ∧ lead ≤ 0xF4 ∧ 0x80 ≤ least ∧ greatest ≤ 0xBF ∧
      (lead = 0xF0 → least = 0x90) ∧ (lead = 0xF4 → greatest = 0x8F)) := by
  unfold tail? at h
  repeat' split at h
  all_goals cases h
  all_goals omega

theorem encodeChar_eq_two {n : Nat} {b b₁ : UInt8} (hleast : 0x80 ≤ n) (hgreatest : n < 0x800)
    (h : 0xC0 + n / 64 = b.toNat) (h₁ : 0x80 + n % 64 = b₁.toNat) :
    encodeChar (Char.ofNat n) = [b, b₁] := by
  rw [encodeChar, toNat_ofNat_of_valid (by omega), if_neg (by omega), if_pos hgreatest,
    toUInt8_eq_of_toNat h, toUInt8_eq_of_toNat h₁]

theorem encodeChar_eq_three {n : Nat} {b b₁ b₂ : UInt8} (hleast : 0x800 ≤ n) (hgreatest : n < 0x10000)
    (hvalid : n < 0xD800 ∨ 0xDFFF < n) (h : 0xE0 + n / 4096 = b.toNat)
    (h₁ : 0x80 + n / 64 % 64 = b₁.toNat) (h₂ : 0x80 + n % 64 = b₂.toNat) :
    encodeChar (Char.ofNat n) = [b, b₁, b₂] := by
  rw [encodeChar, toNat_ofNat_of_valid (by omega), if_neg (by omega), if_neg (by omega),
    if_pos hgreatest, toUInt8_eq_of_toNat h, toUInt8_eq_of_toNat h₁, toUInt8_eq_of_toNat h₂]

theorem encodeChar_eq_four {n : Nat} {b b₁ b₂ b₃ : UInt8} (hleast : 0x10000 ≤ n)
    (hgreatest : n < 0x110000) (h : 0xF0 + n / 262144 = b.toNat)
    (h₁ : 0x80 + n / 4096 % 64 = b₁.toNat) (h₂ : 0x80 + n / 64 % 64 = b₂.toNat)
    (h₃ : 0x80 + n % 64 = b₃.toNat) : encodeChar (Char.ofNat n) = [b, b₁, b₂, b₃] := by
  rw [encodeChar, toNat_ofNat_of_valid (by omega), if_neg (by omega), if_neg (by omega),
    if_neg (by omega), toUInt8_eq_of_toNat h, toUInt8_eq_of_toNat h₁, toUInt8_eq_of_toNat h₂,
    toUInt8_eq_of_toNat h₃]

/-- **What is read as a character are its bytes.** Together with `exists_readPiece` it makes the two
directions of `decode_eq_ok_iff`; here the cases are the lead bytes of `tail?_cases`. -/
theorem encodeChar_of_readPiece {lead : UInt8} {bytes : List UInt8} {c : Char}
    (h : readPiece lead bytes = .char c) :
    ∃ tail rest, bytes = tail ++ rest ∧ encodeChar c = lead :: tail := by
  have hbyte := lead.toNat_lt
  unfold readPiece at h
  split at h
  · rename_i hlead
    obtain rfl := Piece.char.inj h
    refine ⟨[], bytes, rfl, ?_⟩
    rw [encodeChar, toNat_ofNat_of_valid (by omega), if_pos hlead, toUInt8_eq_of_toNat rfl]
  split at h
  · cases h
  rename_i tail htail
  obtain ⟨count, least, greatest⟩ := tail
  dsimp only at h
  rcases tail?_cases htail with ⟨hcount, hleast, hlead, hfirst, hlast⟩ |
    ⟨hcount, hleast, hlead, hfirst, hlast, hlow, hhigh⟩ |
    ⟨hcount, hleast, hlead, hfirst, hlast, hlow, hhigh⟩
  -- The ranges of the first two bytes leave only values that take as many bytes.
  all_goals subst hcount
  · obtain ⟨b₁, rest, rfl, hb₁, hb₁', h⟩ := readTail_succ_eq_char h
    have hc := readTail_zero_eq_char h
    rw [hc]
    refine ⟨[b₁], rest, rfl, ?_⟩
    have hbits : leadBits lead.toNat 1 = lead.toNat - 0xC0 := rfl
    apply encodeChar_eq_two <;> omega
  · obtain ⟨b₁, rest, rfl, hb₁, hb₁', h⟩ := readTail_succ_eq_char h
    obtain ⟨b₂, rest, rfl, hb₂, hb₂', h⟩ := readTail_succ_eq_char h
    have hc := readTail_zero_eq_char h
    rw [hc]
    refine ⟨[b₁, b₂], rest, rfl, ?_⟩
    have hbits : leadBits lead.toNat 2 = lead.toNat - 0xE0 := rfl
    apply encodeChar_eq_three <;> omega
  · obtain ⟨b₁, rest, rfl, hb₁, hb₁', h⟩ := readTail_succ_eq_char h
    obtain ⟨b₂, rest, rfl, hb₂, hb₂', h⟩ := readTail_succ_eq_char h
    obtain ⟨b₃, rest, rfl, hb₃, hb₃', h⟩ := readTail_succ_eq_char h
    have hc := readTail_zero_eq_char h
    rw [hc]
    refine ⟨[b₁, b₂, b₃], rest, rfl, ?_⟩
    have hbits : leadBits lead.toNat 3 = lead.toNat - 0xF0 := rfl
    apply encodeChar_eq_four <;> omega

theorem exists_char_of_textOf {offset : Nat} {piece : Piece} {rest : List Piece} {text : List Char}
    (h : textOf offset (piece :: rest) = .ok text) :
    ∃ c cs offset', piece = .char c ∧ text = c :: cs ∧ textOf offset' rest = .ok cs := by
  cases piece with
  | invalid bytes reason => cases h
  | char c =>
    rw [textOf] at h
    cases hrest : textOf (offset + (encodeChar c).length) rest with
    | error fault => simp [hrest, Except.map] at h
    | ok cs =>
      obtain rfl : c :: cs = text := by simpa [hrest, Except.map] using h
      exact ⟨c, cs, _, rfl, rfl, hrest⟩

theorem encode_of_textOf {offset : Nat} (bytes : List UInt8) {text : List Char}
    (h : textOf offset (pieces bytes) = .ok text) : encode text = bytes := by
  cases bytes with
  | nil =>
    obtain rfl := Except.ok.inj h
    rfl
  | cons lead bytes =>
    rw [pieces, piecesFrom] at h
    obtain ⟨c, cs, offset', hpiece, rfl, hrest⟩ := exists_char_of_textOf h
    obtain ⟨tail, rest, rfl, hbytes⟩ := encodeChar_of_readPiece hpiece
    have hsize : (Piece.char c).size - 1 = tail.length := by
      rw [Piece.size, hbytes]
      rfl
    rw [hpiece, hsize, piecesFrom_length_append] at hrest
    rw [encode, List.flatMap_cons, hbytes, List.cons_append]
    exact congrArg (fun rest => lead :: (tail ++ rest)) (encode_of_textOf rest hrest)
termination_by bytes.length

/-- **Bytes can be decoded exactly when they encode a text**, and then to that text. So `encode` and
`decode` determine each other, and the standard of the library is met by the one if it is by the
other. -/
theorem decode_eq_ok_iff {bytes : List UInt8} {text : List Char} :
    decode bytes = .ok text ↔ encode text = bytes := by
  constructor
  · exact encode_of_textOf bytes
  · rintro rfl
    exact decode_encode text

end Utf8

namespace Text

theorem return_not_mem_unifyNewlines (cs : List Char) : '\r' ∉ unifyNewlines cs := by
  fun_induction unifyNewlines cs with
  | case1 => simp
  | case2 cs ih => simp [ih]
  | case3 cs _ ih => simp [ih]
  | case4 c cs _ hreturn ih =>
    intro hmem
    rcases List.mem_cons.mp hmem with heq | hmem
    · exact hreturn heq.symm
    · exact ih hmem

theorem unifyNewlines_of_not_mem {cs : List Char} (h : '\r' ∉ cs) : unifyNewlines cs = cs := by
  fun_induction unifyNewlines cs with
  | case1 => rfl
  | case2 cs ih => simp at h
  | case3 cs _ ih => simp at h
  | case4 c cs _ _ ih => rw [ih fun hmem => h (List.mem_cons_of_mem _ hmem)]

end Text

namespace Disk

theorem textOfBytes_encode {bytes : List UInt8} {text : List Char}
    (h : textOfBytes bytes = .ok text) : textOfBytes (Utf8.encode text) = .ok text := by
  unfold textOfBytes at h ⊢
  obtain ⟨raw, -, rfl⟩ : ∃ raw, Utf8.decode bytes = .ok raw ∧ Text.unifyNewlines raw = text := by
    cases hdecode : Utf8.decode bytes with
    | error fault => simp [hdecode, Except.map] at h
    | ok raw => exact ⟨raw, rfl, by simpa [hdecode, Except.map] using h⟩
  rw [Utf8.decode_encode, Except.map,
    Text.unifyNewlines_of_not_mem (Text.return_not_mem_unifyNewlines raw)]

theorem textOfBytes_encode_of_not_mem {text : List Char} (h : '\r' ∉ text) :
    textOfBytes (Utf8.encode text) = .ok text := by
  rw [textOfBytes, Utf8.decode_encode, Except.map, Text.unifyNewlines_of_not_mem h]

end Disk
end SpiceKit
