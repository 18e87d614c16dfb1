import Mathlib.Data.List.Chain
import Mathlib.Tactic.SplitIfs
import SpiceKit.Json.Reader
import SpiceKit.Json.Writer

/-!
# Strings are read as they are written

An escape of four digits stands for a code unit, and a character beyond the basic plane is written
as two of them. Joining the units again takes two halves that meet for one character. A text in
which no first half stands before a second half is `Joined`; **every text that is read is joined**
(`Json.joined_of_readString`), and **every joined text is read as it was written**
(`Json.readString_writeString`).
-/

set_option autoImplicit false

namespace SpiceKit

namespace Text

theorem hexValue?_digitChar : ∀ digit < 16, hexValue? (Nat.digitChar digit) = some digit := by
  decide

end Text

namespace CodePoint

def IsFirst : CodePoint → Prop
  | .char _ => False
  | .half index => index.val < 1024

def IsSecond : CodePoint → Prop
  | .char _ => False
  | .half index => 1024 ≤ index.val

def units : CodePoint → List Nat
  | .char c =>
    if c.toNat < 0x10000 then [c.toNat]
    else [0xD800 + (c.toNat - 0x10000) / 1024, 0xDC00 + (c.toNat - 0x10000) % 1024]
  | .half index => [(CodePoint.half index).toNat]

theorem char_valid (c : Char) : c.toNat < 0xD800 ∨ 0xDFFF < c.toNat ∧ c.toNat < 0x110000 := c.valid

theorem ofNat_toNat (point : CodePoint) : ofNat point.toNat = point := by
  cases point with
  | char c =>
    have hvalid := char_valid c
    rw [toNat, ofNat, dif_neg (by unfold firstHalf; omega), Char.ofNat_toNat]
  | half index =>
    have hlt := index.isLt
    rw [toNat, ofNat, dif_pos ⟨Nat.le_add_right _ _, by omega⟩]
    exact congrArg half (Fin.ext (Nat.add_sub_cancel_left _ _))

theorem isFirst_ofNat_iff {n : Nat} : (ofNat n).IsFirst ↔ Json.isHighSurrogate n = true := by
  simp only [Json.isHighSurrogate, Bool.and_eq_true, decide_eq_true_eq]
  unfold ofNat firstHalf
  split
  · simp only [IsFirst]
    omega
  · simp only [IsFirst, false_iff]
    omega

theorem isSecond_ofNat_iff {n : Nat} : (ofNat n).IsSecond ↔ Json.isLowSurrogate n = true := by
  simp only [Json.isLowSurrogate, Bool.and_eq_true, decide_eq_true_eq]
  unfold ofNat firstHalf
  split
  · simp only [IsSecond]
    omega
  · simp only [IsSecond, false_iff]
    omega

end CodePoint

namespace WideText

/-- No first half of a surrogate pair stands right before a second half. Two that meet are read as
one character, so such a text could not be read as it was written; every text that was read is
joined (`joined_of_readString`). -/
def Joined (text : WideText) : Prop :=
  text.points.IsChain fun point next => ¬ (point.IsFirst ∧ next.IsSecond)

theorem joined_ofString (text : String) : (ofString text).Joined := by
  unfold Joined ofString
  induction text.toList with
  | nil => exact .nil
  | cons c cs ih =>
    rw [List.map_cons, List.isChain_cons]
    exact ⟨fun _ _ hpair => hpair.1, ih⟩

end WideText

namespace Json

open CodePoint (ofNat)

/-! ## Joining code units -/

theorem joinUnits_cons {unit : Nat} {units : List Nat}
    (h : ∀ next ∈ units.head?, ¬ (isHighSurrogate unit = true ∧ isLowSurrogate next = true)) :
    joinUnits (unit :: units) = ofNat unit :: joinUnits units := by
  cases units with
  | nil => rfl
  | cons next units =>
    rw [joinUnits, if_neg]
    rw [Bool.and_eq_true]
    exact h next rfl

/-- The first of joined units is the first unit, unless it meets its other half. The recursion of
`joinUnits` looks at two units, and this is all that a third one can see of them. -/
theorem mem_head?_joinUnits {unit : Nat} {units : List Nat} {point : CodePoint}
    (h : point ∈ (joinUnits (unit :: units)).head?) : point = ofNat unit ∨ ∃ c, point = .char c := by
  cases units with
  | nil => exact Or.inl (Option.some.inj h).symm
  | cons next units =>
    rw [joinUnits] at h
    split at h
    · exact Or.inr ⟨_, (Option.some.inj h).symm⟩
    · exact Or.inl (Option.some.inj h).symm

/-- **Joined units leave no two halves that meet.** A text is `Joined` when no first half stands
before a second one. -/
theorem joined_joinUnits (units : List Nat) : (⟨joinUnits units⟩ : WideText).Joined := by
  unfold WideText.Joined
  fun_induction joinUnits units with
  | case1 => exact .nil
  | case2 unit => exact .singleton _
  | case3 high low units hpair ih =>
    rw [List.isChain_cons]
    exact ⟨fun _ _ hmeet => hmeet.1, ih⟩
  | case4 high low units hpair ih =>
    rw [List.isChain_cons]
    refine ⟨fun point hpoint hmeet => hpair ?_, ih⟩
    obtain ⟨hfirst, hsecond⟩ := hmeet
    rcases mem_head?_joinUnits hpoint with rfl | ⟨c, rfl⟩
    · rw [Bool.and_eq_true]
      exact ⟨CodePoint.isFirst_ofNat_iff.mp hfirst, CodePoint.isSecond_ofNat_iff.mp hsecond⟩
    · exact hsecond.elim

/-- The first unit of a code point is a second half only if the code point is one. So
`joinUnits_units` need not look into characters that are written as a pair. -/
theorem isSecond_of_mem_head?_units {point : CodePoint} {unit : Nat}
    (h : unit ∈ point.units.head?) (hlow : isLowSurrogate unit = true) : point.IsSecond := by
  simp only [isLowSurrogate, Bool.and_eq_true, decide_eq_true_eq] at hlow
  cases point with
  | char c =>
    have hvalid := CodePoint.char_valid c
    simp only [CodePoint.units] at h
    split at h
    · obtain rfl := Option.some.inj h
      omega
    · obtain rfl := Option.some.inj h
      omega
  | half index =>
    obtain rfl := Option.some.inj h
    simp only [CodePoint.toNat, CodePoint.firstHalf] at hlow
    simp only [CodePoint.IsSecond]
    omega

theorem units_ne_nil (point : CodePoint) : point.units ≠ [] := by
  cases point with
  | char c =>
    rw [CodePoint.units]
    split <;> simp
  | half index => simp [CodePoint.units]

/-- The units of a code point are joined to it, whatever follows them that is no other half. A
character beyond the first plane has two units, every other code point one. -/
theorem joinUnits_units_append {point : CodePoint} {units : List Nat}
    (h : ∀ next ∈ units.head?, ¬ (point.IsFirst ∧ isLowSurrogate next = true)) :
    joinUnits (point.units ++ units) = point :: joinUnits units := by
  have halone : point.units = [point.toNat] →
      joinUnits (point.units ++ units) = point :: joinUnits units := by
    intro hunits
    have hfirst : isHighSurrogate point.toNat = true ↔ point.IsFirst := by
      rw [← CodePoint.isFirst_ofNat_iff, CodePoint.ofNat_toNat]
    rw [hunits, List.singleton_append, joinUnits_cons, CodePoint.ofNat_toNat]
    intro next hnext
    rw [hfirst]
    exact h next hnext
  cases point with
  | half index => exact halone rfl
  | char c =>
    by_cases hbasic : c.toNat < 0x10000
    · exact halone (if_pos hbasic)
    -- A character with two units is a pair by itself, whatever follows.
    · have hvalid := CodePoint.char_valid c
      have hpair : (isHighSurrogate (0xD800 + (c.toNat - 0x10000) / 1024) &&
          isLowSurrogate (0xDC00 + (c.toNat - 0x10000) % 1024)) = true := by
        simp only [isHighSurrogate, isLowSurrogate, Bool.and_eq_true, decide_eq_true_eq]
        omega
      have hback : 0x10000 + (0xD800 + (c.toNat - 0x10000) / 1024 - 0xD800) * 1024 +
          (0xDC00 + (c.toNat - 0x10000) % 1024 - 0xDC00) = c.toNat := by omega
      rw [CodePoint.units, if_neg hbasic, List.cons_append, List.singleton_append, joinUnits,
        if_pos hpair, hback, Char.ofNat_toNat]

/-- **The units of a joined text are joined to it.** Without the assumption two halves would become
one character. -/
theorem joinUnits_units {text : WideText} (h : text.Joined) :
    joinUnits (text.points.flatMap CodePoint.units) = text.points := by
  obtain ⟨points⟩ := text
  simp only [WideText.Joined] at h ⊢
  induction points with
  | nil => rfl
  | cons point points ih =>
    rw [List.isChain_cons] at h
    rw [List.flatMap_cons, joinUnits_units_append, ih h.2]
    intro unit hunit hmeet
    cases points with
    | nil => cases hunit
    | cons next points =>
      rw [List.flatMap_cons, List.head?_append_of_ne_nil _ (units_ne_nil next)] at hunit
      exact h.1 next rfl ⟨hmeet.1, isSecond_of_mem_head?_units hunit hmeet.2⟩

/-! ## Reading escapes -/

def behind (taken : List Nat) (result : Except Fault (List Nat × List Char)) :
    Except Fault (List Nat × List Char) :=
  result.map fun (units, rest) => (taken ++ units, rest)

theorem escapeUnit_eq (unit : Nat) : escapeUnit unit =
    ['\\', 'u', Nat.digitChar (unit / 16 / 16 / 16 % 16), Nat.digitChar (unit / 16 / 16 % 16),
      Nat.digitChar (unit / 16 % 16), Nat.digitChar (unit % 16)] := rfl

theorem fourDigits?_digits {unit : Nat} (h : unit < 65536) :
    fourDigits? (Nat.digitChar (unit / 16 / 16 / 16 % 16)) (Nat.digitChar (unit / 16 / 16 % 16))
      (Nat.digitChar (unit / 16 % 16)) (Nat.digitChar (unit % 16)) = some unit := by
  simp only [fourDigits?, Text.hexValue?_digitChar _ (Nat.mod_lt _ (by decide : 16 > 0)), bind,
    Option.bind, pure]
  congr 1
  omega

theorem readUnits_escapeUnit (opened : Nat) {unit : Nat} (h : unit < 65536) {rest : List Char}
    (hrest : rest ≠ []) :
    readUnits opened (escapeUnit unit ++ rest) = behind [unit] (readUnits opened rest) := by
  obtain ⟨c, rest, rfl⟩ := List.exists_cons_of_ne_nil hrest
  simp only [escapeUnit_eq, List.cons_append, List.nil_append]
  rw [readUnits.eq_4 _ _ _ _ _ _ _ _ (fourDigits?_digits h)]
  cases readUnits opened (c :: rest) <;> rfl

theorem readUnits_escaped (opened : Nat) {c : Char} {unit : Nat} (h : escaped? c = some unit)
    (rest : List Char) :
    readUnits opened ('\\' :: c :: rest) = behind [unit] (readUnits opened rest) := by
  have hc : c ≠ 'u' := by
    rintro rfl
    cases h
  rw [readUnits]
  · simp only [h]
    cases readUnits opened rest <;> rfl
  · rintro _ _ _ _ _ rfl
    exact fun _ => hc rfl
  · exact hc

theorem readUnits_plain (opened : Nat) {c : Char} (hquote : c ≠ '"') (hslash : c ≠ '\\')
    (hprinted : 32 ≤ c.toNat) (rest : List Char) :
    readUnits opened (c :: rest) = behind [c.toNat] (readUnits opened rest) := by
  rw [readUnits]
  · rw [if_neg (by omega)]
    cases readUnits opened rest <;> rfl
  all_goals simp_all

/-- What is written for a character is read as its units. The cases are those of `escapeChar`. -/
theorem readUnits_escapeChar (opened : Nat) (c : Char) {rest : List Char} (hrest : rest ≠ []) :
    readUnits opened (escapeChar c ++ rest) =
      behind (CodePoint.char c).units (readUnits opened rest) := by
  have hvalid := CodePoint.char_valid c
  have hescaped : ∀ letter, escaped? letter = some c.toNat → c.toNat < 0x10000 →
      readUnits opened ('\\' :: letter :: rest) =
        behind (CodePoint.char c).units (readUnits opened rest) := by
    intro letter hletter hbasic
    rw [readUnits_escaped opened hletter, CodePoint.units, if_pos hbasic]
  unfold escapeChar
  -- Characters with a letter, those that are written as they are, and those written as numbers.
  split_ifs with hquote hslash hbreak hreturn htab hfeed hback hprinted hbasic
  · exact hescaped _ (by rw [hquote]; rfl) (by rw [hquote]; decide)
  · exact hescaped _ (by rw [hslash]; rfl) (by rw [hslash]; decide)
  · exact hescaped _ (by rw [hbreak]; rfl) (by rw [hbreak]; decide)
  · exact hescaped _ (by rw [hreturn]; rfl) (by rw [hreturn]; decide)
  · exact hescaped _ (by rw [htab]; rfl) (by rw [htab]; decide)
  · exact hescaped _ (by rw [hfeed]; rfl) (by rw [hfeed]; decide)
  · exact hescaped _ (by rw [hback]; rfl) (by rw [hback]; decide)
  · rw [List.singleton_append, readUnits_plain opened hquote hslash hprinted.1, CodePoint.units,
      if_pos (by omega)]
  · rw [readUnits_escapeUnit opened hbasic hrest, CodePoint.units, if_pos hbasic]
  · rw [List.append_assoc, readUnits_escapeUnit opened (by omega) (by simp [escapeUnit]),
      readUnits_escapeUnit opened (by omega) hrest, CodePoint.units, if_neg hbasic]
    cases readUnits opened rest <;> rfl

theorem readUnits_escapePoint (opened : Nat) (point : CodePoint) {rest : List Char}
    (hrest : rest ≠ []) :
    readUnits opened (escapePoint point ++ rest) = behind point.units (readUnits opened rest) := by
  cases point with
  | char c => exact readUnits_escapeChar opened c hrest
  | half index =>
    refine readUnits_escapeUnit opened ?_ hrest
    simp only [CodePoint.toNat, CodePoint.firstHalf]
    omega

theorem readUnits_escape (opened : Nat) (points : List CodePoint) (rest : List Char) :
    readUnits opened (points.flatMap escapePoint ++ '"' :: rest) =
      .ok (points.flatMap CodePoint.units, rest) := by
  induction points with
  | nil => rw [List.flatMap_nil, List.nil_append, readUnits, List.flatMap_nil]
  | cons point points ih =>
    rw [List.flatMap_cons, List.append_assoc, readUnits_escapePoint opened point (by simp), ih]
    rfl

/-! ## Strings -/

/-- **A joined text is read as it was written.** The opening quote is taken by then; `readAs_text`
adds it. -/
theorem readString_writeString {text : WideText} (h : text.Joined) (rest : List Char) :
    readString (text.points.flatMap escapePoint ++ '"' :: rest) = .ok (text, rest) := by
  simp only [readString, readUnits_escape, bind, Except.bind, joinUnits_units h]
  rfl

/-- **A text that was read is joined.** It is `joined_joinUnits`, whatever escapes the text was
written with. -/
theorem joined_of_readString {cs rest : List Char} {text : WideText}
    (h : readString cs = .ok (text, rest)) : text.Joined := by
  unfold readString at h
  cases hunits : readUnits (cs.length + 1) cs with
  | error fault => simp [hunits, bind, Except.bind] at h
  | ok found =>
    simp only [hunits, bind, Except.bind, pure, Except.pure, Except.ok.injEq, Prod.mk.injEq] at h
    rw [← h.1]
    exact joined_joinUnits found.1

end Json
end SpiceKit
