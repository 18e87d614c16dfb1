import SpiceKit.Proofs.Source.Lines
import SpiceKit.Proofs.Text.Run

/-!
# The word at a place

`Source.wordAt` scans one line for words and takes the first that touches the column. Here the scan
is taken out of it: **`wordAt_of_lineAt`** says that the answer is *the* maximal run of word
characters of the line that touches the column, by offsets of the document.

Two facts carry it. The scan of a text for words finds its runs and nothing else
(`mem_hits_readWord_iff`); the invariant is that the walk never goes on from the middle of a word.
And a run of a line is a run of the document, since what a line is cut at is no word character
(`run_of_lineAt`); back again, a run of the document that starts on a line stays on it
(`Text.Run.stop_le_of_lineAt`). **`wordAt_only_run`** says the same for any place, whether or not
the document has its line, together with what makes it an answer: no second run touches the place.
-/

set_option autoImplicit false

namespace SpiceKit
namespace Text

open Scan

/-! ## Runs and the scan for words -/

theorem exists_name_of_isWordAt {text : List Char} {i : Nat} (h : isWordAt text i = true) :
    ∃ n rest, n ∈ names ∧ text.drop i = n ++ rest ∧ Stops isWordChar rest := by
  refine ⟨(text.drop i).takeWhile isWordChar, (text.drop i).dropWhile isWordChar, ⟨?_, ?_⟩, ?_, ?_⟩
  · rw [← Nat.add_zero i, ← isWordAt_drop] at h
    cases hcs : text.drop i with
    | nil => simp [isWordAt, hcs] at h
    | cons c cs =>
      have hc : isWordChar c = true := by simpa [isWordAt, hcs] using h
      simp [hc]
  · exact fun c hc => List.mem_takeWhile_imp hc
  · exact List.takeWhile_append_dropWhile.symm
  · exact stops_dropWhile _ _

theorem itemAt_readWord_iff {text word : List Char} {i stop : Nat} :
    ItemAt Source.readWord text i word stop ↔
      ∃ rest, word ∈ names ∧ text.drop i = word ++ rest ∧ Stops isWordChar rest ∧
        stop = i + word.length := by
  unfold ItemAt Source.readWord
  constructor
  · rintro ⟨-, size, hread, rfl⟩
    obtain ⟨⟨n, rest⟩, hname, hpair⟩ := Option.map_eq_some_iff.mp hread
    obtain ⟨rfl, rfl⟩ := Prod.mk.inj hpair
    obtain ⟨hn, hsplit, hrest⟩ := takeName?_eq_some_iff.mp hname
    exact ⟨rest, hn, hsplit.symm, hrest, rfl⟩
  · rintro ⟨rest, hn, hsplit, hrest, rfl⟩
    have hlt : i < text.length := by
      have hlength := congrArg List.length hsplit
      have hpos := List.length_pos_iff.mpr hn.1
      rw [List.length_drop, List.length_append] at hlength
      omega
    refine ⟨hlt, word.length, ?_, rfl⟩
    rw [takeName?_eq_some_iff.mpr ⟨hn, hsplit.symm, hrest⟩, Option.map_some]

theorem advances_readWord : Advances Source.readWord := by
  intro before cs word size h
  obtain ⟨⟨n, rest⟩, hname, hpair⟩ := Option.map_eq_some_iff.mp h
  obtain ⟨rfl, rfl⟩ := Prod.mk.inj hpair
  exact List.length_pos_iff.mpr (takeName?_eq_some_iff.mp hname).1.1

theorem isWordAt_of_itemAt {text word : List Char} {i stop : Nat}
    (h : ItemAt Source.readWord text i word stop) : isWordAt text i = true := by
  obtain ⟨rest, hn, hsplit, -⟩ := itemAt_readWord_iff.mp h
  rw [← Nat.add_zero i, ← isWordAt_drop, hsplit,
    isWordAt_append_left (List.length_pos_iff.mpr hn.1)]
  exact isWordAt_of_mem_names hn (List.length_pos_iff.mpr hn.1)

theorem exists_itemAt_of_isWordAt {text : List Char} {i : Nat} (h : isWordAt text i = true) :
    ∃ word stop, ItemAt Source.readWord text i word stop := by
  obtain ⟨n, rest, hn, hsplit, hrest⟩ := exists_name_of_isWordAt h
  exact ⟨n, _, itemAt_readWord_iff.mpr ⟨rest, hn, hsplit, hrest, rfl⟩⟩

theorem run_of_itemAt {text word : List Char} {i stop : Nat} (hbound : Boundary text i)
    (h : ItemAt Source.readWord text i word stop) :
    Run text i stop ∧ word = (text.drop i).take (stop - i) := by
  obtain ⟨rest, hn, hsplit, hrest, rfl⟩ := itemAt_readWord_iff.mp h
  refine ⟨run_of_split hn hsplit hbound hrest, ?_⟩
  rw [hsplit, Nat.add_sub_cancel_left, List.take_left]

theorem isWordAt_stop_of_itemAt {text word : List Char} {i stop : Nat}
    (h : ItemAt Source.readWord text i word stop) : isWordAt text stop = false := by
  obtain ⟨rest, -, hsplit, hrest, rfl⟩ := itemAt_readWord_iff.mp h
  rw [← isWordAt_drop, hsplit, ← Nat.add_zero word.length, isWordAt_append_right]
  exact stops_iff_isWordAt.mp hrest

-- The walk goes on from the front of the text or from behind an item, so that the first item it meets
-- starts a word: an item in the middle of a word could have been met one character earlier.
theorem boundary_of_leftmost {α : Type} {text : List Char} {At : Nat → α → Nat → Prop}
    (hword : ∀ {i value stop}, At i value stop → isWordAt text i = true)
    (hback : ∀ {i value stop}, At (i + 1) value stop → isWordAt text i = true →
      ∃ value stop, At i value stop)
    (hbehind : ∀ {i value stop}, At i value stop →
      Boundary text stop ∨ isWordAt text stop = false)
    {n : Nat} {found : List (Hit α)} (h : Leftmost At n found)
    (hn : Boundary text n ∨ isWordAt text n = false) :
    ∀ hit ∈ found, Boundary text hit.start := by
  induction h with
  | done none => intro hit hmem; cases hmem
  | @next n hit found le none item rest ih =>
    have hbound : Boundary text hit.start := by
      intro j hj
      rcases Nat.lt_or_ge j n with hbefore | hfrom
      · obtain rfl : hit.start = n := by omega
        rcases hn with hn | hn
        · exact hn j hj
        · rw [hword item] at hn
          cases hn
      -- An item that started inside a word could have started one character before.
      · cases hat : isWordAt text j with
        | false => rfl
        | true =>
          rw [← hj] at item
          obtain ⟨value, stop, hitem⟩ := hback item hat
          exact absurd hitem (none j value stop hfrom (by omega))
    intro other hmem
    rcases List.mem_cons.mp hmem with rfl | hmem
    · exact hbound
    · exact ih (hbehind item) other hmem

theorem Run.item {text : List Char} {start stop : Nat} (h : Run text start stop) :
    ItemAt Source.readWord text start ((text.drop start).take (stop - start)) stop := by
  have hlt := h.lt
  obtain ⟨word, stop', hitem⟩ := exists_itemAt_of_isWordAt (h.inside _ (Nat.le_refl _) hlt)
  obtain ⟨hrun, rfl⟩ := run_of_itemAt h.before hitem
  obtain ⟨-, rfl⟩ := h.eq_of_touch hrun (by omega) hrun.lt.le
  exact hitem

/-- **The scan for words finds the runs of a text and nothing else.** Runs are those of `Run`, which
knows of no scan. -/
theorem mem_hits_readWord_iff {text : List Char} {hit : Hit (List Char)} :
    hit ∈ hits Source.readWord text ↔
      Run text hit.start hit.stop ∧
        hit.value = (text.drop hit.start).take (hit.stop - hit.start) := by
  have hscan := hits_leftmost advances_readWord text
  refine hscan.mem_iff (fun hit => Run text hit.start hit.stop ∧
      hit.value = (text.drop hit.start).take (hit.stop - hit.start))
    (fun h h' => h.unique h') ?_ ?_ fun hit hmem => ?_
  · rintro hit ⟨hrun, hvalue⟩
    exact hvalue ▸ hrun.item
  · rintro hit other ⟨hrun, -⟩ ⟨hrun', -⟩ hle hlt
    have := hrun.lt
    exact (hrun'.eq_of_touch hrun (by omega) (by omega)).1
  · refine run_of_itemAt ?_ (hscan.item_of_mem hit hmem)
    exact boundary_of_leftmost isWordAt_of_itemAt (fun _ hword => exists_itemAt_of_isWordAt hword)
      (fun hitem => Or.inr (isWordAt_stop_of_itemAt hitem)) hscan (Or.inl fun j hj => by omega)
      hit hmem

/-- **The first word that touches a column is the only one**: the run there, if there is one. The
order in which the scan meets words makes no difference, by `Run.eq_of_touch`. -/
theorem find?_hits_readWord_iff {line : List Char} {column : Int} {hit : Hit (List Char)} :
    ((hits Source.readWord line).find? fun hit => hit.start ≤ column && column ≤ hit.stop) =
        some hit ↔
      Run line hit.start hit.stop ∧
        hit.value = (line.drop hit.start).take (hit.stop - hit.start) ∧
        hit.start ≤ column ∧ column ≤ hit.stop := by
  have htouches : ∀ other : Hit (List Char),
      ((hits Source.readWord line).find? fun hit => hit.start ≤ column && column ≤ hit.stop) =
          some other →
        Run line other.start other.stop ∧
          other.value = (line.drop other.start).take (other.stop - other.start) ∧
          other.start ≤ column ∧ column ≤ other.stop := by
    intro other hfind
    have htouch := List.find?_some hfind
    rw [Bool.and_eq_true, decide_eq_true_eq, decide_eq_true_eq] at htouch
    obtain ⟨hrun, hvalue⟩ := mem_hits_readWord_iff.mp (List.mem_of_find?_eq_some hfind)
    exact ⟨hrun, hvalue, htouch⟩
  constructor
  · exact htouches hit
  · rintro ⟨hrun, hvalue, hle, hle'⟩
    have hmem := mem_hits_readWord_iff.mpr ⟨hrun, hvalue⟩
    cases hfind : (hits Source.readWord line).find? fun hit =>
        hit.start ≤ column && column ≤ hit.stop with
    | none => exact absurd (List.find?_eq_none.mp hfind hit hmem) (by simp [hle, hle'])
    | some other =>
      obtain ⟨hrun', hvalue', hother, hother'⟩ := htouches other hfind
      -- Two runs that touch one column are one run.
      obtain ⟨hstart, hstop⟩ := hrun'.eq_of_touch hrun (by omega) (by omega)
      rw [hstart, hstop, ← hvalue] at hvalue'
      rw [Hit.eq_of_fields hstart hstop hvalue']

/-! ## Runs of a line -/

theorem isWordAt_of_fresh {before : List Char} (h : before = [] ∨ before.getLast? = some '\n') :
    isWordAt before (before.length - 1) = false := by
  unfold isWordAt
  rw [← List.getLast?_eq_getElem?]
  rcases h with rfl | hlast
  · rfl
  · rw [hlast]
    decide

theorem stops_of_ended {after : List Char} (h : after = [] ∨ after.head? = some '\n') :
    Stops isWordChar after := by
  rcases h with rfl | hhead
  · exact stops_nil _
  · obtain ⟨rest, rfl⟩ := List.head?_eq_some_iff.mp hhead
    rw [stops_cons]
    decide

section
variable {text before line after : List Char} {i : Nat}

/-- Inside a line and right behind it, the document has a word character where the line has one.
Behind the line stands a line feed or nothing, and neither is one. `run_of_lineAt` carries whole
runs over by it. -/
theorem isWordAt_of_lineAt (h : LineAt text i before line after) {k : Nat} (hk : k ≤ line.length) :
    isWordAt text (before.length + k) = isWordAt line k := by
  rw [h.split, isWordAt_append_right]
  rcases Nat.lt_or_eq_of_le hk with hlt | rfl
  · exact isWordAt_append_left hlt
  · rw [isWordAt_of_length_le (Nat.le_refl _), ← Nat.add_zero line.length, isWordAt_append_right]
    exact stops_iff_isWordAt.mp (stops_of_ended h.ended)

theorem boundary_of_lineAt (h : LineAt text i before line after) {k : Nat} (hk : k ≤ line.length) :
    Boundary text (before.length + k) ↔ Boundary line k := by
  constructor
  · intro hbound j hj
    rw [← isWordAt_of_lineAt h (by omega)]
    exact hbound _ (by omega)
  · intro hbound j hj
    rcases Nat.lt_or_ge j before.length with hbefore | hfrom
    · obtain rfl : j = before.length - 1 := by omega
      rw [h.split, isWordAt_append_left hbefore]
      exact isWordAt_of_fresh h.fresh
    · obtain ⟨m, rfl⟩ := Nat.exists_eq_add_of_le hfrom
      rw [isWordAt_of_lineAt h (by omega)]
      exact hbound m (by omega)

/-- **A run of a line is a run of the document**, at the same columns, so that the word found on a
line is maximal in the whole document. `boundary_of_lineAt` does the same for the two ends. -/
theorem run_of_lineAt (h : LineAt text i before line after) {start stop : Nat}
    (hstop : stop ≤ line.length) :
    Run text (before.length + start) (before.length + stop) ↔ Run line start stop := by
  constructor
  · intro hrun
    have hlt := hrun.lt
    refine ⟨by omega, fun k hle hlt' => ?_, ?_, ?_⟩
    · rw [← isWordAt_of_lineAt h (by omega)]
      exact hrun.inside _ (by omega) (by omega)
    · exact (boundary_of_lineAt h (by omega)).mp hrun.before
    · rw [← isWordAt_of_lineAt h hstop]
      exact hrun.behind
  · intro hrun
    have hlt := hrun.lt
    refine ⟨by omega, fun k hle hlt' => ?_, ?_, ?_⟩
    · obtain ⟨m, rfl⟩ := Nat.exists_eq_add_of_le (show before.length ≤ k by omega)
      rw [isWordAt_of_lineAt h (by omega)]
      exact hrun.inside _ (by omega) (by omega)
    · exact (boundary_of_lineAt h (by omega)).mpr hrun.before
    · rw [isWordAt_of_lineAt h hstop]
      exact hrun.behind

theorem Run.stop_le_of_lineAt (h : LineAt text i before line after) {column stop : Nat}
    (hcolumn : column ≤ line.length) (hrun : Run text (before.length + column) stop) :
    stop ≤ before.length + line.length := by
  by_contra hgt
  have hword := hrun.inside (before.length + line.length) (by omega) (by omega)
  rw [isWordAt_of_lineAt h (Nat.le_refl _), isWordAt_of_length_le (Nat.le_refl _)] at hword
  cases hword

end
end Text

/-! ## The word at a place -/

namespace Source

open Text

def spanOf (before line : List Char) (start stop : Nat) : WordSpan :=
  { start := before.length + start
    stop := before.length + stop
    word := String.ofList ((line.drop start).take (stop - start)) }

theorem wordAt_eq_none {source : Source} {position : Position}
    (h : source.hasLine position.line = false) : source.wordAt position = none := by
  rw [wordAt, if_neg (by simp [h])]

/-- **The word at a place is the run of its line that touches the column.** `spanOf` turns columns
of the line into offsets of the document. -/
theorem wordAt_of_lineAt {source : Source} {i : Nat} {before line after : List Char}
    (h : LineAt source.text i before line after) {column : Int} {span : WordSpan} :
    source.wordAt ⟨i, column⟩ = some span ↔
      ∃ start stop : Nat, Run line start stop ∧ start ≤ column ∧ column ≤ stop ∧
        span = spanOf before line start stop := by
  rw [wordAt, if_pos (hasLine_of_lineAt h), Option.map_eq_some_iff]
  simp only [Int.toNat_natCast, lineStart_of_lineAt h, lineText_of_lineAt h,
    find?_hits_readWord_iff]
  constructor
  · rintro ⟨hit, ⟨hrun, hvalue, hle, hle'⟩, rfl⟩
    exact ⟨hit.start, hit.stop, hrun, hle, hle', by rw [hvalue, spanOf]⟩
  · rintro ⟨start, stop, hrun, hle, hle', rfl⟩
    exact ⟨⟨start, stop, _⟩, ⟨hrun, rfl, hle, hle'⟩, rfl⟩

/-- The same for any place: a line that the document does not have holds no word. `wordAt_eq_none`
is the case of no such line. -/
theorem wordAt_eq_some_iff {source : Source} {position : Position} {span : WordSpan} :
    source.wordAt position = some span ↔
      ∃ (i : Nat) (before line after : List Char) (start stop : Nat), position.line = i ∧
        LineAt source.text i before line after ∧ Run line start stop ∧
        start ≤ position.column ∧ position.column ≤ stop ∧ span = spanOf before line start stop := by
  obtain ⟨number, column⟩ := position
  constructor
  · intro hspan
    cases hhas : source.hasLine number with
    | false =>
      rw [wordAt_eq_none hhas] at hspan
      cases hspan
    | true =>
      obtain ⟨i, before, line, after, rfl, hat⟩ := exists_lineAt_of_hasLine hhas
      obtain ⟨start, stop, hrest⟩ := (wordAt_of_lineAt hat).mp hspan
      exact ⟨i, before, line, after, start, stop, rfl, hat, hrest⟩
  · rintro ⟨i, before, line, after, start, stop, hline, hat, hrest⟩
    obtain rfl : number = i := hline
    exact (wordAt_of_lineAt hat).mpr ⟨start, stop, hrest⟩

/-- A word touches a place: it is a maximal run of word characters of that line, and the column is
in it or at one of its ends. `definition_eq_some_iff` speaks of the word at a place in this way,
without its columns. -/
def Touches (source : Source) (word : String) (position : Position) : Prop :=
  ∃ (i : Nat) (line : List Char) (start stop : Nat), position.line = i ∧
    source.lines[i]? = some line ∧ Run line start stop ∧
    start ≤ position.column ∧ position.column ≤ stop ∧
    word.toList = (line.drop start).take (stop - start)

theorem touches_iff {source : Source} {word : String} {position : Position} :
    source.Touches word position ↔
      ∃ span, source.wordAt position = some span ∧ span.word = word := by
  constructor
  · rintro ⟨i, line, start, stop, hline, hget, hrun, hle, hle', hword⟩
    obtain ⟨before, after, hat⟩ := exists_lineAt_of_getElem?_lines hget
    refine ⟨spanOf before line start stop, wordAt_eq_some_iff.mpr ?_, ?_⟩
    · exact ⟨i, before, line, after, start, stop, hline, hat, hrun, hle, hle', rfl⟩
    · rw [spanOf, ← hword, String.ofList_toList]
  · rintro ⟨span, hspan, rfl⟩
    obtain ⟨i, before, line, after, start, stop, hline, hat, hrun, hle, hle', rfl⟩ :=
      wordAt_eq_some_iff.mp hspan
    refine ⟨i, line, start, stop, hline, hat.getElem?_lines, hrun, hle, hle', ?_⟩
    rw [spanOf, String.toList_ofList]

/-! ## One run at most -/

/-- A maximal run of word characters touches a place, from one column of its line up to another. By
`RunTouches.unique` the columns are determined by the place. -/
def RunTouches (source : Source) (position : Position) (start stop : Nat) : Prop :=
  ∃ (i : Nat) (line : List Char), position.line = i ∧ source.lines[i]? = some line ∧
    Run line start stop ∧ start ≤ position.column ∧ position.column ≤ stop

theorem RunTouches.unique {source : Source} {position : Position} {start stop start' stop' : Nat}
    (h : source.RunTouches position start stop) (h' : source.RunTouches position start' stop') :
    start = start' ∧ stop = stop' := by
  obtain ⟨i, line, hline, hget, hrun, hle, hle'⟩ := h
  obtain ⟨j, line', hline', hget', hrun', hother, hother'⟩ := h'
  obtain rfl : i = j := Int.ofNat_inj.mp (hline.symm.trans hline')
  obtain rfl : line = line' := Option.some.inj (hget.symm.trans hget')
  exact hrun.eq_of_touch hrun' (by omega) (by omega)

theorem exists_wordAt_iff {source : Source} {position : Position} :
    (∃ span, source.wordAt position = some span) ↔
      ∃ start stop, source.RunTouches position start stop := by
  constructor
  · rintro ⟨span, hspan⟩
    obtain ⟨i, before, line, after, start, stop, hline, hat, hrun, hle, hle', -⟩ :=
      wordAt_eq_some_iff.mp hspan
    exact ⟨start, stop, i, line, hline, hat.getElem?_lines, hrun, hle, hle'⟩
  · rintro ⟨start, stop, i, line, hline, hget, hrun, hle, hle'⟩
    obtain ⟨before, after, hat⟩ := exists_lineAt_of_getElem?_lines hget
    exact ⟨_, wordAt_eq_some_iff.mpr
      ⟨i, before, line, after, start, stop, hline, hat, hrun, hle, hle', rfl⟩⟩

/-- **A word is found where a run of the line touches the place, and there is one such run at
most.** Its span has the offsets of the two columns, the characters between them are the word, and
the run goes on at neither end in the whole document. That a run touches the place is `RunTouches`;
two that do are the same by `Run.eq_of_touch`. -/
theorem wordAt_only_run (source : Source) (position : Position) :
    ((∃ span, source.wordAt position = some span) ↔
      ∃ start stop, source.RunTouches position start stop) ∧
    (∀ start stop start' stop', source.RunTouches position start stop →
      source.RunTouches position start' stop' → start = start' ∧ stop = stop') ∧
    ∀ span, source.wordAt position = some span →
      ∃ start stop : Nat, source.RunTouches position start stop ∧
        span.start = source.offsetAt ⟨position.line, start⟩ ∧
        span.stop = source.offsetAt ⟨position.line, stop⟩ ∧
        source.slice span.start span.stop = span.word.toList ∧
        Run source.text span.start span.stop := by
  refine ⟨exists_wordAt_iff, fun start stop start' stop' h h' => h.unique h', ?_⟩
  intro span hspan
  obtain ⟨i, before, line, after, start, stop, hline, hat, hrun, hle, hle', rfl⟩ :=
    wordAt_eq_some_iff.mp hspan
  have hlt := hrun.lt
  have hstop := hrun.stop_le
  refine ⟨start, stop, ⟨i, line, hline, hat.getElem?_lines, hrun, hle, hle'⟩, ?_, ?_, ?_, ?_⟩
  · rw [hline, offsetAt_of_lineAt hat (by omega), spanOf]
  · rw [hline, offsetAt_of_lineAt hat hstop, spanOf]
  · rw [spanOf, String.toList_ofList]
    exact slice_of_lineAt hat hlt.le hstop
  · exact (run_of_lineAt hat hstop).mpr hrun

/-- Right behind the first word of the second line, that word is found. -/
theorem wordAt_only_run_behind :
    (ofString "a\nb_1+c d").wordAt ⟨1, 3⟩ = some ⟨2, 5, "b_1"⟩ ∧
      Run (ofString "a\nb_1+c d").text 2 5 := by
  have hword : (ofString "a\nb_1+c d").wordAt ⟨1, 3⟩ = some ⟨2, 5, "b_1"⟩ := rfl
  obtain ⟨start, stop, -, -, -, -, hrun⟩ := (wordAt_only_run _ _).2.2 _ hword
  exact ⟨hword, hrun⟩

end Source
end SpiceKit
