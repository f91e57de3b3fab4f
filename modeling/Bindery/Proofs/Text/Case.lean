import Mathlib
import Bindery.Text.Case

/-!
# Lower case and blanks

Lower case maps letter by letter, and no letter of the case tables is a blank or has a blank as
its other case: lower case keeps every blank and makes none. So lowering a text and trimming its
blanks commute, and a lowered text without surrounding blanks comes from a text without them.

Past ASCII, the only letters whose lower case is ASCII are the dotted capital I and the Kelvin
sign: no letter past ASCII lowers to a letter of `start`, and on ASCII lower case is the ASCII
one.

Main statements: `isSpace_lowerChar`, `trim_lower`, `trim_trim`, `lt_of_toNat_lowerChar_mem` and
`lowerChar_eq_toLower`.
-/

namespace Bindery.Text

/-! ## The case tables avoid blanks -/

/-- The code points of the blanks `trim` removes. -/
def blankCodes : List Nat :=
  [0x09, 0x0A, 0x0B, 0x0C, 0x0D, 0x20, 0x85, 0xA0, 0x1680, 0x2000, 0x2001, 0x2002, 0x2003, 0x2004,
    0x2005, 0x2006, 0x2007, 0x2008, 0x2009, 0x200A, 0x2028, 0x2029, 0x202F, 0x205F, 0x3000]

theorem isSpace_iff (c : Char) : isSpace c = true ↔ c.toNat ∈ blankCodes := by
  simp only [isSpace, blankCodes, List.mem_cons, List.not_mem_nil, Bool.or_eq_true,
    beq_iff_eq, Bool.and_eq_true, decide_eq_true_eq, or_false]
  omega

/-- Whether a run of a case table avoids the blanks: none of its letters is one, and no letter
at its distance from one of its letters is one. -/
def avoidsBlanks : CaseRun → Bool
  | (first, last, _, delta) => blankCodes.all fun s =>
    !(decide (first ≤ s) && decide (s ≤ last)) &&
      !(decide ((first : Int) ≤ s - delta) && decide ((s : Int) - delta ≤ last))

theorem lowerRuns_avoid_blanks : lowerRuns.toList.all avoidsBlanks = true := by
  decide +kernel

/-- The run a search finds is a run of the table, and holds the code point. -/
theorem searchRuns_some {runs : Array CaseRun} {n : Nat} :
    ∀ {fuel lo hi : Nat} {r : CaseRun}, searchRuns runs n fuel lo hi = some r →
      r ∈ runs.toList ∧ r.1 ≤ n ∧ n ≤ r.2.1 := by
  intro fuel
  induction fuel with
  | zero => intro lo hi r h; simp [searchRuns] at h
  | succ fuel ih =>
    intro lo hi r h
    simp only [searchRuns] at h
    split at h
    · cases h
    · split at h
      · cases h
      · rename_i first last step delta hmid
        split at h
        · exact ih h
        · split at h
          · exact ih h
          · cases h
            refine ⟨Array.mem_toList_iff.mpr (Array.mem_of_getElem? hmid), ?_, ?_⟩ <;>
              dsimp only <;> omega

/-- A code point that is not a valid character makes the character zero, which is no blank. -/
theorem isSpace_ofNat_of_not_mem {m : Nat} (hm : m ∉ blankCodes) :
    isSpace (Char.ofNat m) = false := by
  rw [Bool.eq_false_iff, ne_eq, isSpace_iff]
  unfold Char.ofNat
  split
  · exact hm
  · decide

/-- A letter shifted by a run's distance onto a code point of a list without zero lies at that
distance from a code point of the list. -/
theorem exists_sub_of_shift_mem {codes : List Nat} (hzero : 0 ∉ codes) {n : Nat} {delta : Int}
    (h : ((n : Int) + delta).toNat ∈ codes) : ∃ s ∈ codes, (s : Int) - delta = n := by
  -- a shift below zero lands on zero, which the list lacks
  have hpos : 0 ≤ (n : Int) + delta := by
    by_contra hneg
    rw [Int.toNat_of_nonpos (by omega)] at h
    exact hzero h
  exact ⟨_, h, by rw [Int.toNat_of_nonneg hpos]; omega⟩

/-- A table whose runs avoid the blanks maps blanks to themselves and other letters to letters
that are not blanks. -/
theorem isSpace_mapCase {runs : Array CaseRun} (hruns : runs.toList.all avoidsBlanks = true)
    (c : Char) : isSpace (mapCase runs c) = isSpace c := by
  unfold mapCase
  split
  · rename_i first last step delta hfound
    obtain ⟨hmem, hlo, hhi⟩ := searchRuns_some hfound
    dsimp only at hlo hhi
    have havoid : ∀ s ∈ blankCodes, ¬ (first ≤ s ∧ s ≤ last) ∧
        ¬ ((first : Int) ≤ s - delta ∧ (s : Int) - delta ≤ last) := by
      have h := List.all_eq_true.mp hruns _ hmem
      simp only [avoidsBlanks, List.all_eq_true, Bool.and_eq_true, Bool.not_eq_true',
        Bool.and_eq_false_iff, decide_eq_false_iff_not] at h
      intro s hs
      obtain ⟨h1, h2⟩ := h s hs
      constructor <;> omega
    split
    · -- the letter is in the run, so neither it nor its other case is a blank
      have hc : isSpace c = false := by
        rw [Bool.eq_false_iff, ne_eq, isSpace_iff]
        intro hc
        exact (havoid _ hc).1 ⟨hlo, hhi⟩
      rw [hc]
      apply isSpace_ofNat_of_not_mem
      intro hs
      obtain ⟨s, hs, hshift⟩ := exists_sub_of_shift_mem (by decide) hs
      exact (havoid s hs).2 ⟨by omega, by omega⟩
    · rfl
  · rfl

/-- Lower case keeps every blank and makes none. -/
@[simp] theorem isSpace_lowerChar (c : Char) : isSpace (lowerChar c) = isSpace c := by
  unfold lowerChar
  split
  · split
    · rename_i hascii hletter
      have hupper : 0x41 ≤ c.toNat ∧ c.toNat ≤ 0x5A := by
        simp only [Bool.and_eq_true, decide_eq_true_eq] at hletter
        exact ⟨hletter.1, hletter.2⟩
      have hc : isSpace c = false := by
        rw [Bool.eq_false_iff, ne_eq, isSpace_iff]
        simp only [blankCodes, List.mem_cons, List.not_mem_nil, or_false]
        omega
      rw [hc]
      apply isSpace_ofNat_of_not_mem
      simp only [blankCodes, List.mem_cons, List.not_mem_nil, or_false]
      omega
    · rfl
  · exact isSpace_mapCase lowerRuns_avoid_blanks c

/-! ## Trimming -/

/-- The letters of a text without its surrounding blanks. -/
theorem toList_trim (s : String) :
    (trim s).toList = (s.toList.dropWhile isSpace).rdropWhile isSpace := by
  rw [trim, String.toList_ofList, List.rdropWhile]

theorem toList_lower (s : String) : (lower s).toList = s.toList.map lowerChar := by
  rw [lower, String.toList_ofList]

/-- Lowering a text and trimming it commute. -/
theorem trim_lower (s : String) : trim (lower s) = lower (trim s) := by
  have hspace : isSpace ∘ lowerChar = isSpace := funext isSpace_lowerChar
  apply String.toList_injective
  rw [toList_trim, toList_lower, toList_lower, toList_trim, List.dropWhile_map, hspace,
    List.rdropWhile, List.rdropWhile, ← List.map_reverse, List.dropWhile_map, hspace,
    List.map_reverse]

/-- A list whose first element is no blank keeps it once its trailing blanks are dropped. -/
theorem dropWhile_rdropWhile {l : List Char} (hl : l.dropWhile isSpace = l) :
    (l.rdropWhile isSpace).dropWhile isSpace = l.rdropWhile isSpace := by
  obtain ⟨t, ht⟩ := List.rdropWhile_prefix isSpace l
  cases hr : l.rdropWhile isSpace with
  | nil => rfl
  | cons a r =>
    rw [hr] at ht
    rw [← ht] at hl
    have ha : isSpace a = false := by
      by_contra ha
      rw [List.cons_append, List.dropWhile_cons_of_pos (by simpa using ha)] at hl
      have := congrArg List.length hl
      have := (List.dropWhile_suffix isSpace : (r ++ t).dropWhile isSpace <:+ r ++ t).length_le
      simp at *
      omega
    exact List.dropWhile_cons_of_neg (by simp [ha])

/-- Trimming twice trims once. -/
theorem trim_trim (s : String) : trim (trim s) = trim s := by
  apply String.toList_injective
  rw [toList_trim, toList_trim, dropWhile_rdropWhile (List.dropWhile_idempotent _ _),
    List.rdropWhile_idempotent]

/-- A text is as long as its lower case. -/
theorem length_lower (s : String) : (lower s).length = s.length := by
  rw [← String.length_toList, toList_lower, List.length_map, String.length_toList]

/-- A trimmed text as long as the text is the text itself. -/
theorem trim_eq_self_of_length {s : String} (h : (trim s).length = s.length) : trim s = s := by
  apply String.toList_injective
  have hinfix : (trim s).toList <:+: s.toList := by
    rw [toList_trim]
    exact (List.rdropWhile_prefix _ _).isInfix.trans (List.dropWhile_suffix _).isInfix
  exact hinfix.eq_of_length (by rw [String.length_toList, String.length_toList]; exact h)

/-! ## Letters that lower onto ASCII -/

/-- Whether no letter of a run has its other case at one of the code points. -/
def missesCodes (codes : List Nat) : CaseRun → Bool
  | (first, last, _, delta) => codes.all fun s =>
    !(decide ((first : Int) ≤ s - delta) && decide ((s : Int) - delta ≤ last))

/-- The code points of the letters of `start`. -/
def startCodes : List Nat := [0x61, 0x72, 0x73, 0x74]

theorem lowerRuns_miss_start :
    lowerRuns.toList.all (fun r => decide (r.2.1 < 0x80) || missesCodes startCodes r) = true := by
  decide +kernel

/-- A code point that is not a valid character makes the character zero. -/
theorem mem_of_toNat_ofNat_mem {m : Nat} {codes : List Nat} (hzero : 0 ∉ codes)
    (h : (Char.ofNat m).toNat ∈ codes) : m ∈ codes := by
  unfold Char.ofNat at h
  split at h
  · exact h
  · exact absurd h hzero

/-- A code point below the surrogates is a character of that code point. -/
theorem toNat_ofNat_of_lt {n : Nat} (h : n < 0xD800) : (Char.ofNat n).toNat = n := by
  unfold Char.ofNat
  rw [dif_pos (Or.inl h)]
  rfl

/-- A table whose runs past ASCII send no letter to some ASCII code points maps no letter past
ASCII there. -/
theorem toNat_mapCase_not_mem {runs : Array CaseRun} {codes : List Nat}
    (hruns : runs.toList.all (fun r => decide (r.2.1 < 0x80) || missesCodes codes r) = true)
    (hzero : 0 ∉ codes) (hascii : ∀ s ∈ codes, s < 0x80) {c : Char} (hc : 0x80 ≤ c.toNat) :
    (mapCase runs c).toNat ∉ codes := by
  unfold mapCase
  split
  · rename_i first last step delta hfound
    obtain ⟨hmem, hlo, hhi⟩ := searchRuns_some hfound
    dsimp only at hlo hhi
    -- the run holds a letter past ASCII, so it is one of those the table check covers
    have hmiss : ∀ s ∈ codes, ¬ ((first : Int) ≤ s - delta ∧ (s : Int) - delta ≤ last) := by
      have h := List.all_eq_true.mp hruns _ hmem
      simp only [missesCodes, Bool.or_eq_true, decide_eq_true_eq, List.all_eq_true,
        Bool.not_eq_true', Bool.and_eq_false_iff, decide_eq_false_iff_not] at h
      intro s hs
      rcases h with h | h
      · omega
      · have := h s hs
        omega
    split
    · -- the letter's other case would have to lie in the run again
      intro hs
      obtain ⟨s, hs, hshift⟩ := exists_sub_of_shift_mem hzero (mem_of_toNat_ofNat_mem hzero hs)
      exact hmiss s hs ⟨by omega, by omega⟩
    · intro hs
      exact absurd (hascii _ hs) (by omega)
  · intro hs
    exact absurd (hascii _ hs) (by omega)

/-- Only ASCII letters lower to a letter of `start`. -/
theorem lt_of_toNat_lowerChar_mem {c : Char} (h : (lowerChar c).toNat ∈ startCodes) :
    c.toNat < 0x80 := by
  by_contra hc
  unfold lowerChar at h
  rw [if_neg hc] at h
  exact toNat_mapCase_not_mem lowerRuns_miss_start (by decide) (by decide) (by omega) h

/-- On ASCII, lower case is the ASCII lower case. -/
theorem lowerChar_eq_toLower {c : Char} (h : c.toNat < 0x80) : lowerChar c = c.toLower := by
  have hle : ∀ d : Char, d ≤ c ↔ d.toNat ≤ c.toNat := fun d => Char.le_def
  have hge : ∀ d : Char, c ≤ d ↔ c.toNat ≤ d.toNat := fun d => Char.le_def
  apply Char.toNat_inj.mp
  unfold lowerChar Char.toLower
  rw [if_pos h]
  simp only [Bool.and_eq_true, decide_eq_true_eq, hle, hge, ge_iff_le, UInt32.le_iff_toNat_le,
    Char.toNat_val]
  split
  · rw [toNat_ofNat_of_lt (by omega)]
    show c.toNat + 32 = (c.val + ('a'.val - 'A'.val)).toNat
    rw [UInt32.toNat_add, Char.toNat_val]
    have : ('a'.val - 'A'.val).toNat = 32 := by decide
    omega
  · rfl

end Bindery.Text
