import Mathlib.Data.List.DropRight
import Roaming.Text.Blank

/-!
# Words, trimmed texts and numerals

What a text says by its words depends on the words alone: `Spelled ws cs` says that the characters
are the words, in their order, with blanks around and between them at will, and `spelled_iff` that
this is what `words` finds. The one law behind it is that a blank cuts a text in two
(`words_append_cons`).

Trimming gives a text without blanks at its ends (`isTrimmed_trim`) and leaves such a text as it is
(`IsTrimmed.trim_eq`). The numerals are the words of ASCII digits (`isNumeral_iff`), and they are
read in decimal (`numeralValue_eq`).
-/

namespace Roaming.Text

variable {w cs ds : List Char} {ws : List (List Char)} {c : Char} {s : String}

/-! ## Words -/

/-- A word has at least one character and none that is blank. -/
def IsWord (w : List Char) : Prop :=
  w ≠ [] ∧ ∀ c ∈ w, isBlank c = false

instance (w : List Char) : Decidable (IsWord w) :=
  decidable_of_iff (w.isEmpty = false ∧ w.all (!isBlank ·) = true) (by simp [IsWord])

/-- A blank cuts the words of a text in two. -/
theorem words_append_cons (hc : isBlank c = true) (cs ds : List Char) :
    words (cs ++ c :: ds) = words cs ++ words ds := by
  rw [words, List.splitOnP_append_cons cs ds hc, List.filter_append]
  rfl

theorem words_cons_of_blank (hc : isBlank c = true) (cs : List Char) :
    words (c :: cs) = words cs :=
  words_append_cons hc [] cs

/-- A blank at the end does not show in the words. -/
theorem words_concat (hc : isBlank c = true) (cs : List Char) : words (cs ++ [c]) = words cs := by
  rw [words_append_cons hc]
  exact List.append_nil _

theorem words_of_isWord (h : IsWord w) : words w = [w] := by
  rw [words, List.splitOnP_eq_singleton h.2, List.filter_cons_of_pos]
  · rfl
  · simpa using h.1

/-- The characters are the words in their order, with blanks around and between them at will. -/
inductive Spelled : List (List Char) → List Char → Prop where
  | nil : Spelled [] []
  | blank {ws : List (List Char)} {c : Char} {cs : List Char} (hc : isBlank c = true)
      (h : Spelled ws cs) : Spelled ws (c :: cs)
  | last {w : List Char} (hw : IsWord w) : Spelled [w] w
  /-- A word that others follow ends at a blank. -/
  | word {w : List Char} {ws : List (List Char)} {c : Char} {cs : List Char} (hw : IsWord w)
      (hc : isBlank c = true) (h : Spelled ws cs) : Spelled (w :: ws) (w ++ c :: cs)

theorem Spelled.words_eq (h : Spelled ws cs) : words cs = ws := by
  induction h with
  | nil => rfl
  | blank hc _ ih => rw [words_cons_of_blank hc, ih]
  | last hw => exact words_of_isWord hw
  | word hw hc _ ih =>
      rw [words_append_cons hc, words_of_isWord hw, ih]
      rfl

theorem Spelled.isWord (h : Spelled ws cs) : ∀ w ∈ ws, IsWord w := by
  induction h with
  | nil => exact List.forall_mem_nil _
  | blank _ _ ih => exact ih
  | last hw => exact List.forall_mem_singleton.2 hw
  | word hw _ _ ih => exact List.forall_mem_cons.2 ⟨hw, ih⟩

/-- Every text spells its words. The characters before `cs` are those of a word that has begun. -/
theorem spelled_words_append (cs : List Char) (hw : ∀ c ∈ w, isBlank c = false) :
    Spelled (words (w ++ cs)) (w ++ cs) := by
  induction cs generalizing w with
  | nil =>
      rw [List.append_nil]
      by_cases hnil : w = []
      · rw [hnil]
        exact .nil
      · rw [words_of_isWord ⟨hnil, hw⟩]
        exact .last ⟨hnil, hw⟩
  | cons c cs ih =>
      cases hc : isBlank c with
      | true =>
          -- the word ends here, and the next one has not begun
          have hrest : Spelled (words cs) cs := ih (w := []) (List.forall_mem_nil _)
          rw [words_append_cons hc]
          by_cases hnil : w = []
          · rw [hnil]
            exact .blank hc hrest
          · rw [words_of_isWord ⟨hnil, hw⟩]
            exact .word ⟨hnil, hw⟩ hc hrest
      | false =>
          rw [List.append_cons]
          refine ih ?_
          intro d hmem
          rcases List.mem_append.1 hmem with hbefore | hlast
          · exact hw d hbefore
          · rw [List.mem_singleton.1 hlast]
            exact hc

/-- **The words of a text are those that it spells.** -/
theorem spelled_iff : Spelled ws cs ↔ words cs = ws := by
  constructor
  · intro h
    exact h.words_eq
  · rintro rfl
    exact spelled_words_append (w := []) cs (List.forall_mem_nil _)

/-! ## Trimming -/

/-- A text is trimmed if it neither begins nor ends with a blank. -/
structure IsTrimmed (s : String) : Prop where
  head : ∀ c ∈ s.toList.head?, isBlank c = false
  last : ∀ c ∈ s.toList.getLast?, isBlank c = false

theorem toList_trim (s : String) :
    (trim s).toList = (s.toList.dropWhile isBlank).rdropWhile isBlank :=
  String.toList_ofList

/-- Trimming gives a trimmed text. -/
theorem isTrimmed_trim (s : String) : IsTrimmed (trim s) := by
  constructor
  · intro c hc
    -- the blanks at the end were dropped from a text that does not begin with one
    obtain ⟨rest, hrest⟩ := List.rdropWhile_prefix isBlank (s.toList.dropWhile isBlank)
    have hfirst := List.head?_dropWhile_not isBlank s.toList
    rw [toList_trim] at hc
    rw [← hrest, List.head?_append, hc] at hfirst
    exact hfirst
  · intro c hc
    rw [toList_trim] at hc
    obtain ⟨hne, rfl⟩ := List.mem_getLast?_eq_getLast hc
    exact Bool.eq_false_iff.2 (List.rdropWhile_last_not _ _ hne)

/-- Trimming leaves a trimmed text as it is. -/
theorem IsTrimmed.trim_eq (h : IsTrimmed s) : trim s = s := by
  have hhead : s.toList.dropWhile isBlank = s.toList := by
    rw [List.dropWhile_eq_self_iff]
    intro hl
    rw [h.head _ (List.head?_eq_getElem? ▸ List.getElem?_eq_getElem hl)]
    exact Bool.false_ne_true
  have hlast : s.toList.rdropWhile isBlank = s.toList := by
    rw [List.rdropWhile_eq_self_iff]
    intro hne
    rw [h.last _ (List.getLast?_eq_getLast_of_ne_nil hne)]
    exact Bool.false_ne_true
  rw [← String.toList_inj, toList_trim, hhead, hlast]

/-- Trimming leaves nothing of a text of blanks, and only of such a text. -/
theorem trim_eq_empty_iff : trim s = "" ↔ ∀ c ∈ s.toList, isBlank c = true := by
  rw [← String.toList_inj, toList_trim, String.toList_empty, List.rdropWhile_eq_nil_iff,
    ← List.dropWhile_eq_nil_iff, List.dropWhile_idempotent, List.dropWhile_eq_nil_iff]

theorem trim_ne_empty_iff : trim s ≠ "" ↔ ∃ c ∈ s.toList, isBlank c = false := by
  rw [Ne, trim_eq_empty_iff]
  simp

/-! ## Numerals -/

theorem isBlank_of_isDigit (h : isDigit c = true) : isBlank c = false := by
  have hrange : 48 ≤ c.toNat ∧ c.toNat ≤ 57 := by
    simpa [isDigit, Char.le_def, UInt32.le_iff_toNat_le] using h
  simp only [isBlank, inRanges, blankRanges, List.any_cons, List.any_nil, Bool.or_false,
    Bool.or_eq_false_iff, Bool.and_eq_false_iff, decide_eq_false_iff_not]
  omega

/-- A word of ASCII digits and nothing else. -/
def IsDecimal (w : List Char) : Prop :=
  w ≠ [] ∧ ∀ c ∈ w, c.isDigit = true

/-- The number that digits write in decimal. -/
def decimalValue (w : List Char) : Nat :=
  Nat.ofDigitChars 10 w 0

theorem isDigit_eq (c : Char) : isDigit c = c.isDigit := by
  simp [isDigit, Char.isDigit, Char.le_def]

theorem isNumeral_iff : isNumeral w = true ↔ IsDecimal w := by
  rw [isNumeral, Bool.and_eq_true, Bool.not_eq_true', List.isEmpty_eq_false_iff,
    List.all_eq_true, IsDecimal]
  simp only [isDigit_eq]

theorem isNumeral_eq_false_iff : isNumeral w = false ↔ ¬ IsDecimal w := by
  rw [← isNumeral_iff, Bool.not_eq_true]

/-- Numerals are read in decimal. -/
theorem numeralValue_eq (w : List Char) : numeralValue w = decimalValue w :=
  Nat.ofDigitChars_eq_foldl.symm

theorem IsDecimal.isWord (h : IsDecimal w) : IsWord w := by
  refine ⟨h.1, ?_⟩
  intro c hc
  refine isBlank_of_isDigit ?_
  rw [isDigit_eq, h.2 c hc]

/-- A number is written in decimal. -/
theorem isDecimal_toString (n : Nat) : IsDecimal (toString n).toList := by
  rw [Nat.toString_eq_ofList_toDigits, String.toList_ofList]
  refine ⟨by simp, ?_⟩
  intro c hc
  exact Nat.isDigit_of_mem_toDigits (by decide) (by decide) hc

/-- The digits of a number stand for that number. -/
theorem decimalValue_toString (n : Nat) : decimalValue (toString n).toList = n := by
  rw [Nat.toString_eq_ofList_toDigits, String.toList_ofList, decimalValue,
    Nat.ofDigitChars_ten_toDigits]

end Roaming.Text
