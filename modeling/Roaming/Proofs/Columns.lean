import Roaming.Observation
import Roaming.Proofs.Words

/-!
# The columns of a row

A row of the scan table is read by its words. `Columns` takes the words apart by what they stand
for: the marker, the BSSID and the SSID in front, and of the columns behind them the last two
numerals, which are the bit rate and the quality. Since no numeral may follow the rate but the
quality, and none the quality, a row can be taken apart in one way only (`Columns.eq_of_words_eq`).

Every reading of a line is the reading of its columns (`exists_columns_of_ofWords?`), and it fails
only if one of the two numerals is out of range (`Columns.ofWords?_eq_some_iff`). So a line is read
by its columns alone (`rows_read_by_their_columns`).
-/

namespace Roaming

open Text

/-- The words of a row by what they stand for. -/
structure Columns where
  marker : List Char
  bssid : List Char
  ssid : List Char
  /-- The columns in front of the bit rate, numerals among them or not. -/
  middle : List (List Char)
  rate : List Char
  /-- The words between the bit rate and the quality, such as the unit of the rate. -/
  gap : List (List Char)
  quality : List Char
  /-- The columns behind the quality. -/
  tail : List (List Char)

namespace Columns

/-- The words of a row in their order. -/
def words (c : Columns) : List (List Char) :=
  [c.marker, c.bssid, c.ssid] ++ c.middle ++ [c.rate] ++ c.gap ++ [c.quality] ++ c.tail

/-- The quality is the last numeral and the bit rate is the last one before it. -/
structure IsRow (c : Columns) : Prop where
  rate : IsDecimal c.rate
  gap : ∀ w ∈ c.gap, ¬ IsDecimal w
  quality : IsDecimal c.quality
  tail : ∀ w ∈ c.tail, ¬ IsDecimal w

/-- The two numerals fit their columns. -/
def InRange (c : Columns) : Prop :=
  decimalValue c.quality ≤ 2147483647 ∧ decimalValue c.rate ≤ 4294967295

/-- An observation is what the columns say, the numerals by their values. -/
structure Gives (c : Columns) (o : Observation) : Prop where
  inUse : o.inUse = true ↔ c.marker = ['*', '*']
  bssid : o.bssid = String.ofList c.bssid
  ssid : o.ssid = String.ofList c.ssid
  quality : o.quality.toInt = decimalValue c.quality
  rate : o.rate.toNat = decimalValue c.rate

variable {c c' : Columns} {o o' : Observation}

/-- Columns give at most one observation. -/
theorem Gives.unique (h : c.Gives o) (h' : c.Gives o') : o = o' := by
  have hinUse : o.inUse = o'.inUse := Bool.eq_iff_iff.2 (h.inUse.trans h'.inUse.symm)
  have hbssid : o.bssid = o'.bssid := h.bssid.trans h'.bssid.symm
  have hssid : o.ssid = o'.ssid := h.ssid.trans h'.ssid.symm
  have hquality : o.quality = o'.quality :=
    Int32.toInt_inj.1 (h.quality.trans h'.quality.symm)
  have hrate : o.rate = o'.rate := UInt32.toNat_inj.1 (h.rate.trans h'.rate.symm)
  cases o
  cases o'
  simp_all

/-! ## Taking a row apart -/

/-- A list is cut in one way at its first member with a property. -/
theorem append_cons_inj {α : Type} {p : α → Bool} {a a' : α} {as as' bs bs' : List α}
    (has : ∀ x ∈ as, p x = false) (ha : p a = true) (has' : ∀ x ∈ as', p x = false)
    (ha' : p a' = true) (h : as ++ a :: bs = as' ++ a' :: bs') : as = as' ∧ a = a' ∧ bs = bs' := by
  have htake : ∀ {a as} (bs : List α), (∀ x ∈ as, p x = false) → p a = true →
      (as ++ a :: bs).takeWhile (fun x => !p x) = as := by
    intro a as bs has ha
    rw [List.takeWhile_append_of_pos (by simpa using has),
      List.takeWhile_cons_of_neg (by simp [ha]), List.append_nil]
  have hsame : as = as' := by
    rw [← htake bs has ha, h, htake bs' has' ha']
  rw [hsame] at h
  exact ⟨hsame, List.cons.inj (List.append_cancel_left h)⟩

/-- The columns of a row from the last one to the first. -/
theorem reverse_words (c : Columns) :
    c.words.reverse = c.tail.reverse ++ c.quality :: (c.gap.reverse
      ++ c.rate :: (c.middle.reverse ++ [c.ssid, c.bssid, c.marker])) := by
  simp [words]

/-- **A row can be taken apart in one way only.** -/
theorem eq_of_words_eq (h : c.IsRow) (h' : c'.IsRow) (hwords : c.words = c'.words) : c = c' := by
  have hreverse := congrArg List.reverse hwords
  rw [reverse_words, reverse_words] at hreverse
  have hnone : ∀ {ws : List (List Char)}, (∀ w ∈ ws, ¬ IsDecimal w) →
      ∀ w ∈ ws.reverse, isNumeral w = false := by
    intro ws hws w hw
    exact isNumeral_eq_false_iff.2 (hws w (List.mem_reverse.1 hw))
  obtain ⟨htail, hquality, hreverse⟩ := append_cons_inj (hnone h.tail) (isNumeral_iff.2 h.quality)
    (hnone h'.tail) (isNumeral_iff.2 h'.quality) hreverse
  obtain ⟨hgap, hrate, hreverse⟩ := append_cons_inj (hnone h.gap) (isNumeral_iff.2 h.rate)
    (hnone h'.gap) (isNumeral_iff.2 h'.rate) hreverse
  -- the three words in front are as many on both sides
  obtain ⟨hmiddle, hfront⟩ := List.append_inj' hreverse rfl
  cases c
  cases c'
  simp_all

end Columns

namespace Observation

variable {c : Columns} {o : Observation} {ws : List (List Char)} {cs : List Char}

/-! ## Reading a row -/

theorem qualityOf?_eq_some_iff {quality : Int32} :
    qualityOf? cs = some quality ↔
      decimalValue cs ≤ 2147483647 ∧ quality.toInt = decimalValue cs := by
  have hsucc : decimalValue cs < Nat.pow 2 31 ↔ decimalValue cs ≤ 2147483647 :=
    Nat.lt_succ_iff
  rw [qualityOf?, numeralValue_eq, Option.ite_none_right_eq_some, hsucc, Option.some.injEq]
  refine and_congr_right fun hle => ?_
  have hvalue : (Int32.ofNat (decimalValue cs)).toInt = decimalValue cs :=
    Int32.toInt_ofNat_of_lt (Nat.lt_succ_iff.2 hle)
  constructor
  · rintro rfl
    exact hvalue
  · intro h
    exact Int32.toInt_inj.1 (hvalue.trans h.symm)

theorem rateOf?_eq_some_iff {rate : UInt32} :
    rateOf? cs = some rate ↔ decimalValue cs ≤ 4294967295 ∧ rate.toNat = decimalValue cs := by
  have hsucc : decimalValue cs < UInt32.size ↔ decimalValue cs ≤ 4294967295 :=
    Nat.lt_succ_iff
  rw [rateOf?, numeralValue_eq, Option.ite_none_right_eq_some, hsucc, Option.some.injEq]
  refine and_congr_right fun hle => ?_
  have hvalue : (UInt32.ofNat (decimalValue cs)).toNat = decimalValue cs :=
    UInt32.toNat_ofNat_of_lt' (Nat.lt_succ_iff.2 hle)
  constructor
  · rintro rfl
    exact hvalue
  · intro h
    exact UInt32.toNat_inj.1 (hvalue.trans h.symm)

/-- The numerals of the columns behind the SSID, from the last one on, begin with the quality and
the bit rate. -/
theorem filter_reverse_columns (h : c.IsRow) :
    (c.middle ++ [c.rate] ++ c.gap ++ [c.quality] ++ c.tail).reverse.filter isNumeral
      = c.quality :: c.rate :: c.middle.reverse.filter isNumeral := by
  have hnone : ∀ {ws : List (List Char)}, (∀ w ∈ ws, ¬ IsDecimal w) →
      ws.reverse.filter isNumeral = [] := by
    intro ws hws
    rw [List.filter_eq_nil_iff]
    intro w hw
    rw [isNumeral_iff]
    exact hws w (List.mem_reverse.1 hw)
  simp [List.filter_append, hnone h.tail, hnone h.gap, isNumeral_iff.2 h.quality,
    isNumeral_iff.2 h.rate]

/-- A row is read unless one of its numerals is out of range. -/
theorem ofWords?_eq_some_iff (h : c.IsRow) :
    ofWords? c.words = some o ↔ c.InRange ∧ c.Gives o := by
  have hread : ofWords? c.words = (qualityOf? c.quality).bind fun quality =>
      (rateOf? c.rate).bind fun rate =>
        some { inUse := c.marker == ['*', '*'], bssid := String.ofList c.bssid,
               ssid := String.ofList c.ssid, quality, rate } := by
    have hfront : c.words = c.marker :: c.bssid :: c.ssid ::
        (c.middle ++ [c.rate] ++ c.gap ++ [c.quality] ++ c.tail) := by
      simp [Columns.words]
    rw [hfront, ofWords?, filter_reverse_columns h]
    rfl
  rw [hread, Option.bind_eq_some_iff]
  constructor
  · rintro ⟨quality, hquality, hrest⟩
    obtain ⟨rate, hrate, heq⟩ := Option.bind_eq_some_iff.1 hrest
    obtain rfl := Option.some.inj heq
    obtain ⟨hqualityle, hquality⟩ := qualityOf?_eq_some_iff.1 hquality
    obtain ⟨hratele, hrate⟩ := rateOf?_eq_some_iff.1 hrate
    exact ⟨⟨hqualityle, hratele⟩, ⟨beq_iff_eq, rfl, rfl, hquality, hrate⟩⟩
  · rintro ⟨⟨hqualityle, hratele⟩, hgives⟩
    refine ⟨o.quality, qualityOf?_eq_some_iff.2 ⟨hqualityle, hgives.quality⟩, ?_⟩
    refine Option.bind_eq_some_iff.2
      ⟨o.rate, rateOf?_eq_some_iff.2 ⟨hratele, hgives.rate⟩, congrArg some ?_⟩
    exact Columns.Gives.unique ⟨beq_iff_eq, rfl, rfl, hgives.quality, hgives.rate⟩ hgives

/-- What is read has the columns of a row. -/
theorem exists_columns_of_ofWords? (h : ofWords? ws = some o) :
    ∃ c : Columns, c.IsRow ∧ ws = c.words := by
  rw [ofWords?.eq_def] at h
  split at h
  · next marker bssid ssid columns =>
      split at h
      · next quality rate _ hnumerals =>
          -- going from the last column to the first, the quality comes before the rate
          obtain ⟨tail, front, hcolumns, htail, hquality, hfront⟩ :=
            List.filter_eq_cons_iff.1 hnumerals
          obtain ⟨gap, middle, rfl, hgap, hrate, -⟩ := List.filter_eq_cons_iff.1 hfront
          rw [isNumeral_iff] at hquality hrate
          simp only [isNumeral_iff] at hgap htail
          refine ⟨⟨marker, bssid, ssid, middle.reverse, rate, gap.reverse, quality, tail.reverse⟩,
            ⟨hrate, by simpa using hgap, hquality, by simpa using htail⟩, ?_⟩
          rw [List.reverse_eq_iff] at hcolumns
          simp [Columns.words, hcolumns]
      · exact nomatch h
  · exact nomatch h

/-- No row is read with a negative quality. -/
theorem quality_nonneg {line : String} (h : parse? line = some o) : 0 ≤ o.quality := by
  obtain ⟨c, hrow, hwords⟩ := exists_columns_of_ofWords? h
  rw [parse?, ofLine?, hwords, ofWords?_eq_some_iff hrow] at h
  rw [Int32.le_iff_toInt_le, Int32.toInt_zero, h.2.quality]
  exact Int.natCast_nonneg _

/-- **Rows are read by their columns.** A line is read exactly if its words, behind the mark that is
put in front of it, are the columns of a row whose numerals are in range, and then it is read as
what these columns give; the columns of a row are settled by its words. So however the columns are
laid out on the line, the reading depends on nothing but the marker, the two names and the values of
the two numerals, and a numeral that is out of range refuses the line. -/
theorem rows_read_by_their_columns :
    (∀ (line : String) (o : Observation), parse? line = some o ↔
      ∃ c : Columns, Text.words ('*' :: line.toList) = c.words ∧ c.IsRow ∧ c.InRange ∧ c.Gives o)
      ∧ (∀ c c' : Columns, c.IsRow → c'.IsRow → c.words = c'.words → c = c')
      ∧ (∀ (line line' : String) (c c' : Columns), c.IsRow → c'.IsRow →
          Spelled c.words ('*' :: line.toList) → Spelled c'.words ('*' :: line'.toList) →
          (c.marker = ['*', '*'] ↔ c'.marker = ['*', '*']) → c.bssid = c'.bssid →
          c.ssid = c'.ssid → decimalValue c.rate = decimalValue c'.rate →
          decimalValue c.quality = decimalValue c'.quality → parse? line = parse? line')
      ∧ ∀ (line : String) (c : Columns), c.IsRow → Spelled c.words ('*' :: line.toList) →
          ¬ c.InRange → parse? line = none := by
  have hparse : ∀ {line : String} {c : Columns}, Spelled c.words ('*' :: line.toList) →
      parse? line = ofWords? c.words := by
    intro line c hspelled
    rw [parse?, ofLine?, hspelled.words_eq]
  refine ⟨?_, fun c c' => Columns.eq_of_words_eq, ?_, ?_⟩
  · intro line o
    constructor
    · intro h
      obtain ⟨c, hrow, hwords⟩ := exists_columns_of_ofWords? h
      rw [hparse (spelled_iff.2 hwords), ofWords?_eq_some_iff hrow] at h
      exact ⟨c, hwords, hrow, h.1, h.2⟩
    · rintro ⟨c, hwords, hrow, hrange, hgives⟩
      rw [hparse (spelled_iff.2 hwords)]
      exact (ofWords?_eq_some_iff hrow).2 ⟨hrange, hgives⟩
  · intro line line' c c' hrow hrow' hspelled hspelled' hmarker hbssid hssid hrate hquality
    rw [hparse hspelled, hparse hspelled']
    refine Option.ext fun o => ?_
    have hgives : c.Gives o ↔ c'.Gives o := by
      constructor
      · rintro ⟨h₁, h₂, h₃, h₄, h₅⟩
        exact ⟨h₁.trans hmarker, hbssid ▸ h₂, hssid ▸ h₃, hquality ▸ h₄, hrate ▸ h₅⟩
      · rintro ⟨h₁, h₂, h₃, h₄, h₅⟩
        exact ⟨h₁.trans hmarker.symm, hbssid ▸ h₂, hssid ▸ h₃, hquality ▸ h₄, hrate ▸ h₅⟩
    rw [ofWords?_eq_some_iff hrow, ofWords?_eq_some_iff hrow', Columns.InRange, Columns.InRange,
      hrate, hquality, hgives]
  · intro line c hrow hspelled hrange
    rw [hparse hspelled, Option.eq_none_iff_forall_ne_some]
    intro o h
    exact hrange ((ofWords?_eq_some_iff hrow).1 h).1

/-- The SSID may be a numeral, and so may a column in front of the bit rate. -/
example : parse? "*  AA:01  1234  Infra  36  540 Mbit/s  72  WPA1 WPA2"
    = some ⟨true, "AA:01", "1234", 72, 540⟩ := by
  decide

end Observation

end Roaming
