import Roaming.Proofs.Columns
import Roaming.Proofs.Lines

/-!
# Writing and reading a scan table

An observation that is written as a row reads back if and only if its two names are words and its
quality is no negative number (`Observation.Readable`); a name with a blank in it would be cut, and
a minus makes no numeral. Whatever is read off a line is readable.

A text lists observations if it has a row for each of them, in their order, and else only lines that
are no rows (`Observation.Lists`). Line feeds cut the reading of a table in two (`ofTable_append`),
so reading such a text gives back the list, whatever the line ends and wherever other lines stand.
-/

namespace Roaming.Observation

open Text

/-- The two names are words, and the quality is not negative. -/
structure Readable (o : Observation) : Prop where
  bssid : IsWord o.bssid.toList
  ssid : IsWord o.ssid.toList
  quality : 0 ≤ o.quality.toInt

variable {o : Observation} {os : List Observation} {line text : String}

/-! ## Rows -/

/-- The columns that a row is written in. -/
def columns (o : Observation) : Columns where
  marker := if o.inUse then ['*', '*'] else ['*']
  bssid := o.bssid.toList
  ssid := o.ssid.toList
  middle := []
  rate := (toString o.rate.toNat).toList
  gap := ["Mbit/s".toList]
  quality := (toString o.quality.toInt.toNat).toList
  tail := []

theorem isRow_columns (o : Observation) : o.columns.IsRow where
  rate := isDecimal_toString _
  gap := List.forall_mem_singleton.2 (isNumeral_eq_false_iff.1 (by decide))
  quality := isDecimal_toString _
  tail := List.forall_mem_nil _

theorem inRange_columns (o : Observation) : o.columns.InRange := by
  have hquality := o.quality.toInt_lt
  have hrate := o.rate.toNat_lt
  refine ⟨?_, ?_⟩
  · rw [columns, decimalValue_toString]
    omega
  · rw [columns, decimalValue_toString]
    omega

theorem Readable.gives_columns (h : o.Readable) : o.columns.Gives o where
  inUse := by
    rw [columns]
    cases o.inUse <;> simp
  bssid := String.ofList_toList.symm
  ssid := String.ofList_toList.symm
  quality := by
    rw [columns, decimalValue_toString, Int.toNat_of_nonneg h.quality]
  rate := by
    rw [columns, decimalValue_toString]

/-- A quality that is not negative is written as a numeral. -/
theorem Readable.toString_quality (h : o.Readable) :
    toString o.quality.toInt = toString o.quality.toInt.toNat := by
  rw [Int.toString_eq_repr, Int.repr_eq_if, if_pos h.quality]
  rfl

/-- A row spells its columns. -/
theorem Readable.spelled_render (h : o.Readable) :
    Spelled o.columns.words ('*' :: o.render.toList) := by
  have hblank : isBlank ' ' = true := by decide
  have hrest : Spelled o.columns.words.tail (o.bssid.toList ++ ' ' :: ' ' :: (o.ssid.toList
      ++ ' ' :: ' ' :: ((toString o.rate.toNat).toList ++ ' ' :: ("Mbit/s".toList
        ++ ' ' :: ' ' :: (toString o.quality.toInt.toNat).toList)))) := by
    refine .word h.bssid hblank (.blank hblank ?_)
    refine .word h.ssid hblank (.blank hblank ?_)
    refine .word (isDecimal_toString _).isWord hblank ?_
    refine .word (by decide) hblank (.blank hblank ?_)
    exact .last (isDecimal_toString _).isWord
  rw [render, h.toString_quality]
  -- the mark of a row in use joins the one in front of the line
  cases hinUse : o.inUse with
  | true =>
      have hmarked := Spelled.word (w := ['*', '*']) (by decide) hblank (.blank hblank hrest)
      simpa [columns, hinUse, Columns.words] using hmarked
  | false =>
      have hmarked := Spelled.word (w := ['*']) (by decide) hblank
        (.blank hblank (.blank hblank hrest))
      simpa [columns, hinUse, Columns.words] using hmarked

theorem Readable.parse?_render (h : o.Readable) : parse? o.render = some o := by
  rw [parse?, ofLine?, h.spelled_render.words_eq, ofWords?_eq_some_iff o.isRow_columns]
  exact ⟨o.inRange_columns, h.gives_columns⟩

/-- What is read off a line is readable. -/
theorem readable_of_parse? (h : parse? line = some o) : o.Readable := by
  rw [parse?, ofLine?] at h
  obtain ⟨c, hrow, hwords⟩ := exists_columns_of_ofWords? h
  rw [hwords, ofWords?_eq_some_iff hrow] at h
  have hisWord : ∀ w ∈ c.words, IsWord w := (spelled_iff.2 hwords).isWord
  refine ⟨?_, ?_, ?_⟩
  · rw [h.2.bssid, String.toList_ofList]
    exact hisWord _ (by simp [Columns.words])
  · rw [h.2.ssid, String.toList_ofList]
    exact hisWord _ (by simp [Columns.words])
  · rw [h.2.quality]
    exact Int.natCast_nonneg _

/-! ## Tables -/

/-- A table is read line by line, and neither an empty line nor a blank at its end is a column. -/
theorem ignoresBlankEnds_ofLine? : IgnoresBlankEnds ofLine? where
  nil := rfl
  concat hc line := by
    have hwords : words ('*' :: line ++ [_]) = words ('*' :: line) := words_concat hc ('*' :: line)
    rw [List.cons_append] at hwords
    rw [ofLine?, hwords, ofLine?]

/-- A line feed cuts the reading of a table in two. -/
theorem ofTable_append (a b : String) : ofTable (a ++ "\n" ++ b) = ofTable a ++ ofTable b :=
  ignoresBlankEnds_ofLine?.readings_append a b

/-- A text without a line feed is one line. -/
theorem ofTable_of_notMem (h : '\n' ∉ line.toList) : ofTable line = (parse? line).toList :=
  ignoresBlankEnds_ofLine?.readings_of_notMem h

/-- A line ends at a line feed, or at a carriage return and a line feed. -/
def IsLineEnd (e : String) : Prop :=
  e = "\n" ∨ e = "\r\n"

/-- A line with its end in front of a text is read as that line and the text. -/
theorem ofTable_line {e : String} (he : IsLineEnd e) (h : '\n' ∉ line.toList) (text : String) :
    ofTable (line ++ e ++ text) = (parse? line).toList ++ ofTable text := by
  rcases he with rfl | rfl
  · rw [ofTable_append, ofTable_of_notMem h]
  · have hline : line ++ "\r\n" ++ text = (line ++ "\r") ++ "\n" ++ text := by
      rw [show "\r\n" = "\r" ++ "\n" from rfl, ← String.append_assoc]
    have hsame : parse? (line ++ "\r") = parse? line := by
      rw [parse?, String.toList_append]
      exact ignoresBlankEnds_ofLine?.concat (by decide) line.toList
    rw [hline, ofTable_append, ofTable_of_notMem (by simpa using h), hsame]

/-- A text lists observations: it has a row for each of them, in their order, and all its other
lines are no rows. -/
inductive Lists : List Observation → String → Prop where
  /-- The last line is a row. -/
  | lastRow {o : Observation} (ho : o.Readable) : Lists [o] o.render
  /-- The last line, which may be empty, is no row. -/
  | last {line : String} (hline : '\n' ∉ line.toList) (hnone : parse? line = none) : Lists [] line
  | row {o : Observation} {os : List Observation} {e text : String} (ho : o.Readable)
      (he : IsLineEnd e) (h : Lists os text) : Lists (o :: os) (o.render ++ e ++ text)
  | other {line : String} {os : List Observation} {e text : String} (hline : '\n' ∉ line.toList)
      (hnone : parse? line = none) (he : IsLineEnd e) (h : Lists os text) :
      Lists os (line ++ e ++ text)

/-- A row is one line. -/
theorem Readable.notMem_render (h : o.Readable) : '\n' ∉ o.render.toList := by
  have hword : ∀ {w : List Char}, IsWord w → '\n' ∉ w := by
    intro w hw hmem
    exact nomatch hw.2 '\n' hmem
  have hrate := hword (isDecimal_toString o.rate.toNat).isWord
  have hquality := hword (isDecimal_toString o.quality.toInt.toNat).isWord
  have hparts := And.intro (hword h.bssid) (And.intro (hword h.ssid) (And.intro hrate hquality))
  rw [render, h.toString_quality]
  cases o.inUse <;> simpa using hparts

/-- **Reading a text gives what it lists.** -/
theorem Lists.ofTable_eq (h : Lists os text) : ofTable text = os := by
  induction h with
  | lastRow ho =>
      rw [ofTable_of_notMem ho.notMem_render, ho.parse?_render]
      rfl
  | last hline hnone =>
      rw [ofTable_of_notMem hline, hnone]
      rfl
  | row ho he _ ih =>
      rw [ofTable_line he ho.notMem_render, ho.parse?_render, ih]
      rfl
  | other hline hnone he _ ih =>
      rw [ofTable_line he hline, hnone, ih]
      rfl

/-- **Observations survive being written and read.** A row reads back exactly if its observation is
readable; everything that is read off a line is readable, so writing it and reading it again changes
nothing; and a text that lists observations is read as these, in their order. -/
theorem rows_read_back :
    (∀ o : Observation, parse? o.render = some o ↔ o.Readable)
      ∧ (∀ (line : String) (o : Observation), parse? line = some o →
          o.Readable ∧ parse? o.render = some o)
      ∧ ∀ (os : List Observation) (text : String), Lists os text → ofTable text = os := by
  refine ⟨?_, ?_, fun os text => Lists.ofTable_eq⟩
  · intro o
    constructor
    · intro h
      exact readable_of_parse? h
    · intro h
      exact h.parse?_render
  · intro line o h
    exact ⟨readable_of_parse? h, (readable_of_parse? h).parse?_render⟩

end Roaming.Observation
