import Roaming.Latency
import Roaming.Proofs.Lines

/-!
# The figures in the summary of a probe

Four numerals joined by slashes are the figures of a field (`Figures.Written`), and since no numeral
has a slash in it (`Decimal.slash_notMem`), a field has the figures of one reading only. The field
is the fourth word of the last line that is not blank. So the round trip times of an output are
those of its figures, and there are none if it has no figures (`RoundTrip.ofSummary?_eq_some_iff`);
and of two outputs in a row the second settles them, unless it is blank
(`RoundTrip.ofSummary?_append`).
-/

namespace Roaming

open Text

/-! ## Numerals -/

namespace Decimal

variable {cs : List Char} {d : Decimal}

theorem slash_notMem_of_isNumeral (h : isNumeral cs = true) : '/' ∉ cs := by
  intro hmem
  rw [isNumeral, Bool.and_eq_true] at h
  exact absurd (List.all_eq_true.1 h.2 _ hmem) (by decide)

/-- A sign is no slash. -/
theorem mem_signed (h : '/' ∈ cs) : '/' ∈ (signed cs).2 := by
  rw [signed.eq_def]
  split
  · exact (List.mem_cons.1 h).resolve_left (by decide)
  · exact (List.mem_cons.1 h).resolve_left (by decide)
  · exact h

theorem slash_notMem_of_powerOfTen? {power : Int} (h : powerOfTen? cs = some power) :
    '/' ∉ cs := by
  intro hmem
  cases cs with
  | nil => exact List.not_mem_nil hmem
  | cons c cs =>
      rw [powerOfTen?] at h
      split at h
      · next hmark =>
          have hrest : '/' ∈ cs := by
            refine (List.mem_cons.1 hmem).resolve_left ?_
            rintro rfl
            exact absurd hmark (by decide)
          simp only [Option.ite_none_right_eq_some] at h
          exact slash_notMem_of_isNumeral h.1 (mem_signed hrest)
      · exact nomatch h

theorem slash_notMem_of_finite? {negative : Bool} (h : finite? negative cs = some d) :
    '/' ∉ cs := by
  intro hmem
  have hdigits : ∀ {ds : List Char}, '/' ∉ ds.takeWhile isDigit := by
    intro ds hdigit
    exact absurd (List.mem_takeWhile_imp hdigit) (by decide)
  -- a slash is no digit, so it stands behind the digits
  have hbehind : ∀ {ds : List Char}, '/' ∈ ds → '/' ∈ ds.dropWhile isDigit := by
    intro ds hslash
    rw [← ds.takeWhile_append_dropWhile] at hslash
    exact (List.mem_append.1 hslash).resolve_left hdigits
  have htail := hbehind hmem
  rw [finite?] at h
  generalize cs.dropWhile isDigit = afterWhole at h htail
  simp only [Option.ite_none_left_eq_some, Option.map_eq_some_iff] at h
  obtain ⟨-, power, hpower, -⟩ := h
  refine slash_notMem_of_powerOfTen? hpower ?_
  split
  · exact hbehind ((List.mem_cons.1 htail).resolve_left (by decide))
  · exact htail

/-- No numeral has a slash in it. -/
theorem slash_notMem (h : read? cs = some d) : '/' ∉ cs := by
  intro hmem
  have hbody := mem_signed hmem
  rw [read?] at h
  generalize signed cs = split at h hbody
  obtain ⟨negative, body⟩ := split
  have hword : ∀ {word : String}, '/' ∉ word.toList →
      String.ofList (body.map Char.toLower) ≠ word := by
    rintro _ hnone rfl
    rw [String.toList_ofList] at hnone
    exact hnone (List.mem_map.2 ⟨'/', hbody, by decide⟩)
  simp only [hword (by decide : '/' ∉ "inf".toList), hword (by decide : '/' ∉ "infinity".toList),
    hword (by decide : '/' ∉ "nan".toList), if_false] at h
  exact slash_notMem_of_finite? h hbody

end Decimal

/-! ## Fields -/

/-- The four figures of a summary as numbers. -/
structure Figures where
  min : Decimal
  avg : Decimal
  max : Decimal
  mdev : Decimal

namespace Figures

/-- The round trip times that figures stand for. -/
def times (f : Figures) : RoundTrip where
  min := f.min.toFloat
  avg := f.avg.toFloat
  max := f.max.toFloat
  mdev := f.mdev.toFloat

/-- A field holds the numerals of the figures, joined by slashes. -/
def Written (f : Figures) (field : List Char) : Prop :=
  ∃ min avg max mdev, field = min ++ '/' :: (avg ++ '/' :: (max ++ '/' :: mdev))
    ∧ Decimal.read? min = some f.min ∧ Decimal.read? avg = some f.avg
    ∧ Decimal.read? max = some f.max ∧ Decimal.read? mdev = some f.mdev

end Figures

namespace RoundTrip

variable {line field : List Char} {times : RoundTrip} {output : String}

/-- Reading each member of a list succeeds if the reading of each member does. -/
theorem mapM_eq_some_iff {α β : Type} {g : α → Option β} {as : List α} {bs : List β} :
    as.mapM g = some bs ↔ as.map g = bs.map some := by
  induction as generalizing bs with
  | nil => cases bs <;> simp
  | cons a as ih =>
      rw [List.mapM_cons, List.map_cons]
      cases ha : g a with
      | none => cases bs <;> simp
      | some b =>
          cases has : as.mapM g with
          | none =>
              rw [Option.eq_none_iff_forall_ne_some] at has
              cases bs <;> simp [← ih, has]
          | some rest => cases bs <;> simp [← ih, has]

/-- A field is read exactly if it holds four numerals joined by slashes. -/
theorem ofField?_eq_some_iff :
    ofField? field = some times ↔ ∃ f : Figures, f.Written field ∧ f.times = times := by
  constructor
  · intro h
    obtain ⟨xs, hread, hfour⟩ := Option.bind_eq_some_iff.1 h
    rw [mapM_eq_some_iff] at hread
    split at hfour
    · next =>
        obtain rfl := Option.some.inj hfour
        have hjoin : ['/'].intercalate (field.splitOn '/') = field :=
          List.intercalate_splitOn '/'
        obtain ⟨min, _, hsplit, hmin, hrest⟩ := List.map_eq_cons_iff.1 hread
        obtain ⟨avg, _, rfl, havg, hrest⟩ := List.map_eq_cons_iff.1 hrest
        obtain ⟨max, _, rfl, hmax, hrest⟩ := List.map_eq_cons_iff.1 hrest
        obtain ⟨mdev, _, rfl, hmdev, hrest⟩ := List.map_eq_cons_iff.1 hrest
        obtain rfl := List.map_eq_nil_iff.1 hrest
        obtain ⟨fmin, hminRead, rfl⟩ := Option.map_eq_some_iff.1 hmin
        obtain ⟨favg, havgRead, rfl⟩ := Option.map_eq_some_iff.1 havg
        obtain ⟨fmax, hmaxRead, rfl⟩ := Option.map_eq_some_iff.1 hmax
        obtain ⟨fmdev, hmdevRead, rfl⟩ := Option.map_eq_some_iff.1 hmdev
        rw [hsplit] at hjoin
        refine ⟨⟨fmin, favg, fmax, fmdev⟩, ⟨min, avg, max, mdev, ?_, ?_⟩, rfl⟩
        · simpa using hjoin.symm
        · exact ⟨hminRead, havgRead, hmaxRead, hmdevRead⟩
    · exact nomatch hfour
  · rintro ⟨f, ⟨min, avg, max, mdev, rfl, hmin, havg, hmax, hmdev⟩, rfl⟩
    have hsplit : (min ++ '/' :: (avg ++ '/' :: (max ++ '/' :: mdev))).splitOn '/'
        = [min, avg, max, mdev] := by
      have hpieces : ∀ piece ∈ [min, avg, max, mdev], '/' ∉ piece := by
        simp [Decimal.slash_notMem hmin, Decimal.slash_notMem havg, Decimal.slash_notMem hmax,
          Decimal.slash_notMem hmdev]
      rw [← List.splitOn_intercalate '/' hpieces (by simp)]
      simp
    have hread : [min, avg, max, mdev].mapM Decimal.readFloat?
        = some [f.min.toFloat, f.avg.toFloat, f.max.toFloat, f.mdev.toFloat] := by
      rw [mapM_eq_some_iff]
      simp [Decimal.readFloat?, hmin, havg, hmax, hmdev]
    rw [ofField?, hsplit, hread]
    rfl

/-! ## Outputs -/

/-- The last line of a text that is not blank. -/
def LastLine (text : String) (line : List Char) : Prop :=
  ∃ earlier blanks, lines text.toList = earlier ++ line :: blanks
    ∧ (∃ c ∈ line, isBlank c = false) ∧ ∀ blank ∈ blanks, ∀ c ∈ blank, isBlank c = true

/-- The last line of an output that is not blank has four words at least, of which the fourth holds
the figures. -/
def Summarizes (output : String) (f : Figures) : Prop :=
  ∃ line first second third field rest, LastLine output line
    ∧ words line = first :: second :: third :: field :: rest ∧ f.Written field

theorem lastLine_iff {text : String} :
    LastLine text line ↔
      (lines text.toList).reverse.find? (fun line => !line.all isBlank) = some line := by
  have hblank : ∀ {line : List Char}, (!line.all isBlank) = true ↔
      ∃ c ∈ line, isBlank c = false := by
    simp
  rw [List.find?_eq_some_iff_append, hblank, LastLine]
  constructor
  · rintro ⟨earlier, blanks, hlines, hline, hblanks⟩
    refine ⟨hline, blanks.reverse, earlier.reverse, by simp [hlines], ?_⟩
    simpa using hblanks
  · rintro ⟨hline, blanks, earlier, hlines, hblanks⟩
    refine ⟨earlier.reverse, blanks.reverse, ?_, hline, ?_⟩
    · rw [← List.reverse_inj, hlines]
      simp
    · simpa using hblanks

theorem getElem?_three_eq_some_iff {ws : List (List Char)} :
    ws[3]? = some field ↔
      ∃ first second third rest, ws = first :: second :: third :: field :: rest := by
  constructor
  · intro h
    rcases ws with _ | ⟨first, _ | ⟨second, _ | ⟨third, _ | ⟨fourth, rest⟩⟩⟩⟩
    · exact nomatch h
    · exact nomatch h
    · exact nomatch h
    · exact nomatch h
    · obtain rfl : fourth = field := Option.some.inj h
      exact ⟨first, second, third, rest, rfl⟩
  · rintro ⟨first, second, third, rest, rfl⟩
    rfl

/-- **An output is read exactly if it has figures.** -/
theorem ofSummary?_eq_some_iff :
    ofSummary? output = some times ↔ ∃ f, Summarizes output f ∧ f.times = times := by
  rw [ofSummary?, Option.bind_eq_some_iff]
  constructor
  · rintro ⟨line, hline, hread⟩
    obtain ⟨field, hfield, hfigures⟩ := Option.bind_eq_some_iff.1 hread
    obtain ⟨first, second, third, rest, hwords⟩ := getElem?_three_eq_some_iff.1 hfield
    obtain ⟨f, hwritten, htimes⟩ := ofField?_eq_some_iff.1 hfigures
    exact ⟨f, ⟨line, first, second, third, field, rest, lastLine_iff.2 hline, hwords, hwritten⟩,
      htimes⟩
  · rintro ⟨f, ⟨line, first, second, third, field, rest, hline, hwords, hwritten⟩, htimes⟩
    refine ⟨line, lastLine_iff.1 hline, Option.bind_eq_some_iff.2 ⟨field, ?_, ?_⟩⟩
    · exact getElem?_three_eq_some_iff.2 ⟨first, second, third, rest, hwords⟩
    · exact ofField?_eq_some_iff.2 ⟨f, hwritten, htimes⟩

/-! ## Outputs in a row -/

/-- Reads a line that is not blank; it may have no figures. -/
def seen? (line : List Char) : Option (Option RoundTrip) :=
  if line.all isBlank then none else some (ofLine? line)

theorem ignoresBlankEnds_seen? : IgnoresBlankEnds seen? where
  nil := rfl
  concat {c} hc line := by
    have hblank : (line ++ [c]).all isBlank = line.all isBlank := by
      simp [hc]
    rw [seen?, hblank, ofLine?, words_concat hc, seen?, ofLine?]

/-- The last line that is not blank settles the round trip times. -/
theorem ofSummary?_eq (output : String) :
    ofSummary? output = (readings seen? output.toList).getLast?.join := by
  rw [ofSummary?, readings, List.getLast?_eq_head?_reverse, ← List.filterMap_reverse]
  generalize (lines output.toList).reverse = later
  induction later with
  | nil => rfl
  | cons line earlier ih =>
      by_cases hblank : line.all isBlank = true
      · rw [List.find?_cons_of_neg (by rw [hblank]; exact Bool.false_ne_true),
          List.filterMap_cons_none (by rw [seen?, if_pos hblank]), ih]
      · rw [List.find?_cons_of_pos (by rw [Bool.not_eq_true] at hblank; rw [hblank]; rfl),
          List.filterMap_cons_some (by rw [seen?, if_neg hblank])]
        rfl

/-- A text without a line to read is blank. -/
theorem readings_seen?_eq_nil_iff {cs : List Char} :
    readings seen? cs = [] ↔ cs.all isBlank = true := by
  induction cs using lines_induction with
  | line line hline =>
      rw [ignoresBlankEnds_seen?.readings_of_notMem hline, Option.toList_eq_nil_iff, seen?,
        ite_eq_left_iff]
      simp
  | cut before after hbefore hafter =>
      rw [ignoresBlankEnds_seen?.readings_append_cons, List.append_eq_nil_iff, hbefore, hafter,
        List.all_append, List.all_cons, Bool.and_eq_true]
      exact Iff.rfl

/-- Of two outputs in a row the first settles the round trip times only if the second is blank. -/
theorem ofSummary?_append (a b : String) :
    ofSummary? (a ++ "\n" ++ b)
      = if b.toList.all isBlank then ofSummary? a else ofSummary? b := by
  rw [ofSummary?_eq, ignoresBlankEnds_seen?.readings_append, List.getLast?_append, ofSummary?_eq,
    ofSummary?_eq]
  by_cases hblank : b.toList.all isBlank = true
  · rw [if_pos hblank, readings_seen?_eq_nil_iff.2 hblank]
    rfl
  · rw [if_neg hblank]
    rw [← readings_seen?_eq_nil_iff, ← List.getLast?_eq_none_iff, ← ne_eq,
      Option.ne_none_iff_exists'] at hblank
    obtain ⟨last, hlast⟩ := hblank
    rw [hlast]
    rfl

end RoundTrip

end Roaming
