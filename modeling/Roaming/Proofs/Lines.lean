import Roaming.Proofs.Words

/-!
# Reading a text line by line

A reader of lines that sees neither empty lines nor blanks at the end of a line
(`IgnoresBlankEnds`) does not see how lines end either: what it reads off a text is what it reads
off the pieces between the line feeds (`IgnoresBlankEnds.readings_eq`), although the last piece may
be no line at all and any other may lose a carriage return. So a line feed cuts its answer in two
(`IgnoresBlankEnds.readings_append_cons`).

A text either has no line feed, or one cuts it into two shorter texts (`lines_induction`). By this
induction the answer is the same with a carriage return before each line feed
(`IgnoresBlankEnds.readings_withReturns`) and with any blanks behind the text
(`IgnoresBlankEnds.readings_append_blanks`).
-/

namespace Roaming.Text

variable {α : Type} {f : List Char → Option α} {c : Char} {cs ds : List Char}

/-- What a reader of lines reads off a text, line by line. -/
def readings (f : List Char → Option α) (cs : List Char) : List α :=
  (lines cs).filterMap f

/-- A reader of lines sees neither an empty line nor a blank at the end of a line. -/
structure IgnoresBlankEnds (f : List Char → Option α) : Prop where
  nil : f [] = none
  concat : ∀ {c : Char}, isBlank c = true → ∀ line, f (line ++ [c]) = f line

/-- Texts are lines, cut off from each other by line feeds. -/
theorem lines_induction {P : List Char → Prop} (line : ∀ cs, '\n' ∉ cs → P cs)
    (cut : ∀ cs ds, P cs → P ds → P (cs ++ '\n' :: ds)) (cs : List Char) : P cs := by
  -- the induction is on the length, since a line feed may stand anywhere
  induction hlength : cs.length using Nat.strong_induction_on generalizing cs with
  | _ n ih =>
      by_cases hfeed : '\n' ∈ cs
      · obtain ⟨before, after, rfl⟩ := List.append_of_mem hfeed
        rw [List.length_append, List.length_cons] at hlength
        exact cut before after (ih _ (by omega) before rfl) (ih _ (by omega) after rfl)
      · exact line cs hfeed

/-- Dropping a carriage return drops that or nothing. -/
theorem dropReturn_cases (line : List Char) :
    dropReturn line = line ∨ line = dropReturn line ++ ['\r'] := by
  fun_induction dropReturn line with
  | case1 => exact .inl rfl
  | case2 => exact .inr rfl
  | case3 c cs _ ih =>
      rcases ih with ih | ih
      · exact .inl (congrArg (c :: ·) ih)
      · exact .inr (congrArg (c :: ·) ih)

namespace IgnoresBlankEnds

theorem dropReturn (h : IgnoresBlankEnds f) (line : List Char) :
    f (Text.dropReturn line) = f line := by
  rcases dropReturn_cases line with hsame | hdropped
  · rw [hsame]
  · have hback := h.concat (c := '\r') (by decide) (Text.dropReturn line)
    rw [← hdropped] at hback
    exact hback.symm

/-- What is read off the lines of a text is read off the pieces between its line feeds. -/
theorem readings_eq (h : IgnoresBlankEnds f) (cs : List Char) :
    readings f cs = (cs.splitOnP (· == '\n')).filterMap f := by
  rw [readings, lines]
  generalize cs.splitOnP (· == '\n') = pieces
  fun_induction linesOfPieces pieces with
  | case1 => rfl
  | case2 last hlast => rw [List.isEmpty_iff.1 hlast, List.filterMap_cons_none h.nil]
  | case3 last hlast => rfl
  | case4 line rest _ ih => rw [List.filterMap_cons, List.filterMap_cons, h.dropReturn, ih]

/-- **A line feed cuts a reading in two.** -/
theorem readings_append_cons (h : IgnoresBlankEnds f) (cs ds : List Char) :
    readings f (cs ++ '\n' :: ds) = readings f cs ++ readings f ds := by
  rw [h.readings_eq, List.splitOnP_append_cons _ _ (by decide), List.filterMap_append,
    ← h.readings_eq, ← h.readings_eq]

theorem readings_append (h : IgnoresBlankEnds f) (a b : String) :
    readings f (a ++ "\n" ++ b).toList = readings f a.toList ++ readings f b.toList := by
  have hlist : (a ++ "\n" ++ b).toList = a.toList ++ '\n' :: b.toList := by
    simp
  rw [hlist, h.readings_append_cons]

/-- A text without a line feed is one line. -/
theorem readings_of_notMem (h : IgnoresBlankEnds f) (hline : '\n' ∉ cs) :
    readings f cs = (f cs).toList := by
  have hpiece : ∀ c ∈ cs, (c == '\n') = false := by
    intro c hc
    exact beq_eq_false_iff_ne.2 fun heq => hline (heq ▸ hc)
  rw [h.readings_eq, List.splitOnP_eq_singleton hpiece, List.filterMap_cons, List.filterMap_nil]
  cases f cs <;> rfl

theorem readings_nil (h : IgnoresBlankEnds f) : readings f [] = [] := by
  rw [h.readings_of_notMem List.not_mem_nil, h.nil]
  rfl

/-! ## Blanks at the end -/

theorem readings_concat (h : IgnoresBlankEnds f) (hc : isBlank c = true) (cs : List Char) :
    readings f (cs ++ [c]) = readings f cs := by
  by_cases hfeed : c = '\n'
  · rw [hfeed, h.readings_append_cons, h.readings_nil, List.append_nil]
  · -- the blank belongs to the last line, which is read by itself
    induction cs using lines_induction with
    | line line hline =>
        have hlonger : '\n' ∉ line ++ [c] := by
          simp [hline, Ne.symm hfeed]
        rw [h.readings_of_notMem hline, h.readings_of_notMem hlonger, h.concat hc]
    | cut before after _ ih =>
        rw [List.append_assoc, List.cons_append, h.readings_append_cons, ih,
          h.readings_append_cons]

/-- **Blanks behind a text do not show.** -/
theorem readings_append_blanks (h : IgnoresBlankEnds f) (hblank : ∀ c ∈ ds, isBlank c = true)
    (cs : List Char) : readings f (cs ++ ds) = readings f cs := by
  induction ds generalizing cs with
  | nil => rw [List.append_nil]
  | cons d ds ih =>
      rw [List.forall_mem_cons] at hblank
      rw [List.append_cons, ih hblank.2, h.readings_concat hblank.1]

end IgnoresBlankEnds

/-! ## Carriage returns -/

/-- A text with a carriage return before each line feed. -/
def withReturns (s : String) : String :=
  String.ofList (s.toList.flatMap fun c => if c = '\n' then ['\r', '\n'] else [c])

theorem toList_withReturns (s : String) : (withReturns s).toList
    = s.toList.flatMap fun c => if c = '\n' then ['\r', '\n'] else [c] :=
  String.toList_ofList

/-- **How lines end does not show.** -/
theorem IgnoresBlankEnds.readings_withReturns (h : IgnoresBlankEnds f) (s : String) :
    readings f (withReturns s).toList = readings f s.toList := by
  rw [toList_withReturns]
  induction s.toList using lines_induction with
  | line line hline =>
      have hsame : (line.flatMap fun c => if c = '\n' then ['\r', '\n'] else [c]) = line := by
        calc (line.flatMap fun c => if c = '\n' then ['\r', '\n'] else [c])
            = line.flatMap fun c => [c] := by
              refine List.flatMap_congr fun c hc => if_neg ?_
              rintro rfl
              exact hline hc
          _ = line := List.flatMap_singleton' line
      rw [hsame]
  | cut before after hbefore hafter =>
      rw [List.flatMap_append, List.flatMap_cons, if_pos rfl, List.cons_append, List.cons_append,
        List.nil_append, List.append_cons, h.readings_append_cons,
        h.readings_concat (by decide), hbefore, hafter, h.readings_append_cons]

end Roaming.Text
