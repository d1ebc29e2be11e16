import Roaming.Proofs.Gateway
import Roaming.Proofs.Summary
import Roaming.Proofs.Table

/-!
# The three readers

Scan tables, route tables and probe summaries are read line by line, by readers of lines that see
neither empty lines nor blanks at the end of a line. Each takes another part of what is read: all of
it, the first and the last. So they compose over lines, each in its own way, and whatever does not
show in the readings of any such reader changes none of the three answers
(`SameAnswers.of_readings`).
-/

namespace Roaming.Text

/-- Two texts are the same to all three readers. -/
structure SameAnswers (s t : String) : Prop where
  table : Observation.ofTable s = Observation.ofTable t
  gateway : Route.gateway? s = Route.gateway? t
  summary : RoundTrip.ofSummary? s = RoundTrip.ofSummary? t

variable {s t : String}

/-- Readers of lines settle the answers of all three. -/
theorem SameAnswers.of_readings
    (h : ∀ {α : Type} {f : List Char → Option α}, IgnoresBlankEnds f →
      readings f s.toList = readings f t.toList) : SameAnswers s t where
  table := h Observation.ignoresBlankEnds_ofLine?
  gateway := by
    rw [Route.gateway?_eq, Route.gateway?_eq, h Route.ignoresBlankEnds_ofWords?]
  summary := by
    rw [RoundTrip.ofSummary?_eq, RoundTrip.ofSummary?_eq, h RoundTrip.ignoresBlankEnds_seen?]

/-- Line ends are the same to all three readers. -/
theorem sameAnswers_withReturns (s : String) : SameAnswers (withReturns s) s :=
  .of_readings fun h => h.readings_withReturns s

/-- Blanks behind a text are the same to all three readers. -/
theorem sameAnswers_append_blanks (s : String) (hblank : t.toList.all isBlank = true) :
    SameAnswers (s ++ t) s := by
  refine .of_readings fun h => ?_
  rw [String.toList_append, h.readings_append_blanks (List.all_eq_true.1 hblank)]

/-- **The readers compose over lines**: of two texts in a row the table is that of the one followed
by that of the other, the gateway is that of the first that has one, and the round trip times are
those of the second, with or without figures, unless it is blank. So neither carriage returns before
the line feeds nor blank lines at the end, nor any other blanks there, change one of the three. -/
theorem readers_compose_over_lines :
    (∀ a b : String,
      Observation.ofTable (a ++ "\n" ++ b) = Observation.ofTable a ++ Observation.ofTable b
        ∧ Route.gateway? (a ++ "\n" ++ b) = (Route.gateway? a <|> Route.gateway? b)
        ∧ RoundTrip.ofSummary? (a ++ "\n" ++ b)
          = if b.toList.any (!isBlank ·) then RoundTrip.ofSummary? b else RoundTrip.ofSummary? a)
      ∧ (∀ s : String, SameAnswers (withReturns s) s)
      ∧ ∀ s blanks : String, blanks.toList.all isBlank = true → SameAnswers (s ++ blanks) s := by
  refine ⟨?_, sameAnswers_withReturns, fun s blanks => sameAnswers_append_blanks s⟩
  intro a b
  refine ⟨Observation.ofTable_append a b, Route.gateway?_append a b, ?_⟩
  have hany : b.toList.any (!isBlank ·) = !b.toList.all isBlank := by
    rw [List.not_all_eq_any_not]
  rw [RoundTrip.ofSummary?_append, hany]
  cases b.toList.all isBlank <;> rfl

end Roaming.Text
