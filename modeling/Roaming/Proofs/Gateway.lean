import Roaming.Proofs.Lines
import Roaming.Route

/-!
# The gateway in a route table

A line routes via a gateway if it begins with the word `default` and the gateway is the word behind
its first `via` (`Via`). Some gateway is found in a line exactly if any `via` in it has a word
behind it (`exists_via_iff`): if a later one has, so has the first. The table is read line by line
and the first line with a gateway settles the answer (`gateway?_eq_some_iff`), so of two tables in a
row the first that has one does (`gateway?_append`).
-/

namespace Roaming.Route

open Text

variable {line gateway : List Char} {ws : List (List Char)} {table : String}

/-! ## One line -/

/-- A line is a default route, and the gateway is the word behind its first `via`. -/
def Via (line gateway : List Char) : Prop :=
  ∃ before after, words line = "default".toList :: (before ++ "via".toList :: gateway :: after)
    ∧ "via".toList ∉ before

/-- A line begins with the word `default`, and some later `via` has a word behind it. -/
def IsDefaultVia (line : List Char) : Prop :=
  ∃ before word after, words line = "default".toList :: (before ++ "via".toList :: word :: after)

/-- What is left without the words in front of the first `via`. -/
theorem dropWhile_via_eq_cons_iff {rest : List (List Char)} {first : List Char} :
    ws.dropWhile (· != "via".toList) = first :: rest ↔
      first = "via".toList ∧ ∃ before, ws = before ++ "via".toList :: rest
        ∧ "via".toList ∉ before := by
  constructor
  · intro h
    obtain rfl : first = "via".toList := by
      have hhead := List.head?_dropWhile_not (· != "via".toList) ws
      rw [h] at hhead
      simpa using hhead
    refine ⟨rfl, ws.takeWhile (· != "via".toList), ?_, ?_⟩
    · rw [← h, List.takeWhile_append_dropWhile]
    · intro hmem
      simpa using List.mem_takeWhile_imp hmem
  · rintro ⟨rfl, before, rfl, hbefore⟩
    rw [List.dropWhile_append_of_pos, List.dropWhile_cons_of_neg (by simp)]
    intro word hword
    exact bne_iff_ne.2 (ne_of_mem_of_not_mem hword hbefore)

theorem ofWords?_words_eq_some_iff : ofWords? (words line) = some gateway ↔ Via line gateway := by
  rw [Via]
  cases words line with
  | nil => simp [ofWords?]
  | cons first rest =>
      rw [ofWords?]
      by_cases hfirst : first = "default".toList
      · rw [if_pos hfirst, hfirst]
        constructor
        · intro h
          obtain ⟨via, after, hdrop⟩ : ∃ via after,
              rest.dropWhile (· != "via".toList) = via :: gateway :: after := by
            generalize rest.dropWhile (· != "via".toList) = behind at h
            rcases behind with _ | ⟨via, _ | ⟨word, after⟩⟩
            · exact nomatch h
            · exact nomatch h
            · obtain rfl : word = gateway := Option.some.inj h
              exact ⟨via, after, rfl⟩
          obtain ⟨-, before, hrest, hbefore⟩ := dropWhile_via_eq_cons_iff.1 hdrop
          exact ⟨before, after, by rw [hrest], hbefore⟩
        · rintro ⟨before, after, hwords, hbefore⟩
          obtain ⟨-, hrest⟩ := List.cons.inj hwords
          rw [dropWhile_via_eq_cons_iff.2 ⟨rfl, before, hrest, hbefore⟩]
          rfl
      · rw [if_neg hfirst]
        constructor
        · intro h
          exact nomatch h
        · rintro ⟨before, after, hwords, -⟩
          exact absurd (List.cons.inj hwords).1 hfirst

/-- If any `via` has a word behind it, so has the first. -/
theorem exists_via_iff : (∃ gateway, Via line gateway) ↔ IsDefaultVia line := by
  constructor
  · rintro ⟨gateway, before, after, hwords, -⟩
    exact ⟨before, gateway, after, hwords⟩
  · rintro ⟨before, word, after, hwords⟩
    obtain ⟨front, back, hfront, hbefore⟩ :
        ∃ front back, before ++ ["via".toList] = front ++ "via".toList :: back
          ∧ "via".toList ∉ front :=
      List.eq_append_cons_of_mem (List.mem_append_right _ (List.mem_singleton_self _))
    have hrest : before ++ "via".toList :: word :: after
        = front ++ "via".toList :: (back ++ word :: after) := by
      have hjoined := congrArg (· ++ word :: after) hfront
      simpa using hjoined
    rw [hrest] at hwords
    cases hback : back ++ word :: after with
    | nil => simp at hback
    | cons gateway behind =>
        rw [hback] at hwords
        exact ⟨gateway, front, behind, hwords, hbefore⟩

theorem ofWords?_words_eq_none_iff : ofWords? (words line) = none ↔ ¬ IsDefaultVia line := by
  rw [← exists_via_iff, Option.eq_none_iff_forall_ne_some, not_exists]
  exact forall_congr' fun gateway => not_congr ofWords?_words_eq_some_iff

/-! ## The table -/

theorem ignoresBlankEnds_ofWords? : IgnoresBlankEnds fun line => ofWords? (words line) where
  nil := rfl
  concat hc line := congrArg ofWords? (words_concat hc line)

/-- The gateway is the first that is read off the table line by line. -/
theorem gateway?_eq (table : String) : gateway? table
    = (readings (fun line => ofWords? (words line)) table.toList).head?.map String.ofList := by
  rw [readings, List.head?_filterMap]
  rfl

/-- Of two tables in a row the second settles the gateway only if the first has none. -/
theorem gateway?_append (a b : String) :
    gateway? (a ++ "\n" ++ b) = (gateway? a <|> gateway? b) := by
  rw [gateway?_eq, ignoresBlankEnds_ofWords?.readings_append, List.head?_append, gateway?_eq,
    gateway?_eq]
  cases (readings (fun line => ofWords? (words line)) a.toList).head? <;> rfl

/-- The gateway of a table is that of the first line that has one. -/
def FirstVia (table gateway : String) : Prop :=
  ∃ earlier line later, lines table.toList = earlier ++ line :: later
    ∧ (∀ skipped ∈ earlier, ¬ IsDefaultVia skipped) ∧ Via line gateway.toList

/-- **The first default route with a gateway settles the gateway.** -/
theorem gateway?_eq_some_iff {gateway : String} :
    gateway? table = some gateway ↔ FirstVia table gateway := by
  rw [gateway?, Option.map_eq_some_iff]
  constructor
  · rintro ⟨found, hfound, rfl⟩
    obtain ⟨earlier, line, later, hlines, hline, hearlier⟩ := List.findSome?_eq_some_iff.1 hfound
    refine ⟨earlier, line, later, hlines, ?_, ?_⟩
    · intro skipped hskipped
      exact ofWords?_words_eq_none_iff.1 (hearlier skipped hskipped)
    · rw [String.toList_ofList]
      exact ofWords?_words_eq_some_iff.1 hline
  · rintro ⟨earlier, line, later, hlines, hearlier, hline⟩
    refine ⟨gateway.toList, List.findSome?_eq_some_iff.2 ?_, String.ofList_toList⟩
    refine ⟨earlier, line, later, hlines, ofWords?_words_eq_some_iff.2 hline, ?_⟩
    intro skipped hskipped
    exact ofWords?_words_eq_none_iff.2 (hearlier skipped hskipped)

theorem gateway?_eq_none_iff :
    gateway? table = none ↔ ∀ line ∈ lines table.toList, ¬ IsDefaultVia line := by
  rw [gateway?, Option.map_eq_none_iff, List.findSome?_eq_none_iff]
  exact forall₂_congr fun line _ => ofWords?_words_eq_none_iff

/-- A table has a gateway exactly if a line of it has one. -/
theorem exists_firstVia_iff :
    (∃ gateway, FirstVia table gateway) ↔ ∃ line ∈ lines table.toList, IsDefaultVia line := by
  have hnone := not_congr (@gateway?_eq_none_iff table)
  rw [← ne_eq, Option.ne_none_iff_exists'] at hnone
  simpa only [gateway?_eq_some_iff, not_forall, not_not, exists_prop] using hnone

end Roaming.Route
