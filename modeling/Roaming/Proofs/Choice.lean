import Roaming.Verdict

/-!
# Accepted candidates and the choice among them

An accepted candidate passed three gates. In unbounded integers the second one says that its quality
is greater than the sum of the quality of the link and the penalty: the sum stays within the range
of qualities only where no candidate can beat it anyway (`threshold_lt_iff`).

Choices are compared by score and then by BSSID, so two of them may be tied. Whatever beats a choice
beats all that do not beat it (`beats_of_not_beats`). Hence one pass over a list of choices keeps
the one that leads the list: it beats all before it, and none after it beats it (`leads_foldl`).
There is only one such choice, and it is the selected one (`select_eq_some_iff`). So the choice
among candidates is one of them and was accepted (`best_mem`).
-/

namespace Roaming

namespace AccessPoint

variable {penalty : Int32} {link candidate : AccessPoint} {score : Int32}

/-- The difference of two qualities that are not negative is within the range. -/
theorem toInt_sub_of_nonneg {a b : Int32} (ha : 0 ≤ a) (hb : 0 ≤ b) :
    (a - b).toInt = a.toInt - b.toInt := by
  have ha' : 0 ≤ a.toInt := Int32.le_iff_toInt_le.1 ha
  have hb' : 0 ≤ b.toInt := Int32.le_iff_toInt_le.1 hb
  have halt := a.toInt_lt
  have hblt := b.toInt_lt
  rw [Int32.toInt_sub]
  exact Int.bmod_eq_of_le (by omega) (by omega)

/-- The clamp of the threshold decides nothing: a quality beats the threshold exactly if it beats
the sum. -/
theorem threshold_lt_iff (hpenalty : 0 ≤ penalty.toInt) (quality : Int32) :
    link.threshold penalty < quality ↔ link.quality.toInt + penalty.toInt < quality.toInt := by
  have hlow : Int32.minValue.toInt ≤ link.quality.toInt := link.quality.minValue_le_toInt
  have hhigh : quality.toInt ≤ Int32.maxValue.toInt := quality.toInt_le
  rw [Int32.lt_iff_toInt_lt, threshold]
  by_cases hsum : link.quality.toInt + penalty.toInt ≤ Int32.maxValue.toInt
  · rw [Int32.toInt_ofIntClamp (by omega) hsum]
  · -- the sum is clamped to the greatest quality, which no quality beats
    have hclamped : Int32.ofIntClamp (link.quality.toInt + penalty.toInt) = Int32.maxValue := by
      rw [Int32.ofIntClamp, dif_pos (by omega), dif_neg hsum]
    rw [hclamped]
    omega

/-- A candidate is accepted exactly if it passes the three gates. -/
theorem judge_eq_accepted_iff :
    link.judge penalty candidate = .accepted score ↔
      candidate.isSlowerThan link = false ∧ link.threshold penalty < candidate.quality
        ∧ link.rate ≤ candidate.rate ∧ candidate.quality - link.quality = score := by
  rw [judge]
  cases hlatency : candidate.isSlowerThan link with
  | true => simp
  | false =>
      by_cases hquality : candidate.quality ≤ link.threshold penalty
      · simp [hquality, Int32.not_lt.2 hquality]
      · by_cases hrate : candidate.rate < link.rate
        · simp [hquality, hrate, UInt32.not_le.2 hrate]
        · simp [hquality, hrate, Int32.not_le.1 hquality, UInt32.not_lt.1 hrate]

end AccessPoint

namespace Choice

variable {a b c : Choice} {choices : List Choice}

/-! ## The order of choices -/

theorem beats_iff : a.beats b = true ↔
    b.score < a.score ∨ a.score = b.score ∧ a.entry.bssid < b.entry.bssid := by
  rw [beats, Bool.or_eq_true, Bool.and_eq_true, decide_eq_true_eq, beq_iff_eq, decide_eq_true_eq]

theorem beats_eq_false_iff : a.beats b = false ↔
    a.score ≤ b.score ∧ (a.score = b.score → b.entry.bssid ≤ a.entry.bssid) := by
  rw [← Bool.not_eq_true, beats_iff, not_or, not_and, Int32.not_lt, String.not_lt]

theorem beats_self (a : Choice) : a.beats a = false :=
  beats_eq_false_iff.2 ⟨Int32.le_refl _, fun _ => String.le_refl _⟩

/-- What beats a choice beats all that do not beat the choice. -/
theorem beats_of_not_beats (h : a.beats b = true) (hc : c.beats b = false) : a.beats c = true := by
  rw [beats_iff] at h ⊢
  rw [beats_eq_false_iff] at hc
  grind

theorem beats_asymm (h : a.beats b = true) : b.beats a = false := by
  rw [beats_iff] at h
  rw [beats_eq_false_iff]
  grind

theorem not_beats_trans (h : a.beats b = false) (h' : b.beats c = false) : a.beats c = false := by
  refine Bool.eq_false_iff.2 fun hac => ?_
  have hab := beats_of_not_beats hac h'
  rw [h] at hab
  exact nomatch hab

/-- Choices neither of which beats the other are tied. -/
theorem tied_of_not_beats (h : a.beats b = false) (h' : b.beats a = false) :
    a.score = b.score ∧ a.entry.bssid = b.entry.bssid := by
  rw [beats_eq_false_iff] at h h'
  have hscore := Int32.le_antisymm h.1 h'.1
  exact ⟨hscore, String.le_antisymm (h'.2 hscore.symm) (h.2 hscore)⟩

/-! ## The choice that leads a list -/

/-- A choice leads a list: it beats all before it, and none after it beats it. -/
def Leads (c : Choice) (choices : List Choice) : Prop :=
  ∃ before after, choices = before ++ c :: after
    ∧ (∀ x ∈ before, c.beats x = true) ∧ ∀ x ∈ after, x.beats c = false

theorem leads_singleton (c : Choice) : Leads c [c] :=
  ⟨[], [], rfl, List.forall_mem_nil _, List.forall_mem_nil _⟩

theorem Leads.mem (h : Leads c choices) : c ∈ choices := by
  obtain ⟨before, after, rfl, -⟩ := h
  exact List.mem_append_right _ List.mem_cons_self

theorem Leads.not_beats (h : Leads c choices) : ∀ x ∈ choices, x.beats c = false := by
  obtain ⟨before, after, rfl, hbefore, hafter⟩ := h
  intro x hx
  rcases List.mem_append.1 hx with hx | hx
  · exact beats_asymm (hbefore x hx)
  · rcases List.mem_cons.1 hx with rfl | hx
    · exact beats_self x
    · exact hafter x hx

/-- One more choice takes the lead exactly if it beats the one that leads. -/
theorem Leads.concat (h : Leads c choices) (next : Choice) :
    Leads (if next.beats c then next else c) (choices ++ [next]) := by
  obtain ⟨before, after, rfl, hbefore, hafter⟩ := h
  by_cases hnext : next.beats c = true
  · rw [if_pos hnext]
    refine ⟨before ++ c :: after, [], rfl, ?_, List.forall_mem_nil _⟩
    intro x hx
    rcases List.mem_append.1 hx with hx | hx
    · exact beats_of_not_beats hnext (beats_asymm (hbefore x hx))
    · rcases List.mem_cons.1 hx with rfl | hx
      · exact hnext
      · exact beats_of_not_beats hnext (hafter x hx)
  · rw [if_neg hnext]
    refine ⟨before, after ++ [next], ?_, hbefore, ?_⟩
    · rw [List.append_assoc, List.cons_append]
    · intro x hx
      rcases List.mem_append.1 hx with hx | hx
      · exact hafter x hx
      · rw [List.mem_singleton.1 hx]
        exact Bool.eq_false_iff.2 hnext

/-- One pass keeps the choice that leads all that it has met. -/
theorem leads_foldl {earlier : List Choice} (h : Leads c earlier) (choices : List Choice) :
    Leads (choices.foldl (fun best next => if next.beats best then next else best) c)
      (earlier ++ choices) := by
  induction choices generalizing c earlier with
  | nil =>
      rw [List.append_nil]
      exact h
  | cons next choices ih =>
      have hstep := ih (h.concat next)
      rw [List.append_assoc] at hstep
      exact hstep

/-- Only one choice leads a list. -/
theorem Leads.unique (ha : Leads a choices) (hb : Leads b choices) : a = b := by
  -- the later of the two would beat the earlier one and also not beat it
  have hfirst : ∀ {a b : Choice} {after between rest : List Choice},
      a :: after = between ++ b :: rest → (∀ x ∈ between, b.beats x = true) →
      (∀ x ∈ after, x.beats a = false) → a = b := by
    intro a b after between rest hsplit hbetween hafter
    rcases List.cons_eq_append_iff.1 hsplit with ⟨-, hcons⟩ | ⟨between, rfl, rfl⟩
    · exact (List.cons.inj hcons).1.symm
    · have hbeats := hbetween a List.mem_cons_self
      rw [hafter b (List.mem_append_right _ List.mem_cons_self)] at hbeats
      exact nomatch hbeats
  obtain ⟨before, after, rfl, hbefore, hafter⟩ := ha
  obtain ⟨before', after', hsplit, hbefore', hafter'⟩ := hb
  rcases List.append_eq_append_iff.1 hsplit with ⟨between, rfl, hrest⟩ | ⟨between, rfl, hrest⟩
  · exact hfirst hrest (fun x hx => hbefore' x (List.mem_append_right _ hx)) hafter
  · exact (hfirst hrest (fun x hx => hbefore x (List.mem_append_right _ hx)) hafter').symm

theorem select_eq_none_iff : select choices = none ↔ choices = [] := by
  cases choices with
  | nil => exact iff_of_true rfl rfl
  | cons c choices => exact iff_of_false (Option.some_ne_none _) (List.cons_ne_nil _ _)

/-- **The selected choice is the one that leads.** -/
theorem select_eq_some_iff : select choices = some c ↔ Leads c choices := by
  have hselect : ∀ {choices c}, select choices = some c → Leads c choices := by
    intro choices c h
    cases choices with
    | nil => exact nomatch h
    | cons first choices =>
        obtain rfl := Option.some.inj h
        exact leads_foldl (leads_singleton first) choices
  constructor
  · exact hselect
  · intro h
    cases hother : select choices with
    | none =>
        rw [select_eq_none_iff.1 hother] at h
        exact absurd h.mem List.not_mem_nil
    | some other => rw [(hselect hother).unique h]

/-! ## Candidates -/

variable {penalty : Int32} {link : AccessPoint} {candidates : List AccessPoint} {choice : Choice}

theorem ofCandidate?_eq_some_iff {candidate : AccessPoint} :
    ofCandidate? penalty link candidate = some choice ↔
      choice.entry = candidate ∧ link.judge penalty candidate = .accepted choice.score := by
  rw [ofCandidate?]
  cases link.judge penalty candidate with
  | rejected gate => simp
  | accepted score =>
      constructor
      · intro h
        obtain rfl := Option.some.inj h
        exact ⟨rfl, rfl⟩
      · rintro ⟨rfl, hscore⟩
        rw [Verdict.accepted.inj hscore]

/-- The best choice is a candidate that was accepted. -/
theorem best_mem (h : best penalty link candidates = some choice) :
    choice.entry ∈ candidates
      ∧ link.judge penalty choice.entry = .accepted choice.score := by
  obtain ⟨candidate, hmem, hchoice⟩ := List.mem_filterMap.1 (select_eq_some_iff.1 h).mem
  obtain ⟨rfl, haccepted⟩ := ofCandidate?_eq_some_iff.1 hchoice
  exact ⟨hmem, haccepted⟩

end Choice

end Roaming
