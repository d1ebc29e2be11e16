import Mathlib.Data.List.Nodup
import Roaming.Proofs.Choice

/-!
# The choice is the first optimum

To lead a list of choices is to be its first optimum (`leads_iff`). So what is selected depends on
the order of the list only where choices share a BSSID (`select_eq_of_perm`), and it is the head of
the list sorted stably (`select_eq_head?_mergeSort`).

The scores of accepted candidates are the differences of their qualities to that of the link, where
neither the penalty nor the quality of the link is negative (`toInt_score`). They are then ordered
as the qualities, and the best candidate is the first optimum by quality among the accepted ones
(`best_eq_some_iff`).
-/

namespace Roaming

/-- An element of a list is its first optimum: no element has a greater value, none of the same
value has a lesser name, and none before it has the same value and the same name. -/
structure FirstOptimum {α : Type} (value : α → Int32) (name : α → String) (x : α) (xs : List α) :
    Prop where
  greatest : ∀ y ∈ xs, value y ≤ value x
  least : ∀ y ∈ xs, value y = value x → name x ≤ name y
  first : ∃ before after, xs = before ++ x :: after
    ∧ ∀ y ∈ before, value y = value x → name y ≠ name x

namespace FirstOptimum

variable {α β : Type} {value value' : α → Int32} {name : α → String} {x : α} {xs : List α}

theorem mem (h : FirstOptimum value name x xs) : x ∈ xs := by
  obtain ⟨before, after, rfl, -⟩ := h.first
  exact List.mem_append_right _ List.mem_cons_self

/-- Only the order of the values counts. -/
theorem congr (hle : ∀ x ∈ xs, ∀ y ∈ xs, value x ≤ value y ↔ value' x ≤ value' y)
    (h : FirstOptimum value name x xs) : FirstOptimum value' name x xs := by
  have heq : ∀ y ∈ xs, value' y = value' x → value y = value x := by
    intro y hy hvalue
    exact Int32.le_antisymm ((hle y hy x h.mem).2 (Int32.le_of_eq hvalue))
      ((hle x h.mem y hy).2 (Int32.le_of_eq hvalue.symm))
  obtain ⟨before, after, hxs, hbefore⟩ := h.first
  refine ⟨?_, ?_, before, after, hxs, ?_⟩
  · intro y hy
    exact (hle y hy x h.mem).1 (h.greatest y hy)
  · intro y hy hvalue
    exact h.least y hy (heq y hy hvalue)
  · intro y hy hvalue
    refine hbefore y hy (heq y ?_ hvalue)
    rw [hxs]
    exact List.mem_append_left _ hy

theorem map_iff {f : β → α} {ys : List β} :
    FirstOptimum value name x (ys.map f) ↔
      ∃ y, f y = x ∧ FirstOptimum (value ∘ f) (name ∘ f) y ys := by
  constructor
  · rintro ⟨hgreatest, hleast, before, after, hsplit, hbefore⟩
    obtain ⟨before, rest, rfl, rfl, hrest⟩ := List.map_eq_append_iff.1 hsplit
    obtain ⟨y, after, rfl, rfl, rfl⟩ := List.map_eq_cons_iff.1 hrest
    rw [List.forall_mem_map] at hgreatest hleast hbefore
    exact ⟨y, rfl, hgreatest, hleast, before, after, rfl, hbefore⟩
  · rintro ⟨y, rfl, hgreatest, hleast, before, after, rfl, hbefore⟩
    refine ⟨List.forall_mem_map.2 hgreatest, List.forall_mem_map.2 hleast,
      before.map f, after.map f, ?_, List.forall_mem_map.2 hbefore⟩
    rw [List.map_append, List.map_cons]

end FirstOptimum

namespace Choice

variable {c : Choice} {choices : List Choice}

/-- To lead a list is to be its first optimum. -/
theorem leads_iff : Leads c choices ↔ FirstOptimum (·.score) (·.entry.bssid) c choices := by
  constructor
  · intro h
    have hbest := h.not_beats
    obtain ⟨before, after, rfl, hbefore, -⟩ := h
    refine ⟨fun x hx => (beats_eq_false_iff.1 (hbest x hx)).1,
      fun x hx => (beats_eq_false_iff.1 (hbest x hx)).2, before, after, rfl, ?_⟩
    intro x hx hscore hbssid
    rcases beats_iff.1 (hbefore x hx) with hlt | ⟨-, hlt⟩
    · exact Int32.lt_irrefl (hscore ▸ hlt)
    · exact String.lt_irrefl _ (hbssid ▸ hlt)
  · rintro ⟨hgreatest, hleast, before, after, rfl, hbefore⟩
    refine ⟨before, after, rfl, ?_, ?_⟩
    · intro x hx
      have hmem : x ∈ before ++ c :: after := List.mem_append_left _ hx
      rw [← Bool.not_eq_false, beats_eq_false_iff]
      rintro ⟨hle, hbssid⟩
      have hscore : x.score = c.score := Int32.le_antisymm (hgreatest x hmem) hle
      exact hbefore x hx hscore
        (String.le_antisymm (hbssid hscore.symm) (hleast x hmem hscore))
    · intro x hx
      have hmem : x ∈ before ++ c :: after :=
        List.mem_append_right _ (List.mem_cons_of_mem _ hx)
      exact beats_eq_false_iff.2 ⟨hgreatest x hmem, hleast x hmem⟩

/-- **Selecting does not depend on the order**, as long as no two choices share a BSSID. -/
theorem select_eq_of_perm {others : List Choice} (h : choices.Perm others)
    (hnodup : (choices.map (·.entry.bssid)).Nodup) : select choices = select others := by
  cases hb : select others with
  | none =>
      rw [select_eq_none_iff.1 hb] at h
      rw [h.eq_nil]
      rfl
  | some b =>
      have hlead := select_eq_some_iff.1 hb
      have hmem := h.mem_iff.2 hlead.mem
      obtain ⟨a, ha⟩ : ∃ a, select choices = some a := by
        rw [← Option.ne_none_iff_exists', Ne, select_eq_none_iff]
        exact List.ne_nil_of_mem hmem
      -- each leads the same choices in some order, so the two are tied
      have hlead' := select_eq_some_iff.1 ha
      have htied := tied_of_not_beats (hlead.not_beats a (h.mem_iff.1 hlead'.mem))
        (hlead'.not_beats b hmem)
      rw [ha, List.inj_on_of_nodup_map hnodup hlead'.mem hmem htied.2]

/-- The head of the list sorted stably by score and then by BSSID is beaten by none, and the choices
tied with it stand behind it in the order in which they were given. -/
theorem filter_mergeSort {rest : List Choice}
    (h : choices.mergeSort (fun a b => !b.beats a) = c :: rest) :
    (∀ x ∈ choices, x.beats c = false)
      ∧ choices.filter (!c.beats ·) = c :: rest.filter (!c.beats ·) := by
  have htrans : ∀ a b c : Choice, (!b.beats a) = true → (!c.beats b) = true →
      (!c.beats a) = true := by
    intro a b c hab hbc
    rw [Bool.not_eq_true'] at hab hbc ⊢
    exact not_beats_trans hbc hab
  have htotal : ∀ a b : Choice, (!b.beats a || !a.beats b) = true := by
    intro a b
    cases hab : a.beats b with
    | false => exact Bool.or_true _
    | true => rw [beats_asymm hab, Bool.not_false, Bool.true_or]
  have hsorted := List.pairwise_mergeSort htrans htotal choices
  have hperm := List.mergeSort_perm choices fun a b => !b.beats a
  rw [h] at hsorted hperm
  have hbest : ∀ x ∈ choices, x.beats c = false := by
    intro x hx
    rcases List.mem_cons.1 (hperm.mem_iff.2 hx) with rfl | hrest
    · exact beats_self x
    · have hnot := List.rel_of_pairwise_cons hsorted hrest
      rwa [Bool.not_eq_true'] at hnot
  refine ⟨hbest, ?_⟩
  -- those tied with the head are in order as they stand, so sorting does not move them
  have hordered : (choices.filter (!c.beats ·)).Pairwise fun a b => (!b.beats a) = true := by
    refine List.pairwise_of_forall_mem_list ?_
    intro a ha b hb
    have hnot := (List.mem_filter.1 ha).2
    rw [Bool.not_eq_true'] at hnot ⊢
    exact not_beats_trans (hbest b (List.mem_filter.1 hb).1) hnot
  have hkept := (List.sublist_mergeSort htrans htotal hordered List.filter_sublist).filter
    (!c.beats ·)
  rw [List.filter_filter, h] at hkept
  simp only [Bool.and_self] at hkept
  rw [hkept.eq_of_length (hperm.filter _).length_eq.symm, List.filter_cons_of_pos]
  rw [beats_self]
  rfl

/-- **Selecting is sorting and taking the first**: the list is sorted stably by score and then by
BSSID. -/
theorem select_eq_head?_mergeSort (choices : List Choice) :
    select choices = (choices.mergeSort fun a b => !b.beats a).head? := by
  cases h : choices.mergeSort fun a b => !b.beats a with
  | nil =>
      have hperm := List.mergeSort_perm choices fun a b => !b.beats a
      rw [h] at hperm
      rw [← hperm.nil_eq]
      rfl
  | cons c rest =>
      obtain ⟨hbest, htied⟩ := filter_mergeSort h
      obtain ⟨before, after, hsplit, hbefore, -, -⟩ := List.filter_eq_cons_iff.1 htied
      rw [List.head?_cons, select_eq_some_iff]
      refine ⟨before, after, hsplit, ?_, ?_⟩
      · intro x hx
        have hbeats := hbefore x hx
        rwa [Bool.not_eq_true', Bool.not_eq_false] at hbeats
      · intro x hx
        refine hbest x ?_
        rw [hsplit]
        exact List.mem_append_right _ (List.mem_cons_of_mem _ hx)

/-! ## The best of the accepted candidates -/

section Candidates

variable {penalty : Int32} {link : AccessPoint} {candidates : List AccessPoint} {choice : Choice}

/-- The candidates that are accepted, in the order in which they are given. -/
def accepted (penalty : Int32) (link : AccessPoint) (candidates : List AccessPoint) :
    List AccessPoint :=
  candidates.filter fun candidate => (link.judge penalty candidate).isAccepted

/-- The accepted candidates with their scores. -/
theorem filterMap_ofCandidate? (penalty : Int32) (link : AccessPoint)
    (candidates : List AccessPoint) :
    candidates.filterMap (ofCandidate? penalty link) =
      (accepted penalty link candidates).map fun c => ⟨c, c.quality - link.quality⟩ := by
  induction candidates with
  | nil => rfl
  | cons candidate candidates ih =>
      rw [accepted, List.filterMap_cons, List.filter_cons, ofCandidate?, ← accepted, ih]
      cases hverdict : link.judge penalty candidate with
      | rejected gate => rfl
      | accepted score =>
          obtain ⟨-, -, -, rfl⟩ := AccessPoint.judge_eq_accepted_iff.1 hverdict
          rfl

theorem mem_accepted_iff {candidate : AccessPoint} :
    candidate ∈ accepted penalty link candidates ↔ candidate ∈ candidates
      ∧ link.judge penalty candidate = .accepted (candidate.quality - link.quality) := by
  rw [accepted, List.mem_filter]
  cases hverdict : link.judge penalty candidate with
  | rejected gate => simp [Verdict.isAccepted]
  | accepted score =>
      obtain ⟨-, -, -, rfl⟩ := AccessPoint.judge_eq_accepted_iff.1 hverdict
      simp [Verdict.isAccepted]

/-- The score of an accepted candidate is the difference in quality, without overflow. -/
theorem toInt_score (hpenalty : 0 ≤ penalty) (hlink : 0 ≤ link.quality) {candidate : AccessPoint}
    {score : Int32} (h : link.judge penalty candidate = .accepted score) :
    score.toInt = candidate.quality.toInt - link.quality.toInt := by
  have hpenalty' : 0 ≤ penalty.toInt := Int32.le_iff_toInt_le.1 hpenalty
  have hlink' : 0 ≤ link.quality.toInt := Int32.le_iff_toInt_le.1 hlink
  obtain ⟨-, hquality, -, rfl⟩ := AccessPoint.judge_eq_accepted_iff.1 h
  have hbeats := (AccessPoint.threshold_lt_iff hpenalty' _).1 hquality
  refine AccessPoint.toInt_sub_of_nonneg (Int32.le_iff_toInt_le.2 ?_) hlink
  rw [Int32.toInt_zero]
  omega

/-- **The best is the first optimum by quality** among the accepted candidates. -/
theorem best_eq_some_iff (hpenalty : 0 ≤ penalty) (hlink : 0 ≤ link.quality) :
    best penalty link candidates = some choice ↔
      FirstOptimum (·.quality) (·.bssid) choice.entry (accepted penalty link candidates)
        ∧ choice.score = choice.entry.quality - link.quality := by
  have hle : ∀ x ∈ accepted penalty link candidates, ∀ y ∈ accepted penalty link candidates,
      x.quality - link.quality ≤ y.quality - link.quality ↔ x.quality ≤ y.quality := by
    intro x hx y hy
    rw [Int32.le_iff_toInt_le, toInt_score hpenalty hlink (mem_accepted_iff.1 hx).2,
      toInt_score hpenalty hlink (mem_accepted_iff.1 hy).2, Int32.le_iff_toInt_le]
    omega
  rw [best, filterMap_ofCandidate?, select_eq_some_iff, leads_iff, FirstOptimum.map_iff]
  constructor
  · rintro ⟨candidate, rfl, hoptimum⟩
    exact ⟨hoptimum.congr hle, rfl⟩
  · rintro ⟨hoptimum, hscore⟩
    refine ⟨choice.entry, ?_, hoptimum.congr fun x hx y hy => (hle x hx y hy).symm⟩
    rw [← hscore]

theorem best_eq_none_iff :
    best penalty link candidates = none ↔
      ∀ c ∈ candidates, (link.judge penalty c).isAccepted = false := by
  rw [best, filterMap_ofCandidate?, select_eq_none_iff, List.map_eq_nil_iff, accepted,
    List.filter_eq_nil_iff]
  simp only [Bool.not_eq_true]

/-- **The best does not depend on the order of the candidates**, as long as their BSSIDs differ. -/
theorem best_eq_of_perm {others : List AccessPoint} (h : candidates.Perm others)
    (hnodup : (candidates.map (·.bssid)).Nodup) :
    best penalty link candidates = best penalty link others := by
  refine select_eq_of_perm (h.filterMap _) ?_
  rw [filterMap_ofCandidate?, List.map_map]
  exact hnodup.sublist (List.filter_sublist.map _)

/-- **The choice is optimal and does not depend on the order**: none is made exactly if every
candidate is rejected. Otherwise it is an accepted candidate, with the difference in quality as its
score; of the accepted candidates none has a greater quality, none of the same quality has a lesser
BSSID, and none given before it has both. If no two candidates share a BSSID, their order does not
matter. The selection among any scored choices is likewise their first optimum by score and BSSID,
and is empty only for none. -/
theorem best_is_first_optimum (hpenalty : 0 ≤ penalty) (hlink : 0 ≤ link.quality)
    (candidates : List AccessPoint) :
    (best penalty link candidates = none ↔
        ∀ c ∈ candidates, ∃ gate, link.judge penalty c = .rejected gate)
      ∧ (∀ choice, best penalty link candidates = some choice →
        choice.entry ∈ candidates ∧ link.judge penalty choice.entry = .accepted choice.score
          ∧ choice.score.toInt = choice.entry.quality.toInt - link.quality.toInt)
      ∧ (∀ choice, best penalty link candidates = some choice ↔
        FirstOptimum (·.quality) (·.bssid) choice.entry (accepted penalty link candidates)
          ∧ choice.score = choice.entry.quality - link.quality)
      ∧ (∀ others, candidates.Perm others → (candidates.map (·.bssid)).Nodup →
        best penalty link others = best penalty link candidates)
      ∧ ∀ choices, (select choices = none ↔ choices = [])
        ∧ ∀ choice, select choices = some choice ↔
          FirstOptimum (·.score) (·.entry.bssid) choice choices := by
  refine ⟨?_, ?_, fun choice => best_eq_some_iff hpenalty hlink, ?_,
    fun choices => ⟨select_eq_none_iff, fun choice => select_eq_some_iff.trans leads_iff⟩⟩
  · rw [best_eq_none_iff]
    refine forall₂_congr fun c _ => ?_
    cases link.judge penalty c with
    | accepted score => simp [Verdict.isAccepted]
    | rejected gate => simp [Verdict.isAccepted]
  · intro choice hbest
    obtain ⟨hmem, haccepted⟩ := best_mem hbest
    exact ⟨hmem, haccepted, toInt_score hpenalty hlink haccepted⟩
  · intro others hperm hnodup
    exact (best_eq_of_perm hperm hnodup).symm

/-- The best in quality has too low a rate, and three accepted ones are equal in quality: of the two
with the least BSSID the first is chosen. -/
theorem best_is_first_optimum_among_ties :
    let link : AccessPoint := ⟨"AA", "home", 50, 100, true, some 20.0, 1⟩
    let first : AccessPoint := ⟨"BB", "home", 75, 100, false, none, 1⟩
    let candidates : List AccessPoint :=
      [⟨"DD", "home", 90, 54, false, none, 1⟩, ⟨"CC", "home", 75, 300, false, none, 1⟩, first,
        { first with rate := 300 }, ⟨"EE", "home", 60, 100, false, none, 1⟩]
    (0 : Int32) ≤ 10 ∧ 0 ≤ link.quality
      ∧ best 10 link candidates = some ⟨first, 25⟩
      ∧ link.judge 10 first = .accepted 25
      ∧ FirstOptimum (·.quality) (·.bssid) first (accepted 10 link candidates) := by
  intro link first candidates
  have hpenalty : (0 : Int32) ≤ 10 := by decide
  have hlink : 0 ≤ link.quality := by decide
  have hbest : best 10 link candidates = some ⟨first, 25⟩ := by
    subst link candidates first
    rfl
  obtain ⟨-, haccepted, hoptimum, -⟩ := best_is_first_optimum hpenalty hlink candidates
  exact ⟨hpenalty, hlink, hbest, (haccepted _ hbest).2.1, ((hoptimum _).1 hbest).1⟩

end Candidates

end Choice

end Roaming
