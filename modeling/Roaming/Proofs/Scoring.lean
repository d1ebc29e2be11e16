import Roaming.Proofs.Choice
import Roaming.Proofs.Columns
import Roaming.Proofs.Drafts

/-!
# Scores are exact, and what favours a candidate never costs it

Where neither the penalty nor a quality is negative, the arithmetic of the gates is that of
unbounded integers: the clamp of the threshold decides nothing (`threshold_lt_iff`), and the
difference of two qualities never leaves the range (`toInt_sub_of_nonneg`). So a candidate is
accepted exactly if three comparisons of integers and latencies hold
(`judge_eq_accepted_iff_toInt`).

Each comparison is monotone in all that it reads. A change that only favours the candidate
(`Favours`) therefore keeps it accepted, whatever it combines, and moves its score by the change of
the difference in quality. The latencies matter to the first gate alone, so they do not help a
candidate that another gate rejects (`judge_eq_rejected_of_ne_latency`).
-/

namespace Roaming.AccessPoint

variable {penalty penalty' : Int32} {link link' candidate candidate' : AccessPoint} {score : Int32}

/-- A change of penalty, link and candidate in favour of the candidate: the penalty and what the
link has may fall, but not below zero, what the candidate has may rise, and its latency may be
forgotten. -/
structure Favours (penalty penalty' : Int32) (link link' candidate candidate' : AccessPoint) :
    Prop where
  penalty_nonneg : 0 ≤ penalty'
  penalty_le : penalty' ≤ penalty
  linkQuality_nonneg : 0 ≤ link'.quality
  linkQuality_le : link'.quality ≤ link.quality
  linkRate_le : link'.rate ≤ link.rate
  linkLatency_eq : link'.latency = link.latency
  quality_le : candidate.quality ≤ candidate'.quality
  rate_le : candidate.rate ≤ candidate'.rate
  latency_eq : candidate'.latency = candidate.latency ∨ candidate'.latency = none

/-- Both latencies are known, and the candidate has the greater one. -/
def Slower (candidate link : AccessPoint) : Prop :=
  ∃ c l, candidate.latency = some c ∧ link.latency = some l ∧ l < c

theorem isSlowerThan_eq_false_iff :
    candidate.isSlowerThan link = false ↔ ¬ candidate.Slower link := by
  rw [isSlowerThan, Slower]
  cases candidate.latency with
  | none => simp
  | some c => cases link.latency <;> simp

/-- The gates in unbounded integers. -/
theorem judge_eq_accepted_iff_toInt (hpenalty : 0 ≤ penalty) (hlink : 0 ≤ link.quality)
    (hcandidate : 0 ≤ candidate.quality) :
    link.judge penalty candidate = .accepted score ↔
      ¬ candidate.Slower link
        ∧ link.quality.toInt + penalty.toInt < candidate.quality.toInt
        ∧ link.rate.toNat ≤ candidate.rate.toNat
        ∧ score.toInt = candidate.quality.toInt - link.quality.toInt := by
  rw [judge_eq_accepted_iff, isSlowerThan_eq_false_iff,
    threshold_lt_iff (Int32.le_iff_toInt_le.1 hpenalty), UInt32.le_iff_toNat_le,
    ← toInt_sub_of_nonneg hcandidate hlink, Int32.toInt_inj, eq_comm (a := score)]

/-- Only known latencies make a candidate slower than a link. -/
theorem Favours.not_slower (h : Favours penalty penalty' link link' candidate candidate')
    (hfast : ¬ candidate.Slower link) : ¬ candidate'.Slower link' := by
  rintro ⟨c, l, hc, hl, hlt⟩
  rw [h.linkLatency_eq] at hl
  rcases h.latency_eq with hsame | hnone
  · exact hfast ⟨c, l, hsame.symm.trans hc, hl, hlt⟩
  · exact nomatch hnone.symm.trans hc

/-- A candidate in whose favour things change stays accepted. -/
theorem Favours.accepted (h : Favours penalty penalty' link link' candidate candidate')
    (hpenalty : 0 ≤ penalty) (hlink : 0 ≤ link.quality) (hcandidate : 0 ≤ candidate.quality)
    (haccepted : link.judge penalty candidate = .accepted score) :
    ∃ score', link'.judge penalty' candidate' = .accepted score'
      ∧ score'.toInt - score.toInt
        = (candidate'.quality.toInt - link'.quality.toInt)
          - (candidate.quality.toInt - link.quality.toInt) := by
  obtain ⟨hfast, hbeats, hrate, hscore⟩ :=
    (judge_eq_accepted_iff_toInt hpenalty hlink hcandidate).1 haccepted
  have hcandidate' : 0 ≤ candidate'.quality := Int32.le_trans hcandidate h.quality_le
  have hsub := toInt_sub_of_nonneg hcandidate' h.linkQuality_nonneg
  refine ⟨candidate'.quality - link'.quality, ?_, by rw [hsub, hscore]⟩
  refine (judge_eq_accepted_iff_toInt h.penalty_nonneg h.linkQuality_nonneg hcandidate').2
    ⟨h.not_slower hfast, ?_, ?_, hsub⟩
  · have hpenalty := Int32.le_iff_toInt_le.1 h.penalty_le
    have hlink := Int32.le_iff_toInt_le.1 h.linkQuality_le
    have hquality := Int32.le_iff_toInt_le.1 h.quality_le
    omega
  · have hlink := UInt32.le_iff_toNat_le.1 h.linkRate_le
    have hcandidate := UInt32.le_iff_toNat_le.1 h.rate_le
    omega

/-- Latencies do not help a candidate that another gate rejects. -/
theorem judge_eq_rejected_of_ne_latency {gate : Rejection}
    (h : link.judge penalty candidate = .rejected gate) (hgate : gate ≠ .latency)
    (linkLatency candidateLatency : Option Float) :
    ∃ gate', ({ link with latency := linkLatency }).judge penalty
      { candidate with latency := candidateLatency } = .rejected gate' := by
  cases hverdict : ({ link with latency := linkLatency }).judge penalty
      { candidate with latency := candidateLatency } with
  | rejected gate' => exact ⟨gate', rfl⟩
  | accepted score =>
      -- the gates of quality and rate do not read latencies, so they are passed as it is
      obtain ⟨-, hquality, hrate, -⟩ := judge_eq_accepted_iff.1 hverdict
      cases hslower : candidate.isSlowerThan link with
      | true =>
          rw [judge, hslower, if_pos rfl] at h
          exact absurd (Verdict.rejected.inj h).symm hgate
      | false =>
          have haccepted := judge_eq_accepted_iff.2 ⟨hslower, hquality, hrate, rfl⟩
          rw [h] at haccepted
          cases haccepted

/-- **Scores are exact and monotone.** Settings that were checked have no negative penalty, and no
row is read with a negative quality. Take any penalty, link and candidate of which this holds. The
difference in quality does not overflow; the candidate is accepted exactly if it is not measured to
be slower, beats the sum of the quality of the link and the penalty over the integers and has no
lower rate, and then it scores the difference in quality over the integers, which is greater than
the penalty. In whatever way things change in favour of an accepted candidate, it stays accepted,
and its score changes by as much as the difference in quality does. A candidate that is rejected for
its quality or rate is rejected with any latencies. -/
theorem scores_are_exact_and_monotone :
    (∀ (draft : Settings.Draft) (settings : Settings), draft.resolve = .ok settings →
        0 ≤ settings.qualityPenalty)
      ∧ (∀ (line : String) (row : Observation), Observation.parse? line = some row →
        0 ≤ row.quality)
      ∧ ∀ (penalty : Int32) (link candidate : AccessPoint),
        0 ≤ penalty → 0 ≤ link.quality → 0 ≤ candidate.quality →
        (candidate.quality - link.quality).toInt = candidate.quality.toInt - link.quality.toInt
          ∧ (∀ score, link.judge penalty candidate = .accepted score ↔
            ¬ candidate.Slower link
              ∧ link.quality.toInt + penalty.toInt < candidate.quality.toInt
              ∧ link.rate.toNat ≤ candidate.rate.toNat
              ∧ score.toInt = candidate.quality.toInt - link.quality.toInt)
          ∧ (∀ score, link.judge penalty candidate = .accepted score →
            penalty.toInt + 1 ≤ score.toInt ∧ score.toInt ≤ 2147483647)
          ∧ (∀ score, link.judge penalty candidate = .accepted score →
            ∀ penalty' link' candidate', Favours penalty penalty' link link' candidate candidate' →
              ∃ score', link'.judge penalty' candidate' = .accepted score'
                ∧ score'.toInt - score.toInt
                  = (candidate'.quality.toInt - link'.quality.toInt)
                    - (candidate.quality.toInt - link.quality.toInt))
          ∧ ∀ gate, link.judge penalty candidate = .rejected gate → gate ≠ .latency →
            ∀ linkLatency candidateLatency, ∃ gate',
              ({ link with latency := linkLatency }).judge penalty
                { candidate with latency := candidateLatency } = .rejected gate' := by
  refine ⟨?_, fun line row => Observation.quality_nonneg, ?_⟩
  · intro draft settings hresolve
    exact (Settings.Draft.sound_of_resolve hresolve).penalty
  · intro penalty link candidate hpenalty hlink hcandidate
    refine ⟨toInt_sub_of_nonneg hcandidate hlink, ?_, ?_, ?_, ?_⟩
    · intro score
      exact judge_eq_accepted_iff_toInt hpenalty hlink hcandidate
    · intro score haccepted
      obtain ⟨-, hbeats, -, hscore⟩ :=
        (judge_eq_accepted_iff_toInt hpenalty hlink hcandidate).1 haccepted
      have hlt := score.toInt_lt
      omega
    · intro score haccepted penalty' link' candidate' hfavours
      exact hfavours.accepted hpenalty hlink hcandidate haccepted
    · intro gate hrejected hgate
      exact judge_eq_rejected_of_ne_latency hrejected hgate

/-- Near the greatest quality: a candidate is accepted with a score of 47, and the least demanding
link and penalty with the quality of the candidate. -/
theorem scores_are_exact_and_monotone_near_the_limit :
    let link : AccessPoint := ⟨"AA", "home", 2147483600, 100, true, none, 1⟩
    let candidate : AccessPoint := ⟨"BB", "home", 2147483647, 100, false, some 15.0, 1⟩
    let link' : AccessPoint := { link with quality := 0, rate := 54 }
    let candidate' : AccessPoint := { candidate with latency := none }
    (0 : Int32) ≤ 10 ∧ 0 ≤ link.quality ∧ 0 ≤ candidate.quality
      ∧ Favours 10 0 link link' candidate candidate'
      ∧ ∃ score, link.judge 10 candidate = .accepted score ∧ score.toInt = 47
        ∧ ∃ score', link'.judge 0 candidate' = .accepted score' ∧ score'.toInt = 2147483647 := by
  intro link candidate link' candidate'
  have hpenalty : (0 : Int32) ≤ 10 := by decide
  have hlink : 0 ≤ link.quality := by decide
  have hcandidate : 0 ≤ candidate.quality := by decide
  have hfavours : Favours 10 0 link link' candidate candidate' :=
    { penalty_nonneg := by decide
      penalty_le := by decide
      linkQuality_nonneg := by decide
      linkQuality_le := by decide
      linkRate_le := by decide
      linkLatency_eq := rfl
      quality_le := by decide
      rate_le := by decide
      latency_eq := .inr rfl }
  obtain ⟨-, -, hscores⟩ := scores_are_exact_and_monotone
  obtain ⟨-, hiff, -, hmonotone, -⟩ := hscores 10 link candidate hpenalty hlink hcandidate
  have haccepted : link.judge 10 candidate = .accepted 47 :=
    (hiff 47).2 ⟨fun ⟨_, _, _, hl, _⟩ => (nomatch hl), by decide, by decide, by decide⟩
  obtain ⟨score', haccepted', hscore'⟩ := hmonotone 47 haccepted 0 link' candidate' hfavours
  refine ⟨hpenalty, hlink, hcandidate, hfavours, 47, haccepted, rfl, score', haccepted', ?_⟩
  have hchange : score'.toInt - 47 = 2147483647 - 0 - (2147483647 - 2147483600) := hscore'
  omega

end Roaming.AccessPoint
