import Roaming.AccessPoint

/-!
# Judging and choosing candidates

A candidate is judged against the active link by three gates in a fixed order. A candidate whose
measured latency is above that of the link is rejected; one that was never measured passes. Its
quality has to beat that of the link by more than the penalty, where the sum of the two stays within
the range of qualities. Its rate must not be lower. An accepted candidate scores the difference in
quality.

The choice among accepted candidates is the greatest score, then the least BSSID, then the first
given.
-/

namespace Roaming

/-- The gate that rejects a candidate. -/
inductive Rejection where
  /-- It is measured to be slower than the link. -/
  | latency
  /-- It does not beat the quality of the link by enough. -/
  | quality
  /-- It has a lower rate than the link. -/
  | rate
deriving DecidableEq

/-- The outcome of judging a candidate. -/
inductive Verdict where
  | accepted (score : Int32)
  | rejected (gate : Rejection)
deriving DecidableEq

namespace Verdict

/-- Whether the candidate may replace the link. -/
def isAccepted : Verdict → Bool
  | .accepted _ => true
  | .rejected _ => false

/-- The score of an accepted candidate, and zero for a rejected one. -/
def score : Verdict → Int32
  | .accepted score => score
  | .rejected _ => 0

/-- The gate that rejected the candidate, if one did. -/
def rejection? : Verdict → Option Rejection
  | .accepted _ => none
  | .rejected gate => some gate

end Verdict

namespace AccessPoint

/-- Whether both latencies are known and the candidate has the greater one. -/
def isSlowerThan (candidate link : AccessPoint) : Bool :=
  match candidate.latency, link.latency with
  | some c, some l => c > l
  | _, _ => false

/-- The quality a candidate has to beat: that of the link and the penalty, within the range. -/
def threshold (penalty : Int32) (link : AccessPoint) : Int32 :=
  Int32.ofIntClamp (link.quality.toInt + penalty.toInt)

/-- Judges a candidate against the active link. -/
def judge (penalty : Int32) (link candidate : AccessPoint) : Verdict :=
  if candidate.isSlowerThan link then .rejected .latency
  else if candidate.quality ≤ link.threshold penalty then .rejected .quality
  else if candidate.rate < link.rate then .rejected .rate
  else .accepted (candidate.quality - link.quality)

end AccessPoint

/-- An accepted candidate with its score. -/
structure Choice where
  entry : AccessPoint
  score : Int32
deriving DecidableEq

namespace Choice

/-- Whether a choice goes before another: by score, then by BSSID. -/
def beats (a b : Choice) : Bool :=
  b.score < a.score || (a.score == b.score && a.entry.bssid < b.entry.bssid)

/-- The choice that no other one beats, the first given among equals. -/
def select : List Choice → Option Choice
  | [] => none
  | c :: cs => some (cs.foldl (fun best next => if next.beats best then next else best) c)

/-- The choice that a candidate is, if it is accepted. -/
def ofCandidate? (penalty : Int32) (link candidate : AccessPoint) : Option Choice :=
  match link.judge penalty candidate with
  | .accepted score => some { entry := candidate, score }
  | .rejected _ => none

/-- The best of the candidates that are accepted. -/
def best (penalty : Int32) (link : AccessPoint) (candidates : List AccessPoint) : Option Choice :=
  select (candidates.filterMap (ofCandidate? penalty link))

end Choice

end Roaming
