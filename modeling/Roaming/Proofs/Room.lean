import Mathlib.Data.List.Sort
import Roaming.Proofs.LatestScan
import Roaming.Proofs.Merge

/-!
# Making room

Room is made by passes: as long as there are more access points than the limit allows, the one that
goes first among those that are not live is dropped. How many passes there are and what they leave
can be said beforehand. Rank the access points that are not live by the order in which they go
(`Ranks`). Each pass takes the head of the ranking (`Ranks.firstToGo?_eq`) and leaves its tail
(`Ranks.erase`), so the passes made so far have dropped an initial part of it
(`Store.mem_dropFirst_iff`), and they end when the ranking is used up or the rest fits
(`Store.passes_trim`). So whether an access point stays is a matter of counting what goes before it
(`Store.mem_trim_iff_countP`).

With the stale ones gone before, this is all that eviction drops
(`Registry.eviction_drops_first_to_go`), and the two counts that a refresh reports add up to it
(`Registry.refresh_accounts`).
-/

namespace Roaming

namespace AccessPoint

/-- A ranking of access points has all of them in the order in which they go. -/
structure Ranks (ranked as : List AccessPoint) : Prop where
  perm : ranked.Perm as
  ordered : ranked.Pairwise Precedes

variable {ranked as : List AccessPoint} {a b : AccessPoint}

theorem Precedes.asymm (hab : a.Precedes b) (hba : b.Precedes a) : False := by
  rcases hab with hab | ⟨hseen, hab⟩ <;> rcases hba with hba | ⟨hseen', hba⟩
  · omega
  · omega
  · omega
  · exact String.lt_asymm hab hba

/-- Access points with different BSSIDs have a ranking. -/
theorem exists_ranks (h : (as.map (·.bssid)).Nodup) : ∃ ranked, Ranks ranked as := by
  let noLater : AccessPoint → AccessPoint → Bool := fun a b => !b.goesBefore a
  have hperm : (as.mergeSort noLater).Perm as := List.mergeSort_perm as noLater
  have hsorted : (as.mergeSort noLater).Pairwise fun a b => noLater a b = true := by
    refine List.pairwise_mergeSort ?_ ?_ as
    · intro a b c hab hbc
      rw [Bool.not_eq_true'] at hab hbc ⊢
      exact goesBefore_eq_false_trans hab hbc
    · intro a b
      rw [Bool.or_eq_true, Bool.not_eq_true', Bool.not_eq_true']
      by_cases hba : b.goesBefore a = true
      · refine .inr (Bool.eq_false_iff.2 fun hab => ?_)
        exact (goesBefore_iff.1 hab).asymm (goesBefore_iff.1 hba)
      · exact .inl (Bool.eq_false_iff.2 hba)
  have hdistinct : (as.mergeSort noLater).Pairwise fun a b => a.bssid ≠ b.bssid :=
    List.pairwise_map.1 ((hperm.map _).nodup_iff.2 h)
  -- of two with different BSSIDs the one that goes no later goes before
  refine ⟨_, hperm, (hsorted.and hdistinct).imp ?_⟩
  rintro a b ⟨hab, hne⟩
  rw [Bool.not_eq_true'] at hab
  refine (goesBefore_eq_false_iff.1 hab).imp id ?_
  rintro ⟨hseen, hle⟩
  exact ⟨hseen, String.not_le.1 fun hge => hne (String.le_antisymm hle hge)⟩

/-- The head of a ranking is the one to go. -/
theorem Ranks.firstToGo?_eq (h : Ranks (a :: ranked) as) : firstToGo? as = some a := by
  have ha : a ∈ as := h.perm.mem_iff.1 List.mem_cons_self
  cases hfirst : firstToGo? as with
  | none => exact absurd (firstToGo?_eq_none_iff.1 hfirst ▸ ha) List.not_mem_nil
  | some b =>
      have hb : b ∈ a :: ranked := h.perm.mem_iff.2 (firstToGo?_mem hfirst)
      rcases List.mem_cons.1 hb with rfl | hb
      · rfl
      · have hab := goesBefore_iff.2 ((List.pairwise_cons.1 h.ordered).1 b hb)
        rw [firstToGo?_least hfirst ha] at hab
        exact nomatch hab

/-- Without its head a ranking ranks the others. -/
theorem Ranks.erase (h : Ranks (a :: ranked) as) (hnodup : (as.map (·.bssid)).Nodup) :
    Ranks ranked (as.filter (·.bssid != a.bssid)) := by
  have hdistinct : ((a :: ranked).map (·.bssid)).Nodup := (h.perm.map _).nodup_iff.2 hnodup
  have hothers : ranked.filter (·.bssid != a.bssid) = ranked := by
    refine List.filter_eq_self.2 fun b hb => bne_iff_ne.2 fun heq => ?_
    exact (List.nodup_cons.1 hdistinct).1 (List.mem_map.2 ⟨b, hb, heq⟩)
  have hperm := h.perm.filter (·.bssid != a.bssid)
  rw [List.filter_cons_of_neg (by simp), hothers] at hperm
  exact ⟨hperm, (List.pairwise_cons.1 h.ordered).2⟩

/-- What stands before an access point in a ranking is what goes before it. -/
theorem Ranks.mem_take_iff (h : Ranks ranked as) (ha : a ∈ as) (count : Nat) :
    a ∈ ranked.take count ↔ as.countP (·.goesBefore a) < count := by
  obtain ⟨before, after, rfl⟩ := List.append_of_mem (h.perm.mem_iff.2 ha)
  obtain ⟨-, hafter, hbefore⟩ := List.pairwise_append.1 h.ordered
  have hlow : ∀ b ∈ before, b.goesBefore a = true := fun b hb =>
    goesBefore_iff.2 (hbefore b hb a List.mem_cons_self)
  have hhigh : ∀ b ∈ a :: after, ¬ b.goesBefore a = true := by
    intro b hb hgoes
    rcases List.mem_cons.1 hb with rfl | hb
    · exact (goesBefore_iff.1 hgoes).asymm (goesBefore_iff.1 hgoes)
    · exact (goesBefore_iff.1 hgoes).asymm ((List.pairwise_cons.1 hafter).1 b hb)
  have hcount : as.countP (·.goesBefore a) = before.length := by
    rw [← h.perm.countP_eq, List.countP_append, List.countP_eq_length.2 hlow,
      List.countP_eq_zero.2 hhigh, Nat.add_zero]
  rw [hcount]
  by_cases hlt : before.length < count
  · refine iff_of_true ?_ hlt
    obtain ⟨more, rfl⟩ := Nat.exists_eq_add_of_lt hlt
    rw [List.take_append, show before.length + more + 1 - before.length = more + 1 by omega]
    exact List.mem_append_right _ List.mem_cons_self
  · refine iff_of_false (fun htake => ?_) hlt
    rw [List.take_append_of_le_length (Nat.not_lt.1 hlt)] at htake
    exact hhigh a List.mem_cons_self (hlow a (List.mem_of_mem_take htake))

end AccessPoint

namespace Store

open AccessPoint

variable {s t u : Store} {a : AccessPoint} {scan most count : Nat} {ranked : List AccessPoint}

/-- The members that may be dropped to make room. -/
def idle (scan : Nat) (s : Store) : List AccessPoint :=
  s.toList.filter fun a => !a.isLive scan

/-- The number of live members. -/
def live (scan : Nat) (s : Store) : Nat :=
  s.toList.countP (·.isLive scan)

theorem nodup_idle (scan : Nat) (s : Store) : ((s.idle scan).map (·.bssid)).Nodup :=
  s.nodup_bssids.sublist (List.filter_sublist.map _)

theorem length_idle (scan : Nat) (s : Store) : (s.idle scan).length = s.size - s.live scan := by
  have hsplit := List.length_eq_length_filter_add (l := s.toList) (·.isLive scan)
  rw [idle, live, size, List.countP_eq_length_filter, hsplit]
  omega

theorem idle_erase (bssid : String) :
    (s.erase bssid).idle scan = (s.idle scan).filter (·.bssid != bssid) :=
  List.filter_comm _ _ _

/-- As many access points as are dropped are dropped from the front of the ranking. -/
theorem mem_dropFirst_iff (h : Ranks ranked (s.idle scan)) :
    a ∈ (s.dropFirst scan count).toList ↔ a ∈ s.toList ∧ a ∉ ranked.take count := by
  induction count generalizing s ranked with
  | zero => simp [dropFirst]
  | succ count ih =>
      cases ranked with
      | nil =>
          have hnone : firstToGo? (s.idle scan) = none :=
            firstToGo?_eq_none_iff.2 h.perm.symm.eq_nil
          rw [idle] at hnone
          simp [dropFirst, hnone]
      | cons b ranked =>
          have hfirst : firstToGo? (s.idle scan) = some b := h.firstToGo?_eq
          have hb : b ∈ s.toList := (List.mem_filter.1 (firstToGo?_mem hfirst)).1
          have hrest : Ranks ranked ((s.erase b.bssid).idle scan) := by
            rw [idle_erase]
            exact h.erase (nodup_idle scan s)
          rw [idle] at hfirst
          simp only [dropFirst, hfirst]
          rw [ih hrest, mem_erase_iff, List.take_succ_cons, List.mem_cons, not_or, and_assoc]
          -- another BSSID is another member
          refine and_congr_right fun ha => and_congr_left' (not_congr ?_)
          exact ⟨fun heq => eq_of_bssid_eq ha hb heq, fun heq => heq ▸ rfl⟩

/-! ## Pass by pass -/

/-- One pass of making room: if there are more members than the limit allows, the first to go of
those that are not live is dropped. There is no pass to make if all fit or all are live. -/
def pass? (scan most : Nat) (s : Store) : Option Store :=
  if most < s.size then (firstToGo? (s.idle scan)).map fun a => s.erase a.bssid else none

/-- A number of passes, after which there is none left to make. -/
inductive Passes (scan most : Nat) : Nat → Store → Store → Prop where
  | done {s : Store} (h : s.pass? scan most = none) : Passes scan most 0 s s
  | pass {s t u : Store} {count : Nat} (h : s.pass? scan most = some t)
      (rest : Passes scan most count t u) : Passes scan most (count + 1) s u

theorem pass?_eq_none_iff :
    s.pass? scan most = none ↔ s.size ≤ most ∨ ∀ a ∈ s.toList, a.isLive scan = true := by
  rw [pass?]
  by_cases hmost : most < s.size
  · rw [if_pos hmost, Option.map_eq_none_iff, firstToGo?_eq_none_iff, idle,
      List.filter_eq_nil_iff, or_iff_right (Nat.not_le.2 hmost)]
    simp
  · rw [if_neg hmost]
    exact iff_of_true rfl (.inl (Nat.not_lt.1 hmost))

/-- Passes can be made in one way only. -/
theorem Passes.unique (h : Passes scan most count s t) {count' : Nat}
    (h' : Passes scan most count' s u) : count = count' ∧ t = u := by
  induction h generalizing count' with
  | done hnone =>
      cases h' with
      | done _ => exact ⟨rfl, rfl⟩
      | pass hpass _ => exact nomatch hnone.symm.trans hpass
  | pass hpass _ ih =>
      cases h' with
      | done hnone => exact nomatch hnone.symm.trans hpass
      | pass hpass' rest' =>
          obtain rfl := Option.some.inj (hpass.symm.trans hpass')
          obtain ⟨rfl, rfl⟩ := ih rest'
          exact ⟨rfl, rfl⟩

/-- After the last pass all fit or all are live. -/
theorem Passes.fits (h : Passes scan most count s t) :
    t.size ≤ most ∨ ∀ a ∈ t.toList, a.isLive scan = true := by
  induction h with
  | done hnone => exact pass?_eq_none_iff.1 hnone
  | pass _ _ ih => exact ih

/-- **Making room ends**: it takes as many passes as there are members too many, or as there are
members that may be dropped. -/
theorem passes_trim (scan most : Nat) (s : Store) :
    Passes scan most (min (s.idle scan).length (s.size - most)) s (s.trim scan most) := by
  rw [trim]
  induction hcount : s.size - most generalizing s with
  | zero =>
      rw [Nat.min_zero, dropFirst]
      exact .done (pass?_eq_none_iff.2 (.inl (by omega)))
  | succ count ih =>
      have hmost : most < s.size := by omega
      simp only [dropFirst]
      rw [← idle]
      cases hfirst : firstToGo? (s.idle scan) with
      | none =>
          rw [firstToGo?_eq_none_iff.1 hfirst, List.length_nil, Nat.zero_min]
          refine .done ?_
          rw [pass?, if_pos hmost, hfirst]
          rfl
      | some a =>
          have ha := firstToGo?_mem hfirst
          have hsize : (s.erase a.bssid).size + 1 = s.size :=
            size_erase (List.mem_filter.1 ha).1
          have hidle : ((s.erase a.bssid).idle scan).length + 1 = (s.idle scan).length := by
            obtain ⟨ranked, hranked⟩ := exists_ranks (nodup_idle scan s)
            cases ranked with
            | nil => exact absurd (hranked.perm.symm.eq_nil ▸ ha) List.not_mem_nil
            | cons b ranked =>
                obtain rfl := Option.some.inj (hfirst.symm.trans hranked.firstToGo?_eq)
                rw [idle_erase, ← (hranked.erase (nodup_idle scan s)).perm.length_eq,
                  ← hranked.perm.length_eq, List.length_cons]
          have hpass : s.pass? scan most = some (s.erase a.bssid) := by
            rw [pass?, if_pos hmost, hfirst]
            rfl
          have hrest := ih (s.erase a.bssid) (by omega)
          rw [← hidle, Nat.add_min_add_right]
          exact .pass hpass hrest

/-! ## What making room leaves -/

/-- **Making room drops the first to go**: as many of the ranking as passes are made. -/
theorem mem_trim_iff (h : Ranks ranked (s.idle scan)) :
    a ∈ (s.trim scan most).toList ↔
      a ∈ s.toList ∧ a ∉ ranked.take (min (s.idle scan).length (s.size - most)) := by
  rw [trim, mem_dropFirst_iff h, List.take_eq_take_min, h.perm.length_eq, Nat.min_comm]

/-- **Who stays is a matter of counting**: what is not live stays exactly if there is room enough
once all that goes before it is gone. -/
theorem mem_trim_iff_countP :
    a ∈ (s.trim scan most).toList ↔ a ∈ s.toList
      ∧ (a.isLive scan = true ∨ s.size ≤ most + (s.idle scan).countP (·.goesBefore a)) := by
  obtain ⟨ranked, hranked⟩ := exists_ranks (nodup_idle scan s)
  rw [trim, mem_dropFirst_iff hranked]
  refine and_congr_right fun ha => ?_
  by_cases hlive : a.isLive scan = true
  · refine iff_of_true (fun htake => ?_) (.inl hlive)
    have hidle := (List.mem_filter.1 (hranked.perm.mem_iff.1 (List.mem_of_mem_take htake))).2
    rw [hlive] at hidle
    exact absurd hidle Bool.false_ne_true
  · have hidle : a ∈ s.idle scan := by
      refine List.mem_filter.2 ⟨ha, ?_⟩
      rw [Bool.eq_false_iff.2 hlive]
      rfl
    rw [hranked.mem_take_iff hidle, or_iff_right hlive]
    omega

theorem mem_trim_of_live (ha : a ∈ s.toList) (hlive : a.isLive scan = true) :
    a ∈ (s.trim scan most).toList :=
  mem_dropFirst_of_live ha hlive

/-- Whatever is dropped to make room goes before whatever could have been dropped as well. -/
theorem precedes_of_trimmed {b : AccessPoint} (ha : a ∈ s.toList)
    (hdropped : a ∉ (s.trim scan most).toList) (hb : b ∈ (s.trim scan most).toList)
    (hidle : b.isLive scan = false) : a.Precedes b := by
  obtain ⟨ranked, hranked⟩ := exists_ranks (nodup_idle scan s)
  rw [mem_trim_iff hranked, not_and_not_right] at hdropped
  obtain ⟨hmem, hkept⟩ := (mem_trim_iff hranked).1 hb
  have hb' : b ∈ ranked := by
    refine hranked.perm.mem_iff.2 (List.mem_filter.2 ⟨hmem, ?_⟩)
    rw [hidle]
    rfl
  -- the one stands in the initial part of the ranking, the other in the rest
  have hordered := hranked.ordered
  rw [← List.take_append_drop (min (s.idle scan).length (s.size - most)) ranked] at hordered hb'
  exact (List.pairwise_append.1 hordered).2.2 a (hdropped ha) b
    ((List.mem_append.1 hb').resolve_left hkept)

end Store

namespace Registry

open AccessPoint

variable {r : Registry} {gs : List Sighting} {a : AccessPoint}

/-- A refresh accounts for every access point of the merged store: it is kept, or it was dropped as
stale or to make room. -/
theorem refresh_accounts {σ : Type} (measure : Action σ Float) (r : Registry)
    (rows : List Observation) (s : σ) :
    let refreshed := (r.refresh measure rows s).value
    refreshed.registry.size + refreshed.trimmed + refreshed.stale
      = (mergeRows measure (r.scans + 1) r.store rows s).value.size := by
  intro refreshed
  let merged := (mergeRows measure (r.scans + 1) r.store rows s).value
  have hfresh : (merged.dropStale r.limits (r.scans + 1)).size ≤ merged.size :=
    Store.size_filter_le _
  have hkept : (merged.evict r.limits (r.scans + 1)).size
      ≤ (merged.dropStale r.limits (r.scans + 1)).size := Store.size_dropFirst_le
  show (merged.evict r.limits (r.scans + 1)).size
    + ((merged.dropStale r.limits (r.scans + 1)).size
      - (merged.evict r.limits (r.scans + 1)).size)
    + (merged.size - (merged.dropStale r.limits (r.scans + 1)).size) = merged.size
  omega

/-- **Eviction drops what goes first, and ends**: after any scans and with any limits, the store
that the next scan leaves is the merged one without what has been absent for as many scans as the
limits allow, and then without the first to go of those that are not live, as many as there are too
many or as there are at all. Making room takes as many passes, drops nothing that is live and
nothing that goes after what it keeps, and ends when all fit or all are live. -/
theorem eviction_drops_first_to_go {σ : Type} (measure : Action σ Float) (limits : Limits)
    (earlier : List (List Observation)) (latest : List Observation) (s s' : σ) :
    let r := ((empty limits).refreshAll measure earlier s).value
    let scan := r.scans + 1
    let merged := (mergeRows measure scan r.store latest s').value
    let fresh := merged.filter fun a => decide (scan - a.lastSeen < limits.staleAfterScans.toNat)
    let kept := (r.refresh measure latest s').value.registry.store
    let most := limits.maxEntries.toNat
    let count := min (fresh.size - fresh.live scan) (fresh.size - most)
    (∀ a ∈ merged.toList, a.isLive scan = true ↔
        a.inUse = true ∧ ∃ row ∈ latest, row.bssid = a.bssid)
      ∧ (∃ ranked, Ranks ranked (fresh.idle scan)
        ∧ ∀ a, a ∈ kept.toList ↔ a ∈ fresh.toList ∧ a ∉ ranked.take count)
      ∧ (∀ passes rest, Store.Passes scan most passes fresh rest ↔ passes = count ∧ rest = kept)
      ∧ (∀ a ∈ fresh.toList, a.isLive scan = true → a ∈ kept.toList)
      ∧ (∀ a ∈ fresh.toList, a ∉ kept.toList → ∀ b ∈ kept.toList, b.isLive scan = false →
        a.Precedes b)
      ∧ (kept.size ≤ most ∨ ∀ a ∈ kept.toList, a.isLive scan = true) := by
  intro r scan merged fresh kept most count
  obtain ⟨history, -, hr⟩ := exists_refreshAll_eq_absorbAll measure (empty limits) earlier s
  have hdated : r.Dated := by
    rw [show r = _ from hr]
    exact (dated_empty limits).absorbAll
  have hlimits : r.limits = limits := by
    rw [show r = _ from hr]
    exact limits_absorbAll
  have hmerged : merged = r.store.sightAll scan (Sighting.takeAll measure latest s').value := by
    show (mergeRows measure scan r.store latest s').value = _
    rw [mergeRows_eq_sightAll]
    rfl
  have hfresh : fresh = merged.filter fun a => !a.isStale limits scan := by
    refine congrArg merged.filter (funext fun a => ?_)
    rw [isStale, ← decide_not, decide_eq_decide, Nat.not_le]
  have hkept : kept = fresh.trim scan most := by
    show (r.refresh measure latest s').value.registry.store = _
    rw [refresh_eq_absorb, hfresh, hmerged, absorb, hlimits]
    rfl
  have hcount : count = min (fresh.idle scan).length (fresh.size - most) := by
    rw [Store.length_idle]
  have hpasses : Store.Passes scan most count fresh kept := by
    rw [hcount, hkept]
    exact Store.passes_trim scan most fresh
  refine ⟨?_, ?_, ?_, ?_, ?_, hpasses.fits⟩
  · intro a ha
    rw [hmerged] at ha
    rw [isLive, Bool.and_eq_true, beq_iff_eq, hdated.lastSeen_eq_iff ha, Sighting.rows_takeAll]
  · obtain ⟨ranked, hranked⟩ := exists_ranks (Store.nodup_idle scan fresh)
    refine ⟨ranked, hranked, fun a => ?_⟩
    rw [hkept, hcount]
    exact Store.mem_trim_iff hranked
  · intro passes rest
    constructor
    · intro h
      exact h.unique hpasses
    · rintro ⟨rfl, rfl⟩
      exact hpasses
  · intro a ha hlive
    rw [hkept]
    exact Store.mem_trim_of_live ha hlive
  · intro a ha hdropped b hb hidle
    rw [hkept] at hdropped hb
    exact Store.precedes_of_trimmed ha hdropped hb hidle

end Registry

end Roaming
