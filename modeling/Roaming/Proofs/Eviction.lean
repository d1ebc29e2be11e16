import Mathlib.Data.List.Basic
import Roaming.Proofs.Store
import Roaming.Registry.Eviction

/-!
# What eviction leaves

Eviction only takes away: whatever a store holds afterwards it held before, unchanged
(`get?_of_get?_evict`). And it takes the older ones first, so the access points of the scan just
merged all stay as long as they alone do not exceed the limit (`mem_evict_of_seen`). The argument is
one induction on the number of access points to drop: while there are more members than the limit
allows, some member is older than the scan, and so the one that goes first is older as well. The
link in use stays without that condition (`mem_evict_of_live`).
-/

namespace Roaming

namespace AccessPoint

theorem firstToGo?_mem {as : List AccessPoint} {a : AccessPoint} (h : firstToGo? as = some a) :
    a ∈ as := by
  induction as generalizing a with
  | nil => exact nomatch h
  | cons b bs ih =>
      simp only [firstToGo?] at h
      cases hbs : firstToGo? bs with
      | none =>
          rw [hbs] at h
          obtain rfl := Option.some.inj h
          exact List.mem_cons_self
      | some c =>
          simp only [hbs] at h
          split at h
          · obtain rfl := Option.some.inj h
            exact List.mem_cons_of_mem _ (ih hbs)
          · obtain rfl := Option.some.inj h
            exact List.mem_cons_self

/-- There is one to go as long as there is one at all. -/
theorem firstToGo?_eq_none_iff {as : List AccessPoint} : firstToGo? as = none ↔ as = [] := by
  cases as with
  | nil => exact ⟨fun _ => rfl, fun _ => rfl⟩
  | cons a as =>
      simp only [firstToGo?]
      split
      · simp
      · split <;> simp

/-- What the scan lists is not absent. -/
theorem isStale_eq_false_of_seen {limits : Limits} {scan : Nat} {a : AccessPoint}
    (hstale : 0 < limits.staleAfterScans.toNat) (hseen : a.lastSeen = scan) :
    a.isStale limits scan = false := by
  rw [isStale, decide_eq_false_iff_not]
  omega

/-- The order in which access points go is lexicographic: by date, then by BSSID. -/
def Precedes (a b : AccessPoint) : Prop :=
  a.lastSeen < b.lastSeen ∨ (a.lastSeen = b.lastSeen ∧ a.bssid < b.bssid)

theorem goesBefore_iff {a b : AccessPoint} : a.goesBefore b = true ↔ a.Precedes b := by
  simp only [goesBefore, Precedes, Bool.or_eq_true, Bool.and_eq_true, decide_eq_true_eq, beq_iff_eq]

theorem goesBefore_eq_false_iff {a b : AccessPoint} :
    b.goesBefore a = false ↔
      a.lastSeen < b.lastSeen ∨ (a.lastSeen = b.lastSeen ∧ a.bssid ≤ b.bssid) := by
  rw [← Bool.not_eq_true, goesBefore_iff, Precedes, ← String.not_lt]
  constructor
  · intro h
    by_cases hseen : a.lastSeen < b.lastSeen
    · exact .inl hseen
    · have heq : a.lastSeen = b.lastSeen := by
        have hle : ¬ b.lastSeen < a.lastSeen := fun hlt => h (.inl hlt)
        omega
      exact .inr ⟨heq, fun hlt => h (.inr ⟨heq.symm, hlt⟩)⟩
  · rintro (hseen | ⟨hseen, hbssid⟩) (hlt | ⟨heq, hlt⟩)
    · omega
    · omega
    · omega
    · exact hbssid hlt

/-- Going no later than another is transitive. -/
theorem goesBefore_eq_false_trans {a b c : AccessPoint} (hab : b.goesBefore a = false)
    (hbc : c.goesBefore b = false) : c.goesBefore a = false := by
  rw [goesBefore_eq_false_iff] at hab hbc ⊢
  rcases hab with hab | ⟨hab, habssid⟩ <;> rcases hbc with hbc | ⟨hbc, hbbssid⟩
  · exact .inl (by omega)
  · exact .inl (by omega)
  · exact .inl (by omega)
  · exact .inr ⟨hab.trans hbc, String.le_trans habssid hbbssid⟩

/-- Nothing goes before the one to go. -/
theorem firstToGo?_least {as : List AccessPoint} {a b : AccessPoint}
    (h : firstToGo? as = some a) (hb : b ∈ as) : b.goesBefore a = false := by
  have hself : ∀ c : AccessPoint, c.goesBefore c = false := fun c =>
    goesBefore_eq_false_iff.2 (.inr ⟨rfl, String.le_refl _⟩)
  induction as generalizing a with
  | nil => exact nomatch hb
  | cons c cs ih =>
      simp only [firstToGo?] at h
      cases hcs : firstToGo? cs with
      | none =>
          rw [hcs] at h
          obtain rfl := Option.some.inj h
          obtain rfl := firstToGo?_eq_none_iff.1 hcs
          obtain rfl := List.mem_singleton.1 hb
          exact hself _
      | some d =>
          simp only [hcs] at h
          split at h
          · -- the first of the rest goes before the head
            rename_i hbefore
            obtain rfl := Option.some.inj h
            rcases List.mem_cons.1 hb with rfl | hb
            · rw [goesBefore_iff] at hbefore
              refine goesBefore_eq_false_iff.2 (hbefore.imp id ?_)
              exact fun hlt => ⟨hlt.1, String.not_lt.1 (String.lt_asymm hlt.2)⟩
            · exact ih hcs hb
          · rename_i hbefore
            obtain rfl := Option.some.inj h
            rcases List.mem_cons.1 hb with rfl | hb
            · exact hself _
            · exact goesBefore_eq_false_trans (Bool.not_eq_true _ ▸ hbefore) (ih hcs hb)

/-- The one to go was seen longest ago. -/
theorem lastSeen_firstToGo?_le {as : List AccessPoint} {a b : AccessPoint}
    (h : firstToGo? as = some a) (hb : b ∈ as) : a.lastSeen ≤ b.lastSeen := by
  rcases goesBefore_eq_false_iff.1 (firstToGo?_least h hb) with hlt | ⟨heq, -⟩
  · exact Nat.le_of_lt hlt
  · exact Nat.le_of_eq heq

end AccessPoint

namespace Store

variable {s : Store} {a : AccessPoint} {scan count : Nat}

theorem mem_dropStale_iff {limits : Limits} :
    a ∈ (s.dropStale limits scan).toList ↔ a ∈ s.toList ∧ a.isStale limits scan = false := by
  rw [dropStale, mem_filter_iff, Bool.not_eq_true']

theorem mem_of_mem_dropFirst (h : a ∈ (s.dropFirst scan count).toList) : a ∈ s.toList := by
  induction count generalizing s with
  | zero => exact h
  | succ count ih =>
      simp only [dropFirst] at h
      split at h
      · exact h
      · exact (mem_erase_iff.1 (ih h)).1

/-- Eviction adds nothing and alters nothing. -/
theorem mem_of_mem_evict {limits : Limits} (h : a ∈ (s.evict limits scan).toList) :
    a ∈ s.toList :=
  (mem_dropStale_iff.1 (mem_of_mem_dropFirst h)).1

theorem get?_of_get?_evict {limits : Limits} {bssid : String}
    (h : (s.evict limits scan).get? bssid = some a) : s.get? bssid = some a := by
  obtain ⟨hmem, hbssid⟩ := get?_eq_some_iff.1 h
  exact get?_eq_some_iff.2 ⟨mem_of_mem_evict hmem, hbssid⟩

theorem size_filter_le (p : AccessPoint → Bool) : (s.filter p).size ≤ s.size :=
  List.length_filter_le p s.toList

theorem size_dropFirst_le : (s.dropFirst scan count).size ≤ s.size := by
  induction count generalizing s with
  | zero => exact Nat.le_refl _
  | succ count ih =>
      simp only [dropFirst]
      split
      · exact Nat.le_refl _
      · exact ih.trans (size_filter_le _)

/-- The number of members that a scan listed. -/
def seenIn (scan : Nat) (s : Store) : Nat :=
  s.toList.countP (·.lastSeen == scan)

/-- Room is made at the expense of older members as long as there are enough of them. -/
theorem mem_dropFirst_of_seen (hold : ∀ b ∈ s.toList, b.lastSeen ≤ scan)
    (hroom : s.seenIn scan + count ≤ s.size) (ha : a ∈ s.toList) (hseen : a.lastSeen = scan) :
    a ∈ (s.dropFirst scan count).toList := by
  induction count generalizing s with
  | zero => exact ha
  | succ count ih =>
      -- more members than the scan listed, so one of them is older than the scan
      obtain ⟨b, hb, hbseen⟩ : ∃ b ∈ s.toList, b.lastSeen ≠ scan := by
        by_contra hall
        push Not at hall
        have hcount : s.seenIn scan = s.size :=
          List.countP_eq_length.2 fun c hc => beq_iff_eq.2 (hall c hc)
        omega
      have hblive : b ∈ s.toList.filter fun c => !c.isLive scan := by
        refine List.mem_filter.2 ⟨hb, ?_⟩
        rw [AccessPoint.isLive, beq_false_of_ne hbseen, Bool.and_false]
        rfl
      simp only [dropFirst]
      split
      · exact ha
      · rename_i c hc
        have hcmem : c ∈ s.toList := (List.mem_filter.1 (AccessPoint.firstToGo?_mem hc)).1
        -- the one that goes is at least as old as that
        have hcold : c.lastSeen ≠ scan := by
          have hcb := AccessPoint.lastSeen_firstToGo?_le hc hblive
          have hble := hold b hb
          omega
        have hac : a.bssid ≠ c.bssid := by
          intro heq
          obtain rfl := eq_of_bssid_eq ha hcmem heq
          exact hcold hseen
        have hsize := size_erase hcmem
        have hseenIn : (s.erase c.bssid).seenIn scan ≤ s.seenIn scan :=
          List.filter_sublist.countP_le
        refine ih (fun d hd => hold d (mem_erase_iff.1 hd).1) ?_ (mem_erase_iff.2 ⟨ha, hac⟩)
        omega

/-- **The latest scan stays**: eviction keeps every access point of the scan just merged, as long as
these alone are within the limit. -/
theorem mem_evict_of_seen {limits : Limits} (hstale : 0 < limits.staleAfterScans.toNat)
    (hold : ∀ b ∈ s.toList, b.lastSeen ≤ scan) (hroom : s.seenIn scan ≤ limits.maxEntries.toNat)
    (ha : a ∈ s.toList) (hseen : a.lastSeen = scan) : a ∈ (s.evict limits scan).toList := by
  rw [evict, trim]
  refine mem_dropFirst_of_seen (fun b hb => hold b (mem_dropStale_iff.1 hb).1) ?_ ?_ hseen
  · have hle : (s.dropStale limits scan).seenIn scan ≤ s.seenIn scan :=
      List.filter_sublist.countP_le
    have hsize : (s.dropStale limits scan).seenIn scan ≤ (s.dropStale limits scan).size :=
      List.countP_le_length
    omega
  · exact mem_dropStale_iff.2 ⟨ha, AccessPoint.isStale_eq_false_of_seen hstale hseen⟩

/-- Room is never made at the expense of a live link. -/
theorem mem_dropFirst_of_live (ha : a ∈ s.toList) (hlive : a.isLive scan = true) :
    a ∈ (s.dropFirst scan count).toList := by
  induction count generalizing s with
  | zero => exact ha
  | succ count ih =>
      simp only [dropFirst]
      split
      · exact ha
      · rename_i c hc
        obtain ⟨hcmem, hcidle⟩ := List.mem_filter.1 (AccessPoint.firstToGo?_mem hc)
        have hac : a.bssid ≠ c.bssid := by
          intro heq
          obtain rfl := eq_of_bssid_eq ha hcmem heq
          rw [hlive] at hcidle
          exact nomatch hcidle
        exact ih (mem_erase_iff.2 ⟨ha, hac⟩)

/-- **The link stays**: eviction keeps what was in use in the scan just merged, however many access
points there are. -/
theorem mem_evict_of_live {limits : Limits} (hstale : 0 < limits.staleAfterScans.toNat)
    (ha : a ∈ s.toList) (hseen : a.lastSeen = scan) (hused : a.inUse = true) :
    a ∈ (s.evict limits scan).toList := by
  have hfresh := AccessPoint.isStale_eq_false_of_seen hstale hseen
  refine mem_dropFirst_of_live (mem_dropStale_iff.2 ⟨ha, hfresh⟩) ?_
  rw [AccessPoint.isLive, hused, hseen, beq_self_eq_true]
  rfl

end Store

end Roaming
