import Roaming.AccessPoint

/-!
# Stores of access points

A store holds at most one access point for each BSSID, in ascending order of BSSID (code point
order). The order is part of the type, so two stores with the same members are the same store, and
the first member with a property is the one with the least BSSID.
-/

namespace Roaming

/-- The order of a store: by BSSID, without repetition. -/
def Ascending (as : List AccessPoint) : Prop :=
  as.Pairwise fun a b => a.bssid < b.bssid

/-- Puts an access point in its place, in the stead of one with the same BSSID. -/
def placeAscending (a : AccessPoint) : List AccessPoint → List AccessPoint
  | [] => [a]
  | b :: bs =>
    if a.bssid < b.bssid then a :: b :: bs
    else if b.bssid < a.bssid then b :: placeAscending a bs
    else a :: bs

theorem mem_placeAscending {a x : AccessPoint} {as : List AccessPoint}
    (h : x ∈ placeAscending a as) : x = a ∨ x ∈ as := by
  induction as with
  | nil => simpa [placeAscending] using h
  | cons b bs ih =>
    simp only [placeAscending] at h
    split at h
    · simpa using h
    · split at h
      · rcases List.mem_cons.1 h with rfl | h
        · exact .inr (by simp)
        · exact (ih h).imp id (List.mem_cons_of_mem _)
      · rcases List.mem_cons.1 h with rfl | h
        · exact .inl rfl
        · exact .inr (List.mem_cons_of_mem _ h)

theorem ascending_placeAscending (a : AccessPoint) {as : List AccessPoint} (h : Ascending as) :
    Ascending (placeAscending a as) := by
  induction as with
  | nil => exact List.pairwise_singleton _ _
  | cons b bs ih =>
    have hb := List.pairwise_cons.1 h
    simp only [placeAscending]
    split
    · rename_i hab
      refine List.pairwise_cons.2 ⟨fun x hx => ?_, h⟩
      rcases List.mem_cons.1 hx with rfl | hx
      · exact hab
      · exact String.lt_trans hab (hb.1 x hx)
    · rename_i hab
      split
      · rename_i hba
        refine List.pairwise_cons.2 ⟨fun x hx => ?_, ih hb.2⟩
        rcases mem_placeAscending hx with rfl | hx
        · exact hba
        · exact hb.1 x hx
      · rename_i hba
        have heq : a.bssid = b.bssid := String.le_antisymm hba hab
        exact List.pairwise_cons.2 ⟨fun x hx => heq ▸ hb.1 x hx, hb.2⟩

/-- Access points by BSSID. -/
structure Store where
  /-- The members, in ascending order of BSSID. -/
  toList : List AccessPoint
  /-- The order holds. -/
  ascending : Ascending toList

namespace Store

/-- The store without members. -/
def empty : Store :=
  ⟨[], List.Pairwise.nil⟩

/-- The number of members. -/
def size (s : Store) : Nat :=
  s.toList.length

/-- The member with a BSSID. -/
def get? (s : Store) (bssid : String) : Option AccessPoint :=
  s.toList.find? (·.bssid == bssid)

/-- Adds a member, or replaces the one with its BSSID. -/
def insert (s : Store) (a : AccessPoint) : Store :=
  ⟨placeAscending a s.toList, ascending_placeAscending a s.ascending⟩

/-- Keeps the members with a property. -/
def filter (s : Store) (p : AccessPoint → Bool) : Store :=
  ⟨s.toList.filter p, List.Pairwise.filter p s.ascending⟩

/-- Drops the member with a BSSID. -/
def erase (s : Store) (bssid : String) : Store :=
  s.filter (·.bssid != bssid)

theorem ext {s t : Store} (h : s.toList = t.toList) : s = t := by
  cases s; cases t; cases h; rfl

end Store

end Roaming
