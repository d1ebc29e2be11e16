import Mathlib.Data.List.Nodup
import Mathlib.Data.List.Sort
import Roaming.Registry.Store

/-!
# Stores through their look-up

A store is an ordered list, but what matters of it is which access point it gives for a BSSID.
Since no BSSID stands twice in a store, look-up and membership say the same (`get?_eq_some_iff`),
and every operation is described by what it does to look-up.
-/

namespace Roaming

/-- Two lists that ascend by their keys are one list if they have the same members. -/
theorem eq_of_ascending {α : Type} (key : α → String) {as bs : List α}
    (ha : as.Pairwise fun a b => key a < key b) (hb : bs.Pairwise fun a b => key a < key b)
    (h : ∀ a, a ∈ as ↔ a ∈ bs) : as = bs := by
  have : Std.Irrefl fun a b : α => key a < key b := ⟨fun a => String.lt_irrefl (key a)⟩
  have : Std.Antisymm fun a b : α => key a < key b :=
    ⟨fun a b hlt hgt => absurd (String.lt_trans hlt hgt) (String.lt_irrefl (key a))⟩
  exact ha.eq_of_mem_iff hb h

/-- In an ascending list, placing an access point displaces exactly the one with its BSSID. -/
theorem mem_placeAscending_iff {a x : AccessPoint} {as : List AccessPoint} (h : Ascending as) :
    x ∈ placeAscending a as ↔ x = a ∨ (x ∈ as ∧ x.bssid ≠ a.bssid) := by
  induction as with
  | nil => simp [placeAscending]
  | cons b bs ih =>
      obtain ⟨hb, hbs⟩ := List.pairwise_cons.1 h
      simp only [placeAscending]
      split
      · rename_i hab
        -- everything in the list comes after the new access point
        have hne : ∀ y ∈ b :: bs, y.bssid ≠ a.bssid := by
          intro y hy heq
          rcases List.mem_cons.1 hy with rfl | hy
          · exact String.lt_irrefl _ (heq ▸ hab)
          · exact String.lt_irrefl _ (heq ▸ String.lt_trans hab (hb y hy))
        rw [List.mem_cons]
        exact or_congr_right ⟨fun hx => ⟨hx, hne x hx⟩, And.left⟩
      · split
        · rename_i hba
          have hne : b.bssid ≠ a.bssid := fun heq => String.lt_irrefl _ (heq ▸ hba)
          rw [List.mem_cons, ih hbs, List.mem_cons]
          constructor
          · rintro (rfl | rfl | ⟨hx, hxa⟩)
            · exact .inr ⟨.inl rfl, hne⟩
            · exact .inl rfl
            · exact .inr ⟨.inr hx, hxa⟩
          · rintro (rfl | ⟨rfl | hx, hxa⟩)
            · exact .inr (.inl rfl)
            · exact .inl rfl
            · exact .inr (.inr ⟨hx, hxa⟩)
        · rename_i hab hba
          have heq : a.bssid = b.bssid := String.le_antisymm hba hab
          -- the head is the one displaced; nothing after it has the same BSSID
          have hne : ∀ y ∈ bs, y.bssid ≠ a.bssid := by
            intro y hy hya
            exact String.lt_irrefl _ (hya.trans heq ▸ hb y hy)
          rw [List.mem_cons, List.mem_cons]
          constructor
          · rintro (rfl | hx)
            · exact .inl rfl
            · exact .inr ⟨.inr hx, hne x hx⟩
          · rintro (rfl | ⟨rfl | hx, hxa⟩)
            · exact .inl rfl
            · exact absurd heq.symm hxa
            · exact .inr hx

namespace Store

variable {s t : Store} {a b x : AccessPoint}

/-- No BSSID stands twice in a store. -/
theorem nodup_bssids (s : Store) : (s.toList.map (·.bssid)).Nodup := by
  have hasc : s.toList.Pairwise fun a b => a.bssid < b.bssid := s.ascending
  refine List.pairwise_map.2 (hasc.imp ?_)
  intro a b hab heq
  exact String.lt_irrefl _ (heq ▸ hab)

/-- Two members with one BSSID are one member. -/
theorem eq_of_bssid_eq (ha : a ∈ s.toList) (hb : b ∈ s.toList) (h : a.bssid = b.bssid) : a = b :=
  List.inj_on_of_nodup_map s.nodup_bssids ha hb h

/-- Looking a BSSID up finds the member filed under it. -/
theorem get?_eq_some_iff {bssid : String} :
    s.get? bssid = some a ↔ a ∈ s.toList ∧ a.bssid = bssid := by
  constructor
  · intro h
    exact ⟨List.mem_of_find?_eq_some h, by simpa using List.find?_some h⟩
  · rintro ⟨hmem, rfl⟩
    obtain ⟨b, hb⟩ : ∃ b, s.get? a.bssid = some b := by
      refine Option.isSome_iff_exists.1 (List.find?_isSome.2 ⟨a, hmem, ?_⟩)
      exact beq_self_eq_true _
    have heq : b.bssid = a.bssid := by simpa using List.find?_some hb
    rw [hb, eq_of_bssid_eq (List.mem_of_find?_eq_some hb) hmem heq]

theorem get?_bssid (h : a ∈ s.toList) : s.get? a.bssid = some a :=
  get?_eq_some_iff.2 ⟨h, rfl⟩

/-- Stores that look up the same are the same store. -/
theorem ext_get? (h : ∀ bssid, s.get? bssid = t.get? bssid) : s = t := by
  refine ext (eq_of_ascending AccessPoint.bssid s.ascending t.ascending fun a => ?_)
  have hmem : ∀ u : Store, a ∈ u.toList ↔ u.get? a.bssid = some a := by
    intro u
    rw [get?_eq_some_iff, and_iff_left rfl]
  rw [hmem, hmem, h]

theorem mem_insert_iff : x ∈ (s.insert a).toList ↔ x = a ∨ (x ∈ s.toList ∧ x.bssid ≠ a.bssid) :=
  mem_placeAscending_iff s.ascending

/-- Inserting changes what one BSSID looks up. -/
theorem get?_insert (s : Store) (a : AccessPoint) (bssid : String) :
    (s.insert a).get? bssid = if bssid = a.bssid then some a else s.get? bssid := by
  by_cases h : bssid = a.bssid
  · rw [if_pos h]
    exact get?_eq_some_iff.2 ⟨mem_insert_iff.2 (.inl rfl), h.symm⟩
  · rw [if_neg h]
    ext x
    rw [get?_eq_some_iff, get?_eq_some_iff, mem_insert_iff]
    constructor
    · rintro ⟨rfl | ⟨hx, -⟩, hxb⟩
      · exact absurd hxb.symm h
      · exact ⟨hx, hxb⟩
    · rintro ⟨hx, hxb⟩
      exact ⟨.inr ⟨hx, fun hxa => h (hxb.symm.trans hxa)⟩, hxb⟩

@[simp] theorem mem_filter_iff {p : AccessPoint → Bool} :
    x ∈ (s.filter p).toList ↔ x ∈ s.toList ∧ p x = true :=
  List.mem_filter

/-- Erasing drops the member with the BSSID and no other. -/
theorem mem_erase_iff {bssid : String} :
    x ∈ (s.erase bssid).toList ↔ x ∈ s.toList ∧ x.bssid ≠ bssid := by
  rw [erase, mem_filter_iff, bne_iff_ne]

/-- Erasing the BSSID of a member makes a store smaller by one. -/
theorem size_erase (ha : a ∈ s.toList) : (s.erase a.bssid).size + 1 = s.size := by
  have hone : (s.toList.map (·.bssid)).count a.bssid = 1 :=
    List.count_eq_one_of_mem s.nodup_bssids (List.mem_map_of_mem ha)
  have hone' : (s.toList.filter (·.bssid == a.bssid)).length = 1 := by
    rw [← hone, List.count, List.countP_map, List.countP_eq_length_filter]
    rfl
  have hsplit := List.length_eq_length_filter_add (l := s.toList) (·.bssid == a.bssid)
  have herase : (s.erase a.bssid).toList = s.toList.filter fun x => !(x.bssid == a.bssid) := rfl
  rw [size, size, herase, hsplit, hone']
  omega

end Store

end Roaming
