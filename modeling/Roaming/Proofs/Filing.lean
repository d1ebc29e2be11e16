import Roaming.Proofs.Answers
import Roaming.Proofs.Representation
import Roaming.Proofs.Room

/-!
# Access points filed in a hash table

A store is kept in order and looks a BSSID up among its members. A hash table does neither. It files
an access point under a key, whatever BSSID that has itself, and it lists what it holds in an order
of which nothing is known (`Listing`). So it takes an invariant for the two to be one: a table files
a store if it gives for every key what the store looks up (`HashStore.Files`). In particular every
access point is filed under its own BSSID.

Each step of a refresh keeps this. A row overwrites what is filed under its BSSID, and that is the
access point it is about. Making room erases the BSSID of the first to go, and that is where the one
to go is filed; if it were not, nothing would be erased and there would never be room. Which one
goes first does not depend on the order of the listing (`AccessPoint.firstToGo?_eq_of_perm`), nor
does what is sorted in the end (`HashStore.Files.sorted_eq`), so no answer shows that order.

`Registry.representation_after_scans` is the main statement: what a registry stands for, in either
form, after any scans.
-/

namespace Roaming

/-- Access points filed under keys. -/
abbrev HashStore := Std.HashMap String AccessPoint

/-- A way to list what is filed in a table, in whatever order. -/
structure Listing where
  /-- The access points filed in a table. -/
  list : HashStore → List AccessPoint
  /-- Each is listed once, and no other. -/
  perm : ∀ t, (list t).Perm (t.toList.map Prod.snd)

/-- A table itself lists them in some order. -/
instance : Inhabited Listing :=
  ⟨⟨fun t => t.toList.map Prod.snd, fun _ => .refl _⟩⟩

namespace AccessPoint

/-- Which access point goes first does not depend on the order in which they are listed. -/
theorem firstToGo?_eq_of_perm {as bs : List AccessPoint} (h : as.Perm bs)
    (hnodup : (bs.map (·.bssid)).Nodup) : firstToGo? as = firstToGo? bs := by
  obtain ⟨ranked, hbs⟩ := exists_ranks hnodup
  have has : Ranks ranked as := ⟨hbs.perm.trans h.symm, hbs.ordered⟩
  cases ranked with
  | nil => rw [← has.perm.nil_eq, ← hbs.perm.nil_eq]
  | cons a ranked => rw [has.firstToGo?_eq, hbs.firstToGo?_eq]

end AccessPoint

namespace HashStore

open AccessPoint

/-- Merges one sighting: what is filed under the BSSID of its row is overwritten. -/
def sight (scan : Nat) (t : HashStore) (g : Sighting) : HashStore :=
  t.insert g.row.bssid ((t[g.row.bssid]?.getD (.ofObservation g.row)).sightedIn scan g)

/-- Merges sightings, in their order. -/
def sightAll (scan : Nat) (t : HashStore) (gs : List Sighting) : HashStore :=
  gs.foldl (sight scan) t

section Listings

variable (order : Listing)

/-- Makes room by erasing the BSSIDs of up to `count` access points that are not live. -/
def dropFirst (scan : Nat) : Nat → HashStore → HashStore
  | 0, t => t
  | count + 1, t =>
    match firstToGo? ((order.list t).filter fun a => !a.isLive scan) with
    | none => t
    | some a => dropFirst scan count (t.erase a.bssid)

/-- What is kept of a table after a scan. -/
def evict (limits : Limits) (scan : Nat) (t : HashStore) : HashStore :=
  let fresh : HashStore := t.filter fun _ a => !a.isStale limits scan
  dropFirst order scan (fresh.size - limits.maxEntries.toNat) fresh

/-- A table after the scans of a history, when `scans` others have been taken before. -/
def absorbAll (limits : Limits) : Nat → HashStore → List (List Sighting) → HashStore
  | _, t, [] => t
  | scans, t, gs :: history =>
    absorbAll limits (scans + 1) (evict order limits (scans + 1) (sightAll (scans + 1) t gs))
      history

/-- What is filed in a table and has a property, by ascending BSSID. -/
def sorted (t : HashStore) (p : AccessPoint → Bool) : List AccessPoint :=
  ((order.list t).filter p).mergeSort fun a b => decide (a.bssid ≤ b.bssid)

end Listings

/-- A table files a store: it gives for every key what the store looks up. -/
def Files (t : HashStore) (s : Store) : Prop :=
  ∀ key, t[key]? = s.get? key

variable {t : HashStore} {s : Store}

theorem files_empty : Files ∅ .empty := by
  intro key
  exact Std.HashMap.getElem?_empty

/-- Each access point is filed under its own BSSID. -/
theorem Files.eq_some_iff (h : Files t s) {key : String} {a : AccessPoint} :
    t[key]? = some a ↔ a ∈ s.toList ∧ a.bssid = key := by
  rw [h key, Store.get?_eq_some_iff]

/-- A table that files a store holds its members. -/
theorem Files.toList_perm (h : Files t s) :
    t.toList.Perm (s.toList.map fun a => (a.bssid, a)) := by
  have hkeys : t.toList.Nodup := by
    refine Std.HashMap.distinct_keys_toList.imp ?_
    rintro a b hab rfl
    simp at hab
  have hmembers : (s.toList.map fun a => (a.bssid, a)).Nodup := by
    refine List.Nodup.of_map Prod.fst ?_
    rw [List.map_map]
    exact s.nodup_bssids
  refine (List.perm_ext_iff_of_nodup hkeys hmembers).2 fun entry => ?_
  rw [Std.HashMap.mem_toList_iff_getElem?_eq_some, h.eq_some_iff, List.mem_map]
  constructor
  · rintro ⟨hmem, hbssid⟩
    exact ⟨entry.2, hmem, Prod.ext hbssid rfl⟩
  · rintro ⟨a, hmem, rfl⟩
    exact ⟨hmem, rfl⟩

theorem Files.list_perm (h : Files t s) (order : Listing) : (order.list t).Perm s.toList := by
  refine (order.perm t).trans ((h.toList_perm.map Prod.snd).trans ?_)
  rw [List.map_map]
  exact .of_eq (List.map_id _)

theorem Files.size_eq (h : Files t s) : t.size = s.size := by
  rw [← Std.HashMap.length_toList, h.toList_perm.length_eq, List.length_map, Store.size]

/-! ## Steps of a refresh -/

/-- A row overwrites the access point that it is about. -/
theorem Files.sight (h : Files t s) (scan : Nat) (g : Sighting) :
    Files (sight scan t g) (s.sight scan g) := by
  intro key
  rw [HashStore.sight, Std.HashMap.getElem?_insert, Store.get?_sight, h, h]
  by_cases hkey : g.row.bssid = key
  · rw [if_pos (beq_iff_eq.2 hkey), if_pos hkey.symm, ← hkey]
    rfl
  · rw [if_neg (fun heq => hkey (beq_iff_eq.1 heq)), if_neg (Ne.symm hkey)]

theorem Files.sightAll (h : Files t s) (scan : Nat) (gs : List Sighting) :
    Files (sightAll scan t gs) (s.sightAll scan gs) := by
  rw [HashStore.sightAll, Store.sightAll]
  induction gs generalizing t s with
  | nil => exact h
  | cons g gs ih => exact ih (h.sight scan g)

theorem Files.filter (h : Files t s) (p : AccessPoint → Bool) :
    Files (t.filter fun _ a => p a) (s.filter p) := by
  intro key
  ext a
  rw [Std.HashMap.getElem?_filter', Option.filter_eq_some_iff, h.eq_some_iff,
    Store.get?_eq_some_iff, Store.mem_filter_iff, and_right_comm]

/-- Erasing a BSSID erases the access point that has it. -/
theorem Files.erase (h : Files t s) (bssid : String) : Files (t.erase bssid) (s.erase bssid) := by
  intro key
  ext a
  rw [Std.HashMap.getElem?_erase, Store.get?_eq_some_iff, Store.mem_erase_iff]
  by_cases hkey : bssid = key
  · rw [if_pos (beq_iff_eq.2 hkey)]
    refine iff_of_false nofun ?_
    rintro ⟨⟨-, hne⟩, hbssid⟩
    exact hne (hbssid.trans hkey.symm)
  · rw [if_neg (fun heq => hkey (beq_iff_eq.1 heq)), h.eq_some_iff]
    -- under another key an access point has another BSSID
    refine and_congr_left fun hbssid => (and_iff_left ?_).symm
    exact fun heq => hkey (heq.symm.trans hbssid)

theorem Files.dropFirst (h : Files t s) (order : Listing) (scan count : Nat) :
    Files (dropFirst order scan count t) (s.dropFirst scan count) := by
  induction count generalizing t s with
  | zero => exact h
  | succ count ih =>
      have hfirst : firstToGo? ((order.list t).filter fun a => !a.isLive scan)
          = firstToGo? (s.toList.filter fun a => !a.isLive scan) :=
        firstToGo?_eq_of_perm ((h.list_perm order).filter _) (s.nodup_idle scan)
      rw [HashStore.dropFirst, Store.dropFirst, hfirst]
      cases firstToGo? (s.toList.filter fun a => !a.isLive scan) with
      | none => exact h
      | some a => exact ih (h.erase a.bssid)

theorem Files.evict (h : Files t s) (order : Listing) (limits : Limits) (scan : Nat) :
    Files (evict order limits scan t) (s.evict limits scan) := by
  have hfresh := h.filter fun a => !a.isStale limits scan
  rw [HashStore.evict, Store.evict, Store.trim, Store.dropStale, ← hfresh.size_eq]
  exact hfresh.dropFirst order scan _

/-- **A table is as good as a store**: what a registry stores after any scans is filed in the table
that has taken the same scans. -/
theorem Files.absorbAll {r : Registry} (h : Files t r.store) (order : Listing)
    (history : List (List Sighting)) :
    Files (absorbAll order r.limits r.scans t history) (r.absorbAll history).store := by
  induction history generalizing t r with
  | nil => exact h
  | cons gs history ih =>
      -- what is kept of the merged table files what the registry keeps
      have hmerged := h.sightAll (r.scans + 1) gs
      exact ih (r := (r.absorb gs).registry) (hmerged.evict order r.limits (r.scans + 1))

/-! ## Answers from a table -/

/-- The order in which a table lists its access points is gone once they are sorted. -/
theorem Files.sorted_eq (h : Files t s) (order : Listing) (p : AccessPoint → Bool) :
    sorted order t p = s.toList.filter p := by
  have hascending : (s.toList.filter p).Pairwise fun a b => a.bssid < b.bssid :=
    List.Pairwise.filter p s.ascending
  have hsorted : (sorted order t p).Pairwise fun a b => decide (a.bssid ≤ b.bssid) = true := by
    refine List.pairwise_mergeSort ?_ ?_ _
    · intro a b c hab hbc
      exact decide_eq_true (String.le_trans (of_decide_eq_true hab) (of_decide_eq_true hbc))
    · intro a b
      rw [Bool.or_eq_true, decide_eq_true_eq, decide_eq_true_eq]
      exact String.le_total a.bssid b.bssid
  have hperm : (sorted order t p).Perm (s.toList.filter p) :=
    (List.mergeSort_perm _ _).trans ((h.list_perm order).filter p)
  refine hperm.eq_of_pairwise ?_ hsorted (hascending.imp fun hab => ?_)
  · -- no two members have one BSSID
    intro a b ha hb hab hba
    have hbssid := String.le_antisymm (of_decide_eq_true hab) (of_decide_eq_true hba)
    exact Store.eq_of_bssid_eq (List.mem_filter.1 (hperm.mem_iff.1 ha)).1 (List.mem_filter.1 hb).1
      hbssid
  · exact decide_eq_true (String.not_lt.1 (String.lt_asymm hab))

/-- The active link is the first one in use that counts. -/
theorem Files.active_eq_ok_iff {r : Registry} (h : Files t r.store) (order : Listing)
    {link : AccessPoint} :
    r.active = .ok link ↔
      (sorted order t fun a => r.isCurrent a && a.inUse).head? = some link := by
  rw [Registry.active_eq_ok_iff, h.sorted_eq, ← List.head?_filter, Registry.current,
    List.filter_filter]
  simp only [Bool.and_comm]

/-- The candidates are the idle ones that count. -/
theorem Files.candidates_eq {r : Registry} (h : Files t r.store) (order : Listing) :
    r.candidates = sorted order t fun a => r.isCurrent a && !a.inUse := by
  rw [h.sorted_eq, Registry.candidates, Registry.current, List.filter_filter]
  simp only [Bool.and_comm]

end HashStore

namespace Registry

/-- **What a registry holds is in order after any scans**, with any limits and any measurements.
Each access point is filed under its own BSSID, also in a table that files by the BSSIDs of the
rows, and such a table gives the same answers. Each is as the last scan that lists it has it, is
dated with the number of that scan, and is of an age below the limit; and no date is ahead of the
counter when the next scan takes the age of what it has merged. Before the network to roam within is
known, no access point has the mark or a latency, and no link in use is ever without a latency. The
candidates strictly ascend by BSSID, and the active link is none of them. -/
theorem representation_after_scans {σ : Type} (measure : Action σ Float) (limits : Limits)
    (scans : List (List Observation)) (s : σ) :
    let r := ((empty limits).refreshAll measure scans s).value
    let sightings := (takeScans measure scans s).value
    r.scans = scans.length
      ∧ (∀ bssid a, r.get? bssid = some a ↔ a ∈ r.store.toList ∧ a.bssid = bssid)
      ∧ (∀ order : Listing,
        let t := HashStore.absorbAll order limits 0 ∅ sightings
        (∀ key, t[key]? = r.get? key)
          ∧ (∀ (key : String) (a : AccessPoint), t[key]? = some a → a.bssid = key)
          ∧ (∀ link, r.active = .ok link ↔
            (HashStore.sorted order t fun a => r.isCurrent a && a.inUse).head? = some link)
          ∧ r.candidates = HashStore.sorted order t fun a => r.isCurrent a && !a.inUse)
      ∧ (∀ a ∈ r.store.toList, a.LastListed scans ∧ 1 ≤ a.lastSeen ∧ a.lastSeen ≤ r.scans
        ∧ r.scans - a.lastSeen < limits.staleAfterScans.toNat)
      ∧ (∀ rows s', ∀ a ∈ (mergeRows measure (r.scans + 1) r.store rows s').value.toList,
        1 ≤ a.lastSeen ∧ a.lastSeen ≤ r.scans + 1)
      ∧ (r.target = none → ∀ a ∈ r.store.toList, a.inUse = false ∧ a.latency = none)
      ∧ (∀ a ∈ r.store.toList, a.inUse = true → a.latency.isSome = true)
      ∧ (r.candidates.map (·.bssid)).Pairwise (· < ·)
      ∧ ∀ link, r.active = .ok link → ∀ c ∈ r.candidates, c.bssid ≠ link.bssid := by
  intro r sightings
  have hr : r = (empty limits).absorbAll sightings := by
    show ((empty limits).refreshAll measure scans s).value = _
    rw [refreshAll_eq_absorbAll]
  have hrows : rowsOf sightings = scans := rowsOf_takeScans measure scans s
  have hrepresents : r.Represents scans := by
    rw [hr, ← hrows]
    exact represents_absorbAll limits sightings
  have hlimits : r.limits = limits := by
    rw [hr]
    exact limits_absorbAll
  refine ⟨hrepresents.counted, fun _ _ => Store.get?_eq_some_iff, ?_, ?_, ?_, hrepresents.silent,
    hrepresents.measured, ?_, ?_⟩
  · intro order t
    have hfiles : HashStore.Files t r.store := by
      rw [hr]
      exact HashStore.files_empty.absorbAll (r := empty limits) order sightings
    refine ⟨hfiles, fun key a hget => (hfiles.eq_some_iff.1 hget).2, fun link => ?_, ?_⟩
    · exact hfiles.active_eq_ok_iff order
    · exact hfiles.candidates_eq order
  · intro a ha
    have hlisted := hrepresents.listed a ha
    have hfresh := hrepresents.fresh a ha
    rw [hlimits] at hfresh
    refine ⟨hlisted, hlisted.dated.1, ?_, hfresh⟩
    rw [hrepresents.counted]
    exact hlisted.dated.2
  · intro rows s' a ha
    rw [mergeRows_eq_sightAll, hrepresents.counted] at ha
    have hdated := (Store.lastListed_sightAll hrepresents.listed a ha).dated
    rw [List.length_append, ← hrepresents.counted] at hdated
    exact hdated
  · exact List.pairwise_map.2 (List.Pairwise.sublist List.filter_sublist (pairwise_current r))
  · intro link hactive c hc
    exact bssid_ne_of_active hactive hc

end Registry

end Roaming
