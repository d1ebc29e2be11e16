import Roaming.Proofs.PinSafety

/-!
# The network that an access point was made known under

A registry asks for the network of an access point once, when it makes the access point known, and
roams within the network to which all its choices belonged *then*. If an access point changes its
name while it is stored, the change goes unnoticed: `renamed_access_point_is_chosen` is a scan that
lists "BB" under another network alone, and "BB" is chosen and pinned.

What holds is `choices_were_named_for_target`. Every candidate and every pin is listed in the latest
scan and stored under the target network, which is that of the row that made it known (`NamedBy`).
So it is listed under the target network exactly if it is still listed under the network of that
row.
-/

namespace Roaming

open Event

namespace Registry

variable {limits : Limits} {r : Registry} {gs : List Sighting} {history : List (List Sighting)}
  {bssid : String} {a : AccessPoint} {scans : List (List Observation)} {row : Observation}

/-- A registry that absorbed some scans owes the network of an access point to a row: the first one
for it in a scan before which it was not stored, and after which it has been stored ever since. -/
def NamedBy (limits : Limits) (scans : List (List Observation)) (r : Registry) (bssid : String)
    (row : Observation) : Prop :=
  ∃ before first later, rowsOf (before ++ first :: later) = scans
    ∧ r = (empty limits).absorbAll (before ++ first :: later)
    ∧ ((empty limits).absorbAll before).get? bssid = none
    ∧ (∀ middle, middle <+: later →
      (((empty limits).absorbAll (before ++ first :: middle)).get? bssid).isSome = true)
    ∧ Observation.firstRow? (first.map (·.row)) bssid = some row

/-- Every access point that is stored was made known by a row, which has its network. -/
theorem exists_namedBy (h : ((empty limits).absorbAll history).get? bssid = some a) :
    ∃ row, NamedBy limits (rowsOf history) ((empty limits).absorbAll history) bssid row
      ∧ a.ssid = row.ssid := by
  have hinsertion := exists_insertion (P := fun since a => ∃ row,
    (since.head?.bind fun gs => Observation.firstRow? (gs.map (·.row)) bssid) = some row
      ∧ a.ssid = row.ssid) ?_ ?_ h
  · obtain ⟨before, first, later, rfl, hnone, hsome, row, hrow, hssid⟩ := hinsertion
    exact ⟨row, ⟨before, first, later, rfl, rfl, hnone, hsome, hrow⟩, hssid⟩
  · -- the scan that inserts it names it
    intro r gs a hnew hstored
    rcases ssid_absorb_cases hstored with ⟨b, hold, -⟩ | ⟨-, first, hfirst, hssid⟩
    · exact nomatch hnew.symm.trans hold
    · exact ⟨first, hfirst, hssid⟩
  · -- later ones leave the name alone
    rintro r since gs b a hold ⟨row, hrow, hb⟩ hstored
    rcases ssid_absorb_cases hstored with ⟨b', hold', hssid⟩ | ⟨hnew, -⟩
    · obtain rfl := Option.some.inj (hold.symm.trans hold')
      cases since with
      | nil => exact nomatch hrow
      | cons first since => exact ⟨row, hrow, hssid.trans hb⟩
    · exact nomatch hnew.symm.trans hold

/-- An access point is listed in the latest scan and stored under the target network, which is that
of the row that made it known. It is listed under the target network exactly if it is listed under
the network of this row. -/
def NamedForTarget (limits : Limits) (earlier : List (List Observation))
    (latest : List Observation) (r : Registry) (bssid : String) : Prop :=
  (∃ listed, Observation.lastRow? latest bssid = some listed)
    ∧ ∃ stored named, r.get? bssid = some stored ∧ r.target = some stored.ssid
      ∧ NamedBy limits (earlier ++ [latest]) r bssid named ∧ stored.ssid = named.ssid
      ∧ ((∃ row ∈ latest, row.bssid = bssid ∧ r.target = some row.ssid) ↔
        ∃ row ∈ latest, row.bssid = bssid ∧ row.ssid = named.ssid)

/-- The current access points were made known under the target network. -/
theorem namedForTarget_of_current
    (h : a ∈ ((empty limits).absorbAll (history ++ [gs])).current) :
    NamedForTarget limits (rowsOf history) (gs.map (·.row))
      ((empty limits).absorbAll (history ++ [gs])) a.bssid := by
  obtain ⟨hmem, -, htarget⟩ := mem_current_iff.1 h
  obtain ⟨named, hnamed, hssid⟩ := exists_namedBy (Store.get?_bssid hmem)
  rw [rowsOf_append] at hnamed
  rw [absorbAll_append] at h
  obtain ⟨listed, hlisted, -⟩ := (dated_empty limits).absorbAll.mirrors_of_current h
  refine ⟨⟨listed, hlisted⟩, a, named, Store.get?_bssid hmem, htarget, hnamed, hssid, ?_⟩
  rw [htarget, hssid]
  simp only [Option.some.injEq, eq_comm]

end Registry

namespace Monitor

variable {σ : Type}

/-- A pin of a history is of an access point that was made known under the target network. -/
theorem namedForTarget_of_pinned {host : Host σ} {m : Monitor} {limits : Limits} {s : σ}
    {moves : List Move} {before after : List Event} {bssid : String} {reply : Except Failure Unit}
    (hempty : m.registry = .empty limits)
    (x : Moment host m s moves before (.pinned (some bssid) reply) after) :
    ∃ earlier latest between, scansOf before = earlier ++ [latest]
      ∧ x.inner = .scanned (.ok latest) :: between
      ∧ Registry.NamedForTarget limits earlier latest x.ticked.value.2.registry bssid := by
  have hiteration : Iteration host x.now.value x.now.state x.ticked := iteration_iff.2 rfl
  obtain ⟨rows, sweep, link, choice, hswept, hactive, hchoice, hregistry, hbssid, hinner, -⟩ :=
    hiteration.of_pinned (Moment.events_ticked x.move_eq_tick)
  -- the registry has absorbed the scans of the moves before, and then that of the iteration
  obtain ⟨gs, rfl, hvalue⟩ := hswept.exists_absorb
  obtain ⟨history, hrows, hnow⟩ := exists_absorbAll_makeAll host m s x.past
  have hticked : x.ticked.value.2.registry
      = (Registry.empty limits).absorbAll (history ++ [gs]) := by
    rw [hregistry, withSweep, hvalue, Registry.absorbAll_append, ← hempty, ← hnow]
    rfl
  refine ⟨Registry.rowsOf history, _, _, ?_, hinner, ?_⟩
  · rw [x.before_eq, scansOf_append, hrows, hinner, hswept.scansOf_choosing]
  · obtain rfl := Option.some.inj hbssid
    obtain ⟨hmem, -⟩ := Choice.best_mem hchoice
    obtain ⟨hcurrent, -⟩ := Registry.mem_candidates_iff.1 hmem
    rw [← hregistry, hticked] at hcurrent
    rw [hticked]
    exact Registry.namedForTarget_of_current hcurrent

/-- **Every choice was made known under the target network**: every candidate after a refresh and
every BSSID that is pinned is listed in the scan just taken, and the row that made it known, since
which it has been stored, has the target network. -/
theorem choices_were_named_for_target (settings : Settings) :
    (∀ {σ : Type} (measure : Action σ Float) (limits : Limits)
      (earlier : List (List Observation)) (latest : List Observation) (s : σ),
      let r := ((Registry.empty limits).refreshAll measure (earlier ++ [latest]) s).value
      ∀ a ∈ r.candidates, Registry.NamedForTarget limits earlier latest r a.bssid)
      ∧ ∀ {σ : Type} (host : Host σ) (dryRun : Bool) (ops : List Operation) (s : σ),
        let m := new settings dryRun
        ∀ before bssid reply after,
          (m.performAll host ops s).events = before ++ .pinned (some bssid) reply :: after →
          ∃ x : Moment host m s (m.moves host s ops) before (.pinned (some bssid) reply) after,
            x.move = .tick ∧ ∃ earlier latest between, scansOf before = earlier ++ [latest]
              ∧ x.inner = .scanned (.ok latest) :: between
              ∧ Registry.NamedForTarget settings.limits earlier latest
                  x.ticked.value.2.registry bssid := by
  refine ⟨?_, ?_⟩
  · intro σ measure limits earlier latest s r a ha
    obtain ⟨history, gs, rfl, rfl, hvalue⟩ :=
      Registry.exists_refreshAll_eq_absorb measure limits earlier latest s
    obtain ⟨hcurrent, -⟩ := Registry.mem_candidates_iff.1 ha
    rw [show r = _ from hvalue] at hcurrent ⊢
    exact Registry.namedForTarget_of_current hcurrent
  · intro σ host dryRun ops s m before bssid reply after hpinned
    rw [performAll_eq_makeAll] at hpinned
    obtain ⟨x⟩ := exists_moment hpinned
    exact ⟨x, x.move_eq_tick, namedForTarget_of_pinned rfl x⟩

/-- Access points may be chosen under a name they no longer have: the second scan lists "BB" under
"guest" alone, and yet "BB" is a candidate within "home" and is pinned. -/
theorem renamed_access_point_is_chosen :
    let script : List (List Observation) :=
      [[⟨true, "AA", "home", 50, 100⟩, ⟨false, "BB", "home", 40, 100⟩],
        [⟨true, "AA", "home", 50, 100⟩, ⟨false, "BB", "guest", 90, 100⟩]]
    let first := (new Settings.default false).performAll .scripted [.tick] script
    let second := first.value.tick .scripted first.state
    scansOf second.events = script.tail ∧ targetsOf second.events = ["BB"]
      ∧ second.value.2.registry.candidates.map (·.bssid) = ["BB"]
      ∧ second.value.2.registry.target = some "home"
      ∧ ∀ rows ∈ script.tail, ∀ row ∈ rows, row.bssid = "BB" → row.ssid ≠ "home" := by
  decide +kernel

end Monitor

end Roaming
