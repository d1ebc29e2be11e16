import Roaming.Proofs.LatestScan

/-!
# The answers of a registry

`AnswersFrom` says what a registry has to answer in terms of a target and the last rows of one scan:
the active link is the counting row in use with the least BSSID, the candidates are the idle
counting rows by ascending BSSID, and every answer has the figures of its row. It leaves no choice
but for the latency (`AnswersFrom.alike`).

`answers_from_latest_scan` is the main statement: as long as access points keep their names and each
scan fits the limits, a registry answers from its latest scan, whatever came before and whatever the
limits are.
-/

namespace Roaming

/-- A row counts if it is the last one of its access point and of the network to roam within. -/
def Observation.Counts (target : Option String) (rows : List Observation) (row : Observation) :
    Prop :=
  lastRow? rows row.bssid = some row ∧ target = some row.ssid

/-- No two rows give one access point two networks. -/
def Observation.OneName (rows : List Observation) : Prop :=
  ∀ row ∈ rows, ∀ other ∈ rows, row.bssid = other.bssid → row.ssid = other.ssid

/-- Limits under which absence is forgiven and a scan does not crowd itself out. -/
structure Limits.Fit (limits : Limits) (scans : List (List Observation)) : Prop where
  maxEntries_pos : 1 ≤ limits.maxEntries
  staleAfterScans_pos : 1 ≤ limits.staleAfterScans
  room : ∀ rows ∈ scans, Observation.distinct rows ≤ limits.maxEntries.toNat

namespace Registry

variable {r r' : Registry} {gs : List Sighting} {history : List (List Sighting)}
  {target : Option String} {latest : List Observation} {a : AccessPoint}

/-- What a registry answers, in terms of a network and the rows of a scan. -/
structure AnswersFrom (r : Registry) (target : Option String) (latest : List Observation) :
    Prop where
  target_eq : r.target = target
  active_ok : ∀ a, r.active = .ok a →
    Observation.Counts target latest a.toObservation ∧ a.inUse = true
      ∧ ∀ row, Observation.Counts target latest row → row.inUse = true → a.bssid ≤ row.bssid
  active_error : ∀ failure, r.active = .error failure →
    failure = .notConnected target
      ∧ ∀ row, Observation.Counts target latest row → row.inUse = false
  ascending : (r.candidates.map (·.toObservation)).Pairwise fun o o' => o.bssid < o'.bssid
  mem_candidates : ∀ row, row ∈ r.candidates.map (·.toObservation) ↔
    Observation.Counts target latest row ∧ row.inUse = false

/-! ## Names -/

/-- Every access point known has the name that it is given. -/
def Named (name : String → String) (r : Registry) : Prop :=
  ∀ a ∈ r.store.toList, a.ssid = name a.bssid

theorem Named.absorb {name : String → String} (h : r.Named name)
    (hrows : ∀ row ∈ gs.map (·.row), row.ssid = name row.bssid) :
    (r.absorb gs).registry.Named name := by
  intro a ha
  rcases ssid_absorb_cases (Store.get?_bssid ha) with ⟨b, hold, hssid⟩ | ⟨-, first, hfirst, hssid⟩
  · obtain ⟨hmem, hbssid⟩ := Store.get?_eq_some_iff.1 hold
    rw [hssid, h b hmem, hbssid]
  · obtain ⟨hmem, hbssid⟩ := Observation.firstRow?_mem hfirst
    rw [hssid, hrows first hmem, hbssid]

theorem Named.absorbAll {name : String → String} (h : r.Named name)
    (hrows : ∀ rows ∈ rowsOf history, ∀ row ∈ rows, row.ssid = name row.bssid) :
    (r.absorbAll history).Named name := by
  induction history generalizing r with
  | nil => exact h
  | cons gs history ih =>
      refine ih (h.absorb (hrows _ List.mem_cons_self)) ?_
      intro rows hmem
      exact hrows rows (List.mem_cons_of_mem _ hmem)

/-- Rows that give each access point one name give a naming. -/
theorem exists_name {rows : List Observation} (h : Observation.OneName rows) :
    ∃ name : String → String, ∀ row ∈ rows, row.ssid = name row.bssid := by
  refine ⟨fun bssid => ((Observation.firstRow? rows bssid).map (·.ssid)).getD "", ?_⟩
  intro row hrow
  obtain ⟨first, hfirst⟩ := Observation.exists_firstRow? hrow
  obtain ⟨hmem, hbssid⟩ := Observation.firstRow?_mem hfirst
  show row.ssid = ((Observation.firstRow? rows row.bssid).map (·.ssid)).getD ""
  rw [hfirst]
  exact h row hrow first hmem hbssid.symm

/-! ## The current access points are the counting rows -/

theorem mem_current_map_iff {name : String → String} (hdated : r.Dated) (hnamed : r.Named name)
    (hrows : ∀ row ∈ gs.map (·.row), row.ssid = name row.bssid)
    (hstale : 1 ≤ r.limits.staleAfterScans)
    (hroom : Observation.distinct (gs.map (·.row)) ≤ r.limits.maxEntries.toNat)
    (row : Observation) :
    row ∈ (r.absorb gs).registry.current.map (·.toObservation) ↔
      Observation.Counts (r.absorb gs).registry.target (gs.map (·.row)) row := by
  have hname := hnamed.absorb hrows
  constructor
  · intro h
    obtain ⟨a, ha, rfl⟩ := List.mem_map.1 h
    obtain ⟨hmem, -, htarget⟩ := mem_current_iff.1 ha
    obtain ⟨row, hlast, hmirrors⟩ := hdated.mirrors_of_current ha
    have hssid : a.ssid = row.ssid := by
      rw [hname a hmem, hrows row (Observation.lastRow?_mem hlast).1, hmirrors.bssid]
    rw [← hmirrors.toObservation_eq hssid] at hlast
    exact ⟨hlast, htarget⟩
  · rintro ⟨hlast, htarget⟩
    have hpos : 0 < r.limits.staleAfterScans.toNat := UInt64.le_iff_toNat_le.1 hstale
    obtain ⟨a, hmem, hmirrors, hseen⟩ := hdated.stored_of_lastRow? hpos hroom hlast
    have hssid : a.ssid = row.ssid := by
      rw [hname a hmem, hrows row (Observation.lastRow?_mem hlast).1, hmirrors.bssid]
    refine List.mem_map.2 ⟨a, mem_current_iff.2 ⟨hmem, hseen, ?_⟩, hmirrors.toObservation_eq hssid⟩
    rw [hssid]
    exact htarget

theorem pairwise_current (r : Registry) :
    r.current.Pairwise fun a b => a.bssid < b.bssid :=
  List.Pairwise.sublist List.filter_sublist r.store.ascending

/-- The active link is the first current access point in use. -/
theorem active_map_toObservation (r : Registry) :
    r.active.map (·.toObservation) =
      match (r.current.map (·.toObservation)).find? (·.inUse) with
      | some o => .ok o
      | none => .error (.notConnected r.target) := by
  have hfind : (r.current.map (·.toObservation)).find? (·.inUse)
      = (r.current.find? (·.inUse)).map (·.toObservation) := List.find?_map
  rw [hfind, active]
  cases r.current.find? (·.inUse) <;> rfl

/-- The candidates are the idle current access points. -/
theorem candidates_map_toObservation (r : Registry) :
    r.candidates.map (·.toObservation)
      = (r.current.map (·.toObservation)).filter (!·.inUse) := by
  rw [candidates, List.filter_map]
  rfl

/-- A registry whose current access points are the counting rows of a scan answers from it. -/
theorem answersFrom_of_current
    (h : ∀ row, row ∈ r.current.map (·.toObservation) ↔ Observation.Counts r.target latest row) :
    r.AnswersFrom r.target latest where
  target_eq := rfl
  active_ok a ha := by
    have hfind := active_eq_ok_iff.1 ha
    obtain ⟨hcurrent, hused⟩ := current_of_active ha
    refine ⟨(h _).1 (List.mem_map_of_mem hcurrent), hused, ?_⟩
    intro row hrow hinUse
    obtain ⟨b, hb, rfl⟩ := List.mem_map.1 ((h row).2 hrow)
    obtain ⟨-, before, after, hsplit, hbefore⟩ := List.find?_eq_some_iff_append.1 hfind
    have hpairs := r.pairwise_current
    rw [hsplit] at hb hpairs
    -- what stands before the active link is idle, what stands after it has a greater BSSID
    rcases List.mem_append.1 hb with hb | hb
    · have hidle := hbefore b hb
      rw [show b.inUse = true from hinUse] at hidle
      exact nomatch hidle
    · rcases List.mem_cons.1 hb with rfl | hb
      · exact String.le_refl _
      · have hlt := (List.pairwise_cons.1 (List.pairwise_append.1 hpairs).2.1).1 b hb
        exact String.not_lt.1 fun hgt => String.lt_irrefl _ (String.lt_trans hlt hgt)
  active_error failure hfailure := by
    obtain ⟨hnone, hfailure⟩ := active_eq_error_iff.1 hfailure
    refine ⟨hfailure, ?_⟩
    intro row hrow
    obtain ⟨b, hb, rfl⟩ := List.mem_map.1 ((h row).2 hrow)
    exact Bool.eq_false_iff.2 (List.find?_eq_none.1 hnone b hb)
  ascending := List.pairwise_map.2 (r.pairwise_current.sublist List.filter_sublist)
  mem_candidates row := by
    rw [← h row]
    constructor
    · intro hrow
      obtain ⟨a, ha, rfl⟩ := List.mem_map.1 hrow
      obtain ⟨hcurrent, hidle⟩ := mem_candidates_iff.1 ha
      exact ⟨List.mem_map_of_mem hcurrent, hidle⟩
    · rintro ⟨hrow, hidle⟩
      obtain ⟨a, ha, rfl⟩ := List.mem_map.1 hrow
      exact List.mem_map_of_mem (mem_candidates_iff.2 ⟨ha, hidle⟩)

/-! ## Answers from one scan are alike -/

/-- **One answer**: a target and a scan leave nothing open but latencies. -/
theorem AnswersFrom.alike (h : r.AnswersFrom target latest) (h' : r'.AnswersFrom target latest) :
    r.active.map (·.toObservation) = r'.active.map (·.toObservation)
      ∧ r.candidates.map (·.toObservation) = r'.candidates.map (·.toObservation) := by
  constructor
  · cases ha : r.active with
    | error failure =>
        obtain ⟨rfl, hidle⟩ := h.active_error failure ha
        cases ha' : r'.active with
        | error failure' =>
            obtain ⟨rfl, -⟩ := h'.active_error failure' ha'
            rfl
        | ok a' =>
            obtain ⟨hcounts, hinUse, -⟩ := h'.active_ok a' ha'
            exact absurd ((hidle _ hcounts).symm.trans hinUse) Bool.false_ne_true
    | ok a =>
        obtain ⟨hcounts, hinUse, hleast⟩ := h.active_ok a ha
        cases ha' : r'.active with
        | error failure' =>
            obtain ⟨-, hidle'⟩ := h'.active_error failure' ha'
            exact absurd ((hidle' _ hcounts).symm.trans hinUse) Bool.false_ne_true
        | ok a' =>
            obtain ⟨hcounts', hinUse', hleast'⟩ := h'.active_ok a' ha'
            have hbssid : a.bssid = a'.bssid :=
              String.le_antisymm (hleast _ hcounts' hinUse') (hleast' _ hcounts hinUse)
            have hrow : some a.toObservation = some a'.toObservation := by
              rw [← hcounts.1, ← hcounts'.1]
              exact congrArg _ hbssid
            exact congrArg Except.ok (Option.some.inj hrow)
  · refine eq_of_ascending (·.bssid) h.ascending h'.ascending ?_
    intro row
    rw [h.mem_candidates, h'.mem_candidates]

/-! ## The latest scan of a history -/

/-- A history that keeps names and fits the limits leaves a registry that answers from its last
scan. -/
theorem answersFrom_absorbAll {limits : Limits} {gs : List Sighting}
    (hname : Observation.OneName (rowsOf (history ++ [gs])).flatten)
    (hfit : limits.Fit (rowsOf (history ++ [gs]))) :
    ((empty limits).absorbAll (history ++ [gs])).AnswersFrom
      (firstInUse? (rowsOf (history ++ [gs])).flatten) (gs.map (·.row)) := by
  obtain ⟨name, hrows⟩ := exists_name hname
  have hrows' : ∀ rows ∈ rowsOf (history ++ [gs]), ∀ row ∈ rows, row.ssid = name row.bssid :=
    fun rows hmem row hrow => hrows row (List.mem_flatten_of_mem hmem hrow)
  have hsplit : rowsOf (history ++ [gs]) = rowsOf history ++ [gs.map (·.row)] := List.map_append
  rw [hsplit] at hrows' hfit
  rw [← target_absorbAll_empty limits (history ++ [gs]), absorbAll_append]
  -- the state before the last scan carries both invariants
  have hnamed : ((empty limits).absorbAll history).Named name := by
    refine Named.absorbAll ?_ fun rows hmem => hrows' rows (List.mem_append_left _ hmem)
    intro a ha
    exact nomatch ha
  have hlast : gs.map (·.row) ∈ rowsOf history ++ [gs.map (·.row)] :=
    List.mem_append_right _ List.mem_cons_self
  refine answersFrom_of_current ?_
  refine mem_current_map_iff (dated_empty limits).absorbAll hnamed (hrows' _ hlast) ?_ ?_
  · rw [limits_absorbAll]
    exact hfit.staleAfterScans_pos
  · rw [limits_absorbAll]
    exact hfit.room _ hlast

theorem answersFrom_refreshAll {σ : Type} (measure : Action σ Float) (s : σ) {limits : Limits}
    {earlier : List (List Observation)} {latest : List Observation}
    (hname : Observation.OneName (earlier ++ [latest]).flatten)
    (hfit : limits.Fit (earlier ++ [latest])) :
    ((empty limits).refreshAll measure (earlier ++ [latest]) s).value.AnswersFrom
      (firstInUse? (earlier ++ [latest]).flatten) latest := by
  obtain ⟨history, gs, rfl, rfl, hvalue⟩ :=
    exists_refreshAll_eq_absorb measure limits earlier latest s
  have hrows : rowsOf (history ++ [gs]) = rowsOf history ++ [gs.map (·.row)] := rowsOf_append _ _
  rw [hvalue, ← hrows]
  rw [← hrows] at hname hfit
  exact answersFrom_absorbAll hname hfit

/-- **The registry answers from its latest scan**: whatever came before, whatever the limits are and
whatever is measured, the network to roam within is that of the first row in use that was ever
listed, the active link and the candidates are those of the last rows of the latest scan, a network
once known stays, and another registry with other limits answers alike but for latencies. -/
theorem answers_from_latest_scan {σ τ : Type} (measure : Action σ Float)
    (measure' : Action τ Float) (s : σ) (s' : τ) {limits limits' : Limits}
    {earlier : List (List Observation)} {latest : List Observation}
    (hname : Observation.OneName (earlier ++ [latest]).flatten)
    (hfit : limits.Fit (earlier ++ [latest])) (hfit' : limits'.Fit (earlier ++ [latest])) :
    let r := ((empty limits).refreshAll measure (earlier ++ [latest]) s).value
    let r' := ((empty limits').refreshAll measure' (earlier ++ [latest]) s').value
    r.AnswersFrom (firstInUse? (earlier ++ [latest]).flatten) latest
      ∧ (∀ later ssid, r.target = some ssid →
          ((empty limits).refreshAll measure (earlier ++ [latest] ++ later) s).value.target
            = some ssid)
      ∧ r.active.map (·.toObservation) = r'.active.map (·.toObservation)
      ∧ r.candidates.map (·.toObservation) = r'.candidates.map (·.toObservation) := by
  intro r r'
  have hanswers := answersFrom_refreshAll measure s hname hfit
  have hanswers' := answersFrom_refreshAll measure' s' hname hfit'
  refine ⟨hanswers, ?_, hanswers.alike hanswers'⟩
  intro later ssid hssid
  rw [hanswers.target_eq] at hssid
  obtain ⟨history, hrows, hvalue⟩ :=
    exists_refreshAll_eq_absorbAll measure (empty limits) (earlier ++ [latest] ++ later) s
  rw [hvalue, target_absorbAll_empty, hrows, List.flatten_append, firstInUse?, List.find?_append]
  rw [firstInUse?, Option.map_eq_some_iff] at hssid
  obtain ⟨row, hrow, rfl⟩ := hssid
  rw [hrow]
  rfl

/-- Room for two access points, none of which may miss a scan: the three scans still answer as with
ample room, though "AA" was dropped in between and is listed twice at the end. -/
theorem answers_from_latest_scan_in_tight_limits :
    let earlier : List (List Observation) :=
      [[⟨true, "AA", "home", 50, 100⟩],
        [⟨false, "BB", "home", 60, 100⟩, ⟨false, "CC", "cafe", 90, 300⟩]]
    let latest : List Observation :=
      [⟨false, "AA", "home", 40, 54⟩, ⟨false, "BB", "home", 65, 100⟩, ⟨true, "AA", "home", 52, 100⟩]
    let tight : Limits := { maxEntries := 2, staleAfterScans := 1 }
    Observation.OneName (earlier ++ [latest]).flatten
      ∧ tight.Fit (earlier ++ [latest]) ∧ Settings.default.limits.Fit (earlier ++ [latest])
      ∧ (((empty tight).refreshAll (pure 20.0 : Action Unit Float) (earlier ++ [latest]) ()).value
          ).AnswersFrom (some "home") latest := by
  intro earlier latest tight
  have hname : Observation.OneName (earlier ++ [latest]).flatten := by
    rw [Observation.OneName]
    decide
  have hfit : tight.Fit (earlier ++ [latest]) := ⟨by decide, by decide, by decide⟩
  have hfit' : Settings.default.limits.Fit (earlier ++ [latest]) :=
    ⟨by decide, by decide, by decide⟩
  exact ⟨hname, hfit, hfit',
    (answers_from_latest_scan (pure 20.0) (pure 7.5 : Action Unit Float) () () hname hfit hfit').1⟩

end Registry

end Roaming
