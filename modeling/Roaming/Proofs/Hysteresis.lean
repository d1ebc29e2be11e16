import Mathlib.Algebra.Order.Ring.Int
import Mathlib.Data.List.Chain
import Mathlib.Logic.Relation
import Roaming.Proofs.PinSafety

/-!
# Hysteresis

A candidate is accepted only if its quality beats that of the link by more than the penalty. So
acceptance has no cycles (`AccessPoint.Accepts.not_cyclic`), and where every access point keeps its
quality and every pin is honoured, the qualities of the BSSIDs pinned in the course of a history
climb by more than the penalty from pin to pin (`Climbing`). The monitor does not flap: no BSSID is
pinned twice, and the range of the qualities bounds the number of pins (`pins_climb`).

The invariant goes from move to move. Of all moves only iterations pin, and an iteration pins what
outdoes the active link in its own scan (`Iteration.pinsOf_cases`). As the active link is what was
pinned last, one more pin continues the climb.
-/

namespace Roaming

namespace AccessPoint

/-- A candidate is accepted in place of a link. -/
def Accepts (penalty : Int32) (link candidate : AccessPoint) : Prop :=
  (link.judge penalty candidate).isAccepted = true

variable {penalty : Int32} {link candidate : AccessPoint}

theorem Accepts.quality_lt (hpenalty : 0 ≤ penalty.toInt) (h : Accepts penalty link candidate) :
    link.quality.toInt + penalty.toInt < candidate.quality.toInt := by
  cases hverdict : link.judge penalty candidate with
  | accepted score =>
      exact (threshold_lt_iff hpenalty _).1 (judge_eq_accepted_iff.1 hverdict).2.1
  | rejected gate =>
      rw [Accepts, hverdict] at h
      exact nomatch h

/-- Along accepted candidates the quality grows. -/
theorem Accepts.quality_lt_of_transGen (hpenalty : 0 ≤ penalty.toInt)
    (h : Relation.TransGen (Accepts penalty) link candidate) :
    link.quality.toInt < candidate.quality.toInt := by
  induction h with
  | single haccepts =>
      have hlt := haccepts.quality_lt hpenalty
      omega
  | tail _ haccepts ih =>
      have hlt := haccepts.quality_lt hpenalty
      omega

/-- **Acceptance has no cycles.** -/
theorem Accepts.not_cyclic (hpenalty : 0 ≤ penalty.toInt) (entry : AccessPoint) :
    ¬ Relation.TransGen (Accepts penalty) entry entry := by
  intro hcycle
  exact lt_irrefl _ (quality_lt_of_transGen hpenalty hcycle)

end AccessPoint

namespace Event

/-- The BSSID to which the profile was pinned. -/
def pin? : Event → Option String
  | .pinned bssid (.ok ()) => bssid
  | _ => none

/-- The BSSIDs to which the profile was pinned, in their order. -/
def pinsOf (events : List Event) : List String :=
  events.filterMap pin?

theorem pinsOf_append (events later : List Event) :
    pinsOf (events ++ later) = pinsOf events ++ pinsOf later :=
  List.filterMap_append

/-- Without a pin of a BSSID nothing was pinned. -/
theorem pinsOf_eq_nil {events : List Event}
    (h : ∀ bssid reply, .pinned (some bssid) reply ∉ events) : pinsOf events = [] := by
  rw [pinsOf, List.filterMap_eq_nil_iff]
  intro event hmem
  cases event with
  | pinned bssid reply =>
      cases bssid with
      | some bssid => exact absurd hmem (h bssid reply)
      | none =>
          cases reply <;> rfl
  | asked | scanned | lookedUp | probed | restarted | slept | noted => rfl

theorem Quiet.pinsOf_eq_nil {events : List Event} (h : Quiet events) : pinsOf events = [] :=
  Event.pinsOf_eq_nil fun bssid reply => h.not_pinned (some bssid) reply

/-- The quality of one BSSID is greater than that of another by more than the penalty. -/
def Gains (quality : String → Int32) (penalty : Int32) (source target : String) : Prop :=
  (quality source).toInt + penalty.toInt < (quality target).toInt

/-- Every scan reports an access point with its own fixed quality. -/
def Steady (quality : String → Int32) (events : List Event) : Prop :=
  ∀ rows ∈ scansOf events, ∀ row ∈ rows, row.quality = quality row.bssid

/-- From pin to pin the quality gains more than the penalty, and every BSSID that was pinned has
been seen in a scan. -/
structure Climbing (quality : String → Int32) (penalty : Int32) (events : List Event) : Prop where
  gains : (pinsOf events).IsChain (Gains quality penalty)
  seen : ∀ bssid ∈ pinsOf events, ∃ rows ∈ scansOf events, ∃ row ∈ rows, row.bssid = bssid

variable {quality : String → Int32} {penalty : Int32} {events later : List Event}

theorem Steady.of_append (h : Steady quality (events ++ later)) : Steady quality events := by
  intro rows hrows
  refine h rows ?_
  rw [scansOf_append]
  exact List.mem_append_left _ hrows

theorem Climbing.nil : Climbing quality penalty [] where
  gains := .nil
  seen := by
    intro bssid hmem
    exact nomatch hmem

/-- Events without a pin keep the climb. -/
theorem Climbing.append_of_nil (h : Climbing quality penalty events) (hnone : pinsOf later = []) :
    Climbing quality penalty (events ++ later) where
  gains := by
    rw [pinsOf_append, hnone, List.append_nil]
    exact h.gains
  seen := by
    intro bssid hmem
    rw [pinsOf_append, hnone, List.append_nil] at hmem
    obtain ⟨rows, hrows, hrow⟩ := h.seen bssid hmem
    rw [scansOf_append]
    exact ⟨rows, List.mem_append_left _ hrows, hrow⟩

/-- One more pin continues the climb if it gains on the last one. -/
theorem Climbing.append_pin (h : Climbing quality penalty events) {bssid : String}
    (hone : pinsOf later = [bssid])
    (hseen : ∃ rows ∈ scansOf later, ∃ row ∈ rows, row.bssid = bssid)
    (hgains : ∀ pinned ∈ (pinsOf events).getLast?, Gains quality penalty pinned bssid) :
    Climbing quality penalty (events ++ later) where
  gains := by
    rw [pinsOf_append, hone, List.isChain_append]
    refine ⟨h.gains, .singleton bssid, ?_⟩
    intro pinned hpinned target htarget
    obtain rfl := Option.some.inj htarget
    exact hgains pinned hpinned
  seen := by
    intro target hmem
    rw [pinsOf_append, hone] at hmem
    rw [scansOf_append]
    rcases List.mem_append.1 hmem with hearlier | hlast
    · obtain ⟨rows, hrows, hrow⟩ := h.seen target hearlier
      exact ⟨rows, List.mem_append_left _ hrows, hrow⟩
    · obtain rfl := List.mem_singleton.1 hlast
      obtain ⟨rows, hrows, hrow⟩ := hseen
      exact ⟨rows, List.mem_append_right _ hrows, hrow⟩

/-! ## What a climb says of the pins -/

/-- In a climb every pin gains on all the pins before it. -/
theorem Climbing.pairwise (h : Climbing quality penalty events) (hpenalty : 0 ≤ penalty.toInt) :
    (pinsOf events).Pairwise (Gains quality penalty) := by
  have htrans : IsTrans String (Gains quality penalty) := by
    constructor
    intro a b c hab hbc
    rw [Gains] at *
    omega
  exact List.isChain_iff_pairwise.1 h.gains

/-- In a climb no BSSID is pinned twice. -/
theorem Climbing.nodup (h : Climbing quality penalty events) (hpenalty : 0 ≤ penalty.toInt) :
    (pinsOf events).Nodup := by
  refine (h.pairwise hpenalty).imp ?_
  rintro source target hgains rfl
  rw [Gains] at hgains
  omega

/-- What gains step by step stays below its bound by a penalty and one more for each step. -/
theorem length_mul_le_of_isChain {bssid : String} {pins : List String} {high : Int}
    (hchain : (bssid :: pins).IsChain (Gains quality penalty))
    (hhigh : ∀ pinned ∈ bssid :: pins, (quality pinned).toInt ≤ high) :
    (pins.length : Int) * (penalty.toInt + 1) ≤ high - (quality bssid).toInt := by
  induction pins generalizing bssid with
  | nil =>
      have hle := hhigh bssid List.mem_cons_self
      simpa using hle
  | cons next pins ih =>
      obtain ⟨hgains, hrest⟩ := List.isChain_cons_cons.1 hchain
      have hlength := ih hrest fun pinned hmem => hhigh pinned (List.mem_cons_of_mem _ hmem)
      rw [Gains] at hgains
      rw [List.length_cons, Nat.cast_succ, add_mul, one_mul]
      omega

/-- The range of the qualities bounds the number of pins. -/
theorem Climbing.length_le (h : Climbing quality penalty events) (hpenalty : 0 ≤ penalty.toInt)
    (hsteady : Steady quality events) {low high : Int} (hrange : low ≤ high)
    (hbounds : ∀ rows ∈ scansOf events, ∀ row ∈ rows,
      low ≤ row.quality.toInt ∧ row.quality.toInt ≤ high) :
    ((pinsOf events).length : Int) ≤ 1 + (high - low) / (penalty.toInt + 1) := by
  have hwithin : ∀ bssid ∈ pinsOf events,
      low ≤ (quality bssid).toInt ∧ (quality bssid).toInt ≤ high := by
    intro bssid hmem
    obtain ⟨rows, hrows, row, hrow, rfl⟩ := h.seen bssid hmem
    rw [← hsteady rows hrows row hrow]
    exact hbounds rows hrows row hrow
  have hgains := h.gains
  cases hpins : pinsOf events with
  | nil =>
      have hnonneg : 0 ≤ (high - low) / (penalty.toInt + 1) :=
        Int.ediv_nonneg (by omega) (by omega)
      rw [List.length_nil, Nat.cast_zero]
      omega
  | cons bssid pins =>
      rw [hpins] at hwithin hgains
      have hlow := (hwithin bssid List.mem_cons_self).1
      have hclimbed :=
        length_mul_le_of_isChain hgains fun pinned hmem => (hwithin pinned hmem).2
      have hlength : (pins.length : Int) ≤ (high - low) / (penalty.toInt + 1) :=
        (Int.le_ediv_iff_mul_le (by omega)).2 (by omega)
      rw [List.length_cons, Nat.cast_succ]
      omega

end Event

open Event

namespace Monitor

variable {σ : Type} {host : Host σ} {m : Monitor} {s : σ} {moves : List Move}
  {quality : String → Int32}

/-! ## Pins along a history -/

/-- Whenever an iteration reaches an active link after a pin, the BSSID that was pinned last is the
active one. -/
def HonoursPins (host : Host σ) (m : Monitor) (s : σ) (moves : List Move) : Prop :=
  ∀ past later, moves = past ++ .tick :: later →
    let now := m.makeAll host past s
    let ticked := now.value.tick host now.state
    ∀ rows link, .scanned (.ok rows) ∈ ticked.events → ticked.value.2.registry.active = .ok link →
      ∀ pinned ∈ (pinsOf now.events).getLast?, link.bssid = pinned

/-- What is honoured by a history is honoured by what came first. -/
theorem HonoursPins.of_append {later : List Move} (h : m.HonoursPins host s (moves ++ later)) :
    m.HonoursPins host s moves := by
  rintro past rest rfl
  refine h past (rest ++ later) ?_
  rw [List.append_assoc, List.cons_append]

/-- Of all moves only iterations pin. -/
theorem pinsOf_make_of_ne_tick {move : Move} (h : move ≠ .tick) :
    pinsOf (m.make host move s).events = [] := by
  refine pinsOf_eq_nil ?_
  intro bssid reply hpinned
  exact h (eq_tick_of_pinned hpinned)

/-- An iteration pins nothing, or one BSSID that outdoes the active link in its scan. -/
theorem Iteration.pinsOf_cases {t : Trace σ (Except Failure Decision × Monitor)}
    (h : Iteration host m s t) (hdated : m.registry.Dated)
    (hpenalty : 0 ≤ m.settings.qualityPenalty.toInt) :
    pinsOf t.events = [] ∨ ∃ rows link bssid, .scanned (.ok rows) ∈ t.events
      ∧ t.value.2.registry.active = .ok link
      ∧ Observation.Outdoes m.settings.qualityPenalty rows link.bssid bssid
      ∧ pinsOf t.events = [bssid] := by
  rcases h.quiet_or_pinned with hquiet |
    ⟨rows, sweep, link, choice, reply, rest, hswept, hactive, hchoice, -, hregistry, hevents,
      hrest⟩
  · exact .inl hquiet.pinsOf_eq_nil
  · have hscanned : .scanned (.ok rows) ∈ t.events := by
      rw [hevents]
      exact List.mem_cons_self
    have hpins : pinsOf t.events = pinsOf [.pinned (some choice.entry.bssid) reply] := by
      rw [hevents, pinsOf_append, hswept.quiet_choosing.pinsOf_eq_nil, List.nil_append]
      show pinsOf ([_] ++ rest) = _
      rw [pinsOf_append, pinsOf_eq_nil fun bssid reply => hrest _ _, List.append_nil]
    cases reply with
    | error failure => exact .inl hpins
    | ok =>
        obtain ⟨gs, rfl, hvalue⟩ := hswept.exists_absorb
        rw [choice?, withSweep, hvalue] at hchoice
        refine .inr ⟨_, link, choice.entry.bssid, hscanned, ?_, ?_, hpins⟩
        · rw [hregistry]
          exact hactive
        · rw [withSweep, hvalue] at hactive
          exact hdated.outdoes_of_choice hpenalty hactive hchoice

/-- An iteration continues the climb, if its active link is what was pinned last. -/
theorem Iteration.climbing {t : Trace σ (Except Failure Decision × Monitor)} {events : List Event}
    (h : Iteration host m s t) (hdated : m.registry.Dated)
    (hpenalty : 0 ≤ m.settings.qualityPenalty.toInt)
    (hclimbing : Climbing quality m.settings.qualityPenalty events)
    (hsteady : Steady quality (events ++ t.events))
    (hactive : ∀ rows link, .scanned (.ok rows) ∈ t.events →
      t.value.2.registry.active = .ok link →
      ∀ pinned ∈ (pinsOf events).getLast?, link.bssid = pinned) :
    Climbing quality m.settings.qualityPenalty (events ++ t.events) := by
  rcases h.pinsOf_cases hdated hpenalty with
    hnone | ⟨rows, link, bssid, hscanned, hlink, houtdoes, hone⟩
  · exact hclimbing.append_of_nil hnone
  · have hrows : rows ∈ scansOf t.events :=
      List.mem_filterMap.2 ⟨.scanned (.ok rows), hscanned, rfl⟩
    have hquality : ∀ row ∈ rows, row.quality = quality row.bssid := by
      refine hsteady rows ?_
      rw [scansOf_append]
      exact List.mem_append_right _ hrows
    obtain ⟨source, target, hsource, htarget, -, -, -, hgains, -⟩ := houtdoes
    obtain ⟨hsource, hsourcebssid⟩ := Observation.lastRow?_mem hsource
    obtain ⟨htarget, htargetbssid⟩ := Observation.lastRow?_mem htarget
    refine hclimbing.append_pin hone ⟨rows, hrows, target, htarget, htargetbssid⟩ ?_
    intro pinned hpinned
    obtain rfl := hactive rows link hscanned hlink pinned hpinned
    rw [hquality source hsource, hquality target htarget, hsourcebssid, htargetbssid] at hgains
    exact hgains

/-- **Along a history the pins climb**, if every access point keeps its quality and every pin is
honoured. -/
theorem climbing_makeAll (hdated : m.registry.Dated)
    (hpenalty : 0 ≤ m.settings.qualityPenalty.toInt)
    (hsteady : Steady quality (m.makeAll host moves s).events)
    (hhonours : m.HonoursPins host s moves) :
    Climbing quality m.settings.qualityPenalty (m.makeAll host moves s).events := by
  induction moves using List.reverseRecOn with
  | nil => exact .nil
  | append_singleton moves move ih =>
      rw [makeAll_append, makeAll_singleton] at hsteady ⊢
      have hclimbing := ih hsteady.of_append hhonours.of_append
      by_cases hmove : move = .tick
      · subst hmove
        rw [make_tick] at hsteady ⊢
        -- the moves before keep the settings, and that nothing is dated later than its scan
        rw [← settings_makeAll host m s moves] at hpenalty hclimbing ⊢
        exact (iteration_iff.2 rfl).climbing (dated_makeAll hdated) hpenalty hclimbing hsteady
          (hhonours moves [] rfl)
      · exact hclimbing.append_of_nil (pinsOf_make_of_ne_tick hmove)

/-- **The monitor does not flap.** Take a monitor with checked settings after any history, and let
it go through another one in which every access point keeps its quality and every pin is honoured.
Then every pin gains more than the penalty on all the pins before it, so no BSSID is pinned twice,
and the range of the qualities bounds the number of pins. Acceptance itself has no cycles. -/
theorem pins_climb {τ : Type} (world : Host τ) (host : Host σ) {draft : Settings.Draft}
    {settings : Settings} (hdraft : draft.resolve = .ok settings) (dryRun : Bool)
    (earlier ops : List Operation) (s₀ : τ) (s : σ) (quality : String → Int32) :
    let m := ((new settings dryRun).performAll world earlier s₀).value
    let run := m.performAll host ops s
    let pins := pinsOf run.events
    run = m.makeAll host (m.moves host s ops) s
      ∧ (Steady quality run.events → m.HonoursPins host s (m.moves host s ops) →
          pins.Pairwise (Gains quality settings.qualityPenalty)
            ∧ pins.Nodup
            ∧ ∀ low high : Int, low ≤ high →
              (∀ rows ∈ scansOf run.events, ∀ row ∈ rows,
                low ≤ row.quality.toInt ∧ row.quality.toInt ≤ high) →
              (pins.length : Int) ≤ 1 + (high - low) / (settings.qualityPenalty.toInt + 1))
      ∧ ∀ entry, ¬ Relation.TransGen (AccessPoint.Accepts settings.qualityPenalty) entry entry := by
  intro m run pins
  have hpenalty := Settings.Draft.penalty_nonneg hdraft
  have hrun : run = m.makeAll host (m.moves host s ops) s := performAll_eq_makeAll m ops s
  have hm : m = _ := congrArg Trace.value (performAll_eq_makeAll (new settings dryRun) earlier s₀)
  have hsettings : m.settings = settings := by
    rw [hm]
    exact settings_makeAll world _ s₀ _
  have hdated : m.registry.Dated := by
    rw [hm]
    exact dated_makeAll (Registry.dated_empty settings.limits)
  refine ⟨hrun, ?_, AccessPoint.Accepts.not_cyclic hpenalty⟩
  intro hsteady hhonours
  have hclimbing : Climbing quality settings.qualityPenalty run.events := by
    rw [← hsettings, hrun]
    exact climbing_makeAll hdated (hsettings ▸ hpenalty) (hrun ▸ hsteady) hhonours
  exact ⟨hclimbing.pairwise hpenalty, hclimbing.nodup hpenalty,
    fun _ _ => hclimbing.length_le hpenalty hsteady⟩

/-- Two pins, from "AA" to "BB" and on to "CC", each for a gain of 15. -/
theorem pins_climb_in_two_scans :
    let m := new Settings.default false
    let script : List (List Observation) :=
      [[⟨true, "AA", "home", 50, 100⟩, ⟨false, "BB", "home", 65, 100⟩],
        [⟨false, "AA", "home", 50, 100⟩, ⟨true, "BB", "home", 65, 100⟩,
          ⟨false, "CC", "home", 80, 100⟩]]
    let quality : String → Int32 := fun bssid =>
      if bssid = "AA" then 50 else if bssid = "BB" then 65 else 80
    let run := m.performAll .scripted [.tick, .tick] script
    Settings.Draft.empty.resolve = .ok Settings.default
      ∧ Steady quality run.events
      ∧ m.HonoursPins .scripted script (m.moves .scripted script [.tick, .tick])
      ∧ pinsOf run.events = ["BB", "CC"]
      ∧ (pinsOf run.events).Pairwise (Gains quality 10) ∧ (pinsOf run.events).Nodup
      ∧ ((pinsOf run.events).length : Int) ≤ 1 + (80 - 50) / (10 + 1) := by
  intro m script quality run
  have hdraft : Settings.Draft.empty.resolve = .ok Settings.default := rfl
  have hsteady : Steady quality run.events := by
    rw [Steady]
    decide +kernel
  have hhonours : m.HonoursPins .scripted script (m.moves .scripted script [.tick, .tick]) := by
    rintro past later hmoves now ticked rows link - hlink pinned hpinned
    -- the second iteration has one pin before it, and finds it active
    have hsplit : [.tick, .tick] = past ++ .tick :: later := hmoves
    obtain rfl | rfl : past = [] ∨ past = [.tick] := by
      rcases past with _ | ⟨_, _ | ⟨_, past⟩⟩ <;> simp_all
    · exact nomatch hpinned
    · have hactive : ticked.value.2.registry.active.map (·.bssid) = .ok "BB" := by decide +kernel
      have hlast : (pinsOf now.events).getLast? = some "BB" := by decide +kernel
      rw [hlink] at hactive
      rw [hlast] at hpinned
      exact (Except.ok.inj hactive).trans (Option.some.inj hpinned)
  have hbounds : ∀ rows ∈ scansOf run.events, ∀ row ∈ rows,
      50 ≤ row.quality.toInt ∧ row.quality.toInt ≤ 80 := by
    decide +kernel
  obtain ⟨-, hpins, -⟩ :=
    pins_climb .scripted .scripted hdraft false [] [.tick, .tick] [] script quality
  obtain ⟨hpairwise, hnodup, hlength⟩ := hpins hsteady hhonours
  exact ⟨hdraft, hsteady, hhonours, by decide +kernel, hpairwise, hnodup,
    hlength 50 80 (by decide) hbounds⟩

end Monitor

end Roaming
