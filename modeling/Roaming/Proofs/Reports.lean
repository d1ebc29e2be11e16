import Roaming.Proofs.LastPin
import Roaming.Proofs.Protocol

/-!
# Reports on the active link

An iteration that reaches an active link says so in the log, and before that it complains if the
link is not the one that the profile was pinned to. No other notice of an iteration is about the
link (`Iteration.reports_cases`). So what is logged on a link is settled by what a monitor has in
mind when it reaches it: the BSSID it pinned last, and whether the report is news.

What is news is told by the history (`news_makeAll`). The first report is news. A later one is news
if the profile was pinned since the iteration of the report before it, and also if that iteration
failed to pin and its own report was news: a failed pin ends an iteration before it has settled that
there is nothing new. The main statement is `reports_are_news`.
-/

namespace Roaming

/-- A notice is about the active link. -/
def Notice.isReport : Notice → Bool
  | .pinIgnored _ _ => true
  | .currentLink _ _ => true
  | _ => false

namespace Event

/-- The notice on the active link that an event is. -/
def report? : Event → Option Notice
  | .noted n => if n.isReport then some n else none
  | _ => none

/-- The notices on active links, in their order. -/
def reportsOf (events : List Event) : List Notice :=
  events.filterMap report?

/-- The level at which an event logs a text. -/
def level? (text : String) : Event → Option Level
  | .noted n => if n.text = text then some n.level else none
  | _ => none

/-- The levels at which a text was logged, in their order. -/
def levelsOf (text : String) (events : List Event) : List Level :=
  events.filterMap (level? text)

theorem reportsOf_append (events later : List Event) :
    reportsOf (events ++ later) = reportsOf events ++ reportsOf later :=
  List.filterMap_append

/-- Of a text that is only logged on links, the levels are those of the reports. -/
theorem levelsOf_eq {text : String} (htext : ∀ n : Notice, n.text = text → n.isReport = true)
    (events : List Event) :
    levelsOf text events = (reportsOf events).filterMap fun n => level? text (.noted n) := by
  rw [levelsOf, reportsOf, List.filterMap_filterMap]
  refine List.filterMap_congr fun event _ => ?_
  cases event with
  | noted n =>
      by_cases hreport : n.isReport = true
      · simp [report?, hreport]
      · have hother : n.text ≠ text := fun h => hreport (htext n h)
        simp [report?, level?, hreport, hother]
  | asked | scanned | lookedUp | probed | pinned | restarted | slept => rfl

theorem isReport_of_text_currentLink {n : Notice} (h : n.text = "current link") :
    n.isReport = true := by
  cases n <;> first | rfl | simp [Notice.text] at h

theorem isReport_of_text_pinIgnored {n : Notice}
    (h : n.text = "associated access point differs from pinned bssid") : n.isReport = true := by
  cases n <;> first | rfl | simp [Notice.text] at h

end Event

open Event

variable {σ : Type} {host : Host σ}

/-! ## What an iteration logs on a link -/

/-- A measurement is silent on the link. -/
theorem Latency.reportsOf_measure (host : Host σ) (pings : UInt32) (s : σ) :
    reportsOf (Latency.measure host pings s).events = [] := by
  rcases hlookup : host.defaultGateway s with ⟨failure | _ | gateway, s₁⟩ <;>
    rw [Latency.measure, Action.bind_apply, Host.lookUpGateway, Action.ask_apply hlookup]
  · rfl
  · rfl
  · rcases hprobe : host.probe gateway pings (deadline pings) s₁ with ⟨failure | _ | times, s₂⟩ <;>
      simp only [Action.bind_apply, Host.sendProbe, Action.ask_apply hprobe] <;> rfl

/-- So are the sightings of a scan. -/
theorem Sighting.reportsOf_takeAll (host : Host σ) (pings : UInt32) (rows : List Observation)
    (s : σ) : reportsOf (Sighting.takeAll (Latency.measure host pings) rows s).events = [] := by
  rw [reportsOf, List.filterMap_eq_nil_iff]
  intro event hevent
  obtain ⟨s', hmem⟩ := Sighting.exists_measure_of_mem hevent
  exact List.filterMap_eq_nil_iff.1 (Latency.reportsOf_measure host pings s') event hmem

namespace Monitor

variable {m : Monitor} {s : σ} {rows : List Observation} {sweep : Trace σ Refresh}
  {link : AccessPoint} {t : Trace σ (Except Failure Decision × Monitor)}

/-- A scan and its merging are silent on the link. -/
theorem Swept.reportsOf_sweepEvents (h : m.Swept host s rows sweep) :
    reportsOf (m.sweepEvents rows sweep) = [] := by
  obtain ⟨s₁, -, rfl⟩ := h
  have hlearned : reportsOf (Action.noticed (m.learnedNotice? rows)) = [] := by
    rw [learnedNotice?]
    cases m.registry.learns? rows <;> rfl
  have hdropped : ∀ refresh, reportsOf (Action.noticed (droppedNotice? refresh)) = [] := by
    intro refresh
    rw [droppedNotice?]
    split_ifs <;> rfl
  rw [sweepEvents, Registry.refresh_eq_absorb]
  show reportsOf (_ ++ _ ++ _) = []
  rw [reportsOf_append, reportsOf_append, Sighting.reportsOf_takeAll, hlearned, hdropped]
  rfl

/-- What a monitor logs on a link: a complaint if the link is not the one that was pinned, and the
report. -/
def linkReports (m : Monitor) (link : AccessPoint) : List Notice :=
  (m.pinNotice? link).toList ++ [.currentLink m.reportNews link]

/-- A monitor complains of a link exactly if it pinned another BSSID last. -/
theorem pinNotice?_cases (m : Monitor) (link : AccessPoint) :
    (m.pinNotice? link = none ∧ ∀ pinned, m.lastPinned = some pinned → pinned = link.bssid)
      ∨ ∃ pinned, m.pinNotice? link = some (.pinIgnored pinned link.bssid)
        ∧ m.lastPinned = some pinned ∧ pinned ≠ link.bssid := by
  rw [pinNotice?]
  cases m.lastPinned with
  | none => exact .inl ⟨rfl, fun pinned h => (nomatch h)⟩
  | some pinned =>
      by_cases hsame : pinned = link.bssid
      · exact .inl ⟨if_pos hsame, fun pinned' h => Option.some.inj h ▸ hsame⟩
      · exact .inr ⟨pinned, if_neg hsame, rfl, hsame⟩

theorem reportsOf_judgeEvents (m : Monitor) (link : AccessPoint) :
    reportsOf (m.judgeEvents link) = m.linkReports link := by
  have hcomplaint : reportsOf (Action.noticed (m.pinNotice? link))
      = (m.pinNotice? link).toList := by
    rcases m.pinNotice?_cases link with ⟨hnone, -⟩ | ⟨pinned, hsome, -⟩
    · rw [hnone]
      rfl
    · rw [hsome]
      rfl
  have hjudged :
      reportsOf (m.registry.candidates.map fun c => .noted (m.judgement link c)) = [] := by
    rw [reportsOf, List.filterMap_eq_nil_iff]
    intro event hevent
    obtain ⟨c, -, rfl⟩ := List.mem_map.1 hevent
    rfl
  rw [judgeEvents, reportsOf_append, hcomplaint, linkReports]
  exact congrArg (fun later => _ ++ Notice.currentLink m.reportNews link :: later) hjudged

/-- An iteration reached a link: its scan succeeded, and with that scan the link is the active one.
-/
def Reached (t : Trace σ (Except Failure Decision × Monitor)) (link : AccessPoint) : Prop :=
  (∃ rows, .scanned (.ok rows) ∈ t.events) ∧ t.value.2.registry.active = .ok link

theorem reached_of_sweep {later : List Event}
    (hevents : t.events = m.sweepEvents rows sweep ++ later)
    (hactive : t.value.2.registry.active = .ok link) : Reached t link := by
  refine ⟨⟨rows, ?_⟩, hactive⟩
  rw [hevents]
  exact List.mem_append_left _ (scanned_mem_sweepEvents m rows sweep)

theorem not_reached_of_scan_error {failure : Failure}
    (hevents : t.events = [.scanned (.error failure)]) (link : AccessPoint) : ¬ Reached t link := by
  rintro ⟨⟨rows, hscanned⟩, -⟩
  rw [hevents] at hscanned
  simp at hscanned

theorem not_reached_of_active_error {failure : Failure}
    (hactive : t.value.2.registry.active = .error failure) (link : AccessPoint) :
    ¬ Reached t link := by
  rintro ⟨-, hlink⟩
  exact nomatch hactive.symm.trans hlink

/-- An iteration logs what its monitor has to say on the link that it reached, and nothing on links
if it reached none. -/
theorem Iteration.reports_cases (h : Iteration host m s t) :
    ((∀ link, ¬ Reached t link) ∧ reportsOf t.events = [])
      ∨ ∃ link, Reached t link ∧ reportsOf t.events = m.linkReports link := by
  -- whatever follows the judging of candidates is silent on the link
  have hsilent : ∀ {rows : List Observation} {sweep : Trace σ Refresh} (link : AccessPoint)
      {rest : List Event}, m.Swept host s rows sweep → reportsOf rest = [] →
      reportsOf (m.sweepEvents rows sweep ++ (m.withSweep sweep).judgeEvents link ++ rest)
        = m.linkReports link := by
    intro rows sweep link rest hswept hrest
    rw [reportsOf_append, reportsOf_append, hswept.reportsOf_sweepEvents, reportsOf_judgeEvents,
      hrest, List.append_nil]
    rfl
  cases h with
  | scanFailed hscan => exact .inl ⟨not_reached_of_scan_error rfl, rfl⟩
  | unassociated hswept hactive =>
      exact .inl ⟨not_reached_of_active_error hactive, hswept.reportsOf_sweepEvents⟩
  | @stayed rows sweep link hswept hactive hchoice =>
      have hreports : reportsOf (_ ++ []) = _ := hsilent link hswept rfl
      rw [List.append_nil] at hreports
      exact .inr ⟨link, reached_of_sweep rfl hactive, hreports⟩
  | wouldSwitch hswept hactive | pinFailed hswept hactive | restartFailed hswept hactive
  | switched hswept hactive =>
      exact .inr ⟨_, reached_of_sweep (List.append_assoc _ _ _) hactive, hsilent _ hswept rfl⟩

/-- **The level of a report says whether it is news.** -/
theorem Iteration.levelsOf_currentLink (h : Iteration host m s t) :
    ((∀ link, ¬ Reached t link) → levelsOf "current link" t.events = [])
      ∧ ∀ link, Reached t link →
        levelsOf "current link" t.events = [if m.reportNews then .info else .debug] := by
  rw [levelsOf_eq fun _ => isReport_of_text_currentLink]
  rcases h.reports_cases with ⟨hnone, hreports⟩ | ⟨link, hreached, hreports⟩ <;> rw [hreports]
  · exact ⟨fun _ => rfl, fun link hlink => absurd hlink (hnone link)⟩
  · refine ⟨fun hnone => absurd hreached (hnone link), fun _ _ => ?_⟩
    rw [linkReports]
    -- a complaint has another text
    rcases m.pinNotice?_cases link with ⟨hnone, -⟩ | ⟨pinned, hsome, -⟩
    · rw [hnone]
      rfl
    · rw [hsome]
      rfl

/-- The report of an iteration with a link is at info exactly if it is news. -/
theorem Iteration.levelsOf_eq_info_iff (h : Iteration host m s t)
    (hreached : ∃ link, Reached t link) :
    levelsOf "current link" t.events = [.info] ↔ m.reportNews = true := by
  obtain ⟨link, hlink⟩ := hreached
  rw [h.levelsOf_currentLink.2 link hlink]
  cases m.reportNews <;> simp

/-- An iteration that reports a link reached one. -/
theorem Iteration.exists_reached (h : Iteration host m s t)
    (hreport : levelsOf "current link" t.events ≠ []) : ∃ link, Reached t link := by
  by_contra hnone
  exact hreport (h.levelsOf_currentLink.1 fun link hlink => hnone ⟨link, hlink⟩)

/-! ## What an iteration leaves as news -/

/-- An iteration was to pin the profile and failed to. -/
def PinFailed (t : Trace σ (Except Failure Decision × Monitor)) : Prop :=
  ∃ bssid failure, .pinned bssid (.error failure) ∈ t.events

theorem not_pinFailed_of_quiet (h : Quiet t.events) : ¬ PinFailed t := by
  rintro ⟨bssid, failure, hmem⟩
  exact h.not_pinned bssid _ hmem

/-- What an iteration with a link leaves as news: a pin that it made, or what was news before if it
failed to pin. -/
structure LeavesNews (m : Monitor) (t : Trace σ (Except Failure Decision × Monitor)) : Prop where
  unpinned : PinFailed t → pinsOf t.events = []
  news_iff : t.value.2.reportNews = true ↔
    pinsOf t.events ≠ [] ∨ PinFailed t ∧ m.reportNews = true

theorem leavesNews_of_quiet (hquiet : Quiet t.events) (hold : t.value.2.reportNews = false) :
    LeavesNews m t := by
  constructor <;> simp [hquiet.pinsOf_eq_nil, not_pinFailed_of_quiet hquiet, hold]

theorem leavesNews_of_pinFailed (hfailed : PinFailed t) (hnone : pinsOf t.events = [])
    (hkept : t.value.2.reportNews = m.reportNews) : LeavesNews m t := by
  constructor <;> simp [hfailed, hnone, hkept]

theorem leavesNews_of_pinned (hpinned : ¬ PinFailed t) (hsome : pinsOf t.events ≠ [])
    (hnew : t.value.2.reportNews = true) : LeavesNews m t := by
  constructor <;> simp [hpinned, hsome, hnew]

/-- An iteration without a link leaves what was news before. -/
theorem Iteration.news_cases (h : Iteration host m s t) :
    ((∀ link, ¬ Reached t link) ∧ pinsOf t.events = [] ∧ t.value.2.reportNews = m.reportNews)
      ∨ (∃ link, Reached t link) ∧ LeavesNews m t := by
  cases h with
  | scanFailed hscan => exact .inl ⟨not_reached_of_scan_error rfl, rfl, rfl⟩
  | unassociated hswept hactive =>
      exact .inl ⟨not_reached_of_active_error hactive, hswept.quiet_sweepEvents.pinsOf_eq_nil, rfl⟩
  | stayed hswept hactive hchoice =>
      exact .inr ⟨⟨_, reached_of_sweep rfl hactive⟩,
        leavesNews_of_quiet hswept.quiet_judging rfl⟩
  | wouldSwitch hswept hactive hchoice hdry =>
      exact .inr ⟨⟨_, reached_of_sweep (List.append_assoc _ _ _) hactive⟩,
        leavesNews_of_quiet hswept.quiet_choosing rfl⟩
  | pinFailed hswept hactive hchoice hdry hpin =>
      refine .inr ⟨⟨_, reached_of_sweep (List.append_assoc _ _ _) hactive⟩,
        leavesNews_of_pinFailed ?_ hswept.pinsOf_choosing rfl⟩
      exact ⟨_, _, hswept.pinned_mem_iff.2 List.mem_cons_self⟩
  | restartFailed hswept hactive hchoice hdry hpin hrestart
  | switched hswept hactive hchoice hdry hpin hrestart =>
      refine .inr ⟨⟨_, reached_of_sweep (List.append_assoc _ _ _) hactive⟩,
        leavesNews_of_pinned ?_ ?_ rfl⟩
      · rintro ⟨bssid, failure, hmem⟩
        have hclosing := hswept.pinned_mem_iff.1 hmem
        simp at hclosing
      · rw [hswept.pinsOf_choosing]
        exact List.cons_ne_nil _ _

/-! ## What a history leaves as news -/

/-- The iteration that a monitor makes after some moves. -/
def tickAfter (host : Host σ) (m : Monitor) (s : σ) (past : List Move) :
    Trace σ (Except Failure Decision × Monitor) :=
  let now := m.makeAll host past s
  now.value.tick host now.state

/-- No iteration among some moves, made after earlier ones, reached a link. -/
def Unreached (host : Host σ) (m : Monitor) (s : σ) (earlier moves : List Move) : Prop :=
  ∀ front back, moves = front ++ .tick :: back →
    ∀ link, ¬ Reached (m.tickAfter host s (earlier ++ front)) link

/-- The last iteration of a history that reached a link is the one between some earlier moves and
some later ones. -/
structure LastReached (host : Host σ) (m : Monitor) (s : σ) (past earlier later : List Move) :
    Prop where
  split : past = earlier ++ .tick :: later
  reached : ∃ link, Reached (m.tickAfter host s earlier) link
  unreached : Unreached host m s (earlier ++ [.tick]) later

/-- The events of an iteration and of the moves after it. -/
def eventsSince (host : Host σ) (m : Monitor) (s : σ) (earlier later : List Move) : List Event :=
  let before := m.makeAll host earlier s
  (before.value.makeAll host (.tick :: later) before.state).events

variable {past earlier later : List Move} {move : Move}

theorem iteration_tickAfter (host : Host σ) (m : Monitor) (s : σ) (past : List Move) :
    Iteration host (m.makeAll host past s).value (m.makeAll host past s).state
      (m.tickAfter host s past) :=
  iteration_iff.2 rfl

theorem makeAll_concat (host : Host σ) (m : Monitor) (s : σ) (past : List Move) (move : Move) :
    m.makeAll host (past ++ [move]) s =
      ((m.makeAll host past s).value.make host move (m.makeAll host past s).state).after
        (m.makeAll host past s).events := by
  rw [makeAll_append, makeAll_singleton]

theorem eventsSince_nil (earlier : List Move) :
    eventsSince host m s earlier [] = (m.tickAfter host s earlier).events := by
  rw [eventsSince, makeAll_singleton, make_tick]
  rfl

theorem eventsSince_concat (earlier later : List Move) (move : Move) :
    eventsSince host m s earlier (later ++ [move]) =
      eventsSince host m s earlier later
        ++ ((m.makeAll host (earlier ++ .tick :: later) s).value.make host move
          (m.makeAll host (earlier ++ .tick :: later) s).state).events := by
  rw [eventsSince, ← List.cons_append, makeAll_concat, makeAll_append earlier]
  rfl

/-- Moves are split at the last one, or at one before it. -/
theorem concat_eq_split_iff : past ++ [move] = earlier ++ .tick :: later ↔
    (move = .tick ∧ earlier = past ∧ later = [])
      ∨ ∃ rest, later = rest ++ [move] ∧ past = earlier ++ .tick :: rest := by
  constructor
  · intro h
    rcases List.eq_nil_or_concat' later with rfl | ⟨rest, last, rfl⟩
    · obtain ⟨rfl, hmove⟩ := List.append_inj' h rfl
      exact .inl ⟨List.singleton_inj.1 hmove, rfl, rfl⟩
    · rw [← List.cons_append, ← List.append_assoc] at h
      obtain ⟨hpast, hlast⟩ := List.append_inj' h rfl
      obtain rfl := List.singleton_inj.1 hlast
      exact .inr ⟨rest, rfl, hpast⟩
  · rintro (⟨rfl, rfl, rfl⟩ | ⟨rest, rfl, rfl⟩)
    · rfl
    · exact List.append_assoc _ _ _

theorem unreached_nil (host : Host σ) (m : Monitor) (s : σ) (earlier : List Move) :
    Unreached host m s earlier [] := by
  intro front back hnil
  exact absurd hnil (by simp)

theorem unreached_concat_iff : Unreached host m s earlier (past ++ [move]) ↔
    Unreached host m s earlier past
      ∧ (move = .tick → ∀ link, ¬ Reached (m.tickAfter host s (earlier ++ past)) link) := by
  constructor
  · intro h
    refine ⟨fun front back hpast => ?_, fun hmove => ?_⟩
    · exact h front (back ++ [move]) (concat_eq_split_iff.2 (.inr ⟨back, rfl, hpast⟩))
    · exact h past [] (concat_eq_split_iff.2 (.inl ⟨hmove, rfl, rfl⟩))
  · rintro ⟨hpast, hlast⟩ front back hsplit
    rcases concat_eq_split_iff.1 hsplit with ⟨hmove, rfl, -⟩ | ⟨rest, -, hrest⟩
    · exact hlast hmove
    · exact hpast front rest hrest

/-- A move that is no iteration with a link is passed over. -/
theorem lastReached_concat_iff
    (hother : move = .tick → ∀ link, ¬ Reached (m.tickAfter host s past) link) :
    LastReached host m s (past ++ [move]) earlier later
      ↔ ∃ rest, later = rest ++ [move] ∧ LastReached host m s past earlier rest := by
  constructor
  · rintro ⟨hsplit, hreached, hunreached⟩
    rcases concat_eq_split_iff.1 hsplit with ⟨hmove, rfl, -⟩ | ⟨rest, rfl, hpast⟩
    · obtain ⟨link, hlink⟩ := hreached
      exact absurd hlink (hother hmove link)
    · exact ⟨rest, rfl, hpast, hreached, (unreached_concat_iff.1 hunreached).1⟩
  · rintro ⟨rest, rfl, rfl, hreached, hunreached⟩
    refine ⟨concat_eq_split_iff.2 (.inr ⟨rest, rfl, rfl⟩), hreached, ?_⟩
    rw [unreached_concat_iff, List.append_assoc]
    exact ⟨hunreached, hother⟩

/-- An iteration with a link is the last one. -/
theorem lastReached_concat_tick_iff (hreached : ∃ link, Reached (m.tickAfter host s past) link) :
    LastReached host m s (past ++ [.tick]) earlier later ↔ earlier = past ∧ later = [] := by
  constructor
  · rintro ⟨hsplit, -, hunreached⟩
    rcases concat_eq_split_iff.1 hsplit with ⟨-, hpast, hnil⟩ | ⟨rest, rfl, rfl⟩
    · exact ⟨hpast, hnil⟩
    · obtain ⟨link, hlink⟩ := hreached
      have hlast := (unreached_concat_iff.1 hunreached).2 rfl link
      rw [List.append_assoc] at hlast
      exact absurd hlink hlast
  · rintro ⟨rfl, rfl⟩
    exact ⟨rfl, hreached, unreached_nil host m s _⟩

/-- If any iteration of a history reached a link, there is a last one that did. -/
theorem unreached_or_exists_lastReached (host : Host σ) (m : Monitor) (s : σ) (past : List Move) :
    Unreached host m s [] past ∨ ∃ earlier later, LastReached host m s past earlier later := by
  induction past using List.reverseRecOn with
  | nil => exact .inl (unreached_nil host m s [])
  | append_singleton past move ih =>
      by_cases hother : move = .tick → ∀ link, ¬ Reached (m.tickAfter host s past) link
      · rcases ih with hunreached | ⟨earlier, later, hlast⟩
        · exact .inl (unreached_concat_iff.2 ⟨hunreached, hother⟩)
        · exact .inr ⟨earlier, _, (lastReached_concat_iff hother).2 ⟨later, rfl, hlast⟩⟩
      · push Not at hother
        obtain ⟨rfl, hreached⟩ := hother
        exact .inr ⟨past, [], (lastReached_concat_tick_iff hreached).2 ⟨rfl, rfl⟩⟩

/-- The history says what is news: until a link is reached the next report is. After that it is if
the profile was pinned since the last iteration with a link, or if that iteration failed to pin and
its own report was news. -/
structure ToldNews (host : Host σ) (m : Monitor) (s : σ) (past : List Move) : Prop where
  first : Unreached host m s [] past → (m.makeAll host past s).value.reportNews = true
  later : ∀ earlier later, LastReached host m s past earlier later →
    (PinFailed (m.tickAfter host s earlier) → pinsOf (eventsSince host m s earlier later) = [])
      ∧ ((m.makeAll host past s).value.reportNews = true ↔
        pinsOf (eventsSince host m s earlier later) ≠ []
          ∨ PinFailed (m.tickAfter host s earlier)
            ∧ (m.makeAll host earlier s).value.reportNews = true)

/-- A move that reaches no link, pins nothing and leaves what is news leaves what the history says.
-/
theorem ToldNews.concat (h : ToldNews host m s past)
    (hother : move = .tick → ∀ link, ¬ Reached (m.tickAfter host s past) link)
    (hnone : pinsOf ((m.makeAll host past s).value.make host move
      (m.makeAll host past s).state).events = [])
    (hkept : (m.makeAll host (past ++ [move]) s).value.reportNews
      = (m.makeAll host past s).value.reportNews) :
    ToldNews host m s (past ++ [move]) := by
  constructor
  · intro hfirst
    rw [hkept]
    exact h.first (unreached_concat_iff.1 hfirst).1
  · intro earlier later hlast
    obtain ⟨rest, rfl, hrest⟩ := (lastReached_concat_iff hother).1 hlast
    rw [hkept, eventsSince_concat, pinsOf_append, ← hrest.split, hnone, List.append_nil]
    exact h.later earlier rest hrest

/-- Of all moves only iterations make news, or end it. -/
theorem reportNews_make_of_ne_tick (hmove : move ≠ .tick) :
    (m.make host move s).value.reportNews = m.reportNews := by
  cases move with
  | tick => exact absurd rfl hmove
  | start =>
      obtain ⟨phase, hphase⟩ := exists_phase_start host m s
      rw [make_start]
      show (m.start host s).value.2.reportNews = _
      rw [hphase]
  | answer outcome => rw [make_answer]
  | pause | stop => rfl

/-- **What is news is told by the history.** -/
theorem toldNews (hnew : m.reportNews = true) (past : List Move) : ToldNews host m s past := by
  induction past using List.reverseRecOn with
  | nil =>
      refine ⟨fun _ => hnew, fun earlier later hlast => ?_⟩
      exact absurd hlast.split.symm (by simp)
  | append_singleton past move ih =>
      by_cases hmove : move = .tick
      · subst hmove
        have hvalue : (m.makeAll host (past ++ [.tick]) s).value
            = (m.tickAfter host s past).value.2 := by
          rw [makeAll_concat, make_tick]
          rfl
        rcases (iteration_tickAfter host m s past).news_cases with
          ⟨hunreached, hnone, hkept⟩ | ⟨hreached, hnews⟩
        · refine ih.concat (fun _ => hunreached) ?_ ?_
          · rw [make_tick]
            exact hnone
          · rw [hvalue]
            exact hkept
        · -- the iteration has a link, and it is the last one that has
          constructor
          · intro hfirst
            obtain ⟨link, hlink⟩ := hreached
            exact absurd hlink ((unreached_concat_iff.1 hfirst).2 rfl link)
          · intro earlier later hlast
            obtain ⟨rfl, rfl⟩ := (lastReached_concat_tick_iff hreached).1 hlast
            rw [eventsSince_nil, hvalue]
            exact ⟨hnews.unpinned, hnews.news_iff⟩
      · refine ih.concat (fun h => absurd h hmove) (pinsOf_make_of_ne_tick hmove) ?_
        rw [makeAll_concat]
        exact reportNews_make_of_ne_tick hmove

/-- **A report is at info when it is news.** A history is a sequence of moves. After any moves an
iteration without a link reports none, while one with a link reports it once, at info or at debug.
The first such report is at info. Any other one has a last iteration with a link before it, and it
is at info exactly if the profile was pinned since that iteration began, or if that iteration failed
to pin and its own report was at info. The second way is one report too many, as there was no pin.
-/
theorem reports_are_news (settings : Settings) (dryRun : Bool) (host : Host σ) (s : σ) :
    let m := new settings dryRun
    (∀ ops, m.performAll host ops s = m.makeAll host (m.moves host s ops) s)
      ∧ ∀ past, let ticked := m.tickAfter host s past
        let levels := levelsOf "current link" ticked.events
        ((∀ link, ¬ Reached ticked link) → levels = [])
          ∧ ((∃ link, Reached ticked link) →
            (levels = [.info] ∨ levels = [.debug])
              ∧ (Unreached host m s [] past → levels = [.info])
              ∧ (Unreached host m s [] past
                ∨ ∃ earlier later, LastReached host m s past earlier later)
              ∧ ∀ earlier later, LastReached host m s past earlier later →
                let previous := m.tickAfter host s earlier
                let pins := pinsOf (eventsSince host m s earlier later)
                let repeats := PinFailed previous
                  ∧ levelsOf "current link" previous.events = [.info]
                (levels = [.info] ↔ pins ≠ [] ∨ repeats)
                  ∧ ((levels = [.info] ↔ pins ≠ []) ↔ ¬ repeats)) := by
  intro m
  refine ⟨fun ops => performAll_eq_makeAll m ops s, ?_⟩
  intro past ticked levels
  have hticked : Iteration host _ _ ticked := iteration_tickAfter host m s past
  have htold : ToldNews host m s past := toldNews rfl past
  obtain ⟨hunreported, hreported⟩ := hticked.levelsOf_currentLink
  refine ⟨hunreported, fun hreached => ?_⟩
  have hinfo := hticked.levelsOf_eq_info_iff hreached
  refine ⟨?_, fun hfirst => hinfo.2 (htold.first hfirst),
    unreached_or_exists_lastReached host m s past, ?_⟩
  · obtain ⟨link, hlink⟩ := hreached
    have hlevels : levels = _ := hreported link hlink
    rw [hlevels]
    split_ifs
    · exact .inl rfl
    · exact .inr rfl
  · intro earlier later hlast previous pins repeats
    obtain ⟨hfailed, hnews⟩ := htold.later earlier later hlast
    have hprevious := (iteration_tickAfter host m s earlier).levelsOf_eq_info_iff hlast.reached
    have hlevels : levels = [.info] ↔ pins ≠ [] ∨ repeats := by
      rw [hinfo, hnews]
      exact or_congr_right (and_congr_right' hprevious.symm)
    have hunpinned : repeats → pins = [] := fun h => hfailed h.1
    refine ⟨hlevels, ?_, fun hother => hlevels.trans (or_iff_left hother)⟩
    intro hlaw hrepeats
    exact hlaw.1 (hlevels.2 (.inr hrepeats)) (hunpinned hrepeats)

/-- After a failed pin a link is reported at info twice in a row, without a pin in between. -/
theorem failed_pin_repeats_news :
    let rows : Int32 → List Observation := fun quality =>
      [⟨true, "AA", "home", 50, 100⟩, ⟨false, "BB", "home", quality, 100⟩]
    let failure : Failure := .toolFailed "nmcli" (.code 4) ""
    let host := { Host.scripted with pin := fun _ script => (.error failure, script) }
    let script := [rows 65, rows 40]
    let m := new Settings.default false
    let second := m.tickAfter host script [.tick]
    levelsOf "current link" second.events = [.info]
      ∧ (∃ link, Reached second link)
      ∧ LastReached host m script [.tick] [] []
      ∧ pinsOf (eventsSince host m script [] []) = [] := by
  intro rows failure host script m second
  have hsecond : levelsOf "current link" second.events = [.info] := by decide +kernel
  have hfirst : levelsOf "current link" (m.tickAfter host script []).events = [.info] := by
    decide +kernel
  have hreached : ∀ past, levelsOf "current link" (m.tickAfter host script past).events = [.info] →
      ∃ link, Reached (m.tickAfter host script past) link := by
    intro past hreport
    refine (iteration_tickAfter host m script past).exists_reached ?_
    rw [hreport]
    exact List.cons_ne_nil _ _
  exact ⟨hsecond, hreached _ hsecond, ⟨rfl, hreached _ hfirst, unreached_nil host m script _⟩,
    by decide +kernel⟩

end Monitor

end Roaming
