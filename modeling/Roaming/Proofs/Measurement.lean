import Roaming.Proofs.Endurance
import Roaming.Proofs.Gateway
import Roaming.Proofs.Summary

/-!
# A measurement, from the outputs of the tools to the latency

`Measuring` lists the five ways in which a measurement can go, of which one ends in a latency that
was measured. With the command-line tools a look-up finds a gateway if the routes are shown with
success and lead via it (`Toolbox.Routed`), and its probe finds times if it runs to its end, with
whatever status, and leaves figures (`Toolbox.Measured`). So the outputs of the tools decide between
the latency that they give and the sentinel (`measurement_from_tool_output`).
-/

namespace Roaming

open Latency

/-! ## The ways a measurement can go -/

namespace Latency

variable {σ : Type} {host : Host σ} {pings : UInt32} {s : σ}

/-- The ways a measurement can go. -/
inductive Measuring (host : Host σ) (pings : UInt32) (s : σ) : Trace σ Float → Prop where
  /-- The gateway could not be looked up. -/
  | lookupFailed {failure : Failure} {s₁ : σ}
      (hlookup : host.defaultGateway s = (.error failure, s₁)) :
      Measuring host pings s
        ⟨sentinel pings, [.lookedUp (.error failure), .noted (.lookupFailed failure)], s₁⟩
  /-- There is no gateway. -/
  | unrouted {s₁ : σ} (hlookup : host.defaultGateway s = (.ok none, s₁)) :
      Measuring host pings s
        ⟨sentinel pings, [.lookedUp (.ok none), .noted (.noDefaultRoute (sentinel pings))], s₁⟩
  /-- The gateway could not be probed. -/
  | probeFailed {gateway : String} {failure : Failure} {s₁ s₂ : σ}
      (hlookup : host.defaultGateway s = (.ok (some gateway), s₁))
      (hprobe : host.probe gateway pings (deadline pings) s₁ = (.error failure, s₂)) :
      Measuring host pings s
        ⟨sentinel pings,
          [.lookedUp (.ok (some gateway)),
            .probed gateway pings (deadline pings) (.error failure),
            .noted (.probeFailed gateway failure)], s₂⟩
  /-- The probe left no times. -/
  | unreachable {gateway : String} {s₁ s₂ : σ}
      (hlookup : host.defaultGateway s = (.ok (some gateway), s₁))
      (hprobe : host.probe gateway pings (deadline pings) s₁ = (.ok none, s₂)) :
      Measuring host pings s
        ⟨sentinel pings,
          [.lookedUp (.ok (some gateway)), .probed gateway pings (deadline pings) (.ok none),
            .noted (.unreachable gateway (sentinel pings))], s₂⟩
  /-- The probe left times. -/
  | measured {gateway : String} {times : RoundTrip} {s₁ s₂ : σ}
      (hlookup : host.defaultGateway s = (.ok (some gateway), s₁))
      (hprobe : host.probe gateway pings (deadline pings) s₁ = (.ok (some times), s₂)) :
      Measuring host pings s
        ⟨times.avg + times.mdev,
          [.lookedUp (.ok (some gateway)),
            .probed gateway pings (deadline pings) (.ok (some times)),
            .noted (.probed gateway times.avg times.mdev (times.avg + times.mdev))], s₂⟩

theorem measuring_measure (host : Host σ) (pings : UInt32) (s : σ) :
    Measuring host pings s (measure host pings s) := by
  rcases hlookup : host.defaultGateway s with ⟨failure | _ | gateway, s₁⟩ <;>
    rw [measure, Action.bind_apply, Host.lookUpGateway, Action.ask_apply hlookup]
  · exact .lookupFailed hlookup
  · exact .unrouted hlookup
  · rcases hprobe : host.probe gateway pings (deadline pings) s₁ with ⟨failure | _ | times, s₂⟩ <;>
      simp only [Action.bind_apply, Host.sendProbe, Action.ask_apply hprobe]
    · exact .probeFailed hlookup hprobe
    · exact .unreachable hlookup hprobe
    · exact .measured hlookup hprobe

end Latency

/-! ## What the tools leave -/

open NetworkManager

namespace Toolbox

variable {τ : Type} (tools : Toolbox τ)

/-- The default routes are shown with success, and they lead via a gateway. -/
def Routed (s : τ) (gateway : String) : Prop :=
  ∃ routes, tools.Leaves showDefaultRoutes s routes ∧ routes.status = .code 0
    ∧ Route.FirstVia routes.text gateway

/-- The routes lead via a gateway, and its probe runs to its end and leaves figures. -/
def Measured (pings : UInt32) (s : τ) (f : Figures) : Prop :=
  ∃ gateway output, tools.Routed s gateway
    ∧ tools.Leaves (sendEchoes gateway pings (deadline pings))
        (execute tools showDefaultRoutes s).2 output
    ∧ RoundTrip.Summarizes output.text f

end Toolbox

namespace NetworkManager

variable {τ : Type} {tools : Toolbox τ} {profile gateway : String} {pings : UInt32} {s : τ}
  {times : RoundTrip}

theorem execute_eq_ok_iff {c : Command} {o : Output} :
    (execute tools c s).1 = .ok o ↔ tools.Leaves c s o := by
  rw [execute, Toolbox.Leaves]
  cases c.isSound with
  | false => simp
  | true =>
      rw [if_pos rfl]
      show (tools.execute c s).1.mapError _ = _ ↔ _
      cases (tools.execute c s).1 <;> simp [Except.mapError]

theorem executeForText_eq_ok_iff {c : Command} {text : String} :
    (executeForText tools c s).1 = .ok text ↔
      ∃ o, tools.Leaves c s o ∧ o.status = .code 0 ∧ o.text = text := by
  have hanswered := answered_executeForText tools c s
  generalize (executeForText tools c s).1 = answer at hanswered ⊢
  cases hanswered with
  | refused hrefused =>
      refine iff_of_false (fun h => nomatch h) ?_
      rintro ⟨o, ho, -⟩
      exact not_cannotStart_of_leaves ho hrefused
  | failed ho hfailed =>
      refine iff_of_false (fun h => nomatch h) ?_
      rintro ⟨o', ho', hsuccess, -⟩
      rw [leaves_unique ho' ho] at hsuccess
      exact absurd hsuccess hfailed
  | succeeded ho hsuccess =>
      constructor
      · intro h
        exact ⟨_, ho, hsuccess, Except.ok.inj h⟩
      · rintro ⟨o', ho', -, rfl⟩
        rw [leaves_unique ho' ho]

/-- What is read off a text is read off some text. -/
theorem map_eq_ok_iff {α β : Type} {f : α → β} {x : Except Failure α} {b : β} :
    x.map f = .ok b ↔ ∃ a, x = .ok a ∧ f a = b := by
  cases x <;> simp [Except.map]

/-- A look-up finds a gateway exactly if the tools lead via it. -/
theorem defaultGateway_eq_some_iff :
    ((host tools profile).defaultGateway s).1 = .ok (some gateway) ↔ tools.Routed s gateway := by
  show (executeForText tools showDefaultRoutes s).1.map Route.gateway? = _ ↔ _
  rw [map_eq_ok_iff, Toolbox.Routed]
  constructor
  · rintro ⟨text, htext, hgateway⟩
    obtain ⟨routes, hroutes, hsuccess, rfl⟩ := executeForText_eq_ok_iff.1 htext
    exact ⟨routes, hroutes, hsuccess, Route.gateway?_eq_some_iff.1 hgateway⟩
  · rintro ⟨routes, hroutes, hsuccess, hgateway⟩
    exact ⟨routes.text, executeForText_eq_ok_iff.2 ⟨routes, hroutes, hsuccess, rfl⟩,
      Route.gateway?_eq_some_iff.2 hgateway⟩

/-- A probe finds times exactly if it runs to its end and leaves the figures for them. -/
theorem probe_eq_some_iff {deadline : Span} :
    ((host tools profile).probe gateway pings deadline s).1 = .ok (some times) ↔
      ∃ output f, tools.Leaves (sendEchoes gateway pings deadline) s output
        ∧ RoundTrip.Summarizes output.text f ∧ f.times = times := by
  show (execute tools _ s).1.map (fun o : Output => RoundTrip.ofSummary? o.text) = _ ↔ _
  simp only [map_eq_ok_iff, execute_eq_ok_iff, RoundTrip.ofSummary?_eq_some_iff, exists_and_left]

/-- A probe may take one second more than it has echoes. -/
theorem sendEchoes_deadline (gateway : String) (pings : UInt32) :
    sendEchoes gateway pings (deadline pings) =
      ⟨"ping", ["-U", "-c", toString pings.toNat, "-w", toString (pings.toNat + 1), gateway]⟩ := by
  rw [sendEchoes, Span.wholeSeconds, nanos_deadline, Nat.mul_div_cancel _ (by decide)]

/-! ## A measurement with the tools -/

section Tools

variable {f : Figures} {t : Trace τ Float} {reply : Except Failure (Option String)} {s₁ s₂ : τ}

theorem routed_iff_of_lookup (hlookup : (host tools profile).defaultGateway s = (reply, s₁)) :
    tools.Routed s gateway ↔ reply = .ok (some gateway) := by
  rw [← @defaultGateway_eq_some_iff _ _ profile, hlookup]

/-- Without a gateway nothing is measured. -/
theorem not_measured_of_lookup (hlookup : (host tools profile).defaultGateway s = (reply, s₁))
    (hreply : ∀ gateway, reply ≠ .ok (some gateway)) : ¬ tools.Measured pings s f := by
  rintro ⟨gateway, -, hrouted, -⟩
  exact hreply gateway ((routed_iff_of_lookup hlookup).1 hrouted)

/-- With a gateway the times are those that the probe leaves. -/
theorem exists_measured_iff_of_probe {found : Except Failure (Option RoundTrip)}
    (hlookup : (host tools profile).defaultGateway s = (.ok (some gateway), s₁))
    (hprobe : (host tools profile).probe gateway pings (deadline pings) s₁ = (found, s₂)) :
    (∃ f, tools.Measured pings s f ∧ f.times = times) ↔ found = .ok (some times) := by
  obtain rfl : (execute tools showDefaultRoutes s).2 = s₁ := congrArg Prod.snd hlookup
  obtain rfl := congrArg Prod.fst hprobe
  rw [probe_eq_some_iff]
  constructor
  · rintro ⟨f, ⟨gateway', output, hrouted, houtput, hf⟩, htimes⟩
    obtain rfl : gateway = gateway' :=
      Option.some.inj (Except.ok.inj ((routed_iff_of_lookup hlookup).1 hrouted))
    exact ⟨output, f, houtput, hf, htimes⟩
  · rintro ⟨output, f, houtput, hf, htimes⟩
    exact ⟨f, ⟨gateway, output, (routed_iff_of_lookup hlookup).2 rfl, houtput, hf⟩, htimes⟩

/-- A probe without times is no measurement. -/
theorem not_measured_of_probe {found : Except Failure (Option RoundTrip)}
    (hlookup : (host tools profile).defaultGateway s = (.ok (some gateway), s₁))
    (hprobe : (host tools profile).probe gateway pings (deadline pings) s₁ = (found, s₂))
    (hfound : ∀ times, found ≠ .ok (some times)) : ¬ tools.Measured pings s f := by
  intro hf
  exact hfound f.times ((exists_measured_iff_of_probe hlookup hprobe).1 ⟨f, hf, rfl⟩)

/-- A measurement gives the latency that was measured, or else the sentinel. -/
theorem value_of_measuring (h : Measuring (host tools profile) pings s t) :
    (∀ f, tools.Measured pings s f → t.value = f.avg.toFloat + f.mdev.toFloat)
      ∧ ((∀ f, ¬ tools.Measured pings s f) → t.value = sentinel pings) := by
  cases h with
  | lookupFailed hlookup | unrouted hlookup =>
      refine ⟨fun f hf => ?_, fun _ => rfl⟩
      exact absurd hf (not_measured_of_lookup hlookup (fun _ => by simp))
  | probeFailed hlookup hprobe | unreachable hlookup hprobe =>
      refine ⟨fun f hf => ?_, fun _ => rfl⟩
      exact absurd hf (not_measured_of_probe hlookup hprobe (fun _ => by simp))
  | measured hlookup hprobe =>
      constructor
      · intro f hf
        have hfound := (exists_measured_iff_of_probe hlookup hprobe).1 ⟨f, hf, rfl⟩
        rw [Option.some.inj (Except.ok.inj hfound)]
        rfl
      · intro hnone
        obtain ⟨f, hf, -⟩ := (exists_measured_iff_of_probe hlookup hprobe).2 rfl
        exact absurd hf (hnone f)

/-- A measurement notes a probed gateway exactly if it is routed there and measured, with the mean,
the mean deviation and their sum. -/
theorem noted_probed_iff_of_measuring {avg mdev latency : Float}
    (h : Measuring (host tools profile) pings s t) :
    .noted (.probed gateway avg mdev latency) ∈ t.events ↔
      tools.Routed s gateway ∧ ∃ f, tools.Measured pings s f
        ∧ avg = f.avg.toFloat ∧ mdev = f.mdev.toFloat ∧ latency = avg + mdev := by
  cases h with
  | lookupFailed hlookup | unrouted hlookup =>
      refine iff_of_false (by simp) ?_
      rintro ⟨-, f, hf, -⟩
      exact not_measured_of_lookup hlookup (fun _ => by simp) hf
  | probeFailed hlookup hprobe | unreachable hlookup hprobe =>
      refine iff_of_false (by simp) ?_
      rintro ⟨-, f, hf, -⟩
      exact not_measured_of_probe hlookup hprobe (fun _ => by simp) hf
  | measured hlookup hprobe =>
      constructor
      · intro hnoted
        obtain ⟨f, hf, rfl⟩ := (exists_measured_iff_of_probe hlookup hprobe).2 rfl
        simp only [List.mem_cons, List.not_mem_nil, or_false, reduceCtorEq, false_or,
          Event.noted.injEq, Notice.probed.injEq] at hnoted
        obtain ⟨rfl, rfl, rfl, rfl⟩ := hnoted
        exact ⟨(routed_iff_of_lookup hlookup).2 rfl, f, hf, rfl, rfl, rfl⟩
      · rintro ⟨hrouted, f, hf, rfl, rfl, rfl⟩
        obtain rfl := Option.some.inj (Except.ok.inj ((routed_iff_of_lookup hlookup).1 hrouted))
        have hfound := (exists_measured_iff_of_probe hlookup hprobe).1 ⟨f, hf, rfl⟩
        obtain rfl := Option.some.inj (Except.ok.inj hfound)
        exact List.mem_cons_of_mem _ (List.mem_cons_of_mem _ List.mem_cons_self)

/-- The commands behind a measurement: the look-up, and one probe if it finds a gateway. -/
theorem commandsOf_measuring (h : Measuring (host tools profile) pings s t) :
    (∀ gateway, tools.Routed s gateway → commandsOf profile t.events
        = showDefaultRoutes
          :: [sendEchoes gateway pings (deadline pings)].filter (·.isSound))
      ∧ ((∀ gateway, ¬ tools.Routed s gateway) →
        commandsOf profile t.events = [showDefaultRoutes]) := by
  have hsound : showDefaultRoutes.isSound = true := by decide
  cases h with
  | lookupFailed hlookup | unrouted hlookup =>
      refine ⟨fun gateway hrouted => ?_, fun _ => List.filter_cons_of_pos hsound⟩
      exact nomatch (routed_iff_of_lookup hlookup).1 hrouted
  | probeFailed hlookup | unreachable hlookup | measured hlookup =>
      refine ⟨fun gateway hrouted => ?_, fun hnone => ?_⟩
      · obtain rfl := Option.some.inj (Except.ok.inj ((routed_iff_of_lookup hlookup).1 hrouted))
        exact List.filter_cons_of_pos hsound
      · exact absurd ((routed_iff_of_lookup hlookup).2 rfl) (hnone _)

end Tools

/-- **The outputs of the tools decide a measurement.** It gives mean plus mean deviation of the
figures exactly if the default routes are shown with success, a line of them leads via a gateway,
and the probe of that gateway runs to its end, with whatever status, and leaves figures, and these
are what it notes; else it gives the sentinel, two thousand milliseconds for each echo. The gateway
is that of the first line that leads via one. It is probed at most once: not at all without a
gateway, or if its name cannot be handed over. -/
theorem measurement_from_tool_output {τ : Type} (tools : Toolbox τ) (profile : String)
    (pings : UInt32) (s : τ) :
    let run := measure (host tools profile) pings s
    (∀ f, tools.Measured pings s f → run.value = f.avg.toFloat + f.mdev.toFloat)
      ∧ ((∀ f, ¬ tools.Measured pings s f) → run.value = 2.0 * pings.toFloat * 1000.0)
      ∧ (∀ gateway avg mdev latency, .noted (.probed gateway avg mdev latency) ∈ run.events ↔
          tools.Routed s gateway ∧ ∃ f, tools.Measured pings s f
            ∧ avg = f.avg.toFloat ∧ mdev = f.mdev.toFloat ∧ latency = avg + mdev)
      ∧ ((∃ gateway, tools.Routed s gateway) ↔
          ∃ routes, tools.Leaves showDefaultRoutes s routes ∧ routes.status = .code 0
            ∧ ∃ line ∈ Text.lines routes.text.toList, Route.IsDefaultVia line)
      ∧ ∀ log,
        let lookUp : Command := ⟨"ip", ["route", "show", "default"]⟩
        let echoes := fun gateway : String => Command.mk "ping"
          ["-U", "-c", toString pings.toNat, "-w", toString (pings.toNat + 1), gateway]
        let commands := (measure (host tools.logged profile) pings (log, s)).state.1
        (∀ gateway, tools.Routed s gateway →
            commands = log ++ lookUp :: [echoes gateway].filter (·.isSound))
          ∧ ((∀ gateway, ¬ tools.Routed s gateway) → commands = log ++ [lookUp]) := by
  intro run
  have hmeasuring := measuring_measure (host tools profile) pings s
  obtain ⟨hmeasured, hsentinel⟩ := value_of_measuring hmeasuring
  refine ⟨hmeasured, hsentinel, fun gateway avg mdev latency => ?_, ?_, ?_⟩
  · exact noted_probed_iff_of_measuring hmeasuring
  · simp only [← Route.exists_firstVia_iff, Toolbox.Routed]
    constructor
    · rintro ⟨gateway, routes, hroutes, hsuccess, hvia⟩
      exact ⟨routes, hroutes, hsuccess, gateway, hvia⟩
    · rintro ⟨routes, hroutes, hsuccess, gateway, hvia⟩
      exact ⟨gateway, routes, hroutes, hsuccess, hvia⟩
  · intro log lookUp echoes commands
    -- a toolbox with a log leads where it leads without one
    have hcommands : commands = log ++ _ :=
      (respects_log tools profile).measure pings (log, s)
    obtain ⟨hrouted, hunrouted⟩ :=
      commandsOf_measuring (measuring_measure (host tools.logged profile) pings (log, s))
    rw [hcommands]
    refine ⟨fun gateway h => ?_, fun h => ?_⟩
    · rw [hrouted gateway h, sendEchoes_deadline]
      rfl
    · rw [hunrouted h]
      rfl

end NetworkManager

end Roaming
