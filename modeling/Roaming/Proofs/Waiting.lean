import Mathlib.Algebra.Order.Floor.Div
import Roaming.Wait

/-!
# Waits that can be called off

A wait sleeps slice by slice until its deadline. The clock may go on by itself and a slice may last
longer than it was to, but a clock that is *steady* never goes back, and it goes on by every slice
that is slept. So with every look at the flag the deadline comes nearer by a whole slice, or it has
come (`exists_course`): that the deadline is at most so many slices away is the measure of the loop.

What a wait does is seen on a clock that logs what it is asked (`Clock.logged`). The log follows a
grammar of three rules (`Course`), and what can be said of each slice is read off the grammar. The
main statement is `wait_comes_to_its_deadline`.
-/

namespace Roaming.Wait

/-- Something that a wait did. -/
inductive Look where
  /-- It read the flag. -/
  | flag (wanted : Bool)
  /-- It read the clock. -/
  | reading (now : Nat)
  /-- It slept a slice. -/
  | slept (length : Span)
deriving DecidableEq

/-- The slices that were slept, in their order. -/
def sleptOf (looks : List Look) : List Span :=
  looks.filterMap fun
    | .slept length => some length
    | _ => none

variable {τ : Type}

/-- A clock that logs what is asked of it. -/
def Clock.logged (clock : Clock τ) : Clock (List Look × τ) where
  now s := ((clock.now s.2).1, s.1 ++ [.reading (clock.now s.2).1], (clock.now s.2).2)
  isWanted s := ((clock.isWanted s.2).1, s.1 ++ [.flag (clock.isWanted s.2).1],
    (clock.isWanted s.2).2)
  sleep length s := (s.1 ++ [.slept length], clock.sleep length s.2)

/-- The time of a machine never goes back, a reading of its clock is the time of the reading, and
sleep lasts at least as long as it was to. -/
structure Clock.Steady (clock : Clock τ) (time : τ → Nat) : Prop where
  isWanted : ∀ s, time s ≤ time (clock.isWanted s).2
  le_now : ∀ s, time s ≤ (clock.now s).1
  now_le : ∀ s, (clock.now s).1 ≤ time (clock.now s).2
  sleep : ∀ length s, time s + length.nanos ≤ time (clock.sleep length s)

/-! ## What a wait does -/

/-- The next slice of a wait. -/
def nextSlice (deadline now : Nat) : Span :=
  ⟨min slice.nanos (deadline - now)⟩

/-- The slices of a wait and what it does, from its first look at the flag: it finds the flag
cleared, it finds the deadline come, or it sleeps until then, though no longer than a slice. -/
inductive Course (deadline : Nat) : List Span → List Look → Prop
  | calledOff : Course deadline [] [.flag false]
  | due {now : Nat} (hcome : deadline ≤ now) : Course deadline [] [.flag true, .reading now]
  | next {now : Nat} {slices : List Span} {looks : List Look} (hnow : now < deadline)
      (hrest : Course deadline slices looks) :
      Course deadline (nextSlice deadline now :: slices)
        (.flag true :: .reading now :: .slept (nextSlice deadline now) :: looks)

theorem nanos_slice : slice.nanos = 250000000 := rfl

theorem nextSlice_spec {deadline now : Nat} (hnow : now < deadline) :
    0 < (nextSlice deadline now).nanos ∧ (nextSlice deadline now).nanos ≤ slice.nanos
      ∧ now + (nextSlice deadline now).nanos ≤ deadline := by
  have hslice := nanos_slice
  simp only [nextSlice]
  omega

namespace Course

variable {deadline : Nat} {slices : List Span} {looks before after : List Look} {length : Span}

/-- The slices are those that were slept. -/
theorem sleptOf_eq (h : Course deadline slices looks) : sleptOf looks = slices := by
  induction h with
  | calledOff | due => rfl
  | next hnow hrest ih => exact congrArg (_ :: ·) ih

/-- A wait does nothing after it has found the flag cleared. -/
theorem eq_nil_of_cleared (h : Course deadline slices looks)
    (hlooks : looks = before ++ .flag false :: after) : after = [] := by
  induction h generalizing before with
  | calledOff =>
      obtain ⟨-, -, rfl⟩ | ⟨rest, -, hrest⟩ := List.cons_eq_append_iff.1 hlooks
      · rfl
      · simp at hrest
  | due hcome =>
      rcases before with _ | ⟨_, _ | ⟨_, _ | ⟨_, before⟩⟩⟩ <;> simp at hlooks
  | next hnow hrest ih =>
      rcases before with _ | ⟨_, _ | ⟨_, _ | ⟨_, before⟩⟩⟩ <;> simp at hlooks
      exact ih hlooks.2.2.2

/-- A slice is slept after the flag and the clock were read. The deadline has not come by then, and
the slice does not reach past it. -/
theorem of_slept (h : Course deadline slices looks)
    (hlooks : looks = before ++ .slept length :: after) :
    ∃ front now, before = front ++ [.flag true, .reading now] ∧ now < deadline
      ∧ 0 < length.nanos ∧ length.nanos ≤ slice.nanos ∧ now + length.nanos ≤ deadline := by
  induction h generalizing before with
  | calledOff => rcases before with _ | ⟨_, _ | ⟨_, before⟩⟩ <;> simp at hlooks
  | due hcome => rcases before with _ | ⟨_, _ | ⟨_, _ | ⟨_, before⟩⟩⟩ <;> simp at hlooks
  | @next now slices looks hnow hrest ih =>
      rcases before with _ | ⟨_, _ | ⟨_, _ | ⟨_, before⟩⟩⟩ <;> simp at hlooks
      · obtain ⟨rfl, rfl, rfl, -⟩ := hlooks
        exact ⟨[], now, rfl, hnow, nextSlice_spec hnow⟩
      · obtain ⟨rfl, rfl, rfl, hlater⟩ := hlooks
        obtain ⟨front, later, rfl, hslice⟩ := ih hlater
        exact ⟨_ :: _ :: _ :: front, later, rfl, hslice⟩

end Course

/-! ## The loop -/

section Loop

variable {clock : Clock τ} {time : τ → Nat} {deadline now looks : Nat} {log : List Look}
  {s s₁ s₂ : τ}

/-! A look at the flag finds it cleared, or it is followed by a reading of the clock, by which the
deadline has come or has not. -/

theorem untilDeadline_of_cleared (hflag : clock.isWanted s = (false, s₁)) :
    untilDeadline clock deadline (looks + 1) s = ⟨[], true, s₁⟩ := by
  simp [untilDeadline, hflag]

theorem untilDeadline_of_due (hflag : clock.isWanted s = (true, s₁))
    (hreading : clock.now s₁ = (now, s₂)) (hcome : deadline ≤ now) :
    untilDeadline clock deadline (looks + 1) s = ⟨[], true, s₂⟩ := by
  simp [untilDeadline, hflag, hreading, hcome]

theorem untilDeadline_of_next (hflag : clock.isWanted s = (true, s₁))
    (hreading : clock.now s₁ = (now, s₂)) (hnow : now < deadline) :
    untilDeadline clock deadline (looks + 1) s =
      let rest := untilDeadline clock deadline looks (clock.sleep (nextSlice deadline now) s₂)
      ⟨nextSlice deadline now :: rest.slices, rest.ended, rest.state⟩ := by
  simp [untilDeadline, hflag, hreading, hnow, nextSlice]

theorem isWanted_logged {wanted : Bool} (hflag : clock.isWanted s = (wanted, s₁)) :
    clock.logged.isWanted (log, s) = (wanted, log ++ [.flag wanted], s₁) := by
  simp [Clock.logged, hflag]

theorem now_logged (hreading : clock.now s = (now, s₁)) :
    clock.logged.now (log, s) = (now, log ++ [.reading now], s₁) := by
  simp [Clock.logged, hreading]

theorem sleep_logged (length : Span) :
    clock.logged.sleep length (log, s) = (log ++ [.slept length], clock.sleep length s) := rfl

/-- Logging changes nothing but the log. -/
theorem untilDeadline_logged (clock : Clock τ) (deadline looks : Nat) (log : List Look) (s : τ) :
    untilDeadline clock deadline looks s =
      let waited := untilDeadline clock.logged deadline looks (log, s)
      ⟨waited.slices, waited.ended, waited.state.2⟩ := by
  induction looks generalizing log s with
  | zero => rfl
  | succ looks ih =>
      rcases hflag : clock.isWanted s with ⟨_ | _, s₁⟩
      · rw [untilDeadline_of_cleared hflag, untilDeadline_of_cleared (isWanted_logged hflag)]
      · rcases hreading : clock.now s₁ with ⟨now, s₂⟩
        rcases Nat.lt_or_ge now deadline with hnow | hcome
        · rw [untilDeadline_of_next hflag hreading hnow,
            untilDeadline_of_next (isWanted_logged hflag) (now_logged hreading) hnow,
            ih (log ++ [.flag true] ++ [.reading now] ++ [.slept (nextSlice deadline now)])]
          rfl
        · rw [untilDeadline_of_due hflag hreading hcome,
            untilDeadline_of_due (isWanted_logged hflag) (now_logged hreading) hcome]

/-- A wait that has ended by itself does no more, however often it may look. -/
theorem untilDeadline_of_ended (h : (untilDeadline clock deadline looks s).ended = true)
    (more : Nat) :
    untilDeadline clock deadline (looks + more) s = untilDeadline clock deadline looks s := by
  induction looks generalizing s with
  | zero => exact nomatch h
  | succ looks ih =>
      rw [Nat.succ_add]
      rcases hflag : clock.isWanted s with ⟨_ | _, s₁⟩
      · rw [untilDeadline_of_cleared hflag, untilDeadline_of_cleared hflag]
      · rcases hreading : clock.now s₁ with ⟨now, s₂⟩
        rcases Nat.lt_or_ge now deadline with hnow | hcome
        · rw [untilDeadline_of_next hflag hreading hnow] at h
          rw [untilDeadline_of_next hflag hreading hnow, untilDeadline_of_next hflag hreading hnow,
            ih h]
        · rw [untilDeadline_of_due hflag hreading hcome, untilDeadline_of_due hflag hreading hcome]

theorem Clock.Steady.of_flag {wanted : Bool} (hclock : clock.Steady time)
    (hflag : clock.isWanted s = (wanted, s₁)) : time s ≤ time s₁ := by
  have hle := hclock.isWanted s
  rw [hflag] at hle
  exact hle

theorem Clock.Steady.of_reading (hclock : clock.Steady time)
    (hreading : clock.now s = (now, s₁)) : time s ≤ now ∧ now ≤ time s₁ := by
  have hle := hclock.le_now s
  have hge := hclock.now_le s
  rw [hreading] at hle hge
  exact ⟨hle, hge⟩

/-- **One look**: it ends the wait, and unless it found the flag cleared the deadline has come. Or
the deadline has not come yet, and the next slice is slept. -/
theorem look_cases (hclock : clock.Steady time) (deadline : Nat) (log : List Look) (s : τ) :
    (∃ taken s', Course deadline [] taken ∧ (.flag false ∉ taken → deadline ≤ time s')
        ∧ ∀ looks, untilDeadline clock.logged deadline (looks + 1) (log, s)
          = ⟨[], true, log ++ taken, s'⟩)
      ∨ ∃ now s', now < deadline ∧ time s ≤ now
        ∧ now + (nextSlice deadline now).nanos ≤ time s'
        ∧ ∀ looks, untilDeadline clock.logged deadline (looks + 1) (log, s) =
          let rest := untilDeadline clock.logged deadline looks
            (log ++ [.flag true, .reading now, .slept (nextSlice deadline now)], s')
          ⟨nextSlice deadline now :: rest.slices, rest.ended, rest.state⟩ := by
  rcases hflag : clock.isWanted s with ⟨_ | _, s₁⟩
  · exact .inl ⟨_, s₁, .calledOff, by simp,
      fun _ => untilDeadline_of_cleared (isWanted_logged hflag)⟩
  · rcases hreading : clock.now s₁ with ⟨now, s₂⟩
    have hwanted := hclock.of_flag hflag
    obtain ⟨hle, hge⟩ := hclock.of_reading hreading
    rcases Nat.lt_or_ge now deadline with hnow | hcome
    · have hslept := hclock.sleep (nextSlice deadline now) s₂
      refine .inr ⟨now, clock.sleep (nextSlice deadline now) s₂, hnow, by omega, by omega, ?_⟩
      intro looks
      rw [untilDeadline_of_next (isWanted_logged hflag) (now_logged hreading) hnow, sleep_logged]
      simp only [List.append_assoc, List.cons_append, List.nil_append]
    · refine .inl ⟨_, s₂, .due hcome, fun _ => hcome.trans hge, fun looks => ?_⟩
      rw [untilDeadline_of_due (isWanted_logged hflag) (now_logged hreading) hcome,
        List.append_assoc]
      rfl

/-- **A wait whose deadline is at most `bound` slices away ends after as many slices.** Unless it
finds the flag cleared, its deadline has come by then. -/
theorem exists_course (hclock : clock.Steady time) (bound : Nat) (log : List Look) (s : τ)
    (hbound : deadline ≤ time s + bound * slice.nanos) :
    ∃ slices taken s', Course deadline slices taken
      ∧ untilDeadline clock.logged deadline (bound + 1) (log, s) = ⟨slices, true, log ++ taken, s'⟩
      ∧ slices.length ≤ bound
      ∧ (.flag false ∉ taken → deadline ≤ time s') := by
  induction bound generalizing log s with
  | zero =>
      rcases look_cases hclock deadline log s with
        ⟨taken, s', hcourse, hcome, hend⟩ | ⟨now, s', hnow, hle, -⟩
      · exact ⟨[], taken, s', hcourse, hend 0, Nat.le_refl 0, hcome⟩
      · omega
  | succ bound ih =>
      rcases look_cases hclock deadline log s with
        ⟨taken, s', hcourse, hcome, hend⟩ | ⟨now, s₁, hnow, hle, hslept, hnext⟩
      · exact ⟨[], taken, s', hcourse, hend _, Nat.zero_le _, hcome⟩
      · -- the slice brings the deadline nearer by a whole slice, or the deadline comes
        have hnearer : deadline ≤ time s₁ + bound * slice.nanos := by
          rw [Nat.succ_mul] at hbound
          simp only [nextSlice] at hslept
          omega
        obtain ⟨slices, taken, s', hcourse, hend, hlength, hcome⟩ := ih _ s₁ hnearer
        refine ⟨_, _, s', .next hnow hcourse, ?_, Nat.succ_le_succ hlength, ?_⟩
        · rw [hnext, hend, List.append_assoc]
          rfl
        · intro hwait
          exact hcome fun hmem => hwait (by simp [hmem])

end Loop

/-- A length of time is no longer than its slices. -/
theorem le_slicesIn_mul (length : Span) : length.nanos ≤ slicesIn length * slice.nanos := by
  have hceil : length.nanos ≤ slice.nanos • (length.nanos ⌈/⌉ slice.nanos) :=
    le_smul_ceilDiv (by decide)
  rw [Nat.ceilDiv_eq_add_pred_div, smul_eq_mul, Nat.mul_comm] at hceil
  exact hceil

/-- **A wait comes to its deadline.** Take a clock that is steady and a length of time such that the
clock can show the deadline. Whatever the flag says, the wait ends, after no more slices than fit in
the length of time, and it does the same however many looks it is allowed beyond that. Each slice is
slept after a reading of the clock before the deadline; it is longer than nothing, no longer than
250 ms, and does not reach past the deadline. Nothing is done after the flag was found cleared. If
it never was, the deadline has come. -/
theorem wait_comes_to_its_deadline (clock : Clock τ) (time : τ → Nat) (hclock : clock.Steady time)
    (length : Span) (s : τ) {deadline : Nat}
    (hdeadline : deadline? (clock.now s).1 length = some deadline) :
    ∃ waited looks, wait clock.logged length ([], s) = some waited
      ∧ wait clock length s = some ⟨waited.slices, true, waited.state.2⟩
      ∧ (∀ allowed, slicesIn length < allowed →
        waitWithin clock allowed length s = wait clock length s)
      ∧ deadline = (clock.now s).1 + length.nanos
      ∧ waited.slices.length ≤ length.nanos ⌈/⌉ (Span.ofMillis 250).nanos
      ∧ waited.state.1 = .reading (clock.now s).1 :: looks
      ∧ waited.slices = sleptOf looks
      ∧ (∀ before next after, looks = before ++ .slept next :: after →
        ∃ front now, before = front ++ [.flag true, .reading now] ∧ now < deadline
          ∧ 0 < next.nanos ∧ next.nanos ≤ (Span.ofMillis 250).nanos
          ∧ now + next.nanos ≤ deadline)
      ∧ (∀ before after, looks = before ++ .flag false :: after → after = [])
      ∧ (.flag false ∉ looks → deadline ≤ time waited.state.2) := by
  rcases hreading : clock.now s with ⟨now, s₁⟩
  have hshown : deadline? now length = some deadline := by
    rw [hreading] at hdeadline
    exact hdeadline
  have heq : now + length.nanos = deadline := by
    rw [deadline?] at hshown
    split_ifs at hshown
    exact Option.some.inj hshown
  obtain ⟨-, hle⟩ := hclock.of_reading hreading
  have hbound : deadline ≤ time s₁ + slicesIn length * slice.nanos := by
    have hlength := le_slicesIn_mul length
    omega
  obtain ⟨slices, looks, s', hcourse, hend, hlength, hcome⟩ :=
    exists_course hclock (slicesIn length) [.reading now] s₁ hbound
  have hplain : untilDeadline clock deadline (slicesIn length + 1) s₁ = ⟨slices, true, s'⟩ := by
    rw [untilDeadline_logged clock deadline _ [.reading now], hend]
  have hwait : ∀ allowed, waitWithin clock allowed length s
      = some (untilDeadline clock deadline allowed s₁) := by
    intro allowed
    simp [waitWithin, hreading, hshown]
  refine ⟨⟨slices, true, [.reading now] ++ looks, s'⟩, looks, ?_, ?_, ?_, heq.symm, hlength, rfl,
    hcourse.sleptOf_eq.symm, ?_, ?_, hcome⟩
  · rw [wait, waitWithin, now_logged hreading, ← hend]
    show (deadline? now length).map _ = _
    rw [hshown]
    rfl
  · rw [wait, hwait, hplain]
  · intro allowed hallowed
    obtain ⟨more, rfl⟩ := Nat.exists_eq_add_of_le hallowed
    rw [wait, hwait, hwait]
    refine congrArg some (untilDeadline_of_ended ?_ more)
    rw [hplain]
  · intro before next after hlooks
    exact hcourse.of_slept hlooks
  · intro before after hlooks
    exact hcourse.eq_nil_of_cleared hlooks

/-- On a clock that oversleeps by 1 ms each time, 600 ms are two whole slices and 98 ms. -/
theorem wait_of_late_clock :
    let clock : Clock Nat :=
      ⟨fun time => (time, time), fun time => (true, time),
        fun length time => time + length.nanos + 1000000⟩
    let length : Span := .ofMillis 600
    clock.Steady id ∧ deadline? 1000000000 length = some 1600000000
      ∧ wait clock length 1000000000
        = some ⟨[.ofMillis 250, .ofMillis 250, .ofMillis 98], true, 1601000000⟩
      ∧ ∃ waited, wait clock.logged length ([], 1000000000) = some waited
        ∧ waited.slices.length ≤ length.nanos ⌈/⌉ (Span.ofMillis 250).nanos := by
  intro clock length
  have hclock : clock.Steady id := by
    refine ⟨fun _ => Nat.le_refl _, fun _ => Nat.le_refl _, fun _ => Nat.le_refl _, ?_⟩
    intro length time
    show time + length.nanos ≤ time + length.nanos + 1000000
    omega
  have hdeadline : deadline? 1000000000 length = some 1600000000 := by decide
  have hslices : wait clock length 1000000000
      = some ⟨[.ofMillis 250, .ofMillis 250, .ofMillis 98], true, 1601000000⟩ := by
    simp [wait, waitWithin, deadline?, isReading, slicesIn, untilDeadline, clock, length, slice,
      Span.ofMillis]
  obtain ⟨waited, -, hlogged, -, -, -, hlength, -⟩ :=
    wait_comes_to_its_deadline clock id hclock length 1000000000 hdeadline
  exact ⟨hclock, hdeadline, hslices, waited, hlogged, hlength⟩

end Roaming.Wait
