import SdioFat32.Core.TimerClock

/-!
# Delay — how long `delay_timer` waits

The counter of a delay of `ms` milliseconds runs over after `ms * (PSC + 1)` cycles of the timer
clock, whatever the prescaler is.  For `ms ≤ 1` the reload value is 0, the counter is blocked, and
the delay does not end.
-/

namespace SdioFat32
namespace Core

open Effects Proc Relation Cells

/-! ## One cycle -/

namespace Tim2

variable {p : BitVec 16} {a : BitVec 32} {t : Tim2}

/-- What a cycle does while the counter is enabled. -/
inductive Ticked (t t' : Tim2) : Prop where
  | prescaled (hprescale : t.prescale ≠ t.pscActive)
      (h : t' = { t with elapsed := t.elapsed + 1, prescale := t.prescale + 1#16 })
  | blocked (hprescale : t.prescale = t.pscActive) (harr : t.arrActive = 0#32)
      (h : t' = { t with elapsed := t.elapsed + 1, prescale := 0#16 })
  | advanced (hprescale : t.prescale = t.pscActive) (hcnt : t.cnt ≠ t.arrActive)
      (h : t' = { t with elapsed := t.elapsed + 1, prescale := 0#16, cnt := t.cnt + 1#32 })
  | expired (hprescale : t.prescale = t.pscActive) (harr : t.arrActive ≠ 0#32)
      (hcnt : t.cnt = t.arrActive)
      (h : t' = { t.update with
        elapsed := t.elapsed + 1, waited := t.waited.or (some (t.elapsed + 1)) })

theorem ticked (hcen : t.cr1 &&& timerCr1Cen ≠ 0#32) : Ticked t t.tick := by
  unfold tick count advance
  rw [if_neg hcen]
  dsimp only
  split
  · next hprescale =>
    split
    · next harr => exact .blocked hprescale harr rfl
    · next harr =>
      split
      · next hcnt => exact .expired hprescale harr hcnt rfl
      · next hcnt => exact .advanced hprescale hcnt rfl
  · next hprescale => exact .prescaled hprescale rfl

/-- The counter runs, with the prescaler `p` and the reload value `a`. -/
structure Armed (p : BitVec 16) (a : BitVec 32) (t : Tim2) : Prop where
  cr1 : t.cr1 = timerCr1Arpe ||| timerCr1Cen
  psc : t.psc = p
  pscActive : t.pscActive = p
  arr : t.arr = a
  arrActive : t.arrActive = a

theorem Armed.ticked (h : t.Armed p a) : Ticked t t.tick := by
  apply Tim2.ticked
  rw [h.cr1]
  decide

theorem Armed.tick (h : t.Armed p a) : t.tick.Armed p a := by
  cases h.ticked with
  | prescaled _ ht =>
      rw [ht]
      exact ⟨h.cr1, h.psc, h.pscActive, h.arr, h.arrActive⟩
  | blocked _ _ ht =>
      rw [ht]
      exact ⟨h.cr1, h.psc, h.pscActive, h.arr, h.arrActive⟩
  | advanced _ _ ht =>
      rw [ht]
      exact ⟨h.cr1, h.psc, h.pscActive, h.arr, h.arrActive⟩
  | expired _ _ _ ht =>
      -- An update event takes over the registers, which hold the same values.
      rw [ht]
      exact ⟨h.cr1, h.psc, h.psc, h.arr, h.arr⟩

/-! ## A reload value of 0 -/

/-- The counter is blocked before its first update event. -/
structure Blocked (p : BitVec 16) (t : Tim2) : Prop extends t.Armed p 0#32 where
  uif : t.uif = false

theorem Blocked.tick (h : t.Blocked p) : t.tick.Blocked p := by
  refine ⟨h.toArmed.tick, ?_⟩
  cases h.toArmed.ticked with
  | prescaled _ ht =>
      rw [ht]
      exact h.uif
  | blocked _ _ ht =>
      rw [ht]
      exact h.uif
  | advanced _ _ ht =>
      rw [ht]
      exact h.uif
  | expired _ harr _ _ => exact absurd h.arrActive harr

/-! ## The count -/

/-- The cycles up to the update event. -/
def period (p : BitVec 16) (a : BitVec 32) : Nat := (a.toNat + 1) * (p.toNat + 1)

/-- The counter counts, or it has run over. -/
structure Running (p : BitVec 16) (a : BitVec 32) (t : Tim2) : Prop extends t.Armed p a where
  cnt : t.uif = false → t.cnt.toNat ≤ a.toNat
  prescale : t.uif = false → t.prescale.toNat ≤ p.toNat
  elapsed : t.uif = false → t.elapsed = t.cnt.toNat * (p.toNat + 1) + t.prescale.toNat
  pending : t.uif = false → t.waited = none
  expired : t.uif = true → t.waited = some (period p a)

theorem Running.elapsed_lt (h : t.Running p a) (huif : t.uif = false) : t.elapsed < period p a := by
  have hcnt : t.cnt.toNat * (p.toNat + 1) ≤ a.toNat * (p.toNat + 1) :=
    Nat.mul_le_mul_right _ (h.cnt huif)
  have hprescale := h.prescale huif
  calc t.elapsed = t.cnt.toNat * (p.toNat + 1) + t.prescale.toNat := h.elapsed huif
    _ ≤ a.toNat * (p.toNat + 1) + p.toNat := Nat.add_le_add hcnt hprescale
    _ < a.toNat * (p.toNat + 1) + (p.toNat + 1) := by omega
    _ = period p a := by
      unfold period
      ring

/-- A count below its limit goes up by one. -/
theorem toNat_succ_of_lt {w : Nat} {x y : BitVec w} (hle : x.toNat ≤ y.toNat) (hne : x ≠ y) :
    (x + 1#w).toNat = x.toNat + 1 ∧ x.toNat + 1 ≤ y.toNat := by
  have hlt : x.toNat < y.toNat := by
    refine Nat.lt_of_le_of_ne hle fun h => hne ?_
    exact BitVec.eq_of_toNat_eq h
  have hy := y.isLt
  refine ⟨?_, hlt⟩
  rw [BitVec.toNat_add, BitVec.toNat_ofNat, Nat.add_mod_mod, Nat.mod_eq_of_lt (by omega)]

/-- A cycle keeps the count, and is counted. -/
theorem Running.tick (ha : a ≠ 0#32) (h : t.Running p a) :
    t.tick.Running p a ∧
      (t.tick.uif = false → t.uif = false ∧ t.tick.elapsed = t.elapsed + 1) := by
  have harmed := h.toArmed.tick
  cases h.toArmed.ticked with
  | prescaled hprescale ht =>
      rw [h.pscActive] at hprescale
      rw [ht] at harmed ⊢
      refine ⟨⟨harmed, h.cnt, fun huif => ?_, fun huif => ?_, h.pending, h.expired⟩,
        fun huif => ⟨huif, rfl⟩⟩
      · rcases toNat_succ_of_lt (h.prescale huif) hprescale with ⟨hsucc, hle⟩
        exact hsucc.trans_le hle
      · rcases toNat_succ_of_lt (h.prescale huif) hprescale with ⟨hsucc, -⟩
        show t.elapsed + 1 = t.cnt.toNat * (p.toNat + 1) + (t.prescale + 1#16).toNat
        rw [hsucc, h.elapsed huif, Nat.add_assoc]
  | blocked _ harr _ => exact absurd (h.arrActive.symm.trans harr) ha
  | advanced hprescale hcnt ht =>
      rw [h.pscActive] at hprescale
      rw [h.arrActive] at hcnt
      rw [ht] at harmed ⊢
      refine ⟨⟨harmed, fun huif => ?_, fun _ => Nat.zero_le _, fun huif => ?_, h.pending,
        h.expired⟩, fun huif => ⟨huif, rfl⟩⟩
      · rcases toNat_succ_of_lt (h.cnt huif) hcnt with ⟨hsucc, hle⟩
        exact hsucc.trans_le hle
      · rcases toNat_succ_of_lt (h.cnt huif) hcnt with ⟨hsucc, -⟩
        -- The prescaler has run through: `p + 1` cycles make one step of the counter.
        calc t.elapsed + 1 = t.cnt.toNat * (p.toNat + 1) + p.toNat + 1 := by
              rw [h.elapsed huif, hprescale]
          _ = (t.cnt.toNat + 1) * (p.toNat + 1) + 0 := by ring
          _ = (t.cnt + 1#32).toNat * (p.toNat + 1) + (0#16).toNat := by
              rw [hsucc]
              rfl
  | expired hprescale _ hcnt ht =>
      rw [h.pscActive] at hprescale
      rw [h.arrActive] at hcnt
      rw [ht] at harmed ⊢
      have hset : ∀ {P : Prop}, true = false → P := fun huif => Bool.noConfusion huif
      refine ⟨⟨harmed, hset, hset, hset, hset, fun _ => ?_⟩, hset⟩
      cases huif : t.uif with
      | false =>
          -- The first update event since the counter was enabled.
          show t.waited.or (some (t.elapsed + 1)) = some (period p a)
          rw [h.pending huif, h.elapsed huif, hprescale, hcnt]
          unfold period
          exact congrArg some (by ring)
      | true =>
          show t.waited.or (some (t.elapsed + 1)) = some (period p a)
          rw [h.expired huif]
          rfl

end Tim2

/-! ## The loop -/

section Loop

variable {D : Board → Prop} {p : BitVec 16} {a : BitVec 32} {g : Unit} {s : Board} {fuel : Nat}

theorem stable_blocked : Stable Cycle fun s => s.tim.Blocked p := by
  rintro s _ rfl hblocked
  exact hblocked.tick

/-- An update event stays to be seen. -/
theorem stable_over (ha : a ≠ 0#32) :
    Stable Cycle fun s => s.tim.Running p a ∧ s.tim.uif = true := by
  rintro s _ rfl ⟨hrunning, huif⟩
  rcases hrunning.tick ha with ⟨hnext, hcount⟩
  refine ⟨hnext, ?_⟩
  cases hset : s.tick.tim.uif with
  | false => exact Bool.noConfusion ((hcount hset).1.symm.trans huif)
  | true => rfl

/-- A poll of a timer that is blocked does not see an update event. -/
theorem wp_pollUpdate_blocked (h : s.tim.Blocked p) :
    (pollUpdate ()).wp timerHardware D
      (fun r _ s' => r.elim (fun _ => s'.tim.Blocked p) fun _ => False) g s := by
  refine wp_bind.2 (wp_readSr fun s₁ v hcycles hv => ?_)
  have hblocked := (stable_blocked.turns hcycles h).tick
  rw [if_pos (hv.2 hblocked.uif)]
  exact hblocked

/-- A poll that sees no update event was made a cycle later than the one before. -/
theorem wp_pollUpdate (ha : a ≠ 0#32) (h : s.tim.Running p a) :
    (pollUpdate ()).wp timerHardware D
      (fun r _ s' => s'.tim.Running p a ∧
        r.elim (fun _ => s'.tim.uif = false ∧ s.tim.elapsed < s'.tim.elapsed)
          fun _ => s'.tim.uif = true) g s := by
  have hstable : Stable Cycle fun s' => s'.tim.Running p a ∧
      (s'.tim.uif = false → s.tim.elapsed ≤ s'.tim.elapsed) := by
    rintro s₁ _ rfl ⟨hrunning, hlater⟩
    rcases hrunning.tick ha with ⟨hnext, hcount⟩
    refine ⟨hnext, fun hnone => ?_⟩
    rcases hcount hnone with ⟨hnone₁, helapsed⟩
    exact (hlater hnone₁).trans (Nat.le.intro helapsed.symm)
  refine wp_bind.2 (wp_readSr fun s₁ v hcycles hv => ?_)
  rcases hstable.turns hcycles ⟨h, fun _ => Nat.le_refl _⟩ with ⟨hrunning, hlater⟩
  -- Reading `SR` takes a cycle, and shows the flag after it.
  rcases hrunning.tick ha with ⟨hnext, hcount⟩
  cases hset : s₁.tick.tim.uif with
  | false =>
      rw [if_pos (hv.2 hset)]
      rcases hcount hset with ⟨hnone₁, helapsed⟩
      refine ⟨hnext, hset, ?_⟩
      exact (Nat.lt_succ_of_le (hlater hnone₁)).trans_eq helapsed.symm
  | true =>
      have hne : v &&& timerSrUif ≠ 0#32 := by
        intro hzero
        exact Bool.noConfusion (hset.symm.trans (hv.1 hzero))
      rw [if_neg hne]
      exact ⟨hnext, hset⟩

/-- The loop is left after the update event. -/
theorem wp_polls (hcut : ∀ s, D s) (ha : a ≠ 0#32) (h : s.tim.Running p a)
    (huif : s.tim.uif = false) :
    (iter pollUpdate fuel ()).wp timerHardware D
      (fun _ _ s' => s'.tim.Running p a ∧ s'.tim.uif = true) g s := by
  refine wp_iter (fun _ _ s => s.tim.Running p a ∧ s.tim.uif = false) ?_
    (fun _ _ s _ => hcut s) fuel ⟨h, huif⟩
  rintro _ g s ⟨hrunning, -⟩
  refine wp_mono (wp_pollUpdate ha hrunning) ?_
  rintro (_ | _) _ s' ⟨hnext, hpoll⟩
  · exact ⟨hnext, hpoll.1⟩
  · exact ⟨hnext, hpoll⟩

/-- It is left before there were more polls than cycles. -/
theorem wp_polls_total (ha : a ≠ 0#32) (hfuel : Tim2.period p a < fuel)
    (h : s.tim.Running p a) (huif : s.tim.uif = false) :
    (iter pollUpdate fuel ()).wp timerHardware D
      (fun _ _ s' => s'.tim.Running p a ∧ s'.tim.uif = true) g s := by
  refine wp_iter_total (fun _ _ s => s.tim.Running p a ∧ s.tim.uif = false)
    (fun _ _ s => Tim2.period p a - s.tim.elapsed) ?_ fuel ⟨h, huif⟩
    (Nat.lt_of_le_of_lt (Nat.sub_le _ _) hfuel)
  rintro _ g s ⟨hrunning, hnone⟩
  refine wp_mono (wp_pollUpdate ha hrunning) ?_
  rintro (_ | _) _ s' ⟨hnext, hpoll⟩
  · rcases hpoll with ⟨hnone', hlater⟩
    exact ⟨⟨hnext, hnone'⟩, Nat.sub_lt_sub_left (hrunning.elapsed_lt hnone) hlater⟩
  · exact ⟨hnext, hpoll⟩

/-- With a reload value of 0 it is not left. -/
theorem wp_polls_blocked (hcut : ∀ s, D s) (h : s.tim.Blocked p) :
    (iter pollUpdate fuel ()).wp timerHardware D (fun _ _ _ => False) g s := by
  refine wp_iter (fun _ _ s => s.tim.Blocked p) ?_ (fun _ _ s _ => hcut s) fuel h
  rintro _ g s hblocked
  refine wp_mono (wp_pollUpdate_blocked hblocked) ?_
  rintro (_ | _) _ s' hpoll
  · exact hpoll
  · exact hpoll

end Loop

/-! ## `delay_timer` -/

section Delay

variable {D : Board → Prop} {p : BitVec 16} {ms : BitVec 32} {g : Unit} {s : Board} {fuel : Nat}

/-- The value written to `ARR`. -/
def reloadValue (ms : BitVec 32) : BitVec 32 := if ms ≠ 0#32 then ms - 1#32 else 0#32

theorem toNat_reloadValue : (reloadValue ms).toNat = ms.toNat - 1 := by
  unfold reloadValue
  split
  · next hne =>
    have hle : 1#32 ≤ ms := by
      refine BitVec.le_def.2 (Nat.pos_of_ne_zero fun hzero => hne ?_)
      exact BitVec.eq_of_toNat_eq hzero
    rw [BitVec.toNat_sub_of_le hle]
    rfl
  · next hzero =>
    rw [not_not.1 hzero]
    rfl

theorem reloadValue_eq_zero_iff : reloadValue ms = 0#32 ↔ ms.toNat < 2 := by
  rw [← BitVec.toNat_inj, toNat_reloadValue, BitVec.toNat_ofNat]
  omega

theorem period_reloadValue (hms : 2 ≤ ms.toNat) :
    Tim2.period p (reloadValue ms) = ms.toNat * (p.toNat + 1) := by
  unfold Tim2.period
  rw [toNat_reloadValue, Nat.sub_add_cancel (Nat.le_of_succ_le hms)]

/-- The timer as the counter is enabled. -/
structure Tim2.Started (p : BitVec 16) (a : BitVec 32) (t : Tim2) : Prop extends t.Armed p a where
  uif : t.uif = false
  cnt : t.cnt = 0#32
  prescale : t.prescale = 0#16
  elapsed : t.elapsed = 0
  waited : t.waited = none

theorem Tim2.Started.running {a : BitVec 32} {t : Tim2} (h : t.Started p a) : t.Running p a := by
  have hset : ∀ {P : Prop}, t.uif = true → P := fun huif => Bool.noConfusion (h.uif.symm.trans huif)
  refine ⟨h.toArmed, fun _ => ?_, fun _ => ?_, fun _ => ?_, fun _ => h.waited, hset⟩
  · rw [h.cnt]
    exact Nat.zero_le _
  · rw [h.prescale]
    exact Nat.zero_le _
  · rw [h.elapsed, h.cnt, h.prescale]
    exact (Nat.zero_mul _).symm

theorem Tim2.Started.blocked {t : Tim2} (h : t.Started p 0#32) : t.Blocked p :=
  ⟨h.toArmed, h.uif⟩

/-- The timer after the writes that lead up to the loop. -/
def Tim2.start (t : Tim2) (a : BitVec 32) : Tim2 :=
  ((((((t.put .cr1 (t.cr1 &&& ~~~timerCr1Cen)).put .arr a).put .cnt 0#32).update).put .sr 0#32).put
    .cr1 (t.cr1 &&& ~~~timerCr1Cen ||| timerCr1Cen))

theorem Tim2.Ready.started {a : BitVec 32} {t : Tim2} (h : t.Ready p) :
    (t.start a).Started p a := by
  have hcr1 : t.cr1 &&& ~~~timerCr1Cen ||| timerCr1Cen = timerCr1Arpe ||| timerCr1Cen := by
    rw [h.cr1]
    decide
  have hstarts : t.cr1 &&& ~~~timerCr1Cen &&& timerCr1Cen = 0#32 ∧
      (t.cr1 &&& ~~~timerCr1Cen ||| timerCr1Cen) &&& timerCr1Cen ≠ 0#32 := by
    rw [h.cr1]
    decide
  refine ⟨⟨hcr1, h.psc, h.psc, rfl, rfl⟩, ?_, rfl, rfl, if_pos hstarts, if_pos hstarts⟩
  show (true && decide (0#32 &&& timerSrUif ≠ 0#32)) = false
  decide

/-- What leads up to the loop enables the counter; what follows it disables the counter. -/
theorem wp_delayTimer_of_loop (hready : s.tim.Ready p)
    (hloop : ∀ g s₁, s₁.tim.Started p (reloadValue ms) →
      (iter pollUpdate fuel ()).wp timerHardware D (fun _ _ s' => 2 ≤ ms.toNat ∧
        s'.tim.Running p (reloadValue ms) ∧ s'.tim.uif = true) g s₁) :
    (delayTimer fuel ms).wp timerHardware D
      (fun _ _ s' => 2 ≤ ms.toNat ∧ s'.tim.Ready p ∧
        s'.tim.waited = some (ms.toNat * (p.toNat + 1))) g s := by
  have hoff : s.tim.cr1 &&& ~~~timerCr1Cen &&& timerCr1Cen = 0#32 := by
    rw [hready.cr1]
    decide
  refine wp_bind.2 (wp_clearCr1 (stable_disabled hready.cen) rfl ?_)
  rintro _ _ rfl rfl
  refine wp_bind.2 (wp_writeTimer_idle hoff ?_)
  refine wp_bind.2 (wp_writeTimer_idle hoff ?_)
  refine wp_bind.2 (wp_writeTimer_idle hoff ?_)
  rw [Board.put_egr]
  refine wp_bind.2 (wp_writeTimer_idle hoff ?_)
  refine wp_bind.2 (wp_setCr1_idle hoff ?_)
  refine wp_seq (hloop _ _ hready.started) ?_
  rintro _ g₁ s₁ ⟨hms, hrunning, huif⟩
  have ha : reloadValue ms ≠ 0#32 := mt reloadValue_eq_zero_iff.1 (Nat.not_lt.2 hms)
  -- The counter still runs when `CR1` is read and written back.
  refine wp_bind.2 (wp_clearCr1 (stable_over ha) ⟨hrunning, huif⟩ ?_)
  rintro s₂ s₃ ⟨hrunning₂, -⟩ ⟨hrunning₃, huif₃⟩
  rw [hrunning₂.cr1]
  have hcr1 : (timerCr1Arpe ||| timerCr1Cen) &&& ~~~timerCr1Cen = timerCr1Arpe := by decide
  have hoff₃ : (timerCr1Arpe ||| timerCr1Cen) &&& ~~~timerCr1Cen &&& timerCr1Cen = 0#32 := by decide
  refine wp_writeTimer_idle hoff₃ ⟨hms, ⟨hcr1, hrunning₃.psc, hrunning₃.pscActive⟩, ?_⟩
  have hkept : ¬(s₃.tim.cr1 &&& timerCr1Cen = 0#32 ∧
      (timerCr1Arpe ||| timerCr1Cen) &&& ~~~timerCr1Cen &&& timerCr1Cen ≠ 0#32) :=
    fun h => h.2 hoff₃
  calc (if _ then none else s₃.tim.waited) = s₃.tim.waited := if_neg hkept
    _ = some (Tim2.period p (reloadValue ms)) := hrunning₃.expired huif₃
    _ = some (ms.toNat * (p.toNat + 1)) := by rw [period_reloadValue hms]

/-- A delay that ends has waited for `ms * (p + 1)` cycles. -/
theorem wp_delayTimer (hcut : ∀ s, D s) (hready : s.tim.Ready p) :
    (delayTimer fuel ms).wp timerHardware D
      (fun _ _ s' => 2 ≤ ms.toNat ∧ s'.tim.Ready p ∧
        s'.tim.waited = some (ms.toNat * (p.toNat + 1))) g s := by
  refine wp_delayTimer_of_loop hready fun g s₁ hstarted => ?_
  by_cases ha : reloadValue ms = 0#32
  · rw [ha] at hstarted
    exact wp_mono (wp_polls_blocked hcut hstarted.blocked) fun _ _ _ hfalse => hfalse.elim
  · refine wp_mono (wp_polls hcut ha hstarted.running hstarted.uif) fun _ _ s' hover => ?_
    exact ⟨Nat.not_lt.1 (mt reloadValue_eq_zero_iff.2 ha), hover⟩

/-- Delays from 2 ms on end. -/
theorem wp_delayTimer_total (hms : 2 ≤ ms.toNat) (hfuel : ms.toNat * (p.toNat + 1) < fuel)
    (hready : s.tim.Ready p) :
    (delayTimer fuel ms).wp timerHardware D
      (fun _ _ s' => 2 ≤ ms.toNat ∧ s'.tim.Ready p ∧
        s'.tim.waited = some (ms.toNat * (p.toNat + 1))) g s := by
  refine wp_delayTimer_of_loop hready fun g s₁ hstarted => ?_
  have ha : reloadValue ms ≠ 0#32 := mt reloadValue_eq_zero_iff.1 (Nat.not_lt.2 hms)
  rw [← period_reloadValue hms] at hfuel
  exact wp_mono (wp_polls_total ha hfuel hstarted.running hstarted.uif) fun _ _ s' hover =>
    ⟨hms, hover⟩

end Delay

/-! ## Delays after `init_timer` -/

/-- Delays one after the other. -/
def delays (fuel : Nat) : List (BitVec 32) → TimerProc Unit
  | [] => return ()
  | ms :: rest => do
      delayTimer fuel ms
      delays fuel rest

/-- `init_timer`, and then the delays `earlier`. -/
def timerSession (fuel : Nat) (earlier : List (BitVec 32)) : TimerProc Unit := do
  initTimer
  delays fuel earlier

/-- After `init_timer`, and any delays since then, `delay_timer(ms)` ends, and it does so after
exactly `cycles` cycles of the timer clock. -/
structure DelaysExactly (s : Board) (ms : BitVec 32) (cycles : Nat) : Prop where
  returns : ∀ fuel earlier s₁,
    Runs timerHardware (timerSession fuel earlier ()) s ((), ()) s₁ →
      ∃ bound, ∀ fuel', bound ≤ fuel' →
        ∀ s', ¬Reaches timerHardware (delayTimer fuel' ms ()) s₁ .spin s'
  waits : ∀ fuel earlier s₁,
    Runs timerHardware (timerSession fuel earlier ()) s ((), ()) s₁ →
      ∀ fuel' s', Runs timerHardware (delayTimer fuel' ms ()) s₁ ((), ()) s' →
        s'.tim.waited = some cycles

section Sessions

variable {D : Board → Prop} {p : BitVec 16} {ms : BitVec 32} {g : Unit} {s s₁ : Board} {fuel : Nat}
  {cycles : Nat} {earlier : List (BitVec 32)}

theorem wp_delays (hcut : ∀ s, D s) (hready : s.tim.Ready p) :
    (delays fuel earlier).wp timerHardware D (fun _ _ s' => s'.tim.Ready p) g s := by
  induction earlier generalizing s g with
  | nil => exact hready
  | cons ms rest ih =>
      refine wp_seq (wp_delayTimer hcut hready) ?_
      rintro _ g₁ s₁ ⟨-, hready₁, -⟩
      exact ih hready₁

/-- The prescaler stays what `init_timer` made it. -/
theorem ready_of_session (hsettled : s.clock.sws = s.clock.regs.sw)
    (hrun : Runs timerHardware (timerSession fuel earlier ()) s ((), ()) s₁) :
    s₁.tim.Ready (s.clock.regs.timerPsc s.clock.regs.sw) := by
  have hwp : (timerSession fuel earlier).wp timerHardware (fun _ => True)
      (fun _ _ s' => s'.tim.Ready (s.clock.regs.timerPsc s.clock.regs.sw)) () s :=
    wp_seq (wp_initTimer hsettled) fun _ _ _ hready => wp_delays (fun _ => trivial) hready
  exact wp_runs hwp hrun

/-- The delay that is asked for directly after `init_timer`. -/
theorem exists_session (hsettled : s.clock.sws = s.clock.regs.sw) :
    ∃ s₁, Runs timerHardware (timerSession 0 [] ()) s ((), ()) s₁ := by
  have hwp : (timerSession 0 []).wp timerHardware (fun _ => False) (fun _ _ _ => True) () s :=
    wp_seq (wp_initTimer hsettled) fun _ _ _ _ => trivial
  rcases exists_run hwp timerHardware_live with ⟨_, _, s₁, hrun, -⟩
  exact ⟨s₁, hrun⟩

/-- How long the delays are is a matter of the prescaler alone. -/
theorem delaysExactly_iff_prescaler (hsettled : s.clock.sws = s.clock.regs.sw) :
    DelaysExactly s ms cycles ↔ 2 ≤ ms.toNat ∧
      ms.toNat * ((s.clock.regs.timerPsc s.clock.regs.sw).toNat + 1) = cycles := by
  constructor
  · intro h
    rcases exists_session hsettled with ⟨s₁, hrun⟩
    have hready := ready_of_session hsettled hrun
    rcases h.returns _ _ s₁ hrun with ⟨bound, hreturns⟩
    -- A run of the delay from here: it returns, and so it has waited.
    rcases Prog.returns_or_spins timerHardware_live (delayTimer bound ms ()) s₁ with
      ⟨⟨_, _⟩, s', hdelay⟩ | ⟨s', hspin⟩
    · rcases wp_runs (wp_delayTimer (fun _ => trivial) hready) hdelay with ⟨hms, -, hwaited⟩
      refine ⟨hms, Option.some.inj ?_⟩
      exact hwaited.symm.trans (h.waits _ _ s₁ hrun bound s' hdelay)
    · exact absurd hspin (hreturns bound (Nat.le_refl _) s')
  · rintro ⟨hms, rfl⟩
    refine ⟨fun fuel earlier s₁ hrun => ?_, fun fuel earlier s₁ hrun fuel' s' hdelay => ?_⟩
    · have hready := ready_of_session hsettled hrun
      refine ⟨ms.toNat * ((s.clock.regs.timerPsc s.clock.regs.sw).toNat + 1) + 1,
        fun fuel' hfuel s' => ?_⟩
      exact Prog.wp_not_spin (wp_delayTimer_total hms (Nat.lt_of_succ_le hfuel) hready)
    · have hready := ready_of_session hsettled hrun
      exact (wp_runs (wp_delayTimer (fun _ => trivial) hready) hdelay).2.2

end Sessions

/-! ## The clocks -/

/-- The clock selected is in use, and the prescalers are those of the enumerators. -/
structure ClockConfigured (s : ClockState) (ahb : RccAhbPresc) (apb1 : RccApbPresc) : Prop where
  settled : s.sws = s.regs.sw
  ahb : field s.regs.cfgr 4 4 = ahb.code.setWidth 32
  apb1 : field s.regs.cfgr 10 3 = apb1.code.setWidth 32

/-- This is what a successful `setup_system_config_rcc` leaves. -/
theorem ClocksSet.configured {pll : RccPllConfig} {ahb : RccAhbPresc} {apb1 apb2 : RccApbPresc}
    {rtc : RccRtcPresc} {s : ClockState}
    (h : ClocksSet pll (RccBusConfig.of ahb apb1 apb2 rtc) s) : ClockConfigured s ahb apb1 := by
  have hfits := RccBusConfig.fits_of ahb apb1 apb2 rtc
  rcases h.cfgr with ⟨ρ, hρ⟩
  refine ⟨h.sws.trans h.sw.symm, ?_, ?_⟩
  · rw [hρ]
    exact ClockRegs.field_ahb_divide hfits
  · rw [hρ]
    exact ClockRegs.field_apb1_divide hfits

/-- With a timer clock of `n` kHz, delays after `init_timer` take `n` cycles for each millisecond
exactly when they are not of 1 ms (or none), a millisecond fits the 16 bits of `PSC`, and the
clock is reported as it is. -/
theorem delayTimer_exact_iff {s : Board} {ahb : RccAhbPresc} {apb1 : RccApbPresc} {ms : BitVec 32}
    {n : Nat} (hconf : ClockConfigured s.clock ahb apb1)
    (hclock : s.clock.regs.timerClock ahb apb1 = 1000 * n) :
    DelaysExactly s ms (ms.toNat * n) ↔
      2 ≤ ms.toNat ∧ 0 < n ∧ n ≤ 65536 ∧ ahb.divisor ≤ 16 ∧
        (s.clock.regs.sw = pllSelected →
          s.clock.regs.pllm ∣ s.clock.regs.pllSource ∧
            s.clock.regs.pllSource / s.clock.regs.pllm * s.clock.regs.plln < 2 ^ 32) := by
  rw [delaysExactly_iff_prescaler hconf.settled]
  refine and_congr_right fun hms => ?_
  rw [← ClockRegs.timerPsc_exact_iff hconf.ahb hconf.apb1 hclock]
  exact Nat.mul_right_inj (Nat.ne_of_gt (Nat.lt_of_succ_le hms).pos)

/-- TIM2 after reset. -/
def Tim2.reset : Tim2 where
  cr1 := 0#32
  uif := false
  cnt := 0#32
  prescale := 0#16
  psc := 0#16
  pscActive := 0#16
  arr := 0xFFFFFFFF#32
  arrActive := 0xFFFFFFFF#32
  elapsed := 0
  waited := none

/-- A second at the 16 MHz after reset. -/
theorem delayTimer_exact_reset :
    DelaysExactly { clock := resetState, tim := Tim2.reset } 1000#32 (1000 * 16000) := by
  have hclock : resetState.regs.timerClock .notDiv .notDiv = 1000 * (16000 : Nat) := by
    show (16000000 / (1 : Nat) / (1 : Nat) * 1 : ℚ) = 1000 * (16000 : Nat)
    norm_num
  have hconf : ClockConfigured resetState .notDiv .notDiv := ⟨by decide, by decide, by decide⟩
  refine (delayTimer_exact_iff (s := { clock := resetState, tim := Tim2.reset }) hconf hclock).2 ?_
  exact ⟨by decide, by decide, by decide, by decide, fun hpll => absurd hpll (by decide)⟩

/-- The clocks that `init_rcc` sets up: 168 MHz, and 84 MHz for TIM2. -/
def mainClock : ClockState where
  regs := { pllcfgr := 0x07405419#32, cfgr := 0x00199402#32, acr := 0x5#32 }
  cr := 0x03010083#32
  sws := pllSelected

/-- With these a second takes 18464000 cycles, which is 220 ms. -/
theorem delayTimer_84MHz_short :
    ClockConfigured mainClock .notDiv .div4 ∧
      mainClock.regs.timerClock .notDiv .div4 = 1000 * (84000 : Nat) ∧
      DelaysExactly { clock := mainClock, tim := Tim2.reset } 1000#32 (1000 * 18464) ∧
      ¬DelaysExactly { clock := mainClock, tim := Tim2.reset } 1000#32 (1000 * 84000) := by
  have hconf : ClockConfigured mainClock .notDiv .div4 := ⟨by decide, by decide, by decide⟩
  have hsysclk : mainClock.regs.exactSysclk =
      ((25000000 : Nat) * (336 : Nat) / ((25 : Nat) * (2 : Nat)) : ℚ) := rfl
  have hclock : mainClock.regs.timerClock .notDiv .div4 = 1000 * (84000 : Nat) := by
    unfold ClockRegs.timerClock
    rw [hsysclk]
    show (_ / (1 : Nat) / (4 : Nat) * 2 : ℚ) = 1000 * (84000 : Nat)
    norm_num
  -- 83999 in 16 bits is 18463.
  have hpsc : (mainClock.regs.timerPsc mainClock.regs.sw).toNat + 1 = 18464 := by decide +kernel
  have hiff : ∀ n, DelaysExactly { clock := mainClock, tim := Tim2.reset } 1000#32 (1000 * n) ↔
      n = 18464 := by
    intro n
    rw [delaysExactly_iff_prescaler hconf.settled]
    show 2 ≤ 1000 ∧ 1000 * ((mainClock.regs.timerPsc mainClock.regs.sw).toNat + 1) = 1000 * n ↔ _
    rw [hpsc]
    omega
  refine ⟨hconf, hclock, (hiff 18464).2 rfl, ?_⟩
  rw [hiff]
  decide

end Core
end SdioFat32
