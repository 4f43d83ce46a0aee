import SdioFat32.Effects.Avoid
import SdioFat32.Driver.StoringCard
import SdioFat32.Driver.Erase

/-!
# StartError — a run without a start bit error is a run of the steady card

A start bit error ends a transfer without an error of the driver.  Its flag stays up: what the
block functions write to `ICR` are the command flags, the data flags, and what `ICR` itself shows,
and none of these holds `STBITERR`.  So a run in whose last state the flag is down had no such error
at any time.

* `sparing` — what the functions do with `ICR`;
* `complies_readMultiBlockSd`, `complies_writeMultiBlockSd`, `complies_eraseSd` — they keep to it;
* `signs_startError` — under it the flag lasts.
-/

namespace SdioFat32
namespace Driver

open Effects Cells Proc Relation

/-! ## What is written to `ICR` -/

/-- Nothing written to `ICR` clears `STBITERR`; a read of it shows no flag of the path. -/
def sparing : Env SdioEvent SdioEvent.Response Unit where
  req _ e :=
    match e with
    | .write .icr v => v &&& sdioStaStbiterr = 0#32
    | _ => True
  step _ e r _ :=
    match e, r with
    | .read .icr, (v : BitVec 32) => v &&& pathFlags = 0#32
    | _, _ => True

variable {fuel : Nat} {cmds : BitVec 32 → Prop}

theorem complies_clearFlagSdio {flag : BitVec 32} (hflag : flag &&& sdioStaStbiterr = 0#32) :
    (clearFlagSdio flag).Complies sparing := by
  refine fun g => ⟨trivial, ?_⟩
  rintro (v : BitVec 32) _ hv
  have hnone : v &&& sdioStaStbiterr = 0#32 := by
    have hpart : pathFlags &&& sdioStaStbiterr = sdioStaStbiterr := by decide
    calc v &&& sdioStaStbiterr = v &&& (pathFlags &&& sdioStaStbiterr) := by rw [hpart]
      _ = v &&& pathFlags &&& sdioStaStbiterr := (BitVec.and_assoc ..).symm
      _ = 0#32 := by rw [hv, BitVec.zero_and]
  refine ⟨?_, fun _ _ _ => trivial⟩
  show (v ||| flag) &&& sdioStaStbiterr = 0#32
  rw [BitVec.and_comm, and_or_left, BitVec.and_comm, hnone, BitVec.and_comm, hflag, BitVec.or_zero]

theorem complies_clearDataFlags :
    (clearFlagsSdio sdioMaskStaticDataFlags).Complies sparing :=
  complies_perform (by decide : sdioMaskStaticDataFlags &&& sdioStaStbiterr = 0#32)

theorem complies_clearCmdFlags : (clearFlagsSdio sdioMaskStaticCmdFlags).Complies sparing :=
  complies_perform (by decide : sdioMaskStaticCmdFlags &&& sdioStaStbiterr = 0#32)

/-- Conversations keep to it. -/
theorem sparing_survives :
    Survives cmds sparing (fun _ => True) fun _ => True where
  remark s e _ he := by
    refine ⟨?_, fun _ _ _ => trivial⟩
    cases e with
    | write reg v =>
        cases reg with
        | icr => exact he.elim
        | _ => trivial
    | _ => trivial
  clears g _ _ := complies_clearFlagSdio (by decide) g
  cut _ _ := trivial

theorem complies_cmdResp1Error {cs : CardStatus} : (cmdResp1Error fuel cs).Complies sparing := by
  have hsurvives : Survives StatusCommand sparing (fun _ => True) fun _ => True := sparing_survives
  exact fun _ => hsurvives.wp_cmdResp1Error trivial

theorem complies_sendStatusSd {cs : CardStatus} : (sendStatusSd fuel cs).Complies sparing :=
  fun _ => sparing_survives.wp_sendStatusSd trivial

theorem complies_waitCardReady : (waitCardReady fuel).Complies sparing :=
  fun _ => sparing_survives.wp_waitCardReady trivial

theorem complies_stopTransmission : (stopTransmission fuel).Complies sparing := by
  intro g
  have hclear : ∀ g s, True → (clearFlagsSdio sdioMaskStaticDataFlags).wp sparing
      (fun _ => True) (fun _ _ _ => True) g s := fun g _ _ => complies_clearDataFlags g
  exact wp_mono (sparing_survives.wp_stopTransmission hclear trivial) fun _ _ _ _ => trivial

theorem complies_sendCommandSdio {command arg formatResp : BitVec 32} :
    (sendCommandSdio command arg formatResp).Complies sparing :=
  (complies_perform trivial).bind fun _ => complies_perform trivial

theorem complies_exitTests : ∀ tests : List (BitVec 32 × Int),
    (exitTests tests).Complies sparing
  | [] => complies_pure _
  | (flag, error) :: tests => by
      refine (complies_perform trivial).bind fun sta => complies_ite ?_ (complies_exitTests tests)
      exact complies_clearDataFlags.bind fun _ => complies_pure _

theorem complies_sdioConfigData {dataControl length timeout : BitVec 32} :
    (sdioConfigData dataControl length timeout).Complies sparing :=
  (complies_perform trivial).bind fun _ =>
    (complies_perform trivial).bind fun _ => complies_perform trivial

theorem complies_polling {α : Type} {p : SdProc α} (hp : p.Emits Polling True) :
    p.Complies sparing := by
  refine hp.complies ?_
  intro e he
  cases e with
  | write reg v =>
      cases reg with
      | icr => exact he.elim
      | _ => trivial
  | _ => trivial

/-! ## The block functions -/

theorem complies_txFinish : (txFinish fuel).Complies sparing := by
  refine (complies_exitTests _).bind fun status => complies_ite (complies_pure _) ?_
  exact complies_clearDataFlags.bind fun _ => complies_waitCardReady

theorem complies_writeSingleBlockSd {data size address timeout : BitVec 32} :
    (writeSingleBlockSd fuel data size address timeout).Complies sparing := by
  refine complies_ite (complies_pure _) (complies_globals.bind fun g => ?_)
  refine (complies_perform trivial).bind fun _ => complies_waitCardReady.bind fun status => ?_
  refine complies_ite (complies_pure _) (complies_sdioConfigData.bind fun _ => ?_)
  refine complies_sendCommandSdio.bind fun _ => complies_cmdResp1Error.bind ?_
  rintro ⟨status, cs⟩
  refine complies_ite (complies_pure _) ?_
  exact (complies_polling emits_txLoop).bind fun _ => complies_txFinish

theorem complies_writeMultiBlockSd {data countBlocks address timeout : BitVec 32} :
    (writeMultiBlockSd fuel data countBlocks address timeout).Complies sparing := by
  refine complies_ite (complies_ite complies_writeSingleBlockSd (complies_pure _)) ?_
  refine complies_globals.bind fun g => (complies_perform trivial).bind fun _ => ?_
  refine complies_sdioConfigData.bind fun _ => complies_sendCommandSdio.bind fun _ => ?_
  refine complies_cmdResp1Error.bind ?_
  rintro ⟨status, cs⟩
  refine complies_ite (complies_clearCmdFlags.bind fun _ => complies_pure _) ?_
  refine (complies_polling emits_txLoop).bind fun _ => complies_stopTransmission.bind ?_
  exact fun status => complies_ite (complies_pure _) complies_txFinish

theorem complies_readSingleBlockSd {buffer size address timeout : BitVec 32} :
    (readSingleBlockSd fuel buffer size address timeout).Complies sparing := by
  refine complies_ite (complies_pure _) ((complies_perform trivial).bind fun _ => ?_)
  refine complies_globals.bind fun g => complies_sendCommandSdio.bind fun _ => ?_
  refine complies_cmdResp1Error.bind ?_
  rintro ⟨status, cs⟩
  refine complies_ite (complies_pure _) (complies_sdioConfigData.bind fun _ => ?_)
  refine (complies_polling emits_rxSingle).bind fun addr => (complies_exitTests _).bind ?_
  refine fun status => complies_ite (complies_pure _) ?_
  refine (complies_polling emits_rxSingleDrain).bind fun _ => ?_
  exact complies_clearDataFlags.bind fun _ => complies_waitCardReady

theorem complies_readMultiBlockSd {buffer countBlocks address timeout : BitVec 32} :
    (readMultiBlockSd fuel buffer countBlocks address timeout).Complies sparing := by
  refine complies_ite (complies_ite complies_readSingleBlockSd (complies_pure _)) ?_
  refine complies_globals.bind fun g => (complies_perform trivial).bind fun _ => ?_
  refine complies_sdioConfigData.bind fun _ => complies_sendCommandSdio.bind fun _ => ?_
  refine complies_cmdResp1Error.bind ?_
  rintro ⟨status, cs⟩
  refine complies_ite (complies_pure _) ((complies_polling emits_rxMulti).bind fun st => ?_)
  refine complies_stopTransmission.bind fun status => complies_ite (complies_pure _) ?_
  refine (complies_exitTests _).bind fun status => complies_ite (complies_pure _) ?_
  refine (complies_polling emits_rxMultiDrain).bind fun _ => complies_clearDataFlags.bind ?_
  exact fun _ => (complies_perform trivial).bind fun _ => complies_waitCardReady

/-! ## The erase -/

theorem complies_sdPrepareForErase : (sdPrepareForErase fuel).Complies sparing := by
  refine complies_sendStatusSd.bind ?_
  rintro ⟨status, cs⟩
  refine complies_ite (complies_pure _) (complies_globals.bind fun g => ?_)
  refine complies_ite (complies_sendCommandSdio.bind fun _ => ?_) (complies_pure _)
  exact complies_waitCardReady.bind fun status => complies_ite (complies_pure _) (complies_pure _)

theorem complies_sendEraseCommand {command arg : BitVec 32} :
    (sendEraseCommand fuel command arg).Complies sparing := by
  refine complies_sendCommandSdio.bind fun _ => complies_cmdResp1Error.bind ?_
  rintro ⟨status, cs⟩
  exact complies_ite (complies_clearDataFlags.bind fun _ => complies_pure _) (complies_pure _)

theorem complies_eraseSd {addressStart addressEnd : BitVec 32} :
    (eraseSd fuel addressStart addressEnd).Complies sparing := by
  refine complies_sdPrepareForErase.bind fun status => complies_ite (complies_pure _) ?_
  refine (complies_perform trivial).bind fun _ => complies_globals.bind fun g => ?_
  refine complies_ite (complies_pure _) (complies_ite (complies_pure _) ?_)
  refine complies_waitCardReady.bind fun status => complies_ite (complies_pure _) ?_
  refine complies_sendEraseCommand.bind fun status => complies_ite (complies_pure _) ?_
  refine complies_sendEraseCommand.bind fun status => complies_ite (complies_pure _) ?_
  refine complies_sendEraseCommand.bind fun status => complies_ite (complies_pure _) ?_
  refine complies_clearDataFlags.bind fun _ => (complies_perform trivial).bind fun _ => ?_
  exact complies_waitCardReady

/-! ## The flag lasts -/

variable {byteAddressed : Bool} {s s' : CardState}

/-- The sign of a start bit error. -/
def StartError (s : CardState) : Prop := hasFlag s.flags sdioStaStbiterr = true

theorem goes_or_startError (h : Goes rxEndFlags s s') : StartError s' ∨ Proceeds s s' := by
  cases h with
  | word hreceiving hroom => exact Or.inr (.word hreceiving hroom)
  | lost hreceiving hfull => exact Or.inr (.lost hreceiving hfull)
  | consume hsending hmore hsingle => exact Or.inr (.consume hsending hmore hsingle)
  | store hsending hblock => exact Or.inr (.store hsending hblock)
  | finish henabled htransfer hcomplete => exact Or.inr (.finish henabled htransfer hcomplete)
  | fault raised henabled hraised =>
      cases hstart : hasFlag raised sdioStaStbiterr with
      | true =>
          refine Or.inl ?_
          rw [StartError, hasFlag_left_or, hstart, Bool.or_true]
      | false =>
          refine Or.inr (.fault raised henabled ?_)
          rw [hasFlag_or, hraised, hstart]
          rfl

theorem StartError.drift (h : StartError s) (hdrift : ReflTransGen (Goes rxEndFlags) s s') :
    StartError s' := by
  induction hdrift with
  | refl => exact h
  | tail _ hstep ih => exact hstep.hasFlag_mono ih

theorem drift_or_startError (hdrift : ReflTransGen (Goes rxEndFlags) s s') :
    StartError s' ∨ ReflTransGen Proceeds s s' := by
  induction hdrift with
  | refl => exact Or.inr .refl
  | tail _ hstep ih =>
      rcases ih with hstart | hsteady
      · exact Or.inl (hstep.hasFlag_mono hstart)
      · rcases goes_or_startError hstep with hstart | hproceeds
        · exact Or.inl hstart
        · exact Or.inr (hsteady.tail hproceeds)

theorem StartError.clear {v : BitVec 32} (h : StartError s) (hv : v &&& sdioStaStbiterr = 0#32) :
    StartError { s with flags := s.flags &&& ~~~v } :=
  (hasFlag_clear hv (by decide) s.flags).trans h

/-- Of the events of the program only a write to `ICR` touches the flags. -/
theorem StartError.step {e : SdioEvent} {r : e.Response} (h : StartError s)
    (hcontract : sparing.req () e) (hstep : (storingCard byteAddressed).step s e r s') :
    StartError s' := by
  obtain ⟨s₁, hdrift, heffect⟩ := hstep
  have h₁ := h.drift hdrift
  cases e with
  | sta site => exact heffect.2 ▸ h₁
  | read reg =>
      cases reg with
      | fifo =>
          obtain ⟨rx, hpops, rfl⟩ := heffect
          unfold RxState.Pops at hpops
          split at hpops
          · exact hpops ▸ h₁
          · exact hpops.2 ▸ h₁
      | icr => exact heffect.2 ▸ h₁
      | _ => exact heffect ▸ h₁
  | write reg v =>
      cases reg with
      | icr => exact heffect ▸ h₁.clear hcontract
      | cmd =>
          obtain ⟨transfer, rfl, _⟩ := heffect
          exact h₁
      | fifo =>
          have hpush : s' = s₁.push v := heffect
          rw [hpush, CardState.push]
          split
          · exact h₁
          · exact h₁
      | _ => exact heffect ▸ h₁
  | load addr => exact heffect.2 ▸ h₁
  | _ => exact heffect ▸ h₁

/-- A start bit error leaves `STBITERR`. -/
theorem signs_startError :
    Signs sparing (steadyCard byteAddressed) (storingCard byteAddressed) StartError where
  answers s e r s' hstep := by
    obtain ⟨s₁, _, heffect⟩ := hstep
    cases e with
    | read reg =>
        cases reg with
        | icr => exact heffect.1
        | _ => trivial
    | _ => trivial
  lasts _ _ _ _ hcontract hstep h := h.step hcontract hstep
  leaves s e r s' hcontract hstep := by
    obtain ⟨s₁, hdrift, heffect⟩ := hstep
    rcases drift_or_startError hdrift with hstart | hsteady
    · exact Or.inl (hstart.step hcontract ⟨s₁, .refl, heffect⟩)
    · exact Or.inr ⟨s₁, hsteady, heffect⟩

/-- The fewer flags are spared, the more the card can do. -/
theorem Goes.spare {spared spared' : BitVec 32} (h : Goes spared s s')
    (hspared : ∀ raised, hasFlag raised spared = false → hasFlag raised spared' = false) :
    Goes spared' s s' := by
  cases h with
  | word hreceiving hroom => exact .word hreceiving hroom
  | lost hreceiving hfull => exact .lost hreceiving hfull
  | consume hsending hmore hsingle => exact .consume hsending hmore hsingle
  | store hsending hblock => exact .store hsending hblock
  | fault raised henabled hraised => exact .fault raised henabled (hspared raised hraised)
  | finish henabled htransfer hcomplete => exact .finish henabled htransfer hcomplete

/-- The steady card does nothing that the storing card does not. -/
theorem storing_of_steady {e : SdioEvent} {r : e.Response}
    (hstep : (steadyCard byteAddressed).step s e r s') :
    (storingCard byteAddressed).step s e r s' := by
  have hgoes : ∀ s s', Proceeds s s' → Goes rxEndFlags s s' :=
    fun _ _ h => h.spare fun _ hraised => (fault_apart hraised).1
  obtain ⟨s₁, hdrift, heffect⟩ := hstep
  exact ⟨s₁, ReflTransGen.mono hgoes _ _ hdrift, heffect⟩

end Driver
end SdioFat32
