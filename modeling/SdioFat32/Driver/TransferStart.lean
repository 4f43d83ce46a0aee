import SdioFat32.Driver.TransferEnd

/-!
# TransferStart — from the start of a call to its polling loop

`DCTRL` is set to 0, which parks the data path.  Then the path is armed and the data command sent,
or the command sent and the path armed.
-/

namespace SdioFat32
namespace Driver

open Effects Cells Proc Relation

/-- Memory and the card are as they were. -/
def AsBefore (mem : Memory 32 (BitVec 8)) (card : Nat → BitVec 8) : Frame :=
  fun mem' card' => mem' = mem ∧ card' = card

/-- The path is disabled; it has a part in no transfer but `t`. -/
structure Parked (mem : Memory 32 (BitVec 8)) (card : Nat → BitVec 8) (t : DataTransfer)
    (s : CardState) : Prop extends RestsWith (AsBefore mem card) s where
  disabled : s.enabled = false
  transfer : s.transfer = none ∨ s.transfer = some t

/-- The path was configured for `length` bytes, and nothing was read from the FIFO or written to
it since. -/
structure Underway (mem : Memory 32 (BitVec 8)) (card : Nat → BitVec 8) (t : DataTransfer)
    (length : BitVec 32) (s : CardState) : Prop extends RestsWith (AsBefore mem card) s where
  dlen : s.dlen = length
  receiving : s.receiving = t.reading
  transfer : s.transfer = none ∨ s.transfer = some t
  pushed : s.pushed = []
  consumed : s.consumed = 0
  stored : s.stored = 0

/-- It does not matter whether the card takes the transfer `t`. -/
structure Commandable (t : DataTransfer) (I : CardState → Prop) : Prop extends Steadfast I where
  ends : ∀ s, I s → I { s with transfer := none }
  takes : ∀ s, I s → I { s with transfer := some t }

variable {byteAddressed : Bool} {I : CardState → Prop} {D : CardState → Prop} {g : SdGlobals}
  {s s' : CardState} {t : DataTransfer} {fuel : Nat} {mem : Memory 32 (BitVec 8)}
  {card : Nat → BitVec 8} {length : BitVec 32}

/-! ## What a command keeps -/

theorem commandable_parked : Commandable t (Parked mem card t) where
  proceeds _ _ hstep h := absurd hstep (not_proceeds_of_stopped h.disabled)
  clears s v hv h :=
    ⟨indifferent_restsWith.clears s v hv h.toRestsWith, h.disabled, h.transfer⟩
  arg s v h := ⟨indifferent_restsWith.arg s v h.toRestsWith, h.disabled, h.transfer⟩
  ends s h := ⟨indifferent_restsWith.ends s h.toRestsWith, h.disabled, Or.inl rfl⟩
  takes _ h := ⟨⟨⟨h.toHalted.obeys, h.ends⟩, h.framed⟩, h.disabled, Or.inr rfl⟩

theorem indifferent_parked : Indifferent (Parked mem card t) where
  toSteadfast := commandable_parked.toSteadfast
  ends := commandable_parked.ends

theorem Underway.proceeds (h : Underway mem card t length s) (hstep : Proceeds s s') :
    Underway mem card t length s' := by
  have hfixed := hstep.fixed
  have hpushed := h.pushed
  have hconsumed := h.consumed
  refine ⟨indifferent_restsWith.proceeds s s' hstep h.toRestsWith, hfixed.dlen.trans h.dlen,
    hfixed.receiving.trans h.receiving, ?_, hfixed.pushed.trans hpushed, ?_, ?_⟩
  · rw [hfixed.transfer]
    exact h.transfer
  -- There is nothing to take out of the FIFO, and nothing to store.
  · cases hstep with
    | consume hsending hmore =>
        rw [hpushed] at hmore
        cases hmore
    | _ => exact hconsumed
  · cases hstep with
    | store hsending hblock =>
        rw [hconsumed] at hblock
        omega
    | _ => exact h.stored

theorem commandable_armed : Commandable t (Underway mem card t length) where
  proceeds _ _ hstep h := h.proceeds hstep
  clears s v hv h := ⟨indifferent_restsWith.clears s v hv h.toRestsWith, h.dlen, h.receiving,
    h.transfer, h.pushed, h.consumed, h.stored⟩
  arg s v h := ⟨indifferent_restsWith.arg s v h.toRestsWith, h.dlen, h.receiving, h.transfer,
    h.pushed, h.consumed, h.stored⟩
  ends s h := ⟨indifferent_restsWith.ends s h.toRestsWith, h.dlen, h.receiving, Or.inl rfl,
    h.pushed, h.consumed, h.stored⟩
  takes _ h := ⟨⟨⟨h.toHalted.obeys, h.ends⟩, h.framed⟩, h.dlen, h.receiving, Or.inr rfl,
    h.pushed, h.consumed, h.stored⟩

/-! ## The steps to the loop -/

theorem wp_disable_steady (h : Rests s) :
    (writeReg .dctrl 0#32).wp (steadyCard byteAddressed) D
      (fun _ g' s' => g' = g ∧ Parked s.mem s.card t s') g s := by
  refine ⟨trivial, ?_⟩
  rintro _ s' ⟨s₁, hdrift, rfl⟩
  refine ⟨rfl, ?_⟩
  obtain ⟨hhalted, hmem, hcard, hends⟩ := h.toHalted.drift hdrift
  have hoff : hasFlag 0#32 sdioDctrlDten = false := by decide
  refine ⟨⟨⟨⟨hhalted.noStartError, ?_⟩, hends.trans h.ends⟩, hmem, hcard⟩, hoff, Or.inl ?_⟩
  · intro henabled
    exact absurd (hoff.symm.trans henabled) Bool.false_ne_true
  · simp [CardState.configure, hoff]

/-- The last write arms the path; all writes before find it disabled. -/
theorem wp_sdioConfigData_steady {dataControl timeout : BitVec 32}
    (hten : hasFlag dataControl sdioDctrlDten = true)
    (htdir : hasFlag dataControl sdioDctrlDtdir = t.reading)
    (hlength : fifoDepth < length.toNat % 2 ^ 25 / 4) (h : Parked mem card t s) :
    (sdioConfigData dataControl length timeout).wp (steadyCard byteAddressed) D
      (fun _ _ s' => Underway mem card t length s' ∧ s'.transfer = s.transfer ∧
        s'.enabled = true ∧ s'.arrived = 0 ∧ s'.queue = []) g s := by
  refine ⟨trivial, ?_⟩
  rintro _ s₁ ⟨s₁', hdrift₁, rfl⟩
  rw [eq_of_stopped h.disabled hdrift₁]
  refine ⟨trivial, ?_⟩
  rintro _ s₂ ⟨s₂', hdrift₂, rfl⟩
  rw [eq_of_stopped h.disabled hdrift₂]
  refine ⟨trivial, ?_⟩
  rintro _ s₃ ⟨s₃', hdrift₃, rfl⟩
  have hdisabled : ({ s with dlen := length } : CardState).enabled = false := h.disabled
  rw [eq_of_stopped hdisabled hdrift₃]
  have htransfer : (({ s with dlen := length } : CardState).configure dataControl).transfer =
      s.transfer := by
    simp [CardState.configure, hten]
  refine ⟨⟨⟨⟨⟨h.noStartError, ?_⟩, h.ends⟩, h.framed⟩, rfl, htdir, ?_, rfl, rfl, rfl⟩, htransfer,
    hten, rfl, rfl⟩
  · intro _
    exact ⟨⟨rfl, Nat.zero_le _, hlength, rfl, rfl, rfl⟩, h.ends⟩
  · rw [htransfer]
    exact h.transfer

theorem wp_sendDataCommand_steady {command address : BitVec 32} (hI : Commandable t I)
    (hcommand : dataTransfer byteAddressed (commandWord command sdioCmdShortResp) address = some t)
    (hs : I s) :
    (sendCommandSdio command address sdioCmdShortResp).wp (steadyCard byteAddressed) D
      (fun _ _ s' => I s') g s := by
  refine ⟨trivial, ?_⟩
  rintro _ s₁ ⟨s₁', hdrift₁, rfl⟩
  have h₁ := hI.arg s₁' address (hI.drift hdrift₁ hs)
  refine ⟨trivial, ?_⟩
  rintro _ s' ⟨s₂, hdrift₂, transfer, rfl, hobeys⟩
  have h₂ := hI.drift hdrift₂ h₁
  have harg : s₂.arg = address := (drift_fixed hdrift₂).arg
  rcases hobeys with rfl | rfl | rfl
  · exact h₂
  · exact hI.ends s₂ h₂
  · have htakes := hI.takes s₂ h₂
    rw [← hcommand, ← harg] at htakes
    exact htakes

end Driver
end SdioFat32
