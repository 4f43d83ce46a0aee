import SdioFat32.Driver.Transfer
import SdioFat32.Driver.Csd
import SdioFat32.Driver.AnsweringCard

/-!
# Erase — `erase_sd`, and the commands it sends to a healthy card

The two addresses are put in order, and both are sent: the second one is the last block that is
erased, not the number of blocks.  On a card without errors the commands of a call are known
exactly.
-/

namespace SdioFat32
namespace Driver

open Effects Proc

/-! ## The function -/

def cardClass5 : BitVec 16 := 0x5#16

def sdPrepareForErase (fuel : Nat) : SdProc Int := do
  let (status, _) ← sendStatusSd fuel 0#32
  if status ≠ 0 then return status
  let g ← globals
  if g.sd.state ≠ tranState then
    sendCommandSdio cmdStopTransmission 0#32 sdioCmdShortResp
    let status ← waitCardReady fuel
    if status ≠ 0 then return status
    return 0
  return 0

/-- One of the three commands of an erase, with the treatment of its answer. -/
def sendEraseCommand (fuel : Nat) (command arg : BitVec 32) : SdProc Int := do
  sendCommandSdio command arg sdioCmdShortResp
  let (status, _) ← cmdResp1Error fuel 0#32
  if status ≠ 0 then
    clearFlagsSdio sdioMaskStaticDataFlags
    return -1
  return 0

/-- `if (address_start > address_end)` swaps them. -/
def orderAddresses (addressStart addressEnd : BitVec 32) : BitVec 32 × BitVec 32 :=
  if addressEnd < addressStart then (addressEnd, addressStart) else (addressStart, addressEnd)

def eraseSd (fuel : Nat) (addressStart addressEnd : BitVec 32) : SdProc Int := do
  let status ← sdPrepareForErase fuel
  if status ≠ 0 then return status
  -- Both addresses name a block that is erased.
  let (addressStart, addressEnd) := orderAddresses addressStart addressEnd
  writeReg .dctrl 0#32
  let g ← globals
  -- `csd` has no initial value in the source; its class bits are written in every case.
  let (status, csd) := readCsdData g.csdData CsdType.zero
  if status ≠ 0 then return -1
  if csd.ccc &&& cardClass5 = 0#16 then return 1
  let status ← waitCardReady fuel
  if status ≠ 0 then return status
  let status ← sendEraseCommand fuel cmdEraseWrBlkStart (cardAddress g addressStart)
  if status ≠ 0 then return status
  let status ← sendEraseCommand fuel cmdEraseWrBlkEnd (cardAddress g addressEnd)
  if status ≠ 0 then return status
  let status ← sendEraseCommand fuel cmdErase 0#32
  if status ≠ 0 then return status
  clearFlagsSdio sdioMaskStaticDataFlags
  delayTimer 500#32
  waitCardReady fuel

/-! ## A card without errors -/

/-- It answers every command within `delay` polls, without an error and ready for data. -/
def healthyCard (delay : Nat) : CardBehaviour where
  delay := delay
  ends _ sta := hasFlag sta sdioStaCtimeout = false ∧ hasFlag sta sdioStaCcrcfail = false
  answers _ w :=
    r1Error w = 0 ∧ CardStatus.readyForData w = true ∧ CardStatus.currentState w = tranState

/-- Such a card exists: it can answer in every state. -/
theorem healthyCard_live {delay : Nat} (s : TalkState) (e : SdioEvent) :
    ∃ r s', (answeringCard (healthyCard delay)).step s e r s' := by
  refine answeringCard_live ?_ ?_ s e
  · intro _
    exact ⟨sdioStaCmdrend, by decide, by decide, by decide⟩
  · intro _
    exact ⟨0x900#32, by decide, by decide, by decide⟩

/-- What `CMD13` looks like on the bus. -/
def statusQuery (g : SdGlobals) : SentCommand :=
  ⟨commandWord cmdSendStatus sdioCmdShortResp, g.sd.rca.setWidth 32 <<< 16⟩

/-- The globals that an answer leaves alone. -/
structure SameCard (g g' : SdGlobals) : Prop where
  csdData : g'.csdData = g.csdData
  version : g'.sd.version = g.sd.version
  rca : g'.sd.rca = g.sd.rca

variable {delay fuel : Nat} {D : TalkState → Prop} {g g₁ g₂ : SdGlobals} {s : TalkState}

theorem SameCard.trans (h : SameCard g g₁) (h' : SameCard g₁ g₂) : SameCard g g₂ where
  csdData := h'.csdData.trans h.csdData
  version := h'.version.trans h.version
  rca := h'.rca.trans h.rca

theorem SameCard.statusQuery (h : SameCard g g₁) : statusQuery g₁ = statusQuery g := by
  unfold Driver.statusQuery
  rw [h.rca]

theorem SameCard.cardAddress (h : SameCard g g₁) (address : BitVec 32) :
    cardAddress g₁ address = cardAddress g address := by
  unfold Driver.cardAddress
  rw [h.version]

/-- Every R1 answer is good. -/
theorem wp_cmdResp1Error_healthy {cs : CardStatus} (hfuel : delay < fuel)
    (hquiet : s.quiet ≤ delay) :
    (cmdResp1Error fuel cs).wp (answeringCard (healthyCard delay)) D
      (fun r g' s' => SameTalk (healthyCard delay) s s' ∧ SameCard g g' ∧ r.1 = 0 ∧
        CardStatus.readyForData r.2 = true ∧ g'.sd.state = tranState) g s := by
  refine wp_mono (wp_cmdResp1Error hfuel hquiet) ?_
  rintro ⟨status, cs'⟩ g' s' ⟨hsame, sta, ⟨htimeout, hcrc⟩, hanswer⟩
  rcases hanswer with ⟨hfailed, _⟩ | ⟨_, w, ⟨hr1, hready, hstate⟩, hstatus, hcopied, _, rfl⟩
  · -- The wait neither times out nor fails.
    exact absurd (show answerOf sta = 0 by simp [answerOf, htimeout, hcrc]) hfailed
  · exact ⟨hsame, ⟨rfl, rfl, rfl⟩, hstatus.trans hr1, hcopied.trans hready, hstate⟩

theorem wp_sendStatusSd_healthy {cs : CardStatus} (hfuel : delay < fuel) :
    (sendStatusSd fuel cs).wp (answeringCard (healthyCard delay)) D
      (fun r g' s' => s'.sent = statusQuery g :: s.sent ∧ s'.quiet ≤ delay ∧ SameCard g g' ∧
        r.1 = 0 ∧ CardStatus.readyForData r.2 = true ∧ g'.sd.state = tranState) g s := by
  unfold sendStatusSd
  simp only [wp_bind, wp_globals, wp_sendCommandSdio]
  refine wp_mono (wp_cmdResp1Error_healthy hfuel (Nat.le_refl delay)) ?_
  rintro ⟨status, cs'⟩ g' s' ⟨hsame, hcard, hstatus, hready, hstate⟩
  have hzero : status = 0 := hstatus
  subst hzero
  exact ⟨hsame.sent, hsame.quiet, hcard, rfl, hready, hstate⟩

/-- One query is enough. -/
theorem wp_waitCardReady_healthy (hfuel : delay < fuel) :
    (waitCardReady fuel).wp (answeringCard (healthyCard delay)) D
      (fun status g' s' => status = 0 ∧ s'.sent = statusQuery g :: s.sent ∧ s'.quiet ≤ delay ∧
        SameCard g g') g s := by
  unfold waitCardReady
  rw [waitCardReadyLoop]
  refine wp_seq (wp_sendStatusSd_healthy hfuel) ?_
  rintro ⟨status, cs'⟩ g' s' ⟨hsent, hquiet, hcard, hstatus, hready, hstate⟩
  have hzero : status = 0 := hstatus
  subst hzero
  have hok : ¬(0 : Int) = errorResponce := by decide
  simp only [if_neg hok, wp_bind, wp_globals, hready, hstate, if_true, wp_pure, true_and]
  exact ⟨hsent, hquiet, hcard⟩

theorem wp_sendEraseCommand_healthy {command arg : BitVec 32} (hfuel : delay < fuel) :
    (sendEraseCommand fuel command arg).wp (answeringCard (healthyCard delay)) D
      (fun status g' s' => status = 0 ∧
        s'.sent = ⟨commandWord command sdioCmdShortResp, arg⟩ :: s.sent ∧ s'.quiet ≤ delay ∧
        SameCard g g') g s := by
  unfold sendEraseCommand
  simp only [wp_bind, wp_sendCommandSdio]
  refine wp_mono (wp_cmdResp1Error_healthy hfuel (Nat.le_refl delay)) ?_
  rintro ⟨status, cs'⟩ g' s' ⟨hsame, hcard, hstatus, _⟩
  have hzero : status = 0 := hstatus
  subst hzero
  exact ⟨rfl, hsame.sent, hsame.quiet, hcard⟩

theorem wp_sdPrepareForErase_healthy (hfuel : delay < fuel) :
    (sdPrepareForErase fuel).wp (answeringCard (healthyCard delay)) D
      (fun status g' s' => status = 0 ∧ s'.sent = statusQuery g :: s.sent ∧ s'.quiet ≤ delay ∧
        SameCard g g') g s := by
  unfold sdPrepareForErase
  refine wp_seq (wp_sendStatusSd_healthy hfuel) ?_
  rintro ⟨status, cs'⟩ g' s' ⟨hsent, hquiet, hcard, hstatus, _, hstate⟩
  have hzero : status = 0 := hstatus
  subst hzero
  -- The card is in `TRAN`, so `CMD12` is not sent.
  have hstop : ¬g'.sd.state ≠ tranState := not_not.2 hstate
  simp only [ne_eq, not_true_eq_false, if_false, wp_bind, wp_globals, if_neg hstop, wp_pure]
  exact ⟨trivial, hsent, hquiet, hcard⟩

/-- The commands of an erase, the last one first. -/
def eraseCommands (g : SdGlobals) (addressStart addressEnd : BitVec 32) : List SentCommand :=
  [statusQuery g,
    ⟨commandWord cmdErase sdioCmdShortResp, 0#32⟩,
    ⟨commandWord cmdEraseWrBlkEnd sdioCmdShortResp, cardAddress g addressEnd⟩,
    ⟨commandWord cmdEraseWrBlkStart sdioCmdShortResp, cardAddress g addressStart⟩,
    statusQuery g, statusQuery g]

/-- The class check of `erase_sd` passes. -/
def ErasableCard (g : SdGlobals) : Prop :=
  (readCsdData g.csdData CsdType.zero).1 = 0 ∧
    (readCsdData g.csdData CsdType.zero).2.ccc &&& cardClass5 ≠ 0#16

theorem wp_eraseSd_healthy {addressStart addressEnd : BitVec 32} (hfuel : delay < fuel)
    (hclass : ErasableCard g) :
    (eraseSd fuel addressStart addressEnd).wp (answeringCard (healthyCard delay)) D
      (fun status _ s' => status = 0 ∧ s'.sent =
        eraseCommands g (orderAddresses addressStart addressEnd).1
          (orderAddresses addressStart addressEnd).2 ++ s.sent) g s := by
  unfold eraseSd
  refine wp_seq (wp_sdPrepareForErase_healthy hfuel) ?_
  rintro status g₁ s₁ ⟨rfl, hsent₁, hquiet₁, hcard₁⟩
  rw [if_neg (by decide)]
  refine wp_bind.2 (wp_offTalkEvent trivial fun _ => ?_)
  -- The register was loaded before, and its class bits allow an erase.
  rw [wp_bind, wp_globals, hcard₁.csdData]
  rcases hclass with ⟨hread, hccc⟩
  simp only [hread, hccc, ne_eq, not_true_eq_false, if_false]
  refine wp_seq (wp_waitCardReady_healthy hfuel) ?_
  rintro status g₂ s₂ ⟨rfl, hsent₂, hquiet₂, hcard₂⟩
  rw [if_neg (by decide)]
  refine wp_seq (wp_sendEraseCommand_healthy hfuel) ?_
  rintro status g₃ s₃ ⟨rfl, hsent₃, hquiet₃, hcard₃⟩
  rw [if_neg (by decide)]
  refine wp_seq (wp_sendEraseCommand_healthy hfuel) ?_
  rintro status g₄ s₄ ⟨rfl, hsent₄, hquiet₄, hcard₄⟩
  rw [if_neg (by decide)]
  refine wp_seq (wp_sendEraseCommand_healthy hfuel) ?_
  rintro status g₅ s₅ ⟨rfl, hsent₅, hquiet₅, hcard₅⟩
  rw [if_neg (by decide)]
  refine wp_bind.2 (wp_offTalkEvent trivial fun _ => ?_)
  refine wp_bind.2 (wp_offTalkEvent trivial fun _ => ?_)
  refine wp_mono (wp_waitCardReady_healthy hfuel) ?_
  rintro status g₆ s₆ ⟨rfl, hsent₆, _, _⟩
  -- No answer has changed the relative address or the version, which the commands depend on.
  have hcard₅ := ((hcard₁.trans hcard₂).trans hcard₃).trans (hcard₄.trans hcard₅)
  refine ⟨rfl, ?_⟩
  rw [hsent₆, hsent₅, hsent₄, hsent₃, hsent₂, hsent₁, hcard₅.statusQuery, hcard₁.statusQuery,
    hcard₁.cardAddress, hcard₁.cardAddress]
  rfl

end Driver
end SdioFat32
