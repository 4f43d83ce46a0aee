import SdioFat32.Driver.Sdio

/-!
# Response — the `CmdRespN` functions of `drivers/devices/SD/SD.c`

Every function waits for the end of the command with the same unbounded loop, turns a timeout or a
CRC failure into an error code and decodes the response register.  The bit positions are those of
the bit-field structures in `SD.h`, allocated from bit 0 upwards.
-/

namespace SdioFat32
namespace Driver

open Effects Proc

/-! ## Error codes -/

def errorCrc : Int := -100
def errorAddress : Int := -102
def errorIllegalCmd : Int := -104
def errorEraseParam : Int := -106
def errorCardLocked : Int := -107
def errorCardController : Int := -108
def errorWpViolation : Int := -109
def errorCardEcc : Int := -110
def errorUnknown : Int := -111
def errorOutOfRange : Int := -112
def errorWpEraseSkip : Int := -113
def errorReset : Int := -114
def errorMaskVhc : Int := -115
def errorSentData : Int := -117
def errorSeqAke : Int := -118
def errorCsdOverwrite : Int := -120
def errorCardEccFailed : Int := -121
def errorLockUnlock : Int := -122
def errorEraseSeq : Int := -123
def errorBlockLen : Int := -124
def errorSentCmd : Int := -125
def errorSdBusyTimeout : Int := -126
def errorResponce : Int := -127
def errorTxunder : Int := -128
def errorDataCrc : Int := -129
def errorStartBit : Int := -131
def errorRxoverr : Int := -132
def errorWaitTime : Int := -133

/-! ## Commands -/

def cmdGoIdleState : BitVec 32 := 0x0#32
def cmdAllSendCid : BitVec 32 := 0x2#32
def cmdSendRelativeAddr : BitVec 32 := 0x3#32
def cmdSelectCard : BitVec 32 := 0x7#32
def cmdSendIfCond : BitVec 32 := 0x8#32
def cmdSendCsd : BitVec 32 := 0x9#32
def cmdStopTransmission : BitVec 32 := 0xC#32
def cmdSendStatus : BitVec 32 := 0xD#32
def cmdGoInactiveState : BitVec 32 := 0xF#32
def cmdReadSingleBlock : BitVec 32 := 0x11#32
def cmdReadMultipleBlock : BitVec 32 := 0x12#32
def cmdWriteBlock : BitVec 32 := 0x18#32
def cmdWriteMultipleBlock : BitVec 32 := 0x19#32
def cmdEraseWrBlkStart : BitVec 32 := 0x20#32
def cmdEraseWrBlkEnd : BitVec 32 := 0x21#32
def cmdErase : BitVec 32 := 0x26#32
def cmdAppCmd : BitVec 32 := 0x37#32
def acmdSetBusWidth : BitVec 32 := 0x6#32
def acmdSendOpCond : BitVec 32 := 0x29#32

def sdVhcCheckPatern : BitVec 32 := 0x1AA#32
def sdHighCapacity : BitVec 32 := 1#32 <<< 30
def sdWindowVoltage : BitVec 32 := 1#32 <<< 21 ||| 1#32 <<< 20
def bit4WidthSd : BitVec 32 := 2#32

/-! ## R1 -/

/-- `CardStatus_Type`, a 32-bit word; the accessors name its fields. -/
abbrev CardStatus : Type := BitVec 32

def CardStatus.appCmd (w : CardStatus) : Bool := w.getLsbD 5
def CardStatus.readyForData (w : CardStatus) : Bool := w.getLsbD 8
def CardStatus.currentState (w : CardStatus) : SdState := w.extractLsb' 9 4

/-- Assign to the one-bit field at `i`. -/
def CardStatus.setField (w : CardStatus) (i : Nat) (b : Bool) : CardStatus :=
  if b then w ||| BitVec.twoPow 32 i else w &&& ~~~BitVec.twoPow 32 i

theorem CardStatus.getLsbD_setField {w : CardStatus} {i j : Nat} {b : Bool} (hi : i < 32)
    (hj : j < 32) : (w.setField i b).getLsbD j = if i = j then b else w.getLsbD j := by
  unfold CardStatus.setField
  by_cases h : i = j
  · subst h
    cases b <;> simp [hi]
  · have hne : j ≠ i := Ne.symm h
    cases b <;> simp [h, hj, hne]

/-- The two fields that `CmdResp1Error` copies. -/
def CardStatus.copyFields (w response : CardStatus) : CardStatus :=
  (w.setField 8 response.readyForData).setField 5 response.appCmd

theorem CardStatus.readyForData_copyFields (w response : CardStatus) :
    (w.copyFields response).readyForData = response.readyForData := by
  unfold CardStatus.copyFields
  rw [CardStatus.readyForData, getLsbD_setField (by decide) (by decide),
    getLsbD_setField (by decide) (by decide)]
  rfl

theorem CardStatus.appCmd_copyFields (w response : CardStatus) :
    (w.copyFields response).appCmd = response.appCmd := by
  unfold CardStatus.copyFields
  rw [CardStatus.appCmd, getLsbD_setField (by decide) (by decide)]
  rfl

/-- The error bits in the order in which `CmdResp1Error` tests them. -/
def r1Checks : List (Nat × Int) :=
  [(3, errorSeqAke), (22, errorIllegalCmd), (30, errorAddress), (14, errorCardEcc),
    (15, errorWpEraseSkip), (16, errorCsdOverwrite), (19, errorUnknown),
    (20, errorCardController), (21, errorCardEccFailed), (23, errorCrc), (24, errorLockUnlock),
    (26, errorWpViolation), (27, errorEraseParam), (28, errorEraseSeq), (29, errorBlockLen),
    (31, errorOutOfRange), (25, errorCardLocked), (13, errorReset)]

/-- The error of the first bit of `checks` that is set, 0 if none is. -/
def firstError (w : BitVec 32) : List (Nat × Int) → Int
  | [] => 0
  | (bit, error) :: checks => if w.getLsbD bit then error else firstError w checks

def r1Error (w : CardStatus) : Int := firstError w r1Checks

theorem firstError_nonpos {w : BitVec 32} {checks : List (Nat × Int)}
    (hneg : ∀ c ∈ checks, c.2 < 0) : firstError w checks ≤ 0 := by
  induction checks with
  | nil => simp [firstError]
  | cons c checks ih =>
      rcases c with ⟨bit, error⟩
      rw [firstError]
      split
      · exact Int.le_of_lt (hneg (bit, error) (by simp))
      · exact ih (fun c hc => hneg c (by simp [hc]))

theorem r1Checks_neg : ∀ c ∈ r1Checks, c.2 < 0 := by decide

theorem r1Error_nonpos (w : CardStatus) : r1Error w ≤ 0 := firstError_nonpos r1Checks_neg

/-! ## Waiting for a command -/

/-- The loop of `CmdNoRespError`: at most `timeout` polls for `CMDSENT`. -/
def cmdSentLoop : Nat → SdProc Int
  | 0 => return errorSentCmd
  | timeout + 1 => do
      let sta ← readSta .cmdSent
      if hasFlag sta sdioStaCmdsent then
        clearFlagsSdio sdioMaskStaticCmdFlags
        return 0
      cmdSentLoop timeout

def cmdNoRespError : SdProc Int := cmdSentLoop 1000000

/-- `do status = SDIO->STA; while (!(status & (CMDREND | CTIMEOUT | CCRCFAIL)));` -/
def waitResponse (fuel : Nat) : SdProc (BitVec 32) :=
  iter (fun _ : Unit => do
    let status ← readSta .cmdResp
    if hasFlag status (sdioStaCmdrend ||| sdioStaCtimeout ||| sdioStaCcrcfail) then
      return .inr status
    return .inl ()) fuel ()

/-- The part the `CmdRespN` functions other than R3 have in common; they differ in the flags they
clear on a timeout and on a CRC failure. -/
def answerStatus (fuel : Nat) (onTimeout onCrc : BitVec 32) : SdProc Int := do
  let status ← waitResponse fuel
  if hasFlag status sdioStaCtimeout then
    clearFlagSdio onTimeout
    return errorWaitTime
  if hasFlag status sdioStaCcrcfail then
    clearFlagSdio onCrc
    return errorCrc
  clearFlagSdio sdioMaskStaticCmdFlags
  return 0

/-! ## The response functions -/

/-- Returns the status and `*cs_pattern`.  The `memcpy` of the source copies the response over
the local variable `cs_pattern`, a pointer that is not used again, so of the structure only the
two fields assigned before it change. -/
def cmdResp1Error (fuel : Nat) (csPattern : CardStatus) : SdProc (Int × CardStatus) := do
  let status ← answerStatus fuel sdioMaskStaticCmdFlags sdioMaskStaticCmdFlags
  if status ≠ 0 then return (status, csPattern)
  let response ← readReg (.resp 0)
  assignSd fun sd => { sd with state := CardStatus.currentState response }
  return (r1Error response, CardStatus.copyFields csPattern response)

def sendStatusSd (fuel : Nat) (csPattern : CardStatus) : SdProc (Int × CardStatus) := do
  let g ← globals
  sendCommandSdio cmdSendStatus (g.sd.rca.setWidth 32 <<< 16) sdioCmdShortResp
  let (status, cs) ← cmdResp1Error fuel csPattern
  -- The error of `COM_CRC_ERROR` in the status word is `ERROR_CRC` as well.
  if status = errorWaitTime ∨ status = errorCrc then return (errorResponce, cs)
  return (status, cs)

/-- The loop of `wait_card_ready`, with `attempts` queries left. -/
def waitCardReadyLoop (fuel : Nat) : Nat → CardStatus → SdProc Int
  | 0, _ => return errorSdBusyTimeout
  | attempts + 1, cardStatus => do
      let (status, cardStatus) ← sendStatusSd fuel cardStatus
      if status = errorResponce then return errorResponce
      let g ← globals
      if status = 0 ∧ CardStatus.readyForData cardStatus = true ∧ g.sd.state = tranState then
        return 0
      delayTimer 50#32
      waitCardReadyLoop fuel attempts cardStatus

def waitCardReady (fuel : Nat) : SdProc Int := waitCardReadyLoop fuel 500 0#32

/-- A status of 0 returns at once; only a timeout goes on to `wait_card_ready`. -/
def cmdResp1bError (fuel : Nat) (cs : CardStatus) : SdProc (Int × CardStatus) := do
  let (status, cs) ← cmdResp1Error fuel cs
  if status = 0 then return (status, cs)
  if status ≠ errorWaitTime ∧ status < 0 then return (status, cs)
  -- The card did not answer in time: it may still be busy.
  let status ← waitCardReady fuel
  return (status, cs)

inductive R2Type where
  | cid
  | csd
  deriving DecidableEq, Repr

def cmdResp2Error (fuel : Nat) (type : R2Type) : SdProc Int := do
  let status ← answerStatus fuel sdioStaCtimeout sdioStaCcrcfail
  if status ≠ 0 then return status
  let g ← globals
  match type with
  | .csd =>
      let words ← sdioReadLongResp g.csdData 16#16
      assign fun g => { g with csdData := words }
      return 0
  | .cid =>
      let words ← sdioReadLongResp g.sdCid 16#16
      assign fun g => { g with sdCid := words }
      return 0

/-- `OCR_Type`: 14 reserved bits, 9 bits of voltage, 6 reserved bits, `CCS`, `busy`. -/
structure Ocr where
  voltage : BitVec 9
  ccs : Bool
  busy : Bool

def ocrOfWord (w : BitVec 32) : Ocr :=
  { voltage := w.extractLsb' 14 9
    ccs := w.getLsbD 29
    busy := w.getLsbD 30 }

/-- R3 carries no CRC, so a CRC failure is cleared and ignored. -/
def cmdResp3Error (fuel : Nat) : SdProc Int := do
  let status ← waitResponse fuel
  clearFlagSdio sdioStaCcrcfail
  if hasFlag status sdioStaCtimeout then
    clearFlagSdio sdioStaCtimeout
    return errorWaitTime
  clearFlagSdio sdioMaskStaticCmdFlags
  let response ← readReg (.resp 0)
  let ocr := ocrOfWord response
  if ocr.busy = false then return 1
  assignSd fun sd =>
    { sd with
      state := readyState
      voltage := ocr.voltage.setWidth 32
      version := if ocr.ccs then .sdxc else .sdsc }
  return 0

/-- The error bits of `Resp6_Format` in the order of the tests. -/
def r6Checks : List (Nat × Int) :=
  [(3, errorSeqAke), (15, errorCrc), (13, errorUnknown), (14, errorIllegalCmd)]

def cmdResp6Error (fuel : Nat) : SdProc Int := do
  let status ← answerStatus fuel sdioStaCtimeout sdioStaCcrcfail
  if status ≠ 0 then return status
  let response ← readReg (.resp 0)
  assignSd fun sd => { sd with state := response.extractLsb' 9 4 }
  if firstError response r6Checks ≠ 0 then return firstError response r6Checks
  assignSd fun sd => { sd with rca := response.extractLsb' 16 16 }
  return 0

def cmdResp7Error (fuel : Nat) : SdProc Int := do
  let status ← answerStatus fuel sdioStaCtimeout sdioStaCcrcfail
  if status ≠ 0 then return status
  let response ← readReg (.resp 0)
  -- One common bit of the echo is enough.
  if hasFlag response sdVhcCheckPatern then return 0
  return errorMaskVhc

/-! ## What the functions do to the peripheral -/

section Emits

variable {cmds : BitVec 32 → Prop} {fuel : Nat}

/-- The events of a wait for an answer. -/
def Waiting : SdioEvent → Prop
  | .sta .cmdResp => True
  | .read .icr => True
  | .write .icr _ => True
  | _ => False

theorem Waiting.dialogue {e : SdioEvent} (he : Waiting e) : Dialogue cmds e := by
  cases e with
  | sta site =>
      cases site with
      | cmdResp => trivial
      | _ => exact he.elim
  | read reg => trivial
  | write reg v =>
      cases reg with
      | icr => trivial
      | _ => exact he.elim
  | _ => exact he.elim

theorem emits_answerStatus {onTimeout onCrc : BitVec 32} :
    (answerStatus fuel onTimeout onCrc).Emits Waiting True := by
  -- The wait polls, and each of the three ends clears flags.
  have hpoll : (waitResponse fuel).Emits Waiting True := by
    refine emits_iter (fun _ => (emits_perform trivial).bind ?_) fuel ()
    intro status
    exact emits_ite (emits_pure _) (emits_pure _)
  have hclear : ∀ (flag : BitVec 32) (code : Int),
      (clearFlagSdio flag >>= fun _ => pure code).Emits Waiting True := by
    intro flag code
    have hflag : (clearFlagSdio flag).Emits Waiting True :=
      (emits_perform trivial).bind fun _ => emits_perform trivial
    exact hflag.bind fun _ => emits_pure code
  refine hpoll.bind ?_
  intro status
  exact emits_ite (hclear _ _) (emits_ite (hclear _ _) (hclear _ _))

theorem emits_cmdResp1Error {cs : CardStatus} :
    (cmdResp1Error fuel cs).Emits (Dialogue cmds) True := by
  refine Emits.bind (emits_answerStatus.mono fun _ he => he.dialogue) ?_
  intro status
  refine emits_ite (emits_pure _) ?_
  exact (emits_perform trivial).bind (fun _ => (emits_assign _).bind (fun _ => emits_pure _))

theorem emits_sendStatusSd {cs : CardStatus}
    (h : cmds (commandWord cmdSendStatus sdioCmdShortResp)) :
    (sendStatusSd fuel cs).Emits (Dialogue cmds) True := by
  refine emits_globals.bind (fun g => (emits_sendCommandSdio h).bind fun _ => ?_)
  refine emits_cmdResp1Error.bind ?_
  rintro ⟨status, cs⟩
  exact emits_ite (emits_pure _) (emits_pure _)

theorem emits_waitCardReady (h : cmds (commandWord cmdSendStatus sdioCmdShortResp)) :
    (waitCardReady fuel).Emits (Dialogue cmds) True := by
  have hloop : ∀ (attempts : Nat) (cs : CardStatus),
      (waitCardReadyLoop fuel attempts cs).Emits (Dialogue cmds) True := by
    intro attempts
    induction attempts with
    | zero =>
        intro cs
        exact emits_pure _
    | succ attempts ih =>
        intro cs
        refine (emits_sendStatusSd h).bind ?_
        rintro ⟨status, cs⟩
        refine emits_ite (emits_pure _) (emits_globals.bind fun g => ?_)
        exact emits_ite (emits_pure _) ((emits_perform trivial).bind (fun _ => ih cs))
  exact hloop 500 0#32

theorem emits_cmdResp1bError {cs : CardStatus}
    (h : cmds (commandWord cmdSendStatus sdioCmdShortResp)) :
    (cmdResp1bError fuel cs).Emits (Dialogue cmds) True := by
  refine emits_cmdResp1Error.bind ?_
  rintro ⟨status, cs⟩
  refine emits_ite (emits_pure _) (emits_ite (emits_pure _) ?_)
  exact (emits_waitCardReady h).bind (fun _ => emits_pure _)

end Emits

end Driver
end SdioFat32
