import SdioFat32.Driver.Csd

/-!
# Identification — `init_sd` and `init_sd_card`

`init_sd` is cut after its polling loop: `initSdVoltage` runs up to the end of the loop, and
`identifySd` is the rest.  `none` stands for leaving the loop through `break`, `some code` for a
`return code` before or after it.
-/

namespace SdioFat32
namespace Driver

open Effects Proc

def sdMaxVoltTrial : Nat := 40

/-- `CMD55` as it is written to `CMD`. -/
def appCmdWord : BitVec 32 := commandWord cmdAppCmd sdioCmdShortResp

def resetSd : SdProc Int := do
  clearFlagsSdio sdioMaskStaticCmdFlags
  sendCommandSdio cmdGoIdleState 0#32 sdioCmdNoResp
  let status ← cmdNoRespError
  clearFlagsSdio sdioMaskStaticCmdFlags
  if status ≠ 0 then return errorSentData
  assignSd fun sd => { sd with state := idleState, version := .unknown, rca := 0#16 }
  return 0

def validateOperatingVoltage (fuel : Nat) : SdProc Int := do
  sendCommandSdio cmdSendIfCond sdVhcCheckPatern sdioCmdShortResp
  cmdResp7Error fuel

/-- The `CMD55` loop of `send_command_specific`; the last of the attempts returns -3. -/
def appCmdLoop (fuel : Nat) : Nat → CardStatus → SdProc Int
  | 0, _ => return -3
  | attempts + 1, csPattern => do
      let g ← globals
      sendCommandSdio cmdAppCmd (g.sd.rca.setWidth 32 <<< 16) sdioCmdShortResp
      let (status, csPattern) ← cmdResp1Error fuel csPattern
      if status < 0 ∧ CardStatus.appCmd csPattern ≠ true then return status
      if status = 0 then return 0
      -- An error with `APP_CMD` set is worth another attempt.
      appCmdLoop fuel attempts csPattern

def sendCommandSpecific (fuel : Nat) (appCmd arg formatResp : BitVec 32) : SdProc Int := do
  -- `cs_pattern` is not initialised, and a timeout leaves it as it is.
  let csPattern ← indeterminate
  let status ← appCmdLoop fuel 8 csPattern
  if status ≠ 0 then return status
  sendCommandSdio appCmd arg formatResp
  return 0

def setInactiveState : SdProc Int := do
  let g ← globals
  sendCommandSdio cmdGoInactiveState (g.sd.rca.setWidth 32 <<< 16) sdioCmdNoResp
  let status ← cmdNoRespError
  if status ≠ 0 then return errorSentData
  let _ ← resetSd
  return 0

/-! ## `init_sd` -/

/-- The part of `init_sd` before the polling loop. -/
def initSdStart (fuel : Nat) : SdProc (Option Int) := do
  assignSd fun sd => { sd with rca := 0#16 }
  let status ← initSdio
  if status ≠ 0 then return some (-1)
  let status ← resetSd
  if status ≠ 0 then return some (-1)
  let status ← validateOperatingVoltage fuel
  if status = 0 then
    assignSd fun sd => { sd with version := .v2x }
    return none
  else if status = errorWaitTime then
    -- A card that does not know `CMD8`: it is reset once more.
    assignSd fun sd => { sd with version := .v1x }
    let status ← resetSd
    if status ≠ 0 then return some (-1)
    return none
  else
    return some (-2)

/-- The polling loop of `init_sd`, with `trials` commands left. -/
def voltageLoop (fuel : Nat) : Nat → SdProc (Option Int)
  | 0 => return some (-1)
  | trials + 1 => do
      let status ← sendCommandSpecific fuel acmdSendOpCond (sdHighCapacity ||| sdWindowVoltage)
        sdioCmdShortResp
      if status ≠ 0 then return some (-1)
      let status ← cmdResp3Error fuel
      if status < 0 then
        let _ ← setInactiveState
        return some (-1)
      else if status = 1 then
        -- The card is still busy.
        delayTimer 100#32
        voltageLoop fuel trials
      else
        return none

def initSdVoltage (fuel : Nat) : SdProc (Option Int) := do
  match ← initSdStart fuel with
  | some code => return some code
  | none => voltageLoop fuel sdMaxVoltTrial

/-- The part of `init_sd` after the polling loop. -/
def identifySd (fuel : Nat) : SdProc Int := do
  sendCommandSdio cmdAllSendCid 0#32 sdioCmdLongResp
  let status ← cmdResp2Error fuel .cid
  if status ≠ 0 then
    let _ ← setInactiveState
    return -1
  sendCommandSdio cmdSendRelativeAddr 0#32 sdioCmdShortResp
  let status ← cmdResp6Error fuel
  if status ≠ 0 then
    let _ ← setInactiveState
    return -1
  return 0

def initSd (fuel : Nat) : SdProc Int := do
  match ← initSdVoltage fuel with
  | some code => return code
  | none => identifySd fuel

/-! ## `init_sd_card` -/

def initSdCard (fuel : Nat) : SdProc Int := do
  let status ← loadCsdSd fuel
  if status < 0 then return -1
  let g ← globals
  sendCommandSdio cmdSelectCard (g.sd.rca.setWidth 32 <<< 16) sdioCmdShortResp
  let (status, _) ← cmdResp1bError fuel 0#32
  if status = errorSdBusyTimeout then return -1
  if status < 0 then return -2
  -- A failure of `ACMD6` is only logged.
  let _ ← sendCommandSpecific fuel acmdSetBusWidth bit4WidthSd sdioCmdShortResp
  let (status, _) ← cmdResp1Error fuel (CardStatus.setField 0#32 5 true)
  if status < 0 then
    let _ ← setInactiveState
    return -3
  setBusWidthSdio wideBus4BitMode
  setClockFrequencySdio 2#8
  return 0

/-! ## The parts without an answer -/

/-- The events that set up the peripheral. -/
def Setup : SdioEvent → Prop
  | .read .power => True
  | .read .clkcr => True
  | .write .power _ => True
  | .write .clkcr _ => True
  | .delayTimer _ => True
  | .setGpioConf _ _ => True
  | .enableAndResetRcc _ _ => True
  | .getPll48clkFreq => True
  | _ => False

theorem Setup.mute {e : SdioEvent} (h : Setup e) : Mute e := by
  cases e with
  | sta site => exact h.elim
  | indeterminate => exact h.elim
  | write reg v =>
      cases reg with
      | cmd => exact h.elim
      | _ => trivial
  | _ => trivial

section Emits

theorem emits_configurePowerSdio {on : Bool} : (configurePowerSdio on).Emits Setup False := by
  have hloop : ∀ timeout, (powerOnLoop timeout).Emits Setup False := by
    intro timeout
    induction timeout with
    | zero => exact emits_pure _
    | succ timeout ih => exact (emits_perform trivial).bind fun power => emits_ite (emits_pure _) ih
  refine emits_ite ?_ ?_
  · refine (emits_perform trivial).bind fun _ => (hloop 10000).bind fun status => ?_
    exact emits_ite (emits_pure _) ((emits_perform trivial).bind fun _ => emits_pure _)
  · exact (emits_perform trivial).bind fun _ => (emits_perform trivial).bind fun _ => emits_pure _

theorem emits_setBusWidthSdio_setup {wideBus : BitVec 32} :
    (setBusWidthSdio wideBus).Emits Setup False := by
  refine (emits_perform trivial).bind fun _ => (emits_perform trivial).bind fun _ => ?_
  exact (emits_perform trivial).bind fun _ => emits_perform trivial

theorem emits_setClockFrequencySdio_setup {div : BitVec 8} :
    (setClockFrequencySdio div).Emits Setup False := by
  unfold setClockFrequencySdio
  repeat' first
    | exact emits_perform trivial
    | refine (emits_perform trivial).bind fun _ => ?_

theorem emits_initSdio_setup : initSdio.Emits Setup False := by
  unfold initSdio
  repeat' first
    | exact emits_pure _
    | exact emits_configurePowerSdio
    | exact emits_setBusWidthSdio_setup
    | exact emits_setClockFrequencySdio_setup
    | exact emits_perform trivial
    | refine emits_ite ?_ ?_
    | refine Emits.bind ?_ fun _ => ?_

theorem emits_cmdNoRespError : cmdNoRespError.Emits Mute False := by
  have hloop : ∀ timeout, (cmdSentLoop timeout).Emits Mute False := by
    intro timeout
    induction timeout with
    | zero => exact emits_pure _
    | succ timeout ih =>
        refine (emits_perform trivial).bind fun sta => emits_ite ?_ ih
        exact (emits_perform trivial).bind (fun _ => emits_pure _)
  exact hloop 1000000

theorem emits_sendCommandSdio_noResp {command arg : BitVec 32}
    (h : expectsReply (commandWord command sdioCmdNoResp) = false) :
    (sendCommandSdio command arg sdioCmdNoResp).Emits Mute False :=
  (emits_perform trivial).bind fun _ => emits_perform h

theorem emits_resetSd : resetSd.Emits Mute False := by
  refine (emits_perform trivial).bind fun _ => ?_
  refine (emits_sendCommandSdio_noResp (by decide)).bind fun _ => ?_
  refine emits_cmdNoRespError.bind fun status => (emits_perform trivial).bind fun _ => ?_
  exact emits_ite (emits_pure _) ((emits_assign _).bind fun _ => emits_pure _)

theorem emits_setInactiveState : setInactiveState.Emits Mute False := by
  refine emits_globals.bind fun g => ?_
  refine (emits_sendCommandSdio_noResp (by decide)).bind fun _ => ?_
  refine emits_cmdNoRespError.bind fun status => emits_ite (emits_pure _) ?_
  exact emits_resetSd.bind (fun _ => emits_pure _)

theorem emits_sdioReadLongResp {data : Vector (BitVec 32) 4} {size : BitVec 16} :
    (sdioReadLongResp data size).Emits Mute False := by
  refine emits_ite (emits_pure _) ?_
  repeat' first
    | exact emits_pure _
    | exact emits_perform trivial
    | refine (emits_perform trivial).bind fun _ => ?_

theorem emits_setBusWidthSdio {wideBus : BitVec 32} :
    (setBusWidthSdio wideBus).Emits Mute False :=
  emits_setBusWidthSdio_setup.mono fun _ he => he.mute

theorem emits_setClockFrequencySdio {div : BitVec 8} :
    (setClockFrequencySdio div).Emits Mute False :=
  emits_setClockFrequencySdio_setup.mono fun _ he => he.mute

theorem emits_initSdio : initSdio.Emits Mute False :=
  emits_initSdio_setup.mono fun _ he => he.mute

end Emits

end Driver
end SdioFat32
