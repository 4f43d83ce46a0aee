import SdioFat32.Driver.Transfer

/-!
# DataFlags — flags left over from an earlier transfer

The peripheral sets data flags only while the data path is enabled, and a flag stays set until it
is cleared through `ICR`.  Every block function disables the data path before it arms it, so the
flags still set at that point are `stale`: they come from an earlier call.  A polling loop should
not start with one of its own flags stale.

The stale flags are told by their cause: a start bit error, which no function clears; a flag that
came up outside a transfer, after the data flags were cleared or the data command was refused; and
a flag that was up when a data command was refused.  `loop_clean_iff` says that there is no other.
-/

namespace SdioFat32
namespace Driver

open Effects Proc

/-! ## The peripheral -/

/-- The flags that end some polling loop. -/
def dataFlags : BitVec 32 := sdioMaskStaticDataFlags ||| sdioStaStbiterr

structure PathState where
  flags : BitVec 32
  enabled : Bool
  /-- What was still set when the data path was disabled last, and was not cleared since. -/
  stale : BitVec 32
  /-- The data path was armed, and neither were the data flags cleared nor the command refused. -/
  transferring : Bool
  /-- The last word written to `CMD`. -/
  command : BitVec 32
  /-- The flags that came up as a start bit error or outside a transfer, or were up when a data
  command was refused, and were not cleared since. -/
  unserved : BitVec 32
  /-- What was unserved when the data path was disabled last, and was not cleared since. -/
  inherited : BitVec 32

/-- `CMD24`, `CMD25` and `CMD18`, which are sent with the data path armed. -/
def isDataCommand (word : BitVec 32) : Bool :=
  word = commandWord cmdWriteBlock sdioCmdShortResp ||
    word = commandWord cmdWriteMultipleBlock sdioCmdShortResp ||
    word = commandWord cmdReadMultipleBlock sdioCmdShortResp

/-- A data command is not accepted. -/
def PathState.refuses (s : PathState) : (e : SdioEvent) → e.Response → Bool
  | .sta .cmdResp, (w : BitVec 32) =>
      isDataCommand s.command && (hasFlag w sdioStaCtimeout || hasFlag w sdioStaCcrcfail)
  | .read (.resp 0), (w : BitVec 32) => isDataCommand s.command && r1Error w != 0
  | _, _ => false

/-- The flags come up. -/
def PathState.raise (s : PathState) (raised : BitVec 32) : PathState :=
  { s with
    flags := s.flags ||| raised
    unserved := s.unserved ||| if s.transferring then raised &&& sdioStaStbiterr else raised }

/-- A refused data command ends the transfer, whatever flags are up. -/
def PathState.refuse (s : PathState) : PathState :=
  { s with
    transferring := false
    unserved := s.unserved ||| s.flags }

/-- The effect of an event on the data path. -/
def PathState.effect (s : PathState) : SdioEvent → PathState
  | .write .icr v =>
      { s with
        flags := s.flags &&& ~~~v
        stale := s.stale &&& ~~~v
        unserved := s.unserved &&& ~~~v
        inherited := s.inherited &&& ~~~v
        -- Only this word ends a transfer; the command flags are cleared during one.
        transferring := s.transferring && v != sdioMaskStaticDataFlags }
  | .write .dctrl v =>
      if hasFlag v sdioDctrlDten then { s with enabled := true, transferring := true }
      else
        { s with
          enabled := false
          stale := s.flags
          inherited := s.unserved
          transferring := false }
  | .write .cmd w => { s with command := w }
  | _ => s

/-- The state after an event. -/
def PathState.next (s : PathState) (raised : BitVec 32) (e : SdioEvent) (r : e.Response) :
    PathState :=
  if s.refuses e r = true then ((s.raise raised).effect e).refuse
  else (s.raise raised).effect e

/-- Before each event the peripheral may raise data flags, if the data path is enabled.  `req` is
what is shown of a polling loop. -/
def dataPath : Env SdioEvent SdioEvent.Response PathState where
  req s e :=
    match e with
    | .sta (.dataLoop flags) => s.stale &&& flags = 0#32 ↔ s.inherited &&& flags = 0#32
    | _ => True
  step s e r s' :=
    ∃ raised : BitVec 32,
      raised &&& ~~~dataFlags = 0#32 ∧ (raised ≠ 0#32 → s.enabled = true) ∧
      (match e, r with
        | .sta _, (w : BitVec 32) => w &&& dataFlags = (s.flags ||| raised) &&& dataFlags
        | _, _ => True) ∧
      s' = s.next raised e r

/-! ## Sequences of calls -/

inductive TransferCall where
  | readSingle (buffer sizeBuff address timeout : BitVec 32)
  | readMulti (buffer countBlocks address timeout : BitVec 32)
  | writeSingle (data size address timeout : BitVec 32)
  | writeMulti (data countBlocks address timeout : BitVec 32)
  /-- The pause before a retry. -/
  | pause (ms : BitVec 32)

def TransferCall.run (fuel : Nat) : TransferCall → SdProc Int
  | .readSingle buffer sizeBuff address timeout =>
      readSingleBlockSd fuel buffer sizeBuff address timeout
  | .readMulti buffer countBlocks address timeout =>
      readMultiBlockSd fuel buffer countBlocks address timeout
  | .writeSingle data size address timeout => writeSingleBlockSd fuel data size address timeout
  | .writeMulti data countBlocks address timeout =>
      writeMultiBlockSd fuel data countBlocks address timeout
  | .pause ms => do
      delayTimer ms
      return 0

/-- The calls in order, with their statuses. -/
def runTransfers (fuel : Nat) : List TransferCall → SdProc (List Int)
  | [] => return []
  | c :: cs => do
      let status ← c.run fuel
      let rest ← runTransfers fuel cs
      return status :: rest

/-! ## Between and during transfers -/

/-- The flags that are up are the unserved ones. -/
structure Idle (s : PathState) : Prop where
  flags : s.flags = s.unserved
  stale : s.stale = s.inherited
  transferring : s.transferring = false

/-- A transfer is going on: what is up beyond the unserved flags is cleared at its end. -/
structure Transferring (s : PathState) : Prop where
  unserved : s.unserved ||| s.flags = s.flags
  flags : s.flags &&& ~~~sdioMaskStaticDataFlags = s.unserved &&& ~~~sdioMaskStaticDataFlags
  stale : s.stale = s.inherited

variable {fuel : Nat} {D : PathState → Prop} {g : SdGlobals} {s s' : PathState}

/-- Events that do not arm the data path. -/
def NoArming : SdioEvent → Prop
  | .write .dctrl v => hasFlag v sdioDctrlDten = false
  | _ => True

/-- Events that leave `DCTRL` alone. -/
def KeepsPath : SdioEvent → Prop
  | .write .dctrl _ => False
  | _ => True

theorem Idle.raise (h : Idle s) (raised : BitVec 32) : Idle (s.raise raised) where
  flags := by simp [PathState.raise, h.flags, h.transferring]
  stale := h.stale
  transferring := h.transferring

theorem Idle.refuse (h : Idle s) : Idle s.refuse where
  flags := by simp [PathState.refuse, h.flags]
  stale := h.stale
  transferring := rfl

theorem Idle.effect {e : SdioEvent} (h : Idle s) (he : NoArming e) : Idle (s.effect e) := by
  unfold PathState.effect
  split
  · exact ⟨by simp [h.flags], by simp [h.stale], by simp [h.transferring]⟩
  · rename_i v
    have hoff : hasFlag v sdioDctrlDten = false := he
    simp only [hoff, Bool.false_eq_true, if_false]
    exact ⟨h.flags, h.flags, rfl⟩
  · exact ⟨h.flags, h.stale, h.transferring⟩
  · exact h

/-- Outside a transfer only the unserved flags change. -/
theorem Idle.step {e : SdioEvent} {r : e.Response} (h : Idle s) (he : NoArming e)
    (hstep : dataPath.step s e r s') : Idle s' := by
  rcases hstep with ⟨raised, _, _, _, rfl⟩
  have heffect := (h.raise raised).effect he
  unfold PathState.next
  split
  · exact heffect.refuse
  · exact heffect

theorem or_raise {flags unserved raised x : BitVec 32} (h : unserved ||| flags = flags)
    (hx : x ||| raised = raised) :
    (unserved ||| x) ||| (flags ||| raised) = flags ||| raised := by
  calc
    (unserved ||| x) ||| (flags ||| raised) = (unserved ||| flags) ||| (x ||| raised) := by ac_rfl
    _ = flags ||| raised := by rw [h, hx]

theorem or_clear {flags unserved : BitVec 32} (v : BitVec 32) (h : unserved ||| flags = flags) :
    unserved &&& ~~~v ||| flags &&& ~~~v = flags &&& ~~~v := by
  calc
    unserved &&& ~~~v ||| flags &&& ~~~v = (unserved ||| flags) &&& ~~~v := by
      ext i
      simp [Bool.and_or_distrib_right]
    _ = flags &&& ~~~v := by rw [h]

theorem and_clear {flags unserved m : BitVec 32} (v : BitVec 32)
    (h : flags &&& ~~~m = unserved &&& ~~~m) :
    flags &&& ~~~v &&& ~~~m = unserved &&& ~~~v &&& ~~~m := by
  calc
    flags &&& ~~~v &&& ~~~m = flags &&& ~~~m &&& ~~~v := by ac_rfl
    _ = unserved &&& ~~~m &&& ~~~v := by rw [h]
    _ = unserved &&& ~~~v &&& ~~~m := by ac_rfl

/-- Of what comes up in a transfer only a start bit error outlasts the clearing of the flags. -/
theorem and_raise {flags unserved raised m stbiterr : BitVec 32}
    (h : flags &&& ~~~m = unserved &&& ~~~m) (hraised : raised &&& ~~~(m ||| stbiterr) = 0#32) :
    (flags ||| raised) &&& ~~~m = (unserved ||| raised &&& stbiterr) &&& ~~~m := by
  ext i hi
  have hflag := congrArg (fun b => b.getLsbD i) h
  have hdata := congrArg (fun b => b.getLsbD i) hraised
  simp [hi] at hflag hdata ⊢
  grind

theorem Transferring.raise {raised : BitVec 32} (h : Transferring s)
    (hdata : raised &&& ~~~dataFlags = 0#32) : Transferring (s.raise raised) := by
  unfold PathState.raise
  cases htransfer : s.transferring with
  | false =>
      refine ⟨or_raise h.unserved ?_, ?_, h.stale⟩
      · simp
      -- After a refusal all that comes up is unserved.
      · have hdistrib : ∀ a b : BitVec 32, (a ||| b) &&& ~~~sdioMaskStaticDataFlags =
            a &&& ~~~sdioMaskStaticDataFlags ||| b &&& ~~~sdioMaskStaticDataFlags := by
          intro a b
          ext i
          simp [Bool.and_or_distrib_right]
        simp [hdistrib, h.flags]
  | true =>
      refine ⟨or_raise h.unserved ?_, ?_, h.stale⟩
      · ext i
        simp
        grind
      · exact and_raise h.flags hdata

theorem Transferring.refuse (h : Transferring s) : Idle s.refuse where
  flags := h.unserved.symm
  stale := h.stale
  transferring := rfl

theorem Idle.toTransferring (h : Idle s) : Transferring s where
  unserved := by rw [h.flags, BitVec.or_self]
  flags := by rw [h.flags]
  stale := h.stale

theorem Transferring.effect {e : SdioEvent} (h : Transferring s) (he : KeepsPath e) :
    Transferring (s.effect e) ∧ (e = .write .icr sdioMaskStaticDataFlags → Idle (s.effect e)) := by
  unfold PathState.effect
  split
  · rename_i v
    refine ⟨⟨or_clear v h.unserved, and_clear v h.flags, by simp [h.stale]⟩, fun hclear => ?_⟩
    have hv : v = sdioMaskStaticDataFlags := by
      injection hclear
    subst hv
    exact ⟨h.flags, by simp [h.stale], by simp⟩
  · exact he.elim
  · exact ⟨⟨h.unserved, h.flags, h.stale⟩, fun hclear => by cases hclear⟩
  · rename_i hicr _ _
    exact ⟨h, fun hclear => absurd hclear (hicr _)⟩

/-- During a transfer only the clearing of the data flags and a refusal end it. -/
theorem Transferring.step {e : SdioEvent} {r : e.Response} (h : Transferring s)
    (he : KeepsPath e) (hstep : dataPath.step s e r s') :
    Transferring s' ∧ (s.refuses e r = true → Idle s') ∧
      (e = .write .icr sdioMaskStaticDataFlags → Idle s') := by
  rcases hstep with ⟨raised, hdata, _, _, rfl⟩
  rcases (h.raise hdata).effect he with ⟨hkept, hcleared⟩
  unfold PathState.next
  split
  · have hidle := hkept.refuse
    exact ⟨hidle.toTransferring, fun _ => hidle, fun _ => hidle⟩
  · rename_i haccepted
    exact ⟨hkept, fun hrefused => absurd hrefused haccepted, hcleared⟩

/-- The flags of a polling loop are stale exactly if they are inherited. -/
theorem req_of_stale {e : SdioEvent} (h : s.stale = s.inherited) : dataPath.req s e := by
  unfold dataPath
  dsimp only
  split
  · rw [h]
  · trivial

theorem wp_idle {α : Type} {p : SdProc α} (hp : p.Emits NoArming True) (h : Idle s) :
    p.wp dataPath (fun _ => True) (fun _ _ s' => Idle s') g s :=
  wp_frame hp (fun _ _ hs he => ⟨req_of_stale hs.stale, fun _ _ hstep => hs.step he hstep⟩)
    (fun _ _ _ => trivial) h

theorem wp_transferring {α : Type} {p : SdProc α} (hp : p.Emits KeepsPath True)
    (h : Transferring s) :
    p.wp dataPath (fun _ => True) (fun _ _ s' => Transferring s') g s :=
  wp_frame hp (fun _ _ hs he => ⟨req_of_stale hs.stale, fun _ _ hstep => (hs.step he hstep).1⟩)
    (fun _ _ _ => trivial) h

theorem Dialogue.noArming {cmds : BitVec 32 → Prop} {e : SdioEvent} (he : Dialogue cmds e) :
    NoArming e := by
  cases e with
  | write reg v =>
      cases reg with
      | dctrl => exact he.elim
      | _ => trivial
  | _ => trivial

theorem Dialogue.keepsPath {cmds : BitVec 32 → Prop} {e : SdioEvent} (he : Dialogue cmds e) :
    KeepsPath e := by
  cases e with
  | write reg v =>
      cases reg with
      | dctrl => exact he.elim
      | _ => trivial
  | _ => trivial

/-- Clearing the data flags ends the transfer. -/
theorem wp_clearDataFlags (h : Transferring s) :
    (clearFlagsSdio sdioMaskStaticDataFlags).wp dataPath D (fun _ _ s' => Idle s') g s :=
  ⟨trivial, fun _ _ hstep =>
    (h.step (e := .write .icr sdioMaskStaticDataFlags) trivial hstep).2.2 rfl⟩

theorem Polling.keepsPath {e : SdioEvent} (he : Polling e) : KeepsPath e := by
  cases e with
  | write reg v =>
      cases reg with
      | dctrl => exact he.elim
      | _ => trivial
  | _ => trivial

theorem emits_noArming {α : Type} {p : SdProc α} (hp : p.Emits (Dialogue fun _ => True) True) :
    p.Emits NoArming True :=
  hp.mono fun _ he => he.noArming

theorem emits_keepsPath {α : Type} {p : SdProc α} (hp : p.Emits (Dialogue fun _ => True) True) :
    p.Emits KeepsPath True :=
  hp.mono fun _ he => he.keepsPath

/-! ## The parts of a transfer -/

/-- The answer to a data command is still out. -/
structure Asked (s : PathState) : Prop where
  transfer : Transferring s
  command : isDataCommand s.command = true

theorem command_effect (e : SdioEvent) (hcmd : ∀ w, e ≠ .write .cmd w) :
    (s.effect e).command = s.command := by
  unfold PathState.effect
  split
  · rfl
  · split <;> rfl
  · exact absurd rfl (hcmd _)
  · rfl

theorem Asked.step {e : SdioEvent} {r : e.Response} (h : Asked s) (he : KeepsPath e)
    (hcmd : ∀ w, e ≠ .write .cmd w) (hstep : dataPath.step s e r s') : Asked s' := by
  refine ⟨(h.transfer.step he hstep).1, ?_⟩
  rcases hstep with ⟨raised, _, _, _, rfl⟩
  have hsame : ((s.raise raised).effect e).command = s.command := command_effect e hcmd
  unfold PathState.next
  split
  · exact (congrArg isDataCommand hsame).trans h.command
  · exact (congrArg isDataCommand hsame).trans h.command

theorem wp_clearFlagSdio_idle {flag : BitVec 32} (h : Idle s) :
    (clearFlagSdio flag).wp dataPath (fun _ => True) (fun _ _ s' => Idle s') g s :=
  wp_idle (emits_noArming emits_clearFlagSdio) h

theorem wp_clearFlagSdio_asked {flag : BitVec 32} (h : Asked s) :
    (clearFlagSdio flag).wp dataPath (fun _ => True) (fun _ _ s' => Asked s') g s := by
  refine wp_bind.2 (wp_perform.2 ⟨trivial, fun (icr : BitVec 32) s₁ hread => ?_⟩)
  have h₁ := h.step (e := .read .icr) trivial (by simp) hread
  exact ⟨trivial, fun _ s₂ hwrite =>
    h₁.step (e := .write .icr (icr ||| flag)) trivial (by simp) hwrite⟩

/-- A timeout or a CRC failure that ends the wait is a refusal. -/
theorem wp_waitResponse_path (h : Asked s) :
    (waitResponse fuel).wp dataPath (fun _ => True)
      (fun w _ s' => Asked s' ∧
        (hasFlag w sdioStaCtimeout = true ∨ hasFlag w sdioStaCcrcfail = true → Idle s')) g s := by
  refine wp_iter (fun _ _ s' => Asked s') ?_ (fun _ _ _ _ => trivial) fuel h
  intro _ g₁ s₁ h₁
  refine wp_bind.2 (wp_perform.2 ⟨trivial, fun w s₂ hstep => ?_⟩)
  have h₂ := h₁.step (e := .sta .cmdResp) trivial (by simp) hstep
  have hrefused := (h₁.transfer.step (e := .sta .cmdResp) trivial hstep).2.1
  split
  · refine ⟨h₂, fun hbad => hrefused ?_⟩
    show (isDataCommand s₁.command &&
      (hasFlag w sdioStaCtimeout || hasFlag w sdioStaCcrcfail)) = true
    rw [h₁.command]
    simpa using hbad
  · exact h₂

theorem wp_answerStatus_path {onTimeout onCrc : BitVec 32} (h : Asked s) :
    (answerStatus fuel onTimeout onCrc).wp dataPath (fun _ => True)
      (fun status _ s' => (status = 0 → Asked s') ∧ (status ≠ 0 → Idle s')) g s := by
  unfold answerStatus
  refine wp_seq (wp_waitResponse_path h) ?_
  rintro w g₁ s₁ ⟨h₁, hbad⟩
  split
  · rename_i htimeout
    refine wp_seq (wp_clearFlagSdio_idle (hbad (Or.inl htimeout))) ?_
    intro _ g₂ s₂ h₂
    exact ⟨fun hzero => absurd hzero (show errorWaitTime ≠ 0 by decide), fun _ => h₂⟩
  · split
    · rename_i hcrc
      refine wp_seq (wp_clearFlagSdio_idle (hbad (Or.inr hcrc))) ?_
      intro _ g₂ s₂ h₂
      exact ⟨fun hzero => absurd hzero (show errorCrc ≠ 0 by decide), fun _ => h₂⟩
    · refine wp_seq (wp_clearFlagSdio_asked h₁) ?_
      intro _ g₂ s₂ h₂
      exact ⟨fun _ => h₂, fun hne => absurd rfl hne⟩

/-- A data command that is not accepted ends the transfer. -/
theorem wp_dataCommandAnswer {cs : CardStatus} (h : Asked s) :
    (cmdResp1Error fuel cs).wp dataPath (fun _ => True)
      (fun r _ s' => Transferring s' ∧ (r.1 ≠ 0 → Idle s')) g s := by
  unfold cmdResp1Error
  refine wp_seq (wp_answerStatus_path h) ?_
  rintro status g₁ s₁ ⟨h₁, hbad⟩
  split
  · rename_i hne
    exact ⟨(hbad hne).toTransferring, fun _ => hbad hne⟩
  · rename_i hzero
    have hasked := h₁ (Decidable.not_not.1 hzero)
    refine wp_bind.2 (wp_perform.2 ⟨trivial, fun w s₂ hstep => ?_⟩)
    -- An error in the status word is a refusal, too.
    have h₂ := hasked.transfer.step (e := .read (.resp 0)) trivial hstep
    refine ⟨h₂.1, fun hne => h₂.2.1 ?_⟩
    show (isDataCommand s₁.command && r1Error w != 0) = true
    rw [hasked.command]
    simpa using hne

/-- A test that finds its flag set clears the data flags. -/
theorem wp_exitTests_path {ts : List (BitVec 32 × Int)} (h : Transferring s) :
    (exitTests ts).wp dataPath (fun _ => True)
      (fun status _ s' => Transferring s' ∧ (status ≠ 0 → Idle s')) g s := by
  induction ts generalizing g s with
  | nil => exact ⟨h, fun hne => absurd rfl hne⟩
  | cons t ts ih =>
      rcases t with ⟨flag, error⟩
      refine wp_seq (wp_transferring (emits_perform trivial) h) ?_
      intro sta g₁ s₁ h₁
      split
      · refine wp_seq (wp_clearDataFlags h₁) ?_
        intro _ g₂ s₂ h₂
        exact ⟨h₂.toTransferring, fun _ => h₂⟩
      · exact ih h₁

theorem wp_stopTransmission_path (h : Transferring s) :
    (stopTransmission fuel).wp dataPath (fun _ => True)
      (fun status _ s' => Transferring s' ∧ (status ≠ 0 → Idle s')) g s := by
  unfold stopTransmission
  refine wp_seq (wp_transferring (emits_perform trivial) h) ?_
  intro sta g₁ s₁ h₁
  split
  · refine wp_seq (wp_transferring (emits_keepsPath (emits_sendCommandSdio trivial)) h₁) ?_
    intro _ g₂ s₂ h₂
    refine wp_seq (wp_transferring (emits_keepsPath (emits_cmdResp1bError trivial)) h₂) ?_
    rintro ⟨status, cs⟩ g₃ s₃ h₃
    dsimp only
    split
    · refine wp_seq (wp_clearDataFlags h₃) ?_
      intro _ g₄ s₄ h₄
      exact ⟨h₄.toTransferring, fun _ => h₄⟩
    · exact ⟨h₃, fun hne => absurd rfl hne⟩
  · exact ⟨h₁, fun hne => absurd rfl hne⟩

/-- Arming the data path after it was idle. -/
theorem Idle.arm {v : BitVec 32} {r : Unit} (h : Idle s) (hv : hasFlag v sdioDctrlDten = true)
    (hstep : dataPath.step s (.write .dctrl v) r s') : Transferring s' := by
  rcases hstep with ⟨raised, _, _, _, rfl⟩
  have hraised := (h.raise raised).toTransferring
  have harmed : s.next raised (.write .dctrl v) r =
      { s.raise raised with enabled := true, transferring := true } := by
    simp [PathState.next, PathState.refuses, PathState.effect, hv]
  rw [harmed]
  exact ⟨hraised.unserved, hraised.flags, hraised.stale⟩

theorem wp_disable (h : Idle s) :
    (writeReg .dctrl 0#32).wp dataPath (fun _ => True) (fun _ _ s' => Idle s') g s :=
  wp_idle (emits_perform (show NoArming _ by unfold NoArming; decide)) h

theorem wp_sdioConfigData_path {dataControl length timeout : BitVec 32}
    (hv : hasFlag dataControl sdioDctrlDten = true) (h : Idle s) :
    (sdioConfigData dataControl length timeout).wp dataPath (fun _ => True)
      (fun _ _ s' => Transferring s') g s := by
  unfold sdioConfigData
  refine wp_seq (wp_idle (emits_perform trivial) h) ?_
  intro _ g₁ s₁ h₁
  refine wp_seq (wp_idle (emits_perform trivial) h₁) ?_
  intro _ g₂ s₂ h₂
  exact ⟨trivial, fun _ _ hstep => h₂.arm hv hstep⟩

theorem wp_sendDataCommand {command arg : BitVec 32}
    (hcmd : isDataCommand (commandWord command sdioCmdShortResp) = true) (h : Transferring s) :
    (sendCommandSdio command arg sdioCmdShortResp).wp dataPath (fun _ => True)
      (fun _ _ s' => Asked s') g s := by
  unfold sendCommandSdio
  refine wp_seq (wp_transferring (emits_perform trivial) h) ?_
  intro _ g₁ s₁ h₁
  refine ⟨trivial, fun _ s₂ hstep => ⟨?_, ?_⟩⟩
  · exact (h₁.step (e := .write .cmd _) trivial hstep).1
  · rcases hstep with ⟨raised, _, _, _, rfl⟩
    exact hcmd

/-! ## The block functions -/

section Functions

variable {data count buffer size address timeout : BitVec 32}

theorem wp_txFinish_path (h : Transferring s) :
    (txFinish fuel).wp dataPath (fun _ => True) (fun _ _ s' => Idle s') g s := by
  unfold txFinish
  refine wp_seq (wp_exitTests_path h) ?_
  rintro status g₁ s₁ ⟨h₁, hidle⟩
  split
  · rename_i hne
    exact hidle hne
  · refine wp_seq (wp_clearDataFlags h₁) ?_
    intro _ g₂ s₂ h₂
    exact wp_idle (emits_noArming (emits_waitCardReady trivial)) h₂

theorem wp_polling {α : Type} {p : SdProc α} (hp : p.Emits Polling True) (h : Transferring s) :
    p.wp dataPath (fun _ => True) (fun _ _ s' => Transferring s') g s :=
  wp_transferring (hp.mono fun _ he => he.keepsPath) h

theorem wp_writeSingleBlockSd_path (h : Idle s) :
    (writeSingleBlockSd fuel data size address timeout).wp dataPath (fun _ => True)
      (fun _ _ s' => Idle s') g s := by
  unfold writeSingleBlockSd
  split
  · exact h
  · refine wp_seq (wp_idle emits_globals h) ?_
    intro g₀ g₁ s₁ h₁
    refine wp_seq (wp_disable h₁) ?_
    intro _ g₂ s₂ h₂
    refine wp_seq (wp_idle (emits_noArming (emits_waitCardReady trivial)) h₂) ?_
    intro status g₃ s₃ h₃
    split
    · exact h₃
    · -- From here on the data path is enabled, until the flags are cleared.
      refine wp_seq (wp_sdioConfigData_path (by decide) h₃) ?_
      intro _ g₄ s₄ h₄
      refine wp_seq (wp_sendDataCommand (by decide) h₄) ?_
      intro _ g₅ s₅ h₅
      refine wp_seq (wp_dataCommandAnswer h₅) ?_
      rintro ⟨status, cs⟩ g₆ s₆ ⟨h₆, hidle⟩
      dsimp only
      split
      · rename_i hneg
        exact hidle (Int.ne_of_lt hneg)
      · refine wp_seq (wp_polling emits_txLoop h₆) ?_
        intro _ g₇ s₇ h₇
        exact wp_txFinish_path h₇

/-- The two multi-block functions start alike: once the command is answered, the transfer goes on,
or the command was not accepted and the data path is idle. -/
theorem wp_startTransfer {control length command : BitVec 32}
    {rest : Int × CardStatus → SdProc Int}
    (hcontrol : hasFlag control sdioDctrlDten = true)
    (hcmd : isDataCommand (commandWord command sdioCmdShortResp) = true) (h : Idle s)
    (haccepted : ∀ cs g s, Transferring s →
      (rest (0, cs)).wp dataPath (fun _ => True) (fun _ _ s' => Idle s') g s)
    (hrefused : ∀ status cs g s, status ≠ 0 → Idle s →
      (rest (status, cs)).wp dataPath (fun _ => True) (fun _ _ s' => Idle s') g s) :
    (do
      let g ← globals
      writeReg .dctrl 0#32
      sdioConfigData control length timeout
      sendCommandSdio command (cardAddress g address) sdioCmdShortResp
      let r ← cmdResp1Error fuel 0#32
      rest r : SdProc Int).wp dataPath (fun _ => True) (fun _ _ s' => Idle s') g s := by
  refine wp_seq (wp_idle emits_globals h) ?_
  intro g₀ g₁ s₁ h₁
  refine wp_seq (wp_disable h₁) ?_
  intro _ g₂ s₂ h₂
  refine wp_seq (wp_sdioConfigData_path hcontrol h₂) ?_
  intro _ g₃ s₃ h₃
  refine wp_seq (wp_sendDataCommand hcmd h₃) ?_
  intro _ g₄ s₄ h₄
  refine wp_seq (wp_dataCommandAnswer h₄) ?_
  rintro ⟨status, cs⟩ g₅ s₅ ⟨h₅, hidle⟩
  -- A command that is refused leaves the data path idle.
  by_cases hzero : status = 0
  · subst hzero
    exact haccepted cs g₅ s₅ h₅
  · exact hrefused status cs g₅ s₅ hzero (hidle hzero)

theorem wp_writeMultiBlockSd_path (h : Idle s) :
    (writeMultiBlockSd fuel data count address timeout).wp dataPath (fun _ => True)
      (fun _ _ s' => Idle s') g s := by
  unfold writeMultiBlockSd
  dsimp only
  split
  · split
    · exact wp_writeSingleBlockSd_path h
    · exact h
  · refine wp_startTransfer (by decide) (by decide) h ?_ ?_
    · intro cs g₁ s₁ h₁
      refine wp_seq (wp_polling emits_txLoop h₁) ?_
      intro _ g₂ s₂ h₂
      refine wp_seq (wp_stopTransmission_path h₂) ?_
      rintro status g₃ s₃ ⟨h₃, hidle⟩
      split
      · rename_i hne
        exact hidle hne
      · exact wp_txFinish_path h₃
    · intro status cs g₁ s₁ hne h₁
      dsimp only
      rw [if_pos hne]
      exact wp_seq (wp_idle (emits_noArming emits_clearFlagsSdio) h₁) fun _ _ _ h₂ => h₂

theorem wp_readSingleBlockSd_path (h : Idle s) :
    (readSingleBlockSd fuel buffer size address timeout).wp dataPath (fun _ => True)
      (fun _ _ s' => Idle s') g s := by
  unfold readSingleBlockSd
  split
  · exact h
  · -- The command goes out and is answered with the data path disabled.
    refine wp_seq (wp_disable h) ?_
    intro _ g₁ s₁ h₁
    refine wp_seq (wp_idle emits_globals h₁) ?_
    intro g₀ g₂ s₂ h₂
    refine wp_seq (wp_idle (emits_noArming (emits_sendCommandSdio trivial)) h₂) ?_
    intro _ g₃ s₃ h₃
    refine wp_seq (wp_idle (emits_noArming emits_cmdResp1Error) h₃) ?_
    rintro ⟨status, cs⟩ g₄ s₄ h₄
    dsimp only
    split
    · exact h₄
    · refine wp_seq (wp_sdioConfigData_path (by decide) h₄) ?_
      intro _ g₅ s₅ h₅
      refine wp_seq (wp_polling emits_rxSingle h₅) ?_
      intro addr g₆ s₆ h₆
      refine wp_seq (wp_exitTests_path h₆) ?_
      rintro status g₇ s₇ ⟨h₇, hidle⟩
      split
      · rename_i hne
        exact hidle hne
      · refine wp_seq (wp_polling emits_rxSingleDrain h₇) ?_
        intro _ g₈ s₈ h₈
        refine wp_seq (wp_clearDataFlags h₈) ?_
        intro _ g₉ s₉ h₉
        exact wp_idle (emits_noArming (emits_waitCardReady trivial)) h₉

theorem wp_readMultiBlockSd_path (h : Idle s) :
    (readMultiBlockSd fuel buffer count address timeout).wp dataPath (fun _ => True)
      (fun _ _ s' => Idle s') g s := by
  unfold readMultiBlockSd
  dsimp only
  split
  · split
    · exact wp_readSingleBlockSd_path h
    · exact h
  · refine wp_startTransfer (by decide) (by decide) h ?_ ?_
    · -- The flags are cleared at the end, or by the way an error leaves.
      intro cs g₁ s₁ h₁
      refine wp_seq (wp_polling emits_rxMulti h₁) ?_
      intro st g₂ s₂ h₂
      refine wp_seq (wp_stopTransmission_path h₂) ?_
      rintro status g₃ s₃ ⟨h₃, hidle⟩
      split
      · rename_i hne
        exact hidle hne
      · refine wp_seq (wp_exitTests_path h₃) ?_
        rintro status g₄ s₄ ⟨h₄, hidle⟩
        split
        · rename_i hne
          exact hidle hne
        · refine wp_seq (wp_polling emits_rxMultiDrain h₄) ?_
          intro _ g₅ s₅ h₅
          refine wp_seq (wp_clearDataFlags h₅) ?_
          intro _ g₆ s₆ h₆
          refine wp_seq (wp_idle (emits_perform trivial) h₆) ?_
          intro _ g₇ s₇ h₇
          exact wp_idle (emits_noArming (emits_waitCardReady trivial)) h₇
    · intro status cs g₁ s₁ hne h₁
      dsimp only
      rw [if_pos hne]
      exact h₁

end Functions

/-! ## Runs of calls -/

/-- A call that finds the data path idle leaves it idle, whatever it returns. -/
theorem TransferCall.wp_run (c : TransferCall) (h : Idle s) :
    (c.run fuel).wp dataPath (fun _ => True) (fun _ _ s' => Idle s') g s := by
  cases c with
  | readSingle buffer sizeBuff address timeout => exact wp_readSingleBlockSd_path h
  | readMulti buffer countBlocks address timeout => exact wp_readMultiBlockSd_path h
  | writeSingle data size address timeout => exact wp_writeSingleBlockSd_path h
  | writeMulti data countBlocks address timeout => exact wp_writeMultiBlockSd_path h
  | pause ms => exact wp_seq (wp_idle (emits_perform trivial) h) fun _ _ _ h₁ => h₁

theorem wp_runTransfers (calls : List TransferCall) (h : Idle s) :
    (runTransfers fuel calls).wp dataPath (fun _ => True) (fun _ _ s' => Idle s') g s := by
  induction calls generalizing g s with
  | nil => exact h
  | cons c cs ih =>
      -- Each call starts where the one before it ended.
      refine wp_seq (c.wp_run h) ?_
      intro status g₁ s₁ h₁
      refine wp_seq (ih h₁) ?_
      intro rest g₂ s₂ h₂
      exact h₂

/-! ## What a loop may start with -/

def PathState.start : PathState :=
  { flags := 0#32
    enabled := false
    stale := 0#32
    transferring := false
    command := 0#32
    unserved := 0#32
    inherited := 0#32 }

theorem idle_start : Idle PathState.start := ⟨rfl, rfl, rfl⟩

/-- Whenever a polling loop reads `STA`, in any run of any calls, none of its flags is set from an
earlier call if and only if none of them is inherited: was a start bit error, came up outside a
transfer or was up when a data command was refused. -/
theorem loop_clean_iff {calls : List TransferCall} {flags : BitVec 32}
    {k : BitVec 32 → Prog SdioEvent SdioEvent.Response (List Int × SdGlobals)}
    (hreach : Reaches dataPath (runTransfers fuel calls g) PathState.start
      (.op (.sta (.dataLoop flags)) k) s') :
    s'.stale &&& flags = 0#32 ↔ s'.inherited &&& flags = 0#32 := by
  have hsafe : (runTransfers fuel calls).wp dataPath (fun _ => True)
      (fun _ _ s' => Idle s') g PathState.start := wp_runTransfers calls idle_start
  -- The environment requires the equivalence at every read of `STA` by a loop.
  have hreq := Prog.wp_req hsafe hreach
  exact hreq

/-! ## A peripheral that raises one flag in a transfer -/

/-- The flag comes up in the polling loops. -/
def raisedInLoop (flag : BitVec 32) (s : PathState) : SdioEvent → BitVec 32
  | .sta (.dataLoop _) => if s.enabled then flag else 0#32
  | _ => 0#32

/-- Every command is answered without error by a card that is ready. -/
def shown (flag : BitVec 32) (s : PathState) (e : SdioEvent) : e.Response :=
  e.ready (fun site =>
    (s.flags ||| raisedInLoop flag s (.sta site)) &&& dataFlags ||| sdioStaCmdrend)

/-- The strategy of this peripheral and this card. -/
def endingWith (flag : BitVec 32) (s : PathState) (e : SdioEvent) : e.Response × PathState :=
  (shown flag s e, s.next (raisedInLoop flag s e) e (shown flag s e))

theorem raisedInLoop_enabled {flag : BitVec 32} {e : SdioEvent}
    (h : raisedInLoop flag s e ≠ 0#32) : s.enabled = true := by
  unfold raisedInLoop at h
  split at h
  · split at h
    · rename_i henabled
      exact henabled
    · exact absurd rfl h
  · exact absurd rfl h

theorem raisedInLoop_and {flag : BitVec 32} {e : SdioEvent} {m : BitVec 32}
    (hflag : flag &&& m = 0#32) : raisedInLoop flag s e &&& m = 0#32 := by
  unfold raisedInLoop
  split
  · split
    · exact hflag
    · exact BitVec.zero_and
  · exact BitVec.zero_and

theorem endingWith_allowed {flag : BitVec 32} (hflag : flag &&& ~~~dataFlags = 0#32)
    (s : PathState) (e : SdioEvent) :
    dataPath.step s e (endingWith flag s e).1 (endingWith flag s e).2 := by
  refine ⟨raisedInLoop flag s e, raisedInLoop_and hflag, raisedInLoop_enabled, ?_, rfl⟩
  cases e with
  | sta site =>
      -- `CMDREND` is no data flag, so the data flags shown are those that are up.
      have hother : sdioStaCmdrend &&& dataFlags = 0#32 := by decide
      have hdistrib : ∀ x : BitVec 32,
          (x &&& dataFlags ||| sdioStaCmdrend) &&& dataFlags = x &&& dataFlags := by
        intro x
        ext i
        have hbit := congrArg (fun b => b.getLsbD i) hother
        simp at hbit ⊢
        grind
      exact hdistrib _
  | _ => trivial

/-- `read_single_block_sd` is called twice. -/
def twoReads : List TransferCall :=
  [.readSingle 0x20001000#32 512#32 0#32 1000000#32,
    .readSingle 0x20001000#32 512#32 0#32 1000000#32]

/-- The first read ends with a start bit error, and the second enters its polling loop with
`STBITERR` still set. -/
theorem stbiterr_poisons_next_read :
    ∃ (flags : BitVec 32) (k : BitVec 32 → Prog SdioEvent SdioEvent.Response (List Int × SdGlobals))
        (s' : PathState),
      Reaches dataPath (runTransfers 2 twoReads blankGlobals) PathState.start
        (.op (.sta (.dataLoop flags)) k) s' ∧
      s'.stale &&& flags &&& sdioStaStbiterr ≠ 0#32 := by
  have hsummary : (((runTransfers 2 twoReads blankGlobals).after (endingWith sdioStaStbiterr) 26
        PathState.start).1.next?,
      ((runTransfers 2 twoReads blankGlobals).after (endingWith sdioStaStbiterr) 26
        PathState.start).2.stale) =
      (some (.sta (.dataLoop rxSingleLoopFlags)), sdioStaStbiterr) := by
    decide +kernel
  have hstart : sdioStaStbiterr &&& ~~~dataFlags = 0#32 := by decide
  rcases Prog.after_stops PathState.stale (endingWith_allowed hstart) 26 hsummary with
    ⟨k, s', hreach, hstale⟩
  refine ⟨rxSingleLoopFlags, k, s', hreach, ?_⟩
  rw [hstale]
  decide

/-- After a CRC failure in the first read the second one starts clean. -/
theorem loop_clean_iff_after_crc :
    ∃ (k : BitVec 32 → Prog SdioEvent SdioEvent.Response (List Int × SdGlobals)) (s' : PathState),
      Reaches dataPath (runTransfers 2 twoReads blankGlobals) PathState.start
        (.op (.sta (.dataLoop rxSingleLoopFlags)) k) s' ∧
      (s'.stale &&& rxSingleLoopFlags = 0#32 ↔ s'.inherited &&& rxSingleLoopFlags = 0#32) ∧
      s'.inherited = 0#32 := by
  have hsummary : (((runTransfers 2 twoReads blankGlobals).after (endingWith sdioStaDcrcfail) 24
        PathState.start).1.next?,
      ((runTransfers 2 twoReads blankGlobals).after (endingWith sdioStaDcrcfail) 24
        PathState.start).2.inherited) =
      (some (.sta (.dataLoop rxSingleLoopFlags)), 0#32) := by
    decide +kernel
  have hcrc : sdioStaDcrcfail &&& ~~~dataFlags = 0#32 := by decide
  rcases Prog.after_stops PathState.inherited (endingWith_allowed hcrc) 24 hsummary with
    ⟨k, s', hreach, hinherited⟩
  exact ⟨k, s', hreach, loop_clean_iff hreach, hinherited⟩

end Driver
end SdioFat32
