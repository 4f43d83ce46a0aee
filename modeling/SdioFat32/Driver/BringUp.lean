import SdioFat32.Driver.Identification
import SdioFat32.Driver.AnsweringCard

/-!
# BringUp — `init_sd` followed by `init_sd_card`

Every command with a response is ended by the card with one of `CMDREND`, `CTIMEOUT` and
`CCRCFAIL`, after at most `delay` empty polls; these flags come up for no other reason.  The
unbounded loop of a `CmdRespN` function then ends if and only if a command was sent for it.

One was not if the card refused the `CMD55` before `ACMD6`: `init_sd_card` logs the failure and
waits for the answer to `ACMD6` all the same.
-/

namespace SdioFat32
namespace Driver

open Effects Proc

/-! ## The card at the end of the command line -/

inductive EndFlag where
  | cmdrend
  | ctimeout
  | ccrcfail
  deriving DecidableEq

def EndFlag.mask : EndFlag → BitVec 32
  | .cmdrend => sdioStaCmdrend
  | .ctimeout => sdioStaCtimeout
  | .ccrcfail => sdioStaCcrcfail

/-- How the card ends a command: the flag, and what `RESP1` then holds. -/
structure Ending where
  flag : EndFlag
  word : BitVec 32

/-- The status `CmdResp1Error` makes of it. -/
def Ending.status (x : Ending) : Int :=
  match x.flag with
  | .cmdrend => r1Error x.word
  | .ctimeout => errorWaitTime
  | .ccrcfail => errorCrc

/-- `APP_CMD` after the answer: without a status word the field keeps its value. -/
def Ending.appCmd (x : Ending) (before : Bool) : Bool :=
  if x.flag = .cmdrend then CardStatus.appCmd x.word else before

/-- The endings of `CMD55` make `send_command_specific` give up: `attempts` errors, or an error
after which `APP_CMD` is not set. -/
def givenUp : Nat → Bool → List Ending → Bool
  | 0, _, _ => true
  | _ + 1, _, [] => false
  | attempts + 1, app, x :: xs =>
      x.status ≠ 0 && (!x.appCmd app || givenUp attempts (x.appCmd app) xs)

structure LineState where
  /-- A command with a response was sent and the card has not ended it. -/
  outstanding : Bool
  /-- The polls that may still be empty. -/
  quiet : Nat
  flags : BitVec 32
  resp1 : BitVec 32
  /-- The last command with a response. -/
  command : BitVec 32
  /-- `CMD7` was sent. -/
  selected : Bool
  /-- The `CMD55` attempts after `CMD7`: what `cs_pattern` happened to hold, and the endings. -/
  attempt : Option (BitVec 32 × List Ending)

def refusedBy (attempt : Option (BitVec 32 × List Ending)) : Bool :=
  attempt.any fun a => givenUp 8 (CardStatus.appCmd a.1) a.2

def LineState.refused (s : LineState) : Bool := refusedBy s.attempt

/-- An answer is still to be taken in. -/
def LineState.Awaited (s : LineState) : Prop :=
  s.outstanding = true ∨ hasFlag s.flags responseFlags = true

def selectCardWord : BitVec 32 := commandWord cmdSelectCard sdioCmdShortResp

/-- The card ends the last command. -/
def LineState.ended (s : LineState) (x : Ending) : LineState :=
  { s with
    outstanding := false
    flags := s.flags ||| x.flag.mask
    resp1 := x.word
    attempt :=
      if s.command = appCmdWord then s.attempt.map fun a => (a.1, a.2 ++ [x]) else s.attempt }

/-- Nothing was sent yet. -/
def LineState.start : LineState :=
  { outstanding := false
    quiet := 0
    flags := 0#32
    resp1 := 0#32
    command := 0#32
    selected := false
    attempt := none }

def LineState.send (s : LineState) (delay : Nat) (word : BitVec 32) : LineState :=
  if expectsReply word then
    { s with
      outstanding := true
      quiet := delay
      command := word
      selected := s.selected || word = selectCardWord }
  else s

/-- Before each event the card may end the command that is outstanding.  `req` is what is shown of
every poll: an answer is awaited, unless the `CMD55` before `ACMD6` was refused. -/
def cardLine (delay : Nat) : Env SdioEvent SdioEvent.Response LineState where
  req s e :=
    match e with
    | .sta .cmdResp => s.Awaited ↔ s.refused = false
    | _ => True
  step s e r s' :=
    ∃ s₁, (s₁ = s ∨ s.outstanding = true ∧ ∃ x, s₁ = s.ended x) ∧
      match e, r with
      | .sta .cmdResp, (w : BitVec 32) =>
          w &&& responseFlags = s₁.flags &&& responseFlags ∧
            (s₁.outstanding = true → 0 < s₁.quiet) ∧ s' = { s₁ with quiet := s₁.quiet - 1 }
      | .sta _, (w : BitVec 32) => w &&& responseFlags = s₁.flags &&& responseFlags ∧ s' = s₁
      | .read (.resp 0), (w : BitVec 32) => w = s₁.resp1 ∧ s' = s₁
      | .write .icr v, _ => s' = { s₁ with flags := s₁.flags &&& ~~~v }
      | .write .cmd v, _ => s' = s₁.send delay v
      | .indeterminate, (w : BitVec 32) =>
          s' = { s₁ with attempt := if s₁.selected then some (w, []) else s₁.attempt }
      | _, _ => s' = s₁

/-! ## Between commands -/

/-- Nothing is awaited; `sel` and `a` are what is remembered. -/
structure Resting (sel : Bool) (a : Option (BitVec 32 × List Ending)) (s : LineState) : Prop where
  outstanding : s.outstanding = false
  flags : s.flags &&& responseFlags = 0#32
  selected : s.selected = sel
  attempt : s.attempt = a

/-- The card has not yet ended `command`. -/
structure Expecting (delay : Nat) (command : BitVec 32) (sel : Bool)
    (a : Option (BitVec 32 × List Ending)) (s : LineState) : Prop where
  outstanding : s.outstanding = true
  quiet : s.quiet ≤ delay
  flags : s.flags &&& responseFlags = 0#32
  command : s.command = command
  selected : s.selected = sel
  attempt : s.attempt = a

variable {delay fuel : Nat} {D : LineState → Prop} {g : SdGlobals} {s s' : LineState} {α β : Type}
  {sel : Bool} {a : Option (BitVec 32 × List Ending)}

theorem or_and_distrib (x y m : BitVec 32) : (x ||| y) &&& m = x &&& m ||| y &&& m := by
  ext i
  simp [Bool.and_or_distrib_right]

theorem and_clear_zero {flags m v : BitVec 32} (h : flags &&& m = 0#32) :
    flags &&& ~~~v &&& m = 0#32 := by
  calc
    flags &&& ~~~v &&& m = flags &&& m &&& ~~~v := by ac_rfl
    _ = 0#32 := by rw [h, BitVec.zero_and]

/-- While nothing is awaited, events without an answer change nothing. -/
theorem Resting.mute {e : SdioEvent} {r : e.Response} (h : Resting sel a s) (he : Mute e)
    (hstep : (cardLine delay).step s e r s') : Resting sel a s' := by
  rcases hstep with ⟨s₁, hs₁ | ⟨hout, _⟩, hstep⟩
  · subst hs₁
    cases e with
    | sta site =>
        cases site with
        | cmdResp => exact he.elim
        | _ => exact hstep.2 ▸ h
    | read reg =>
        cases reg with
        | resp i =>
            by_cases hi : i = 0
            · subst hi
              exact hstep.2 ▸ h
            · match i, hi, r, hstep with
              | 1, _, _, hstep => exact (show s' = s₁ from hstep) ▸ h
              | 2, _, _, hstep => exact (show s' = s₁ from hstep) ▸ h
              | 3, _, _, hstep => exact (show s' = s₁ from hstep) ▸ h
        | _ => exact (show s' = s₁ from hstep) ▸ h
    | write reg v =>
        cases reg with
        | cmd =>
            have hno : expectsReply v = false := he
            have hsame : s' = s₁.send delay v := hstep
            rw [hsame, LineState.send, hno]
            exact h
        -- Clearing flags leaves none up.
        | icr =>
            subst hstep
            exact ⟨h.outstanding, and_clear_zero h.flags, h.selected, h.attempt⟩
        | _ => exact (show s' = s₁ from hstep) ▸ h
    | indeterminate => exact he.elim
    | _ => exact (show s' = s₁ from hstep) ▸ h
  · exact absurd (hout.symm.trans h.outstanding) Bool.true_eq_false.mp

theorem Mute.line_req {e : SdioEvent} (he : Mute e) : (cardLine delay).req s e := by
  cases e with
  | sta site =>
      cases site with
      | cmdResp => exact he.elim
      | _ => trivial
  | _ => trivial

/-- A procedure that returns with nothing awaited, and remembers nothing new. -/
def Talks (delay : Nat) (D : LineState → Prop) (sel : Bool)
    (a : Option (BitVec 32 × List Ending)) (p : SdProc α) : Prop :=
  ∀ g s, Resting sel a s → p.wp (cardLine delay) D (fun _ _ s' => Resting sel a s') g s

theorem Talks.bind {p : SdProc α} {f : α → SdProc β} (hp : Talks delay D sel a p)
    (hf : ∀ x, Talks delay D sel a (f x)) : Talks delay D sel a (p >>= f) := by
  intro g s h
  refine wp_seq (hp g s h) ?_
  intro x g₁ s₁ h₁
  exact hf x g₁ s₁ h₁

theorem Talks.ite {c : Prop} [Decidable c] {p q : SdProc α} (hp : Talks delay D sel a p)
    (hq : Talks delay D sel a q) : Talks delay D sel a (if c then p else q) := by
  split
  · exact hp
  · exact hq

theorem talks_of_mute {p : SdProc α} (hp : p.Emits Mute False) : Talks delay D sel a p := by
  intro g s h
  exact wp_frame hp (fun _ _ hs he => ⟨he.line_req, fun _ _ hstep => hs.mute he hstep⟩)
    (fun _ hcut => hcut.elim) h

theorem talks_pure (x : α) : Talks delay D sel a (pure x : SdProc α) :=
  talks_of_mute (emits_pure x)

theorem talks_globals : Talks delay D sel a (globals : SdProc SdGlobals) :=
  talks_of_mute emits_globals

theorem talks_assign {f : SdGlobals → SdGlobals} : Talks delay D sel a (assign f : SdProc Unit) :=
  talks_of_mute (emits_assign f)

/-! ## Taking in an answer -/

/-- What is remembered once the card has ended `command`. -/
def remember (command : BitVec 32) (a : Option (BitVec 32 × List Ending)) (x : Ending) :
    Option (BitVec 32 × List Ending) :=
  if command = appCmdWord then a.map fun a => (a.1, a.2 ++ [x]) else a

/-- The card has ended a command and `RESP1` holds `word`; of the response flags at most those of
`left` are still up. -/
structure Ended (left word : BitVec 32) (sel : Bool) (a : Option (BitVec 32 × List Ending))
    (s : LineState) : Prop where
  outstanding : s.outstanding = false
  flags : s.flags &&& responseFlags &&& ~~~left = 0#32
  resp1 : s.resp1 = word
  selected : s.selected = sel
  attempt : s.attempt = a

theorem EndFlag.mask_and (f : EndFlag) : f.mask &&& responseFlags = f.mask := by
  cases f <;> decide

@[simp] theorem EndFlag.hasFlag_ctimeout (f : EndFlag) :
    hasFlag f.mask sdioStaCtimeout = decide (f = .ctimeout) := by
  cases f <;> decide

@[simp] theorem EndFlag.hasFlag_ccrcfail (f : EndFlag) :
    hasFlag f.mask sdioStaCcrcfail = decide (f = .ccrcfail) := by
  cases f <;> decide

theorem EndFlag.hasFlag_mask (f : EndFlag) : hasFlag f.mask responseFlags = true := by
  cases f <;> decide

theorem Expecting.flags_ended {command : BitVec 32} (h : Expecting delay command sel a s)
    (x : Ending) : (s.ended x).flags &&& responseFlags = x.flag.mask := by
  calc
    (s.flags ||| x.flag.mask) &&& responseFlags
        = s.flags &&& responseFlags ||| x.flag.mask &&& responseFlags := or_and_distrib _ _ _
    _ = x.flag.mask := by rw [h.flags, x.flag.mask_and, BitVec.zero_or]

theorem Expecting.ended {command : BitVec 32} (h : Expecting delay command sel a s) (x : Ending) :
    Ended x.flag.mask x.word sel (remember command a x) (s.ended x) := by
  refine ⟨rfl, ?_, rfl, h.selected, ?_⟩
  · rw [h.flags_ended x]
    exact BitVec.and_not_self _
  · rw [LineState.ended, remember, h.command, h.attempt]

/-- The flags a poll shows. -/
def Shows (w : BitVec 32) (x : Ending) : Prop := w &&& responseFlags = x.flag.mask

theorem Shows.hasFlag {w m : BitVec 32} {x : Ending} (h : Shows w x)
    (hm : responseFlags &&& m = m) : hasFlag w m = hasFlag x.flag.mask m := by
  rw [Driver.hasFlag, Driver.hasFlag, ← h, BitVec.and_assoc, hm]

theorem wp_waitResponse_line {command : BitVec 32} (hfuel : delay < fuel)
    (ha : refusedBy a = false) (h : Expecting delay command sel a s) :
    (waitResponse fuel).wp (cardLine delay) D
      (fun w _ s' => ∃ x : Ending, Shows w x ∧
        Ended x.flag.mask x.word sel (remember command a x) s') g s := by
  unfold waitResponse
  refine wp_iter_total
    (fun _ _ s' => Expecting delay command sel a s') (fun _ _ s' => s'.quiet)
    ?_ fuel h (Nat.lt_of_le_of_lt h.quiet hfuel)
  intro _ g₁ s₁ h₁
  have hrefused₁ : s₁.refused = false := by rw [LineState.refused, h₁.attempt, ha]
  refine wp_bind.2 (wp_perform.2 ⟨iff_of_true (Or.inl h₁.outstanding) hrefused₁, ?_⟩)
  rintro (w : BitVec 32) s₂ ⟨s₃, hs₃, hshown, hquiet, rfl⟩
  rcases hs₃ with rfl | ⟨_, x, rfl⟩
  · -- Nothing is shown, and the number of empty polls left drops.
    have hnone : hasFlag w (sdioStaCmdrend ||| sdioStaCtimeout ||| sdioStaCcrcfail) = false := by
      have hzero : w &&& responseFlags = 0#32 := hshown.trans h₁.flags
      simpa [hasFlag, responseFlags] using hzero
    rw [if_neg (by simp [hnone])]
    have hpos := hquiet h₁.outstanding
    have hless : s₃.quiet - 1 < s₃.quiet := Nat.sub_lt hpos Nat.one_pos
    exact ⟨⟨h₁.outstanding, Nat.le_trans (Nat.sub_le _ _) h₁.quiet, h₁.flags, h₁.command,
      h₁.selected, h₁.attempt⟩, hless⟩
  · have hended := h₁.ended x
    have hshows : Shows w x := hshown.trans (h₁.flags_ended x)
    have hsome : hasFlag w (sdioStaCmdrend ||| sdioStaCtimeout ||| sdioStaCcrcfail) = true :=
      (hshows.hasFlag (m := responseFlags) (by decide)).trans x.flag.hasFlag_mask
    rw [if_pos hsome]
    exact ⟨x, hshows, hended.outstanding, hended.flags, hended.resp1, hended.selected,
      hended.attempt⟩

/-! ## Clearing the flags -/

theorem Ended.resting {word : BitVec 32} (h : Ended 0#32 word sel a s) : Resting sel a s where
  outstanding := h.outstanding
  flags := by
    have hflags := h.flags
    rwa [show ~~~(0#32) = BitVec.allOnes 32 from rfl, BitVec.and_allOnes] at hflags
  selected := h.selected
  attempt := h.attempt

theorem wp_clearFlagSdio_line {flag left word : BitVec 32} (h : Ended left word sel a s) :
    (clearFlagSdio flag).wp (cardLine delay) D
      (fun _ _ s' => Ended (left &&& ~~~flag) word sel a s') g s := by
  refine ⟨trivial, ?_⟩
  rintro icr s₁ ⟨s₂, hs₂ | ⟨hout, _⟩, rfl⟩
  · subst hs₂
    refine ⟨trivial, ?_⟩
    rintro _ s₃ ⟨s₄, hs₄ | ⟨hout, _⟩, rfl⟩
    · subst hs₄
      refine ⟨h.outstanding, ?_, h.resp1, h.selected, h.attempt⟩
      -- A flag that is still up was up before and is in neither of the two masks.
      have hflags := h.flags
      rw [BitVec.eq_of_getLsbD_eq_iff] at hflags ⊢
      intro i hi
      have hbit := hflags i hi
      simp only [BitVec.getLsbD_and, BitVec.getLsbD_not, hi] at hbit ⊢
      grind
    · exact absurd (hout.symm.trans h.outstanding) Bool.true_eq_false.mp
  · exact absurd (hout.symm.trans h.outstanding) Bool.true_eq_false.mp

theorem wp_readResp0_line {left word : BitVec 32} (h : Ended left word sel a s) :
    (readReg (.resp 0)).wp (cardLine delay) D
      (fun w _ s' => w = word ∧ Ended left word sel a s') g s := by
  refine ⟨trivial, ?_⟩
  rintro w s₁ ⟨s₂, hs₂ | ⟨hout, _⟩, hw, rfl⟩
  · subst hs₂
    exact ⟨(show w = _ from hw).trans h.resp1, h⟩
  · exact absurd (hout.symm.trans h.outstanding) Bool.true_eq_false.mp

/-- What `answerStatus` makes of the ending. -/
def Ending.lineStatus (x : Ending) : Int :=
  match x.flag with
  | .cmdrend => 0
  | .ctimeout => errorWaitTime
  | .ccrcfail => errorCrc

/-- The mask with which a response function clears `flag`. -/
def Clears (flag mask : BitVec 32) : Prop := flag &&& ~~~mask = 0#32

instance (flag mask : BitVec 32) : Decidable (Clears flag mask) :=
  inferInstanceAs (Decidable (_ = _))

theorem Ended.cleared {flag mask word : BitVec 32} (h : Ended (flag &&& ~~~mask) word sel a s)
    (hclears : Clears flag mask) : Ended 0#32 word sel a s := by
  have hnone : flag &&& ~~~mask = 0#32 := hclears
  exact hnone ▸ h

theorem wp_answerStatus_line {command onTimeout onCrc : BitVec 32} (hfuel : delay < fuel)
    (ha : refusedBy a = false) (htimeout : Clears sdioStaCtimeout onTimeout)
    (hcrc : Clears sdioStaCcrcfail onCrc) (h : Expecting delay command sel a s) :
    (answerStatus fuel onTimeout onCrc).wp (cardLine delay) D
      (fun status _ s' => ∃ x : Ending, status = x.lineStatus ∧
        Ended 0#32 x.word sel (remember command a x) s') g s := by
  unfold answerStatus
  refine wp_seq (wp_waitResponse_line hfuel ha h) ?_
  rintro w g₁ s₁ ⟨x, hshows, hended⟩
  rw [hshows.hasFlag (m := sdioStaCtimeout) (by decide),
    hshows.hasFlag (m := sdioStaCcrcfail) (by decide), x.flag.hasFlag_ctimeout,
    x.flag.hasFlag_ccrcfail]
  -- The flag that is up decides, and it is the one that is cleared.
  rcases x with ⟨flag, word⟩
  cases flag with
  | cmdrend =>
      rw [if_neg (by simp), if_neg (by simp)]
      refine wp_seq (wp_clearFlagSdio_line hended) ?_
      intro _ g₂ s₂ h₂
      have hclears : Clears sdioStaCmdrend sdioMaskStaticCmdFlags := by decide
      exact ⟨⟨.cmdrend, word⟩, rfl, h₂.cleared hclears⟩
  | ctimeout =>
      rw [if_pos (by simp)]
      refine wp_seq (wp_clearFlagSdio_line hended) ?_
      intro _ g₂ s₂ h₂
      exact ⟨⟨.ctimeout, word⟩, rfl, h₂.cleared htimeout⟩
  | ccrcfail =>
      rw [if_neg (by simp), if_pos (by simp)]
      refine wp_seq (wp_clearFlagSdio_line hended) ?_
      intro _ g₂ s₂ h₂
      exact ⟨⟨.ccrcfail, word⟩, rfl, h₂.cleared hcrc⟩

/-! ## The response functions -/

/-- A procedure that takes in the answer to `command`. -/
def SettledBy (delay : Nat) (D : LineState → Prop) (command : BitVec 32) (sel : Bool)
    (a : Option (BitVec 32 × List Ending)) (p : SdProc α) : Prop :=
  ∀ g s, Expecting delay command sel a s →
    p.wp (cardLine delay) D (fun _ _ s' => ∃ x, Resting sel (remember command a x) s') g s

variable {command : BitVec 32}

theorem settled_by_answerStatus {onTimeout onCrc : BitVec 32} {f : Int → SdProc α}
    (hfuel : delay < fuel) (ha : refusedBy a = false) (htimeout : Clears sdioStaCtimeout onTimeout)
    (hcrc : Clears sdioStaCcrcfail onCrc) (hf : ∀ status, (f status).Emits Mute False) :
    SettledBy delay D command sel a (answerStatus fuel onTimeout onCrc >>= f) := by
  intro g s h
  refine wp_seq (wp_answerStatus_line hfuel ha htimeout hcrc h) ?_
  rintro status g₁ s₁ ⟨x, _, hended⟩
  refine wp_mono (talks_of_mute (hf status) g₁ s₁ hended.resting) ?_
  intro _ _ s₂ h₂
  exact ⟨x, h₂⟩

theorem wp_cmdResp1Error_line {cs : CardStatus} (hfuel : delay < fuel) (ha : refusedBy a = false)
    (h : Expecting delay command sel a s) :
    (cmdResp1Error fuel cs).wp (cardLine delay) D
      (fun r _ s' => ∃ x : Ending, r.1 = x.status ∧
        CardStatus.appCmd r.2 = x.appCmd (CardStatus.appCmd cs) ∧
        Resting sel (remember command a x) s') g s := by
  unfold cmdResp1Error
  refine wp_seq (wp_answerStatus_line hfuel ha (by decide) (by decide) h) ?_
  rintro status g₁ s₁ ⟨⟨flag, word⟩, rfl, hended⟩
  cases flag with
  | cmdrend =>
      rw [if_neg (by simp [Ending.lineStatus])]
      refine wp_seq (wp_readResp0_line hended) ?_
      rintro w g₂ s₂ ⟨rfl, h₂⟩
      exact ⟨⟨.cmdrend, w⟩, rfl, CardStatus.appCmd_copyFields cs w, h₂.resting⟩
  | ctimeout =>
      rw [if_pos (by simp [Ending.lineStatus, errorWaitTime])]
      exact ⟨⟨.ctimeout, word⟩, rfl, rfl, hended.resting⟩
  | ccrcfail =>
      rw [if_pos (by simp [Ending.lineStatus, errorCrc])]
      exact ⟨⟨.ccrcfail, word⟩, rfl, rfl, hended.resting⟩

theorem settled_by_cmdResp1Error {cs : CardStatus} (hfuel : delay < fuel)
    (ha : refusedBy a = false) : SettledBy delay D command sel a (cmdResp1Error fuel cs) := by
  intro g s h
  refine wp_mono (wp_cmdResp1Error_line hfuel ha h) ?_
  rintro _ _ s' ⟨x, _, _, hs'⟩
  exact ⟨x, hs'⟩

theorem settled_by_cmdResp2Error {type : R2Type} (hfuel : delay < fuel) (ha : refusedBy a = false) :
    SettledBy delay D command sel a (cmdResp2Error fuel type) := by
  refine settled_by_answerStatus hfuel ha (by decide) (by decide) ?_
  intro status
  refine emits_ite (emits_pure _) (emits_globals.bind fun g => ?_)
  cases type with
  | cid => exact emits_sdioReadLongResp.bind fun _ => (emits_assign _).bind fun _ => emits_pure _
  | csd => exact emits_sdioReadLongResp.bind fun _ => (emits_assign _).bind fun _ => emits_pure _

/-- R3 ignores a CRC failure: it clears that flag first and then, without a timeout, all. -/
theorem settled_by_cmdResp3Error (hfuel : delay < fuel) (ha : refusedBy a = false) :
    SettledBy delay D command sel a (cmdResp3Error fuel) := by
  intro g s h
  unfold cmdResp3Error
  refine wp_seq (wp_waitResponse_line hfuel ha h) ?_
  rintro w g₁ s₁ ⟨x, hshows, hended⟩
  rw [hshows.hasFlag (m := sdioStaCtimeout) (by decide), x.flag.hasFlag_ctimeout]
  refine wp_seq (wp_clearFlagSdio_line hended) ?_
  intro _ g₂ s₂ h₂
  split
  · rename_i htimeout
    have hflag : x.flag = .ctimeout := of_decide_eq_true htimeout
    rw [hflag] at h₂
    refine wp_seq (wp_clearFlagSdio_line h₂) ?_
    intro _ g₃ s₃ h₃
    exact ⟨x, h₃.resting⟩
  · rename_i htimeout
    refine wp_seq (wp_clearFlagSdio_line h₂) ?_
    intro _ g₃ s₃ h₃
    -- What `CMDREND` and the failed CRC leave is cleared.
    have hnone : x.flag.mask &&& ~~~sdioStaCcrcfail &&& ~~~sdioMaskStaticCmdFlags = 0#32 := by
      cases x.flag <;> decide
    rw [hnone] at h₃
    have hmute : ∀ f : BitVec 32 → SdProc Int, (∀ w, (f w).Emits Mute False) →
        (readReg (.resp 0) >>= f).Emits Mute False := fun f hf =>
      Emits.bind (emits_perform (e := SdioEvent.read (.resp 0)) trivial) hf
    refine wp_mono (talks_of_mute (hmute _ fun response => ?_) g₃ s₃ h₃.resting) ?_
    · exact emits_ite (emits_pure _) ((emits_assign _).bind fun _ => emits_pure _)
    · intro _ _ s₄ h₄
      exact ⟨x, h₄⟩

theorem settled_by_cmdResp6Error (hfuel : delay < fuel) (ha : refusedBy a = false) :
    SettledBy delay D command sel a (cmdResp6Error fuel) := by
  refine settled_by_answerStatus hfuel ha (by decide) (by decide) ?_
  intro status
  refine emits_ite (emits_pure _) ((emits_perform (e := SdioEvent.read (.resp 0)) trivial).bind ?_)
  intro response
  refine (emits_assign _).bind fun _ => emits_ite (emits_pure _) ?_
  exact (emits_assign _).bind fun _ => emits_pure _

theorem settled_by_cmdResp7Error (hfuel : delay < fuel) (ha : refusedBy a = false) :
    SettledBy delay D command sel a (cmdResp7Error fuel) := by
  refine settled_by_answerStatus hfuel ha (by decide) (by decide) ?_
  intro status
  refine emits_ite (emits_pure _) ((emits_perform (e := SdioEvent.read (.resp 0)) trivial).bind ?_)
  intro response
  exact emits_ite (emits_pure _) (emits_pure _)

/-! ## A command and its answer -/

theorem wp_sendCommandSdio_line {cmd arg formatResp : BitVec 32}
    (hreply : expectsReply (commandWord cmd formatResp) = true) (h : Resting sel a s) :
    (sendCommandSdio cmd arg formatResp).wp (cardLine delay) D
      (fun _ _ s' => Expecting delay (commandWord cmd formatResp)
        (sel || commandWord cmd formatResp = selectCardWord) a s') g s := by
  refine ⟨trivial, ?_⟩
  intro _ s₁ hstep₁
  have h₁ : Resting sel a s₁ := h.mute (e := .write .arg arg) trivial hstep₁
  refine ⟨trivial, ?_⟩
  rintro _ s₂ ⟨s₃, hs₃ | ⟨hout, _⟩, hsend⟩
  · subst hs₃
    have hsent : s₂ = s₃.send delay (commandWord cmd formatResp) := hsend
    rw [hsent, LineState.send, hreply]
    exact ⟨rfl, Nat.le_refl _, h₁.flags, rfl, by rw [← h₁.selected]; rfl, h₁.attempt⟩
  · exact absurd (hout.symm.trans h₁.outstanding) Bool.true_eq_false.mp

theorem remember_none {x : Ending} : remember command none x = none := by
  unfold remember
  split <;> rfl

theorem remember_of_ne {x : Ending} (h : command ≠ appCmdWord) : remember command a x = a :=
  if_neg h

theorem Talks.exchange {cmd arg formatResp : BitVec 32} {p : SdProc α} {f : α → SdProc β}
    (hreply : expectsReply (commandWord cmd formatResp) = true)
    (hselect : commandWord cmd formatResp ≠ selectCardWord)
    (hkeep : ∀ x, remember (commandWord cmd formatResp) a x = a)
    (hp : SettledBy delay D (commandWord cmd formatResp) sel a p)
    (hf : ∀ x, Talks delay D sel a (f x)) :
    Talks delay D sel a (sendCommandSdio cmd arg formatResp >>= fun _ => p >>= f) := by
  intro g s h
  refine wp_seq (wp_sendCommandSdio_line hreply h) ?_
  intro _ g₁ s₁ h₁
  rw [decide_eq_false hselect, Bool.or_false] at h₁
  refine wp_seq (hp g₁ s₁ h₁) ?_
  rintro x g₂ s₂ ⟨y, h₂⟩
  exact hf x g₂ s₂ (hkeep y ▸ h₂)

theorem talks_delayTimer {ms : BitVec 32} : Talks delay D sel a (delayTimer ms) :=
  talks_of_mute (emits_perform (e := SdioEvent.delayTimer ms) trivial)

theorem talks_sendStatusSd {cs : CardStatus} (hfuel : delay < fuel) (ha : refusedBy a = false) :
    Talks delay D sel a (sendStatusSd fuel cs) := by
  refine talks_globals.bind fun g => ?_
  refine Talks.exchange (by decide) (by decide) (fun _ => remember_of_ne (by decide))
    (settled_by_cmdResp1Error hfuel ha) ?_
  rintro ⟨status, cs⟩
  exact (talks_pure _).ite (talks_pure _)

theorem talks_waitCardReady (hfuel : delay < fuel) (ha : refusedBy a = false) :
    Talks delay D sel a (waitCardReady fuel) := by
  have hloop : ∀ attempts cs, Talks delay D sel a (waitCardReadyLoop fuel attempts cs) := by
    intro attempts
    induction attempts with
    | zero =>
        intro cs
        exact talks_pure _
    | succ attempts ih =>
        intro cs
        refine (talks_sendStatusSd hfuel ha).bind ?_
        rintro ⟨status, cs⟩
        refine (talks_pure _).ite (talks_globals.bind fun g => (talks_pure _).ite ?_)
        exact talks_delayTimer.bind fun _ => ih cs
  exact hloop 500 0#32

theorem settled_by_cmdResp1bError {cs : CardStatus} (hfuel : delay < fuel) (ha : refusedBy a = false)
    (hcommand : command ≠ appCmdWord) :
    SettledBy delay D command sel a (cmdResp1bError fuel cs) := by
  intro g s h
  refine wp_seq (settled_by_cmdResp1Error hfuel ha g s h) ?_
  rintro ⟨status, cs⟩ g₁ s₁ ⟨x, h₁⟩
  rw [remember_of_ne hcommand] at h₁
  have hrest : Talks delay D sel a
      (if status = 0 then pure (status, cs)
       else if status ≠ errorWaitTime ∧ status < 0 then pure (status, cs)
       else waitCardReady fuel >>= fun status => pure (status, cs) : SdProc (Int × CardStatus)) :=
    (talks_pure _).ite
      ((talks_pure _).ite ((talks_waitCardReady hfuel ha).bind fun _ => talks_pure _))
  refine wp_mono (hrest g₁ s₁ h₁) ?_
  intro _ _ s₂ h₂
  exact ⟨x, (remember_of_ne (x := x) hcommand).symm ▸ h₂⟩

/-! ## Before `CMD7` -/

theorem talks_appCmdLoop (hfuel : delay < fuel) (attempts : Nat) (cs : CardStatus) :
    Talks delay D sel none (appCmdLoop fuel attempts cs) := by
  induction attempts generalizing cs with
  | zero => exact talks_pure _
  | succ attempts ih =>
      refine talks_globals.bind fun g => ?_
      refine Talks.exchange (by decide) (by decide) (fun _ => remember_none)
        (settled_by_cmdResp1Error hfuel rfl) ?_
      rintro ⟨status, cs⟩
      exact (talks_pure _).ite ((talks_pure _).ite (ih cs))

theorem talks_indeterminate : Talks delay D false a indeterminate := by
  intro g s h
  refine ⟨trivial, ?_⟩
  rintro (w : BitVec 32) s₁ ⟨s₂, hs₂ | ⟨hout, _⟩, hstep⟩
  · subst hs₂
    have hsame : s₁ = { s₂ with attempt := if s₂.selected then some (w, []) else s₂.attempt } :=
      hstep
    have hattempt : (if s₂.selected = true then some (w, []) else s₂.attempt) = a := by
      rw [h.selected, if_neg Bool.false_ne_true, h.attempt]
    subst hsame
    exact ⟨h.outstanding, h.flags, h.selected, hattempt⟩
  · exact absurd (hout.symm.trans h.outstanding) Bool.true_eq_false.mp

/-- Either an application command was sent, or nothing is awaited and the status says so. -/
theorem wp_sendCommandSpecific_unselected {appCmd arg formatResp : BitVec 32}
    (hfuel : delay < fuel) (hreply : expectsReply (commandWord appCmd formatResp) = true)
    (hselect : commandWord appCmd formatResp ≠ selectCardWord) (h : Resting false none s) :
    (sendCommandSpecific fuel appCmd arg formatResp).wp (cardLine delay) D
      (fun status _ s' => (status ≠ 0 ∧ Resting false none s') ∨
        (status = 0 ∧ Expecting delay (commandWord appCmd formatResp) false none s')) g s := by
  unfold sendCommandSpecific
  refine wp_seq (talks_indeterminate g s h) ?_
  intro cs g₁ s₁ h₁
  refine wp_seq (talks_appCmdLoop hfuel 8 cs g₁ s₁ h₁) ?_
  intro status g₂ s₂ h₂
  split
  · rename_i hfailed
    exact Or.inl ⟨hfailed, h₂⟩
  · refine wp_seq (wp_sendCommandSdio_line hreply h₂) ?_
    intro _ g₃ s₃ h₃
    rw [decide_eq_false hselect] at h₃
    exact Or.inr ⟨rfl, h₃⟩

theorem talks_initSdStart (hfuel : delay < fuel) :
    Talks delay D sel none (initSdStart fuel) := by
  have hreset : ∀ q : SdProc (Option Int), Talks delay D sel none q →
      Talks delay D sel none
        (resetSd >>= fun status => if status ≠ 0 then pure (some (-1)) else q) := fun q hq =>
    (talks_of_mute emits_resetSd).bind fun _ => (talks_pure _).ite hq
  refine talks_assign.bind fun _ => (talks_of_mute emits_initSdio).bind fun _ => ?_
  refine (talks_pure _).ite (hreset _ ?_)
  have hcond : ∀ f : Int → SdProc (Option Int), (∀ x, Talks delay D sel none (f x)) →
      Talks delay D sel none (validateOperatingVoltage fuel >>= f) := by
    intro f hf
    unfold validateOperatingVoltage
    rw [bind_assoc]
    exact Talks.exchange (by decide) (by decide) (fun _ => remember_none)
      (settled_by_cmdResp7Error hfuel rfl) hf
  refine hcond _ fun status => Talks.ite ?_ (Talks.ite ?_ (talks_pure _))
  · exact talks_assign.bind fun _ => talks_pure _
  · exact talks_assign.bind fun _ => hreset _ (talks_pure _)

theorem talks_voltageLoop (hfuel : delay < fuel) (trials : Nat) :
    Talks delay D false none (voltageLoop fuel trials) := by
  induction trials with
  | zero => exact talks_pure _
  | succ trials ih =>
      intro g s h
      refine wp_seq (wp_sendCommandSpecific_unselected hfuel (by decide) (by decide) h) ?_
      rintro status g₁ s₁ (⟨hfailed, h₁⟩ | ⟨rfl, h₁⟩)
      · rw [if_pos hfailed]
        exact h₁
      · refine wp_seq (settled_by_cmdResp3Error hfuel rfl g₁ s₁ h₁) ?_
        rintro status g₂ s₂ ⟨x, h₂⟩
        rw [remember_none] at h₂
        have hrest : Talks delay D false none
            (if status < 0 then setInactiveState >>= fun _ => pure (some (-1))
             else if status = 1 then delayTimer 100#32 >>= fun _ => voltageLoop fuel trials
             else pure none : SdProc (Option Int)) :=
          Talks.ite ((talks_of_mute emits_setInactiveState).bind fun _ => talks_pure _)
            (Talks.ite (talks_delayTimer.bind fun _ => ih) (talks_pure _))
        exact hrest g₂ s₂ h₂

theorem talks_identifySd (hfuel : delay < fuel) : Talks delay D sel none (identifySd fuel) := by
  have hinactive : Talks delay D sel none
      (setInactiveState >>= fun _ => pure (-1) : SdProc Int) :=
    (talks_of_mute emits_setInactiveState).bind fun _ => talks_pure _
  refine Talks.exchange (by decide) (by decide) (fun _ => remember_none)
    (settled_by_cmdResp2Error hfuel rfl) fun _ => hinactive.ite ?_
  exact Talks.exchange (by decide) (by decide) (fun _ => remember_none)
    (settled_by_cmdResp6Error hfuel rfl) fun _ => hinactive.ite (talks_pure _)

theorem talks_initSd (hfuel : delay < fuel) : Talks delay D false none (initSd fuel) := by
  have hvoltage : Talks delay D false none (initSdVoltage fuel) := by
    refine (talks_initSdStart hfuel).bind ?_
    rintro (_ | code)
    · exact talks_voltageLoop hfuel sdMaxVoltTrial
    · exact talks_pure _
  refine hvoltage.bind ?_
  rintro (_ | code)
  · exact talks_identifySd hfuel
  · exact talks_pure _

/-! ## From `CMD7` on -/

theorem talks_loadCsdSd (hfuel : delay < fuel) (ha : refusedBy a = false) :
    Talks delay D sel a (loadCsdSd fuel) := by
  refine talks_globals.bind fun g => ?_
  refine Talks.exchange (by decide) (by decide) (fun _ => remember_of_ne (by decide))
    (settled_by_cmdResp2Error hfuel ha) fun status => (talks_pure _).ite ?_
  refine talks_globals.bind fun g => talks_of_mute ?_
  refine emits_ite (emits_pure _) (emits_ite ?_ (emits_ite ?_ (emits_pure _)))
  · exact (emits_assign _).bind fun _ => emits_pure _
  · exact (emits_assign _).bind fun _ => emits_globals.bind fun _ =>
      (emits_assign _).bind fun _ => emits_pure _

theorem wp_indeterminate_line (h : Resting true a s) :
    indeterminate.wp (cardLine delay) D
      (fun w _ s' => Resting true (some (w, [])) s') g s := by
  refine ⟨trivial, ?_⟩
  rintro (w : BitVec 32) s₁ ⟨s₂, hs₂ | ⟨hout, _⟩, hstep⟩
  · subst hs₂
    have hsame : s₁ = { s₂ with attempt := if s₂.selected then some (w, []) else s₂.attempt } :=
      hstep
    subst hsame
    exact ⟨h.outstanding, h.flags, h.selected, if_pos h.selected⟩
  · exact absurd (hout.symm.trans h.outstanding) Bool.true_eq_false.mp

theorem Ending.status_nonpos (x : Ending) : x.status ≤ 0 := by
  rcases x with ⟨flag, word⟩
  cases flag with
  | cmdrend => exact r1Error_nonpos word
  | ctimeout => exact (by decide : errorWaitTime ≤ 0)
  | ccrcfail => exact (by decide : errorCrc ≤ 0)

/-- `attempts` are left after the endings `xs`, with `cs` in `cs_pattern`. -/
def Attempting (attempts : Nat) (cs w : CardStatus) (xs : List Ending) : Prop :=
  ∀ ys, givenUp 8 (CardStatus.appCmd w) (xs ++ ys) = givenUp attempts (CardStatus.appCmd cs) ys

theorem Attempting.goes_on {attempts : Nat} {cs w : CardStatus} {xs : List Ending}
    (h : Attempting (attempts + 1) cs w xs) : refusedBy (some (w, xs)) = false := by
  have hnil := h []
  rwa [List.append_nil] at hnil

theorem Attempting.snoc {attempts : Nat} {cs w : CardStatus} {xs : List Ending}
    (h : Attempting (attempts + 1) cs w xs) (x : Ending) (ys : List Ending) :
    givenUp 8 (CardStatus.appCmd w) (xs ++ [x] ++ ys) =
      (x.status ≠ 0 && (!x.appCmd (CardStatus.appCmd cs) ||
        givenUp attempts (x.appCmd (CardStatus.appCmd cs)) ys)) := by
  rw [List.append_assoc]
  exact h (x :: ys)

/-- `send_command_specific` fails exactly if the card refused `CMD55`. -/
theorem wp_appCmdLoop_line {w : CardStatus} (hfuel : delay < fuel) (attempts : Nat) :
    ∀ {cs : CardStatus} {xs : List Ending} {g : SdGlobals} {s : LineState},
      Attempting attempts cs w xs → Resting true (some (w, xs)) s →
      (appCmdLoop fuel attempts cs).wp (cardLine delay) D
        (fun status _ s' => ∃ xs', Resting true (some (w, xs')) s' ∧
          (status ≠ 0 ↔ refusedBy (some (w, xs')) = true)) g s := by
  induction attempts with
  | zero =>
      -- The answers so far are a refusal: nothing more will be asked.
      intro cs xs g s hxs h
      have hrefused : refusedBy (some (w, xs)) = true := by
        have hnil := hxs []
        rwa [List.append_nil] at hnil
      exact ⟨xs, h, iff_of_true (by decide : (-3 : Int) ≠ 0) hrefused⟩
  | succ attempts ih =>
      intro cs xs g s hxs h
      refine wp_bind.2 (wp_globals.2 (wp_seq (wp_sendCommandSdio_line (by decide) h) ?_))
      intro _ g₁ s₁ h₁
      refine wp_seq (wp_cmdResp1Error_line hfuel hxs.goes_on h₁) ?_
      rintro ⟨status, cs₁⟩ g₂ s₂ ⟨x, hstatus, happ, h₂⟩
      have hnonpos := x.status_nonpos
      have hstep := hxs.snoc x
      change status = x.status at hstatus
      change CardStatus.appCmd cs₁ = _ at happ
      change Resting true (some (w, xs ++ [x])) s₂ at h₂
      rw [← hstatus, ← happ] at hstep
      rw [← hstatus] at hnonpos
      have hrefused := hstep []
      rw [List.append_nil] at hrefused
      dsimp only
      split
      · -- An error, and `APP_CMD` is not set.
        rename_i hgiveUp
        have hne : status ≠ 0 := by omega
        refine ⟨xs ++ [x], h₂, iff_of_true hne ?_⟩
        exact hrefused.trans (by simp [hne, hgiveUp.2])
      · rename_i hkeep
        split
        · -- No error.
          rename_i hok
          refine ⟨xs ++ [x], h₂, iff_of_false (fun hne => hne rfl) ?_⟩
          rw [Bool.not_eq_true]
          exact hrefused.trans (by simp [hok])
        · rename_i hne
          have hset : CardStatus.appCmd cs₁ = true := by
            by_contra hno
            exact hkeep ⟨by omega, hno⟩
          refine ih (fun ys => (hstep ys).trans ?_) h₂
          simp [hne, hset]

/-- The second half of `init_sd_card`: `ACMD6` and the answer it waits for. -/
theorem wp_sendCommandSpecific_selected {appCmd arg formatResp : BitVec 32} (hfuel : delay < fuel)
    (hreply : expectsReply (commandWord appCmd formatResp) = true) (h : Resting true a s) :
    (sendCommandSpecific fuel appCmd arg formatResp).wp (cardLine delay) D
      (fun _ _ s' => ∃ a', (refusedBy a' = true ∧ Resting true a' s') ∨
        (refusedBy a' = false ∧
          Expecting delay (commandWord appCmd formatResp) true a' s')) g s := by
  unfold sendCommandSpecific
  refine wp_seq (wp_indeterminate_line h) ?_
  intro w g₁ s₁ h₁
  have hstart : Attempting 8 w w [] := fun ys => rfl
  refine wp_seq (wp_appCmdLoop_line hfuel 8 hstart h₁) ?_
  rintro status g₂ s₂ ⟨xs, h₂, hstatus⟩
  split
  · rename_i hfailed
    exact ⟨_, Or.inl ⟨hstatus.1 hfailed, h₂⟩⟩
  · rename_i hok
    refine wp_seq (wp_sendCommandSdio_line hreply h₂) ?_
    intro _ g₃ s₃ h₃
    exact ⟨_, Or.inr ⟨by simpa using fun hr => hok (hstatus.2 hr), h₃⟩⟩

/-- Without an answer to wait for, the loop polls for as long as it may. -/
theorem wp_waitResponse_refused {Q : BitVec 32 → SdGlobals → LineState → Prop}
    (ha : refusedBy a = true) (h : Resting sel a s) :
    (waitResponse fuel).wp (cardLine delay) (fun s' => s'.refused = true) Q g s := by
  unfold waitResponse
  have hrefused : ∀ s', Resting sel a s' → s'.refused = true := by
    intro s' hs'
    rw [LineState.refused, hs'.attempt, ha]
  refine wp_iter (fun _ _ s' => Resting sel a s') ?_ (fun _ _ s' hs' => hrefused s' hs') fuel h
  intro _ g₁ s₁ h₁
  have hnone : ¬s₁.Awaited := by
    rintro (hout | hflag)
    · exact absurd (hout.symm.trans h₁.outstanding) Bool.true_eq_false.mp
    · simp [hasFlag, h₁.flags] at hflag
  refine wp_bind.2 (wp_perform.2 ⟨iff_of_false hnone (by simp [hrefused s₁ h₁]), ?_⟩)
  rintro (w : BitVec 32) s₂ ⟨s₃, hs₃ | ⟨hout, _⟩, hshown, hquiet, rfl⟩
  · subst hs₃
    have hzero : w &&& responseFlags = 0#32 := hshown.trans h₁.flags
    have hno : hasFlag w (sdioStaCmdrend ||| sdioStaCtimeout ||| sdioStaCcrcfail) = false := by
      simpa [hasFlag, responseFlags] using hzero
    rw [if_neg (by simp [hno])]
    exact ⟨h₁.outstanding, h₁.flags, h₁.selected, h₁.attempt⟩
  · exact absurd (hout.symm.trans h₁.outstanding) Bool.true_eq_false.mp

theorem wp_cmdResp1Error_refused {cs : CardStatus}
    {Q : Int × CardStatus → SdGlobals → LineState → Prop} (ha : refusedBy a = true)
    (h : Resting sel a s) :
    (cmdResp1Error fuel cs).wp (cardLine delay) (fun s' => s'.refused = true) Q g s := by
  unfold cmdResp1Error answerStatus
  rw [bind_assoc]
  exact wp_bind.2 (wp_waitResponse_refused ha h)

theorem wp_initSdCard_line (hfuel : delay < fuel) (h : Resting false none s) :
    (initSdCard fuel).wp (cardLine delay) (fun s' => s'.refused = true)
      (fun _ _ s' => s'.refused = false) g s := by
  have hdone : ∀ {sel a s'}, refusedBy a = false → Resting sel a s' → s'.refused = false := by
    intro sel a s' ha hs'
    rw [LineState.refused, hs'.attempt, ha]
  refine wp_seq (talks_loadCsdSd hfuel rfl g s h) ?_
  intro status g₁ s₁ h₁
  split
  · exact hdone rfl h₁
  refine wp_bind.2 (wp_globals.2 (wp_seq (wp_sendCommandSdio_line (by decide) h₁) ?_))
  intro _ g₂ s₂ h₂
  refine wp_seq (settled_by_cmdResp1bError hfuel rfl (by decide) g₂ s₂ h₂) ?_
  rintro ⟨status, cs⟩ g₃ s₃ ⟨x, h₃⟩
  rw [remember_none] at h₃
  dsimp only
  split
  · exact hdone rfl h₃
  split
  · exact hdone rfl h₃
  refine wp_seq (wp_sendCommandSpecific_selected hfuel (by decide) h₃) ?_
  rintro status g₄ s₄ ⟨a', ⟨ha', h₄⟩ | ⟨ha', h₄⟩⟩
  · -- `CMD55` was refused, and the answer to `ACMD6` is awaited all the same.
    exact wp_bind.2 (wp_cmdResp1Error_refused ha' h₄)
  · refine wp_seq (settled_by_cmdResp1Error hfuel ha' g₄ s₄ h₄) ?_
    rintro ⟨status, cs⟩ g₅ s₅ ⟨x, h₅⟩
    rw [remember_of_ne (by decide)] at h₅
    have hrest : Talks delay (fun s' => s'.refused = true) true a'
        (if status < 0 then setInactiveState >>= fun _ => pure (-3)
         else setBusWidthSdio wideBus4BitMode >>= fun _ =>
          setClockFrequencySdio 2#8 >>= fun _ => pure 0 : SdProc Int) := by
      refine Talks.ite ?_ ?_
      · exact (talks_of_mute emits_setInactiveState).bind fun _ => talks_pure _
      · exact (talks_of_mute emits_setBusWidthSdio).bind fun _ =>
          (talks_of_mute emits_setClockFrequencySdio).bind fun _ => talks_pure _
    exact wp_mono (hrest g₅ s₅ h₅) fun _ _ _ h₆ => hdone ha' h₆

/-! ## Bring-up -/

/-- `init_sd` and then `init_sd_card`, whatever the first returns. -/
def bringUp (fuel : Nat) : SdProc (Int × Int) := do
  let first ← initSd fuel
  let second ← initSdCard fuel
  return (first, second)

theorem wp_bringUp (hfuel : delay < fuel) (h : Resting false none s) :
    (bringUp fuel).wp (cardLine delay) (fun s' => s'.refused = true)
      (fun _ _ s' => s'.refused = false) g s := by
  refine wp_seq (talks_initSd hfuel g s h) ?_
  intro first g₁ s₁ h₁
  exact wp_seq (wp_initSdCard_line hfuel h₁) fun _ _ _ hdone => hdone

/-- Every poll for the end of a command has an answer to wait for, unless the card refused the
`CMD55` before `ACMD6`.  Then the loop that polls is never left; without a refusal every loop
ends, and bring-up returns. -/
theorem bring_up_iff (hfuel : delay < fuel) (h : Resting false none s) :
    (∀ k s', Reaches (cardLine delay) (bringUp fuel g) s (.op (.sta .cmdResp) k) s' →
      (s'.Awaited ↔ s'.refused = false)) ∧
    (∀ s', Reaches (cardLine delay) (bringUp fuel g) s .spin s' → s'.refused = true) ∧
    ∀ r s', Runs (cardLine delay) (bringUp fuel g) s r s' → s'.refused = false := by
  have hsafe := wp_bringUp (g := g) hfuel h
  refine ⟨?_, ?_, ?_⟩
  · intro k s' hreach
    have hreq := Prog.wp_req hsafe hreach
    exact hreq
  · intro s' hreach
    exact Prog.wp_reaches hsafe hreach
  · rintro ⟨r, g'⟩ s' hrun
    exact wp_runs hsafe hrun

theorem bring_up_of_silent_start :
    (∀ k s', Reaches (cardLine 3) (bringUp 4 blankGlobals) LineState.start
        (.op (.sta .cmdResp) k) s' → (s'.Awaited ↔ s'.refused = false)) ∧
    (∀ s', Reaches (cardLine 3) (bringUp 4 blankGlobals) LineState.start .spin s' →
      s'.refused = true) ∧
    ∀ r s', Runs (cardLine 3) (bringUp 4 blankGlobals) LineState.start r s' →
      s'.refused = false :=
  bring_up_iff (by decide) ⟨rfl, rfl, rfl, rfl⟩

/-! ## A card that falls silent -/

/-- A card that answers every command without an error, until it is selected; then `CMD55` gets no
answer. -/
def silentOnce (s : LineState) : Ending :=
  if s.command = appCmdWord ∧ s.selected = true then ⟨.ctimeout, 0#32⟩
  else if s.command = commandWord acmdSendOpCond sdioCmdShortResp then ⟨.cmdrend, 1#32 <<< 30⟩
  else ⟨.cmdrend, 0x100#32⟩

def LineState.silentPoll (s : LineState) : LineState :=
  if s.outstanding then s.ended (silentOnce s) else s

def silentCard (s : LineState) : (e : SdioEvent) → e.Response × LineState
  | .sta .cmdResp =>
      (s.silentPoll.flags, { s.silentPoll with quiet := s.silentPoll.quiet - 1 })
  | .sta _ => (s.flags ||| sdioStaCmdsent, s)
  | .read (.resp 0) => (s.resp1, s)
  | .read .power => (sdioPwrctrlOn, s)
  | .write .icr v => ((), { s with flags := s.flags &&& ~~~v })
  | .write .cmd v => ((), s.send 3 v)
  | .indeterminate => (0#32, { s with attempt := if s.selected then some (0#32, []) else s.attempt })
  | e => (e.ready fun _ => 0#32, s)

theorem silentCard_step (s : LineState) (e : SdioEvent) :
    (cardLine 3).step s e (silentCard s e).1 (silentCard s e).2 := by
  -- Only a poll lets the card end a command.
  cases e with
  | sta site =>
      cases site with
      | cmdResp =>
          refine ⟨s.silentPoll, ?_, rfl, ?_, rfl⟩
          · unfold LineState.silentPoll
            split
            · rename_i hout
              exact Or.inr ⟨hout, _, rfl⟩
            · exact Or.inl rfl
          · intro h
            unfold LineState.silentPoll at h
            split at h
            · exact absurd h Bool.false_ne_true
            · rename_i hout
              exact absurd h hout
      | _ =>
          refine ⟨s, Or.inl rfl, ?_, rfl⟩
          change (s.flags ||| sdioStaCmdsent) &&& responseFlags = s.flags &&& responseFlags
          have hnone : sdioStaCmdsent &&& responseFlags = 0#32 := by decide
          rw [or_and_distrib, hnone, BitVec.or_zero]
  | read reg =>
      cases reg with
      | resp i =>
          match i with
          | 0 => exact ⟨s, Or.inl rfl, rfl, rfl⟩
          | 1 => exact ⟨s, Or.inl rfl, rfl⟩
          | 2 => exact ⟨s, Or.inl rfl, rfl⟩
          | 3 => exact ⟨s, Or.inl rfl, rfl⟩
      | _ => exact ⟨s, Or.inl rfl, rfl⟩
  | write reg v => cases reg <;> exact ⟨s, Or.inl rfl, rfl⟩
  | _ => exact ⟨s, Or.inl rfl, rfl⟩

/-- After the timeout of `CMD55` the driver polls for the answer to an `ACMD6` it has not sent. -/
theorem bring_up_polls_unanswered :
    ∃ (k : BitVec 32 → Prog SdioEvent SdioEvent.Response ((Int × Int) × SdGlobals))
        (s' : LineState),
      Reaches (cardLine 3) (bringUp 4 blankGlobals) LineState.start (.op (.sta .cmdResp) k) s' ∧
        ¬s'.Awaited := by
  have hsummary : (((bringUp 4 blankGlobals).after silentCard 94 LineState.start).1.next?,
      ((bringUp 4 blankGlobals).after silentCard 94 LineState.start).2.outstanding,
      hasFlag ((bringUp 4 blankGlobals).after silentCard 94 LineState.start).2.flags
        responseFlags) = (some (.sta .cmdResp), false, false) := by
    decide +kernel
  rcases Prog.after_stops (fun s : LineState => (s.outstanding, hasFlag s.flags responseFlags))
    silentCard_step 94 hsummary with ⟨k, s', hreach, hrest⟩
  rcases Prod.mk.inj hrest with ⟨hout, hflag⟩
  refine ⟨k, s', hreach, ?_⟩
  rintro (h | h)
  · exact absurd (hout.symm.trans h) Bool.false_ne_true
  · exact absurd (hflag.symm.trans h) Bool.false_ne_true

end Driver
end SdioFat32
