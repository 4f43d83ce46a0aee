import SdioFat32.Driver.Identification
import SdioFat32.Driver.Erase

/-!
# Pairing — every command and its own answer

A command with a response leaves an answer owed until the driver has seen one of its flags and
cleared it.  A function is `Tidy` if it sends commands only while no answer is owed and leaves
none owed; it `Settles` if it also takes in an answer that was owed before.  Sending a command and
settling it is tidy, and so is every sequence of tidy parts.

Every operation is tidy except `erase_sd` on a card found outside `TRAN`: the `CMD12` sent then is
followed by the next command at once.
-/

namespace SdioFat32
namespace Driver

open Effects Proc

/-! ## The answer that is owed -/

structure ReplyState where
  /-- The flags of the owed answer the driver has seen, none if no answer is owed. -/
  owed : Option (BitVec 32)
  /-- The number of commands sent. -/
  sent : Nat
  /-- The first word read from `RESP1`. -/
  opening : Option (BitVec 32)
  /-- A command was sent while an answer was owed. -/
  clash : Bool

def ReplyState.start : ReplyState :=
  { owed := none
    sent := 0
    opening := none
    clash := false }

def ReplyState.next (s : ReplyState) : (e : SdioEvent) → e.Response → ReplyState
  | .sta .cmdResp, (w : BitVec 32) =>
      { s with owed := s.owed.map fun seen => seen ||| w &&& responseFlags }
  | .write .icr v, _ => { s with owed := s.owed.filter fun seen => !hasFlag seen v }
  | .write .cmd w, _ =>
      { s with
        owed := if expectsReply w then some 0#32 else s.owed
        sent := s.sent + 1
        clash := s.clash || s.owed.isSome }
  | .read (.resp 0), (w : BitVec 32) => { s with opening := s.opening.or (some w) }
  | _, _ => s

/-- The first answer reported, without an error, another state than `TRAN`. -/
def ReplyState.foundBusy (s : ReplyState) : Bool :=
  s.opening.any fun w => r1Error w = 0 && CardStatus.currentState w ≠ tranState

/-- The peripheral and the card may respond in any way.  `req` is what is shown of every command:
no answer is owed when it is sent, unless it is the third one of an erase of a busy card. -/
def replies (erase : Bool) : Env SdioEvent SdioEvent.Response ReplyState where
  req s e :=
    match e with
    | .write .cmd _ => s.owed = none ↔ ¬(erase = true ∧ s.sent = 2 ∧ s.foundBusy = true)
    | _ => True
  step s e r s' := s' = s.next e r

/-! ## What an event keeps -/

/-- The next command cannot be the third one of an erase of a busy card. -/
def InOrder (erase : Bool) (s : ReplyState) : Prop :=
  erase = false ∨ (s.opening ≠ none ∧ s.foundBusy = false) ∨ 3 ≤ s.sent

/-- From `s` to `s'` all commands were sent in order. -/
structure Along (erase : Bool) (s s' : ReplyState) : Prop where
  order : InOrder erase s'
  clash : s'.clash = s.clash
  opening : s.opening ≠ none → s'.opening = s.opening

structure Paired (erase : Bool) (s s' : ReplyState) : Prop extends Along erase s s' where
  owed : s'.owed = none

variable {erase : Bool} {s s₁ s₂ : ReplyState} {g : SdGlobals} {α β : Type} {fuel : Nat}

theorem Along.refl (h : InOrder erase s) : Along erase s s := ⟨h, rfl, fun _ => rfl⟩

theorem Along.trans (h : Along erase s s₁) (h' : Along erase s₁ s₂) : Along erase s s₂ where
  order := h'.order
  clash := h'.clash.trans h.clash
  opening hne := by
    have hopening := h.opening hne
    rw [h'.opening (hopening.symm ▸ hne), hopening]

theorem Paired.after (h' : Paired erase s₁ s₂) (h : Along erase s s₁) : Paired erase s s₂ :=
  ⟨h.trans h'.toAlong, h'.owed⟩

theorem opening_next {e : SdioEvent} {r : e.Response} (hne : s.opening ≠ none) :
    (s.next e r).opening = s.opening := by
  unfold ReplyState.next
  split
  · rfl
  · rfl
  · rfl
  · cases hopening : s.opening with
    | none => exact absurd hopening hne
    | some w => rfl
  · rfl

theorem sent_le_next {e : SdioEvent} {r : e.Response} : s.sent ≤ (s.next e r).sent := by
  unfold ReplyState.next
  split
  · exact Nat.le_refl _
  · exact Nat.le_refl _
  · exact Nat.le_succ _
  · exact Nat.le_refl _
  · exact Nat.le_refl _

theorem InOrder.next {e : SdioEvent} {r : e.Response} (h : InOrder erase s) :
    InOrder erase (s.next e r) := by
  rcases h with hother | ⟨hne, hready⟩ | hlate
  · exact Or.inl hother
  · have hsame : (s.next e r).opening = s.opening := opening_next hne
    refine Or.inr (Or.inl ⟨hsame ▸ hne, ?_⟩)
    rw [ReplyState.foundBusy, hsame]
    exact hready
  · exact Or.inr (Or.inr (Nat.le_trans hlate sent_le_next))

/-- Events that do not ask for an answer. -/
def Unasking : SdioEvent → Prop
  | .write .cmd v => expectsReply v = false
  | _ => True

theorem Mute.unasking {e : SdioEvent} (he : Mute e) : Unasking e := by
  cases e with
  | write reg v =>
      cases reg with
      | cmd => exact he
      | _ => trivial
  | _ => trivial

/-- While no answer is owed, an event that does not ask for one is in order. -/
theorem Paired.next {e : SdioEvent} {r : e.Response} (horder : InOrder erase s) (howed : s.owed = none)
    (he : Unasking e) : Paired erase s (s.next e r) := by
  refine ⟨⟨horder.next, ?_, opening_next⟩, ?_⟩
  · unfold ReplyState.next
    split
    · rfl
    · rfl
    · simp [howed]
    · rfl
    · rfl
  · unfold ReplyState.next
    split
    · simp [howed]
    · simp [howed]
    · have hno : expectsReply _ = false := he
      simp [hno, howed]
    · exact howed
    · exact howed

theorem replies_req {e : SdioEvent} (horder : InOrder erase s) (howed : s.owed = none) :
    (replies erase).req s e := by
  unfold replies
  dsimp only
  split
  · refine iff_of_true howed ?_
    rintro ⟨herase, hthird, hbusy⟩
    rcases horder with hother | ⟨_, hready⟩ | hlate
    · exact absurd (herase.symm.trans hother) Bool.true_eq_false.mp
    · exact absurd (hbusy.symm.trans hready) Bool.true_eq_false.mp
    · omega
  · trivial

/-! ## Tidy and settling procedures -/

def Tidy (erase : Bool) (p : SdProc α) : Prop :=
  ∀ g s, InOrder erase s → s.owed = none →
    p.wp (replies erase) (fun _ => True) (fun _ _ s' => Paired erase s s') g s

def Settles (erase : Bool) (p : SdProc α) : Prop :=
  ∀ g s, InOrder erase s →
    p.wp (replies erase) (fun _ => True) (fun _ _ s' => Paired erase s s') g s

theorem Settles.tidy {p : SdProc α} (hp : Settles erase p) : Tidy erase p :=
  fun g s horder _ => hp g s horder

theorem Tidy.bind {p : SdProc α} {f : α → SdProc β} (hp : Tidy erase p)
    (hf : ∀ a, Tidy erase (f a)) : Tidy erase (p >>= f) := by
  intro g s horder howed
  refine wp_seq (hp g s horder howed) ?_
  intro a g₁ s₁ h₁
  refine wp_mono (hf a g₁ s₁ h₁.order h₁.owed) ?_
  intro b g₂ s₂ h₂
  exact h₂.after h₁.toAlong

theorem Settles.bind {p : SdProc α} {f : α → SdProc β} (hp : Settles erase p)
    (hf : ∀ a, Tidy erase (f a)) : Settles erase (p >>= f) := by
  intro g s horder
  refine wp_seq (hp g s horder) ?_
  intro a g₁ s₁ h₁
  refine wp_mono (hf a g₁ s₁ h₁.order h₁.owed) ?_
  intro b g₂ s₂ h₂
  exact h₂.after h₁.toAlong

theorem Tidy.ite {c : Prop} [Decidable c] {p q : SdProc α} (hp : Tidy erase p)
    (hq : Tidy erase q) : Tidy erase (if c then p else q) := by
  split
  · exact hp
  · exact hq

theorem tidy_of_emits {p : SdProc α} (hp : p.Emits Unasking True) : Tidy erase p := by
  intro g s horder howed
  refine wp_frame (I := fun s' => Paired erase s s') hp ?_ (fun _ _ _ => trivial)
    ⟨Along.refl horder, howed⟩
  intro s₁ e h₁ he
  refine ⟨replies_req h₁.order h₁.owed, ?_⟩
  rintro r s₂ rfl
  exact (Paired.next h₁.order h₁.owed he).after h₁.toAlong

theorem tidy_pure (a : α) : Tidy erase (pure a : SdProc α) := tidy_of_emits (emits_pure a)

theorem tidy_globals : Tidy erase (globals : SdProc SdGlobals) := tidy_of_emits emits_globals

theorem tidy_assign {f : SdGlobals → SdGlobals} : Tidy erase (assign f : SdProc Unit) :=
  tidy_of_emits (emits_assign f)

theorem tidy_perform {e : SdioEvent} (he : Unasking e) :
    Tidy erase (perform e : SdProc e.Response) :=
  tidy_of_emits (emits_perform he)

theorem tidy_readReg {r : Reg} : Tidy erase (readReg r) :=
  tidy_perform (e := .read r) trivial

theorem tidy_of_mute {cut : Prop} {p : SdProc α} (hp : p.Emits Mute cut) : Tidy erase p :=
  tidy_of_emits (hp.mono fun _ he => he.unasking).cutAnywhere

theorem tidy_clearFlagSdio {flag : BitVec 32} : Tidy erase (clearFlagSdio flag) :=
  tidy_readReg.bind fun _ => tidy_perform trivial

/-- A command may be sent last, with its answer still to be taken in. -/
def Asks (erase : Bool) (p : SdProc α) : Prop :=
  ∀ g s, InOrder erase s → s.owed = none →
    p.wp (replies erase) (fun _ => True) (fun _ _ s' => Along erase s s') g s

theorem asks_sendCommandSdio {command arg formatResp : BitVec 32} :
    Asks erase (sendCommandSdio command arg formatResp) := by
  intro g s horder howed
  refine wp_bind.2 (wp_perform.2 ⟨trivial, ?_⟩)
  rintro _ s₁ hfirst
  have hsame : s₁ = s := hfirst
  subst hsame
  refine wp_perform.2 ⟨replies_req horder howed, ?_⟩
  rintro _ s₂ rfl
  -- Nothing was owed, so the command does not clash.
  exact ⟨horder.next, by simp [ReplyState.next, howed], opening_next⟩

theorem Asks.settle {p : SdProc α} {f : α → SdProc β} (hp : Asks erase p)
    (hf : ∀ a, Settles erase (f a)) : Tidy erase (p >>= f) := by
  intro g s horder howed
  refine wp_seq (hp g s horder howed) ?_
  intro a g₁ s₁ h₁
  refine wp_mono (hf a g₁ s₁ h₁.order) ?_
  intro b g₂ s₂ h₂
  exact h₂.after h₁

/-! ## Taking in an answer -/

/-- The flags of the owed answer are among those in `w`, or it has been cleared. -/
def Seen (w : BitVec 32) (s : ReplyState) : Prop :=
  s.owed = none ∨ ∃ seen, s.owed = some (seen ||| w &&& responseFlags)

/-- The wait ends with a flag of the answer, which the driver has then seen. -/
theorem wp_waitResponse_replies (h : InOrder erase s) :
    (waitResponse fuel).wp (replies erase) (fun _ => True)
      (fun w _ s' => Along erase s s' ∧ Seen w s' ∧ hasFlag w responseFlags = true) g s := by
  refine wp_iter (fun _ _ s' => Along erase s s') ?_ (fun _ _ _ _ => trivial) fuel (Along.refl h)
  intro _ g₁ s₁ h₁
  refine wp_bind.2 (wp_perform.2 ⟨trivial, ?_⟩)
  rintro w s₂ rfl
  have h₂ : Along erase s (s₁.next (.sta .cmdResp) w) :=
    h₁.trans ⟨h₁.order.next, rfl, opening_next⟩
  split
  · rename_i hflag
    refine ⟨h₂, ?_, hflag⟩
    cases howed : s₁.owed with
    | none => exact Or.inl (by simp [ReplyState.next, howed])
    | some seen => exact Or.inr ⟨seen, by simp [ReplyState.next, howed]⟩
  · exact h₂

/-- A flag of the answer, once seen, is enough to clear it. -/
theorem hasFlag_seen {seen w icr mask flag : BitVec 32} (hresponse : responseFlags &&& flag = flag)
    (hmask : mask &&& flag = flag) (hflag : hasFlag w flag = true) :
    hasFlag (seen ||| w &&& responseFlags) (icr ||| mask) = true := by
  have hkeep : hasFlag (w &&& responseFlags) flag = true := by
    rw [hasFlag, BitVec.and_assoc, hresponse]
    exact hflag
  have hmono : hasFlag (w &&& responseFlags) mask = true := by
    unfold hasFlag at hkeep ⊢
    rw [bne_iff_ne] at hkeep ⊢
    intro hzero
    refine hkeep ?_
    rw [← hmask, ← BitVec.and_assoc, hzero, BitVec.zero_and]
  rw [hasFlag_or, hasFlag_left_or, hasFlag_left_or, hmono]
  simp

/-- After a wait that ended with `w`, the procedure clears what it has seen. -/
def TakesIn (erase : Bool) (w : BitVec 32) (p : SdProc α) : Prop :=
  ∀ g s, InOrder erase s → Seen w s →
    p.wp (replies erase) (fun _ => True) (fun _ _ s' => Paired erase s s') g s

theorem settles_waitResponse {f : BitVec 32 → SdProc α}
    (hf : ∀ w, hasFlag w responseFlags = true → TakesIn erase w (f w)) :
    Settles erase (waitResponse fuel >>= f) := by
  intro g s horder
  refine wp_seq (wp_waitResponse_replies horder) ?_
  rintro w g₁ s₁ ⟨h₁, hseen, hended⟩
  refine wp_mono (hf w hended g₁ s₁ h₁.order hseen) ?_
  intro a g₂ s₂ h₂
  exact h₂.after h₁

theorem TakesIn.ite {w flag : BitVec 32} {p q : SdProc α}
    (hp : hasFlag w flag = true → TakesIn erase w p)
    (hq : hasFlag w flag = false → TakesIn erase w q) :
    TakesIn erase w (if hasFlag w flag then p else q) := by
  split
  · rename_i hset
    exact hp hset
  · rename_i hclear
    exact hq (Bool.not_eq_true _ ▸ hclear)

/-- The owed answer after a write to `ICR`. -/
theorem wp_clearFlagSdio_replies {mask : BitVec 32} {Q : Unit → SdGlobals → ReplyState → Prop}
    (h : ∀ icr : BitVec 32, Q () g (s.next (.write .icr (icr ||| mask)) ())) :
    (clearFlagSdio mask).wp (replies erase) (fun _ => True) Q g s := by
  refine wp_bind.2 (wp_perform.2 ⟨trivial, ?_⟩)
  rintro (icr : BitVec 32) s₁ hfirst
  have hsame : s₁ = s := hfirst
  subst hsame
  refine ⟨trivial, ?_⟩
  rintro _ s₂ rfl
  exact h icr

theorem TakesIn.clear {w mask flag : BitVec 32} {f : Unit → SdProc α}
    (hresponse : responseFlags &&& flag = flag) (hmask : mask &&& flag = flag)
    (hflag : hasFlag w flag = true) (hf : Tidy erase (f ())) :
    TakesIn erase w (clearFlagSdio mask >>= f) := by
  intro g s horder hseen
  refine wp_bind.2 (wp_clearFlagSdio_replies fun icr => ?_)
  have howed : (s.next (.write .icr (icr ||| mask)) ()).owed = none := by
    rcases hseen with hnone | ⟨seen, hsome⟩
    · simp [ReplyState.next, hnone]
    · have hclear : hasFlag (seen ||| w &&& responseFlags) (icr ||| mask) = true :=
        hasFlag_seen hresponse hmask hflag
      simp [ReplyState.next, hsome, hclear]
  refine wp_mono (hf g _ horder.next howed) ?_
  intro a g₁ s₁ h₁
  exact h₁.after ⟨horder.next, rfl, opening_next⟩

/-- Clearing other flags first does no harm. -/
theorem TakesIn.skip {w mask : BitVec 32} {p : SdProc α} (hp : TakesIn erase w p) :
    TakesIn erase w (clearFlagSdio mask >>= fun _ => p) := by
  intro g s horder hseen
  refine wp_bind.2 (wp_clearFlagSdio_replies fun icr => ?_)
  have hseen' : Seen w (s.next (.write .icr (icr ||| mask)) ()) := by
    rcases hseen with hnone | ⟨seen, hsome⟩
    · exact Or.inl (by simp [ReplyState.next, hnone])
    · cases hclear : hasFlag (seen ||| w &&& responseFlags) (icr ||| mask) with
      | true => exact Or.inl (by simp [ReplyState.next, hsome, hclear])
      | false => exact Or.inr ⟨seen, by simp [ReplyState.next, hsome, hclear]⟩
  refine wp_mono (hp g _ horder.next hseen') ?_
  intro a g₁ s₁ h₁
  exact h₁.after ⟨horder.next, rfl, opening_next⟩

/-- A command that neither timed out nor failed its CRC has ended with its response. -/
theorem hasFlag_cmdrend {w : BitVec 32} (hended : hasFlag w responseFlags = true)
    (htimeout : hasFlag w sdioStaCtimeout = false) (hcrc : hasFlag w sdioStaCcrcfail = false) :
    hasFlag w sdioStaCmdrend = true := by
  unfold responseFlags at hended
  rw [hasFlag_or, hasFlag_or] at hended
  simpa [htimeout, hcrc] using hended

/-- Whatever ends the wait is cleared, by all the response functions but the one for R3. -/
theorem settles_answerStatus {onTimeout onCrc : BitVec 32}
    (htimeout : onTimeout &&& sdioStaCtimeout = sdioStaCtimeout)
    (hcrc : onCrc &&& sdioStaCcrcfail = sdioStaCcrcfail) :
    Settles erase (answerStatus fuel onTimeout onCrc) := by
  refine settles_waitResponse fun w hended => ?_
  refine .ite (fun hset => .clear (by decide) htimeout hset (tidy_pure _)) fun hset => ?_
  refine .ite (fun hset' => .clear (by decide) hcrc hset' (tidy_pure _)) fun hset' => ?_
  exact .clear (by decide) (by decide) (hasFlag_cmdrend hended hset hset') (tidy_pure _)

theorem settles_cmdResp1Error {cs : CardStatus} : Settles erase (cmdResp1Error fuel cs) := by
  refine (settles_answerStatus (by decide) (by decide)).bind fun status => ?_
  refine (tidy_pure _).ite (tidy_readReg.bind fun response => ?_)
  exact tidy_assign.bind fun _ => tidy_pure _

theorem settles_cmdResp2Error {type : R2Type} : Settles erase (cmdResp2Error fuel type) := by
  refine (settles_answerStatus (by decide) (by decide)).bind fun status => ?_
  refine (tidy_pure _).ite (tidy_globals.bind fun g => ?_)
  cases type with
  | csd =>
      exact (tidy_of_mute emits_sdioReadLongResp).bind fun _ => tidy_assign.bind fun _ => tidy_pure _
  | cid =>
      exact (tidy_of_mute emits_sdioReadLongResp).bind fun _ => tidy_assign.bind fun _ => tidy_pure _

theorem settles_cmdResp6Error : Settles erase (cmdResp6Error fuel) := by
  refine (settles_answerStatus (by decide) (by decide)).bind fun status => ?_
  refine (tidy_pure _).ite (tidy_readReg.bind fun response => tidy_assign.bind fun _ => ?_)
  exact (tidy_pure _).ite (tidy_assign.bind fun _ => tidy_pure _)

theorem settles_cmdResp7Error : Settles erase (cmdResp7Error fuel) := by
  refine (settles_answerStatus (by decide) (by decide)).bind fun status => ?_
  refine (tidy_pure _).ite (tidy_readReg.bind fun response => ?_)
  exact (tidy_pure _).ite (tidy_pure _)

/-- R3 ignores a CRC failure, but clears it as well. -/
theorem settles_cmdResp3Error : Settles erase (cmdResp3Error fuel) := by
  refine settles_waitResponse fun w hended => ?_
  cases hcrc : hasFlag w sdioStaCcrcfail with
  | true =>
      -- The first write to `ICR` takes in the answer, and the rest is tidy.
      refine .clear (by decide) (by decide) hcrc ?_
      refine (tidy_clearFlagSdio.bind fun _ => tidy_pure _).ite ?_
      refine tidy_clearFlagSdio.bind fun _ => tidy_readReg.bind fun response => ?_
      exact (tidy_pure _).ite (tidy_assign.bind fun _ => tidy_pure _)
  | false =>
      refine .skip (.ite (fun hset => .clear (by decide) (by decide) hset (tidy_pure _)) ?_)
      intro hset
      refine .clear (by decide) (by decide) (hasFlag_cmdrend hended hset hcrc) ?_
      refine tidy_readReg.bind fun response => ?_
      exact (tidy_pure _).ite (tidy_assign.bind fun _ => tidy_pure _)

/-! ## Exchanges -/

/-- A command of which only the answer matters. -/
theorem tidy_exchange {command arg formatResp : BitVec 32} {p : SdProc α} {f : α → SdProc β}
    (hp : Settles erase p) (hf : ∀ a, Tidy erase (f a)) :
    Tidy erase (do
      sendCommandSdio command arg formatResp
      let a ← p
      f a) :=
  asks_sendCommandSdio.settle fun _ => hp.bind hf

theorem tidy_sendStatusSd {cs : CardStatus} : Tidy erase (sendStatusSd fuel cs) :=
  tidy_globals.bind fun _ => tidy_exchange settles_cmdResp1Error fun _ =>
    (tidy_pure _).ite (tidy_pure _)

/-- What `wait_card_ready` does after a query. -/
theorem tidy_afterQuery (attempts : Nat) (r : Int × CardStatus) :
    Tidy erase (if r.1 = errorResponce then pure errorResponce else do
      let g ← globals
      if r.1 = 0 ∧ CardStatus.readyForData r.2 = true ∧ g.sd.state = tranState then return 0
      delayTimer 50#32
      waitCardReadyLoop fuel attempts r.2 : SdProc Int) := by
  have hwait : Tidy erase (delayTimer 50#32) := tidy_perform (e := .delayTimer 50#32) trivial
  induction attempts generalizing r with
  | zero =>
      refine (tidy_pure _).ite (tidy_globals.bind fun g => (tidy_pure _).ite ?_)
      exact hwait.bind fun _ => tidy_pure _
  | succ attempts ih =>
      refine (tidy_pure _).ite (tidy_globals.bind fun g => (tidy_pure _).ite ?_)
      exact hwait.bind fun _ => tidy_sendStatusSd.bind fun r => ih r

theorem tidy_waitCardReady : Tidy erase (waitCardReady fuel) :=
  tidy_sendStatusSd.bind fun r => tidy_afterQuery 499 r

theorem settles_cmdResp1bError {cs : CardStatus} : Settles erase (cmdResp1bError fuel cs) :=
  settles_cmdResp1Error.bind fun _ => (tidy_pure _).ite ((tidy_pure _).ite
    (tidy_waitCardReady.bind fun _ => tidy_pure _))

/-! ## The block functions -/

theorem Polling.mute {e : SdioEvent} (he : Polling e) : Mute e := by
  cases e with
  | sta site =>
      cases site with
      | cmdResp => exact he.elim
      | _ => trivial
  | write reg v =>
      cases reg with
      | cmd => exact he.elim
      | _ => trivial
  | indeterminate => exact he.elim
  | _ => trivial

theorem tidy_polling {p : SdProc α} (hp : p.Emits Polling True) : Tidy erase p :=
  tidy_of_mute (hp.mono fun _ he => he.mute)

theorem tidy_writeReg {r : Reg} {v : BitVec 32} (hr : r ≠ .cmd) : Tidy erase (writeReg r v) := by
  refine tidy_perform ?_
  cases r with
  | cmd => exact absurd rfl hr
  | _ => trivial

theorem tidy_exitTests (tests : List (BitVec 32 × Int)) : Tidy erase (exitTests tests) := by
  induction tests with
  | nil => exact tidy_pure _
  | cons t tests ih =>
      refine (tidy_perform (e := .sta (.exitTest t.1)) trivial).bind fun sta => Tidy.ite ?_ ih
      exact (tidy_writeReg (by decide)).bind fun _ => tidy_pure _

theorem tidy_stopTransmission : Tidy erase (stopTransmission fuel) := by
  refine (tidy_perform (e := .sta (.exitTest sdioStaDataend)) trivial).bind fun sta => ?_
  refine Tidy.ite (tidy_exchange settles_cmdResp1bError fun r => ?_) (tidy_pure _)
  exact Tidy.ite ((tidy_writeReg (by decide)).bind fun _ => tidy_pure _) (tidy_pure _)

theorem tidy_txFinish : Tidy erase (txFinish fuel) := by
  refine (tidy_exitTests _).bind fun status => (tidy_pure _).ite ?_
  exact (tidy_writeReg (by decide)).bind fun _ => tidy_waitCardReady

theorem tidy_sdioConfigData {dataControl length timeout : BitVec 32} :
    Tidy erase (sdioConfigData dataControl length timeout) :=
  (tidy_writeReg (by decide)).bind fun _ => (tidy_writeReg (by decide)).bind fun _ =>
    tidy_writeReg (by decide)

section Functions

variable {data buffer count size address timeout : BitVec 32}

theorem tidy_writeSingleBlockSd : Tidy erase (writeSingleBlockSd fuel data size address timeout) := by
  refine (tidy_pure _).ite (tidy_globals.bind fun g => ?_)
  refine (tidy_writeReg (by decide)).bind fun _ => tidy_waitCardReady.bind fun status => ?_
  refine (tidy_pure _).ite (tidy_sdioConfigData.bind fun _ => ?_)
  refine tidy_exchange settles_cmdResp1Error fun r => (tidy_pure _).ite ?_
  exact (tidy_polling emits_txLoop).bind fun _ => tidy_txFinish

theorem tidy_writeMultiBlockSd : Tidy erase (writeMultiBlockSd fuel data count address timeout) := by
  refine (tidy_writeSingleBlockSd.ite (tidy_pure _)).ite (tidy_globals.bind fun g => ?_)
  refine (tidy_writeReg (by decide)).bind fun _ => tidy_sdioConfigData.bind fun _ => ?_
  refine tidy_exchange settles_cmdResp1Error fun r => Tidy.ite ?_ ?_
  · exact (tidy_writeReg (by decide)).bind fun _ => tidy_pure _
  · refine (tidy_polling emits_txLoop).bind fun _ => tidy_stopTransmission.bind fun status => ?_
    exact (tidy_pure _).ite tidy_txFinish

theorem tidy_readSingleBlockSd : Tidy erase (readSingleBlockSd fuel buffer size address timeout) := by
  refine (tidy_pure _).ite ((tidy_writeReg (by decide)).bind fun _ => tidy_globals.bind fun g => ?_)
  refine tidy_exchange settles_cmdResp1Error fun r => (tidy_pure _).ite ?_
  refine tidy_sdioConfigData.bind fun _ => (tidy_polling emits_rxSingle).bind fun addr => ?_
  refine (tidy_exitTests _).bind fun status => (tidy_pure _).ite ?_
  refine (tidy_polling emits_rxSingleDrain).bind fun _ => ?_
  exact (tidy_writeReg (by decide)).bind fun _ => tidy_waitCardReady

theorem tidy_readMultiBlockSd : Tidy erase (readMultiBlockSd fuel buffer count address timeout) := by
  refine (tidy_readSingleBlockSd.ite (tidy_pure _)).ite (tidy_globals.bind fun g => ?_)
  refine (tidy_writeReg (by decide)).bind fun _ => tidy_sdioConfigData.bind fun _ => ?_
  refine tidy_exchange settles_cmdResp1Error fun r => (tidy_pure _).ite ?_
  refine (tidy_polling emits_rxMulti).bind fun st => tidy_stopTransmission.bind fun status => ?_
  refine (tidy_pure _).ite ((tidy_exitTests _).bind fun status => (tidy_pure _).ite ?_)
  refine (tidy_polling emits_rxMultiDrain).bind fun _ => (tidy_writeReg (by decide)).bind fun _ => ?_
  exact (tidy_perform (e := .delayTimer 100#32) trivial).bind fun _ => tidy_waitCardReady

end Functions

/-! ## Identification -/

theorem tidy_appCmdLoop (attempts : Nat) (cs : CardStatus) :
    Tidy erase (appCmdLoop fuel attempts cs) := by
  induction attempts generalizing cs with
  | zero => exact tidy_pure _
  | succ attempts ih =>
      refine tidy_globals.bind fun g => tidy_exchange settles_cmdResp1Error fun r => ?_
      exact (tidy_pure _).ite ((tidy_pure _).ite (ih _))

/-- An application command is sent only after `CMD55` was accepted; otherwise nothing is owed. -/
theorem tidy_sendCommandSpecific {appCmd arg formatResp : BitVec 32} {f : Int → SdProc α}
    (hsent : Settles erase (f 0)) (hrefused : ∀ status, status ≠ 0 → Tidy erase (f status)) :
    Tidy erase (sendCommandSpecific fuel appCmd arg formatResp >>= f) := by
  intro g s horder howed
  refine wp_bind.2 (wp_seq (tidy_perform (e := .indeterminate) trivial g s horder howed) ?_)
  intro cs g₁ s₁ h₁
  refine wp_seq (tidy_appCmdLoop 8 cs g₁ s₁ h₁.order h₁.owed) ?_
  intro status g₂ s₂ h₂
  have h₂' : Paired erase s s₂ := h₂.after h₁.toAlong
  by_cases hstatus : status = 0
  · subst hstatus
    refine wp_seq (asks_sendCommandSdio g₂ s₂ h₂.order h₂.owed) ?_
    intro _ g₃ s₃ h₃
    refine wp_pure.2 (wp_mono (hsent g₃ s₃ h₃.order) ?_)
    intro b g₄ s₄ h₄
    exact (h₄.after h₃).after h₂'.toAlong
  · rw [if_pos hstatus]
    refine wp_pure.2 (wp_mono (hrefused status hstatus g₂ s₂ h₂.order h₂.owed) ?_)
    intro b g₃ s₃ h₃
    exact h₃.after h₂'.toAlong

theorem tidy_setInactiveState {f : Int → SdProc α} (hf : ∀ status, Tidy erase (f status)) :
    Tidy erase (setInactiveState >>= f) :=
  (tidy_of_mute emits_setInactiveState).bind hf

theorem tidy_initSdStart : Tidy erase (initSdStart fuel) := by
  have hreset : Tidy erase resetSd := tidy_of_mute emits_resetSd
  have hvalidate : Tidy erase (validateOperatingVoltage fuel) :=
    asks_sendCommandSdio.settle fun _ => settles_cmdResp7Error
  refine tidy_assign.bind fun _ => (tidy_of_mute emits_initSdio).bind fun status => ?_
  refine (tidy_pure _).ite (hreset.bind fun status => (tidy_pure _).ite ?_)
  refine hvalidate.bind fun status => Tidy.ite ?_ (Tidy.ite ?_ (tidy_pure _))
  · exact tidy_assign.bind fun _ => tidy_pure _
  · exact tidy_assign.bind fun _ => hreset.bind fun status => (tidy_pure _).ite (tidy_pure _)

theorem tidy_voltageLoop (trials : Nat) : Tidy erase (voltageLoop fuel trials) := by
  induction trials with
  | zero => exact tidy_pure _
  | succ trials ih =>
      refine tidy_sendCommandSpecific ?_ fun status hne => ?_
      · refine settles_cmdResp3Error.bind fun status => ?_
        refine Tidy.ite (tidy_setInactiveState fun _ => tidy_pure _) (Tidy.ite ?_ (tidy_pure _))
        exact (tidy_perform (e := .delayTimer 100#32) trivial).bind fun _ => ih
      · rw [if_pos hne]
        exact tidy_pure _

theorem tidy_identifySd : Tidy erase (identifySd fuel) := by
  refine tidy_exchange settles_cmdResp2Error fun status => Tidy.ite ?_ ?_
  · exact tidy_setInactiveState fun _ => tidy_pure _
  · refine tidy_exchange settles_cmdResp6Error fun status => Tidy.ite ?_ (tidy_pure _)
    exact tidy_setInactiveState fun _ => tidy_pure _

theorem tidy_initSd : Tidy erase (initSd fuel) := by
  have hvoltage : Tidy erase (initSdVoltage fuel) := by
    refine tidy_initSdStart.bind fun outcome => ?_
    cases outcome with
    | some code => exact tidy_pure _
    | none => exact tidy_voltageLoop sdMaxVoltTrial
  refine hvoltage.bind fun outcome => ?_
  cases outcome with
  | some code => exact tidy_pure _
  | none => exact tidy_identifySd

theorem tidy_loadCsdSd : Tidy erase (loadCsdSd fuel) := by
  refine tidy_globals.bind fun g => tidy_exchange settles_cmdResp2Error fun status => ?_
  refine (tidy_pure _).ite (tidy_globals.bind fun g => ?_)
  refine (tidy_pure _).ite (Tidy.ite ?_ (Tidy.ite ?_ (tidy_pure _)))
  · exact tidy_assign.bind fun _ => tidy_pure _
  · exact tidy_assign.bind fun _ => tidy_globals.bind fun g => tidy_assign.bind fun _ => tidy_pure _

/-- The answer to `ACMD6` is awaited even if `ACMD6` was not sent; then the bus is made wide. -/
theorem settles_busWidth : Settles erase (do
    let (status, _) ← cmdResp1Error fuel (CardStatus.setField 0#32 5 true)
    if status < 0 then
      let _ ← setInactiveState
      return -3
    setBusWidthSdio wideBus4BitMode
    setClockFrequencySdio 2#8
    return 0 : SdProc Int) := by
  refine settles_cmdResp1Error.bind fun r => ?_
  refine Tidy.ite (tidy_setInactiveState fun _ => tidy_pure _) ?_
  refine (tidy_of_mute emits_setBusWidthSdio).bind fun _ => ?_
  exact (tidy_of_mute emits_setClockFrequencySdio).bind fun _ => tidy_pure _

theorem tidy_initSdCard : Tidy erase (initSdCard fuel) := by
  refine tidy_loadCsdSd.bind fun status => (tidy_pure _).ite (tidy_globals.bind fun g => ?_)
  refine tidy_exchange settles_cmdResp1bError fun r => (tidy_pure _).ite ((tidy_pure _).ite ?_)
  exact tidy_sendCommandSpecific settles_busWidth fun _ _ => settles_busWidth.tidy

/-! ## Erasing -/

theorem Waiting.req {e : SdioEvent} (he : Waiting e) : (replies erase).req s e := by
  cases e with
  | write reg v =>
      cases reg with
      | icr => trivial
      | _ => exact he.elim
  | _ => trivial

/-- A wait reads no answer and sends nothing. -/
theorem Waiting.next {e : SdioEvent} {r : e.Response} (he : Waiting e) :
    (s.next e r).sent = s.sent ∧ (s.next e r).opening = s.opening := by
  unfold ReplyState.next
  split
  · exact ⟨rfl, rfl⟩
  · exact ⟨rfl, rfl⟩
  · exact he.elim
  · exact he.elim
  · exact ⟨rfl, rfl⟩

theorem wp_answerStatus_first :
    (answerStatus fuel sdioMaskStaticCmdFlags sdioMaskStaticCmdFlags).wp (replies erase)
      (fun _ => True) (fun _ _ (s' : ReplyState) => Paired false s s' ∧ s'.sent = s.sent ∧
        s'.opening = s.opening) g s := by
  have hsettles : (answerStatus fuel sdioMaskStaticCmdFlags sdioMaskStaticCmdFlags).wp
      (replies false) (fun _ => True) (fun _ _ s' => Paired false s s') g s :=
    settles_answerStatus (by decide) (by decide) g s (Or.inl rfl)
  have hreq : ∀ s e, Waiting e → (replies erase).req s e := fun _ _ he => he.req
  have hsame : (replies erase).step = (replies false).step := rfl
  have hpaired := wp_relabel emits_answerStatus hsame hreq hsettles
  refine wp_and hpaired (wp_frame
    (I := fun s' : ReplyState => s'.sent = s.sent ∧ s'.opening = s.opening) emits_answerStatus ?_
    (fun _ _ _ => trivial) ⟨rfl, rfl⟩)
  intro s₁ e h₁ he
  refine ⟨he.req, ?_⟩
  rintro r s₂ rfl
  rcases he.next (s := s₁) (r := r) with ⟨hsent, hopening⟩
  exact ⟨hsent.trans h₁.1, hopening.trans h₁.2⟩

/-- The first R1 answer tells whether the card was found busy, and `SD.state` agrees. -/
theorem wp_firstAnswer {cs : CardStatus} (hopening : s.opening = none) :
    (cmdResp1Error fuel cs).wp (replies erase) (fun _ => True)
      (fun r g' s' => s'.owed = none ∧ s'.sent = s.sent ∧ s'.clash = s.clash ∧
        (r.1 ≠ 0 → s'.foundBusy = false) ∧
        (r.1 = 0 → s'.opening ≠ none ∧ (s'.foundBusy = true ↔ g'.sd.state ≠ tranState))) g s := by
  refine wp_seq wp_answerStatus_first ?_
  rintro status g₁ s₁ ⟨hpaired, hsent, hsame⟩
  have hnone : s₁.opening = none := hsame.trans hopening
  split
  · rename_i hfailed
    refine ⟨hpaired.owed, hsent, hpaired.clash, fun _ => ?_, fun hzero => absurd hzero hfailed⟩
    simp [ReplyState.foundBusy, hnone]
  · refine wp_bind.2 (wp_perform.2 ⟨trivial, ?_⟩)
    rintro (w : BitVec 32) s₂ rfl
    have hword : (s₁.next (.read (.resp 0)) w).opening = some w := by
      simp [ReplyState.next, hnone]
    simp only [wp_bind, wp_assignSd, wp_pure]
    refine ⟨hpaired.owed, hsent, hpaired.clash, fun hne => ?_, fun hzero => ?_⟩
    · have hne' : r1Error w ≠ 0 := hne
      simp [ReplyState.foundBusy, hword, hne']
    · have hzero' : r1Error w = 0 := hzero
      simp [ReplyState.foundBusy, hword, hzero']

/-- A command, whose answer is not taken in at once. -/
theorem wp_sendCommandSdio_replies {command arg formatResp : BitVec 32}
    {Q : Unit → SdGlobals → ReplyState → Prop}
    (hreq : s.owed = none ↔ ¬(erase = true ∧ s.sent = 2 ∧ s.foundBusy = true))
    (h : Q () g (s.next (.write .cmd (commandWord command formatResp)) ())) :
    (sendCommandSdio command arg formatResp).wp (replies erase) (fun _ => True) Q g s := by
  refine wp_bind.2 (wp_perform.2 ⟨trivial, ?_⟩)
  rintro _ s₁ hfirst
  have hsame : s₁ = s := hfirst
  subst hsame
  refine wp_perform.2 ⟨hreq, ?_⟩
  rintro _ s₂ rfl
  exact h

theorem wp_sendStatusSd_first {cs : CardStatus} :
    (sendStatusSd fuel cs).wp (replies true) (fun _ => True)
      (fun r g' s' => s'.owed = none ∧ s'.sent = 1 ∧ s'.clash = false ∧
        (r.1 ≠ 0 → s'.foundBusy = false) ∧
        (r.1 = 0 → s'.opening ≠ none ∧ (s'.foundBusy = true ↔ g'.sd.state ≠ tranState)))
      g ReplyState.start := by
  unfold sendStatusSd
  refine wp_bind.2 (wp_globals.2 (wp_bind.2 (wp_sendCommandSdio_replies ?_ ?_)))
  · exact iff_of_true rfl (by decide)
  · refine wp_seq (wp_firstAnswer rfl) ?_
    rintro ⟨status, cs'⟩ g₁ s₁ ⟨howed, hsent, hclash, hfailed, hread⟩
    dsimp only
    split
    · rename_i hlost
      have hne : status ≠ 0 := by
        rcases hlost with rfl | rfl <;> decide
      have hcode : errorResponce ≠ 0 := by decide
      exact ⟨howed, hsent, hclash, fun _ => hfailed hne, fun hzero => absurd hzero hcode⟩
    · exact ⟨howed, hsent, hclash, hfailed, hread⟩

/-- The answer to `CMD13`. -/
theorem settles_statusAnswer : Settles erase (do
    let (status, cs) ← cmdResp1Error fuel 0#32
    if status = errorWaitTime ∨ status = errorCrc then return (errorResponce, cs)
    return (status, cs) : SdProc (Int × CardStatus)) :=
  settles_cmdResp1Error.bind fun _ => (tidy_pure _).ite (tidy_pure _)

/-- `wait_card_ready` after a `CMD12` whose answer is still owed. -/
theorem wp_waitCardReady_owed (howed : s.owed = some 0#32) (hsent : s.sent = 2)
    (hfound : s.foundBusy = true) :
    (waitCardReady fuel).wp (replies true) (fun _ => True)
      (fun _ _ s' => s'.owed = none ∧ s'.clash = true ∧ s'.foundBusy = true ∧
        InOrder true s' ∧ s'.opening ≠ none) g s := by
  have hopening : s.opening ≠ none := by
    intro hnone
    simp [ReplyState.foundBusy, hnone] at hfound
  unfold waitCardReady
  rw [waitCardReadyLoop]
  refine wp_bind.2 (wp_bind.2 (wp_globals.2 (wp_bind.2 (wp_sendCommandSdio_replies ?_ ?_))))
  · exact iff_of_false (by simp [howed]) (by simp [hsent, hfound])
  · -- From the third command on everything is in order again.
    have hlate : InOrder true (s.next (.write .cmd (commandWord cmdSendStatus sdioCmdShortResp))
        ()) := Or.inr (Or.inr (show 3 ≤ s.sent + 1 by omega))
    refine wp_mono (settles_statusAnswer g _ hlate) ?_
    intro r g₁ s₁ h₁
    refine wp_mono (tidy_afterQuery 499 r g₁ s₁ h₁.order h₁.owed) ?_
    intro status g₂ s₂ h₂
    have hall := h₂.after h₁.toAlong
    have hsame : s₂.opening = s.opening := hall.opening hopening
    refine ⟨hall.owed, ?_, ?_, hall.order, hsame ▸ hopening⟩
    · rw [hall.clash]
      simp [ReplyState.next, howed]
    · rw [ReplyState.foundBusy, hsame]
      exact hfound

/-- Up to its return to `erase_sd`: a clash happens exactly if the card was found busy. -/
theorem wp_sdPrepareForErase_replies :
    (sdPrepareForErase fuel).wp (replies true) (fun _ => True)
      (fun status _ s' => s'.owed = none ∧ s'.clash = s'.foundBusy ∧
        (status = 0 → InOrder true s' ∧ s'.opening ≠ none)) g ReplyState.start := by
  unfold sdPrepareForErase
  refine wp_seq wp_sendStatusSd_first ?_
  rintro ⟨status, cs⟩ g₁ s₁ ⟨howed, hsent, hclash, hfailed, hread⟩
  dsimp only
  split
  · rename_i hne
    exact ⟨howed, hclash.trans (hfailed hne).symm, fun hzero => absurd hzero hne⟩
  · rename_i hzero
    rcases hread (not_not.1 hzero) with ⟨hopening, hbusy⟩
    refine wp_bind.2 (wp_globals.2 ?_)
    split
    · rename_i hstate
      have hfound : s₁.foundBusy = true := hbusy.2 hstate
      -- `CMD12` is the second command, and `CMD13` the third.
      refine wp_bind.2 (wp_sendCommandSdio_replies ?_ ?_)
      · exact iff_of_true howed (by simp [hsent])
      · refine wp_seq (wp_waitCardReady_owed ?_ ?_ hfound) ?_
        · rfl
        · exact congrArg Nat.succ hsent
        · rintro status g₂ s₂ ⟨hpaired, hclash₂, hfound₂, hlate⟩
          split
          · exact ⟨hpaired, hclash₂.trans hfound₂.symm, fun hzero => absurd hzero ‹_›⟩
          · exact ⟨hpaired, hclash₂.trans hfound₂.symm, fun _ => hlate⟩
    · rename_i hstate
      have hfound : s₁.foundBusy = false := by
        rw [Bool.eq_false_iff]
        exact fun h => hstate (hbusy.1 h)
      exact ⟨howed, hclash.trans hfound.symm, fun _ => ⟨Or.inr (Or.inl ⟨hopening, hfound⟩), hopening⟩⟩

theorem tidy_sendEraseCommand {command arg : BitVec 32} :
    Tidy erase (sendEraseCommand fuel command arg) := by
  refine tidy_exchange settles_cmdResp1Error fun r => Tidy.ite ?_ (tidy_pure _)
  exact (tidy_writeReg (by decide)).bind fun _ => tidy_pure _

/-- Over a whole erase a clash happens exactly if the card was found busy. -/
theorem wp_eraseSd_replies {addressStart addressEnd : BitVec 32} :
    (eraseSd fuel addressStart addressEnd).wp (replies true) (fun _ => True)
      (fun _ _ s' => s'.clash = s'.foundBusy) g ReplyState.start := by
  unfold eraseSd
  refine wp_seq wp_sdPrepareForErase_replies ?_
  rintro status g₁ s₁ ⟨howed, hclash, hready⟩
  split
  · exact hclash
  · rename_i hzero
    rcases hready (not_not.1 hzero) with ⟨horder, hopening⟩
    refine wp_mono (Q := fun _ _ s' => Paired true s₁ s') ?_ ?_
    · have hstep : ∀ command arg, Tidy true (sendEraseCommand fuel command arg) :=
        fun _ _ => tidy_sendEraseCommand
      refine Tidy.bind (tidy_writeReg (by decide)) (fun _ => tidy_globals.bind fun g => ?_) g₁ s₁
        horder howed
      refine (tidy_pure _).ite ((tidy_pure _).ite (tidy_waitCardReady.bind fun status => ?_))
      refine (tidy_pure _).ite ((hstep _ _).bind fun status => (tidy_pure _).ite ?_)
      refine (hstep _ _).bind fun status => (tidy_pure _).ite ?_
      refine (hstep _ _).bind fun status => (tidy_pure _).ite ?_
      refine (tidy_writeReg (by decide)).bind fun _ => Tidy.bind ?_ fun _ => tidy_waitCardReady
      exact tidy_perform (e := .delayTimer 500#32) trivial
    · intro status g₂ s₂ h₂
      rw [h₂.clash, hclash, ReplyState.foundBusy, ReplyState.foundBusy, h₂.opening hopening]

/-! ## All operations -/

inductive SdOperation where
  | readSingle (buffer sizeBuff address timeout : BitVec 32)
  | readMulti (buffer countBlocks address timeout : BitVec 32)
  | writeSingle (data size address timeout : BitVec 32)
  | writeMulti (data countBlocks address timeout : BitVec 32)
  | erase (addressStart addressEnd : BitVec 32)
  | waitCardReady
  | initSd
  | initSdCard

def SdOperation.run (fuel : Nat) : SdOperation → SdProc Int
  | .readSingle buffer sizeBuff address timeout =>
      readSingleBlockSd fuel buffer sizeBuff address timeout
  | .readMulti buffer countBlocks address timeout =>
      readMultiBlockSd fuel buffer countBlocks address timeout
  | .writeSingle data size address timeout => writeSingleBlockSd fuel data size address timeout
  | .writeMulti data countBlocks address timeout =>
      writeMultiBlockSd fuel data countBlocks address timeout
  | .erase addressStart addressEnd => eraseSd fuel addressStart addressEnd
  | .waitCardReady => Driver.waitCardReady fuel
  | .initSd => Driver.initSd fuel
  | .initSdCard => Driver.initSdCard fuel

def SdOperation.isErase : SdOperation → Bool
  | .erase _ _ => true
  | _ => false

theorem SdOperation.wp_run (op : SdOperation) :
    (op.run fuel).wp (replies op.isErase) (fun _ => True)
      (fun _ _ s' => s'.clash = (op.isErase && s'.foundBusy)) g ReplyState.start := by
  have htidy : ∀ p : SdProc Int, Tidy false p → p.wp (replies false) (fun _ => True)
      (fun _ _ s' => s'.clash = (false && s'.foundBusy)) g ReplyState.start := by
    intro p hp
    refine wp_mono (hp g ReplyState.start (Or.inl rfl) rfl) ?_
    intro status g₁ s₁ h₁
    exact h₁.clash
  cases op with
  | readSingle => exact htidy _ tidy_readSingleBlockSd
  | readMulti => exact htidy _ tidy_readMultiBlockSd
  | writeSingle => exact htidy _ tidy_writeSingleBlockSd
  | writeMulti => exact htidy _ tidy_writeMultiBlockSd
  | erase => exact wp_eraseSd_replies
  | waitCardReady => exact htidy _ tidy_waitCardReady
  | initSd => exact htidy _ tidy_initSd
  | initSdCard => exact htidy _ tidy_initSdCard

/-- In every run of every operation, from any state of `SD`: a command is sent with no answer owed,
if and only if it is not the third command of an erase whose first answer reported, without an
error, another state than `TRAN`.  A run to the end has no clash exactly if it is not such an
erase. -/
theorem command_paired_iff (op : SdOperation) (fuel : Nat) (g : SdGlobals) :
    (∀ word k s', Reaches (replies op.isErase) (op.run fuel g) ReplyState.start
        (.op (.write .cmd word) k) s' →
      (s'.owed = none ↔ ¬(op.isErase = true ∧ s'.sent = 2 ∧ s'.foundBusy = true))) ∧
    ∀ status g' s', Runs (replies op.isErase) (op.run fuel g) ReplyState.start (status, g') s' →
      (s'.clash = false ↔ ¬(op.isErase = true ∧ s'.foundBusy = true)) := by
  have hsafe : (op.run fuel).wp (replies op.isErase) (fun _ => True)
      (fun _ _ s' => s'.clash = (op.isErase && s'.foundBusy)) g ReplyState.start := op.wp_run
  constructor
  · intro word k s' hreach
    have hreq := Prog.wp_req hsafe hreach
    exact hreq
  · intro status g' s' hrun
    have hclash := wp_runs hsafe hrun
    rw [hclash]
    simp

/-! ## Two cards -/

/-- A card whose answers all have the same status word. -/
def reporting (word : BitVec 32) (s : ReplyState) (e : SdioEvent) : e.Response × ReplyState :=
  let r : e.Response :=
    match e with
    | .read (.resp _) => word
    | e => e.ready fun _ => sdioStaCmdrend
  (r, s.next e r)

/-- `erase_sd` on a card that reports `RCV`: `CMD13` follows `CMD12`, whose answer is still owed. -/
theorem erase_sends_before_answer :
    ∃ (word : BitVec 32) (k : Unit → Prog SdioEvent SdioEvent.Response (Int × SdGlobals))
        (s' : ReplyState),
      Reaches (replies true) ((SdOperation.erase 0#32 0#32).run 1 blankGlobals) ReplyState.start
        (.op (.write .cmd word) k) s' ∧ s'.owed = some 0#32 := by
  have hsummary : ((((SdOperation.erase 0#32 0#32).run 1 blankGlobals).after (reporting 0xD00#32) 9
        ReplyState.start).1.next?,
      (((SdOperation.erase 0#32 0#32).run 1 blankGlobals).after (reporting 0xD00#32) 9
        ReplyState.start).2.owed) =
      (some (.write .cmd (commandWord cmdSendStatus sdioCmdShortResp)), some 0#32) := by
    decide +kernel
  have hfollows : ∀ s e, (replies true).step s e (reporting 0xD00#32 s e).1
      (reporting 0xD00#32 s e).2 := fun _ _ => rfl
  rcases Prog.after_stops ReplyState.owed hfollows 9 hsummary with ⟨k, s', hreach, howed⟩
  exact ⟨_, k, s', hreach, howed⟩

end Driver
end SdioFat32
