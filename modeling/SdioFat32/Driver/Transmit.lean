import SdioFat32.Driver.Transfer

/-!
# Transmit — what a write that returns 0 has sent

The peripheral answers every read of `STA` with an arbitrary value; the one assumption is that
`DATAEND` is up only after it has consumed all `DLEN` bytes from the FIFO.  The environment keeps
what was pushed, how much of it was consumed, the value of `STA` that the loop condition read
last, and the values the tests after the loop read.

A write that returns 0 has passed all its tests.  That excludes every loop ended by an error
except one ended by `STBITERR` alone, for which there is no test.
-/

namespace SdioFat32
namespace Driver

open Effects Proc

/-! ## The peripheral -/

structure TxState where
  dlen : Nat
  pushed : List (BitVec 32)
  consumed : Nat
  loopEnd : BitVec 32
  tests : List (BitVec 32 × BitVec 32)

/-- Keep the value of `STA` for the places the result depends on. -/
def TxState.observe (s : TxState) (site : StaSite) (sta : BitVec 32) : TxState :=
  match site with
  | .dataLoop _ => { s with loopEnd := sta }
  | .exitTest flag => { s with tests := s.tests ++ [(flag, sta)] }
  | _ => s

/-- The peripheral may go on to consume what has been pushed. -/
def TxState.MayConsume (s : TxState) (consumed : Nat) : Prop :=
  consumed = s.consumed ∨ (s.consumed ≤ consumed ∧ consumed ≤ s.pushed.length)

def transmitter (mem : BitVec 32 → BitVec 32) : Env SdioEvent SdioEvent.Response TxState where
  step s e r s' :=
    match e, r with
    | .sta site, (sta : BitVec 32) =>
        ∃ consumed, s.MayConsume consumed ∧
          -- `DATAEND` is up only after everything was consumed.
          (hasFlag sta sdioStaDataend = true → s.dlen ≤ 4 * consumed) ∧
          s' = TxState.observe { s with consumed := consumed } site sta
    | .load addr, (w : BitVec 32) => w = mem addr ∧ s' = s
    | .write .dlen v, _ => s' = { s with dlen := v.toNat }
    | .write .fifo w, _ => s' = { s with pushed := s.pushed ++ [w] }
    | _, _ => s' = s

section Events

variable {mem : BitVec 32 → BitVec 32} {D : TxState → Prop} {g : SdGlobals} {s : TxState}

theorem wp_readSta_transmitter {site : StaSite} {Q : BitVec 32 → SdGlobals → TxState → Prop} :
    (readSta site).wp (transmitter mem) D Q g s ↔
      ∀ (sta : BitVec 32) (consumed : Nat), s.MayConsume consumed →
        (hasFlag sta sdioStaDataend = true → s.dlen ≤ 4 * consumed) →
        Q sta g (TxState.observe { s with consumed := consumed } site sta) := by
  constructor
  · rintro ⟨_, h⟩ sta consumed hconsume hdataend
    exact h sta _ ⟨consumed, hconsume, hdataend, rfl⟩
  · intro h
    refine ⟨trivial, ?_⟩
    rintro sta s' ⟨consumed, hconsume, hdataend, rfl⟩
    exact h sta consumed hconsume hdataend

@[simp] theorem wp_loadWord_transmitter {addr : BitVec 32}
    {Q : BitVec 32 → SdGlobals → TxState → Prop} :
    (loadWord addr).wp (transmitter mem) D Q g s ↔ Q (mem addr) g s :=
  wp_perform_answered trivial fun _ _ => Iff.rfl

@[simp] theorem wp_writeFifo_transmitter {w : BitVec 32} {Q : Unit → SdGlobals → TxState → Prop} :
    (writeReg .fifo w).wp (transmitter mem) D Q g s ↔
      Q () g { s with pushed := s.pushed ++ [w] } :=
  wp_perform_answered trivial fun _ _ => ⟨fun h => ⟨rfl, h⟩, fun h => h.2⟩

end Events

/-! ## What a write is to achieve -/

/-- The flags of a loop that was ended by an error. -/
def txErrorFlags : BitVec 32 :=
  sdioStaTxunderr ||| sdioStaStbiterr ||| sdioStaDtimeout ||| sdioStaDcrcfail

/-- The first `n` words of the buffer. -/
def bufferWords (mem : BitVec 32 → BitVec 32) (data : BitVec 32) (n : Nat) : List (BitVec 32) :=
  (List.range n).map (fun i => mem (data + BitVec.ofNat 32 (4 * i)))

/-- Everything was pushed once and in order and consumed, and no error ended the loop. -/
structure Delivered (mem : BitVec 32 → BitVec 32) (data : BitVec 32) (n : Nat) (s : TxState) :
    Prop where
  pushed : s.pushed = bufferWords mem data n
  consumed : s.consumed = n
  ended : hasFlag s.loopEnd txErrorFlags = false

/-- A test found its flag clear. -/
def Passed (tests : List (BitVec 32 × BitVec 32)) (flag : BitVec 32) : Prop :=
  ∃ sta, (flag, sta) ∈ tests ∧ hasFlag sta flag = false

/-- A loop ended by an error is followed by a test that finds its flag set. -/
def ErrorsCaught (loopEnd : BitVec 32) (tests : List (BitVec 32 × BitVec 32)) : Prop :=
  (∀ t ∈ txExitTests, Passed tests t.1) → hasFlag loopEnd txErrorFlags = false

variable {mem : BitVec 32 → BitVec 32} {data : BitVec 32} {n fuel : Nat} {D : TxState → Prop}
  {g g' : SdGlobals} {s s' : TxState}

/-! ## Before and after the loop -/

theorem hasFlag_txLoopFlags (sta : BitVec 32) :
    hasFlag sta txLoopFlags = (hasFlag sta txErrorFlags || hasFlag sta sdioStaDataend) :=
  hasFlag_or sta txErrorFlags sdioStaDataend

/-- If no error ended the loop, everything is on the way. -/
def Sent (mem : BitVec 32 → BitVec 32) (data : BitVec 32) (n : Nat) (s : TxState) : Prop :=
  hasFlag s.loopEnd txErrorFlags = false → s.pushed = bufferWords mem data n ∧ s.consumed = n

theorem length_bufferWords : (bufferWords mem data n).length = n := by
  simp [bufferWords]

/-- Events that neither push nor read the loop condition. -/
def AfterLoop : SdioEvent → Prop
  | .sta (.dataLoop _) => False
  | .write .dlen _ => False
  | .write .fifo _ => False
  | _ => True

/-- What may change at such an event: more is consumed, and a test may be recorded. -/
structure Settled (s s' : TxState) : Prop where
  pushed : s'.pushed = s.pushed
  dlen : s'.dlen = s.dlen
  loopEnd : s'.loopEnd = s.loopEnd
  consumed : s.MayConsume s'.consumed

theorem Settled.refl (s : TxState) : Settled s s := ⟨rfl, rfl, rfl, Or.inl rfl⟩

theorem Settled.trans {s₁ s₂ : TxState} (h : Settled s s₁) (h' : Settled s₁ s₂) :
    Settled s s₂ where
  pushed := h'.pushed.trans h.pushed
  dlen := h'.dlen.trans h.dlen
  loopEnd := h'.loopEnd.trans h.loopEnd
  consumed := by
    have hlen : s₁.pushed.length = s.pushed.length := by rw [h.pushed]
    unfold TxState.MayConsume
    rcases h.consumed with h₁ | h₁ <;> rcases h'.consumed with h₂ | h₂ <;> omega

theorem settled_of_afterLoop {e : SdioEvent} {r : e.Response} (he : AfterLoop e)
    (hstep : (transmitter mem).step s e r s') : Settled s s' := by
  cases e with
  | sta site =>
      rcases hstep with ⟨consumed, hconsume, _, rfl⟩
      cases site with
      | dataLoop flags => exact he.elim
      | _ => exact ⟨rfl, rfl, rfl, hconsume⟩
  | load addr => exact hstep.2 ▸ Settled.refl s
  | write reg v =>
      cases reg with
      | dlen => exact he.elim
      | fifo => exact he.elim
      | _ => exact (show s' = s from hstep) ▸ Settled.refl s
  | _ => exact (show s' = s from hstep) ▸ Settled.refl s

theorem Sent.settled (h : Sent mem data n s) (hs : Settled s s') : Sent mem data n s' := by
  intro hclean
  rcases h (hs.loopEnd ▸ hclean) with ⟨hwords, hall⟩
  have hlen : s.pushed.length = n := by rw [hwords, length_bufferWords]
  refine ⟨hs.pushed.trans hwords, ?_⟩
  -- All `n` words had been consumed, and no more were pushed.
  rcases hs.consumed with heq | ⟨hlo, hhi⟩ <;> omega

/-- None of the flags with a test has been tested. -/
def Untested (s : TxState) : Prop :=
  ∀ t ∈ txExitTests, ∀ sta, (t.1, sta) ∉ s.tests

/-- Events other than these tests. -/
def NoTest : SdioEvent → Prop
  | .sta (.exitTest flag) => flag = sdioStaDataend
  | _ => True

theorem Untested.noTest {e : SdioEvent} {r : e.Response} (h : Untested s) (he : NoTest e)
    (hstep : (transmitter mem).step s e r s') : Untested s' := by
  have hkeep : s'.tests = s.tests → Untested s' := fun htests t ht sta => by
    rw [htests]
    exact h t ht sta
  cases e with
  | sta site =>
      rcases hstep with ⟨consumed, _, _, rfl⟩
      cases site with
      | exitTest flag =>
          have hflag : flag = sdioStaDataend := he
          subst hflag
          -- The test of `DATAEND` is recorded, too, but it is none of the three.
          have hne : ∀ t ∈ txExitTests, t.1 ≠ sdioStaDataend := by decide
          intro t ht sta hmem
          rcases List.mem_append.1 hmem with hold | hnew
          · exact h t ht sta hold
          · exact hne t ht (congrArg Prod.fst (List.mem_singleton.1 hnew))
      | _ => exact hkeep rfl
  | load addr => exact hkeep (by rw [hstep.2])
  | write reg v =>
      cases reg with
      | dlen => exact hkeep (by rw [show s' = _ from hstep])
      | fifo => exact hkeep (by rw [show s' = _ from hstep])
      | _ => exact hkeep (by rw [show s' = s from hstep])
  | _ => exact hkeep (by rw [show s' = s from hstep])

theorem wp_noTest {α : Type} {p : SdProc α} (hp : p.Emits NoTest True) (h : Untested s) :
    p.wp (transmitter mem) (fun _ => True) (fun _ _ s' => Untested s') g s :=
  wp_frame hp (fun _ _ hs he => ⟨trivial, fun _ _ hstep => hs.noTest he hstep⟩)
    (fun _ _ _ => trivial) h

/-! ## The polling loop -/

/-- The words pushed so far are the start of the buffer; `st` is where the loop goes on. -/
structure Sending (mem : BitVec 32 → BitVec 32) (data : BitVec 32) (n : Nat)
    (st : BitVec 32 × Int) (s : TxState) : Prop where
  pushed : s.pushed = bufferWords mem data s.pushed.length
  pointer : st.1 = data + BitVec.ofNat 32 (4 * s.pushed.length)
  remaining : st.2 = 4 * ((n : Int) - s.pushed.length)
  le : s.pushed.length ≤ n
  consumed : s.consumed ≤ s.pushed.length
  dlen : s.dlen = 4 * n
  tests : Untested s

theorem bufferWords_succ (k : Nat) :
    bufferWords mem data (k + 1) =
      bufferWords mem data k ++ [mem (data + BitVec.ofNat 32 (4 * k))] := by
  simp [bufferWords, List.range_succ]

theorem Sending.push {st : BitVec 32 × Int} (h : Sending mem data n st s)
    (hlt : s.pushed.length < n) :
    Sending mem data n (st.1 + 4#32, st.2 - 4) { s with pushed := s.pushed ++ [mem st.1] } where
  pushed := by
    simp only [List.length_append, List.length_singleton]
    rw [bufferWords_succ, ← h.pushed, h.pointer]
  pointer := by
    have hfour : (4#32 : BitVec 32) = BitVec.ofNat 32 4 := rfl
    simp only [List.length_append, List.length_singleton]
    rw [h.pointer, BitVec.add_assoc, hfour, ← BitVec.ofNat_add, Nat.mul_add]
  remaining := by
    have hrest := h.remaining
    simp only [List.length_append, List.length_singleton]
    omega
  le := by
    simp only [List.length_append, List.length_singleton]
    omega
  consumed := by
    have hle := h.consumed
    simp only [List.length_append, List.length_singleton]
    omega
  dlen := h.dlen
  tests := h.tests

theorem wp_txBurst {st : BitVec 32 × Int} (m : Nat) (h : Sending mem data n st s)
    (hm : s.pushed.length + m ≤ n) :
    (txBurst m st).wp (transmitter mem) D
      (fun st' _ s' => Sending mem data n st' s' ∧ s'.pushed.length = s.pushed.length + m) g s := by
  induction m generalizing st s with
  | zero => exact ⟨h, rfl⟩
  | succ m ih =>
      rcases st with ⟨tempBuff, dataRemaining⟩
      have hpush := h.push (by omega)
      have hlen : (s.pushed ++ [mem tempBuff]).length = s.pushed.length + 1 := by simp
      simp only [txBurst, wp_bind, wp_loadWord_transmitter, wp_writeFifo_transmitter]
      refine wp_mono (ih hpush ?_) ?_
      · simp only [hlen]
        omega
      · rintro st' g' s' ⟨hst', hlen'⟩
        simp only [hlen] at hlen'
        exact ⟨hst', by omega⟩

theorem Sending.observe {st : BitVec 32 × Int} {consumed : Nat} (h : Sending mem data n st s)
    (site : StaSite) (sta : BitVec 32) (hsite : ∀ flag, site ≠ .exitTest flag)
    (hconsume : s.MayConsume consumed) :
    Sending mem data n st (TxState.observe { s with consumed := consumed } site sta) := by
  have hle : consumed ≤ s.pushed.length := by
    have := h.consumed
    rcases hconsume with heq | ⟨_, hhi⟩ <;> omega
  cases site with
  | exitTest flag => exact absurd rfl (hsite flag)
  | _ => exact ⟨h.pushed, h.pointer, h.remaining, h.le, hle, h.dlen, h.tests⟩

/-- When the loop ends without an error, all words were pushed and consumed. -/
theorem Sending.sent {st : BitVec 32 × Int} {consumed : Nat} {flags sta : BitVec 32}
    (h : Sending mem data n st s) (hconsume : s.MayConsume consumed)
    (hdataend : hasFlag sta sdioStaDataend = true → s.dlen ≤ 4 * consumed)
    (hended : hasFlag sta txLoopFlags = true) :
    Sent mem data n (TxState.observe { s with consumed := consumed } (.dataLoop flags) sta) := by
  intro hclean
  have hclean' : hasFlag sta txErrorFlags = false := hclean
  -- What ended the loop was `DATAEND`.
  have hset : hasFlag sta sdioStaDataend = true := by
    rw [hasFlag_txLoopFlags, hclean', Bool.false_or] at hended
    exact hended
  have hall := hdataend hset
  have hdlen := h.dlen
  have hpushed := h.le
  have hle : consumed ≤ s.pushed.length := by
    have := h.consumed
    rcases hconsume with heq | ⟨_, hhi⟩ <;> omega
  -- At most `n` words were pushed, and at least `n` consumed.
  have hlen : s.pushed.length = n := by omega
  refine ⟨?_, ?_⟩
  · have hwords := h.pushed
    rw [hlen] at hwords
    exact hwords
  · have hconsumed : consumed = n := by omega
    exact hconsumed

theorem wp_txStep {st : BitVec 32 × Int} (h : Sending mem data n st s)
    (hburst : 8 ∣ n - s.pushed.length) :
    (txStep st).wp (transmitter mem) D
      (fun r _ s' => r.elim
        (fun st' => Sending mem data n st' s' ∧ 8 ∣ n - s'.pushed.length)
        (fun _ => Sent mem data n s' ∧ Untested s')) g s := by
  unfold txStep
  simp only [wp_bind, wp_readSta_transmitter]
  intro sta consumed hconsume hdataend
  split
  · rename_i hended
    exact ⟨h.sent hconsume hdataend hended, h.tests⟩
  · have h₁ := h.observe (.dataLoop txLoopFlags) sta (by simp) hconsume
    simp only [wp_bind, wp_readSta_transmitter]
    intro sta' consumed' hconsume' _
    have h₂ := h₁.observe .fifoTest sta' (by simp) hconsume'
    split
    · rename_i hroom
      -- A burst is sent only if words remain, and they remain in multiples of eight.
      have hrest : st.2 = 4 * ((n : Int) - s.pushed.length) := h.remaining
      have hfit : s.pushed.length + 8 ≤ n := by
        have hpos : 0 < st.2 := hroom.2
        omega
      refine wp_seq (wp_txBurst 8 h₂ hfit) ?_
      rintro st' g' s' ⟨hst', hlen⟩
      refine ⟨hst', ?_⟩
      have hlen' : s'.pushed.length = s.pushed.length + 8 := hlen
      omega
    · exact ⟨h₂, hburst⟩

/-- Nothing was pushed yet. -/
structure Fresh (s : TxState) : Prop where
  pushed : s.pushed = []
  consumed : s.consumed = 0
  tests : Untested s

theorem wp_txLoop {length : BitVec 32} (hs : Fresh s) (hdlen : s.dlen = 4 * n)
    (hlength : length.toInt = 4 * n) (hn : 8 ∣ n) :
    (txLoop fuel data length).wp (transmitter mem) (fun _ => True)
      (fun _ _ s' => Sent mem data n s' ∧ Untested s') g s := by
  have hlen : s.pushed.length = 0 := by rw [hs.pushed]; rfl
  have hstart : Sending mem data n (data, length.toInt) s :=
    { pushed := by rw [hs.pushed]; rfl
      pointer := by simp [hs.pushed]
      remaining := by simp [hs.pushed, hlength]
      le := by omega
      consumed := by rw [hs.consumed]; exact Nat.zero_le _
      dlen := hdlen
      tests := hs.tests }
  unfold txLoop
  refine wp_iter (fun st _ s' => Sending mem data n st s' ∧ 8 ∣ n - s'.pushed.length) ?_
    (fun _ _ _ _ => trivial) fuel ⟨hstart, ?_⟩
  · rintro st g' s' ⟨hst, hburst⟩
    exact wp_txStep hst hburst
  · rw [hlen]
    exact hn

/-! ## The tests -/

/-- The tests return 0 exactly if each of them passes. -/
theorem wp_exitTests {ts : List (BitVec 32 × Int)} (herr : ∀ t ∈ ts, t.2 ≠ 0)
    (hdistinct : (ts.map Prod.fst).Nodup) (hnew : ∀ t ∈ ts, ∀ sta, (t.1, sta) ∉ s.tests) :
    (exitTests ts).wp (transmitter mem) D
      (fun status _ s' => Settled s s' ∧ (∀ x ∈ s.tests, x ∈ s'.tests) ∧
        ((status = 0 ∧ ∀ t ∈ ts, Passed s'.tests t.1) ∨
          (status ≠ 0 ∧ ∃ t ∈ ts, ¬Passed s'.tests t.1))) g s := by
  induction ts generalizing s with
  | nil => exact ⟨Settled.refl s, fun _ hx => hx, Or.inl ⟨rfl, by simp⟩⟩
  | cons t ts ih =>
      rcases t with ⟨flag, error⟩
      have hflag : flag ∉ ts.map Prod.fst := (List.nodup_cons.1 hdistinct).1
      simp only [exitTests, wp_bind, wp_readSta_transmitter]
      intro sta consumed hconsume _
      have hsettled : Settled s
          (TxState.observe { s with consumed := consumed } (.exitTest flag) sta) :=
        ⟨rfl, rfl, rfl, hconsume⟩
      split
      · rename_i hset
        refine ⟨trivial, ?_⟩
        rintro _ s' rfl
        refine ⟨hsettled, fun x hx => List.mem_append_left _ hx,
          Or.inr ⟨herr (flag, error) (by simp), ?_⟩⟩
        refine ⟨(flag, error), by simp, ?_⟩
        -- This test cannot have passed: it is recorded once, with the flag set.
        rintro ⟨sta', hmem, hclear⟩
        rcases List.mem_append.1 hmem with hold | hlast
        · exact hnew (flag, error) (by simp) sta' hold
        · have hsta : sta' = sta := congrArg Prod.snd (List.mem_singleton.1 hlast)
          rw [hsta, hset] at hclear
          cases hclear
      · rename_i hset
        refine wp_mono (ih (fun t ht => herr t (by simp [ht])) (List.nodup_cons.1 hdistinct).2
          ?_) ?_
        · intro t ht sta' hmem
          rcases List.mem_append.1 hmem with hold | hlast
          · exact hnew t (by simp [ht]) sta' hold
          · have heq : t.1 = flag := congrArg Prod.fst (List.mem_singleton.1 hlast)
            exact hflag (heq ▸ List.mem_map_of_mem ht)
        · rintro status g' s' ⟨hsettled', hkeep, hres⟩
          refine ⟨hsettled.trans hsettled', fun x hx => hkeep x (List.mem_append_left _ hx), ?_⟩
          rcases hres with ⟨hzero, hall⟩ | ⟨hne, t, ht, hfail⟩
          · refine Or.inl ⟨hzero, ?_⟩
            intro t ht
            rcases List.mem_cons.1 ht with rfl | htail
            · exact ⟨sta, hkeep _ (List.mem_append_right _ (by simp)), by simpa using hset⟩
            · exact hall t htail
          · exact Or.inr ⟨hne, t, by simp [ht], hfail⟩

/-! ## The write functions -/

theorem Dialogue.afterLoop {cmds : BitVec 32 → Prop} {e : SdioEvent} (he : Dialogue cmds e) :
    AfterLoop e := by
  cases e with
  | sta site =>
      cases site with
      | dataLoop flags => exact he.elim
      | _ => trivial
  | write reg v =>
      cases reg with
      | dlen => exact he.elim
      | fifo => exact he.elim
      | _ => trivial
  | _ => trivial

theorem Dialogue.noTest {cmds : BitVec 32 → Prop} {e : SdioEvent} (he : Dialogue cmds e) :
    NoTest e := by
  cases e with
  | sta site =>
      cases site with
      | exitTest flag => exact he.elim
      | _ => trivial
  | _ => trivial

theorem Fresh.settled (h : Fresh s) (hs : Settled s s') (htests : Untested s') : Fresh s' where
  pushed := hs.pushed.trans h.pushed
  consumed := by
    have hlen : s.pushed.length = 0 := by rw [h.pushed]; rfl
    have hzero := h.consumed
    rcases hs.consumed with heq | ⟨hlo, hhi⟩ <;> omega
  tests := htests

/-- Talking to the card changes neither the words nor the tests. -/
theorem wp_dialogue {α : Type} {p : SdProc α} (hp : p.Emits (Dialogue fun _ => True) True) :
    p.wp (transmitter mem) (fun _ => True) (fun _ _ s' => Settled s s' ∧ s'.tests = s.tests)
      g s := by
  refine wp_frame (I := fun s' => Settled s s' ∧ s'.tests = s.tests) hp ?_ (fun _ _ _ => trivial)
    ⟨Settled.refl s, rfl⟩
  rintro s₁ e ⟨h₁, htests₁⟩ he
  refine ⟨trivial, ?_⟩
  intro r s₂ hstep
  refine ⟨h₁.trans (settled_of_afterLoop he.afterLoop hstep), Eq.trans ?_ htests₁⟩
  cases e with
  | sta site =>
      rcases hstep with ⟨consumed, _, _, rfl⟩
      cases site with
      | exitTest flag => exact he.elim
      | _ => rfl
  | load addr => exact he.elim
  | write reg v =>
      cases reg with
      | dlen => exact he.elim
      | fifo => exact he.elim
      | _ => rw [show s₂ = s₁ from hstep]
  | _ => rw [show s₂ = s₁ from hstep]

theorem emits_stopTransmission :
    (stopTransmission fuel).Emits (fun e => AfterLoop e ∧ NoTest e) True := by
  have hsend : (sendCommandSdio cmdStopTransmission 0#32 sdioCmdShortResp).Emits
      (Dialogue fun _ => True) True := emits_sendCommandSdio trivial
  have hanswer : (cmdResp1bError fuel 0#32).Emits (Dialogue fun _ => True) True :=
    emits_cmdResp1bError trivial
  refine (emits_perform ⟨trivial, rfl⟩).bind fun sta => emits_ite ?_ (emits_pure _)
  refine (hsend.mono fun e he => ⟨he.afterLoop, he.noTest⟩).bind fun _ => ?_
  refine (hanswer.mono fun e he => ⟨he.afterLoop, he.noTest⟩).bind ?_
  rintro ⟨status, cs⟩
  refine emits_ite ?_ (emits_pure _)
  exact (emits_perform ⟨trivial, trivial⟩).bind fun _ => emits_pure _

/-- Stopping the transmission tests only `DATAEND`. -/
theorem wp_stopTransmission (h : Untested s) :
    (stopTransmission fuel).wp (transmitter mem) (fun _ => True)
      (fun _ _ s' => Settled s s' ∧ Untested s') g s := by
  refine wp_frame (I := fun s' => Settled s s' ∧ Untested s') emits_stopTransmission ?_
    (fun _ _ _ => trivial) ⟨Settled.refl s, h⟩
  rintro s₁ e ⟨h₁, htests₁⟩ ⟨hafter, hno⟩
  refine ⟨trivial, ?_⟩
  intro r s₂ hstep
  exact ⟨h₁.trans (settled_of_afterLoop hafter hstep), htests₁.noTest hno hstep⟩

theorem txExitTests_errors : ∀ t ∈ txExitTests, t.2 ≠ 0 := by decide

theorem txExitTests_distinct : (txExitTests.map Prod.fst).Nodup := by decide

/-- The end of a write returns 0 only if all tests passed, and what was sent stays. -/
theorem wp_txFinish (hsent : Sent mem data n s) (htests : Untested s) :
    (txFinish fuel).wp (transmitter mem) (fun _ => True)
      (fun status _ s' => status = 0 →
        Sent mem data n s' ∧ ∀ t ∈ txExitTests, Passed s'.tests t.1) g s := by
  unfold txFinish
  refine wp_seq (wp_exitTests txExitTests_errors txExitTests_distinct htests) ?_
  rintro status g₁ s₁ ⟨htested, _, ⟨rfl, hpassed⟩ | ⟨hne, _⟩⟩
  · have hrest : (clearFlagsSdio sdioMaskStaticDataFlags >>= fun _ => waitCardReady fuel).Emits
        (Dialogue fun _ => True) True :=
      emits_clearFlagsSdio.bind fun _ => emits_waitCardReady trivial
    refine wp_mono (wp_dialogue hrest) ?_
    rintro status g₂ s₂ ⟨hsettled, htests₂⟩ _
    exact ⟨hsent.settled (htested.trans hsettled), htests₂ ▸ hpassed⟩
  · rw [if_pos hne]
    intro hzero
    exact absurd hzero hne

/-- What a write of `n` words that returns 0 guarantees, but for the flag without a test. -/
def Finished (mem : BitVec 32 → BitVec 32) (data : BitVec 32) (n : Nat) (status : Int)
    (s : TxState) : Prop :=
  status = 0 → Sent mem data n s ∧ ∀ t ∈ txExitTests, Passed s.tests t.1

theorem wp_sdioConfigData {dataControl length timeout : BitVec 32} (h : Fresh s) :
    (sdioConfigData dataControl length timeout).wp (transmitter mem) D
      (fun _ _ s' => Fresh s' ∧ s'.dlen = length.toNat) g s := by
  refine ⟨trivial, ?_⟩
  rintro _ s₁ rfl
  refine ⟨trivial, ?_⟩
  rintro _ s₂ rfl
  refine ⟨trivial, ?_⟩
  rintro _ s₃ rfl
  exact ⟨⟨h.pushed, h.consumed, h.tests⟩, rfl⟩

@[simp] theorem wp_writeDctrl_transmitter {v : BitVec 32} {Q : Unit → SdGlobals → TxState → Prop} :
    (writeReg .dctrl v).wp (transmitter mem) D Q g s ↔ Q () g s :=
  wp_perform_answered trivial fun _ _ => ⟨fun h => ⟨rfl, h⟩, fun h => h.2⟩

theorem Fresh.talk (h : Fresh s) (hs : Settled s s' ∧ s'.tests = s.tests) : Fresh s' := by
  refine h.settled hs.1 ?_
  intro t ht sta
  rw [hs.2]
  exact h.tests t ht sta

theorem finished_of_ne {status : Int} (h : status ≠ 0) : Finished mem data n status s :=
  fun hzero => absurd hzero h

theorem wp_writeSingleBlockSd {address timeout : BitVec 32} (h : Fresh s) :
    (writeSingleBlockSd fuel data 512#32 address timeout).wp (transmitter mem) (fun _ => True)
      (fun status _ s' => Finished mem data 128 status s') g s := by
  unfold writeSingleBlockSd
  rw [if_neg (by decide)]
  simp only [wp_bind, wp_globals, wp_writeDctrl_transmitter]
  refine wp_mono (wp_dialogue (emits_waitCardReady trivial)) ?_
  intro status g₁ s₁ htalk
  have h₁ := h.talk htalk
  split
  · rename_i hne
    exact finished_of_ne hne
  · refine wp_seq (wp_sdioConfigData h₁) ?_
    rintro _ g₂ s₂ ⟨h₂, hdlen⟩
    refine wp_seq (wp_dialogue (emits_sendCommandSdio trivial)) ?_
    intro _ g₃ s₃ hsend
    refine wp_seq (wp_dialogue emits_cmdResp1Error) ?_
    rintro ⟨status, cs⟩ g₄ s₄ hanswer
    have h₄ := (h₂.talk hsend).talk hanswer
    have hdlen₄ : s₄.dlen = 4 * 128 := hanswer.1.dlen.trans (hsend.1.dlen.trans hdlen)
    split
    · exact finished_of_ne (show (-1 : Int) ≠ 0 by decide)
    · refine wp_seq (wp_txLoop h₄ hdlen₄ (by decide) (by decide)) ?_
      rintro _ g₅ s₅ ⟨hsent, htests⟩
      exact wp_txFinish hsent htests

/-- The length register and the loop agree on the number of bytes. -/
theorem length_of_count {count : BitVec 32} (hcount : count.toNat ≤ 65535) :
    (512#32 * count).toNat = 4 * (128 * count.toNat) ∧
      (512#32 * count).toInt = 4 * ((128 * count.toNat : Nat) : Int) := by
  have hnat : (512#32 * count).toNat = 512 * count.toNat := by
    rw [BitVec.toNat_mul]
    simp only [BitVec.toNat_ofNat]
    omega
  refine ⟨by omega, ?_⟩
  rw [BitVec.toInt_eq_toNat_of_lt (by omega), hnat]
  omega

theorem wp_writeMultiBlockSd {count address timeout : BitVec 32} (hpos : 1 ≤ count.toNat)
    (hcount : count.toNat ≤ 65535) (h : Fresh s) :
    (writeMultiBlockSd fuel data count address timeout).wp (transmitter mem) (fun _ => True)
      (fun status _ s' => Finished mem data (128 * count.toNat) status s') g s := by
  unfold writeMultiBlockSd
  dsimp only
  split
  · -- One block goes to `write_single_block_sd`.
    rename_i hle
    have hone : count = 1#32 := by
      have hle' : count.toNat ≤ 1 := hle
      exact BitVec.eq_of_toNat_eq (Nat.le_antisymm hle' hpos)
    subst hone
    exact wp_writeSingleBlockSd h
  · rcases length_of_count hcount with ⟨hlen, hlenInt⟩
    simp only [wp_bind, wp_globals, wp_writeDctrl_transmitter]
    refine wp_mono (wp_sdioConfigData h) ?_
    rintro _ g₁ s₁ ⟨h₁, hdlen⟩
    refine wp_mono (wp_dialogue (emits_sendCommandSdio trivial)) ?_
    intro _ g₂ s₂ hsend
    refine wp_mono (wp_dialogue emits_cmdResp1Error) ?_
    rintro ⟨status, cs⟩ g₃ s₃ hanswer
    have h₃ := (h₁.talk hsend).talk hanswer
    have hdlen₃ : s₃.dlen = 4 * (128 * count.toNat) :=
      hanswer.1.dlen.trans (hsend.1.dlen.trans (hdlen.trans hlen))
    split
    · refine wp_seq (wp_dialogue emits_clearFlagsSdio) ?_
      intro _ g₄ s₄ _
      exact finished_of_ne (show (-1 : Int) ≠ 0 by decide)
    · refine wp_seq (wp_txLoop h₃ hdlen₃ hlenInt (by omega)) ?_
      rintro _ g₄ s₄ ⟨hsent, htests⟩
      refine wp_seq (wp_stopTransmission htests) ?_
      rintro status g₅ s₅ ⟨hsettled, htests₅⟩
      split
      · rename_i hne
        exact finished_of_ne hne
      · exact wp_txFinish (hsent.settled hsettled) htests₅

/-! ## Ending a write with 0

The condition below speaks about the values of `STA` alone.  For its necessity a run with given
values must be continued by a card that gets ready: only the last `wait_card_ready` changes. -/

/-- What a transmitter shows to the loop condition, and how much it has consumed by then. -/
structure LoopAnswer where
  answer : TxState → BitVec 32 × Nat
  consumes : ∀ s : TxState, s.MayConsume (answer s).2
  dataend : ∀ s : TxState, hasFlag (answer s).1 sdioStaDataend = true → s.dlen ≤ 4 * (answer s).2

/-- A transmitter that does nothing and shows `sta`. -/
def LoopAnswer.idle (sta : BitVec 32) (h : hasFlag sta sdioStaDataend = false) : LoopAnswer where
  answer s := (sta, s.consumed)
  consumes _ := Or.inl rfl
  dataend _ hset := by simp [h] at hset

/-- A card that is ready, with room in the FIFO at every test. -/
def readyAnswer (mem : BitVec 32 → BitVec 32) (loop : LoopAnswer) (s : TxState) :
    (e : SdioEvent) → e.Response × TxState
  | .sta (.dataLoop _) =>
      ((loop.answer s).1, { s with consumed := (loop.answer s).2, loopEnd := (loop.answer s).1 })
  | .sta site =>
      (sdioStaCmdrend ||| sdioStaTxfifohe, s.observe site (sdioStaCmdrend ||| sdioStaTxfifohe))
  | .read _ => (0x900#32, s)
  | .write .dlen v => ((), { s with dlen := v.toNat })
  | .write .fifo w => ((), { s with pushed := s.pushed ++ [w] })
  | .write _ _ => ((), s)
  | .load addr => (mem addr, s)
  | .store _ _ => ((), s)
  | .memcpy _ _ _ => ((), s)
  | .delayTimer _ => ((), s)
  | .indeterminate => (0#32, s)
  | .setGpioConf _ _ => ((), s)
  | .enableAndResetRcc _ _ => ((), s)
  | .getPll48clkFreq => (0#32, s)

theorem readyAnswer_allowed (mem : BitVec 32 → BitVec 32) (loop : LoopAnswer) (s : TxState)
    (e : SdioEvent) :
    (transmitter mem).step s e (readyAnswer mem loop s e).1 (readyAnswer mem loop s e).2 := by
  have hclear : hasFlag (sdioStaCmdrend ||| sdioStaTxfifohe) sdioStaDataend = false := by decide
  have hcalm : ∀ site, (transmitter mem).step s (.sta site) (sdioStaCmdrend ||| sdioStaTxfifohe)
      (s.observe site (sdioStaCmdrend ||| sdioStaTxfifohe)) :=
    fun site => ⟨s.consumed, Or.inl rfl, fun hset => absurd hset (by simp [hclear]), rfl⟩
  cases e with
  | sta site =>
      cases site with
      | dataLoop flags => exact ⟨_, loop.consumes s, loop.dataend s, rfl⟩
      | cmdSent => exact hcalm _
      | cmdResp => exact hcalm _
      | fifoTest => exact hcalm _
      | exitTest flag => exact hcalm _
      | drainLoop => exact hcalm _
  | load addr => exact ⟨rfl, rfl⟩
  | write reg v => cases reg <;> rfl
  | _ => rfl

section Ready

variable {loop : LoopAnswer}

@[simp] theorem exec_readSta :
    (readSta .cmdResp g).exec (readyAnswer mem loop) s =
      some ((sdioStaCmdrend ||| sdioStaTxfifohe, g), s) := rfl

@[simp] theorem exec_readResp {i : Fin 4} :
    (readReg (.resp i) g).exec (readyAnswer mem loop) s = some ((0x900#32, g), s) := rfl

@[simp] theorem exec_sendCommandSdio {command arg formatResp : BitVec 32} :
    (sendCommandSdio command arg formatResp g).exec (readyAnswer mem loop) s =
      some (((), g), s) := rfl

@[simp] theorem exec_clearFlagSdio {flag : BitVec 32} :
    (clearFlagSdio flag g).exec (readyAnswer mem loop) s = some (((), g), s) := rfl

@[simp] theorem exec_assignSd {f : SdData → SdData} :
    (assignSd f g).exec (readyAnswer mem loop) s = some (((), { g with sd := f g.sd }), s) := rfl

theorem exec_answerStatus {onTimeout onCrc : BitVec 32} :
    (answerStatus (fuel + 1) onTimeout onCrc g).exec (readyAnswer mem loop) s = some ((0, g), s) := by
  have hend : hasFlag (sdioStaCmdrend ||| sdioStaTxfifohe)
      (sdioStaCmdrend ||| sdioStaCtimeout ||| sdioStaCcrcfail) = true := by decide
  have htimeout : hasFlag (sdioStaCmdrend ||| sdioStaTxfifohe) sdioStaCtimeout = false := by decide
  have hcrc : hasFlag (sdioStaCmdrend ||| sdioStaTxfifohe) sdioStaCcrcfail = false := by decide
  simp [answerStatus, waitResponse, iter, hend, htimeout, hcrc]

theorem exec_sendStatusSd {cs : CardStatus} :
    (sendStatusSd (fuel + 1) cs g).exec (readyAnswer mem loop) s =
      some (((0, CardStatus.copyFields cs 0x900#32),
        { g with sd := { g.sd with state := tranState } }), s) := by
  have hr1 : r1Error 0x900#32 = 0 := by decide
  have hstate : CardStatus.currentState 0x900#32 = tranState := by decide
  have hcodes : ¬((0 : Int) = errorWaitTime ∨ (0 : Int) = errorCrc) := by decide
  simp [sendStatusSd, cmdResp1Error, exec_answerStatus, hr1, hstate, hcodes]

/-- A card that is ready at once. -/
theorem waitCardReady_ready (hfuel : 0 < fuel) :
    ∃ g₁, Runs (transmitter mem) (waitCardReady fuel g) s (0, g₁) s := by
  obtain ⟨fuel, rfl⟩ := Nat.exists_eq_succ_of_ne_zero (Nat.pos_iff_ne_zero.1 hfuel)
  have hready : CardStatus.readyForData 0x900#32 = true := by decide
  have hcode : ¬(0 : Int) = errorResponce := by decide
  have hrun : (waitCardReady (fuel + 1) g).exec (readyAnswer mem (.idle 0#32 (by decide))) s =
      some ((0, { g with sd := { g.sd with state := tranState } }), s) := by
    unfold waitCardReady
    rw [waitCardReadyLoop]
    simp [exec_sendStatusSd, CardStatus.readyForData_copyFields, hready, hcode]
  exact ⟨_, Prog.exec_runs (readyAnswer_allowed mem _) hrun⟩

end Ready

/-- Without fuel `wait_card_ready` does not return. -/
theorem fuel_pos_of_waitCardReady {status : Int}
    (hrun : Runs (transmitter mem) (waitCardReady fuel g) s (status, g') s') : 0 < fuel := by
  refine Nat.pos_of_ne_zero ?_
  rintro rfl
  have hnever : (waitCardReady 0).wp (transmitter mem) (fun _ => True) (fun _ _ _ => False) g s :=
    ⟨trivial, fun _ _ _ => ⟨trivial, fun _ _ _ => trivial⟩⟩
  exact wp_runs hnever hrun

/-- Every run whose tests all passed could have ended with 0, on the same values of `STA`. -/
def EndsReady (mem : BitVec 32 → BitVec 32) (p : SdProc Int) : Prop :=
  ∀ g s status g' s', Untested s → Runs (transmitter mem) (p g) s (status, g') s' →
    (∀ t ∈ txExitTests, Passed s'.tests t.1) →
    ∃ g₁ s₁, Runs (transmitter mem) (p g) s (0, g₁) s₁ ∧ s₁.loopEnd = s'.loopEnd ∧
      s₁.tests = s'.tests

theorem endsReady_pure (status : Int) : EndsReady mem (pure status) := by
  intro g s _ g' s' huntested hrun hpassed
  cases hrun
  -- Nothing was tested, so nothing passed.
  rcases hpassed (sdioStaDcrcfail, errorDataCrc) (by decide) with ⟨sta, hmem, _⟩
  exact absurd hmem (huntested (sdioStaDcrcfail, errorDataCrc) (by decide) sta)

theorem endsReady_bind {β : Type} {p : SdProc β} {f : β → SdProc Int}
    (hp : p.Emits NoTest True) (hf : ∀ b, EndsReady mem (f b)) : EndsReady mem (p >>= f) := by
  intro g s status g' s' huntested hrun hpassed
  rcases Proc.runs_bind_iff.1 hrun with ⟨b, g₁, s₁, hfirst, hrest⟩
  have huntested₁ := wp_runs (wp_noTest hp huntested) hfirst
  rcases hf b g₁ s₁ status g' s' huntested₁ hrest hpassed with ⟨g₂, s₂, hready, hend, htests⟩
  exact ⟨g₂, s₂, Proc.runs_bind_iff.2 ⟨b, g₁, s₁, hfirst, hready⟩, hend, htests⟩

theorem endsReady_ite {c : Prop} [Decidable c] {p q : SdProc Int} (hp : EndsReady mem p)
    (hq : EndsReady mem q) : EndsReady mem (if c then p else q) := by
  split
  · exact hp
  · exact hq

theorem endsReady_txFinish : EndsReady mem (txFinish fuel) := by
  intro g s status g' s' huntested hrun hpassed
  rcases Proc.runs_bind_iff.1 hrun with ⟨tested, g₁, s₁, htest, hrest⟩
  rcases wp_runs (D := fun _ => True)
    (wp_exitTests txExitTests_errors txExitTests_distinct huntested) htest with
    ⟨_, _, ⟨rfl, _⟩ | ⟨hne, t, ht, hfail⟩⟩
  · rcases Proc.runs_bind_iff.1 hrest with ⟨_, g₂, s₂, hclear, hwait⟩
    rcases wp_runs (wp_dialogue (emits_waitCardReady trivial)) hwait with ⟨hsettled, htests⟩
    -- Only the last wait is replaced: it tests nothing and does not read the loop condition.
    rcases waitCardReady_ready (fuel_pos_of_waitCardReady hwait) with ⟨g₃, hready⟩
    refine ⟨g₃, s₂, ?_, hsettled.loopEnd.symm, htests.symm⟩
    refine Proc.runs_bind_iff.2 ⟨0, g₁, s₁, htest, ?_⟩
    exact Proc.runs_bind_iff.2 ⟨(), g₂, s₂, hclear, hready⟩
  · rw [if_pos hne] at hrest
    cases hrest
    exact absurd (hpassed t ht) hfail

theorem Polling.noTest {e : SdioEvent} (he : Polling e) : NoTest e := by
  cases e with
  | sta site =>
      cases site with
      | exitTest flag => exact he.elim
      | _ => trivial
  | _ => trivial

theorem emits_txLoop_noTest {length : BitVec 32} : (txLoop fuel data length).Emits NoTest True :=
  emits_txLoop.mono fun _ he => he.noTest

theorem endsReady_writeSingleBlockSd {size address timeout : BitVec 32} :
    EndsReady mem (writeSingleBlockSd fuel data size address timeout) := by
  have htalk : ∀ {α : Type} {p : SdProc α}, p.Emits (Dialogue fun _ => True) True →
      p.Emits NoTest True := fun hp => hp.mono fun e he => he.noTest
  refine endsReady_ite (endsReady_pure _) ?_
  refine endsReady_bind emits_globals fun g => endsReady_bind (emits_perform trivial) fun _ => ?_
  refine endsReady_bind (htalk (emits_waitCardReady trivial)) fun status => ?_
  refine endsReady_ite (endsReady_pure _) (endsReady_bind ?_ fun _ => ?_)
  · exact (emits_perform trivial).bind fun _ => (emits_perform trivial).bind fun _ =>
      emits_perform trivial
  · refine endsReady_bind (htalk (emits_sendCommandSdio trivial)) fun _ => ?_
    refine endsReady_bind (htalk emits_cmdResp1Error) ?_
    rintro ⟨status, cs⟩
    refine endsReady_ite (endsReady_pure _) (endsReady_bind emits_txLoop_noTest fun _ => ?_)
    exact endsReady_txFinish

theorem endsReady_writeMultiBlockSd {count address timeout : BitVec 32} :
    EndsReady mem (writeMultiBlockSd fuel data count address timeout) := by
  have htalk : ∀ {α : Type} {p : SdProc α}, p.Emits (Dialogue fun _ => True) True →
      p.Emits NoTest True := fun hp => hp.mono fun e he => he.noTest
  refine endsReady_ite (endsReady_ite endsReady_writeSingleBlockSd (endsReady_pure _)) ?_
  refine endsReady_bind emits_globals fun g => endsReady_bind (emits_perform trivial) fun _ => ?_
  refine endsReady_bind ?_ fun _ =>
    endsReady_bind (htalk (emits_sendCommandSdio trivial)) fun _ => ?_
  · exact (emits_perform trivial).bind fun _ => (emits_perform trivial).bind fun _ =>
      emits_perform trivial
  · refine endsReady_bind (htalk emits_cmdResp1Error) ?_
    rintro ⟨status, cs⟩
    refine endsReady_ite ?_ (endsReady_bind emits_txLoop_noTest fun _ => ?_)
    · exact endsReady_bind (htalk emits_clearFlagsSdio) fun _ => endsReady_pure _
    · refine endsReady_bind (emits_stopTransmission.mono fun e he => he.2) fun status => ?_
      exact endsReady_ite (endsReady_pure _) endsReady_txFinish

/-! ## When a write that returns 0 has sent everything -/

inductive WriteFunction where
  | single
  | multi

/-- Write `count` blocks. -/
def WriteFunction.run (f : WriteFunction) (fuel : Nat) (data count address timeout : BitVec 32) :
    SdProc Int :=
  match f with
  | .single => writeSingleBlockSd fuel data (512#32 * count) address timeout
  | .multi => writeMultiBlockSd fuel data count address timeout

section Write

variable {f : WriteFunction} {count address timeout : BitVec 32}

theorem wp_writeFunction (hpos : 1 ≤ count.toNat) (hcount : count.toNat ≤ 65535) (h : Fresh s) :
    (f.run fuel data count address timeout).wp (transmitter mem) (fun _ => True)
      (fun status _ s' => Finished mem data (128 * count.toNat) status s') g s := by
  cases f with
  | multi => exact wp_writeMultiBlockSd hpos hcount h
  | single =>
      by_cases hone : count = 1#32
      · subst hone
        exact wp_writeSingleBlockSd h
      -- Another size than 512 is refused, and 512 times the count is 512 for no other count.
      · have hsize : 512#32 * count ≠ 512#32 := by
          intro heq
          have hnat := congrArg BitVec.toNat heq
          rw [(length_of_count hcount).1] at hnat
          have hnat' : 4 * (128 * count.toNat) = 512 := hnat
          exact hone (BitVec.eq_of_toNat_eq (show count.toNat = 1 by omega))
        unfold WriteFunction.run writeSingleBlockSd
        simp only [hsize, ne_eq, not_false_eq_true, if_true]
        exact finished_of_ne (show (-10 : Int) ≠ 0 by decide)

theorem endsReady_writeFunction : EndsReady mem (f.run fuel data count address timeout) := by
  cases f with
  | single => exact endsReady_writeSingleBlockSd
  | multi => exact endsReady_writeMultiBlockSd

/-- Fix the values of `STA` that end the loop and that the tests read, as in some run.  Whatever
else the peripheral and the card do, a write that returns 0 has sent everything, exactly if a loop
ended by an error is followed by a test that finds its flag set. -/
theorem write_sends_all_iff (hpos : 1 ≤ count.toNat) (hcount : count.toNat ≤ 65535) {status : Int}
    (hs : Fresh s)
    (hrun : Runs (transmitter mem) (f.run fuel data count address timeout g) s (status, g') s') :
    (∀ status₁ g₁ s₁,
        Runs (transmitter mem) (f.run fuel data count address timeout g) s (status₁, g₁) s₁ →
        s₁.loopEnd = s'.loopEnd → s₁.tests = s'.tests →
        status₁ = 0 → Delivered mem data (128 * count.toNat) s₁) ↔
      ErrorsCaught s'.loopEnd s'.tests := by
  constructor
  · intro hall hpassed
    rcases endsReady_writeFunction g s status g' s' hs.tests hrun hpassed with
      ⟨g₁, s₁, hready, hend, htests⟩
    rw [← hend]
    exact (hall 0 g₁ s₁ hready hend htests rfl).ended
  · intro hcaught status₁ g₁ s₁ hrun₁ hend htests hzero
    rcases wp_runs (wp_writeFunction hpos hcount hs) hrun₁ hzero with ⟨hsent, hpassed⟩
    have hclean : hasFlag s₁.loopEnd txErrorFlags = false := by
      rw [hend]
      exact hcaught (htests ▸ hpassed)
    rcases hsent hclean with ⟨hwords, hconsumed⟩
    exact ⟨hwords, hconsumed, hclean⟩

end Write

/-! ## Two writes of one block -/

def TxState.start : TxState :=
  { dlen := 0
    pushed := []
    consumed := 0
    loopEnd := 0#32
    tests := [] }

theorem fresh_start : Fresh TxState.start := ⟨rfl, rfl, fun _ _ _ h => absurd h List.not_mem_nil⟩

/-- `DATAEND` comes up once 128 words have been pushed. -/
def LoopAnswer.completing : LoopAnswer where
  answer s :=
    if s.pushed.length = 128 ∧ s.consumed ≤ 128 ∧ s.dlen ≤ 512 then (sdioStaDataend, 128)
    else (0#32, s.consumed)
  consumes s := by
    split
    · rename_i hfull
      exact Or.inr ⟨hfull.2.1, Nat.le_of_eq hfull.1.symm⟩
    · exact Or.inl rfl
  dataend s := by
    split
    · rename_i hfull
      intro _
      exact hfull.2.2
    · have hclear : hasFlag 0#32 sdioStaDataend = false := by decide
      intro hset
      exact absurd (hclear.symm.trans hset) Bool.false_ne_true

/-- A start bit error ends the loop before a word was sent, and the write returns 0. -/
theorem stbiterr_write_returns_zero :
    ∃ g' s', Runs (transmitter fun addr => addr)
        (WriteFunction.single.run 1 0x20001000#32 1#32 0#32 1000000#32 blankGlobals) TxState.start
        (0, g') s' ∧ s'.loopEnd = sdioStaStbiterr ∧ s'.pushed = [] ∧
      ¬Delivered (fun addr => addr) 0x20001000#32 128 s' := by
  have hsummary : ((WriteFunction.single.run 1 0x20001000#32 1#32 0#32 1000000#32
      blankGlobals).exec (readyAnswer (fun addr => addr)
        (LoopAnswer.idle sdioStaStbiterr (by decide))) TxState.start).map
      (fun x => (x.1.1, x.2.loopEnd, x.2.pushed)) = some (0, sdioStaStbiterr, []) := by
    decide +kernel
  rcases Prog.exec_ends (fun s : TxState => (s.loopEnd, s.pushed)) (readyAnswer_allowed _ _)
    hsummary with ⟨g', s', hrun, hview⟩
  rcases Prod.mk.inj hview with ⟨hend, hpushed⟩
  refine ⟨g', s', hrun, hend, hpushed, fun h => ?_⟩
  have hended := h.ended
  rw [hend] at hended
  exact absurd hended (by decide)

/-- A block that arrives. -/
theorem write_sends_all_iff_one_block :
    ∃ g' s', Runs (transmitter fun addr => addr)
        (WriteFunction.multi.run 18 0x20001000#32 1#32 0#32 1000000#32 blankGlobals) TxState.start
        (0, g') s' ∧
      ((∀ status₁ g₁ s₁,
          Runs (transmitter fun addr => addr)
            (WriteFunction.multi.run 18 0x20001000#32 1#32 0#32 1000000#32 blankGlobals)
            TxState.start (status₁, g₁) s₁ →
          s₁.loopEnd = s'.loopEnd → s₁.tests = s'.tests →
          status₁ = 0 → Delivered (fun addr => addr) 0x20001000#32 128 s₁) ↔
        ErrorsCaught s'.loopEnd s'.tests) := by
  have hsummary : ((WriteFunction.multi.run 18 0x20001000#32 1#32 0#32 1000000#32
      blankGlobals).exec (readyAnswer (fun addr => addr) LoopAnswer.completing)
        TxState.start).map (fun x => x.1.1) = some 0 := by
    decide +kernel
  rcases Prog.exec_returns (readyAnswer_allowed _ _) hsummary with ⟨g', s', hrun⟩
  exact ⟨g', s', hrun, write_sends_all_iff (by decide) (by decide) fresh_start hrun⟩

end Driver
end SdioFat32
