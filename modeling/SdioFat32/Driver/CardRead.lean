import SdioFat32.Driver.TransferStart

/-!
# CardRead — what the read functions bring from the card

While a loop of a read polls, the storing card looks like the `receiver` whose words are those of
the card, so the loops need no second proof (`shown_attentive`).  An error flag that is up before
the loop ends it at once.
-/

namespace SdioFat32
namespace Driver

open Effects Cells Proc Relation

variable {byteAddressed : Bool} {g : SdGlobals} {s s' s₁ : CardState} {t : DataTransfer}
  {fuel k : Nat} {mem : Memory 32 (BitVec 8)} {card : Nat → BitVec 8} {words : Nat → BitVec 32}
  {inbox : Inbox} {address timeout : BitVec 32}

/-! ## The reception -/

/-- The progress of the card is that of the words it sends. -/
theorem Proceeds.arrives (h : Proceeds s s') (hreceiving : s.receiving = true)
    (htransfer : s.transfer = none ∨ s.transfer = some t) (hcard : s.card = card) :
    Arrives (cardWords card t.first) s.armed s'.armed := by
  have hsame : ∀ {t' : DataTransfer}, s.transfer = some t' → t' = t := by
    intro t' ht'
    rcases htransfer with hnone | hsome
    · rw [hnone] at ht'
      cases ht'
    · rw [hsome] at ht'
      cases ht'
      rfl
  have hnot : s.receiving ≠ false := by simp [hreceiving]
  subst hcard
  cases h with
  | word hword hroom =>
      cases hsame hword.transfer
      exact Arrives.word rfl hword.more hroom
  | lost hword hfull => exact Arrives.lost rfl hword.more hfull
  | consume hsending => exact absurd hsending.sending hnot
  | store hsending => exact absurd hsending.sending hnot
  | fault raised henabled hraised =>
      refine Arrives.flag raised fun hend => ?_
      rw [(fault_apart hraised).1] at hend
      cases hend
  | finish henabled hsome hcomplete =>
      refine Arrives.flag rxEndFlags fun _ => ⟨rfl, ?_⟩
      unfold CardState.Complete at hcomplete
      split at hcomplete
      · exact hcomplete.2
      · rw [hreceiving] at hcomplete
        cases hcomplete.1

/-- What a polling loop of a read leaves alone. -/
structure OffFifo (s s' : CardState) : Prop where
  card : s'.card = s.card
  flags : s'.flags = s.flags
  enabled : s'.enabled = s.enabled
  receiving : s'.receiving = s.receiving
  transfer : s'.transfer = s.transfer

/-- An event of a polling loop is one of the receiver's, as far as the progress before it is. -/
theorem step_polling {e : SdioEvent} {r : e.Response} (he : Polling e)
    (hstep : (steadyCard byteAddressed).step s e r s') :
    ∃ s₁, ReflTransGen Proceeds s s₁ ∧ OffFifo s₁ s' ∧
      (ReflTransGen (Arrives words) s.armed s₁.armed →
        (receiver words inbox).step s.armed e r s'.armed) := by
  rcases hstep with ⟨s₁, hdrift, heffect⟩
  have hoff : OffFifo s₁ s₁ := ⟨rfl, rfl, rfl, rfl, rfl⟩
  refine ⟨s₁, hdrift, ?_⟩
  cases e with
  | sta site =>
      obtain ⟨hshows, rfl⟩ := heffect
      exact ⟨hoff, fun harrives => ⟨s'.armed, harrives,
        ⟨hshows.static, hshows.full, hshows.half, hshows.available⟩, rfl⟩⟩
  | read reg =>
      cases reg with
      | fifo =>
          obtain ⟨rx, hpops, rfl⟩ := heffect
          unfold RxState.Pops at hpops
          rcases hqueue : s₁.queue with _ | ⟨head, rest⟩
          · rw [hqueue] at hpops
            dsimp only at hpops
            subst hpops
            refine ⟨hoff, fun harrives => ⟨s₁.armed, harrives, ?_⟩⟩
            simp [RxState.Pops, CardState.armed, hqueue]
          · rw [hqueue] at hpops
            dsimp only at hpops
            obtain ⟨rfl, rfl⟩ := hpops
            refine ⟨⟨rfl, rfl, rfl, rfl, rfl⟩, fun harrives => ⟨s₁.armed, harrives, ?_⟩⟩
            have hhead : s₁.armed.queue = r :: rest := hqueue
            simp only [RxState.Pops, hhead]
            exact ⟨rfl, rfl⟩
      | _ => exact he.elim
  | write reg v =>
      cases reg with
      | fifo =>
          have hpush : s' = s₁.push v := heffect
          subst hpush
          unfold CardState.push
          split
          · exact ⟨⟨rfl, rfl, rfl, rfl, rfl⟩, fun harrives => ⟨s₁.armed, harrives, rfl⟩⟩
          · exact ⟨hoff, fun harrives => ⟨s₁.armed, harrives, rfl⟩⟩
      | _ => exact he.elim
  | load addr =>
      obtain ⟨_, rfl⟩ := heffect
      exact ⟨hoff, fun harrives => ⟨s'.armed, harrives, rfl⟩⟩
  | store addr w =>
      have hstore : s' = { s₁ with mem := s₁.mem.store addr 4 (wordByte w) } := heffect
      subst hstore
      exact ⟨⟨rfl, rfl, rfl, rfl, rfl⟩, fun harrives => ⟨s₁.armed, harrives, rfl⟩⟩
  | _ => exact he.elim

theorem Polling.not_memcpy {e : SdioEvent} (he : Polling e) :
    ∀ dst src n, e ≠ .memcpy dst src n := by
  rintro dst src n rfl
  exact he.elim

/-- The path receives the words of `t`, and every flag that is up has stopped it. -/
structure Attentive (card : Nat → BitVec 8) (t : DataTransfer) (s : CardState) : Prop where
  noStartError : hasFlag s.flags sdioStaStbiterr = false
  card : s.card = card
  receiving : s.receiving = true
  transfer : s.transfer = none ∨ s.transfer = some t
  alert : s.enabled = true → hasFlag s.flags rxStaticFlags = false

theorem Attentive.proceeds (h : Attentive card t s) (hstep : Proceeds s s') :
    Attentive card t s' := by
  have hfixed := hstep.fixed
  have hnot : s.receiving ≠ false := by simp [h.receiving]
  refine ⟨hstep.noStartError h.noStartError, ?_, hfixed.receiving.trans h.receiving, ?_, ?_⟩
  · cases hstep with
    | store hsending => exact absurd hsending.sending hnot
    | _ => exact h.card
  · rw [hfixed.transfer]
    exact h.transfer
  · cases hstep with
    | lost => exact fun henabled => absurd henabled Bool.false_ne_true
    | fault => exact fun henabled => absurd henabled Bool.false_ne_true
    | finish => exact fun henabled => absurd henabled Bool.false_ne_true
    | _ => exact h.alert

theorem Attentive.offFifo (h : Attentive card t s) (hoff : OffFifo s s') : Attentive card t s' where
  noStartError := hoff.flags ▸ h.noStartError
  card := hoff.card.trans h.card
  receiving := hoff.receiving.trans h.receiving
  transfer := hoff.transfer ▸ h.transfer
  alert henabled := by
    rw [hoff.flags]
    exact h.alert (hoff.enabled ▸ henabled)

theorem Attentive.drift (h : Attentive card t s) (hdrift : ReflTransGen Proceeds s s') :
    Attentive card t s' ∧ ReflTransGen (Arrives (cardWords card t.first)) s.armed s'.armed := by
  induction hdrift with
  | refl => exact ⟨h, .refl⟩
  | tail _ hstep ih =>
      obtain ⟨h₁, harrives⟩ := ih
      exact ⟨h₁.proceeds hstep, harrives.tail (hstep.arrives h₁.receiving h₁.transfer h₁.card)⟩

theorem shown_attentive :
    Shown (receiver (cardWords card t.first) inbox) (steadyCard byteAddressed) CardState.armed
      Polling (Attentive card t) where
  req _ _ _ he _ := req_steadyCard he.not_memcpy
  step s e r s' hs he hstep := by
    obtain ⟨s₁, hdrift, hoff, hreceiver⟩ := step_polling he hstep
    obtain ⟨h₁, harrives⟩ := hs.drift hdrift
    exact ⟨hreceiver harrives, h₁.offFifo hoff⟩

/-- The path has stopped. -/
structure Stopped (card : Nat → BitVec 8) (s : CardState) : Prop where
  noStartError : hasFlag s.flags sdioStaStbiterr = false
  card : s.card = card
  disabled : s.enabled = false

theorem shown_stopped :
    Shown (receiver words inbox) (steadyCard byteAddressed) CardState.armed Polling
      (Stopped card) where
  req _ _ _ he _ := req_steadyCard he.not_memcpy
  step s e r s' hs he hstep := by
    obtain ⟨s₁, hdrift, hoff, hreceiver⟩ := step_polling he hstep
    cases eq_of_stopped hs.disabled hdrift
    exact ⟨hreceiver .refl, hoff.flags ▸ hs.noStartError, hoff.card.trans hs.card,
      hoff.enabled.trans hs.disabled⟩

/-! ## Ready for the loop -/

/-- The path is armed for the buffer, and nothing was read from the FIFO. -/
def Awaiting (mem : Memory 32 (BitVec 8)) (card : Nat → BitVec 8) (t : DataTransfer)
    (length : BitVec 32) (inbox : Inbox) (s : CardState) : Prop :=
  Underway mem card t length s ∧
    Lined (cardWords card t.first) inbox False 0
      (Stored (cardWords card t.first) inbox 0) s.armed

variable {length : BitVec 32}

theorem static_of_data {v : BitVec 32} (hv : v &&& pathFlags = 0#32) :
    v &&& rxStaticFlags = 0#32 := by
  have hpart : rxStaticFlags = pathFlags &&& rxStaticFlags := by decide
  rw [hpart, ← BitVec.and_assoc, hv]
  simp

theorem commandable_expecting (ht : t.reading = true) :
    Commandable t (Awaiting mem card t length inbox) where
  proceeds _ _ hstep h :=
    ⟨h.1.proceeds hstep, h.2.arrives
      (hstep.arrives (h.1.receiving.trans ht) h.1.transfer h.1.framed.2)⟩
  clears s v hv h := ⟨commandable_armed.clears s v hv h.1, h.2.clears (static_of_data hv)⟩
  arg s v h := ⟨commandable_armed.arg s v h.1, h.2⟩
  ends s h := ⟨commandable_armed.ends s h.1, h.2⟩
  takes s h := ⟨commandable_armed.takes s h.1, h.2⟩

/-- A path that was just armed. -/
theorem Underway.expecting (h : Underway mem card t length s) (hbuffer : inbox.before = mem)
    (hlength : 4 * (length.toNat % 2 ^ 25 / 4) = inbox.length) (harrived : s.arrived = 0)
    (hqueue : s.queue = []) : Awaiting mem card t length inbox s := by
  have hdlen := h.dlen
  have hmem : s.mem = mem := h.framed.1
  refine ⟨h, ⟨?_, ?_, ?_, ?_, False.elim, ?_, ?_⟩⟩
  · subst hdlen
    exact hlength
  · simp [CardState.armed, hqueue]
  · simp [CardState.armed, harrived]
  · intro hend
    exact absurd (h.ends.symm.trans hend) Bool.false_ne_true
  · intro _
    refine ⟨?_, fun i hi => absurd hi (Nat.not_lt_zero i)⟩
    simp [CardState.armed, hqueue, harrived]
  · intro x _
    rw [hbuffer]
    exact congrFun hmem x

/-! ## The loops -/

/-- Memory outside the buffer and the card are as they were. -/
def Fetching (inbox : Inbox) (card : Nat → BitVec 8) : Frame := fun mem' card' =>
  (∀ x, ¬InRegion inbox.buffer inbox.length x → mem' x = inbox.before x) ∧ card' = card

/-- All words have arrived, `k` of them in the buffer. -/
abbrev Fetched (card : Nat → BitVec 8) (t : DataTransfer) (inbox : Inbox) (k : Nat) :
    RxState → Prop :=
  Lined (cardWords card t.first) inbox True k (Stored (cardWords card t.first) inbox k)

theorem Concluded.of_false {F : Frame} {G : RxState → Prop} {mask : BitVec 32}
    (h : Concluded F (fun _ => False) mask s) : Concluded F G mask s where
  halted := h.halted
  framed := h.framed
  decided := by
    rcases h.decided with ⟨_, hnever⟩ | hflag
    · exact hnever.elim
    · exact Or.inr hflag

/-- With one of its flags up, a loop ends at once. -/
theorem wp_loopEnds {β γ : Type} {body : β → SdProc (β ⊕ γ)} {flags mask : BitVec 32} {out : β → γ}
    {next : β → SdProc (β ⊕ γ)} {F : Frame}
    (hbody : ∀ b, body b = readSta (.dataLoop flags) >>= fun sta =>
      if hasFlag sta flags then pure (.inr (out b)) else next b)
    (hmask : pathFlags &&& mask = mask) (hpart : flags &&& mask = mask) {b : β}
    (h : Concluded F (fun _ => False) mask s) :
    (iter body fuel b).wp (steadyCard byteAddressed) (fun _ => True)
      (fun c _ s' => c = out b ∧ Concluded F (fun _ => False) mask s') g s := by
  have hsteady := (indifferent_concluded (F := F) (G := fun _ => False) hmask).toSteadfast
  rcases fuel with _ | fuel
  · trivial
  · unfold iter
    rw [hbody]
    refine wp_seq (P := fun r _ s' => r = .inr (out b) ∧ Concluded F (fun _ => False) mask s')
      (wp_seq (wp_readSta_steady hsteady h) ?_) ?_
    · rintro sta g₁ s₁ ⟨rfl, h₁, hshows⟩
      have hup : hasFlag s₁.flags mask = true := by
        rcases h₁.decided with ⟨_, hnever⟩ | hflag
        · exact hnever.elim
        · exact hflag
      have hend : hasFlag sta flags = true :=
        hasFlag_of_part hpart ((hshows.hasDataFlag hmask).trans hup)
      rw [if_pos hend]
      exact ⟨rfl, h₁⟩
    · rintro r g₁ s₁ ⟨rfl, h₁⟩
      exact ⟨rfl, h₁⟩

/-- A loop of a read that has ended has seen one of its flags. -/
theorem wp_trivially {α : Type} {p : SdProc α} (hp : p.Emits Polling True) :
    p.wp (steadyCard byteAddressed) (fun _ => True) (fun _ _ _ => True) g s :=
  wp_frame (I := fun _ => True) hp
    (fun _ _ _ he => ⟨req_steadyCard he.not_memcpy, fun _ _ _ => trivial⟩)
    (fun _ _ _ => trivial) trivial

theorem steadfast_true : Steadfast fun _ => True :=
  ⟨fun _ _ _ _ => trivial, fun _ _ _ _ => trivial, fun _ _ _ => trivial⟩

theorem wp_rxSingle_flagged {addr : BitVec 32} :
    (iter rxSingleStep fuel addr).wp (steadyCard byteAddressed) (fun _ => True)
      (fun _ _ s' => hasFlag s'.flags rxSingleLoopFlags = true) g s := by
  refine wp_iter (fun _ _ _ => True) ?_ (fun _ _ _ _ => trivial) fuel trivial
  intro addr g₁ s₁ _
  unfold rxSingleStep
  refine wp_seq (wp_readSta_steady steadfast_true trivial) ?_
  rintro sta g₂ s₂ ⟨rfl, _, hshows⟩
  split
  next hended => exact (hshows.hasDataFlag (by decide)).symm.trans hended
  next =>
    refine wp_seq (wp_readSta_steady steadfast_true trivial) ?_
    rintro sta' g₃ s₃ _
    split
    · refine wp_seq (wp_trivially (emits_perform trivial)) ?_
      intro w g₄ s₄ _
      exact wp_seq (wp_trivially (emits_perform trivial)) fun _ _ _ _ => trivial
    · trivial

theorem wp_rxMulti_flagged {st : BitVec 32 × BitVec 32} :
    (iter rxMultiStep fuel st).wp (steadyCard byteAddressed) (fun _ => True)
      (fun _ _ s' => hasFlag s'.flags rxMultiLoopFlags = true) g s := by
  have hburst : ∀ (m : Nat) (st : BitVec 32 × BitVec 32), (rxBurst m st).Emits Polling True := by
    intro m
    induction m with
    | zero =>
        intro st
        exact emits_pure _
    | succ m ih =>
        rintro ⟨tempBuff, dataRemaining⟩
        exact (emits_perform trivial).bind fun w => (emits_perform trivial).bind fun _ => ih _
  refine wp_iter (fun _ _ _ => True) ?_ (fun _ _ _ _ => trivial) fuel trivial
  intro st g₁ s₁ _
  unfold rxMultiStep
  refine wp_seq (wp_readSta_steady steadfast_true trivial) ?_
  rintro sta g₂ s₂ ⟨rfl, _, hshows⟩
  split
  next hended => exact (hshows.hasDataFlag (by decide)).symm.trans hended
  next =>
    refine wp_seq (wp_readSta_steady steadfast_true trivial) ?_
    rintro sta' g₃ s₃ _
    split
    · exact wp_seq (wp_trivially (hburst 8 st)) fun _ _ _ _ => trivial
    · trivial

/-- What the receiver's result and a flag that is up say of the card's state. -/
theorem concluded_of_decided {flags : BitVec 32} (hattentive : Attentive card t s)
    (hdecided : Decided (cardWords card t.first) inbox k rxErrorFlags s.armed)
    (hflags : rxStaticFlags &&& flags = flags) (hup : hasFlag s.flags flags = true) :
    Concluded (Fetching inbox card) (Fetched card t inbox k) rxErrorFlags s := by
  have hdisabled : s.enabled = false := by
    cases henabled : s.enabled with
    | false => rfl
    | true =>
        have halert := hattentive.alert henabled
        rw [hasFlag_of_part hflags hup] at halert
        cases halert
  refine ⟨⟨hattentive.noStartError, ?_⟩, ⟨?_, hattentive.card⟩, ?_⟩
  · intro henabled
    exact absurd (hdisabled.symm.trans henabled) Bool.false_ne_true
  · rcases hdecided with hlined | ⟨_, hspared⟩
    · exact hlined.spared
    · exact hspared
  · rcases hdecided with hlined | ⟨hflag, _⟩
    · refine Or.inl ⟨hdisabled, hlined.total, hlined.queued, hlined.arrived, ?_, hlined.complete,
        ?_, hlined.spared⟩
      · intro _
        exact hlined.complete trivial
      · intro _
        exact hlined.intact (Or.inl trivial)
    · exact Or.inr hflag

/-- Before the loop either no flag is up, or a flag of an error that ends it at once. -/
theorem Awaiting.attentive (h : Awaiting mem card t length inbox s) (ht : t.reading = true)
    (hclean : hasFlag s.flags rxErrorFlags = false) : Attentive card t s where
  noStartError := h.1.noStartError
  card := h.1.framed.2
  receiving := h.1.receiving.trans ht
  transfer := h.1.transfer
  alert _ := by
    have hsplit : hasFlag s.flags (rxErrorFlags ||| rxEndFlags) = false := by
      rw [hasFlag_or, hclean, h.1.ends]
      rfl
    exact hsplit

theorem Awaiting.doomed (h : Awaiting mem card t length inbox s)
    (hflag : hasFlag s.flags rxErrorFlags = true) :
    Concluded (Fetching inbox card) (fun _ => False) rxErrorFlags s :=
  ⟨h.1.toHalted, ⟨h.2.spared, h.1.framed.2⟩, Or.inr hflag⟩

theorem wp_rxSingleLoop_steady (ht : t.reading = true) (hsize : inbox.length ≤ 2 ^ 32)
    (h : Awaiting mem card t length inbox s) :
    (iter rxSingleStep fuel inbox.buffer).wp (steadyCard byteAddressed) (fun _ => True)
      (fun addr _ s' => ∃ k, addr = nth inbox.buffer (4 * k) ∧
        Concluded (Fetching inbox card) (Fetched card t inbox k) rxErrorFlags s') g s := by
  cases hflag : hasFlag s.flags rxErrorFlags with
  | true =>
      refine wp_mono (wp_loopEnds (fun _ => rfl) (by decide) (by decide) (h.doomed hflag)) ?_
      rintro addr g' s' ⟨rfl, h'⟩
      exact ⟨0, (nth_zero _).symm, h'.of_false⟩
  | false =>
      have hlift : (iter rxSingleStep fuel inbox.buffer).wp (steadyCard byteAddressed)
          (fun _ => True) _ g s :=
        wp_view shown_attentive (fun _ _ _ => trivial) emits_rxSingle (h.attentive ht hflag)
          (wp_rxSingleLoop hsize h.2)
      refine wp_mono (wp_and hlift wp_rxSingle_flagged) ?_
      rintro addr g' s' ⟨⟨⟨k, haddr, hdecided⟩, hattentive⟩, hup⟩
      exact ⟨k, haddr, concluded_of_decided hattentive hdecided (by decide) hup⟩

theorem wp_rxMultiLoop_steady {bytes : BitVec 32} (ht : t.reading = true)
    (hbytes : bytes.toNat = inbox.length) (h : Awaiting mem card t length inbox s) :
    (iter rxMultiStep fuel (inbox.buffer, bytes)).wp (steadyCard byteAddressed) (fun _ => True)
      (fun st _ s' => ∃ k, st = (nth inbox.buffer (4 * k), remaining inbox k) ∧
        Concluded (Fetching inbox card) (Fetched card t inbox k) rxErrorFlags s') g s := by
  cases hflag : hasFlag s.flags rxErrorFlags with
  | true =>
      refine wp_mono (wp_loopEnds (fun _ => rfl) (by decide) (by decide) (h.doomed hflag)) ?_
      rintro st g' s' ⟨rfl, h'⟩
      refine ⟨0, ?_, h'.of_false⟩
      rw [remaining, ← hbytes, Nat.mul_zero, nth_zero, Nat.sub_zero, BitVec.ofNat_toNat,
        BitVec.setWidth_eq]
  | false =>
      have hlift : (iter rxMultiStep fuel (inbox.buffer, bytes)).wp (steadyCard byteAddressed)
          (fun _ => True) _ g s :=
        wp_view shown_attentive (fun _ _ _ => trivial) emits_rxMulti (h.attentive ht hflag)
          (wp_rxMultiLoop hbytes h.2)
      refine wp_mono (wp_and hlift wp_rxMulti_flagged) ?_
      rintro st g' s' ⟨⟨⟨k, hst, hdecided⟩, hattentive⟩, hup⟩
      exact ⟨k, hst, concluded_of_decided hattentive hdecided (by decide) hup⟩

/-! ## Emptying the FIFO -/

/-- The buffer is filled with the words of the card. -/
abbrev Brought (card : Nat → BitVec 8) (t : DataTransfer) (inbox : Inbox) : RxState → Prop :=
  Delivery (cardWords card t.first) inbox

theorem Passing.stopped_armed
    (h : Passing (Fetching inbox card) (Fetched card t inbox k) s) :
    Stopped card s ∧ Fetched card t inbox k s.armed := by
  have hgood := h.good
  refine ⟨⟨h.halted.noStartError, h.framed.2, h.stopped⟩, hgood.total, hgood.queued,
    hgood.arrived, ?_, hgood.complete, ?_, hgood.spared⟩
  · intro _
    exact hgood.complete trivial
  · intro _
    exact hgood.intact (Or.inl trivial)

/-- What the receiver's loop leaves, with the path stopped. -/
theorem Stopped.passing (h : Stopped card s) (hbrought : Brought card t inbox s.armed) :
    Passing (Fetching inbox card) (Brought card t inbox) s where
  halted := ⟨h.noStartError, fun henabled =>
    absurd (h.disabled.symm.trans henabled) Bool.false_ne_true⟩
  framed := ⟨hbrought.2, h.card⟩
  stopped := h.disabled
  good := hbrought

theorem wp_rxSingleDrain_steady (hsize : inbox.length ≤ 2 ^ 32)
    (h : Passing (Fetching inbox card) (Fetched card t inbox k) s) :
    (iter rxSingleDrainStep fuel (nth inbox.buffer (4 * k))).wp (steadyCard byteAddressed)
      (fun _ => True) (fun _ _ s' => Passing (Fetching inbox card) (Brought card t inbox) s')
      g s := by
  obtain ⟨hstopped, hfetched⟩ := h.stopped_armed
  have hlift : (iter rxSingleDrainStep fuel (nth inbox.buffer (4 * k))).wp
      (steadyCard byteAddressed) (fun _ => True) _ g s :=
    wp_view shown_stopped (fun _ _ _ => trivial) emits_rxSingleDrain hstopped
      (wp_rxSingleDrain hsize hfetched)
  refine wp_mono hlift ?_
  rintro _ g' s' ⟨hbrought, hstopped'⟩
  exact hstopped'.passing hbrought

theorem wp_rxMultiDrain_steady (hsize : inbox.length < 2 ^ 32)
    (h : Passing (Fetching inbox card) (Fetched card t inbox k) s) :
    (iter rxMultiDrainStep fuel (nth inbox.buffer (4 * k), remaining inbox k)).wp
      (steadyCard byteAddressed) (fun _ => True)
      (fun _ _ s' => Passing (Fetching inbox card) (Brought card t inbox) s') g s := by
  obtain ⟨hstopped, hfetched⟩ := h.stopped_armed
  have hlift : (iter rxMultiDrainStep fuel (nth inbox.buffer (4 * k), remaining inbox k)).wp
      (steadyCard byteAddressed) (fun _ => True) _ g s :=
    wp_view shown_stopped (fun _ _ _ => trivial) emits_rxMultiDrain hstopped
      (wp_rxMultiDrain hsize hfetched)
  refine wp_mono hlift ?_
  rintro _ g' s' ⟨hbrought, hstopped'⟩
  exact hstopped'.passing hbrought

/-! ## The read functions -/

theorem rxExitTests_data : ∀ t ∈ rxExitTests, pathFlags &&& t.1 = t.1 := by decide

theorem wp_rxExitTests_steady {F : Frame} {G : RxState → Prop}
    {D : CardState → Prop} (h : Concluded F G rxErrorFlags s) :
    (exitTests rxExitTests).wp (steadyCard byteAddressed) D
      (fun status _ s' => (status = 0 ∧ Passing F G s') ∨ (status ≠ 0 ∧ RestsWith F s')) g s := by
  rw [← testFlags_rxExitTests] at h
  exact wp_exitTests_steady rxExitTests_data rxExitTests_errors h

/-- An outcome before the loop: nothing was written. -/
theorem RestsWith.fetching (h : RestsWith (AsBefore mem card) s) (hbuffer : inbox.before = mem) :
    RestsWith (Fetching inbox card) s := by
  refine ⟨h.toRests, ?_, h.framed.2⟩
  intro x _
  rw [hbuffer, h.framed.1]

/-- The result of a read. -/
abbrev ReadEnds (inbox : Inbox) (card : Nat → BitVec 8) (first : Nat) (status : Int)
    (s : CardState) : Prop :=
  ClosedWith (Fetching inbox card) (Delivery (cardWords card first) inbox) status s

theorem wp_readSingleBlockSd_steady (hlength : inbox.length = 512) (hbefore : inbox.before = s.mem)
    (h : Rests s) :
    (readSingleBlockSd fuel inbox.buffer 512#32 address timeout).wp (steadyCard byteAddressed)
      (fun _ => True) (fun status _ s' => ReadEnds inbox s.card
        (firstByte byteAddressed (cardAddress g address)) status s') g s := by
  have hsmall : inbox.length ≤ 2 ^ 32 := by omega
  unfold readSingleBlockSd
  rw [if_neg (by decide)]
  let t : DataTransfer := ⟨true, true, firstByte byteAddressed (cardAddress g address)⟩
  refine wp_seq (wp_disable_steady (t := t) h) ?_
  rintro _ g₁ s₁ ⟨rfl, h₁⟩
  rw [wp_bind, wp_globals]
  -- The command is sent before the path is armed.
  refine wp_seq (wp_sendDataCommand_steady commandable_parked rfl h₁) ?_
  intro _ g₂ s₂ h₂
  refine wp_seq (commandable_parked.survives.wp_cmdResp1Error h₂) ?_
  rintro ⟨status, cs⟩ g₃ s₃ h₃
  dsimp only
  split
  next hnegative => exact ClosedWith.of_ne (h₃.toRestsWith.fetching hbefore) (by omega)
  next hanswered =>
    refine wp_seq (wp_sdioConfigData_steady (by decide) rfl (by decide) h₃) ?_
    rintro _ g₄ s₄ ⟨h₄, _, _, harrived, hqueue⟩
    have hexpecting := h₄.expecting hbefore (by rw [hlength]; rfl) harrived hqueue
    refine wp_seq (wp_rxSingleLoop_steady rfl hsmall hexpecting) ?_
    rintro addr g₅ s₅ ⟨k, rfl, h₅⟩
    refine wp_seq (wp_rxExitTests_steady h₅) ?_
    rintro status' g₆ s₆ (⟨rfl, h₆⟩ | ⟨hfailed, h₆⟩)
    · rw [if_neg (by decide)]
      refine wp_seq (wp_rxSingleDrain_steady hsmall h₆) ?_
      intro _ g₇ s₇ h₇
      refine wp_seq (wp_clearPassing h₇) ?_
      intro _ g₈ s₈ h₈
      exact wp_waitCardReady_ended h₈
    · rw [if_pos hfailed]
      exact ClosedWith.of_ne h₆ hfailed

theorem wp_readMultiBlockSd_steady {countBlocks : BitVec 32} (hcount : 2 ≤ countBlocks.toNat)
    (hle : countBlocks.toNat ≤ 65535) (hlength : inbox.length = 512 * countBlocks.toNat)
    (hbefore : inbox.before = s.mem) (h : Rests s) :
    (readMultiBlockSd fuel inbox.buffer countBlocks address timeout).wp (steadyCard byteAddressed)
      (fun _ => True) (fun status _ s' => ReadEnds inbox s.card
        (firstByte byteAddressed (cardAddress g address)) status s') g s := by
  have hbytes : (countBlocks * 512#32).toNat = inbox.length := by
    rw [BitVec.toNat_mul, BitVec.toNat_ofNat]
    omega
  unfold readMultiBlockSd
  dsimp only
  rw [if_neg (not_le_one hcount), wp_bind, wp_globals]
  let t : DataTransfer := ⟨true, false, firstByte byteAddressed (cardAddress g address)⟩
  refine wp_seq (wp_disable_steady (t := t) h) ?_
  rintro _ g₁ s₁ ⟨rfl, h₁⟩
  refine wp_seq (wp_sdioConfigData_steady (by decide) rfl (by rw [hbytes, fifoDepth]; omega)
    h₁) ?_
  rintro _ g₂ s₂ ⟨h₂, _, _, harrived, hqueue⟩
  have hexpecting := h₂.expecting hbefore (by rw [hbytes]; omega) harrived hqueue
  -- From the command on words may arrive at any time.
  refine wp_seq (wp_sendDataCommand_steady (commandable_expecting rfl) rfl hexpecting) ?_
  intro _ g₃ s₃ h₃
  refine wp_seq ((commandable_expecting rfl).survives.wp_cmdResp1Error h₃) ?_
  rintro ⟨status, cs⟩ g₄ s₄ h₄
  dsimp only
  split
  next hfailed =>
    have hne : (-1 : Int) ≠ 0 := by decide
    exact ClosedWith.of_ne (h₄.1.toRestsWith.fetching hbefore) hne
  next =>
    refine wp_seq (wp_rxMultiLoop_steady rfl hbytes h₄) ?_
    rintro st g₅ s₅ ⟨k, rfl, h₅⟩
    refine wp_seq (wp_stopTransmission_steady (by decide) h₅) ?_
    rintro stopped g₆ s₆ (⟨rfl, h₆⟩ | ⟨hfailed, h₆⟩)
    · rw [if_neg (by decide)]
      refine wp_seq (wp_rxExitTests_steady h₆) ?_
      rintro passed g₇ s₇ (⟨rfl, h₇⟩ | ⟨hfailed, h₇⟩)
      · rw [if_neg (by decide)]
        refine wp_seq (wp_rxMultiDrain_steady (by omega) h₇) ?_
        intro _ g₈ s₈ h₈
        refine wp_seq (wp_clearPassing h₈) ?_
        intro _ g₉ s₉ h₉
        refine wp_seq (indifferent_ended.survives.remarks (emits_perform trivial) h₉) ?_
        intro _ g₁₀ s₁₀ h₁₀
        exact wp_waitCardReady_ended h₁₀
      · rw [if_pos hfailed]
        exact ClosedWith.of_ne h₇ hfailed
    · rw [if_pos hfailed]
      exact ClosedWith.of_ne h₆ hfailed

end Driver
end SdioFat32
