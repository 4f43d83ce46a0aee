import SdioFat32.Driver.Erase
import SdioFat32.Driver.CsdFields

/-!
# EraseClass — the command class that `erase_sd` asks for

`CARD_CLASS_5` is the number 5 of the class, and it is used as a mask: the test passes if class 0
or class 2 is among the classes of the card.  Class 5 is bit 89 of the register, the classes that
are tested are its bits 84 and 86.
-/

namespace SdioFat32
namespace Driver

open Effects Proc Cells

/-! ## The test -/

/-- The class bits of the register: `CCC` starts at bit 84. -/
def hasClass (r : BitVec 128) (number : Nat) : Bool := r.getLsbD (84 + number)

theorem getLsbD_ccc (d : Vector (BitVec 32) 4) (csd : CsdType) {i : Nat} (hi : i < 8) :
    (readCsdData d csd).2.ccc.getLsbD i = hasClass (csdRegister d) i := by
  have hccc : (readCsdData d csd).2.ccc = (csdField (d.get 1) 0xfff00000#32 20).setWidth 16 := by
    unfold readCsdData
    dsimp only
    split
    · rfl
    · split <;> rfl
  have hmask : (0xfff00000#32) = (BitVec.allOnes 12).setWidth 32 <<< 20 := by decide
  have hword : ((d.get 1).extractLsb' 20 12).getLsbD i = hasClass (csdRegister d) i := by
    have hextract : (csdRegister d).extractLsb' 84 12 = (d.get 1).extractLsb' 20 12 :=
      extract_word d 1 (by decide) (by decide)
    rw [← hextract, BitVec.getLsbD_extractLsb', hasClass,
      decide_eq_true (show i < 12 by omega), Bool.true_and]
  rw [hccc, csdField_eq hmask, BitVec.getLsbD_setWidth, BitVec.getLsbD_setWidth, hword,
    decide_eq_true (show i < 16 by omega), decide_eq_true hi, Bool.true_and, Bool.true_and]

/-- The number 5 as a mask. -/
theorem and_cardClass5 (ccc : BitVec 16) :
    ccc &&& cardClass5 = 0#16 ↔ ccc.getLsbD 0 = false ∧ ccc.getLsbD 2 = false := by
  constructor
  · intro h
    have hbit : ∀ i, (ccc.getLsbD i && cardClass5.getLsbD i) = false := by
      intro i
      rw [← BitVec.getLsbD_and, h, BitVec.getLsbD_zero]
    have hset : cardClass5.getLsbD 0 = true ∧ cardClass5.getLsbD 2 = true := by decide
    have h0 := hbit 0
    have h2 := hbit 2
    rw [hset.1, Bool.and_true] at h0
    rw [hset.2, Bool.and_true] at h2
    exact ⟨h0, h2⟩
  · rintro ⟨h0, h2⟩
    have hclear : ∀ i < 16, i ≠ 0 → i ≠ 2 → cardClass5.getLsbD i = false := by decide
    apply BitVec.eq_of_getLsbD_eq
    intro i hi
    rw [BitVec.getLsbD_and, BitVec.getLsbD_zero]
    rcases eq_or_ne i 0 with rfl | hne0
    · rw [h0, Bool.false_and]
    · rcases eq_or_ne i 2 with rfl | hne2
      · rw [h2, Bool.false_and]
      · rw [hclear i hi hne0 hne2, Bool.and_false]

/-- The test of `erase_sd` on the register. -/
theorem erasableCard_iff {g : SdGlobals} (hstructure : bits (csdRegister g.csdData) 127 126 ≤ 1) :
    ErasableCard g ↔
      (hasClass (csdRegister g.csdData) 0 || hasClass (csdRegister g.csdData) 2) = true := by
  unfold ErasableCard
  rw [(readCsdData_known _ hstructure).1, ne_eq, and_cardClass5, getLsbD_ccc _ _ (by decide),
    getLsbD_ccc _ _ (by decide), Bool.or_eq_true]
  constructor
  · rintro ⟨_, hnot⟩
    by_contra hnone
    rw [not_or, Bool.not_eq_true, Bool.not_eq_true] at hnone
    exact hnot hnone
  · rintro hone
    refine ⟨rfl, ?_⟩
    rintro ⟨h0, h2⟩
    rw [h0, h2] at hone
    exact hone.elim Bool.false_ne_true Bool.false_ne_true

/-! ## `erase_sd` on a healthy card -/

variable {delay fuel : Nat} {D : TalkState → Prop} {g : SdGlobals} {s : TalkState}
  {addressStart addressEnd : BitVec 32}

/-- Without the class bits only the status of the card is asked for. -/
theorem wp_eraseSd_refused (hfuel : delay < fuel)
    (hread : (readCsdData g.csdData CsdType.zero).1 = 0) (hclass : ¬ErasableCard g) :
    (eraseSd fuel addressStart addressEnd).wp (answeringCard (healthyCard delay)) D
      (fun status _ s' => status = 1 ∧ s'.sent = statusQuery g :: s.sent) g s := by
  have hccc : (readCsdData g.csdData CsdType.zero).2.ccc &&& cardClass5 = 0#16 := by
    by_contra hne
    exact hclass ⟨hread, hne⟩
  unfold eraseSd
  refine wp_seq (wp_sdPrepareForErase_healthy hfuel) ?_
  rintro status g₁ s₁ ⟨rfl, hsent, _, hcard⟩
  rw [if_neg (by decide)]
  refine wp_bind.2 (wp_offTalkEvent trivial fun _ => ?_)
  rw [wp_bind, wp_globals, hcard.csdData]
  simp only [hread, hccc, ne_eq, not_true_eq_false, if_false, if_true]
  exact ⟨rfl, hsent⟩

/-- A command with this word is among those that were sent. -/
def WasSent (word : BitVec 32) (sent : List SentCommand) : Prop := ∃ c ∈ sent, c.word = word

/-- The three commands of an erase were sent. -/
def EraseSent (sent : List SentCommand) : Prop :=
  WasSent (commandWord cmdEraseWrBlkStart sdioCmdShortResp) sent ∧
    WasSent (commandWord cmdEraseWrBlkEnd sdioCmdShortResp) sent ∧
      WasSent (commandWord cmdErase sdioCmdShortResp) sent

/-- The commands are sent exactly to a card of class 5, and to another one not even `CMD32`. -/
def GatedByClass5 (g : SdGlobals) (status : Int) (sent : List SentCommand) : Prop :=
  (EraseSent sent ↔ hasClass (csdRegister g.csdData) 5 = true) ∧
    (hasClass (csdRegister g.csdData) 5 = false →
      status ≠ 0 ∧ ¬WasSent (commandWord cmdEraseWrBlkStart sdioCmdShortResp) sent)

theorem eraseSent_eraseCommands (g : SdGlobals) (first last : BitVec 32) :
    EraseSent (eraseCommands g first last) := by
  refine ⟨⟨⟨commandWord cmdEraseWrBlkStart sdioCmdShortResp, cardAddress g first⟩, ?_, rfl⟩,
    ⟨⟨commandWord cmdEraseWrBlkEnd sdioCmdShortResp, cardAddress g last⟩, ?_, rfl⟩,
    ⟨⟨commandWord cmdErase sdioCmdShortResp, 0#32⟩, ?_, rfl⟩⟩
  all_goals simp [eraseCommands]

theorem not_wasSent_statusQuery (g : SdGlobals) :
    ¬WasSent (commandWord cmdEraseWrBlkStart sdioCmdShortResp) [statusQuery g] := by
  rintro ⟨c, hc, hword⟩
  have hquery : c = statusQuery g := List.mem_singleton.1 hc
  subst hquery
  have hne : commandWord cmdSendStatus sdioCmdShortResp ≠
      commandWord cmdEraseWrBlkStart sdioCmdShortResp := by decide
  exact hne hword

/-- The status and the commands of a run. -/
structure EraseRun (g : SdGlobals) (a b : BitVec 32) (status : Int) (sent : List SentCommand) :
    Prop where
  erased : ErasableCard g →
    status = 0 ∧ sent = eraseCommands g (orderAddresses a b).1 (orderAddresses a b).2
  refused : ¬ErasableCard g → status = 1 ∧ sent = [statusQuery g]

theorem wp_eraseSd_run (hfuel : delay < fuel)
    (hread : (readCsdData g.csdData CsdType.zero).1 = 0) :
    (eraseSd fuel addressStart addressEnd).wp (answeringCard (healthyCard delay)) D
      (fun status _ s' => EraseRun g addressStart addressEnd status s'.sent) g .start := by
  by_cases hclass : ErasableCard g
  · refine wp_mono (wp_eraseSd_healthy hfuel hclass) ?_
    rintro status g' s' ⟨rfl, hsent⟩
    exact ⟨fun _ => ⟨rfl, hsent.trans (List.append_nil _)⟩, fun hnot => absurd hclass hnot⟩
  · refine wp_mono (wp_eraseSd_refused hfuel hread hclass) ?_
    rintro status g' s' ⟨rfl, hsent⟩
    exact ⟨fun hyes => absurd hyes hclass, fun _ => ⟨rfl, hsent⟩⟩

/-- The gate is the right one exactly if the test on the card agrees with its class 5. -/
theorem EraseRun.gated_iff {a b : BitVec 32} {status : Int} {sent : List SentCommand}
    (h : EraseRun g a b status sent) :
    GatedByClass5 g status sent ↔
      (ErasableCard g ↔ hasClass (csdRegister g.csdData) 5 = true) := by
  by_cases hclass : ErasableCard g
  · rcases h.erased hclass with ⟨rfl, rfl⟩
    have hsent := eraseSent_eraseCommands g (orderAddresses a b).1 (orderAddresses a b).2
    constructor
    · intro hgated
      exact ⟨fun _ => hgated.1.1 hsent, fun _ => hclass⟩
    · intro hagree
      have hfive := hagree.1 hclass
      refine ⟨⟨fun _ => hfive, fun _ => hsent⟩, fun hnot => ?_⟩
      exact absurd (hfive.symm.trans hnot) Bool.true_eq_false.mp
  · rcases h.refused hclass with ⟨rfl, rfl⟩
    have hnone := not_wasSent_statusQuery g
    constructor
    · intro hgated
      exact ⟨fun hyes => absurd hyes hclass, fun hfive => absurd (hgated.1.2 hfive).1 hnone⟩
    · intro hagree
      refine ⟨⟨fun hsent => absurd hsent.1 hnone, fun hfive => absurd (hagree.2 hfive) hclass⟩, ?_⟩
      exact fun _ => ⟨by decide, hnone⟩

/-- A card of the classes 0, 2, 4 and 8, which has no erase commands. -/
def readOnlyCard : SdGlobals :=
  { blankGlobals with csdData := #v[0x40000000#32, 0x11500000#32, 0#32, 0#32] }

/-- It is sent the commands all the same. -/
theorem erase_sent_without_class5 :
    ∃ status g' s', Runs (answeringCard (healthyCard 0)) (eraseSd 1 0#32 7#32 readOnlyCard) .start
      (status, g') s' ∧ hasClass (csdRegister readOnlyCard.csdData) 5 = false ∧
      EraseSent s'.sent ∧ ¬GatedByClass5 readOnlyCard status s'.sent := by
  have hclass : ErasableCard readOnlyCard := by
    unfold ErasableCard
    decide
  have hfive : hasClass (csdRegister readOnlyCard.csdData) 5 = false := by decide
  have hwp : (eraseSd 1 0#32 7#32).wp (answeringCard (healthyCard 0)) (fun _ => False)
      (fun status _ s' => EraseRun readOnlyCard 0#32 7#32 status s'.sent) readOnlyCard .start :=
    wp_eraseSd_run Nat.zero_lt_one hclass.1
  rcases exists_run hwp healthyCard_live with ⟨status, g', s', hrun, hends⟩
  have herased : EraseSent s'.sent := by
    rw [(hends.erased hclass).2]
    exact eraseSent_eraseCommands _ _ _
  refine ⟨status, g', s', hrun, hfive, herased, ?_⟩
  intro hgated
  exact Bool.false_ne_true (hfive.symm.trans (hgated.1.1 herased))

/-- Every run on the card is gated by class 5 exactly if the register says the same of class 5 as
of the classes 0 and 2 together. -/
theorem erase_gated_iff (delay fuel : Nat) (a b : BitVec 32) (g : SdGlobals)
    (hfuel : delay < fuel) (hstructure : bits (csdRegister g.csdData) 127 126 ≤ 1) :
    (∀ status g' s', Runs (answeringCard (healthyCard delay)) (eraseSd fuel a b g) .start
      (status, g') s' → GatedByClass5 g status s'.sent) ↔
    (hasClass (csdRegister g.csdData) 0 || hasClass (csdRegister g.csdData) 2) =
      hasClass (csdRegister g.csdData) 5 := by
  have hread : (readCsdData g.csdData CsdType.zero).1 = 0 := (readCsdData_known _ hstructure).1
  rw [Bool.eq_iff_iff, ← erasableCard_iff hstructure]
  constructor
  · intro hall
    rcases exists_run (wp_eraseSd_run hfuel hread) healthyCard_live with
      ⟨status, g', s', hrun, hends⟩
    exact hends.gated_iff.1 (hall status g' s' hrun)
  · intro hagree status g' s' hrun
    have hends := wp_runs (wp_eraseSd_run (D := fun _ => True) hfuel hread) hrun
    exact hends.gated_iff.2 hagree

/-- A card of the classes 0, 2, 4, 5, 7, 8 and 10. -/
def class5Card : SdGlobals := { blankGlobals with csdData := csdOfClass5B5 }

theorem erase_gated_iff_5B5 :
    ∃ status g' s', Runs (answeringCard (healthyCard 0)) (eraseSd 1 0#32 7#32 class5Card) .start
      (status, g') s' ∧ GatedByClass5 class5Card status s'.sent := by
  have hgated := (erase_gated_iff 0 1 0#32 7#32 class5Card Nat.zero_lt_one (by decide)).2
    (by decide)
  have hread : (readCsdData class5Card.csdData CsdType.zero).1 = 0 := by decide
  rcases exists_run (wp_eraseSd_run Nat.zero_lt_one hread) healthyCard_live with
    ⟨status, g', s', hrun, _⟩
  exact ⟨status, g', s', hrun, hgated status g' s' hrun⟩

end Driver
end SdioFat32
