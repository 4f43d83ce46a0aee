import SdioFat32.Driver.Transcript

/-!
# StatusWord — what `CmdResp1Error` makes of an R1 word

`SD.state` is taken from the word as it stands.  Of the status structure of the caller only
`READY_FOR_DATA` and `APP_CMD` are written, since the copy of the whole word goes over the pointer
and not over the structure; and of the error bits that `CardStatus_Type` names, `SWITCH_ERROR` is
not tested.
-/

namespace SdioFat32
namespace Driver

open Effects Proc

/-! ## The error bits -/

/-- The error bits that `CardStatus_Type` names. -/
def namedErrorBits : List Nat :=
  [3, 7, 13, 14, 15, 16, 19, 20, 21, 22, 23, 24, 25, 26, 27, 28, 29, 30, 31]

def NoErrorBit (w : CardStatus) : Prop := ∀ i ∈ namedErrorBits, w.getLsbD i = false

/-- `SWITCH_ERROR` -/
def switchErrorBit : Nat := 7

theorem firstError_eq_zero {w : BitVec 32} {checks : List (Nat × Int)}
    (hneg : ∀ c ∈ checks, c.2 < 0) :
    firstError w checks = 0 ↔ ∀ c ∈ checks, w.getLsbD c.1 = false := by
  induction checks with
  | nil => exact iff_of_true rfl (fun c hc => absurd hc List.not_mem_nil)
  | cons c checks ih =>
      rcases c with ⟨bit, error⟩
      rw [firstError, List.forall_mem_cons]
      have hrest := ih fun c hc => hneg c (List.mem_cons_of_mem _ hc)
      split
      · rename_i hset
        have hne : error ≠ 0 := Int.ne_of_lt (hneg (bit, error) List.mem_cons_self)
        refine iff_of_false hne ?_
        intro hclear
        exact Bool.false_ne_true (hclear.1.symm.trans hset)
      · rename_i hclear
        rw [hrest]
        exact ⟨fun h => ⟨Bool.not_eq_true _ ▸ hclear, h⟩, fun h => h.2⟩

/-- The bits that are tested are the named ones without `SWITCH_ERROR`. -/
theorem r1Error_eq_zero {w : CardStatus} :
    r1Error w = 0 ↔ ∀ i ∈ namedErrorBits, i ≠ switchErrorBit → w.getLsbD i = false := by
  have htested : ∀ c ∈ r1Checks, c.1 ∈ namedErrorBits ∧ c.1 ≠ switchErrorBit := by decide
  have hnamed : ∀ i ∈ namedErrorBits, i ≠ switchErrorBit → ∃ c ∈ r1Checks, c.1 = i := by decide
  unfold r1Error
  rw [firstError_eq_zero r1Checks_neg]
  constructor
  · intro h i hi hne
    rcases hnamed i hi hne with ⟨c, hc, rfl⟩
    exact h c hc
  · intro h c hc
    exact h c.1 (htested c hc).1 (htested c hc).2

theorem noErrorBit_iff {w : CardStatus} :
    NoErrorBit w ↔ r1Error w = 0 ∧ w.getLsbD switchErrorBit = false := by
  rw [r1Error_eq_zero]
  constructor
  · intro h
    exact ⟨fun i hi _ => h i hi, h switchErrorBit (by decide)⟩
  · rintro ⟨htested, hswitch⟩ i hi
    by_cases hi7 : i = switchErrorBit
    · rw [hi7]
      exact hswitch
    · exact htested i hi hi7

/-! ## The copy -/

/-- Outside of the two fields that are copied, the structure held the word before. -/
def HeldBefore (cs w : CardStatus) : Prop :=
  ∀ i < 32, i ≠ 5 → i ≠ 8 → cs.getLsbD i = w.getLsbD i

theorem copyFields_eq_iff {cs w : CardStatus} :
    CardStatus.copyFields cs w = w ↔ HeldBefore cs w := by
  -- Only the bits 5 and 8 are copied.
  have hbit : ∀ i < 32, (CardStatus.copyFields cs w).getLsbD i =
      if 5 = i then w.getLsbD 5 else if 8 = i then w.getLsbD 8 else cs.getLsbD i := by
    intro i hi
    unfold CardStatus.copyFields
    rw [CardStatus.getLsbD_setField (by decide) hi, CardStatus.getLsbD_setField (by decide) hi]
    rfl
  constructor
  · intro h i hi h5 h8
    have hi' := hbit i hi
    rw [h, if_neg (Ne.symm h5), if_neg (Ne.symm h8)] at hi'
    exact hi'.symm
  · intro h
    apply BitVec.eq_of_getLsbD_eq
    intro i hi
    rw [hbit i hi]
    split
    · rename_i h5
      rw [h5]
    · rename_i h5
      split
      · rename_i h8
        rw [h8]
      · rename_i h8
        exact h i hi (Ne.symm h5) (Ne.symm h8)

/-! ## Decoding -/

/-- The state, the structure and the status that stand for the word. -/
structure StatusDecoded (w : CardStatus) (status : Int) (cs : CardStatus) (g : SdGlobals) :
    Prop where
  state : g.sd.state = w.extractLsb' 9 4
  pattern : cs = w
  success : status = 0 ↔ NoErrorBit w
  failure : ¬NoErrorBit w → status < 0

/-- `SWITCH_ERROR` is not the only error bit that is set. -/
def SwitchErrorSeen (w : CardStatus) : Prop :=
  w.getLsbD switchErrorBit = true →
    ∃ i ∈ namedErrorBits, i ≠ switchErrorBit ∧ w.getLsbD i = true

theorem r1Error_faithful_iff {w : CardStatus} :
    (r1Error w = 0 ↔ NoErrorBit w) ↔ SwitchErrorSeen w := by
  rw [noErrorBit_iff]
  constructor
  · intro h hswitch
    by_contra hnone
    have hzero : r1Error w = 0 := by
      rw [r1Error_eq_zero]
      intro i hi hne
      exact Bool.not_eq_true _ ▸ fun hset => hnone ⟨i, hi, hne, hset⟩
    exact Bool.false_ne_true ((h.1 hzero).2.symm.trans hswitch)
  · intro hseen
    refine ⟨fun hzero => ⟨hzero, ?_⟩, fun h => h.1⟩
    by_contra hset
    rcases hseen (Bool.not_eq_false _ ▸ hset) with ⟨i, hi, hne, hbit⟩
    exact Bool.false_ne_true ((r1Error_eq_zero.1 hzero i hi hne).symm.trans hbit)

theorem statusDecoded_iff {w cs : CardStatus} {g : SdGlobals} :
    StatusDecoded w (r1Error w) (CardStatus.copyFields cs w) ((Answer.word w).recorded g) ↔
      HeldBefore cs w ∧ SwitchErrorSeen w := by
  constructor
  · intro h
    exact ⟨copyFields_eq_iff.1 h.pattern, r1Error_faithful_iff.1 h.success⟩
  · rintro ⟨hheld, hseen⟩
    have hsuccess := r1Error_faithful_iff.2 hseen
    refine ⟨rfl, copyFields_eq_iff.2 hheld, hsuccess, ?_⟩
    intro herror
    exact lt_of_le_of_ne (r1Error_nonpos w) fun hzero => herror (hsuccess.1 hzero)

/-! ## `CmdResp1Error` -/

variable {fuel : Nat} {cs : CardStatus} {g : SdGlobals} {s : TalkRecord}

/-- One answer is taken in, and it determines the rest. -/
theorem wp_cmdResp1Error_one :
    (cmdResp1Error fuel cs).wp (transcript anyCommand) (fun _ => True)
      (fun r g' s' => ∃ x : Answer, s'.entries = .heard x :: s.entries ∧
        r = (x.status, x.copied cs) ∧ g' = x.recorded g) g s :=
  wp_cmdResp1Error_transcript fun x => ⟨x, rfl, rfl, rfl⟩

/-- Only `SWITCH_ERROR` is set, and every answer is this word. -/
def switchErrorAnswer (s : TalkRecord) (e : SdioEvent) : e.Response × TalkRecord :=
  let r : e.Response :=
    match e with
    | .read _ => (0x80#32 : BitVec 32)
    | e => SdioEvent.ready (fun _ => sdioStaCmdrend) e
  (r, s.next e r)

theorem switchErrorAnswer_allowed (s : TalkRecord) (e : SdioEvent) :
    (transcript anyCommand).step s e (switchErrorAnswer s e).1 (switchErrorAnswer s e).2 := rfl

/-- A word with an error bit gives the status 0, and is not in the structure of the caller. -/
theorem switch_error_passes :
    ∃ g' s', Runs (transcript anyCommand) (cmdResp1Error 1 0#32 blankGlobals) .start
        ((0, 0#32), g') s' ∧ s'.entries = [.heard (.word 0x80#32)] ∧
      ¬StatusDecoded 0x80#32 0 0#32 g' := by
  have hexec : ((cmdResp1Error 1 0#32 blankGlobals).exec switchErrorAnswer .start).map
      (fun x => (x.1.1, x.2.entries)) = some ((0, 0#32), [.heard (.word 0x80#32)]) := by
    decide +kernel
  rcases Prog.exec_ends (fun s : TalkRecord => s.entries) switchErrorAnswer_allowed hexec with
    ⟨g', s', hrun, hentries⟩
  refine ⟨g', s', hrun, hentries, ?_⟩
  intro hdecoded
  have hnone := hdecoded.success.1 rfl
  exact absurd (hnone switchErrorBit (by decide)) (by decide)

/-- A word is decoded as it is meant exactly if the structure held its other bits before and
`SWITCH_ERROR` is not its only error. -/
theorem status_word_decoded_iff (fuel : Nat) (cs cs' w : CardStatus) (status : Int)
    (g g' : SdGlobals) (s s' : TalkRecord)
    (hrun : Runs (transcript anyCommand) (cmdResp1Error fuel cs g) s ((status, cs'), g') s')
    (hword : s'.entries = .heard (.word w) :: s.entries) :
    StatusDecoded w status cs' g' ↔ HeldBefore cs w ∧ SwitchErrorSeen w := by
  rcases wp_runs wp_cmdResp1Error_one hrun with ⟨x, hentries, hr, rfl⟩
  have hx : x = .word w := by
    rw [hentries] at hword
    simpa using hword
  subst hx
  rcases Prod.mk.inj hr with ⟨rfl, rfl⟩
  exact statusDecoded_iff

/-- The structure holds the state of the card already, and the word is without errors. -/
theorem status_word_decoded_iff_held :
    ∃ g' s', Runs (transcript anyCommand) (cmdResp1Error 1 0x800#32 blankGlobals) .start
        ((0, 0x900#32), g') s' ∧ StatusDecoded 0x900#32 0 0x900#32 g' := by
  have hexec : ((cmdResp1Error 1 0x800#32 blankGlobals).exec successAnswer .start).map
      (fun x => (x.1.1, x.2.entries)) = some ((0, 0x900#32), [.heard (.word 0x900#32)]) := by
    decide +kernel
  have hheld : HeldBefore 0x800#32 0x900#32 := by
    unfold HeldBefore
    decide
  have hseen : SwitchErrorSeen 0x900#32 := fun hset => absurd hset (by decide)
  rcases Prog.exec_ends (fun s : TalkRecord => s.entries) successAnswer_allowed hexec with
    ⟨g', s', hrun, hentries⟩
  refine ⟨g', s', hrun, ?_⟩
  exact (status_word_decoded_iff 1 _ _ _ 0 _ g' _ s' hrun hentries).2 ⟨hheld, hseen⟩

end Driver
end SdioFat32
