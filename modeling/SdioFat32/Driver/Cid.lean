import SdioFat32.Driver.CsdFields

/-!
# Cid — the card identification register in `sd_cid`

`CmdResp2Error` stores the response registers in their order, the most significant word first, in
a structure whose first byte is the least significant one of the register.

* `CidType.ofMemory`: the packed structure over the four words of `sd_cid`;
* `CidDecoded`: every field with its own bits of the register.
-/

namespace SdioFat32
namespace Driver

open Effects Proc

/-! ## The structure -/

/-- `CID_Type` without its padding bits. -/
structure CidType where
  crc : BitVec 7
  mdt : BitVec 12
  psn : BitVec 32
  prv : BitVec 8
  pnm : Fin 5 → BitVec 8
  oem : BitVec 16
  manufactureId : BitVec 8

/-- The 16 bytes of `sd_cid` as a number: bytes and words with the lowest address first. -/
def cidMemory (d : Vector (BitVec 32) 4) : BitVec 128 := d.get 3 ++ d.get 2 ++ d.get 1 ++ d.get 0

/-- The packed structure: fields from bit 0 upwards, `NOT_USED` at 0 and `reserved` at 20 to 23. -/
def CidType.ofMemory (m : BitVec 128) : CidType :=
  { crc := m.extractLsb' 1 7
    mdt := m.extractLsb' 8 12
    psn := m.extractLsb' 24 32
    prv := m.extractLsb' 56 8
    pnm := fun i => m.extractLsb' (64 + 8 * i) 8
    oem := m.extractLsb' 104 16
    manufactureId := m.extractLsb' 120 8 }

/-- The register that comes with the most significant word first. -/
def cidRegister (d : Vector (BitVec 32) 4) : BitVec 128 := d.get 0 ++ d.get 1 ++ d.get 2 ++ d.get 3

/-- The table of the card specification. -/
structure CidDecoded (r : BitVec 128) (c : CidType) : Prop where
  manufactureId : c.manufactureId = r.extractLsb' 120 8
  oem : c.oem = r.extractLsb' 104 16
  pnm : ∀ i : Fin 5, c.pnm i = r.extractLsb' (64 + 8 * i) 8
  prv : c.prv = r.extractLsb' 56 8
  psn : c.psn = r.extractLsb' 24 32
  mdt : c.mdt = r.extractLsb' 8 12
  crc : c.crc = r.extractLsb' 1 7

/-! ## The four words -/

section Words

variable {d : Vector (BitVec 32) 4} {m r : BitVec 128}

theorem getLsbD_of_extract_eq {start len i : Nat}
    (h : m.extractLsb' start len = r.extractLsb' start len) (hi : i < len) :
    m.getLsbD (start + i) = r.getLsbD (start + i) := by
  have hbit := congrArg (fun x => x.getLsbD i) h
  simpa [hi] using hbit

/-- The fields leave out only the padding. -/
theorem CidDecoded.agree (h : CidDecoded r (.ofMemory m)) {i : Nat} (hi : 24 ≤ i) (hi' : i < 128) :
    m.getLsbD i = r.getLsbD i := by
  have hfield : ∀ {start len : Nat}, m.extractLsb' start len = r.extractLsb' start len →
      start ≤ i → i < start + len → m.getLsbD i = r.getLsbD i := by
    intro start len hfield hstart hend
    obtain ⟨k, rfl⟩ := Nat.exists_eq_add_of_le hstart
    exact getLsbD_of_extract_eq hfield (by omega)
  by_cases hpsn : i < 56
  · exact hfield h.psn hi (by omega)
  by_cases hprv : i < 64
  · exact hfield h.prv (by omega) (by omega)
  by_cases hpnm : i < 104
  · -- The byte of the name that bit `i` is in.
    have hbyte : (i - 64) / 8 < 5 := by omega
    exact hfield (h.pnm ⟨(i - 64) / 8, hbyte⟩) (by dsimp only; omega) (by dsimp only; omega)
  by_cases hoem : i < 120
  · exact hfield h.oem (by omega) (by omega)
  · exact hfield h.manufactureId (by omega) (by omega)

theorem words_of_agree (h : ∀ i, 64 ≤ i → i < 128 → (cidMemory d).getLsbD i =
    (cidRegister d).getLsbD i) : d.get 0 = d.get 3 ∧ d.get 1 = d.get 2 := by
  have hhigh : ∀ {start : Nat}, 64 ≤ start → start + 32 ≤ 128 →
      (cidMemory d).extractLsb' start 32 = (cidRegister d).extractLsb' start 32 := by
    intro start hstart hend
    apply BitVec.eq_of_getLsbD_eq
    intro i hi
    rw [BitVec.getLsbD_extractLsb', BitVec.getLsbD_extractLsb',
      h (start + i) (by omega) (by omega)]
  have hword : ∀ w : BitVec 32, w.extractLsb' 0 32 = w := fun w => BitVec.extractLsb'_eq_self
  -- In memory the words lie the other way round.
  have hmemory : (cidMemory d).extractLsb' 96 32 = (d.get 3).extractLsb' 0 32 ∧
      (cidMemory d).extractLsb' 64 32 = (d.get 2).extractLsb' 0 32 :=
    ⟨extract_word #v[d.get 3, d.get 2, d.get 1, d.get 0] 0 (by decide) (by decide),
      extract_word #v[d.get 3, d.get 2, d.get 1, d.get 0] 1 (by decide) (by decide)⟩
  constructor
  · calc
      d.get 0 = (d.get 0).extractLsb' 0 32 := (hword _).symm
      _ = (cidRegister d).extractLsb' 96 32 := (extract_word d 0 (by decide) (by decide)).symm
      _ = (cidMemory d).extractLsb' 96 32 := (hhigh (by decide) (by decide)).symm
      _ = (d.get 3).extractLsb' 0 32 := hmemory.1
      _ = d.get 3 := hword _
  · calc
      d.get 1 = (d.get 1).extractLsb' 0 32 := (hword _).symm
      _ = (cidRegister d).extractLsb' 64 32 := (extract_word d 1 (by decide) (by decide)).symm
      _ = (cidMemory d).extractLsb' 64 32 := (hhigh (by decide) (by decide)).symm
      _ = (d.get 2).extractLsb' 0 32 := hmemory.2
      _ = d.get 2 := hword _

/-- The two orders agree on exactly the registers that read the same from both ends. -/
theorem cidDecoded_iff :
    CidDecoded (cidRegister d) (.ofMemory (cidMemory d)) ↔ d.get 0 = d.get 3 ∧ d.get 1 = d.get 2 := by
  constructor
  · intro h
    exact words_of_agree fun i hi hi' => h.agree (by omega) hi'
  · rintro ⟨hends, hmiddle⟩
    have hsame : cidMemory d = cidRegister d := by
      rw [cidMemory, cidRegister, hends, hmiddle]
    rw [hsame]
    exact ⟨rfl, rfl, fun _ => rfl, rfl, rfl, rfl, rfl⟩

end Words

/-! ## `CmdResp2Error` -/

/-- The response registers hold the given words; everything else is arbitrary. -/
def responseRegisters (d : Vector (BitVec 32) 4) :
    Env SdioEvent SdioEvent.Response Unit where
  step _ e r _ :=
    match e, r with
    | .read (.resp i), (w : BitVec 32) => w = d.get i
    | _, _ => True

variable {d : Vector (BitVec 32) 4} {fuel : Nat} {g : SdGlobals}

theorem wp_readResp_registers {i : Fin 4} {Q : BitVec 32 → SdGlobals → Unit → Prop}
    (h : Q (d.get i) g ()) :
    (readReg (.resp i)).wp (responseRegisters d) (fun _ => True) Q g () := by
  refine ⟨trivial, ?_⟩
  rintro (w : BitVec 32) _ hstep
  have hword : w = d.get i := hstep
  subst hword
  exact h

/-- A status of 0 comes after the four words were stored. -/
theorem wp_cmdResp2Error_cid :
    (cmdResp2Error fuel .cid).wp (responseRegisters d) (fun _ => True)
      (fun status g' _ => status = 0 → g'.sdCid = d) g () := by
  have hany : (answerStatus fuel sdioStaCtimeout sdioStaCcrcfail).wp (responseRegisters d)
      (fun _ => True) (fun _ _ _ => True) g () :=
    wp_of_step (fun _ _ _ => ⟨trivial, fun _ _ _ => trivial⟩) (fun _ _ => trivial) trivial
  refine wp_seq hany ?_
  rintro status g₁ ⟨⟩ _
  split
  · rename_i hne
    exact fun h => absurd h hne
  refine wp_bind.2 (wp_globals.2 (wp_bind.2 ?_))
  unfold sdioReadLongResp
  rw [if_neg (by decide)]
  refine wp_bind.2 (wp_readResp_registers (wp_bind.2 (wp_readResp_registers ?_)))
  refine wp_bind.2 (wp_readResp_registers (wp_bind.2 (wp_readResp_registers ?_)))
  intro _
  apply Vector.ext
  intro i hi
  match i, hi with
  | 0, _ => rfl
  | 1, _ => rfl
  | 2, _ => rfl
  | 3, _ => rfl

/-- A register with the manufacturer `0x03` and the serial number `0x12345678`. -/
def cidOfManufacturer3 : Vector (BitVec 32) 4 :=
  #v[0x03534453#32, 0x44313647#32, 0x80123456#32, 0x7801234F#32]

theorem answeringR2_allowed (d : Vector (BitVec 32) 4) (s : Unit) (e : SdioEvent) :
    (responseRegisters d).step s e (answeringR2 d s e).1 (answeringR2 d s e).2 := by
  cases e with
  | read reg =>
      cases reg with
      | resp i => exact rfl
      | _ => trivial
  | _ => trivial

/-- It is read as the manufacturer `0x78` with another serial number. -/
theorem cid_misread :
    ∃ g', Runs (responseRegisters cidOfManufacturer3) (cmdResp2Error 1 .cid blankGlobals) ()
        (0, g') () ∧
      (CidType.ofMemory (cidMemory g'.sdCid)).manufactureId = 0x78#8 ∧
      (CidType.ofMemory (cidMemory g'.sdCid)).psn = 0x31364703#32 ∧
      ¬CidDecoded (cidRegister cidOfManufacturer3) (.ofMemory (cidMemory g'.sdCid)) := by
  have hexec : ((cmdResp2Error 1 .cid blankGlobals).exec (answeringR2 cidOfManufacturer3) ()).map
      (fun x => x.1.1) = some 0 := by
    decide +kernel
  rcases Prog.exec_returns (answeringR2_allowed _) hexec with ⟨g', s', hrun⟩
  have hcid : g'.sdCid = cidOfManufacturer3 := wp_runs wp_cmdResp2Error_cid hrun rfl
  refine ⟨g', hrun, ?_, ?_, ?_⟩
  · rw [hcid]
    decide
  · rw [hcid]
    decide
  · rw [hcid, cidDecoded_iff]
    decide

/-- After `CmdResp2Error` the fields of `sd_cid` are those of the register exactly if its words
read the same from both ends. -/
theorem cid_decoded_iff (fuel : Nat) (d : Vector (BitVec 32) 4) (g g' : SdGlobals)
    (hrun : Runs (responseRegisters d) (cmdResp2Error fuel .cid g) () (0, g') ()) :
    CidDecoded (cidRegister d) (.ofMemory (cidMemory g'.sdCid)) ↔
      d.get 0 = d.get 3 ∧ d.get 1 = d.get 2 := by
  rw [wp_runs wp_cmdResp2Error_cid hrun rfl]
  exact cidDecoded_iff

/-- A register of equal words. -/
theorem cid_decoded_iff_equal_words :
    ∃ g', Runs (responseRegisters (Vector.replicate 4 0x5A5A5A5A#32))
        (cmdResp2Error 1 .cid blankGlobals) () (0, g') () ∧
      CidDecoded (cidRegister (Vector.replicate 4 0x5A5A5A5A#32))
        (.ofMemory (cidMemory g'.sdCid)) := by
  have hexec : ((cmdResp2Error 1 .cid blankGlobals).exec
      (answeringR2 (Vector.replicate 4 0x5A5A5A5A#32)) ()).map (fun x => x.1.1) = some 0 := by
    decide +kernel
  rcases Prog.exec_returns (answeringR2_allowed _) hexec with ⟨g', s', hrun⟩
  exact ⟨g', hrun, (cid_decoded_iff 1 _ blankGlobals g' hrun).2 (by decide)⟩

end Driver
end SdioFat32
