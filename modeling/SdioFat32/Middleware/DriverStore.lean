import SdioFat32.Driver.CardVersion
import SdioFat32.Driver.StartError
import SdioFat32.Driver.CardWrite
import SdioFat32.Middleware.ReadBack
import SdioFat32.Middleware.SdDevice

/-!
# DriverStore — the block store is what the driver makes of the card

The procedures of the middleware were studied over `blockStore`, which says what a block function
does to memory and to the card.  Here the functions of `SD.c` themselves run, against the storing
card, and every run of theirs that ends without a start bit error is a step of the block store:

* `servedStore` — the store, for the calls that the driver can serve;
* `CardReady` — what holds between two calls;
* `handles_sdDriver` — the contract of each call, on the steady card;
* `runs_servedStore` — runs on the storing card.
-/

namespace SdioFat32
namespace Middleware

open Effects Allocator Cells Proc
open Driver hiding readMultiBlockSd writeMultiBlockSd eraseSd memcpy delayTimer
open BlockDevice

/-! ## The contract -/

/-- The driver can serve the call: up to 65535 blocks, at a block whose byte address is no more
than 32 bits long if the card counts bytes. -/
def DeviceEvent.Served (byteAddressed : Bool) : DeviceEvent → Prop
  | .readMultiBlockSd _ countBlocks address _ =>
      countBlocks.toNat ≤ 65535 ∧ (byteAddressed = true → address.toNat < 2 ^ 23)
  | .writeMultiBlockSd _ countBlocks address _ =>
      countBlocks.toNat ≤ 65535 ∧ (byteAddressed = true → address.toNat < 2 ^ 23)
  | .eraseSd _ _ => False
  | .memcpy _ _ _ => True
  | .delayTimer _ => True

/-- The block store for such calls. -/
def servedStore (byteAddressed : Bool) : Env DeviceEvent DeviceEvent.Response StoreState where
  req s e := e.Served byteAddressed ∧ blockStore.req s e
  step := blockStore.step

/-- Memory and the bytes of the card. -/
def storeView (s : CardState) : StoreState := ⟨s.mem, s.card⟩

/-- Between two calls: the card rests, and the driver knows how it is addressed. -/
structure CardReady (byteAddressed : Bool) (g : SdGlobals) (s : CardState) : Prop where
  atRest : AtRest s
  addressed : g.sd.version = .sdsc ↔ byteAddressed = true

/-- The same on the steady card. -/
structure SteadyReady (byteAddressed : Bool) (g : SdGlobals) (s : CardState) : Prop extends
    CardReady byteAddressed g s where
  noStartError : hasFlag s.flags sdioStaStbiterr = false

variable {byteAddressed : Bool} {g : SdGlobals} {s s' : CardState} {fuel first n : Nat}
  {card : Nat → BitVec 8} {status : Int} {data buffer address timeout countBlocks : BitVec 32}

theorem SteadyReady.rests (h : SteadyReady byteAddressed g s) : Rests s :=
  h.atRest.rests h.noStartError

theorem CardReady.firstByte (h : CardReady byteAddressed g s)
    (haddress : byteAddressed = true → address.toNat < 2 ^ 23) :
    Driver.firstByte byteAddressed (cardAddress g address) = 512 * address.toNat := by
  unfold Driver.firstByte cardAddress
  cases byteAddressed with
  | true =>
      have hsdsc := h.addressed.2 rfl
      have hsmall := haddress rfl
      rw [if_pos rfl, if_pos hsdsc, BitVec.toNat_mul]
      simp only [BitVec.toNat_ofNat]
      omega
  | false =>
      have hother : g.sd.version ≠ .sdsc := fun hsdsc => Bool.false_ne_true (h.addressed.1 hsdsc)
      rw [if_neg Bool.false_ne_true, if_neg hother]

/-- A byte of the words of the card is a byte of the card. -/
theorem streamByte_cardWords {i : Nat} :
    streamByte (cardWords card first) i = card (first + i) := by
  have hindex : first + 4 * (i / 4) + i % 4 = first + i := by omega
  rw [streamByte, cardWords, wordByte_ofBytes (Nat.mod_lt _ (by decide)), hindex]

/-- The end of a read is a step of the store. -/
theorem fills_of_readEnds {inbox : Inbox} {s : StoreState}
    (hlength : inbox.length = 512 * countBlocks.toNat) (hbefore : inbox.before = s.memory)
    (h : ReadEnds inbox s.card (512 * address.toNat) status s') :
    s'.card = s.card ∧
      Fills s inbox.buffer address.toNat countBlocks.toNat status s'.mem := by
  obtain ⟨hrests, hbrought⟩ := h
  refine ⟨hrests.framed.2, ?_, ?_⟩
  · rw [← hlength, ← hbefore]
    exact hrests.framed.1
  · intro hzero i hi
    have hfilled := (hbrought hzero).1 i (by rw [hlength]; exact hi)
    rw [streamByte_cardWords] at hfilled
    exact hfilled

theorem stores_of_writeEnds {s : StoreState}
    (h : WriteEnds s.memory s.card data (512 * address.toNat) n status s') :
    s'.mem = s.memory ∧ Stores s data address.toNat n status s'.card := by
  obtain ⟨k, hk, hrests, hwhole⟩ := h
  refine ⟨hrests.framed.1, fun b => decide (status = 0 ∨ b < address.toNat + k), ?_, ?_⟩
  · intro hzero b
    simp [hzero]
  · intro a
    rw [hrests.framed.2]
    unfold written InBlocks
    simp only [decide_eq_true_eq]
    by_cases hzero : status = 0
    · have hall : k = n := hwhole hzero
      subst hall
      simp only [hzero, true_or, and_true, Nat.mul_add]
    · -- The first `k` blocks are stored.
      have hsame : (512 * address.toNat ≤ a ∧ a < 512 * address.toNat + 512 * k) ↔
          (512 * address.toNat ≤ a ∧ a < 512 * (address.toNat + n)) ∧
            (status = 0 ∨ a / 512 < address.toNat + k) := by
        constructor
        · rintro ⟨hlo, hhi⟩
          exact ⟨⟨hlo, by omega⟩, Or.inr (by omega)⟩
        · rintro ⟨⟨hlo, _⟩, hfailed | hblock⟩
          · exact absurd hfailed hzero
          · exact ⟨hlo, by omega⟩
      rw [if_congr hsame rfl rfl]

theorem restsOf_writeEnds {mem : Memory 32 (BitVec 8)}
    (h : WriteEnds mem card data first n status s') : Rests s' := by
  obtain ⟨k, _, hrests, _⟩ := h
  exact hrests.toRests

/-! ## The calls -/

theorem zero_or_one (h : ¬2 ≤ countBlocks.toNat) : countBlocks = 0#32 ∨ countBlocks = 1#32 := by
  by_cases hzero : countBlocks.toNat = 0
  · exact Or.inl (BitVec.eq_of_toNat_eq hzero)
  · have hone : countBlocks.toNat = 1 := by omega
    exact Or.inr (BitVec.eq_of_toNat_eq hone)

theorem wp_readMultiBlockSd_served (hready : SteadyReady byteAddressed g s)
    (hcount : countBlocks.toNat ≤ 65535)
    (haddress : byteAddressed = true → address.toNat < 2 ^ 23) :
    (Driver.readMultiBlockSd fuel buffer countBlocks address timeout).wp
      (steadyCard byteAddressed) (fun _ => True)
      (fun status _ s' => (s'.card = s.card ∧
        Fills (storeView s) buffer address.toNat countBlocks.toNat status s'.mem) ∧ Rests s')
      g s := by
  have hfirst := hready.firstByte haddress
  let inbox : Inbox := ⟨buffer, 512 * countBlocks.toNat, s.mem⟩
  have hend : ∀ {status : Int} {s' : CardState},
      ReadEnds inbox s.card (Driver.firstByte byteAddressed (cardAddress g address)) status s' →
      (s'.card = s.card ∧
        Fills (storeView s) buffer address.toNat countBlocks.toNat status s'.mem) ∧ Rests s' := by
    intro status s' h
    rw [hfirst] at h
    exact ⟨fills_of_readEnds (s := storeView s) rfl rfl h, h.1.toRests⟩
  by_cases htwo : 2 ≤ countBlocks.toNat
  · have hmulti : (Driver.readMultiBlockSd fuel inbox.buffer countBlocks address timeout).wp
        (steadyCard byteAddressed) (fun _ => True) _ g s :=
      wp_readMultiBlockSd_steady htwo hcount rfl rfl hready.rests
    exact wp_mono hmulti fun _ _ _ h => hend h
  · rcases zero_or_one htwo with rfl | rfl
    · refine ⟨⟨rfl, fun _ _ => rfl, ?_⟩, hready.rests⟩
      intro _ i hi
      exact absurd hi (Nat.not_lt_zero i)
    · have hsingle : (readSingleBlockSd fuel inbox.buffer 512#32 address timeout).wp
          (steadyCard byteAddressed) (fun _ => True) _ g s :=
        wp_readSingleBlockSd_steady rfl rfl hready.rests
      exact wp_mono hsingle fun _ _ _ h => hend h

theorem wp_writeMultiBlockSd_served (hready : SteadyReady byteAddressed g s)
    (hcount : countBlocks.toNat ≤ 65535)
    (haddress : byteAddressed = true → address.toNat < 2 ^ 23) :
    (Driver.writeMultiBlockSd fuel data countBlocks address timeout).wp
      (steadyCard byteAddressed) (fun _ => True)
      (fun status _ s' => (s'.mem = s.mem ∧
        Stores (storeView s) data address.toNat countBlocks.toNat status s'.card) ∧ Rests s')
      g s := by
  have hfirst := hready.firstByte haddress
  have hend : ∀ {status : Int} {s' : CardState},
      WriteEnds s.mem s.card data (Driver.firstByte byteAddressed (cardAddress g address))
        countBlocks.toNat status s' →
      (s'.mem = s.mem ∧
        Stores (storeView s) data address.toNat countBlocks.toNat status s'.card) ∧ Rests s' := by
    intro status s' h
    rw [hfirst] at h
    exact ⟨stores_of_writeEnds (s := storeView s) h, restsOf_writeEnds h⟩
  by_cases htwo : 2 ≤ countBlocks.toNat
  · exact wp_mono (wp_writeMultiBlockSd_steady htwo hcount hready.rests) fun _ _ _ h => hend h
  · rcases zero_or_one htwo with rfl | rfl
    · refine ⟨⟨rfl, fun _ => true, fun _ _ => rfl, fun a => ?_⟩, hready.rests⟩
      rw [if_neg]
      · rfl
      · rintro ⟨⟨hlo, hhi⟩, _⟩
        exact absurd hhi (Nat.not_lt.2 hlo)
    · exact wp_mono (wp_writeSingleBlockSd_steady hready.rests) fun _ _ _ h => hend h

/-- Each function of `SD.c` does what the store says, and leaves the card ready. -/
theorem handles_sdDriver :
    Handles (servedStore byteAddressed) (steadyCard byteAddressed) storeView
      (SteadyReady byteAddressed) (sdDriver fuel) := by
  intro e g s hready hreq
  have haddressed : ∀ {g' : SdGlobals} {s' : CardState}, Rests s' → version g' = version g →
      SteadyReady byteAddressed g' s' := by
    intro g' s' hrests hversion
    refine ⟨⟨hrests.atRest, ?_⟩, hrests.noStartError⟩
    rw [show g'.sd.version = g.sd.version from hversion]
    exact hready.addressed
  cases e with
  | readMultiBlockSd buffer countBlocks address timeout =>
      refine wp_mono (keeps_readMultiBlockSd.wp
        (wp_readMultiBlockSd_served hready hreq.1.1 hreq.1.2)) ?_
      rintro status g' s' ⟨⟨⟨hcard, hfills⟩, hrests⟩, hversion⟩
      exact ⟨⟨hcard, hfills⟩, haddressed hrests hversion⟩
  | writeMultiBlockSd data countBlocks address timeout =>
      refine wp_mono (keeps_writeMultiBlockSd.wp
        (wp_writeMultiBlockSd_served hready hreq.1.1 hreq.1.2)) ?_
      rintro status g' s' ⟨⟨⟨hmemory, hstores⟩, hrests⟩, hversion⟩
      exact ⟨⟨hmemory, hstores⟩, haddressed hrests hversion⟩
  | eraseSd addressStart addressEnd => exact hreq.1.elim
  | memcpy dst src n =>
      refine ⟨hreq.2, ?_⟩
      rintro _ s' ⟨s₁, hdrift, rfl⟩
      obtain ⟨hhalted, hmem, hcard, hends⟩ := hready.rests.toHalted.drift hdrift
      refine ⟨?_, haddressed ⟨⟨hhalted.noStartError, ?_⟩, hends.trans hready.rests.ends⟩ rfl⟩
      · show storeView _ = _
        simp only [storeView, hmem, hcard]
      · intro henabled
        obtain ⟨huntouched, hnone⟩ := hhalted.idle henabled
        exact ⟨⟨huntouched.arrived, huntouched.queued, huntouched.total, huntouched.pushed,
          huntouched.consumed, huntouched.stored⟩, hnone⟩
  | delayTimer ms =>
      refine ⟨trivial, ?_⟩
      rintro _ s' ⟨s₁, hdrift, hs'⟩
      have hsame : s' = s₁ := hs'
      subst hsame
      obtain ⟨hhalted, hmem, hcard, hends⟩ := hready.rests.toHalted.drift hdrift
      refine ⟨?_, haddressed ⟨hhalted, hends.trans hready.rests.ends⟩ rfl⟩
      show storeView _ = _
      simp only [storeView, hmem, hcard]

/-- No function of `SD.c` clears the flag of a start bit error. -/
theorem complies_sdDriver (e : DeviceEvent) : (sdDriver fuel e).Complies sparing := by
  cases e with
  | readMultiBlockSd buffer countBlocks address timeout => exact complies_readMultiBlockSd
  | writeMultiBlockSd data countBlocks address timeout => exact complies_writeMultiBlockSd
  | eraseSd addressStart addressEnd => exact complies_eraseSd
  | memcpy dst src n => exact complies_perform trivial
  | delayTimer ms => exact complies_perform trivial

/-- A run that ends with the flag down was free of such errors, and is one over the block store. -/
theorem runs_servedStore {α : Type} {p : DeviceProc α} {D : StoreState → Prop}
    {Q : α → Pool → StoreState → Prop} {g g' : Pool × SdGlobals} {a : α}
    (hready : CardReady byteAddressed g.2 s)
    (hserved : p.wp (servedStore byteAddressed) D Q g.1 (storeView s))
    (hrun : Runs (storingCard byteAddressed) (onDriver fuel p g) s (a, g') s')
    (hstart : ¬StartError s') :
    Runs (servedStore byteAddressed) (p g.1) (storeView s) (a, g'.1) (storeView s') ∧
      CardReady byteAddressed g'.2 s' := by
  have hcomplies : (onDriver fuel p).Complies sparing := complies_interp complies_sdDriver p
  have hdown : hasFlag s.flags sdioStaStbiterr = false := by
    by_contra hup
    have hbefore : StartError s := Bool.eq_true_of_not_eq_false hup
    exact hstart (signs_startError.lasts_runs (hcomplies g) hrun hbefore)
  rcases signs_startError.runs (hcomplies g) hrun with hend | hsteady
  · exact absurd hend hstart
  · obtain ⟨hruns, hready'⟩ := handles_sdDriver.runs ⟨hready, hdown⟩ hserved hsteady
    exact ⟨hruns, hready'.toCardReady⟩

end Middleware
end SdioFat32
