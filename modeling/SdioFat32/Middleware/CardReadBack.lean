import SdioFat32.Middleware.DriverStore

/-!
# CardReadBack — what `write_sd` puts on the card and `read_sd` gets from it

The two functions run on the functions of `SD.c`, against the storing card: commands, flags, FIFO
and the moments at which words pass through it are those of the peripheral.  The calls they make
are among those the driver serves, so their runs are runs over the block store unless a start bit
was missed, and the bytes that were stored come back.
-/

namespace SdioFat32
namespace Middleware

open Effects Allocator Cells Proc
open BlockDevice
open Driver (SdGlobals SdioEvent CardState StartError storingCard storing_of_steady willingCard
  willingCard_allowed blankGlobals hasFlag sdioStaStbiterr)

variable {byteAddressed : Bool} {fuel : Nat} {pl : Placement} {pool pool' : Pool}
  {g g' : Pool × SdGlobals} {s s' : CardState} {status : Int}
  {buffer data sectorCount startSector sectorSize : BitVec 32}

/-! ## The calls of `read_sd` and `write_sd` -/

theorem emits_retry {P : DeviceEvent → Prop} {op : DeviceProc Int} {pause : BitVec 32}
    (hop : op.Emits P False) (hpause : P (.delayTimer pause)) (attempts : Nat) (status : Int) :
    (retry op pause attempts status).Emits P False := by
  induction attempts generalizing status with
  | zero => exact emits_pure _
  | succ attempts ih =>
      refine hop.bind fun status' => ?_
      exact emits_ite (emits_pure _) ((emits_perform hpause).bind fun _ => ih status')

/-- The addresses and the lengths of the two parts of a transfer. -/
structure SmallParts (byteAddressed : Bool) (blockStart fullBlocks : BitVec 32) : Prop where
  count : fullBlocks.toNat ≤ 65535
  first : byteAddressed = true → blockStart.toNat < 2 ^ 23
  last : byteAddressed = true → (blockStart + fullBlocks).toNat < 2 ^ 23

theorem SectorRange.smallParts (h : SectorRange sectorCount startSector sectorSize)
    (hlength : sectorCount.toNat * sectorSize.toNat < 2 ^ 25) :
    SmallParts byteAddressed (startSector * sectorSize / blockSize)
      (sectorCount * sectorSize / blockSize) := by
  have hsplit := h.split
  have hparts := hsplit.parts
  have hfirst := hsplit.first
  have hblock := hsplit.block
  have hbelow := h.below
  rw [Nat.add_mul] at hbelow
  refine ⟨by omega, fun _ => by omega, fun _ => by omega⟩

theorem emits_readSd (hrange : SectorRange sectorCount startSector sectorSize)
    (hlength : sectorCount.toNat * sectorSize.toNat < 2 ^ 25) :
    (readSd pl buffer sectorCount startSector sectorSize).Emits
      (DeviceEvent.Served byteAddressed) False := by
  have hparts : SmallParts byteAddressed _ _ := hrange.smallParts hlength
  have hone : (1#32).toNat ≤ 65535 := by decide
  have hread : ∀ {p count first timeout : BitVec 32}, count.toNat ≤ 65535 →
      (byteAddressed = true → first.toNat < 2 ^ 23) →
      (readSafeSd p count first timeout).Emits (DeviceEvent.Served byteAddressed) False :=
    fun hcount hfirst => emits_retry (emits_perform ⟨hcount, hfirst⟩) trivial 5 0
  rw [readSd_eq]
  refine Emits.bind (emits_ite (hread hparts.count hparts.first) (emits_pure _)) fun status => ?_
  refine emits_ite (emits_pure _) (emits_ite ?_ (emits_pure _))
  -- The block of the rest.
  refine Emits.bind (fun _ => trivial) fun ptr => emits_ite (emits_pure _) ?_
  refine (hread hone hparts.last).bind fun status' => ?_
  refine emits_ite (Emits.bind (emits_assign _) fun _ => emits_pure _) ?_
  refine Emits.bind (emits_perform trivial) fun _ => ?_
  exact Emits.bind (emits_assign _) fun _ => emits_pure _

theorem emits_writeSd (hrange : SectorRange sectorCount startSector sectorSize)
    (hlength : sectorCount.toNat * sectorSize.toNat < 2 ^ 25) :
    (writeSd pl data sectorCount startSector sectorSize).Emits
      (DeviceEvent.Served byteAddressed) False := by
  have hparts : SmallParts byteAddressed _ _ := hrange.smallParts hlength
  have hone : (1#32).toNat ≤ 65535 := by decide
  have hwrite : ∀ {p count first timeout : BitVec 32}, count.toNat ≤ 65535 →
      (byteAddressed = true → first.toNat < 2 ^ 23) →
      (writeSafeSd p count first timeout).Emits (DeviceEvent.Served byteAddressed) False :=
    fun hcount hfirst => emits_retry (emits_perform ⟨hcount, hfirst⟩) trivial 3 0
  rw [writeSd_eq]
  refine Emits.bind (emits_ite (hwrite hparts.count hparts.first) (emits_pure _)) fun status => ?_
  refine emits_ite (emits_pure _) (emits_ite ?_ (emits_pure _))
  refine Emits.bind (fun _ => trivial) fun ptr => emits_ite (emits_pure _) ?_
  refine Emits.bind (emits_perform ⟨hone, hparts.last⟩) fun status' => ?_
  refine emits_ite (Emits.bind (emits_assign _) fun _ => emits_pure _) ?_
  refine Emits.bind (emits_perform trivial) fun _ => ?_
  refine (hwrite hone hparts.last).bind fun status'' => ?_
  refine Emits.bind (emits_assign _) fun _ => ?_
  exact emits_ite (emits_pure _) (emits_pure _)

/-! ## Runs over the driver -/

theorem wp_servedStore {α : Type} {p : DeviceProc α} {D : StoreState → Prop}
    {Q : α → Pool → StoreState → Prop} {s : StoreState}
    (hp : p.Emits (DeviceEvent.Served byteAddressed) False) (h : p.wp blockStore D Q pool s) :
    p.wp (servedStore byteAddressed) D Q pool s := by
  have hshown : Shown blockStore (servedStore byteAddressed) (fun s => s)
      (DeviceEvent.Served byteAddressed) fun _ => True :=
    ⟨fun _ _ _ hserved hreq => ⟨hserved, hreq⟩, fun _ _ _ _ _ _ hstep => ⟨hstep, trivial⟩⟩
  exact wp_mono (wp_view hshown (fun _ _ hcut => hcut) hp trivial h) fun _ _ _ h => h.1

/-- What was shown over the block store holds for runs over the driver, if it serves the calls. -/
theorem ends_over_driver {α : Type} {p : DeviceProc α} {Q : α → Pool → StoreState → Prop} {a : α}
    (hready : CardReady byteAddressed g.2 s)
    (hp : p.Emits (DeviceEvent.Served byteAddressed) False)
    (h : p.wp blockStore (fun _ => True) Q g.1 (storeView s))
    (hrun : Runs (storingCard byteAddressed) (onDriver fuel p g) s (a, g') s')
    (hstart : ¬StartError s') :
    Q a g'.1 (storeView s') ∧ CardReady byteAddressed g'.2 s' := by
  have hserved := wp_servedStore hp h
  obtain ⟨hruns, hready'⟩ := runs_servedStore hready hserved hrun hstart
  have hpost := wp_runs hserved hruns
  exact ⟨hpost, hready'⟩

/-- A card at rest, memory that holds its addresses. -/
def restingCard : CardState where
  mem x := x.setWidth 8
  dlen := 0#32
  enabled := false
  arrived := 0
  queue := []
  flags := 0#32
  card := fun _ => 0#8
  arg := 0#32
  transfer := none
  receiving := false
  pushed := []
  consumed := 0
  stored := 0

theorem restingCard_ready : CardReady false blankGlobals restingCard where
  atRest := ⟨fun henabled => absurd henabled Bool.false_ne_true, by decide⟩
  addressed := ⟨fun hsdsc => absurd hsdsc (by decide), fun htrue => absurd htrue Bool.false_ne_true⟩

/-- The sector on its way to the card, and back into another buffer, with a pool of its own. -/
def writeSector : Pool × SdGlobals → Prog SdioEvent SdioEvent.Response (Int × Pool × SdGlobals) :=
  onDriver 200 (writeSd sramPlacement 0x20001000#32 1#32 0#32 600#32)

def readSector : Pool × SdGlobals → Prog SdioEvent SdioEvent.Response (Int × Pool × SdGlobals) :=
  onDriver 200 (readSd sramPlacement 0x20002000#32 1#32 0#32 600#32)

set_option maxRecDepth 10000 in
/-- A willing card takes the sector and gives it back, without a start bit error. -/
theorem willing_writes_and_reads :
    ∃ g' s' g₂ s₂,
      Runs (storingCard false) (writeSector (PoolState.start.pool, blankGlobals)) restingCard
        (0, g') s' ∧ ¬StartError s' ∧
      Runs (storingCard false) (readSector (PoolState.start.pool, g'.2)) s' (0, g₂) s₂ ∧
        ¬StartError s₂ := by
  have hexec : (((writeSector (PoolState.start.pool, blankGlobals)).exec (willingCard false)
      restingCard).bind fun x =>
        ((readSector (PoolState.start.pool, x.1.2.2)).exec (willingCard false) x.2).map fun y =>
          ((x.1.1, hasFlag x.2.flags sdioStaStbiterr),
            (y.1.1, hasFlag y.2.flags sdioStaStbiterr))) =
      some ((0, false), (0, false)) := by
    decide +kernel
  rcases Option.bind_eq_some_iff.1 hexec with ⟨⟨⟨status, g'⟩, s'⟩, hwrite, hrest⟩
  rcases Option.map_eq_some_iff.1 hrest with ⟨⟨⟨status₂, g₂⟩, s₂⟩, hread, hend⟩
  simp only [Prod.mk.injEq] at hend
  obtain ⟨⟨rfl, hdown⟩, rfl, hdown₂⟩ := hend
  have hallowed : ∀ s e, (storingCard false).step s e (willingCard false s e).1
      (willingCard false s e).2 := fun s e => storing_of_steady (willingCard_allowed s e)
  refine ⟨g', s', g₂, s₂, Prog.exec_runs hallowed hwrite, ?_, Prog.exec_runs hallowed hread, ?_⟩
  · simp [StartError, hdown]
  · simp [StartError, hdown₂]

/-- Take any procedure of the middleware whose calls the driver can serve.  Each of its runs over
the functions of `SD.c`, whatever the card and the peripheral do, is a run over the block store if
`STBITERR` is down at its end; nothing of it is left between the card and the peripheral then. -/
theorem driver_runs_store {α : Type} {p : DeviceProc α} {D : StoreState → Prop}
    {Q : α → Pool → StoreState → Prop} {g g' : Pool × SdGlobals} {a : α}
    (hready : CardReady byteAddressed g.2 s)
    (hserved : p.wp (servedStore byteAddressed) D Q g.1 (storeView s))
    (hrun : Runs (storingCard byteAddressed) (onDriver fuel p g) s (a, g') s')
    (hstart : ¬StartError s') :
    Runs blockStore (p g.1) (storeView s) (a, g'.1) (storeView s') ∧
      CardReady byteAddressed g'.2 s' := by
  have hwider : ∀ s₁ e r s₂, (servedStore byteAddressed).step s₁ e r s₂ →
      blockStore.step s₁ e r s₂ := fun _ _ _ _ hstep => hstep
  obtain ⟨hruns, hready'⟩ := runs_servedStore hready hserved hrun hstart
  exact ⟨Runs.widen hwider hruns, hready'⟩

/-- The sector on its way to a willing card. -/
theorem driver_runs_store_one_sector :
    ∃ g' s', Runs blockStore
      (writeSd sramPlacement 0x20001000#32 1#32 0#32 600#32 PoolState.start.pool)
      (storeView restingCard) (0, g') (storeView s') := by
  obtain ⟨g', s', _, _, hrun, hstart, _⟩ := willing_writes_and_reads
  have hpool : PoolReady sramPlacement PoolState.start.pool 0x20001000#32 600 :=
    poolReady_behind (by decide) (by decide)
  have hwrite : (writeSd sramPlacement 0x20001000#32 1#32 0#32 600#32).wp blockStore
      (fun _ => True) _ PoolState.start.pool (storeView restingCard) :=
    wp_writeSd_store sectorRange_one hpool
  have hcalls : (writeSd sramPlacement 0x20001000#32 1#32 0#32 600#32).Emits
      (DeviceEvent.Served false) False := emits_writeSd sectorRange_one (by decide)
  have hserved := wp_servedStore hcalls hwrite
  exact ⟨g'.1, s', (driver_runs_store restingCard_ready hserved hrun hstart).1⟩

/-! ## Write and read -/

/-- `write_sd` and then `read_sd`, each on the driver and against the card, without a start bit
error.  Whatever the first one returns, the card keeps every byte outside the sectors; it holds
`data` if that is 0.  If the card still holds these bytes, a `read_sd` that returns 0 fills its
buffer with them, and whatever it returns, no other memory changes but free bytes of the pool.  Both
leave the card ready for the next call. -/
theorem card_read_back (hready : CardReady byteAddressed g.2 s)
    (hrange : SectorRange sectorCount startSector sectorSize)
    (hlength : sectorCount.toNat * sectorSize.toNat < 2 ^ 25)
    (hpool : PoolReady pl g.1 data (sectorCount.toNat * sectorSize.toNat))
    (hrun : Runs (storingCard byteAddressed)
      (onDriver fuel (writeSd pl data sectorCount startSector sectorSize) g) s (status, g') s')
    (hstart : ¬StartError s') :
    CardReady byteAddressed g'.2 s' ∧
      (∀ a, ¬(startSector.toNat * sectorSize.toNat ≤ a ∧
        a < startSector.toNat * sectorSize.toNat + sectorCount.toNat * sectorSize.toNat) →
        s'.card a = s.card a) ∧
      (status = 0 → ∀ i, i < sectorCount.toNat * sectorSize.toNat →
        s'.card (startSector.toNat * sectorSize.toNat + i) = s.mem (nth data i)) ∧
      ∀ fuel₁ buffer g₁ s₁ status₂ g₂ s₂, s₁.card = s'.card → CardReady byteAddressed g₁.2 s₁ →
        PoolReady pl g₁.1 buffer (sectorCount.toNat * sectorSize.toNat) →
        Runs (storingCard byteAddressed)
          (onDriver fuel₁ (readSd pl buffer sectorCount startSector sectorSize) g₁) s₁
          (status₂, g₂) s₂ →
        ¬StartError s₂ →
        CardReady byteAddressed g₂.2 s₂ ∧ s₂.card = s₁.card ∧
          (status = 0 → status₂ = 0 → ∀ i, i < sectorCount.toNat * sectorSize.toNat →
            s₂.mem (nth buffer i) = s.mem (nth data i)) ∧
          ∀ x, ¬InRegion buffer (sectorCount.toNat * sectorSize.toNat) x →
            ¬FreeByte pl g₁.1 x → s₂.mem x = s₁.mem x := by
  obtain ⟨hstored, hready'⟩ := ends_over_driver hready (emits_writeSd hrange hlength)
    (wp_writeSd_store hrange hpool) hrun hstart
  refine ⟨hready', hstored.outside, hstored.whole, ?_⟩
  intro fuel₁ buffer g₁ s₁ status₂ g₂ s₂ hcard hready₁ hpool₁ hrun₁ hstart₁
  obtain ⟨hfetched, hready₂⟩ := ends_over_driver hready₁ (emits_readSd hrange hlength)
    (wp_readSd_store hrange hpool₁) hrun₁ hstart₁
  have hsame : s₂.card = s₁.card := hfetched.card
  refine ⟨hready₂, hsame, ?_, hfetched.outside⟩
  intro hzero hzero₂ i hi
  have hbytes : s₂.mem (nth buffer i) = s₁.card (startSector.toNat * sectorSize.toNat + i) :=
    hfetched.whole hzero₂ i hi
  rw [hbytes, hcard]
  exact hstored.whole hzero i hi

/-- The bytes of the sector arrive on the card, no others change, and they come back. -/
theorem card_read_back_one_sector :
    ∃ g' s' g₂ s₂, Runs (storingCard false) (writeSector (PoolState.start.pool, blankGlobals))
        restingCard (0, g') s' ∧
      (∀ a, ¬(0 * 600 ≤ a ∧ a < 0 * 600 + 1 * 600) → s'.card a = 0#8) ∧
      (∀ i, i < 1 * 600 → s'.card (0 * 600 + i) = (nth 0x20001000#32 i).setWidth 8) ∧
      Runs (storingCard false) (readSector (PoolState.start.pool, g'.2)) s' (0, g₂) s₂ ∧
      ∀ i, i < 1 * 600 → s₂.mem (nth 0x20002000#32 i) = (nth 0x20001000#32 i).setWidth 8 := by
  obtain ⟨g', s', g₂, s₂, hwrite, hstart, hread, hstart₂⟩ := willing_writes_and_reads
  obtain ⟨hready, houtside, hwhole, hback⟩ := card_read_back restingCard_ready sectorRange_one
    (by decide) (poolReady_behind (by decide) (by decide)) hwrite hstart
  obtain ⟨_, _, hsame, _⟩ := hback 200 0x20002000#32 (PoolState.start.pool, g'.2) s' 0 g₂ s₂ rfl
    hready (poolReady_behind (by decide) (by decide)) hread hstart₂
  exact ⟨g', s', g₂, s₂, hwrite, houtside, hwhole rfl, hread, hsame rfl rfl⟩

end Middleware
end SdioFat32
