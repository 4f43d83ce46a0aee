import SdioFat32.Effects.Interp
import SdioFat32.Middleware.BlockDevice
import SdioFat32.Driver.Erase

/-!
# SdDevice — the block device on top of the SD driver

The calls of `sd_fat32.c` are interpreted by the functions of `SD.c`, so that a procedure of the
block device becomes one of the driver, with the pool beside the driver's variables.
-/

namespace SdioFat32
namespace Middleware

open Effects Allocator Proc
open Driver (SdGlobals SdProc SdioEvent)

/-- The functions of `SD.c` behind the calls; `fuel` bounds their polling loops. -/
def sdDriver (fuel : Nat) : (e : DeviceEvent) → SdProc e.Response
  | .readMultiBlockSd buffer countBlocks address timeout =>
      Driver.readMultiBlockSd fuel buffer countBlocks address timeout
  | .writeMultiBlockSd data countBlocks address timeout =>
      Driver.writeMultiBlockSd fuel data countBlocks address timeout
  | .eraseSd addressStart addressEnd => Driver.eraseSd fuel addressStart addressEnd
  | .memcpy dst src n => Driver.memcpy dst src n
  | .delayTimer ms => Driver.delayTimer ms

/-- A procedure of the block device on the peripheral. -/
def onDriver {α : Type} (fuel : Nat) (p : DeviceProc α) :
    Proc (Pool × SdGlobals) SdioEvent SdioEvent.Response α :=
  p.interp (sdDriver fuel)

/-! ## Rules for procedures on the driver -/

section Rules

variable {α β σ : Type} {env : Env SdioEvent SdioEvent.Response σ} {D : σ → Prop} {fuel : Nat}
  {g : Pool × SdGlobals} {s : σ}

theorem wp_onDriver_seq {p : DeviceProc α} {f : α → DeviceProc β}
    {P : α → Pool × SdGlobals → σ → Prop} {Q : β → Pool × SdGlobals → σ → Prop}
    (hp : (onDriver fuel p).wp env D P g s)
    (hf : ∀ a g' s', P a g' s' → (onDriver fuel (f a)).wp env D Q g' s') :
    (onDriver fuel (p >>= f)).wp env D Q g s :=
  wp_interp_seq hp hf

/-- A call is the function of `SD.c` behind it; the pool does not change. -/
theorem wp_onDriver_perform {e : DeviceEvent} {Q : e.Response → Pool × SdGlobals → σ → Prop} :
    (onDriver fuel (perform e)).wp env D Q g s ↔
      (sdDriver fuel e).wp env D (fun r g' s' => Q r (g.1, g') s') g.2 s :=
  wp_interp_perform

/-- A retry loop keeps what the operation and the pause keep. -/
theorem wp_onDriver_retry {op : DeviceProc Int} {pause : BitVec 32} {I : σ → Prop}
    (hop : ∀ {g s}, I s → (onDriver fuel op).wp env D (fun _ _ s' => I s') g s)
    (hpause : ∀ {g s}, I s → (Driver.delayTimer pause).wp env D (fun _ _ s' => I s') g s)
    (attempts : Nat) (status : Int) (h : I s) :
    (onDriver fuel (BlockDevice.retry op pause attempts status)).wp env D (fun _ _ s' => I s')
      g s := by
  induction attempts generalizing status g s with
  | zero => exact h
  | succ attempts ih =>
      unfold BlockDevice.retry
      refine wp_onDriver_seq (hop h) ?_
      intro status₁ g₁ s₁ h₁
      split
      · exact h₁
      · have hwait : (onDriver fuel (BlockDevice.delayTimer pause)).wp env D
            (fun _ _ s' => I s') g₁ s₁ := wp_onDriver_perform.2 (hpause h₁)
        refine wp_onDriver_seq hwait ?_
        intro _ g₂ s₂ h₂
        exact ih status₁ h₂

end Rules

end Middleware
end SdioFat32
