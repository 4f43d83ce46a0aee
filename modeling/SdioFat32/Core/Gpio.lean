import Mathlib.Logic.Function.Basic
import SdioFat32.Cells.BitField
import SdioFat32.Effects.Wp

/-!
# Gpio — the pins of `drivers/core/gpio.c`

A function of the driver reads a register of a port, changes the field of one pin and writes it
back, register after register.  `BSRR` is written only: its lower half sets bits of `ODR`, its
upper half clears them.

* `gpioPorts` — the ports as registers;
* `PinState` — a pin, which is a field of each of them;
* `pins_of_runs` — after any calls every pin is as the last calls about it have left it.
-/

namespace SdioFat32
namespace Core

open Effects Cells Proc

/-! ## `gpio.h` -/

inductive GpioPort where
  | gpioa
  | gpiob
  | gpioc
  | gpiod
  | gpioe
  | gpiof
  | gpiog
  | gpioh
  | gpioi
  | gpioj
  | gpiok
  deriving DecidableEq, Repr

inductive GpioReg where
  | moder
  | otyper
  | speedr
  | pupdr
  | bsrr
  | afrl
  | afrh
  deriving DecidableEq, Repr

inductive GpioModeSpeed where
  | speed2MHz
  | speed25MHz
  | speed50MHz
  | speed100MHz
  deriving DecidableEq

def GpioModeSpeed.code : GpioModeSpeed → BitVec 32
  | .speed2MHz => 0#32
  | .speed25MHz => 1#32
  | .speed50MHz => 2#32
  | .speed100MHz => 3#32

inductive GpioPullMode where
  | none
  | up
  | down
  deriving DecidableEq

def GpioPullMode.code : GpioPullMode → BitVec 32
  | .none => 0#32
  | .up => 1#32
  | .down => 2#32

inductive GpioOutputType where
  | pushpull
  | opendrain
  deriving DecidableEq

def GpioOutputType.code : GpioOutputType → BitVec 32
  | .pushpull => 0#32
  | .opendrain => 1#32

inductive GpioModerMode where
  | input
  | output
  | alternate
  | analog
  deriving DecidableEq

def GpioModerMode.code : GpioModerMode → BitVec 32
  | .input => 0#32
  | .output => 1#32
  | .alternate => 2#32
  | .analog => 3#32

/-- `gpiox` may be `NULL`. -/
structure GpioPinConfig where
  gpiox : Option GpioPort
  pin : BitVec 16
  mode : GpioModerMode
  speed : GpioModeSpeed
  pull : GpioPullMode
  output : GpioOutputType
  /-- `GPIO_AF0` to `GPIO_AF15`. -/
  af : BitVec 4
  deriving DecidableEq

inductive GpioEvent where
  | read (gpiox : GpioPort) (r : GpioReg)
  | write (gpiox : GpioPort) (r : GpioReg) (v : BitVec 32)
  deriving DecidableEq

def GpioEvent.Response : GpioEvent → Type
  | .read _ _ => BitVec 32
  | .write _ _ _ => Unit

abbrev GpioProc (α : Type) : Type := Proc Unit GpioEvent GpioEvent.Response α

/-! ## `gpio.c` -/

def readGpio (gpiox : GpioPort) (r : GpioReg) : GpioProc (BitVec 32) :=
  perform (GpioEvent.read gpiox r)

def writeGpio (gpiox : GpioPort) (r : GpioReg) (v : BitVec 32) : GpioProc Unit :=
  perform (GpioEvent.write gpiox r v)

/-- `gpiox->reg &= ~mask` -/
def clearGpio (gpiox : GpioPort) (r : GpioReg) (mask : BitVec 32) : GpioProc Unit := do
  let v ← readGpio gpiox r
  writeGpio gpiox r (v &&& ~~~mask)

/-- `gpiox->reg |= mask` -/
def setGpio (gpiox : GpioPort) (r : GpioReg) (mask : BitVec 32) : GpioProc Unit := do
  let v ← readGpio gpiox r
  writeGpio gpiox r (v ||| mask)

def gpioMaskMode (pin : BitVec 16) : BitVec 32 := 0b11#32 <<< (pin.toNat * 2)
def gpioMaskOtyper (pin : BitVec 16) : BitVec 32 := 0x1#32 <<< pin.toNat
def gpioMaskSpeed (pin : BitVec 16) : BitVec 32 := 0b11#32 <<< (pin.toNat * 2)
def gpioMaskPupdr (pin : BitVec 16) : BitVec 32 := 0b11#32 <<< (pin.toNat * 2)

def resetGpioPort (gpiox : GpioPort) (pin : BitVec 16) : GpioProc Unit := do
  clearGpio gpiox .moder (gpioMaskMode pin)
  clearGpio gpiox .otyper (gpioMaskOtyper pin)
  clearGpio gpiox .speedr (gpioMaskSpeed pin)
  clearGpio gpiox .pupdr (gpioMaskPupdr pin)
  if 7 < pin.toNat then clearGpio gpiox .afrh (0xF#32 <<< (4 * (pin.toNat % 8)))
  else clearGpio gpiox .afrl (0xF#32 <<< (pin.toNat * 4))

def setGpioConf (config : Option GpioPinConfig) : GpioProc Unit :=
  match config with
  | none => return ()
  | some config =>
      match config.gpiox with
      | none => return ()
      | some gpiox => do
          let pin := config.pin
          resetGpioPort gpiox pin
          setGpio gpiox .moder (config.mode.code <<< (pin.toNat * 2))
          setGpio gpiox .otyper (config.output.code <<< pin.toNat)
          setGpio gpiox .speedr (config.speed.code <<< (pin.toNat * 2))
          setGpio gpiox .pupdr (config.pull.code <<< (pin.toNat * 2))
          let af := config.af.setWidth 32 <<< (pin.toNat % 8 * 4)
          if 7 < pin.toNat then setGpio gpiox .afrh af else setGpio gpiox .afrl af

def setPinGpio (gpiox : GpioPort) (pin : BitVec 16) : GpioProc Unit :=
  writeGpio gpiox .bsrr (0x1#32 <<< pin.toNat)

def resetPinGpio (gpiox : GpioPort) (pin : BitVec 16) : GpioProc Unit :=
  writeGpio gpiox .bsrr (0x1#32 <<< (16 + pin.toNat))

/-! ## The ports -/

structure GpioRegs where
  moder : BitVec 32
  otyper : BitVec 32
  speedr : BitVec 32
  pupdr : BitVec 32
  odr : BitVec 32
  afrl : BitVec 32
  afrh : BitVec 32

/-- A register as it reads; `BSRR` reads as zero. -/
def GpioRegs.get (p : GpioRegs) : GpioReg → BitVec 32
  | .moder => p.moder
  | .otyper => p.otyper
  | .speedr => p.speedr
  | .pupdr => p.pupdr
  | .bsrr => 0#32
  | .afrl => p.afrl
  | .afrh => p.afrh

/-- Where a bit is to be both set and cleared, it is set. -/
def GpioRegs.put (p : GpioRegs) (r : GpioReg) (v : BitVec 32) : GpioRegs :=
  match r with
  | .moder => { p with moder := v }
  | .otyper => { p with otyper := v }
  | .speedr => { p with speedr := v }
  | .pupdr => { p with pupdr := v }
  | .bsrr => { p with odr := p.odr &&& ~~~(v >>> 16) ||| v &&& 0xFFFF#32 }
  | .afrl => { p with afrl := v }
  | .afrh => { p with afrh := v }

abbrev GpioPorts : Type := GpioPort → GpioRegs

def gpioPorts : Env GpioEvent GpioEvent.Response GpioPorts where
  step s e r s' :=
    match e, r with
    | .read gpiox reg, (v : BitVec 32) => v = (s gpiox).get reg ∧ s' = s
    | .write gpiox reg v, _ => s' = Function.update s gpiox ((s gpiox).put reg v)

/-! ## Pins -/

/-- A pin, as its fields in the registers say. -/
structure PinState where
  mode : BitVec 32
  output : BitVec 32
  speed : BitVec 32
  pull : BitVec 32
  af : BitVec 32
  /-- The level of an output. -/
  level : BitVec 32
  deriving DecidableEq

def GpioRegs.pin (p : GpioRegs) (i : Nat) : PinState where
  mode := field p.moder (i * 2) 2
  output := field p.otyper i 1
  speed := field p.speedr (i * 2) 2
  pull := field p.pupdr (i * 2) 2
  af := field (if 7 < i then p.afrh else p.afrl) (i % 8 * 4) 4
  level := field p.odr i 1

def GpioPinConfig.state (config : GpioPinConfig) (level : BitVec 32) : PinState where
  mode := config.mode.code
  output := config.output.code
  speed := config.speed.code
  pull := config.pull.code
  af := config.af.setWidth 32
  level := level

/-- A pin as `reset_gpio_port` leaves it. -/
def PinState.floating (p : PinState) : PinState := ⟨0#32, 0#32, 0#32, 0#32, 0#32, p.level⟩

/-- The fields of a pin fit, and its level is a bit. -/
structure PinState.Fits (p : PinState) : Prop where
  mode : p.mode.toNat < 2 ^ 2
  output : p.output.toNat < 2 ^ 1
  speed : p.speed.toNat < 2 ^ 2
  pull : p.pull.toNat < 2 ^ 2
  af : p.af.toNat < 2 ^ 4

/-- The fields of pin `i` become those of `q`, its level aside. -/
def GpioRegs.putPin (p : GpioRegs) (i : Nat) (q : PinState) : GpioRegs where
  moder := putField p.moder (i * 2) 2 q.mode
  otyper := putField p.otyper i 1 q.output
  speedr := putField p.speedr (i * 2) 2 q.speed
  pupdr := putField p.pupdr (i * 2) 2 q.pull
  odr := p.odr
  afrl := if 7 < i then p.afrl else putField p.afrl (i % 8 * 4) 4 q.af
  afrh := if 7 < i then putField p.afrh (i % 8 * 4) 4 q.af else p.afrh

/-- The fields of pin `i` are cleared. -/
def GpioRegs.clearPin (p : GpioRegs) (i : Nat) : GpioRegs where
  moder := p.moder &&& ~~~fieldMask 32 (i * 2) 2
  otyper := p.otyper &&& ~~~fieldMask 32 i 1
  speedr := p.speedr &&& ~~~fieldMask 32 (i * 2) 2
  pupdr := p.pupdr &&& ~~~fieldMask 32 (i * 2) 2
  odr := p.odr
  afrl := if 7 < i then p.afrl else p.afrl &&& ~~~fieldMask 32 (i % 8 * 4) 4
  afrh := if 7 < i then p.afrh &&& ~~~fieldMask 32 (i % 8 * 4) 4 else p.afrh

theorem GpioModerMode.code_lt (mode : GpioModerMode) : mode.code.toNat < 2 ^ 2 := by
  cases mode <;> decide

theorem GpioOutputType.code_lt (output : GpioOutputType) : output.code.toNat < 2 ^ 1 := by
  cases output <;> decide

theorem GpioModeSpeed.code_lt (speed : GpioModeSpeed) : speed.code.toNat < 2 ^ 2 := by
  cases speed <;> decide

theorem GpioPullMode.code_lt (pull : GpioPullMode) : pull.code.toNat < 2 ^ 2 := by
  cases pull <;> decide

theorem GpioPinConfig.fits (config : GpioPinConfig) (level : BitVec 32) :
    (config.state level).Fits := by
  refine ⟨config.mode.code_lt, config.output.code_lt, config.speed.code_lt, config.pull.code_lt, ?_⟩
  have haf := config.af.isLt
  unfold GpioPinConfig.state
  rw [BitVec.toNat_setWidth, Nat.mod_eq_of_lt (by omega)]
  exact haf

theorem PinState.floating_fits (q : PinState) : q.floating.Fits :=
  ⟨Nat.two_pow_pos 2, Nat.two_pow_pos 1, Nat.two_pow_pos 2, Nat.two_pow_pos 2, Nat.two_pow_pos 4⟩

section Registers

variable {p : GpioRegs} {q : PinState} {i k : Nat}

theorem GpioRegs.pin_putPin (hq : q.Fits) (hi : i < 16) :
    (p.putPin i q).pin i = { q with level := (p.pin i).level } := by
  have haf : field (if 7 < i then (p.putPin i q).afrh else (p.putPin i q).afrl) (i % 8 * 4) 4 =
      q.af := by
    unfold GpioRegs.putPin
    split
    · exact field_putField hq.af (by omega)
    · exact field_putField hq.af (by omega)
  unfold GpioRegs.pin
  rw [haf]
  unfold GpioRegs.putPin
  rw [field_putField hq.mode (by omega), field_putField hq.output (by omega),
    field_putField hq.speed (by omega), field_putField hq.pull (by omega)]

/-- The other pins keep their fields. -/
theorem GpioRegs.pin_putPin_ne (hq : q.Fits) (hi : i < 16) (hk : k < 16) (hne : i ≠ k) :
    (p.putPin k q).pin i = p.pin i := by
  have haf : field (if 7 < i then (p.putPin k q).afrh else (p.putPin k q).afrl) (i % 8 * 4) 4 =
      field (if 7 < i then p.afrh else p.afrl) (i % 8 * 4) 4 := by
    unfold GpioRegs.putPin
    by_cases hhigh : 7 < i
    · by_cases hhigh' : 7 < k
      · simp only [if_pos hhigh, if_pos hhigh']
        exact field_putField_apart hq.af (by omega)
      · simp only [if_pos hhigh, if_neg hhigh']
    · by_cases hhigh' : 7 < k
      · simp only [if_neg hhigh, if_pos hhigh']
      · simp only [if_neg hhigh, if_neg hhigh']
        exact field_putField_apart hq.af (by omega)
  unfold GpioRegs.pin
  rw [haf]
  unfold GpioRegs.putPin
  rw [field_putField_apart hq.mode (by omega), field_putField_apart hq.output (by omega),
    field_putField_apart hq.speed (by omega), field_putField_apart hq.pull (by omega)]

theorem GpioRegs.clearPin_eq : p.clearPin i = p.putPin i (p.pin i).floating := by
  simp [clearPin, putPin, putField, PinState.floating]

/-- The half of `BSRR` that a pin is in. -/
theorem bsrr_halves : ∀ i : Nat, i < 16 →
    (1#32 <<< i) >>> 16 = 0#32 ∧ 1#32 <<< i &&& 0xFFFF#32 = 1#32 <<< i ∧
      (1#32 <<< (16 + i)) >>> 16 = fieldMask 32 i 1 ∧ 1#32 <<< (16 + i) &&& 0xFFFF#32 = 0#32 := by
  decide

theorem or_one_of_bit {x : BitVec 32} (hx : x.toNat < 2 ^ 1) : x ||| 1#32 = 1#32 := by
  have hcases : x = 0#32 ∨ x = 1#32 := by
    rcases Nat.lt_succ_iff_lt_or_eq.1 hx with hzero | hone
    · exact Or.inl (BitVec.eq_of_toNat_eq (Nat.lt_one_iff.1 hzero))
    · exact Or.inr (BitVec.eq_of_toNat_eq hone)
  rcases hcases with rfl | rfl
  · rfl
  · rfl

theorem GpioRegs.pin_bs (hi : i < 16) (hk : k < 16) :
    (p.put .bsrr (0x1#32 <<< k)).pin i =
      if i = k then { p.pin i with level := 1#32 } else p.pin i := by
  obtain ⟨hclear, hset, -, -⟩ := bsrr_halves k hk
  have hlevel : field (p.odr &&& ~~~((0x1#32 <<< k) >>> 16) ||| 0x1#32 <<< k &&& 0xFFFF#32) i 1 =
      if i = k then 1#32 else field p.odr i 1 := by
    rw [hclear, hset, BitVec.not_zero, BitVec.and_allOnes, field_or]
    split
    · rename_i heq
      subst heq
      rw [field_shiftLeft_self (by decide) (by omega)]
      exact or_one_of_bit (field_lt _ _ _)
    · rename_i hne
      rcases Nat.lt_or_gt_of_ne hne with hlt | hgt
      · rw [field_shiftLeft_above (by omega), BitVec.or_zero]
      · rw [field_shiftLeft_below (by decide : (0x1#32).toNat < 2 ^ 1) (by omega), BitVec.or_zero]
  unfold GpioRegs.pin GpioRegs.put
  dsimp only
  rw [hlevel]
  by_cases heq : i = k
  · simp only [if_pos heq]
  · simp only [if_neg heq]

theorem GpioRegs.pin_br (hk : k < 16) :
    (p.put .bsrr (0x1#32 <<< (16 + k))).pin i =
      if i = k then { p.pin i with level := 0#32 } else p.pin i := by
  obtain ⟨-, -, hclear, hset⟩ := bsrr_halves k hk
  have hlevel : field (p.odr &&& ~~~((0x1#32 <<< (16 + k)) >>> 16) |||
      0x1#32 <<< (16 + k) &&& 0xFFFF#32) i 1 = if i = k then 0#32 else field p.odr i 1 := by
    rw [hclear, hset, BitVec.or_zero]
    split
    · rename_i heq
      subst heq
      exact field_clear BitVec.and_self
    · exact field_clear_apart (fieldMask_apart (by omega))
  unfold GpioRegs.pin GpioRegs.put
  dsimp only
  rw [hlevel]
  by_cases heq : i = k
  · simp only [if_pos heq]
  · simp only [if_neg heq]

end Registers

/-! ## What the functions do -/

section Functions

variable {D : GpioPorts → Prop} {g : Unit} {s : GpioPorts} {gpiox : GpioPort} {r : GpioReg}
  {mask v : BitVec 32} {pin : BitVec 16} {Q : Unit → Unit → GpioPorts → Prop}

theorem wp_writeGpio :
    (writeGpio gpiox r v).wp gpioPorts D Q g s ↔
      Q () g (Function.update s gpiox ((s gpiox).put r v)) :=
  wp_perform_answered trivial fun _ _ => ⟨fun hstep => ⟨rfl, hstep⟩, fun h => h.2⟩

theorem wp_clearGpio :
    (clearGpio gpiox r mask).wp gpioPorts D Q g s ↔
      Q () g (Function.update s gpiox ((s gpiox).put r ((s gpiox).get r &&& ~~~mask))) := by
  have hread : ∀ {Q : BitVec 32 → Unit → GpioPorts → Prop},
      (readGpio gpiox r).wp gpioPorts D Q g s ↔ Q ((s gpiox).get r) g s :=
    wp_perform_answered trivial fun _ _ => Iff.rfl
  rw [clearGpio, wp_bind, hread, wp_writeGpio]

theorem wp_setGpio :
    (setGpio gpiox r mask).wp gpioPorts D Q g s ↔
      Q () g (Function.update s gpiox ((s gpiox).put r ((s gpiox).get r ||| mask))) := by
  have hread : ∀ {Q : BitVec 32 → Unit → GpioPorts → Prop},
      (readGpio gpiox r).wp gpioPorts D Q g s ↔ Q ((s gpiox).get r) g s :=
    wp_perform_answered trivial fun _ _ => Iff.rfl
  rw [setGpio, wp_bind, hread, wp_writeGpio]

theorem wp_resetGpioPort (hpin : pin.toNat < 16) :
    (resetGpioPort gpiox pin).wp gpioPorts D Q g s ↔
      Q () g (Function.update s gpiox ((s gpiox).clearPin pin.toNat)) := by
  unfold resetGpioPort
  simp only [wp_bind, wp_clearGpio, Function.update_self, Function.update_idem]
  unfold GpioRegs.clearPin
  by_cases hhigh : 7 < pin.toNat
  · simp only [if_pos hhigh, wp_clearGpio, Function.update_self, Function.update_idem,
      Nat.mul_comm 4]
    rfl
  · simp only [if_neg hhigh, wp_clearGpio, Function.update_self, Function.update_idem,
      Nat.mod_eq_of_lt (by omega : pin.toNat < 8)]
    rfl

theorem wp_setGpioConf {config : GpioPinConfig} (hport : config.gpiox = some gpiox)
    (hpin : config.pin.toNat < 16) :
    (setGpioConf (some config)).wp gpioPorts D Q g s ↔
      Q () g (Function.update s gpiox
        ((s gpiox).putPin config.pin.toNat (config.state 0#32))) := by
  unfold setGpioConf
  simp only [hport, wp_bind, wp_resetGpioPort hpin, wp_setGpio, Function.update_self,
    Function.update_idem]
  unfold GpioRegs.putPin GpioRegs.clearPin
  by_cases hhigh : 7 < config.pin.toNat
  · simp only [if_pos hhigh, wp_setGpio, Function.update_self, Function.update_idem]
    rfl
  · simp only [if_neg hhigh, wp_setGpio, Function.update_self, Function.update_idem]
    rfl

end Functions

/-! ## Runs of calls -/

/-- A call of one of the functions. -/
inductive GpioCall where
  | setGpioConf (config : Option GpioPinConfig)
  | resetGpioPort (gpiox : GpioPort) (pin : BitVec 16)
  | setPinGpio (gpiox : GpioPort) (pin : BitVec 16)
  | resetPinGpio (gpiox : GpioPort) (pin : BitVec 16)

def GpioCall.run : GpioCall → GpioProc Unit
  | .setGpioConf config => Core.setGpioConf config
  | .resetGpioPort gpiox pin => Core.resetGpioPort gpiox pin
  | .setPinGpio gpiox pin => Core.setPinGpio gpiox pin
  | .resetPinGpio gpiox pin => Core.resetPinGpio gpiox pin

/-- A port has 16 pins. -/
def GpioCall.Valid : GpioCall → Prop
  | .setGpioConf config => ∀ c ∈ config, c.pin.toNat < 16
  | .resetGpioPort _ pin => pin.toNat < 16
  | .setPinGpio _ pin => pin.toNat < 16
  | .resetPinGpio _ pin => pin.toNat < 16

abbrev Pins : Type := GpioPort → Nat → PinState

/-- One pin changes. -/
def Pins.put (ps : Pins) (gpiox : GpioPort) (i : Nat) (q : PinState) : Pins :=
  Function.update ps gpiox (Function.update (ps gpiox) i q)

/-- What a call is for. -/
def GpioCall.effect (ps : Pins) : GpioCall → Pins
  | .setGpioConf none => ps
  | .setGpioConf (some config) =>
      match config.gpiox with
      | none => ps
      | some gpiox =>
          ps.put gpiox config.pin.toNat (config.state (ps gpiox config.pin.toNat).level)
  | .resetGpioPort gpiox pin => ps.put gpiox pin.toNat (ps gpiox pin.toNat).floating
  | .setPinGpio gpiox pin => ps.put gpiox pin.toNat { ps gpiox pin.toNat with level := 1#32 }
  | .resetPinGpio gpiox pin => ps.put gpiox pin.toNat { ps gpiox pin.toNat with level := 0#32 }

def gpioCalls : List GpioCall → GpioProc Unit
  | [] => return ()
  | call :: calls => do
      call.run
      gpioCalls calls

/-- The pins of the ports. -/
def PinsAre (s : GpioPorts) (ps : Pins) : Prop := ∀ gpiox i, i < 16 → (s gpiox).pin i = ps gpiox i

section Calls

variable {D : GpioPorts → Prop} {g : Unit} {s s' : GpioPorts} {ps : Pins} {gpiox : GpioPort}
  {k : Nat} {q : PinState} {p : GpioRegs}

theorem PinsAre.put (h : PinsAre s ps)
    (hp : ∀ i < 16, p.pin i = if i = k then q else (s gpiox).pin i) :
    PinsAre (Function.update s gpiox p) (ps.put gpiox k q) := by
  intro gpiox' i hi
  unfold Pins.put
  by_cases hport : gpiox' = gpiox
  · subst hport
    rw [Function.update_self, Function.update_self, hp i hi]
    by_cases hik : i = k
    · subst hik
      rw [if_pos rfl, Function.update_self]
    · rw [if_neg hik, Function.update_of_ne hik]
      exact h gpiox' i hi
  · rw [Function.update_of_ne hport, Function.update_of_ne hport]
    exact h gpiox' i hi

theorem wp_gpioCall {call : GpioCall} (hvalid : call.Valid) (h : PinsAre s ps) :
    call.run.wp gpioPorts D (fun _ _ s' => PinsAre s' (call.effect ps)) g s := by
  cases call with
  | setGpioConf config =>
      rcases config with _ | config
      · exact h
      have hpin : config.pin.toNat < 16 := hvalid config rfl
      cases hport : config.gpiox with
      | none =>
          unfold GpioCall.run setGpioConf GpioCall.effect
          simp only [hport]
          exact h
      | some gpiox =>
          unfold GpioCall.effect
          simp only [hport]
          refine (wp_setGpioConf hport hpin).2 (h.put fun i hi => ?_)
          split
          · rename_i heq
            subst heq
            rw [GpioRegs.pin_putPin (config.fits _) hi, h gpiox _ hi]
            rfl
          · rename_i hne
            exact GpioRegs.pin_putPin_ne (config.fits _) hi hpin hne
  | resetGpioPort gpiox pin =>
      refine (wp_resetGpioPort hvalid).2 (h.put fun i hi => ?_)
      rw [GpioRegs.clearPin_eq]
      split
      · rename_i heq
        subst heq
        rw [GpioRegs.pin_putPin (PinState.floating_fits _) hi, h gpiox _ hi]
        rfl
      · rename_i hne
        exact GpioRegs.pin_putPin_ne (PinState.floating_fits _) hi hvalid hne
  | setPinGpio gpiox pin =>
      refine wp_writeGpio.2 (h.put fun i hi => ?_)
      rw [GpioRegs.pin_bs hi hvalid]
      split
      · rename_i heq
        subst heq
        rw [h gpiox _ hi]
      · rfl
  | resetPinGpio gpiox pin =>
      refine wp_writeGpio.2 (h.put fun i hi => ?_)
      rw [GpioRegs.pin_br hvalid]
      split
      · rename_i heq
        subst heq
        rw [h gpiox _ hi]
      · rfl

theorem wp_gpioCalls (calls : List GpioCall) (hvalid : ∀ call ∈ calls, call.Valid)
    (h : PinsAre s ps) :
    (gpioCalls calls).wp gpioPorts D
      (fun _ _ s' => PinsAre s' (calls.foldl GpioCall.effect ps)) g s := by
  induction calls generalizing g s ps with
  | nil => exact h
  | cons call calls ih =>
      refine wp_seq (wp_gpioCall (hvalid call List.mem_cons_self) h) fun _ _ s₁ h₁ => ?_
      exact ih (fun c hc => hvalid c (List.mem_cons_of_mem _ hc)) h₁

/-- Whatever the registers held and in whatever order pins are set up, reset and driven, on any
ports: each pin ends as its own calls say, one after the other, and a pin without calls as it
was. -/
theorem pins_of_runs {calls : List GpioCall} (hvalid : ∀ call ∈ calls, call.Valid)
    (hrun : Runs gpioPorts (gpioCalls calls ()) s ((), ()) s') :
    ∀ gpiox i, i < 16 → (s' gpiox).pin i =
      calls.foldl GpioCall.effect (fun gpiox i => (s gpiox).pin i) gpiox i := by
  have hcalls : (gpioCalls calls).wp gpioPorts (fun _ => True) _ () s :=
    wp_gpioCalls calls hvalid fun _ _ _ => rfl
  have hpins := wp_runs hcalls hrun
  exact hpins

theorem gpioPorts_answers (s : GpioPorts) (e : GpioEvent) : ∃ r s', gpioPorts.step s e r s' := by
  cases e with
  | read gpiox r => exact ⟨(s gpiox).get r, s, rfl, rfl⟩
  | write gpiox r v => exact ⟨(), _, rfl⟩

/-- `USART1_TX`, and a LED that is switched off. -/
def txAndLed : List GpioCall :=
  [.setGpioConf (some ⟨some .gpioa, 9#16, .alternate, .speed100MHz, .none, .pushpull, 7#4⟩),
    .setGpioConf (some ⟨some .gpioe, 13#16, .output, .speed100MHz, .none, .pushpull, 0#4⟩),
    .setPinGpio .gpioe 13#16]

def blankPorts : GpioPorts := fun _ => ⟨0#32, 0#32, 0#32, 0#32, 0#32, 0#32, 0#32⟩

theorem pins_of_runs_tx_led :
    ∃ s', Runs gpioPorts (gpioCalls txAndLed ()) blankPorts ((), ()) s' ∧
      (s' .gpioa).pin 9 = ⟨2#32, 0#32, 3#32, 0#32, 7#32, 0#32⟩ ∧
      (s' .gpioe).pin 13 = ⟨1#32, 0#32, 3#32, 0#32, 0#32, 1#32⟩ ∧
      (s' .gpioe).pin 9 = ⟨0#32, 0#32, 0#32, 0#32, 0#32, 0#32⟩ := by
  have hvalid : ∀ call ∈ txAndLed, call.Valid := by
    simp [txAndLed, GpioCall.Valid]
  have hcalls : (gpioCalls txAndLed).wp gpioPorts (fun _ => False) _ () blankPorts :=
    wp_gpioCalls txAndLed hvalid fun _ _ _ => rfl
  obtain ⟨_, _, s', hrun, _⟩ := exists_run hcalls gpioPorts_answers
  have hpins := pins_of_runs hvalid hrun
  exact ⟨s', hrun, hpins .gpioa 9 (by decide), hpins .gpioe 13 (by decide),
    hpins .gpioe 9 (by decide)⟩

end Calls

end Core
end SdioFat32
