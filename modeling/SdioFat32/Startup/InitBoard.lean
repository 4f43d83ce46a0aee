import SdioFat32.Core.Timer
import SdioFat32.Logger.Console

/-!
# InitBoard — from reset to `main`

`init_board` of `main.c` sets the clocks up, on three rungs of a ladder, and then the LEDs, the
timer, the serial line and the log.

* `initBoard` — the code, over the registers of all these peripherals;
* `mcu` — the peripherals side by side.  A peripheral may be accessed only while its clock is on and
  it is not held in reset; otherwise a write is lost.
-/

namespace SdioFat32
namespace Startup

open Effects Cells Proc SdioFat32.Core Logger
open Driver (hasFlag)

/-! ## Events -/

inductive RccBus where
  | ahb1
  | ahb2
  | ahb3
  | apb1
  | apb2
  deriving DecidableEq

/-- The enable register of the bus. -/
def RccBus.enr : RccBus → RccReg
  | .ahb1 => .ahb1enr
  | .ahb2 => .ahb2enr
  | .ahb3 => .ahb3enr
  | .apb1 => .apb1enr
  | .apb2 => .apb2enr

/-- The registers of the processor. -/
inductive CoreEvent where
  | readCpacr
  | writeCpacr (v : BitVec 32)
  | writeIser (i : Nat) (v : BitVec 32)
  | writeIcer (i : Nat) (v : BitVec 32)
  | enableIrq

def CoreEvent.Response : CoreEvent → Type
  | .readCpacr => BitVec 32
  | _ => Unit

inductive McuEvent where
  | rcc (e : RccEvent)
  | readRstr (bus : RccBus)
  | writeRstr (bus : RccBus) (v : BitVec 32)
  | core (e : CoreEvent)
  | timer (e : TimerEvent)
  | gpio (e : GpioEvent)
  | usart (e : UsartEvent)

def McuEvent.Response : McuEvent → Type
  | .rcc e => e.Response
  | .readRstr _ => BitVec 32
  | .writeRstr _ _ => Unit
  | .core e => e.Response
  | .timer e => e.Response
  | .gpio e => e.Response
  | .usart e => e.Response

/-- `huart`, and the variables of `log.c`. -/
structure McuGlobals where
  huart : UartHandle
  log : LogGlobals

abbrev McuProc (α : Type) : Type := Proc McuGlobals McuEvent McuEvent.Response α

/-! ## Calls of the drivers -/

def onRcc {G α : Type} (p : RccProc α) : Proc G McuEvent McuEvent.Response α :=
  p.aside McuEvent.rcc fun _ r => r

def onPorts {G α : Type} (p : GpioProc α) : Proc G McuEvent McuEvent.Response α :=
  p.aside McuEvent.gpio fun _ r => r

/-- An access of `timer.c`; the RCC is shared. -/
def timerAccess : TimerEvent → McuEvent
  | .rcc e => .rcc e
  | e => .timer e

def timerAnswer : (e : TimerEvent) → (timerAccess e).Response → e.Response
  | .rcc _, r => r
  | .read _, r => r
  | .write _ _, r => r

def onTimer {G α : Type} (p : TimerProc α) : Proc G McuEvent McuEvent.Response α :=
  p.aside timerAccess timerAnswer

/-- `set_gpio_conf` is the function of `gpio.c`. -/
def usartHandler : (e : UsartEvent) → Proc Unit McuEvent McuEvent.Response e.Response
  | .setGpioConf config => onPorts (setGpioConf config)
  | .read r => perform (McuEvent.usart (.read r))
  | .write r v => perform (McuEvent.usart (.write r v))
  | .load addr => perform (McuEvent.usart (.load addr))
  | .dmaInit cfg => perform (McuEvent.usart (.dmaInit cfg))
  | .dmaSend cfg buffer length => perform (McuEvent.usart (.dmaSend cfg buffer length))

def onUsart {α : Type} (p : UsartProc α) : McuProc α :=
  (p.interp usartHandler).within (fun g => (g.huart, ())) fun x g => { g with huart := x.1 }

def readCpacr : McuProc (BitVec 32) := perform (McuEvent.core .readCpacr)
def writeCore (e : CoreEvent) : McuProc e.Response := perform (McuEvent.core e)
def readRstr (bus : RccBus) : McuProc (BitVec 32) := perform (McuEvent.readRstr bus)
def writeRstr (bus : RccBus) (v : BitVec 32) : McuProc Unit := perform (McuEvent.writeRstr bus v)

/-! ## `fpu.c`, `IRQ.c`, `led.c` and `usart_board.c` -/

def initFpu : McuProc Unit := do
  let v ← readCpacr
  writeCore (.writeCpacr (v ||| 0xF#32 <<< 20))

def nvicSdio : BitVec 32 := 0x1#32 <<< 17
def nvicDma2Stream7 : BitVec 32 := 0x1#32 <<< 6

def initIrq : McuProc Unit := do
  writeCore (.writeIser 1 nvicSdio)
  writeCore (.writeIcer 2 nvicDma2Stream7)
  writeCore .enableIrq

def enableAndResetRcc (bus : RccBus) (periphMask : BitVec 32) : McuProc Unit := do
  onRcc (setBits bus.enr periphMask)
  let v ← readRstr bus
  writeRstr bus (v ||| periphMask)
  let v ← readRstr bus
  writeRstr bus (v &&& ~~~periphMask)

def ahb1enrGpioaen : BitVec 32 := 0x1#32 <<< 0
def ahb1enrGpioeen : BitVec 32 := 0x1#32 <<< 4
def ahb1enrBkpsramen : BitVec 32 := 0x1#32 <<< 18
def ahb1enrDma2en : BitVec 32 := 0x1#32 <<< 22
def apb1enrTim2en : BitVec 32 := 0x1#32 <<< 0
def apb1enrPwren : BitVec 32 := 0x1#32 <<< 28
def apb2enrUsart1en : BitVec 32 := 0x1#32 <<< 4
def apb2enrSyscfgen : BitVec 32 := 0x1#32 <<< 14

def ledConfig (pin : BitVec 16) : GpioPinConfig :=
  ⟨some .gpioe, pin, .output, .speed100MHz, .none, .pushpull, 0#4⟩

/-- The `for` loop from `pin` on. -/
def ledLoop (pin : Nat) : Nat → GpioProc Unit
  | 0 => return ()
  | left + 1 => do
      setGpioConf (some (ledConfig (BitVec.ofNat 16 pin)))
      setPinGpio .gpioe (BitVec.ofNat 16 pin)
      ledLoop (pin + 1) left

def initLed : McuProc Unit := do
  enableAndResetRcc .ahb1 ahb1enrGpioeen
  onPorts (ledLoop 13 3)

def ledOn (pin : BitVec 16) (state : Bool) : McuProc Unit :=
  onPorts (if state then resetPinGpio .gpioe pin else setPinGpio .gpioe pin)

def initUart : McuProc Unit := do
  let rccClocks ← onRcc (getClockFrequencies noFreq)
  onUsart (setupUart (some uart1Config) rccClocks.apb2Freq)

/-! ## `main.c` -/

/-- 168 MHz from the external oscillator. -/
def pllHse : RccPllConfig where
  pllm := 25#32
  plln := 336#32
  pllp := 0#32
  pllq := 7#32
  source := 1#8

/-- 168 MHz from the internal one. -/
def pllHsi : RccPllConfig where
  pllm := 16#32
  plln := 336#32
  pllp := 0#32
  pllq := 7#32
  source := 0#8

def rtcDiv25 : RccRtcPresc := ⟨25#8, Or.inr (by decide)⟩

def dividedBuses : RccBusConfig := RccBusConfig.of .notDiv .div4 .div2 rtcDiv25
def plainBuses : RccBusConfig := RccBusConfig.of .notDiv .notDiv .notDiv rtcDiv25

/-- `RCC_PeripheralClockConfig` -/
structure RccPeripheralClockConfig where
  ahb1 : BitVec 32
  ahb2 : BitVec 32
  ahb3 : BitVec 32
  apb1 : BitVec 32
  apb2 : BitVec 32

def peripheralConf : RccPeripheralClockConfig where
  ahb1 := ahb1enrDma2en ||| ahb1enrGpioaen ||| ahb1enrBkpsramen
  ahb2 := 0#32
  ahb3 := 0#32
  apb1 := apb1enrTim2en ||| apb1enrPwren
  apb2 := apb2enrUsart1en ||| apb2enrSyscfgen

def enableGpioClockRcc (config : RccPeripheralClockConfig) : RccProc Unit := do
  writeReg .apb1enr config.apb1
  writeReg .apb2enr config.apb2
  writeReg .ahb1enr config.ahb1
  writeReg .ahb2enr config.ahb2
  writeReg .ahb3enr config.ahb3

/-- The PLL on the external oscillator, then on the internal one, then no PLL. -/
def clockLadder : RccProc Int := do
  let status ← setupSystemConfigRcc (some (pllSystem pllHse (some dividedBuses)))
  if status ≠ 0 then
    let status ← setupSystemConfigRcc (some (pllSystem pllHsi (some dividedBuses)))
    if status ≠ 0 then
      setupSystemConfigRcc
        (some { source := rccHsi, pllConfig := none, busConfig := some plainBuses })
    else return status
  else return status

def initRcc : RccProc Int := do
  let status ← clockLadder
  enableGpioClockRcc peripheralConf
  return status

/-- `adapter` is the address of `usart_adapter`. -/
def initBoard (adapter : BitVec 32) : McuProc Int := do
  initFpu
  initIrq
  let status ← onRcc initRcc
  initLed
  if status ≠ 0 then
    ledOn 13#16 true
    return -1
  onTimer initTimer
  initUart
  assign fun g => { g with log := { g.log with transferFunc := adapter } }
  return 0

/-! ## The microcontroller -/

structure CoreState where
  cpacr : BitVec 32
  /-- The interrupts that are enabled, 32 in a word. -/
  enabled : Nat → BitVec 32
  irq : Bool

def coreStep (s : CoreState) (e : CoreEvent) (r : e.Response) (s' : CoreState) : Prop :=
  match e, r with
  | .readCpacr, (v : BitVec 32) => v = s.cpacr ∧ s' = s
  | .writeCpacr v, _ => s' = { s with cpacr := v }
  | .writeIser i v, _ =>
      s' = { s with enabled := Function.update s.enabled i (s.enabled i ||| v) }
  | .writeIcer i v, _ =>
      s' = { s with enabled := Function.update s.enabled i (s.enabled i &&& ~~~v) }
  | .enableIrq, _ => s' = { s with irq := true }

/-- The enable registers. -/
abbrev Enables : Type := RccBus → BitVec 32

/-- The bus whose enable register this is. -/
def RccReg.bus? : RccReg → Option RccBus
  | .ahb1enr => some .ahb1
  | .ahb2enr => some .ahb2
  | .ahb3enr => some .ahb3
  | .apb1enr => some .apb1
  | .apb2enr => some .apb2
  | _ => none

/-- An access as the enable registers see it. -/
def enableStep (en : Enables) (e : RccEvent) (r : e.Response) (en' : Enables) : Prop :=
  match e, r with
  | .read reg, (v : BitVec 32) => (∀ bus ∈ RccReg.bus? reg, v = en bus) ∧ en' = en
  | .write reg v, _ => en' = (RccReg.bus? reg).elim en fun bus => Function.update en bus v
  | .indeterminate, _ => en' = en

/-- The RCC with its enable registers. -/
def rccUnit : Env RccEvent RccEvent.Response (ClockState × Enables) where
  step s e r s' := (clockHardware anyClock).step s.1 e r s'.1 ∧ enableStep s.2 e r s'.2

structure McuState where
  clock : ClockState
  enables : Enables
  resets : RccBus → BitVec 32
  core : CoreState
  tim : Tim2
  ports : GpioPorts
  uart : UartState

/-- The bit of a port in `AHB1ENR` and `AHB1RSTR`; `rcc.h` has names for those up to `GPIOI`. -/
def gpioBit : GpioPort → BitVec 32
  | .gpioa => 0x1#32 <<< 0
  | .gpiob => 0x1#32 <<< 1
  | .gpioc => 0x1#32 <<< 2
  | .gpiod => 0x1#32 <<< 3
  | .gpioe => 0x1#32 <<< 4
  | .gpiof => 0x1#32 <<< 5
  | .gpiog => 0x1#32 <<< 6
  | .gpioh => 0x1#32 <<< 7
  | .gpioi => 0x1#32 <<< 8
  | .gpioj => 0x1#32 <<< 9
  | .gpiok => 0x1#32 <<< 10

/-- A port after a reset; two of them keep their debugging pins. -/
def resetPort : GpioPort → GpioRegs
  | .gpioa => ⟨0xA8000000#32, 0#32, 0#32, 0x64000000#32, 0#32, 0#32, 0#32⟩
  | .gpiob => ⟨0x280#32, 0#32, 0xC0#32, 0x100#32, 0#32, 0#32, 0#32⟩
  | _ => ⟨0#32, 0#32, 0#32, 0#32, 0#32, 0#32, 0#32⟩

/-- The ports whose bit is set are reset. -/
def resetPorts (v : BitVec 32) (ports : GpioPorts) : GpioPorts := fun gpiox =>
  if hasFlag v (gpioBit gpiox) then resetPort gpiox else ports gpiox

namespace McuState

/-- A peripheral that has its clock and is not held in reset. -/
def Awake (s : McuState) (bus : RccBus) (bit : BitVec 32) : Prop :=
  hasFlag (s.enables bus) bit = true ∧ hasFlag (s.resets bus) bit = false

/-- What an access asks of the clocks. -/
def Clocked (s : McuState) : McuEvent → Prop
  | .timer _ => s.Awake .apb1 apb1enrTim2en
  | .gpio (.read gpiox _) => s.Awake .ahb1 (gpioBit gpiox)
  | .gpio (.write gpiox _ _) => s.Awake .ahb1 (gpioBit gpiox)
  | .usart _ => s.Awake .apb2 apb2enrUsart1en
  | _ => True

end McuState

/-- TIM2 and USART1 are not reset. -/
def mcu : Env McuEvent McuEvent.Response McuState where
  req s e := s.Clocked e ∧
    match e with
    | .writeRstr bus _ => bus = .ahb1
    | .usart e => transmitter.req s.uart e
    | _ => True
  step s e r s' :=
    match e, r with
    | .rcc e, r =>
        ∃ x, rccUnit.step (s.clock, s.enables) e r x ∧ s' = { s with clock := x.1, enables := x.2 }
    | .readRstr bus, (v : BitVec 32) => v = s.resets bus ∧ s' = s
    | .writeRstr bus v, _ =>
        s' = { s with
          resets := Function.update s.resets bus v
          ports := if bus = .ahb1 then resetPorts v s.ports else s.ports }
    | .core e, r => ∃ x, coreStep s.core e r x ∧ s' = { s with core := x }
    | .timer e, r =>
        ∃ b, timerHardware.step ⟨s.clock, s.tim⟩ e r b ∧
          s' = { s with clock := b.clock, tim := b.tim }
    | .gpio e, r => ∃ ports, gpioPorts.step s.ports e r ports ∧ s' = { s with ports := ports }
    | .usart e, r => ∃ uart, transmitter.step s.uart e r uart ∧ s' = { s with uart := uart }

end Startup
end SdioFat32
