import SdioFat32.Startup.BoardReady

/-!
# BoardRuns — every run of `init_board`

* `board_of_runs` — how a run ends;
* `accesses_clocked` — what holds on the way, wherever it stops;
* `log_after_boot` — the board is ready for the log.
-/

namespace SdioFat32
namespace Startup

open Effects Cells Proc SdioFat32.Core Logger
open Driver (hasFlag)

/-! ## Hardware that is ready at once -/

def readyRcc (c : ClockState) (en : Enables) : (e : RccEvent) → e.Response × ClockState × Enables
  | .read r =>
      ((RccReg.bus? r).elim (obliging c (.read r)).1 en, (obliging c (.read r)).2, en)
  | .write r v =>
      ((), (obliging c (.write r v)).2,
        (RccReg.bus? r).elim en fun bus => Function.update en bus v)
  | .indeterminate => (0#32, c.follow, en)

theorem readyRcc_allowed (c : ClockState) (en : Enables) (e : RccEvent) :
    rccUnit.step (c, en) e (readyRcc c en e).1 (readyRcc c en e).2 := by
  have hclock := obliging_allowed anyClock c e
  cases e with
  | read r =>
      cases r with
      | cr => exact ⟨hclock, nofun, rfl⟩
      | pllcfgr => exact ⟨hclock, nofun, rfl⟩
      | cfgr => exact ⟨hclock, nofun, rfl⟩
      | flashAcr => exact ⟨hclock, nofun, rfl⟩
      | _ =>
          refine ⟨⟨c.follow, Or.inr rfl, nofun, rfl⟩, ?_, rfl⟩
          rintro bus ⟨⟩
          rfl
  | write r v => exact ⟨hclock, rfl⟩
  | indeterminate => exact ⟨hclock, rfl⟩

def readyCore (s : CoreState) : (e : CoreEvent) → e.Response × CoreState
  | .readCpacr => (s.cpacr, s)
  | .writeCpacr v => ((), { s with cpacr := v })
  | .writeIser i v =>
      ((), { s with enabled := Function.update s.enabled i (s.enabled i ||| v) })
  | .writeIcer i v =>
      ((), { s with enabled := Function.update s.enabled i (s.enabled i &&& ~~~v) })
  | .enableIrq => ((), { s with irq := true })

theorem readyCore_allowed (s : CoreState) (e : CoreEvent) :
    coreStep s e (readyCore s e).1 (readyCore s e).2 := by
  cases e with
  | readCpacr => exact ⟨rfl, rfl⟩
  | _ => rfl

def readyTimer (b : Board) : (e : TimerEvent) → e.Response × Board
  | .rcc e => ((obliging b.clock e).1, { b with clock := (obliging b.clock e).2 })
  | .read .sr => (b.tick.tim.shown .sr, b.tick)
  | .read r => (b.tim.shown r, b)
  | .write r v => ((), b.put r v)

theorem readyTimer_allowed (b : Board) (e : TimerEvent) :
    timerHardware.step b e (readyTimer b e).1 (readyTimer b e).2 := by
  cases e with
  | rcc e => exact Env.amid_of_step ⟨obliging_allowed anyClock b.clock e, rfl⟩
  | read r =>
      cases r with
      | sr =>
          refine Env.amid_of_step ⟨rfl, ?_⟩
          show (if b.tick.tim.uif then timerSrUif else 0#32) &&& timerSrUif =
            if b.tick.tim.uif then timerSrUif else 0#32
          split
          · rfl
          · rfl
      | _ => exact Env.amid_of_step ⟨rfl, rfl⟩
  | write r v => exact Env.amid_of_step rfl

def readyPorts (ports : GpioPorts) : (e : GpioEvent) → e.Response × GpioPorts
  | .read gpiox r => ((ports gpiox).get r, ports)
  | .write gpiox r v => ((), Function.update ports gpiox ((ports gpiox).put r v))

def readyMcu (s : McuState) : (e : McuEvent) → e.Response × McuState
  | .rcc e =>
      ((readyRcc s.clock s.enables e).1,
        { s with
          clock := (readyRcc s.clock s.enables e).2.1
          enables := (readyRcc s.clock s.enables e).2.2 })
  | .readRstr bus => (s.resets bus, s)
  | .writeRstr bus v =>
      ((), { s with
        resets := Function.update s.resets bus v
        ports := if bus = .ahb1 then resetPorts v s.ports else s.ports })
  | .core e => ((readyCore s.core e).1, { s with core := (readyCore s.core e).2 })
  | .timer e =>
      ((readyTimer ⟨s.clock, s.tim⟩ e).1,
        { s with
          clock := (readyTimer ⟨s.clock, s.tim⟩ e).2.clock
          tim := (readyTimer ⟨s.clock, s.tim⟩ e).2.tim })
  | .gpio e => ((readyPorts s.ports e).1, { s with ports := (readyPorts s.ports e).2 })
  | .usart e => ((fastUsart s.uart e).1, { s with uart := (fastUsart s.uart e).2 })

def McuEvent.onUsart : McuEvent → Bool
  | .usart _ => true
  | _ => false

theorem readyMcu_allowed (s : McuState) (e : McuEvent) :
    mcu.step s e (readyMcu s e).1 (readyMcu s e).2 := by
  cases e with
  | rcc e => exact ⟨_, readyRcc_allowed s.clock s.enables e, rfl⟩
  | readRstr bus => exact ⟨rfl, rfl⟩
  | writeRstr bus v => rfl
  | core e => exact ⟨_, readyCore_allowed s.core e, rfl⟩
  | timer e => exact ⟨_, readyTimer_allowed ⟨s.clock, s.tim⟩ e, rfl⟩
  | gpio e =>
      cases e with
      | read gpiox r => exact ⟨_, ⟨rfl, rfl⟩, rfl⟩
      | write gpiox r v => exact ⟨_, rfl, rfl⟩
  | usart e => exact ⟨_, fastLine_allowed s.uart (.usart e), rfl⟩

/-- The registers after a reset. -/
def resetMcu : McuState where
  clock := resetState
  enables := fun bus => if bus = .ahb1 then 0x100000#32 else 0#32
  resets := fun _ => 0#32
  core := ⟨0#32, fun _ => 0#32, false⟩
  tim := ⟨0#32, false, 0#32, 0#16, 0#16, 0#16, 0xFFFFFFFF#32, 0xFFFFFFFF#32, 0, none⟩
  ports := resetPort
  uart := quietLine

def resetGlobals : McuGlobals := ⟨startHandle, LogGlobals.atReset⟩

/-! ## The runs -/

variable {adapter : BitVec 32} {g g' : McuGlobals} {s s' : McuState} {status : Int}

/-- Whatever the registers held, `init_board` either returns 0 with the timer, the line and the pins
set up for the clock that is running, or -1 with the first LED on and nothing else set up. -/
theorem board_of_runs (hresets : s.resets = fun _ => 0#32)
    (hrun : Runs mcu (initBoard adapter g) s (status, g') s') :
    (status = 0 ∧ BoardUp adapter s g' s') ∨ (status = -1 ∧ BoardDown g s g' s') :=
  wp_runs (wp_initBoard hresets) hrun

set_option maxRecDepth 10000 in
theorem board_of_runs_reset :
    ∃ g' s', Runs mcu (initBoard 0x08001235#32 resetGlobals) resetMcu (0, g') s' ∧
      BoardUp 0x08001235#32 resetMcu g' s' := by
  have hexec : ((initBoard 0x08001235#32 resetGlobals).exec readyMcu resetMcu).map
      (fun x => x.1.1) = some 0 := by
    decide +kernel
  obtain ⟨g', s', hrun⟩ := Prog.exec_returns readyMcu_allowed hexec
  obtain ⟨_, hup⟩ | ⟨hfailed, _⟩ := board_of_runs rfl hrun
  · exact ⟨g', s', hrun, hup⟩
  · exact absurd hfailed (by decide)

/-- Wherever it has got to, `init_board` accesses no peripheral that is without its clock or held in
reset. -/
theorem accesses_clocked {e : McuEvent} {k : e.Response → Prog McuEvent McuEvent.Response _}
    (hresets : s.resets = fun _ => 0#32)
    (hreach : Reaches mcu (initBoard adapter g) s (.op e k) s') : s'.Clocked e :=
  (Prog.wp_req (wp_initBoard hresets) hreach).1

set_option maxRecDepth 10000 in
/-- The first access to the serial line. -/
theorem accesses_clocked_usart :
    ∃ (e : UsartEvent) (k : e.Response → Prog McuEvent McuEvent.Response (Int × McuGlobals))
      (s' : McuState),
      Reaches mcu (initBoard 0x08001235#32 resetGlobals) resetMcu (.op (.usart e) k) s' ∧
        s'.Clocked (.usart e) := by
  have hnext : (((initBoard 0x08001235#32 resetGlobals).after readyMcu 197 resetMcu).1.next?.any
      McuEvent.onUsart) = true := by
    decide +kernel
  obtain ⟨e, he, husart⟩ := (Option.any_eq_true _ _).1 hnext
  cases e with
  | usart e =>
      obtain ⟨k, hreach⟩ := Prog.after_op readyMcu_allowed 197 he
      exact ⟨e, k, _, hreach, accesses_clocked rfl hreach⟩
  | _ => cases husart

/-- The clock of the line in Hz, as the registers describe it. -/
def apb2Clock (c : ClockState) : Nat :=
  (c.regs.report c.regs.sw 0#32).apb2Freq.toNat

/-- From reset to the log: after a boot that succeeded the line runs within a thousandth of 115200
baud, and what is logged comes out on it. -/
theorem log_after_boot {cmdMode : Bool} {requests : List LogRequest} {fuel : Nat}
    {g'' : LogGlobals × UartHandle} {t : UartState} (hresets : s.resets = fun _ => 0#32)
    (hboot : Runs mcu (initBoard adapter g) s (0, g') s')
    (hcount : ∀ request ∈ requests, request.Countable)
    (hrun : Runs console (((runRequests cmdMode requests).interp (logHandler fuel))
      (g'.log, g'.huart)) s'.uart ((), g'') t) :
    t.line = s'.uart.line ++
        (messages g'.log.currentLevel requests).flatMap (LogMessage.bytes cmdMode) ∧
      t.Idle ∧
      999 * apb2Clock s'.clock ≤ 1000 * (115200 * t.brr.toNat) ∧
      1000 * (115200 * t.brr.toNat) ≤ 1001 * apb2Clock s'.clock := by
  have hup : BoardUp adapter s g' s' := by
    obtain ⟨-, hup⟩ | ⟨hfailed, -⟩ := wp_runs (wp_initBoard hresets) hboot
    · exact hup
    · exact absurd hfailed (by decide)
  rcases hup.clocks with ⟨hclock, -, hready⟩ | ⟨hclock, -, hready⟩
  · obtain ⟨⟨hline, -⟩, hready'⟩ := requests_line hready hup.log hcount hrun
    have hclk : apb2Clock s'.clock = 84000000 := congrArg BitVec.toNat hclock.apb2
    refine ⟨hline, hready'.idle, ?_⟩
    rw [hclk, hready'.brr]
    decide
  · obtain ⟨⟨hline, -⟩, hready'⟩ := requests_line hready hup.log hcount hrun
    have hclk : apb2Clock s'.clock = 16000000 := congrArg BitVec.toNat hclock.apb2
    refine ⟨hline, hready'.idle, ?_⟩
    rw [hclk, hready'.brr]
    decide

set_option maxRecDepth 10000 in
theorem log_after_boot_failed :
    ∃ g' s' g'' t,
      Runs mcu (initBoard 0x08001235#32 resetGlobals) resetMcu (0, g') s' ∧
      Runs console (((runRequests false [failedRequest]).interp (logHandler 1))
        (g'.log, g'.huart)) s'.uart ((), g'') t ∧
      t.line = asciiBytes "[main.c:34] Error init sd+fat32!(error=-1)\r\n".toList ∧
      1000 * (115200 * t.brr.toNat) ≤ 1001 * apb2Clock s'.clock := by
  have hexec : ((initBoard 0x08001235#32 resetGlobals).exec readyMcu resetMcu).bind (fun x =>
      ((((runRequests false [failedRequest]).interp (logHandler 1)) (x.1.2.log, x.1.2.huart)).exec
        fastLine x.2.uart).map fun y => (x.1.1, y.2.line)) =
      some (0, asciiBytes "[main.c:34] Error init sd+fat32!(error=-1)\r\n".toList) := by
    decide +kernel
  obtain ⟨⟨⟨status, g'⟩, s'⟩, hboot, hlogged⟩ := Option.bind_eq_some_iff.1 hexec
  obtain ⟨⟨⟨⟨⟩, g''⟩, t⟩, hlog, hend⟩ := Option.map_eq_some_iff.1 hlogged
  obtain ⟨rfl, hline⟩ := Prod.mk.inj hend
  have hrun := Prog.exec_runs readyMcu_allowed hboot
  have hrun' := Prog.exec_runs fastLine_allowed hlog
  have hcount : ∀ request ∈ [failedRequest], request.Countable := by
    intro request hmem
    rw [List.mem_singleton.1 hmem]
    rintro t ⟨⟩
    decide
  obtain ⟨-, -, -, hrate⟩ := log_after_boot rfl hrun hcount hrun'
  exact ⟨g', s', g'', t, hrun, hrun', hline, hrate⟩

end Startup
end SdioFat32
