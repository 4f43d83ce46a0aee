import SdioFat32.Core.Usart
import SdioFat32.Effects.Refine
import SdioFat32.Logger.Log

/-!
# Console — the log on the serial line

`main.c` sets the line up, registers `usart_adapter`, and everything that is logged from then on
goes through it.

* `logHandler` — the transfers of the log are calls of `usart_adapter`;
* `handles_logHandler` — which is what the log expects of a transfer function;
* `line_of_runs` — what is on the line after any sequence of requests.
-/

namespace SdioFat32
namespace Logger

open Effects Cells Proc Relation SdioFat32.Core
open Driver (hasFlag)

/-! ## The log over the line -/

inductive ConsoleEvent where
  | text (e : TextEvent)
  | usart (e : UsartEvent)

def ConsoleEvent.Response : ConsoleEvent → Type
  | .text e => e.Response
  | .usart e => e.Response

abbrev ConsoleProc (α : Type) : Type := Proc UartHandle ConsoleEvent ConsoleEvent.Response α

def onLine {α : Type} (p : UsartProc α) : ConsoleProc α :=
  p.embed ConsoleEvent.usart fun _ r => r

/-- Every transfer goes to `usart_adapter`, whose parameter is an `int`. -/
def logHandler (fuel : Nat) : (e : LogEvent) → ConsoleProc e.Response
  | .text e => perform (ConsoleEvent.text e)
  | .transfer _ data length => onLine (usartAdapter fuel data (BitVec.ofInt 32 length))

/-- What the program does after the line was set up. -/
def logSession (cmdMode : Bool) (adapter : BitVec 32) (requests : List LogRequest) :
    LogProc Unit := do
  stmInitLog adapter
  runRequests cmdMode requests

/-- The transmitter goes on while messages are put together. -/
def console : Env ConsoleEvent ConsoleEvent.Response UartState where
  req s e :=
    match e with
    | .text _ => True
    | .usart e => transmitter.req s e
  step s e r s' :=
    match e, r with
    | .text e, r =>
        ∃ s₁ mem', ReflTransGen UartState.Moves s s₁ ∧ textStep s₁.memory e r mem' ∧
          s' = { s₁ with memory := mem' }
    | .usart e, r => transmitter.step s e r s'

/-! ## The transfer function -/

theorem wp_onLine {α : Type} {D : UartState → Prop} {p : UsartProc α}
    {Q : α → UartHandle → UartState → Prop} {g : UartHandle} {s : UartState}
    (h : p.wp transmitter D Q g s) : (onLine p).wp console D Q g s := by
  refine wp_embed ?_ ?_ h
  · exact fun _ _ hreq => hreq
  · exact fun _ _ _ _ hstep => hstep

/-- The line as the log sees it. -/
def sinkView (s : UartState) : SinkState := ⟨s.memory, s.line⟩

/-- Between two transfers: the line is idle, and its settings are those of `cfg`. -/
structure LineReady (brr cr1 : BitVec 32) (g : UartHandle) (s : UartState) : Prop where
  polling : g.txMode ≠ .dma
  idle : s.Idle
  brr : s.brr = brr
  cr1 : s.cr1 = cr1

variable {brr cr1 adapter : BitVec 32} {fuel : Nat} {g : UartHandle} {s s' : UartState}

theorem LineReady.puts {text : List (BitVec 8)} (h : LineReady brr cr1 g s)
    (hputs : Puts text s s') (hidle : s'.Idle) : LineReady brr cr1 g s' where
  polling := h.polling
  idle := hidle
  brr := hputs.brr.trans h.brr
  cr1 := hputs.cr1.trans h.cr1

/-- An `int` that fits in 16 bits. -/
theorem toNat_ofInt_length {length : Int} (hpos : 0 ≤ length) (hsmall : length < 2 ^ 16) :
    (BitVec.ofInt 32 length).toNat = length.toNat := by
  rw [BitVec.toNat_ofInt]
  omega

theorem handles_logHandler :
    Handles (logSink adapter) console sinkView (LineReady brr cr1) (logHandler fuel) := by
  intro e g s hready hreq
  cases e with
  | text e =>
      refine wp_perform.2 ⟨trivial, ?_⟩
      rintro r _ ⟨s₁, mem', hdrift, htext, rfl⟩
      have hs₁ := idle_drift hready.idle hdrift
      subst hs₁
      exact ⟨⟨htext, rfl⟩, hready.polling, ⟨hready.idle.held, hready.idle.shifting⟩, hready.brr,
        hready.cr1⟩
  | transfer func data length =>
      obtain ⟨_, hpos, hsmall⟩ := hreq
      have hlength := toNat_ofInt_length hpos hsmall
      have hsent : (usartAdapter fuel data (BitVec.ofInt 32 length)).wp transmitter
          (fun _ => True) _ g s := wp_usartAdapter hready.polling (by rw [hlength]; omega)
      refine wp_mono (wp_onLine hsent) ?_
      rintro r _ s' ⟨rfl, hputs, hidle⟩
      have hidle' := hidle (Or.inr hready.idle)
      rw [hlength] at hputs
      have houtput := hputs.output
      rw [hidle'.output_eq, hready.idle.output_eq] at houtput
      exact ⟨⟨hputs.memory, houtput⟩, hready.puts hputs hidle'⟩

/-! ## From the setup on -/

/-- `setup_uart` for a line that sends by polling. -/
theorem lineReady_of_setup {cfg : UartConfig} {usartClk : BitVec 32} {g' : UartHandle}
    (hpolling : cfg.txMode ≠ .dma)
    (hrun : Runs console (onLine (setupUart (some cfg) usartClk) g) s ((), g') s') :
    LineReady (calculateUsartBrr usartClk cfg.baudRate)
      (0#32 ||| (if cfg.txMode ≠ .disable then usartCr1Te else 0#32) |||
        (if cfg.rxMode ≠ .disable then usartCr1Re else 0#32) ||| usartCr1Ue) g' s' := by
  have hsetup : (setupUart (some cfg) usartClk).wp transmitter (fun _ => True) _ g s :=
    wp_setupUart
  obtain ⟨hmode, s₁, _, hrest⟩ := wp_runs (wp_onLine hsetup) hrun
  exact ⟨by rw [hmode]; exact hpolling, hrest.idle, hrest.brr, hrest.cr1⟩

/-- What is logged once the line is ready and the log knows its transfer function. -/
theorem requests_line {cmdMode : Bool} {requests : List LogRequest} {log : LogGlobals}
    {g' : LogGlobals × UartHandle} (hready : LineReady brr cr1 g s)
    (hadapter : log.transferFunc = adapter) (hcount : ∀ request ∈ requests, request.Countable)
    (hrun : Runs console (((runRequests cmdMode requests).interp (logHandler fuel))
      (log, g)) s ((), g') s') :
    (s'.line = s.line ++
        (messages log.currentLevel requests).flatMap (LogMessage.bytes cmdMode) ∧
      ∀ x, (∀ request ∈ requests, request.Outside cmdMode x) → s'.memory x = s.memory x) ∧
      LineReady brr cr1 g'.2 s' := by
  have hrequests : (runRequests cmdMode requests).wp (logSink adapter) (fun _ => True)
      (fun _ g' t' => g'.transferFunc = adapter ∧
        (∀ x, (∀ request ∈ requests, request.Outside cmdMode x) →
          t'.memory x = (sinkView s).memory x) ∧
        t'.output = (sinkView s).output ++
          (messages log.currentLevel requests).flatMap (LogMessage.bytes cmdMode))
      log (sinkView s) :=
    wp_runRequests hadapter hcount
  obtain ⟨hruns, hready'⟩ := handles_logHandler.runs hready hrequests hrun
  obtain ⟨_, hmem, houtput⟩ := wp_runs hrequests hruns
  exact ⟨⟨houtput, hmem⟩, hready'⟩

theorem session_line {cmdMode : Bool} {requests : List LogRequest} {log : LogGlobals}
    {g' : LogGlobals × UartHandle} (hready : LineReady brr cr1 g s)
    (hcount : ∀ request ∈ requests, request.Countable)
    (hrun : Runs console (((logSession cmdMode adapter requests).interp (logHandler fuel))
      (log, g)) s ((), g') s') :
    (s'.line = s.line ++
        (messages log.currentLevel requests).flatMap (LogMessage.bytes cmdMode) ∧
      ∀ x, (∀ request ∈ requests, request.Outside cmdMode x) → s'.memory x = s.memory x) ∧
      LineReady brr cr1 g'.2 s' := by
  -- `stm_init_log` comes down to an assignment.
  have hrun' : Runs console (((runRequests cmdMode requests).interp (logHandler fuel))
      ({ log with transferFunc := adapter }, g)) s ((), g') s' := hrun
  have hlogged := requests_line hready rfl hcount hrun'
  exact hlogged

/-- After the line was set up, whatever is logged comes out on it: every message whole, as far as
its buffer took it, in the order of the requests, with nothing else in between, by the time the last
request returns; and memory outside the stack is as it was. -/
theorem line_of_runs {cmdMode : Bool} {cfg : UartConfig} {usartClk : BitVec 32}
    {requests : List LogRequest} {log : LogGlobals} {g₁ : UartHandle} {s₁ : UartState}
    {g' : LogGlobals × UartHandle} (hpolling : cfg.txMode ≠ .dma)
    (hcount : ∀ request ∈ requests, request.Countable)
    (hsetup : Runs console (onLine (setupUart (some cfg) usartClk) g) s ((), g₁) s₁)
    (hrun : Runs console (((logSession cmdMode adapter requests).interp (logHandler fuel))
      (log, g₁)) s₁ ((), g') s') :
    s'.line = s₁.line ++ (messages log.currentLevel requests).flatMap (LogMessage.bytes cmdMode) ∧
      s'.Idle ∧ s'.brr = calculateUsartBrr usartClk cfg.baudRate ∧
      ∀ x, (∀ request ∈ requests, request.Outside cmdMode x) → s'.memory x = s₁.memory x := by
  obtain ⟨⟨hline, hmem⟩, hready⟩ := session_line (lineReady_of_setup hpolling hsetup) hcount hrun
  exact ⟨hline, hready.idle, hready.brr, hmem⟩

/-- With `LOG_CMD_MODE`, two programs that put the same bytes on the line logged the same messages,
however fast their lines are and whatever they had logged before. -/
theorem messages_of_lines {requests requests' : List LogRequest} {log log' : LogGlobals}
    {fuel' : Nat} {adapter' brr' cr1' : BitVec 32} {g₁ g₁' : UartHandle} {s₁ s₁' t t' : UartState}
    {g' h' : LogGlobals × UartHandle} {bytes : List (BitVec 8)}
    (hready : LineReady brr cr1 g₁ s₁) (hready' : LineReady brr' cr1' g₁' s₁')
    (hcount : ∀ request ∈ requests, request.Countable)
    (hcount' : ∀ request ∈ requests', request.Countable)
    (hrun : Runs console (((logSession true adapter requests).interp (logHandler fuel))
      (log, g₁)) s₁ ((), g') t)
    (hrun' : Runs console (((logSession true adapter' requests').interp (logHandler fuel'))
      (log', g₁')) s₁' ((), h') t')
    (hline : t.line = s₁.line ++ bytes) (hline' : t'.line = s₁'.line ++ bytes) :
    messages log.currentLevel requests = messages log'.currentLevel requests' := by
  obtain ⟨⟨hsent, _⟩, _⟩ := session_line hready hcount hrun
  obtain ⟨⟨hsent', _⟩, _⟩ := session_line hready' hcount' hrun'
  have hbytes := List.append_cancel_left (hline.symm.trans hsent)
  have hbytes' := List.append_cancel_left (hline'.symm.trans hsent')
  exact flatMap_bytes_injective (hbytes.symm.trans hbytes')

/-! ## A line that is fast -/

/-- Everything that is under way is on the line at once. -/
def fastMoves (s : UartState) : UartState :=
  if hasFlag s.cr1 usartCr1Ue && hasFlag s.cr1 usartCr1Te then
    { s with held := none, shifting := none, line := s.output }
  else s

theorem drift_held (henabled : s.Enabled) (hshifting : s.shifting = none) :
    ReflTransGen UartState.Moves s { s with held := none, line := s.output } := by
  obtain ⟨memory, brr, cr1, cr2, cr3, held, shifting, line⟩ := s
  subst hshifting
  cases held with
  | none =>
      have hsame : line ++ [] = line := List.append_nil line
      simp only [UartState.output, UartState.pending, Option.toList_none, List.append_nil]
      exact .refl
  | some b =>
      exact .tail (.single (.start henabled rfl rfl))
        (.finish ⟨henabled.usart, henabled.transmitter⟩ rfl)

theorem drift_fastMoves (s : UartState) : ReflTransGen UartState.Moves s (fastMoves s) := by
  unfold fastMoves
  split
  · rename_i hflags
    have henabled : s.Enabled := by
      obtain ⟨husart, htransmitter⟩ := Bool.and_eq_true_iff.1 hflags
      exact ⟨husart, htransmitter⟩
    cases hshifting : s.shifting with
    | none => exact hshifting ▸ drift_held henabled hshifting
    | some b =>
        -- First the byte in the shift register, and then the one behind it.
        let s₁ : UartState := { s with shifting := none, line := s.line ++ [b] }
        have hfinish : s.Moves s₁ := .finish henabled hshifting
        have henabled₁ : s₁.Enabled := ⟨henabled.usart, henabled.transmitter⟩
        have hheld := drift_held henabled₁ rfl
        have houtput : s₁.output = s.output := by
          simp [UartState.output, UartState.pending, s₁, hshifting]
        rw [houtput] at hheld
        exact .head hfinish hheld
  · exact .refl

def fastStatus (s : UartState) : BitVec 32 :=
  if s.held = none then
    if s.shifting = none then usartSrTxe ||| usartSrTc else usartSrTxe
  else 0#32

theorem shows_fastStatus (s : UartState) : s.Shows (fastStatus s) := by
  unfold fastStatus
  by_cases hheld : s.held = none
  · rw [if_pos hheld]
    by_cases hshifting : s.shifting = none
    · rw [if_pos hshifting]
      exact ⟨⟨fun _ => hheld, fun _ => by decide⟩, fun _ => ⟨hheld, hshifting⟩⟩
    · rw [if_neg hshifting]
      exact ⟨⟨fun _ => hheld, fun _ => by decide⟩, fun htc => absurd htc (by decide)⟩
  · rw [if_neg hheld]
    exact ⟨⟨fun htxe => absurd htxe (by decide), fun h => absurd h hheld⟩,
      fun htc => absurd htc (by decide)⟩

/-- The formatter and `memcpy`. -/
def formatted (mem : Memory 32 (BitVec 8)) : (e : TextEvent) → e.Response × Memory 32 (BitVec 8)
  | .snprintf dst n (some t) =>
      if t.length ≤ intMax then ((t.length : Int), mem.print 0#8 dst n t) else ((-1 : Int), mem)
  | .snprintf _ _ none => ((-1 : Int), mem)
  | .init dst bytes => ((), mem.store dst bytes.length fun i => bytes.getD i 0#8)
  | .memcpy dst src n => ((), mem.copy dst src n)

theorem textStep_formatted (mem : Memory 32 (BitVec 8)) (e : TextEvent) :
    textStep mem e (formatted mem e).1 (formatted mem e).2 := by
  cases e with
  | snprintf dst n text =>
      cases text with
      | none => exact ⟨Int.negSucc_lt_zero 0, fun _ _ => rfl⟩
      | some t =>
          by_cases ht : t.length ≤ intMax
          · simp [textStep, formatted, ht]
          · simp [textStep, formatted, ht, OnlyWithin]
  | init dst bytes => exact rfl
  | memcpy dst src n => exact rfl

def fastUsart (s : UartState) : (e : UsartEvent) → e.Response × UartState
  | .read .sr => (fastStatus (fastMoves s), fastMoves s)
  | .read r => ((s.get r).getD 0#32, s)
  | .write r v => ((), s.put r v)
  | .load addr => (s.memory addr, s)
  | .setGpioConf _ => ((), s)
  | .dmaInit _ => ((), s)
  | .dmaSend _ _ _ => ((), s)

def fastLine (s : UartState) : (e : ConsoleEvent) → e.Response × UartState
  | .text e => ((formatted s.memory e).1, { s with memory := (formatted s.memory e).2 })
  | .usart e => fastUsart s e

theorem fastLine_allowed (s : UartState) (e : ConsoleEvent) :
    console.step s e (fastLine s e).1 (fastLine s e).2 := by
  cases e with
  | text e => exact ⟨s, _, .refl, textStep_formatted s.memory e, rfl⟩
  | usart e =>
      cases e with
      | read r =>
          cases r with
          | sr => exact ⟨_, drift_fastMoves s, shows_fastStatus _, rfl⟩
          | _ => exact ⟨s, .refl, by rintro x ⟨⟩ <;> rfl, rfl⟩
      | load addr => exact ⟨s, .refl, rfl, rfl⟩
      | _ => exact ⟨s, .refl, rfl⟩

def quietLine : UartState := ⟨fun _ => 0#8, 0#32, 0#32, 0#32, 0#32, none, none, []⟩

def startHandle : UartHandle := ⟨.disable, .disable, none, none⟩

def uart1Handle : UartHandle :=
  ⟨uart1Config.txMode, uart1Config.rxMode, uart1Config.dmaTx, uart1Config.dmaRx⟩

/-- The line at 115200 baud on an 84 MHz clock. -/
def uart1Line : UartState :=
  { quietLine with brr := calculateUsartBrr 84000000#32 uart1Config.baudRate, cr1 := 0x200C#32 }

theorem apart_frame : Apart 0x20003000#32 (sizeofBuff + 3) 0x20001000#32 sizeofBuff := by
  intro x hx hx'
  unfold InRegion sizeofBuff at hx hx'
  bv_omega

/-- A request of `main.c`. -/
def failedRequest : LogRequest :=
  .stmLog ⟨0x20001000#32, 0x20003000#32, apart_frame⟩ .info 0#16 (asciiBytes "main.c".toList) 34
    (some (asciiBytes "Error init sd+fat32!(error=-1)\r\n".toList))

theorem runs_setup : Runs console (onLine (setupUart (some uart1Config) 84000000#32) startHandle)
    quietLine ((), uart1Handle) uart1Line := by
  refine Prog.exec_runs fastLine_allowed ?_
  rfl

theorem line_of_runs_failed :
    ∃ s₁ g' s',
      Runs console (onLine (setupUart (some uart1Config) 84000000#32) startHandle)
        quietLine ((), uart1Handle) s₁ ∧
      Runs console (((logSession false 0x08001235#32 [failedRequest]).interp (logHandler 1))
        (LogGlobals.atReset, uart1Handle)) s₁ ((), g') s' ∧
      s'.line = asciiBytes "[main.c:34] Error init sd+fat32!(error=-1)\r\n".toList ∧
      s'.brr = 729#32 := by
  obtain ⟨g', s', hrun⟩ : ∃ g' s',
      Runs console (((logSession false 0x08001235#32 [failedRequest]).interp (logHandler 1))
        (LogGlobals.atReset, uart1Handle)) uart1Line ((), g') s' :=
    Prog.exec_returns fastLine_allowed (by decide +kernel)
  have hcount : ∀ request ∈ [failedRequest], request.Countable := by
    intro request hmem
    rw [List.mem_singleton.1 hmem]
    rintro t ⟨⟩
    decide
  obtain ⟨hline, _, hbrr, _⟩ := line_of_runs (by decide) hcount runs_setup hrun
  refine ⟨uart1Line, g', s', runs_setup, hrun, ?_, ?_⟩
  · rw [hline]
    decide
  · rw [hbrr]
    decide +kernel

/-- The same message through the library. -/
def failedFat32Request : LogRequest :=
  .fat32StmLog ⟨0x20001000#32, 0x20003000#32, apart_frame⟩ .info (asciiBytes "main.c".toList) 34
    (some (asciiBytes "Error init sd+fat32!(error=-1)\r\n".toList))

def failedBytes : List (BitVec 8) :=
  [44#8, 0#8, 1#8] ++ asciiBytes "[main.c:34] Error init sd+fat32!(error=-1)\r\n".toList

theorem messages_of_lines_failed :
    ∃ g' t h' t',
      Runs console (((logSession true 0x08001235#32 [failedRequest]).interp (logHandler 1))
        (LogGlobals.atReset, uart1Handle)) uart1Line ((), g') t ∧
      Runs console (((logSession true 0x08001235#32 [failedFat32Request]).interp (logHandler 1))
        (LogGlobals.atReset, uart1Handle)) uart1Line ((), h') t' ∧
      t.line = failedBytes ∧ t'.line = failedBytes ∧
      messages .debug [failedRequest] = messages .debug [failedFat32Request] := by
  obtain ⟨g', t, hrun, hline⟩ : ∃ g' t,
      Runs console (((logSession true 0x08001235#32 [failedRequest]).interp (logHandler 1))
        (LogGlobals.atReset, uart1Handle)) uart1Line ((), g') t ∧ t.line = failedBytes :=
    Prog.exec_ends UartState.line fastLine_allowed (by decide +kernel)
  obtain ⟨h', t', hrun', hline'⟩ : ∃ h' t',
      Runs console (((logSession true 0x08001235#32 [failedFat32Request]).interp (logHandler 1))
        (LogGlobals.atReset, uart1Handle)) uart1Line ((), h') t' ∧ t'.line = failedBytes :=
    Prog.exec_ends UartState.line fastLine_allowed (by decide +kernel)
  have hcount : ∀ t ∈ some (asciiBytes "Error init sd+fat32!(error=-1)\r\n".toList),
      t.length + sizeofBuff ≤ intMax := by
    rintro _ ⟨⟩
    decide
  have hready := lineReady_of_setup (by decide) runs_setup
  have hsame := messages_of_lines hready hready
    (by
      intro request hmem
      rw [List.mem_singleton.1 hmem]
      exact hcount)
    (by
      intro request hmem
      rw [List.mem_singleton.1 hmem]
      exact hcount)
    hrun hrun' hline hline'
  exact ⟨g', t, h', t', hrun, hrun', hline, hline', hsame⟩

end Logger
end SdioFat32
