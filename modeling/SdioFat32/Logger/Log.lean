import Mathlib.Data.Nat.Digits.Defs
import SdioFat32.Cells.Text
import SdioFat32.Effects.Wp
import SdioFat32.Logger.HexLog

/-!
# Log — messages through `log.c` and `log_stm.c`

A message is put together in a buffer of 4096 bytes and handed to a function that was registered
before.  What `snprintf` makes of a format and its arguments is a parameter of a call; where it puts
it is not.

* `vstmLog` — the code, with `LOG_CMD_MODE` and without;
* `logSink` — the formatter, and a transfer function that appends to an output;
* `wp_vstmLog` — one call: the text, cut off at 4095 bytes, or nothing.
-/

namespace SdioFat32
namespace Logger

open Effects Cells Proc

/-! ## The code -/

/-- The value of the enumerator. -/
def LogLevel.value : LogLevel → Nat
  | .debug => 0
  | .info => 1
  | .warning => 2
  | .error => 3

/-- What happens to memory. -/
inductive TextEvent where
  /-- `snprintf` or `vsnprintf` of a text that cannot be formatted if it is `none`. -/
  | snprintf (dst : BitVec 32) (n : Nat) (text : Option (List (BitVec 8)))
  /-- A variable gets its initial value. -/
  | init (dst : BitVec 32) (bytes : List (BitVec 8))
  | memcpy (dst src : BitVec 32) (n : Nat)

def TextEvent.Response : TextEvent → Type
  | .snprintf _ _ _ => Int
  | .init _ _ => Unit
  | .memcpy _ _ _ => Unit

inductive LogEvent where
  | text (e : TextEvent)
  /-- A call through a function pointer. -/
  | transfer (func : BitVec 32) (data : BitVec 32) (length : Int)

def LogEvent.Response : LogEvent → Type
  | .text e => e.Response
  | .transfer _ _ _ => Int

/-- `current_level` and `transfer_func`. -/
structure LogGlobals where
  currentLevel : LogLevel
  transferFunc : BitVec 32

def LogGlobals.atReset : LogGlobals where
  currentLevel := .debug
  transferFunc := 0#32

abbrev LogProc (α : Type) : Type := Proc LogGlobals LogEvent LogEvent.Response α

def snprintf (dst : BitVec 32) (n : Nat) (text : Option (List (BitVec 8))) : LogProc Int :=
  perform (LogEvent.text (.snprintf dst n text))
def initVariable (dst : BitVec 32) (bytes : List (BitVec 8)) : LogProc Unit :=
  perform (LogEvent.text (.init dst bytes))
def memcpy (dst src : BitVec 32) (n : Nat) : LogProc Unit :=
  perform (LogEvent.text (.memcpy dst src n))
def transfer (func data : BitVec 32) (length : Int) : LogProc Int :=
  perform (LogEvent.transfer func data length)

def asciiBytes (cs : List Char) : List (BitVec 8) := cs.map fun c => BitVec.ofNat 8 c.toNat

/-- `%d` -/
def decimal (n : Int) : List (BitVec 8) :=
  asciiBytes ((if n < 0 then ['-'] else []) ++ Nat.toDigits 10 n.natAbs)

/-- `"[%s:%d] "` -/
def logPrefix (file : List (BitVec 8)) (line : Int) : List (BitVec 8) :=
  asciiBytes ['['] ++ file ++ asciiBytes [':'] ++ decimal line ++ asciiBytes [']', ' ']

def sizeofBuff : Nat := 4096

/-- The fields `length` and `level` of a `LogMessage`, which is packed. -/
def logHeader (length : Nat) (level : LogLevel) : List (BitVec 8) :=
  [BitVec.ofNat 8 length, BitVec.ofNat 8 (length / 256), BitVec.ofNat 8 level.value]

def stmInitLog (func : BitVec 32) : LogProc Unit :=
  assign fun log => { log with transferFunc := func }

/-- Where the variables of `vstm_log` are on the stack. -/
structure LogStack where
  buff : BitVec 32
  message : BitVec 32
  apart : Apart message (sizeofBuff + 3) buff sizeofBuff

def vstmLog (cmdMode : Bool) (stack : LogStack) (level : LogLevel) (_errCode : BitVec 16)
    (file : List (BitVec 8)) (line : Int) (text : Option (List (BitVec 8))) : LogProc Unit := do
  let log ← globals
  if level.value < log.currentLevel.value then return ()
  let offset ← snprintf stack.buff sizeofBuff (some (logPrefix file line))
  if offset < 0 ∨ offset ≥ sizeofBuff then return ()
  let written ← snprintf (nth stack.buff offset.toNat) (sizeofBuff - offset.toNat) text
  if written < 0 then return ()
  let size := if offset + written ≥ sizeofBuff then sizeofBuff - 1 else (offset + written).toNat
  if cmdMode then
    initVariable stack.message (logHeader size level ++ List.replicate sizeofBuff 0#8)
    memcpy (nth stack.message 3) stack.buff size
    let _ ← transfer log.transferFunc stack.message ((2 + 1 + size : Nat) : Int)
  else
    let _ ← transfer log.transferFunc stack.buff size

def stmLog (cmdMode : Bool) (stack : LogStack) (level : LogLevel) (errCode : BitVec 16)
    (file : List (BitVec 8)) (line : Int) (text : Option (List (BitVec 8))) : LogProc Unit :=
  vstmLog cmdMode stack level errCode file line text

/-- The levels of the library; any other value of the type is `other`. -/
inductive Fat32LogLevel where
  | info
  | warn
  | error
  | other

def fat32StmLog (cmdMode : Bool) (stack : LogStack) (level : Fat32LogLevel)
    (file : List (BitVec 8)) (line : Int) (text : Option (List (BitVec 8))) : LogProc Unit :=
  match level with
  | .info => vstmLog cmdMode stack .info 0#16 file line text
  | .warn => vstmLog cmdMode stack .warning 0#16 file line text
  | .error => vstmLog cmdMode stack .error 0#16 file line text
  | .other => return ()

/-- What is asked of the log, in any order. -/
inductive LogRequest where
  | stmLog (stack : LogStack) (level : LogLevel) (errCode : BitVec 16) (file : List (BitVec 8))
      (line : Int) (text : Option (List (BitVec 8)))
  | fat32StmLog (stack : LogStack) (level : Fat32LogLevel) (file : List (BitVec 8)) (line : Int)
      (text : Option (List (BitVec 8)))
  /-- The program changes `current_level`. -/
  | setLevel (level : LogLevel)

def LogRequest.run (cmdMode : Bool) : LogRequest → LogProc Unit
  | .stmLog stack level errCode file line text =>
      Logger.stmLog cmdMode stack level errCode file line text
  | .fat32StmLog stack level file line text =>
      Logger.fat32StmLog cmdMode stack level file line text
  | .setLevel level => assign fun log => { log with currentLevel := level }

def runRequests (cmdMode : Bool) : List LogRequest → LogProc Unit
  | [] => return ()
  | request :: requests => do
      request.run cmdMode
      runRequests cmdMode requests

/-! ## The messages -/

/-- A message as `vstm_log` puts it together. -/
@[ext]
structure LogMessage where
  level : LogLevel
  text : List (BitVec 8)
  fits : text.length < sizeofBuff

/-- What is transferred of a message. -/
def LogMessage.bytes (cmdMode : Bool) (message : LogMessage) : List (BitVec 8) :=
  if cmdMode then logHeader message.text.length message.level ++ message.text else message.text

/-- The text as far as the buffer takes it. -/
def cutOff (file : List (BitVec 8)) (line : Int) (text : List (BitVec 8)) : List (BitVec 8) :=
  (logPrefix file line ++ text).take (sizeofBuff - 1)

theorem length_cutOff {file text : List (BitVec 8)} {line : Int} :
    (cutOff file line text).length < sizeofBuff :=
  Nat.lt_of_le_of_lt (List.length_take_le _ _) (by decide)

/-- There is no message below the level, for a prefix that does not fit, and for a text that cannot
be formatted. -/
def logged (currentLevel level : LogLevel) (file : List (BitVec 8)) (line : Int)
    (text : Option (List (BitVec 8))) : Option LogMessage :=
  if level.value < currentLevel.value then none
  else if (logPrefix file line).length < sizeofBuff then
    text.map fun t => ⟨level, cutOff file line t, length_cutOff⟩
  else none

/-- The level of the library's level. -/
def Fat32LogLevel.level : Fat32LogLevel → Option LogLevel
  | .info => some .info
  | .warn => some .warning
  | .error => some .error
  | .other => none

def LogRequest.message (currentLevel : LogLevel) : LogRequest → Option LogMessage
  | .stmLog _ level _ file line text => logged currentLevel level file line text
  | .fat32StmLog _ level file line text =>
      level.level.bind fun l => logged currentLevel l file line text
  | .setLevel _ => none

def LogRequest.levelAfter (currentLevel : LogLevel) : LogRequest → LogLevel
  | .setLevel level => level
  | _ => currentLevel

/-- The messages of a sequence of requests. -/
def messages : LogLevel → List LogRequest → List LogMessage
  | _, [] => []
  | currentLevel, request :: requests =>
      (request.message currentLevel).toList ++ messages (request.levelAfter currentLevel) requests

/-! ## Messages behind each other -/

/-- The header tells where the message ends, and its level. -/
theorem logHeader_inj {length length' : Nat} {level level' : LogLevel}
    (hlength : length < sizeofBuff) (hlength' : length' < sizeofBuff)
    (h : logHeader length level = logHeader length' level') :
    length = length' ∧ level = level' := by
  simp only [logHeader, List.cons.injEq, and_true] at h
  obtain ⟨hlow, hhigh, hlevel⟩ := h
  unfold sizeofBuff at hlength hlength'
  constructor
  · have hlow' := congrArg BitVec.toNat hlow
    have hhigh' := congrArg BitVec.toNat hhigh
    simp only [BitVec.toNat_ofNat] at hlow' hhigh'
    omega
  · cases level <;> cases level' <;> first | rfl | exact absurd hlevel (by decide)

/-- Messages with headers can be told apart. -/
theorem flatMap_bytes_injective {ms ms' : List LogMessage}
    (h : ms.flatMap (LogMessage.bytes true) = ms'.flatMap (LogMessage.bytes true)) : ms = ms' := by
  induction ms generalizing ms' with
  | nil =>
      cases ms' with
      | nil => rfl
      | cons m' ms' => simp [LogMessage.bytes, logHeader] at h
  | cons m ms ih =>
      cases ms' with
      | nil => simp [LogMessage.bytes, logHeader] at h
      | cons m' ms' =>
          simp only [List.flatMap_cons, LogMessage.bytes, if_pos, List.append_assoc] at h
          obtain ⟨hheader, hrest⟩ := List.append_inj h rfl
          obtain ⟨hlength, hlevel⟩ := logHeader_inj m.fits m'.fits hheader
          obtain ⟨htext, hmore⟩ := List.append_inj hrest hlength
          have hm : m = m' := LogMessage.ext hlevel htext
          rw [hm, ih hmore]

/-! ## The formatter and the output -/

/-- The formatter counts in `int`, and has nothing to say about a longer text. -/
def intMax : Nat := 2 ^ 31 - 1

structure SinkState where
  memory : Memory 32 (BitVec 8)
  output : List (BitVec 8)

/-- Only cells of the region are different. -/
def OnlyWithin (mem mem' : Memory 32 (BitVec 8)) (p : BitVec 32) (n : Nat) : Prop :=
  ∀ x, ¬InRegion p n x → mem' x = mem x

def textStep (mem : Memory 32 (BitVec 8)) (e : TextEvent) (r : e.Response)
    (mem' : Memory 32 (BitVec 8)) : Prop :=
  match e, r with
  | .snprintf dst n (some text), (r : Int) =>
      if text.length ≤ intMax then r = text.length ∧ mem' = mem.print 0#8 dst n text
      else r < 0 ∧ OnlyWithin mem mem' dst n
  | .snprintf dst n none, (r : Int) => r < 0 ∧ OnlyWithin mem mem' dst n
  | .init dst bytes, _ => mem' = mem.store dst bytes.length fun i => bytes.getD i 0#8
  | .memcpy dst src n, _ => mem' = mem.copy dst src n

/-- A length is positive and fits in a `uint16_t`, which is what becomes of it. -/
def logSink (func : BitVec 32) : Env LogEvent LogEvent.Response SinkState where
  req _ e :=
    match e with
    | .text _ => True
    | .transfer f _ length => f = func ∧ 0 ≤ length ∧ length < 2 ^ 16
  step s e r s' :=
    match e, r with
    | .text e, r => textStep s.memory e r s'.memory ∧ s'.output = s.output
    | .transfer _ data length, _ =>
        s'.memory = s.memory ∧ s'.output = s.output ++ bytesAt s.memory data length.toNat

variable {D : SinkState → Prop} {g : LogGlobals} {s : SinkState} {func : BitVec 32}
  {cmdMode : Bool} {stack : LogStack} {level : LogLevel}
  {file : List (BitVec 8)} {line : Int} {text : Option (List (BitVec 8))}

/-! ## One call -/

theorem wp_snprintf {dst : BitVec 32} {n : Nat} {t : List (BitVec 8)} (ht : t.length ≤ intMax) :
    (snprintf dst n (some t)).wp (logSink func) D
      (fun r g' s' => r = t.length ∧ g' = g ∧ s' = { s with memory := s.memory.print 0#8 dst n t })
      g s := by
  refine wp_perform.2 ⟨trivial, ?_⟩
  rintro (r : Int) ⟨mem', output'⟩ ⟨hstep, rfl⟩
  obtain ⟨hr, hmem⟩ := (if_pos ht).mp hstep
  exact ⟨hr, rfl, congrArg (SinkState.mk · s.output) hmem⟩

/-- A text that cannot be counted is refused. -/
theorem wp_snprintf_fails {dst : BitVec 32} {n : Nat} (ht : ∀ t ∈ text, intMax < t.length) :
    (snprintf dst n text).wp (logSink func) D
      (fun r g' s' => r < 0 ∧ g' = g ∧ s'.output = s.output ∧
        OnlyWithin s.memory s'.memory dst n) g s := by
  refine wp_perform.2 ⟨trivial, ?_⟩
  rintro (r : Int) s' ⟨hstep, houtput⟩
  cases text with
  | none => exact ⟨hstep.1, rfl, houtput, hstep.2⟩
  | some t =>
      obtain ⟨hr, hmem⟩ := (if_neg (Nat.not_le.2 (ht t rfl))).mp hstep
      exact ⟨hr, rfl, houtput, hmem⟩

/-- What one call leaves alone. -/
def LogStack.Outside (stack : LogStack) (cmdMode : Bool) (x : BitVec 32) : Prop :=
  ¬InRegion stack.buff sizeofBuff x ∧
    (cmdMode = true → ¬InRegion stack.message (sizeofBuff + 3) x)

theorem LogStack.Outside.behind {x : BitVec 32} {k : Nat} (h : stack.Outside cmdMode x)
    (hk : k < sizeofBuff) : ¬InRegion (nth stack.buff k) (sizeofBuff - k) x := fun hin =>
  h.1 (hin.of_nth (by omega) (by decide))

theorem wp_transfer {data : BitVec 32} {size : Nat} {output : List (BitVec 8)}
    (hfunc : g.transferFunc = func) (hsize : size < 2 ^ 16)
    (hbytes : bytesAt s.memory data size = output) :
    (transfer g.transferFunc data size).wp (logSink func) D
      (fun _ g' s' => g' = g ∧ s'.memory = s.memory ∧ s'.output = s.output ++ output) g s := by
  refine wp_perform.2 ⟨⟨hfunc, Int.natCast_nonneg size, by exact_mod_cast hsize⟩, ?_⟩
  rintro _ s' ⟨hmem, houtput⟩
  rw [Int.toNat_natCast, hbytes] at houtput
  exact ⟨rfl, hmem, houtput⟩

/-- The message as it stands in `message`, behind its header. -/
theorem bytesAt_framed {mem : Memory 32 (BitVec 8)} {header message : List (BitVec 8)}
    {size : Nat} (hheader : header.length = 3) (hsize : message.length = size)
    (hroom : size < sizeofBuff) (hbytes : bytesAt mem stack.buff size = message) :
    bytesAt ((mem.store stack.message (header ++ List.replicate sizeofBuff 0#8).length
        fun i => (header ++ List.replicate sizeofBuff 0#8).getD i 0#8).copy
          (nth stack.message 3) stack.buff size) stack.message (3 + size) =
      header ++ message := by
  have hlength : (header ++ List.replicate sizeofBuff 0#8).length = sizeofBuff + 3 := by
    rw [List.length_append, hheader, List.length_replicate, Nat.add_comm]
  rw [hlength, bytesAt_add, bytesAt_copy (by unfold sizeofBuff at hroom; omega)]
  congr 1
  · -- The header is before the copy.
    have hcopy : ∀ i, i < 3 → ∀ mem' : Memory 32 (BitVec 8),
        mem'.copy (nth stack.message 3) stack.buff size (nth stack.message i) =
          mem' (nth stack.message i) := by
      intro i hi mem'
      refine Memory.copy_outside fun hin => ?_
      rcases hin.exists_nth with ⟨j, hj, heq⟩
      rw [nth_nth] at heq
      unfold sizeofBuff at hroom
      have hsame := nth_inj (by omega) (by omega) heq
      omega
    rw [bytesAt_congr fun i hi => hcopy i hi _, bytesAt_store (by omega) (by decide)]
    apply List.ext_getElem
    · simp [hheader]
    · intro i hi hi'
      simp [List.getD_eq_getElem?_getD, List.getElem?_append_left hi',
        List.getElem?_eq_getElem hi']
  · -- The store before the copy does not reach `buff`.
    rw [← hbytes]
    refine bytesAt_congr fun i hi => Memory.store_outside fun hin => ?_
    exact stack.apart _ hin (inRegion_nth (by omega) (by decide))

/-- The end of `vstm_log`, once the message is in `buff`. -/
theorem wp_transferMessage (message : LogMessage) {size : Nat} (hfunc : g.transferFunc = func)
    (hsize : message.text.length = size)
    (hbytes : bytesAt s.memory stack.buff size = message.text) :
    (if cmdMode then do
        initVariable stack.message (logHeader size message.level ++ List.replicate sizeofBuff 0#8)
        memcpy (nth stack.message 3) stack.buff size
        let _ ← transfer g.transferFunc stack.message ((2 + 1 + size : Nat) : Int)
      else do
        let _ ← transfer g.transferFunc stack.buff size
      : LogProc Unit).wp (logSink func) D
      (fun _ g' s' => g' = g ∧ (∀ x, stack.Outside cmdMode x → s'.memory x = s.memory x) ∧
        s'.output = s.output ++ message.bytes cmdMode) g s := by
  have hroom : size < sizeofBuff := hsize ▸ message.fits
  have hsmall : 3 + size < 2 ^ 16 := by
    unfold sizeofBuff at hroom
    omega
  cases cmdMode with
  | true =>
      refine wp_bind.2 (wp_perform.2 ⟨trivial, ?_⟩)
      rintro _ s₁ ⟨hmem₁, houtput₁⟩
      refine wp_bind.2 (wp_perform.2 ⟨trivial, ?_⟩)
      rintro _ s₂ ⟨hmem₂, houtput₂⟩
      have hframed : bytesAt s₂.memory stack.message (3 + size) =
          logHeader size message.level ++ message.text := by
        rw [hmem₂, hmem₁]
        exact bytesAt_framed rfl hsize hroom hbytes
      refine wp_seq (wp_transfer hfunc hsmall hframed) ?_
      rintro _ _ s₃ ⟨rfl, hmem₃, houtput₃⟩
      refine ⟨rfl, ?_, ?_⟩
      · rintro x ⟨_, hmessage⟩
        -- Both writes are within `message`.
        have hx := hmessage rfl
        have hlength : (logHeader size message.level ++ List.replicate sizeofBuff 0#8).length =
            sizeofBuff + 3 := by
          simp [logHeader]
        have hcopy : ¬InRegion (nth stack.message 3) size x := fun hin =>
          hx (hin.of_nth (by omega) (by decide))
        rw [hmem₃, hmem₂, Memory.copy_outside hcopy, hmem₁, Memory.store_outside]
        rw [hlength]
        exact hx
      · rw [houtput₃, houtput₂, houtput₁, LogMessage.bytes, if_pos rfl, hsize]
  | false =>
      have hbuff : size < 2 ^ 16 := by omega
      refine wp_seq (wp_transfer hfunc hbuff hbytes) ?_
      rintro _ _ s₁ ⟨rfl, hmem₁, houtput₁⟩
      refine ⟨rfl, fun x _ => congrFun hmem₁ x, ?_⟩
      rw [houtput₁, LogMessage.bytes, if_neg Bool.false_ne_true]

/-- What no message transfers. -/
theorem append_nothing {output : List (BitVec 8)} :
    output = output ++ (none : Option LogMessage).toList.flatMap (LogMessage.bytes cmdMode) :=
  (List.append_nil output).symm

/-- The length that is computed is that of the text as it was cut off. -/
theorem size_eq {front back : List (BitVec 8)} :
    (if (front.length : Int) + back.length ≥ sizeofBuff then sizeofBuff - 1
      else ((front.length : Int) + back.length).toNat) =
      ((front ++ back).take (sizeofBuff - 1)).length := by
  rw [List.length_take, List.length_append]
  split <;> omega

theorem wp_vstmLog (errCode : BitVec 16) (hfunc : g.transferFunc = func)
    (hsize : ∀ t ∈ text, t.length + sizeofBuff ≤ intMax) :
    (vstmLog cmdMode stack level errCode file line text).wp (logSink func) D
      (fun _ g' s' => g' = g ∧ (∀ x, stack.Outside cmdMode x → s'.memory x = s.memory x) ∧
        s'.output = s.output ++ (logged g.currentLevel level file line text).toList.flatMap
          (LogMessage.bytes cmdMode)) g s := by
  refine wp_bind.2 (wp_globals.2 ?_)
  refine wp_guard ?_ ?_
  · intro hlow
    rw [logged, if_pos hlow]
    exact ⟨rfl, fun _ _ => rfl, append_nothing⟩
  intro hlevel
  rw [logged, if_neg hlevel]
  by_cases hroom : (logPrefix file line).length < sizeofBuff
  swap
  · -- The prefix alone fills the buffer, or cannot be counted.
    rw [if_neg hroom]
    by_cases hcount : (logPrefix file line).length ≤ intMax
    · refine wp_seq (wp_snprintf hcount) ?_
      rintro offset _ _ ⟨rfl, rfl, rfl⟩
      refine wp_guard ?_ ?_
      · intro _
        exact ⟨rfl, fun x hx => Memory.print_outside hx.1, append_nothing⟩
      · intro hgood
        exact absurd (Or.inr (by omega)) hgood
    · have hlong : ∀ t ∈ some (logPrefix file line), intMax < t.length := by
        rintro _ ⟨⟩
        omega
      refine wp_seq (wp_snprintf_fails hlong) ?_
      rintro offset _ s₁ ⟨hneg, rfl, houtput, hmem⟩
      refine wp_guard ?_ ?_
      · intro _
        exact ⟨rfl, fun x hx => hmem x hx.1, houtput.trans append_nothing⟩
      · intro hgood
        exact absurd (Or.inl hneg) hgood
  rw [if_pos hroom]
  have hcount : (logPrefix file line).length ≤ intMax :=
    (Nat.le_of_lt hroom).trans (by decide)
  refine wp_seq (wp_snprintf hcount) ?_
  rintro offset _ _ ⟨rfl, rfl, rfl⟩
  refine wp_guard ?_ ?_
  · intro hbad
    exact absurd hbad (by omega)
  intro _
  rw [Int.toNat_natCast]
  cases text with
  | none =>
      refine wp_seq (wp_snprintf_fails nofun) ?_
      rintro written _ s₁ ⟨hneg, rfl, houtput, hmem⟩
      refine wp_guard ?_ ?_
      · intro _
        refine ⟨rfl, fun x hx => ?_, houtput.trans append_nothing⟩
        exact (hmem x (hx.behind hroom)).trans (Memory.print_outside hx.1)
      · intro hpos
        exact absurd hneg hpos
  | some t =>
      have ht := hsize t rfl
      refine wp_seq (wp_snprintf (by omega)) ?_
      rintro written _ _ ⟨rfl, rfl, rfl⟩
      refine wp_guard ?_ ?_
      · intro hneg
        exact absurd hneg (by omega)
      intro _
      dsimp only
      rw [size_eq]
      have hmessage : bytesAt ((s.memory.print 0#8 stack.buff sizeofBuff (logPrefix file line)).print
          0#8 (nth stack.buff (logPrefix file line).length)
          (sizeofBuff - (logPrefix file line).length) t) stack.buff
          (cutOff file line t).length = cutOff file line t :=
        bytesAt_print_print hroom (by decide)
      let message : LogMessage := ⟨level, cutOff file line t, length_cutOff⟩
      refine wp_mono (wp_transferMessage message hfunc rfl hmessage) ?_
      rintro _ _ s₁ ⟨rfl, hmem, houtput⟩
      refine ⟨rfl, fun x hx => ?_, ?_⟩
      · have hsecond : (s.memory.print 0#8 stack.buff sizeofBuff (logPrefix file line)).print 0#8
            (nth stack.buff (logPrefix file line).length)
            (sizeofBuff - (logPrefix file line).length) t x =
            s.memory.print 0#8 stack.buff sizeofBuff (logPrefix file line) x :=
          Memory.print_outside (hx.behind hroom)
        exact (hmem x hx).trans (hsecond.trans (Memory.print_outside hx.1))
      · rw [houtput]
        simp [message]

/-! ## Any sequence of calls -/

/-- The text can be counted together with its prefix. -/
def LogRequest.Countable : LogRequest → Prop
  | .stmLog _ _ _ _ _ text => ∀ t ∈ text, t.length + sizeofBuff ≤ intMax
  | .fat32StmLog _ _ _ _ text => ∀ t ∈ text, t.length + sizeofBuff ≤ intMax
  | .setLevel _ => True

/-- A cell that the request does not use the stack of. -/
def LogRequest.Outside (cmdMode : Bool) (x : BitVec 32) : LogRequest → Prop
  | .stmLog stack _ _ _ _ _ => stack.Outside cmdMode x
  | .fat32StmLog stack _ _ _ _ => stack.Outside cmdMode x
  | .setLevel _ => True

theorem wp_run {request : LogRequest} (hfunc : g.transferFunc = func)
    (hcount : request.Countable) :
    (request.run cmdMode).wp (logSink func) D
      (fun _ g' s' => (g'.transferFunc = func ∧
          g'.currentLevel = request.levelAfter g.currentLevel) ∧
        (∀ x, request.Outside cmdMode x → s'.memory x = s.memory x) ∧
        s'.output = s.output ++ (request.message g.currentLevel).toList.flatMap
          (LogMessage.bytes cmdMode)) g s := by
  cases request with
  | stmLog stack level errCode file line text =>
      refine wp_mono (wp_vstmLog errCode hfunc hcount) ?_
      rintro _ _ s' ⟨rfl, hmem, houtput⟩
      exact ⟨⟨hfunc, rfl⟩, hmem, houtput⟩
  | fat32StmLog stack level file line text =>
      cases level with
      | other => exact ⟨⟨hfunc, rfl⟩, fun _ _ => rfl, append_nothing⟩
      | _ =>
          refine wp_mono (wp_vstmLog 0#16 hfunc hcount) ?_
          rintro _ _ s' ⟨rfl, hmem, houtput⟩
          exact ⟨⟨hfunc, rfl⟩, hmem, houtput⟩
  | setLevel level => exact ⟨⟨hfunc, rfl⟩, fun _ _ => rfl, append_nothing⟩

/-- By induction on the requests, with what was transferred before in front. -/
theorem wp_runRequests {requests : List LogRequest} (hfunc : g.transferFunc = func)
    (hcount : ∀ request ∈ requests, request.Countable) :
    (runRequests cmdMode requests).wp (logSink func) D
      (fun _ g' s' => g'.transferFunc = func ∧
        (∀ x, (∀ request ∈ requests, request.Outside cmdMode x) → s'.memory x = s.memory x) ∧
        s'.output = s.output ++ (messages g.currentLevel requests).flatMap
          (LogMessage.bytes cmdMode)) g s := by
  induction requests generalizing g s with
  | nil => exact ⟨hfunc, fun _ _ => rfl, (List.append_nil _).symm⟩
  | cons request requests ih =>
      refine wp_seq (wp_run hfunc (hcount request List.mem_cons_self)) ?_
      rintro _ g₁ s₁ ⟨⟨hfunc₁, hlevel₁⟩, hmem₁, houtput₁⟩
      refine wp_mono (ih hfunc₁ fun r hr => hcount r (List.mem_cons_of_mem _ hr)) ?_
      rintro _ g₂ s₂ ⟨hfunc₂, hmem₂, houtput₂⟩
      refine ⟨hfunc₂, ?_, ?_⟩
      · intro x hx
        have hrest := hmem₂ x fun r hr => hx r (List.mem_cons_of_mem _ hr)
        exact hrest.trans (hmem₁ x (hx request List.mem_cons_self))
      · rw [houtput₂, houtput₁, hlevel₁, messages, List.flatMap_append, List.append_assoc]

end Logger
end SdioFat32
