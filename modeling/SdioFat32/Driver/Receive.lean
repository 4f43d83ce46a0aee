import SdioFat32.Driver.Receiver

/-!
# Receive — what a polled read that returns 0 has received

While a loop runs, the words taken out so far are in the buffer and the rest of what has arrived is
in the FIFO, unless a word was lost, which `RXOVERR` keeps telling.  A loop that is ended by
`DATAEND` or `DBCKEND` leaves nothing to arrive; one that is ended by an error leaves a flag up for
one of the tests after it.
-/

namespace SdioFat32
namespace Driver

open Effects Cells Proc

variable {words : Nat → BitVec 32} {inbox : Inbox} {all : Prop} {k m fuel : Nat}
  {P P' : Memory 32 (BitVec 8) → Prop} {D : RxState → Prop} {g : SdGlobals} {s s' : RxState}
  {w : BitVec 32}

/-! ## The words on their way -/

/-- `k` words were taken out of the FIFO, the rest of those that arrived is in it, and memory is as
`P` says; unless a word was lost, or if `all` words have arrived without a loss. -/
structure Lined (words : Nat → BitVec 32) (inbox : Inbox) (all : Prop) (k : Nat)
    (P : Memory 32 (BitVec 8) → Prop) (s : RxState) : Prop where
  total : 4 * s.total = inbox.length
  queued : k + s.queue.length ≤ s.arrived
  arrived : s.arrived ≤ s.total
  ended : hasFlag s.flags rxEndFlags = true → s.arrived = s.total
  complete : all → s.arrived = s.total
  intact : all ∨ hasFlag s.flags sdioStaRxoverr = false →
    s.queue = slice words k s.arrived ∧ P s.mem
  spared : Spares inbox s

/-- The first `k` words are in the buffer. -/
def Stored (words : Nat → BitVec 32) (inbox : Inbox) (k : Nat) (mem : Memory 32 (BitVec 8)) :
    Prop :=
  mem.Filled inbox.buffer (streamByte words) (4 * k)

theorem Lined.arrives (h : Lined words inbox all k P s) (harrives : Arrives words s s') :
    Lined words inbox all k P s' := by
  have hqueued := h.queued
  cases harrives with
  | word henabled hmore hroom =>
      refine ⟨h.total, ?_, hmore, ?_, ?_, ?_, h.spared⟩
      · simp only [List.length_append, List.length_singleton]
        omega
      · intro hend
        have := h.ended hend
        omega
      · intro hall
        have := h.complete hall
        omega
      · intro hkept
        rcases h.intact hkept with ⟨hqueue, hP⟩
        refine ⟨?_, hP⟩
        dsimp only
        rw [hqueue, slice_push (by omega)]
  | lost henabled hmore hfull =>
      refine ⟨h.total, Nat.le_succ_of_le hqueued, hmore, ?_, ?_, ?_, h.spared⟩
      · intro hend
        have hapart : hasFlag sdioStaRxoverr rxEndFlags = false := by decide
        rw [hasFlag_left_or, hapart, Bool.or_false] at hend
        have := h.ended hend
        omega
      · intro hall
        have := h.complete hall
        omega
      · rintro (hall | hkept)
        · have := h.complete hall
          omega
        -- The loss is told.
        · have hself : hasFlag sdioStaRxoverr sdioStaRxoverr = true := by decide
          rw [hasFlag_left_or, hself, Bool.or_true] at hkept
          cases hkept
  | flag raised hraised =>
      refine ⟨h.total, hqueued, h.arrived, ?_, h.complete, ?_, h.spared⟩
      · intro hend
        rw [hasFlag_left_or, Bool.or_eq_true] at hend
        rcases hend with hend | hend
        · exact h.ended hend
        · exact (hraised hend).2
      · rintro (hall | hkept)
        · exact h.intact (Or.inl hall)
        · rw [hasFlag_left_or, Bool.or_eq_false_iff] at hkept
          exact h.intact (Or.inr hkept.1)

theorem Lined.clears {v : BitVec 32} (h : Lined words inbox all k P s)
    (hv : v &&& rxStaticFlags = 0#32) : Lined words inbox all k P (s.clear v) := by
  refine ⟨h.total, h.queued, h.arrived, ?_, h.complete, ?_, h.spared⟩
  · intro hend
    exact h.ended ((hasFlag_clear hv (by decide) _).symm.trans hend)
  · rintro (hall | hkept)
    · exact h.intact (Or.inl hall)
    · exact h.intact (Or.inr ((hasFlag_clear hv (by decide) _).symm.trans hkept))

theorem steady_lined : Steady words inbox (Lined words inbox all k P) where
  arrives _ _ harrives h := h.arrives harrives
  clears _ _ hv h := h.clears hv
  spared _ h := h.spared

theorem Arrives.length_le (h : Arrives words s s') : s.queue.length ≤ s'.queue.length := by
  cases h with
  | word => simp
  | lost => exact Nat.le_refl _
  | flag => exact Nat.le_refl _

/-- The same with at least `m` words in the FIFO. -/
theorem steady_lined_queue :
    Steady words inbox (fun s => Lined words inbox all k P s ∧ m ≤ s.queue.length) :=
  steady_lined.and (fun _ _ harrives hm => hm.trans harrives.length_le) (fun _ _ _ hm => hm)

/-! ## Taking out a word -/

/-- A word is in the hand of the program. -/
def Held (words : Nat → BitVec 32) (inbox : Inbox) (k : Nat) (w : BitVec 32)
    (mem : Memory 32 (BitVec 8)) : Prop :=
  w = words k ∧ Stored words inbox k mem

theorem Lined.pop {rest : List (BitVec 32)} (h : Lined words inbox all k (Stored words inbox k) s)
    (hqueue : s.queue = w :: rest) :
    Lined words inbox all (k + 1) (Held words inbox k w) { s with queue := rest } := by
  have hlen : s.queue.length = rest.length + 1 := by simp [hqueue]
  have hqueued := h.queued
  refine ⟨h.total, ?_, h.arrived, h.ended, h.complete, ?_, h.spared⟩
  · dsimp only
    omega
  · intro hkept
    rcases h.intact hkept with ⟨hslice, hstored⟩
    rw [hqueue, slice_pop (by omega), List.cons.injEq] at hslice
    exact ⟨hslice.2, hslice.1, hstored⟩

theorem Stored.store {mem : Memory 32 (BitVec 8)} (h : Held words inbox k w mem)
    (hfits : 4 * (k + 1) ≤ 2 ^ 32) :
    Stored words inbox (k + 1) (mem.store (nth inbox.buffer (4 * k)) 4 (wordByte w)) := by
  rcases h with ⟨rfl, hstored⟩
  have hnext := Memory.Filled.store (m := 4) hstored hfits
  intro i hi
  rw [← hnext i hi]
  by_cases hin : InRegion (nth inbox.buffer (4 * k)) 4 (nth inbox.buffer i)
  · rw [Memory.store, Memory.store, if_pos hin, if_pos hin, streamByte_add hin]
  · rw [Memory.store_outside hin, Memory.store_outside hin]

/-- There is room in the buffer for a word that was taken out. -/
theorem Lined.inRegion {x : BitVec 32} (h : Lined words inbox all (k + 1) P s)
    (hlength : inbox.length ≤ 2 ^ 32) (hin : InRegion (nth inbox.buffer (4 * k)) 4 x) :
    InRegion inbox.buffer inbox.length x := by
  have htotal := h.total
  have hqueued := h.queued
  have harrived := h.arrived
  have hroom : 4 * k + 4 ≤ inbox.length := by omega
  exact hin.of_nth hroom hlength

theorem Lined.store (h : Lined words inbox all (k + 1) (Held words inbox k w) s)
    (hlength : inbox.length ≤ 2 ^ 32) :
    Lined words inbox all (k + 1) (Stored words inbox (k + 1))
      { s with mem := s.mem.store (nth inbox.buffer (4 * k)) 4 (wordByte w) } := by
  have htotal := h.total
  have hqueued := h.queued
  have harrived := h.arrived
  refine ⟨htotal, hqueued, harrived, h.ended, h.complete, ?_, ?_⟩
  · intro hkept
    rcases h.intact hkept with ⟨hslice, hheld⟩
    exact ⟨hslice, Stored.store hheld (by omega)⟩
  · intro x hx
    have hout : ¬InRegion (nth inbox.buffer (4 * k)) 4 x := fun hin => hx (h.inRegion hlength hin)
    rw [← h.spared x hx]
    exact Memory.store_outside hout

/-- Take a word out of the FIFO, put it into the buffer and go on. -/
theorem wp_takeWord {α : Type} {f : SdProc α} {Q : α → SdGlobals → RxState → Prop}
    {addr : BitVec 32} (hlength : inbox.length ≤ 2 ^ 32) (haddr : addr = nth inbox.buffer (4 * k))
    (h : Lined words inbox all k (Stored words inbox k) s) (hm : m + 1 ≤ s.queue.length)
    (hf : ∀ g' s', Lined words inbox all (k + 1) (Stored words inbox (k + 1)) s' →
      m ≤ s'.queue.length → f.wp (receiver words inbox) D Q g' s') :
    (do
      let w ← readReg .fifo
      storeWord addr w
      f).wp (receiver words inbox) D Q g s := by
  have hqueue : s.queue ≠ [] := by
    intro hnil
    rw [hnil] at hm
    exact absurd hm (Nat.not_succ_le_zero m)
  rw [wp_bind]
  refine wp_readFifo_receiver steady_lined_queue ⟨h, hm⟩ hqueue ?_
  rintro s₁ w rest ⟨h₁, hm₁⟩ hsplit
  have hrest : m ≤ rest.length := by
    rw [hsplit, List.length_cons] at hm₁
    exact Nat.le_of_succ_le_succ hm₁
  -- Between the read and the store one word is on the way.
  have hheld := h₁.pop hsplit
  subst haddr
  refine wp_seq (wp_storeWord_receiver (J := fun s => Lined words inbox all (k + 1)
    (Stored words inbox (k + 1)) s ∧ m ≤ s.queue.length) steady_lined_queue ⟨hheld, hrest⟩
    (fun x hin => hheld.inRegion hlength hin) ?_) ?_
  · rintro s₂ ⟨h₂, hm₂⟩
    exact ⟨h₂.store hlength, hm₂⟩
  · rintro _ g₃ s₃ ⟨h₃, hm₃⟩
    exact hf g₃ s₃ h₃ hm₃

/-- The pointer after `k` words. -/
theorem nth_buffer_succ :
    nth inbox.buffer (4 * k) + 4#32 = nth inbox.buffer (4 * (k + 1)) := by
  have hfour : nth (nth inbox.buffer (4 * k)) 4 = nth inbox.buffer (4 * (k + 1)) := nth_nth _ _ _
  exact hfour

/-! ## The end of a loop -/

/-- All words have arrived without a loss, or one of the flags `mask` is up. -/
def Decided (words : Nat → BitVec 32) (inbox : Inbox) (k : Nat) (mask : BitVec 32) (s : RxState) :
    Prop :=
  Lined words inbox True k (Stored words inbox k) s ∨ hasFlag s.flags mask = true ∧ Spares inbox s

theorem steady_decided {mask : BitVec 32} (hmask : rxStaticFlags &&& mask = mask) :
    Steady words inbox (Decided words inbox k mask) where
  arrives s s' harrives h := by
    rcases h with h | ⟨hflag, hspared⟩
    · exact Or.inl (h.arrives harrives)
    · refine Or.inr ?_
      cases harrives with
      | word => exact ⟨hflag, hspared⟩
      | lost =>
          refine ⟨?_, hspared⟩
          rw [hasFlag_left_or, hflag, Bool.true_or]
      | flag raised =>
          refine ⟨?_, hspared⟩
          rw [hasFlag_left_or, hflag, Bool.true_or]
  clears s v hv h := by
    rcases h with h | ⟨hflag, hspared⟩
    · exact Or.inl (h.clears hv)
    · exact Or.inr ⟨(hasFlag_clear hv hmask _).trans hflag, hspared⟩
  spared s h := by
    rcases h with h | ⟨_, hspared⟩
    · exact h.spared
    · exact hspared

/-- A loop ends with an error flag or with a flag of the end of the transfer. -/
theorem Lined.decided {sta endFlag : BitVec 32}
    (h : Lined words inbox False k (Stored words inbox k) s) (hshows : s.Shows sta)
    (hstatic : rxStaticFlags &&& endFlag = endFlag) (hend : rxEndFlags &&& endFlag = endFlag)
    (hended : hasFlag sta (rxErrorFlags ||| endFlag) = true) :
    Decided words inbox k rxErrorFlags s := by
  cases herror : hasFlag s.flags rxErrorFlags with
  | true => exact Or.inr ⟨herror, h.spared⟩
  | false =>
      rw [hasFlag_or, hshows.hasFlag (by decide), herror, Bool.false_or,
        hshows.hasFlag hstatic] at hended
      have hall : s.arrived = s.total := h.ended (hasFlag_of_part hend hended)
      have hkept : hasFlag s.flags sdioStaRxoverr = false := hasFlag_part_false (by decide) herror
      exact Or.inl ⟨h.total, h.queued, h.arrived, h.ended, fun _ => hall,
        fun _ => h.intact (Or.inr hkept), h.spared⟩

/-- The flags of a list of tests. -/
def testFlags (tests : List (BitVec 32 × Int)) : BitVec 32 :=
  tests.foldr (fun t mask => t.1 ||| mask) 0#32

theorem testFlags_static {tests : List (BitVec 32 × Int)}
    (htests : ∀ t ∈ tests, rxStaticFlags &&& t.1 = t.1) :
    rxStaticFlags &&& testFlags tests = testFlags tests := by
  induction tests with
  | nil => rfl
  | cons t tests ih =>
      have hhead := htests t List.mem_cons_self
      have htail := ih fun t ht => htests t (List.mem_cons_of_mem _ ht)
      have hdistrib : rxStaticFlags &&& (t.1 ||| testFlags tests) =
          rxStaticFlags &&& t.1 ||| rxStaticFlags &&& testFlags tests := by
        ext i
        simp [Bool.and_or_distrib_left]
      calc
        rxStaticFlags &&& testFlags (t :: tests)
            = rxStaticFlags &&& t.1 ||| rxStaticFlags &&& testFlags tests := hdistrib
        _ = testFlags (t :: tests) := by
              rw [hhead, htail]
              rfl

/-- Whoever passes the tests has all words. -/
theorem wp_exitTests_receiver {tests : List (BitVec 32 × Int)}
    (hstatic : ∀ t ∈ tests, rxStaticFlags &&& t.1 = t.1) (herrors : ∀ t ∈ tests, t.2 ≠ 0)
    (h : Decided words inbox k (testFlags tests) s) :
    (exitTests tests).wp (receiver words inbox) D
      (fun status _ s' => Spares inbox s' ∧
        (status = 0 → Lined words inbox True k (Stored words inbox k) s')) g s := by
  induction tests generalizing g s with
  | nil =>
      have hnone : hasFlag s.flags (testFlags []) = false := by
        simp [testFlags, hasFlag]
      rcases h with h | ⟨hflag, _⟩
      · exact ⟨h.spared, fun _ => h⟩
      · rw [hnone] at hflag
        cases hflag
  | cons t tests ih =>
      rcases t with ⟨flag, error⟩
      have hsteady : Steady words inbox
          (Decided words inbox k (testFlags ((flag, error) :: tests))) :=
        steady_decided (testFlags_static hstatic)
      unfold exitTests
      refine wp_seq (wp_readSta_receiver hsteady h) ?_
      rintro sta g₁ s₁ ⟨rfl, h₁, hshows⟩
      split
      next hset =>
        refine wp_seq (wp_writeIcr_receiver (J := Spares inbox) hsteady h₁
          fun s hs => hsteady.spared s hs) ?_
        rintro _ g₂ s₂ h₂
        have herror : error ≠ 0 := herrors (flag, error) List.mem_cons_self
        exact ⟨h₂, fun hzero => absurd hzero herror⟩
      next hclear =>
        refine ih (fun t ht => hstatic t (List.mem_cons_of_mem _ ht))
          (fun t ht => herrors t (List.mem_cons_of_mem _ ht)) ?_
        rcases h₁ with h₁ | ⟨hflag, hspared⟩
        · exact Or.inl h₁
        -- The flag that is up is one of those still to be tested.
        · have hdown : hasFlag s₁.flags flag = false := by
            rw [← hshows.hasFlag (hstatic (flag, error) List.mem_cons_self)]
            exact Bool.eq_false_iff.2 hclear
          have hrest : hasFlag s₁.flags (flag ||| testFlags tests) = true := hflag
          rw [hasFlag_or, hdown, Bool.false_or] at hrest
          exact Or.inr ⟨hrest, hspared⟩

/-! ## The polling loops -/

theorem wp_rxSingleLoop (hlength : inbox.length ≤ 2 ^ 32)
    (h : Lined words inbox False 0 (Stored words inbox 0) s) :
    (iter rxSingleStep fuel inbox.buffer).wp (receiver words inbox) (Spares inbox)
      (fun addr _ s' => ∃ k, addr = nth inbox.buffer (4 * k) ∧
        Decided words inbox k rxErrorFlags s') g s := by
  refine wp_iter (fun addr _ s' => ∃ k, addr = nth inbox.buffer (4 * k) ∧
    Lined words inbox False k (Stored words inbox k) s') ?_ ?_ fuel ⟨0, (nth_zero _).symm, h⟩
  · rintro addr g₁ s₁ ⟨k, haddr, h₁⟩
    unfold rxSingleStep
    refine wp_seq (wp_readSta_receiver steady_lined h₁) ?_
    rintro sta g₂ s₂ ⟨rfl, h₂, hshows⟩
    split
    next hended => exact ⟨k, haddr, h₂.decided hshows (by decide) (by decide) hended⟩
    next =>
      refine wp_seq (wp_readSta_receiver steady_lined h₂) ?_
      rintro sta' g₃ s₃ ⟨rfl, h₃, hshows'⟩
      split
      next hfull =>
        -- The FIFO is full, and one word is taken.
        have hlen : s₃.queue.length = fifoDepth := hshows'.full.1 hfull
        refine wp_takeWord (m := 0) hlength haddr h₃ (by rw [hlen]; decide) ?_
        intro g₄ s₄ h₄ _
        refine ⟨k + 1, ?_, h₄⟩
        rw [haddr, nth_buffer_succ]
      next => exact ⟨k, haddr, h₃⟩
  · rintro addr g₁ s₁ ⟨k, _, h₁⟩
    exact h₁.spared

/-! ## Emptying the FIFO -/

/-- All words are in the buffer. -/
def Delivery (words : Nat → BitVec 32) (inbox : Inbox) (s : RxState) : Prop :=
  s.mem.Filled inbox.buffer (streamByte words) inbox.length ∧ Spares inbox s

theorem steady_delivery : Steady words inbox (Delivery words inbox) where
  arrives s s' harrives h := by
    cases harrives with
    | word => exact h
    | lost => exact h
    | flag => exact h
  clears _ _ _ h := h
  spared _ h := h.2

/-- With the last word out of the FIFO. -/
theorem Lined.delivery (h : Lined words inbox True k (Stored words inbox k) s)
    (hlast : s.queue = [] ∨ inbox.length ≤ 4 * k) : Delivery words inbox s := by
  rcases h.intact (Or.inl trivial) with ⟨hslice, hstored⟩
  have htotal := h.total
  have hqueued := h.queued
  have hall := h.complete trivial
  have hlen : s.queue.length = s.arrived - k := by rw [hslice, length_slice]
  have hk : 4 * k = inbox.length := by
    rcases hlast with hnil | hle
    · rw [hnil, List.length_nil] at hlen
      omega
    · omega
  refine ⟨?_, h.spared⟩
  rw [← hk]
  exact hstored

theorem wp_rxSingleDrain (hlength : inbox.length ≤ 2 ^ 32)
    (h : Lined words inbox True k (Stored words inbox k) s) :
    (iter rxSingleDrainStep fuel (nth inbox.buffer (4 * k))).wp (receiver words inbox)
      (Spares inbox) (fun _ _ s' => Delivery words inbox s') g s := by
  refine wp_iter (fun addr _ s' => ∃ k, addr = nth inbox.buffer (4 * k) ∧
    Lined words inbox True k (Stored words inbox k) s') ?_ ?_ fuel ⟨k, rfl, h⟩
  · rintro addr g₁ s₁ ⟨k, haddr, h₁⟩
    unfold rxSingleDrainStep
    refine wp_seq (wp_readSta_receiver steady_lined h₁) ?_
    rintro sta g₂ s₂ ⟨rfl, h₂, hshows⟩
    split
    next havailable =>
      refine wp_takeWord (m := 0) hlength haddr h₂ (hshows.available.1 havailable) ?_
      intro g₃ s₃ h₃ _
      refine ⟨k + 1, ?_, h₃⟩
      rw [haddr, nth_buffer_succ]
    next hnone =>
      have hempty : s₂.queue = [] := by
        rw [hshows.available] at hnone
        exact List.eq_nil_of_length_eq_zero (by omega)
      exact h₂.delivery (Or.inl hempty)
  · rintro addr g₁ s₁ ⟨k, _, h₁⟩
    exact h₁.spared

/-- `data_remaining` after `k` words. -/
def remaining (inbox : Inbox) (k : Nat) : BitVec 32 := BitVec.ofNat 32 (inbox.length - 4 * k)

theorem remaining_succ (hk : 4 * (k + 1) ≤ inbox.length) :
    remaining inbox k - 4#32 = remaining inbox (k + 1) := by
  unfold remaining
  apply BitVec.eq_of_toNat_eq
  rw [BitVec.toNat_sub, BitVec.toNat_ofNat, BitVec.toNat_ofNat, BitVec.toNat_ofNat]
  omega

theorem remaining_pos (hlength : inbox.length < 2 ^ 32) :
    0#32 < remaining inbox k ↔ 4 * k < inbox.length := by
  unfold remaining
  rw [BitVec.lt_def, BitVec.toNat_ofNat, BitVec.toNat_ofNat, Nat.zero_mod,
    Nat.mod_eq_of_lt (by omega)]
  omega

/-- A burst takes out words that are in the FIFO when it starts. -/
theorem wp_rxBurst (hlength : inbox.length ≤ 2 ^ 32) (m : Nat) :
    ∀ {k : Nat} {g : SdGlobals} {s : RxState},
      Lined words inbox False k (Stored words inbox k) s → m ≤ s.queue.length →
      (rxBurst m (nth inbox.buffer (4 * k), remaining inbox k)).wp (receiver words inbox) D
        (fun st _ s' => st = (nth inbox.buffer (4 * (k + m)), remaining inbox (k + m)) ∧
          Lined words inbox False (k + m) (Stored words inbox (k + m)) s') g s := by
  induction m with
  | zero =>
      intro k g s h _
      exact ⟨rfl, h⟩
  | succ m ih =>
      intro k g s h hm
      refine wp_takeWord hlength rfl h hm ?_
      intro g₁ s₁ h₁ hm₁
      have htotal := h₁.total
      have hqueued := h₁.queued
      have harrived := h₁.arrived
      have hsum : k + 1 + m = k + (m + 1) := by omega
      rw [nth_buffer_succ, remaining_succ (by omega), ← hsum]
      exact ih h₁ hm₁

theorem wp_rxMultiLoop {length : BitVec 32} (hlength : length.toNat = inbox.length)
    (h : Lined words inbox False 0 (Stored words inbox 0) s) :
    (iter rxMultiStep fuel (inbox.buffer, length)).wp
      (receiver words inbox) (Spares inbox)
      (fun st _ s' => ∃ k, st = (nth inbox.buffer (4 * k), remaining inbox k) ∧
        Decided words inbox k rxErrorFlags s') g s := by
  have hsmall : inbox.length ≤ 2 ^ 32 := hlength ▸ length.isLt.le
  have hstart : (inbox.buffer, length) = (nth inbox.buffer (4 * 0), remaining inbox 0) := by
    rw [remaining, ← hlength, Nat.mul_zero, nth_zero, Nat.sub_zero, BitVec.ofNat_toNat,
      BitVec.setWidth_eq]
  refine wp_iter (fun st _ s' => ∃ k, st = (nth inbox.buffer (4 * k), remaining inbox k) ∧
    Lined words inbox False k (Stored words inbox k) s') ?_ ?_ fuel ⟨0, hstart, h⟩
  · rintro st g₁ s₁ ⟨k, rfl, h₁⟩
    unfold rxMultiStep
    refine wp_seq (wp_readSta_receiver steady_lined h₁) ?_
    rintro sta g₂ s₂ ⟨rfl, h₂, hshows⟩
    split
    next hended => exact ⟨k, rfl, h₂.decided hshows (by decide) (by decide) hended⟩
    next =>
      refine wp_seq (wp_readSta_receiver steady_lined h₂) ?_
      rintro sta' g₃ s₃ ⟨rfl, h₃, hshows'⟩
      split
      next hburst =>
        -- Half a FIFO is taken at once.
        have hhalf : 8 ≤ s₃.queue.length := hshows'.half.1 hburst.1
        refine wp_seq (wp_rxBurst hsmall 8 h₃ hhalf) ?_
        rintro st' g₄ s₄ ⟨rfl, h₄⟩
        exact ⟨k + 8, rfl, h₄⟩
      next => exact ⟨k, rfl, h₃⟩
  · rintro st g₁ s₁ ⟨k, _, h₁⟩
    exact h₁.spared

theorem wp_rxMultiDrain (hlength : inbox.length < 2 ^ 32)
    (h : Lined words inbox True k (Stored words inbox k) s) :
    (iter rxMultiDrainStep fuel (nth inbox.buffer (4 * k), remaining inbox k)).wp
      (receiver words inbox) (Spares inbox) (fun _ _ s' => Delivery words inbox s') g s := by
  refine wp_iter (fun st _ s' => ∃ k, st = (nth inbox.buffer (4 * k), remaining inbox k) ∧
    Lined words inbox True k (Stored words inbox k) s') ?_ ?_ fuel ⟨k, rfl, h⟩
  · rintro st g₁ s₁ ⟨k, rfl, h₁⟩
    unfold rxMultiDrainStep
    refine wp_seq (wp_readSta_receiver steady_lined h₁) ?_
    rintro sta g₂ s₂ ⟨rfl, h₂, hshows⟩
    dsimp only
    split
    next htake =>
      rcases htake with ⟨havailable, hpos⟩
      refine wp_takeWord (m := 0) hlength.le rfl h₂ (hshows.available.1 havailable) ?_
      intro g₃ s₃ h₃ _
      have htotal := h₃.total
      have hqueued := h₃.queued
      have harrived := h₃.arrived
      refine ⟨k + 1, ?_, h₃⟩
      rw [nth_buffer_succ, remaining_succ (by omega)]
    next hleave =>
      -- Nothing is queued, or nothing is missing.
      rw [hshows.available, remaining_pos hlength] at hleave
      refine h₂.delivery ?_
      by_cases hnil : s₂.queue = []
      · exact Or.inl hnil
      · have hlen := List.length_pos_of_ne_nil hnil
        exact Or.inr (by omega)
  · rintro st g₁ s₁ ⟨k, _, h₁⟩
    exact h₁.spared

/-! ## Arming the data path -/

/-- Before the data path is armed. -/
structure Unarmed (inbox : Inbox) (s : RxState) : Prop extends s.Fresh where
  spared : Spares inbox s

theorem steady_unarmed : Steady words inbox (Unarmed inbox) where
  arrives s s' harrives h := by
    cases harrives with
    | word henabled =>
        rw [h.enabled] at henabled
        cases henabled
    | lost henabled =>
        rw [h.enabled] at henabled
        cases henabled
    | flag raised hraised =>
        have hnone : hasFlag raised rxEndFlags = false := by
          cases hend : hasFlag raised rxEndFlags with
          | true =>
              have henabled := (hraised hend).1
              rw [h.enabled] at henabled
              cases henabled
          | false => rfl
        refine ⟨⟨h.enabled, h.arrived, h.queue, ?_⟩, h.spared⟩
        rw [hasFlag_left_or, h.flags, hnone]
        rfl
  clears s v hv h :=
    ⟨⟨h.enabled, h.arrived, h.queue, (hasFlag_clear hv (by decide) _).trans h.flags⟩, h.spared⟩
  spared s h := h.spared

theorem steady_configured {length : BitVec 32} :
    Steady words inbox (fun s => Unarmed inbox s ∧ s.dlen = length) := by
  refine steady_unarmed.and ?_ (fun _ _ _ hdlen => hdlen)
  intro s s' harrives hdlen
  cases harrives with
  | word => exact hdlen
  | lost => exact hdlen
  | flag => exact hdlen

theorem wp_sdioConfigData_receiver {dataControl length timeout : BitVec 32}
    (hlength : 4 * (length.toNat % 2 ^ 25 / 4) = inbox.length)
    (h : Unarmed inbox s) :
    (sdioConfigData dataControl length timeout).wp (receiver words inbox) (Spares inbox)
      (fun _ _ s' => Lined words inbox False 0 (Stored words inbox 0) s') g s := by
  unfold sdioConfigData
  refine wp_seq (wp_passive steady_unarmed (emits_perform trivial) h) ?_
  intro _ g₁ s₁ h₁
  refine wp_seq (wp_writeDlen_receiver (J := fun s => Unarmed inbox s ∧ s.dlen = length)
    steady_unarmed h₁ ?_) ?_
  · intro s hs
    exact ⟨⟨⟨hs.enabled, hs.arrived, hs.queue, hs.flags⟩, hs.spared⟩, rfl⟩
  intro _ g₂ s₂ h₂
  -- `DTEN` is set last, and starts the transfer of `length` bytes.
  refine wp_writeDctrl_receiver steady_configured h₂ ?_
  rintro s ⟨hs, rfl⟩
  refine ⟨hlength, ?_, ?_, ?_, False.elim, ?_, hs.spared⟩
  · dsimp only
    rw [hs.queue, hs.arrived]
    exact Nat.le_refl 0
  · dsimp only
    rw [hs.arrived]
    exact Nat.zero_le _
  · intro hend
    exact absurd (hs.flags.symm.trans hend) Bool.false_ne_true
  · intro _
    dsimp only
    rw [hs.queue, hs.arrived, slice_self]
    exact ⟨rfl, fun i hi => absurd hi (Nat.not_lt_zero i)⟩

/-! ## The two functions -/

theorem wp_stopTransmission_receiver {I : RxState → Prop} (hI : Steady words inbox I) (hs : I s) :
    (stopTransmission fuel).wp (receiver words inbox) (Spares inbox)
      (fun status _ s' => Spares inbox s' ∧ (status = 0 → I s')) g s := by
  unfold stopTransmission
  refine wp_seq (wp_readSta_receiver hI hs) ?_
  rintro sta g₁ s₁ ⟨rfl, h₁, _⟩
  split
  · refine wp_seq (wp_passive hI emits_sendCommandSdio_passive h₁) ?_
    intro _ g₂ s₂ h₂
    refine wp_seq (wp_cmdResp1bError_receiver hI h₂) ?_
    rintro ⟨status, cs⟩ g₃ s₃ h₃
    dsimp only
    split
    · refine wp_seq (wp_writeIcr_receiver (J := Spares inbox) hI h₃ fun s hs => hI.spared s hs) ?_
      intro _ g₄ s₄ h₄
      exact ⟨h₄, fun hzero => absurd hzero (by simp)⟩
    · exact ⟨hI.spared _ h₃, fun _ => h₃⟩
  · exact ⟨hI.spared _ h₁, fun _ => h₁⟩

theorem testFlags_rxExitTests : testFlags rxExitTests = rxErrorFlags := by decide

theorem rxExitTests_static : ∀ t ∈ rxExitTests, rxStaticFlags &&& t.1 = t.1 := by decide

theorem rxExitTests_errors : ∀ t ∈ rxExitTests, t.2 ≠ 0 := by decide

/-- The tests after a polling loop. -/
theorem wp_rxExitTests (h : Decided words inbox k rxErrorFlags s) :
    (exitTests rxExitTests).wp (receiver words inbox) D
      (fun status _ s' => Spares inbox s' ∧
        (status = 0 → Lined words inbox True k (Stored words inbox k) s')) g s := by
  rw [← testFlags_rxExitTests] at h
  exact wp_exitTests_receiver rxExitTests_static rxExitTests_errors h

theorem wp_readSingleBlockSd {address timeout : BitVec 32} (hlength : inbox.length = 512)
    (h : Unarmed inbox s) :
    (readSingleBlockSd fuel inbox.buffer 512#32 address timeout).wp (receiver words inbox)
      (Spares inbox)
      (fun status _ s' => Spares inbox s' ∧ (status = 0 → Delivery words inbox s')) g s := by
  have hsmall : inbox.length ≤ 2 ^ 32 := by omega
  have hoff : hasFlag 0#32 sdioDctrlDten = false := by decide
  unfold readSingleBlockSd
  rw [if_neg (by decide)]
  refine wp_seq (wp_writeDctrl_receiver (J := Unarmed inbox) steady_unarmed h ?_) ?_
  · intro s hs
    exact ⟨⟨hoff, hs.arrived, hs.queue, hs.flags⟩, hs.spared⟩
  intro _ g₁ s₁ h₁
  rw [wp_bind, wp_globals]
  refine wp_seq (wp_passive steady_unarmed emits_sendCommandSdio_passive h₁) ?_
  intro _ g₂ s₂ h₂
  refine wp_seq (wp_cmdResp1Error_receiver steady_unarmed h₂) ?_
  rintro ⟨status, cs⟩ g₃ s₃ h₃
  dsimp only
  split
  next hnegative => exact ⟨h₃.spared, fun hzero => by omega⟩
  next =>
    refine wp_seq (wp_sdioConfigData_receiver (by rw [hlength]; rfl) h₃) ?_
    intro _ g₄ s₄ h₄
    refine wp_seq (wp_rxSingleLoop hsmall h₄) ?_
    rintro addr g₅ s₅ ⟨k, rfl, h₅⟩
    -- All words have arrived, or the tests find the error.
    refine wp_seq (wp_rxExitTests h₅) ?_
    rintro status' g₆ s₆ ⟨hspared, hpassed⟩
    split
    next hfailed => exact ⟨hspared, fun hzero => absurd hzero hfailed⟩
    next hzero =>
      have h₆ := hpassed (Decidable.not_not.1 hzero)
      refine wp_seq (wp_rxSingleDrain hsmall h₆) ?_
      intro _ g₇ s₇ h₇
      refine wp_seq (wp_writeIcr_receiver (J := Delivery words inbox) steady_delivery h₇
        fun s hs => hs) ?_
      intro _ g₈ s₈ h₈
      refine wp_mono (wp_waitCardReady_receiver steady_delivery h₈) ?_
      intro status'' g₉ s₉ h₉
      exact ⟨h₉.2, fun _ => h₉⟩

theorem wp_readMultiBlockSd {countBlocks address timeout : BitVec 32}
    (hcount : 2 ≤ countBlocks.toNat) (hle : countBlocks.toNat ≤ 65535)
    (hlength : inbox.length = 512 * countBlocks.toNat) (h : Unarmed inbox s) :
    (readMultiBlockSd fuel inbox.buffer countBlocks address timeout).wp (receiver words inbox)
      (Spares inbox)
      (fun status _ s' => Spares inbox s' ∧ (status = 0 → Delivery words inbox s')) g s := by
  have hsmall : inbox.length < 2 ^ 32 := by omega
  have hoff : hasFlag 0#32 sdioDctrlDten = false := by decide
  have hbytes : (countBlocks * 512#32).toNat = inbox.length := by
    rw [BitVec.toNat_mul, BitVec.toNat_ofNat]
    omega
  unfold readMultiBlockSd
  dsimp only
  rw [if_neg (not_le_one hcount), wp_bind, wp_globals]
  refine wp_seq (wp_writeDctrl_receiver (J := Unarmed inbox) steady_unarmed h ?_) ?_
  · intro s hs
    exact ⟨⟨hoff, hs.arrived, hs.queue, hs.flags⟩, hs.spared⟩
  intro _ g₁ s₁ h₁
  refine wp_seq (wp_sdioConfigData_receiver (by rw [hbytes]; omega) h₁) ?_
  intro _ g₂ s₂ h₂
  -- From here on words may arrive at any time.
  refine wp_seq (wp_passive steady_lined emits_sendCommandSdio_passive h₂) ?_
  intro _ g₃ s₃ h₃
  refine wp_seq (wp_cmdResp1Error_receiver steady_lined h₃) ?_
  rintro ⟨status, cs⟩ g₄ s₄ h₄
  dsimp only
  split
  next => exact ⟨h₄.spared, fun hzero => absurd hzero (by simp)⟩
  next =>
    refine wp_seq (wp_rxMultiLoop hbytes h₄) ?_
    rintro st g₅ s₅ ⟨k, rfl, h₅⟩
    refine wp_seq (wp_stopTransmission_receiver (steady_decided (by decide)) h₅) ?_
    rintro stopped g₆ s₆ ⟨hspared₆, hstopped⟩
    split
    next hfailed => exact ⟨hspared₆, fun hzero => absurd hzero hfailed⟩
    next hzero =>
      refine wp_seq (wp_rxExitTests (hstopped (Decidable.not_not.1 hzero))) ?_
      rintro passed g₇ s₇ ⟨hspared₇, hpassed⟩
      split
      next hfailed => exact ⟨hspared₇, fun hzero => absurd hzero hfailed⟩
      next hzero =>
        refine wp_seq (wp_rxMultiDrain hsmall (hpassed (Decidable.not_not.1 hzero))) ?_
        intro _ g₈ s₈ h₈
        refine wp_seq (wp_writeIcr_receiver (J := Delivery words inbox) steady_delivery h₈
          fun s hs => hs) ?_
        intro _ g₉ s₉ h₉
        refine wp_seq (wp_passive steady_delivery (emits_perform trivial) h₉) ?_
        intro _ g₁₀ s₁₀ h₁₀
        refine wp_mono (wp_waitCardReady_receiver steady_delivery h₁₀) ?_
        intro ready g₁₁ s₁₁ h₁₁
        exact ⟨h₁₁.2, fun _ => h₁₁⟩

/-- `read_single_block_sd` for one block, `read_multi_block_sd` for more. -/
def readBlocksPolled (fuel : Nat) (buffer : BitVec 32) (count : Nat) (address timeout : BitVec 32) :
    SdProc Int :=
  if count = 1 then readSingleBlockSd fuel buffer 512#32 address timeout
  else readMultiBlockSd fuel buffer (BitVec.ofNat 32 count) address timeout

/-- The buffer for `count` blocks, with memory as it is. -/
def Inbox.of (buffer : BitVec 32) (count : Nat) (s : RxState) : Inbox :=
  { buffer := buffer, length := 512 * count, before := s.mem }

theorem wp_readBlocksPolled {count : Nat} {buffer address timeout : BitVec 32} (hpos : 1 ≤ count)
    (hle : count ≤ 65535) (h : s.Fresh) :
    (readBlocksPolled fuel buffer count address timeout).wp
      (receiver words (Inbox.of buffer count s)) (Spares (Inbox.of buffer count s))
      (fun status _ s' => Spares (Inbox.of buffer count s) s' ∧
        (status = 0 → Delivery words (Inbox.of buffer count s) s')) g s := by
  have hunarmed : Unarmed (Inbox.of buffer count s) s := ⟨h, fun _ _ => rfl⟩
  unfold readBlocksPolled
  split
  next hone =>
    subst hone
    exact wp_readSingleBlockSd rfl hunarmed
  next hmore =>
    have hcount : (BitVec.ofNat 32 count).toNat = count := by
      rw [BitVec.toNat_ofNat]
      omega
    refine wp_readMultiBlockSd ?_ ?_ ?_ hunarmed
    · omega
    · omega
    · rw [hcount]
      rfl

/-- The FIFO is read only with a word in it, and memory is written only in the buffer; a read that
returns 0 has filled the buffer with the words sent. -/
theorem polled_read_exact {count : Nat} {buffer address timeout : BitVec 32} (hpos : 1 ≤ count)
    (hle : count ≤ 65535) (h : s.Fresh) :
    (∀ e k s', Reaches (receiver words (Inbox.of buffer count s))
        (readBlocksPolled fuel buffer count address timeout g) s (.op e k) s' →
      Within (Inbox.of buffer count s) e ∧ (e = .read .fifo → s'.queue ≠ [])) ∧
    (∀ q s', Reaches (receiver words (Inbox.of buffer count s))
        (readBlocksPolled fuel buffer count address timeout g) s q s' →
      ∀ x, ¬InRegion buffer (512 * count) x → s'.mem x = s.mem x) ∧
    ∀ g' s', Runs (receiver words (Inbox.of buffer count s))
        (readBlocksPolled fuel buffer count address timeout g) s (0, g') s' →
      ∀ i < 512 * count, s'.mem (nth buffer i) = streamByte words i := by
  refine ⟨?_, ?_, ?_⟩
  · intro e k s' hreach
    have hreq := Prog.wp_req (wp_readBlocksPolled hpos hle h) hreach
    exact hreq.2
  · intro q s' hreach
    have hspared : Spares (Inbox.of buffer count s) s' :=
      wp_invariant (wp_readBlocksPolled hpos hle h) (fun _ _ hreq => hreq.1)
        (fun _ _ _ hpost => hpost.1) (fun _ hcut => hcut) hreach
    exact hspared
  · intro g' s' hrun
    have hpost := wp_runs (wp_readBlocksPolled hpos hle h) hrun
    exact (hpost.2 rfl).1

/-! ## A run -/

/-- Words arrive for as long as there is room. -/
def refill (words : Nat → BitVec 32) : Nat → RxState → RxState
  | 0, s => s
  | n + 1, s =>
      if s.enabled = true ∧ s.arrived < s.total ∧ s.queue.length < fifoDepth then
        refill words n { s with arrived := s.arrived + 1, queue := s.queue ++ [words s.arrived] }
      else s

/-- The card does what it can before every event. -/
def RxState.advance (words : Nat → BitVec 32) (s : RxState) : RxState :=
  let s := refill words fifoDepth s
  if s.enabled = true ∧ s.arrived = s.total then { s with flags := s.flags ||| rxEndFlags } else s

/-- `STA` with an answer to every command. -/
def RxState.sta (s : RxState) : BitVec 32 :=
  s.flags &&& rxStaticFlags ||| sdioStaCmdrend |||
    (if s.queue.length = fifoDepth then sdioStaRxfifof else 0#32) |||
    (if 8 ≤ s.queue.length then sdioStaRxfifohf else 0#32) |||
    (if 1 ≤ s.queue.length then sdioStaRxdavl else 0#32)

def eagerCard (words : Nat → BitVec 32) (s : RxState) : (e : SdioEvent) → e.Response × RxState
  | .sta _ => ((s.advance words).sta, s.advance words)
  | .read .fifo =>
      match (s.advance words).queue with
      | [] => (0#32, s.advance words)
      | head :: rest => (head, { s.advance words with queue := rest })
  | .read .icr => (0#32, s.advance words)
  | .read _ => (0x900#32, s.advance words)
  | .write .icr v => ((), (s.advance words).clear v)
  | .write .dlen v => ((), { s.advance words with dlen := v })
  | .write .dctrl v => ((), { s.advance words with enabled := hasFlag v sdioDctrlDten })
  | .write _ _ => ((), s.advance words)
  | .store addr w =>
      ((), { s.advance words with mem := (s.advance words).mem.store addr 4 (wordByte w) })
  | .memcpy dst src n =>
      ((), { s.advance words with mem := (s.advance words).mem.copy dst src n.toNat })
  | .load _ => (0#32, s.advance words)
  | .delayTimer _ => ((), s.advance words)
  | .indeterminate => (0#32, s.advance words)
  | .setGpioConf _ _ => ((), s.advance words)
  | .enableAndResetRcc _ _ => ((), s.advance words)
  | .getPll48clkFreq => (0#32, s.advance words)

theorem refill_reaches (n : Nat) (s : RxState) :
    Relation.ReflTransGen (Arrives words) s (refill words n s) := by
  induction n generalizing s with
  | zero => exact Relation.ReflTransGen.refl
  | succ n ih =>
      unfold refill
      split
      next hmore => exact Relation.ReflTransGen.head (Arrives.word hmore.1 hmore.2.1 hmore.2.2) (ih _)
      next => exact Relation.ReflTransGen.refl

theorem advance_reaches (s : RxState) : Relation.ReflTransGen (Arrives words) s (s.advance words) := by
  unfold RxState.advance
  dsimp only
  split
  next hend => exact (refill_reaches fifoDepth s).tail (Arrives.flag rxEndFlags fun _ => hend)
  next => exact refill_reaches fifoDepth s

/-- A FIFO flag of `STA`. -/
theorem hasFlag_sta {s : RxState} {flag : BitVec 32} (hstatic : rxStaticFlags &&& flag = 0#32)
    (hcmdrend : hasFlag sdioStaCmdrend flag = false) :
    hasFlag s.sta flag =
      (s.queue.length = fifoDepth && hasFlag sdioStaRxfifof flag ||
        8 ≤ s.queue.length && hasFlag sdioStaRxfifohf flag ||
        1 ≤ s.queue.length && hasFlag sdioStaRxdavl flag) := by
  have hif : ∀ (c : Prop) [Decidable c] (f : BitVec 32),
      hasFlag (if c then f else 0#32) flag = (c && hasFlag f flag) := by
    intro c _ f
    split
    next hc => simp [hc]
    next hc => simp [hc, hasFlag]
  have hnone : hasFlag (s.flags &&& rxStaticFlags) flag = false := by
    rw [hasFlag, BitVec.and_assoc, hstatic]
    simp
  unfold RxState.sta
  rw [hasFlag_left_or, hasFlag_left_or, hasFlag_left_or, hasFlag_left_or, hnone, hcmdrend, hif, hif,
    hif, Bool.false_or, Bool.false_or]

theorem sta_shows (s : RxState) : s.Shows s.sta where
  static := by
    have hzero : ∀ x y : BitVec 32, y &&& rxStaticFlags = 0#32 →
        (x ||| y) &&& rxStaticFlags = x &&& rxStaticFlags := by
      intro x y hy
      have hdistrib : (x ||| y) &&& rxStaticFlags =
          x &&& rxStaticFlags ||| y &&& rxStaticFlags := by
        ext i
        simp [Bool.and_or_distrib_right]
      rw [hdistrib, hy, BitVec.or_zero]
    unfold RxState.sta
    rw [hzero _ _ (by split <;> decide), hzero _ _ (by split <;> decide),
      hzero _ _ (by split <;> decide), hzero _ _ (by decide), BitVec.and_assoc, BitVec.and_self]
  full := by
    have hself : hasFlag sdioStaRxfifof sdioStaRxfifof = true := by decide
    have hhalf : hasFlag sdioStaRxfifohf sdioStaRxfifof = false := by decide
    have havailable : hasFlag sdioStaRxdavl sdioStaRxfifof = false := by decide
    rw [hasFlag_sta (by decide) (by decide), hself, hhalf, havailable]
    simp
  half := by
    have hself : hasFlag sdioStaRxfifohf sdioStaRxfifohf = true := by decide
    have hfull : hasFlag sdioStaRxfifof sdioStaRxfifohf = false := by decide
    have havailable : hasFlag sdioStaRxdavl sdioStaRxfifohf = false := by decide
    rw [hasFlag_sta (by decide) (by decide), hself, hfull, havailable]
    simp
  available := by
    have hself : hasFlag sdioStaRxdavl sdioStaRxdavl = true := by decide
    have hfull : hasFlag sdioStaRxfifof sdioStaRxdavl = false := by decide
    have hhalf : hasFlag sdioStaRxfifohf sdioStaRxdavl = false := by decide
    rw [hasFlag_sta (by decide) (by decide), hself, hfull, hhalf]
    simp

theorem eagerCard_allowed (s : RxState) (e : SdioEvent) :
    (receiver words inbox).step s e (eagerCard words s e).1 (eagerCard words s e).2 := by
  refine ⟨s.advance words, advance_reaches s, ?_⟩
  cases e with
  | sta site => exact ⟨sta_shows _, rfl⟩
  | read reg =>
      cases reg with
      | fifo =>
          rcases hqueue : (s.advance words).queue with _ | ⟨head, rest⟩
          · simp [RxState.Pops, eagerCard, hqueue]
          · simp [RxState.Pops, eagerCard, hqueue]
      | icr => exact ⟨(by decide : 0#32 &&& rxStaticFlags = 0#32), rfl⟩
      | _ => rfl
  | write reg v =>
      cases reg with
      | icr => rfl
      | _ => rfl
  | _ => rfl

def freshReceiver : RxState where
  mem := fun _ => 0#8
  dlen := 0#32
  enabled := false
  arrived := 0
  queue := []
  flags := 0#32

def countingWords (i : Nat) : BitVec 32 := BitVec.ofNat 32 i

theorem freshReceiver_fresh : freshReceiver.Fresh := ⟨rfl, rfl, rfl, by decide⟩

/-- A polled read against this card. -/
def eagerRead (count : Nat) : SdProc Int :=
  readBlocksPolled 400 0x20000000#32 count 0#32 1000#32

theorem eagerRead_runs {count : Nat}
    (hexec : ((eagerRead count blankGlobals).exec (eagerCard countingWords) freshReceiver).map
      (fun x => x.1.1) = some 0) :
    ∃ g' s', Runs (receiver countingWords (Inbox.of 0x20000000#32 count freshReceiver))
      (eagerRead count blankGlobals) freshReceiver (0, g') s' := by
  rw [Option.map_eq_some_iff] at hexec
  rcases hexec with ⟨⟨⟨status, g'⟩, s'⟩, hrun, rfl⟩
  exact ⟨g', s', Prog.exec_runs eagerCard_allowed hrun⟩

set_option maxRecDepth 10000 in
/-- One block, and two. -/
theorem polled_read_exact_runs :
    (∃ g' s', Runs (receiver countingWords (Inbox.of 0x20000000#32 1 freshReceiver))
        (eagerRead 1 blankGlobals) freshReceiver (0, g') s' ∧
      ∀ i < 512 * 1, s'.mem (nth 0x20000000#32 i) = streamByte countingWords i) ∧
    (∃ g' s', Runs (receiver countingWords (Inbox.of 0x20000000#32 2 freshReceiver))
        (eagerRead 2 blankGlobals) freshReceiver (0, g') s' ∧
      ∀ i < 512 * 2, s'.mem (nth 0x20000000#32 i) = streamByte countingWords i) := by
  have hone : ((eagerRead 1 blankGlobals).exec (eagerCard countingWords) freshReceiver).map
      (fun x => x.1.1) = some 0 := by
    decide +kernel
  have htwo : ((eagerRead 2 blankGlobals).exec (eagerCard countingWords) freshReceiver).map
      (fun x => x.1.1) = some 0 := by
    decide +kernel
  rcases eagerRead_runs hone with ⟨g₁, s₁, hrun₁⟩
  rcases eagerRead_runs htwo with ⟨g₂, s₂, hrun₂⟩
  exact ⟨⟨g₁, s₁, hrun₁,
      (polled_read_exact (by decide) (by decide) freshReceiver_fresh).2.2 g₁ s₁ hrun₁⟩,
    g₂, s₂, hrun₂,
    (polled_read_exact (by decide) (by decide) freshReceiver_fresh).2.2 g₂ s₂ hrun₂⟩

end Driver
end SdioFat32
