import RadioConnection.Platform.UartSystem

/-!
# Reception across errors

The system under any order of bytes, HAL callbacks, recoveries and reads.

* `Aligned`: the counters stand for a place in the stream, beyond a base which is
  a multiple of the size of the buffer.
* `handed_prefix`: what is handed out is what was written, in runs in which every
  recovery finds a produced count that is a multiple of the size.
-/

namespace RadioConnection

inductive UartOp
  /-- The DMA receives a byte. -/
  | receive (byte : UInt8)
  /-- The HAL reports the write position. -/
  | rxEvent (uart : ℕ)
  | error (uart : ℕ) (errorCode : UInt32)
  /-- The recovery of `stm32f407_radio_composition_process`, and how it ends in the HAL. -/
  | process (halOk : Bool)
  | readByte
  | read (maxLen : ℕ)
  deriving DecidableEq

namespace UartSystem

def step (s : UartSystem) : UartOp → UartSystem
  | .receive byte => s.receive byte
  | .rxEvent uart => s.rxEvent uart
  | .error uart errorCode => { s with backend := s.backend.onError uart errorCode }
  | .process halOk => s.process halOk
  | .readByte => s.readByte
  | .read maxLen => s.read maxLen

/-- The states that steps allowed by `ok` lead to. -/
inductive Reach (ok : UartSystem → UartOp → Prop) (s₀ : UartSystem) : UartSystem → Prop
  | start : Reach ok s₀ s₀
  | step {s : UartSystem} (h : Reach ok s₀ s) (op : UartOp) (hop : ok s op) :
      Reach ok s₀ (s.step op)

/-- Fewer bytes than the size of the buffer are unread. -/
def InTime (s : UartSystem) : Prop :=
  s.wrote.length < s.handed.length + s.backend.rxBufferSize.toNat

instance (s : UartSystem) : Decidable s.InTime := inferInstanceAs (Decidable (_ < _))

/-- A recovery finds a produced count that is a multiple of the size, and an event does not carry
the count past `2^32`, unless the size divides that. -/
def Meets (s : UartSystem) : UartOp → Prop
  | .process halOk => halOk = true → s.backend.recoveryRequested = true →
      s.backend.rxBufferSize.toNat ∣ s.backend.producedCount.toNat
  | .rxEvent uart => s.backend.started = true → uart = s.backend.uart →
      s.backend.rxBufferSize.toNat ∣ 2 ^ 32 ∨
        s.backend.producedCount.toNat + (s.wrote.length - s.reported) < 2 ^ 32
  | _ => True

instance (s : UartSystem) : ∀ op, Decidable (s.Meets op)
  | .process halOk => inferInstanceAs (Decidable (halOk = true → _ = true → _ ∣ _))
  | .rxEvent _ => inferInstanceAs (Decidable (_ = true → _ = _ → _ ∣ _ ∨ _ < _))
  | .receive _ | .error _ _ | .readByte | .read _ => isTrue trivial

/-! ## The counters -/

/-- The counters stand for places in the stream of the DMA, beyond `base`. -/
structure Aligned (s : UartSystem) (base : ℕ) : Prop where
  size_pos : 0 < s.backend.rxBufferSize.toNat
  size_le : s.backend.rxBufferSize.toNat ≤ 65535
  size_eq : s.transport.rxBufferSize = s.backend.rxBufferSize
  dvd : s.backend.rxBufferSize.toNat ∣ base
  wrap : s.backend.rxBufferSize.toNat ∣ 2 ^ 32 ∨ base + s.reported < 2 ^ 32
  produced : s.backend.producedCount = UInt32.ofNat (base + s.reported)
  consumed : s.transport.consumedCount = UInt32.ofNat (base + s.handed.length)
  handed_le : s.handed.length ≤ s.reported
  reported_le : s.reported ≤ s.wrote.length
  handed_eq : s.handed = s.wrote.take s.handed.length
  holds : Circular.Holds s.backend.rxBufferSize.toNat s.memory s.wrote
  started : s.backend.started = true → s.running = true ∧
    s.backend.lastDmaPosition.toNat = s.reported % s.backend.rxBufferSize.toNat

variable {s : UartSystem} {base : ℕ}

theorem start_aligned {uart rxBufferSize : ℕ} {memory : ℕ → UInt8}
    (h : start uart rxBufferSize memory = some s) : s.wrote = [] ∧ Aligned s 0 := by
  obtain ⟨hpos, hle, hnat, rfl⟩ := start_eq h
  refine ⟨rfl, ?_, ?_, rfl, Nat.dvd_zero _, .inr (by show 0 + 0 < 2 ^ 32; omega), rfl, rfl,
    le_refl 0, le_refl 0, rfl, Circular.holds_nil memory, fun _ => ⟨rfl, (Nat.zero_mod _).symm⟩⟩
  · show 0 < (UInt32.ofNat rxBufferSize).toNat
    omega
  · show (UInt32.ofNat rxBufferSize).toNat ≤ 65535
    omega

/-! ## Events -/

theorem aligned_rxEvent (h : Aligned s base) (hin : s.InTime) {uart : ℕ}
    (hmeets : s.Meets (.rxEvent uart)) : Aligned (s.rxEvent uart) base := by
  by_cases hc : s.backend.started = true ∧ uart = s.backend.uart
  · obtain ⟨hstarted, rfl⟩ := hc
    have hwrap := hmeets hstarted rfl
    have hreported := h.reported_le
    have hhanded := h.handed_le
    obtain ⟨hrunning, hlast⟩ := h.started hstarted
    have hgap : s.wrote.length < s.reported + s.backend.rxBufferSize.toNat := by
      unfold InTime at hin
      omega
    obtain ⟨hsame, hproduced, hplace⟩ :=
      onRxEvent_round h.size_pos h.size_le hstarted hlast hreported hgap
    rw [rxEvent_eq hstarted]
    refine ⟨?_, ?_, ?_, ?_, ?_, ?_, h.consumed, ?_, le_refl _, h.handed_eq, ?_, ?_⟩
    all_goals simp only [hsame.rxBufferSize]
    · exact h.size_pos
    · exact h.size_le
    · exact h.size_eq
    · exact h.dvd
    · rcases h.wrap with hdvd | hlt
      · exact .inl hdvd
      · rw [h.produced, UInt32.toNat_ofNat', Nat.mod_eq_of_lt hlt] at hwrap
        rcases hwrap with hdvd | hlt'
        · exact .inl hdvd
        · exact .inr (by omega)
    · rw [hproduced, h.produced, ← UInt32.ofNat_add]
      congr 1
      omega
    · omega
    · exact h.holds
    · exact fun _ => ⟨hrunning, hplace⟩
  · obtain ⟨stats, heq⟩ := @onRxEvent_ignored s.backend uart s.position hc
    have hstep : s.rxEvent uart = { s with backend := { s.backend with stats := stats } } := by
      rw [rxEvent, heq, if_neg hc]
    rw [hstep]
    exact ⟨h.size_pos, h.size_le, h.size_eq, h.dvd, h.wrap, h.produced, h.consumed, h.handed_le,
      h.reported_le, h.handed_eq, h.holds, h.started⟩

/-! ## Reads -/

/-- The bytes that the transport finds to be available are those that were counted and not
handed out. -/
theorem syncAvailable_aligned (h : Aligned s base) (hin : s.InTime) :
    ∃ available, s.transport.syncAvailable s.backend.producedCount = (available, s.transport) ∧
      available.toNat = s.reported - s.handed.length := by
  have hhanded := h.handed_le
  have hreported := h.reported_le
  have hsize := h.size_le
  have hin' : s.wrote.length < s.handed.length + s.backend.rxBufferSize.toNat := hin
  have hnat : (s.backend.producedCount - s.transport.consumedCount).toNat =
      s.reported - s.handed.length := by
    rw [h.produced, h.consumed, UInt32.toNat_sub, UInt32.toNat_ofNat', UInt32.toNat_ofNat']
    omega
  refine ⟨s.backend.producedCount - s.transport.consumedCount, ?_, hnat⟩
  refine if_neg ?_
  rw [UInt32.lt_iff_toNat_lt, hnat, h.size_eq]
  omega

theorem current_aligned (h : Aligned s base) (hin : s.InTime)
    (hwaits : s.handed.length < s.reported) :
    s.wrote[s.handed.length]? = some (s.transport.current s.memory) := by
  have hreported := h.reported_le
  have hin' : s.wrote.length < s.handed.length + s.backend.rxBufferSize.toNat := hin
  have hlt : s.handed.length < s.wrote.length := by omega
  have hindex : (s.transport.consumedCount % s.transport.rxBufferSize).toNat =
      s.handed.length % s.backend.rxBufferSize.toNat := by
    obtain ⟨q, hq⟩ := h.dvd
    rw [h.consumed, h.size_eq, UInt32.toNat_mod, UInt32.toNat_ofNat', Circular.mod_mod_of ?_, hq,
      Nat.mul_add_mod]
    rcases h.wrap with hdvd | hw
    · exact .inl hdvd
    · exact .inr (by omega)
  rw [Stm32UartDmaTransport.current, hindex, h.holds _ hlt (by omega)]
  exact List.getElem?_eq_getElem hlt

theorem aligned_readByte (h : Aligned s base) (hin : s.InTime) : Aligned s.readByte base := by
  obtain ⟨available, hsync, hnat⟩ := syncAvailable_aligned h hin
  have hhanded := h.handed_le
  have hreported := h.reported_le
  by_cases hz : available = 0
  · have hstep : s.readByte = s := by
      rw [readByte, Stm32UartDmaTransport.readByte, hsync]
      dsimp only
      rw [if_pos hz]
      simp
    rw [hstep]
    exact h
  · have hpos : s.handed.length + 1 ≤ s.reported := by
      have hne : available.toNat ≠ 0 := fun h0 => hz (UInt32.toNat_inj.mp h0)
      omega
    obtain ⟨hlt, hget⟩ := List.getElem?_eq_some_iff.mp (current_aligned h hin hpos)
    have hlen : (s.handed ++ [s.transport.current s.memory]).length = s.handed.length + 1 := by
      rw [List.length_append, List.length_singleton]
    have htake : s.handed ++ [s.transport.current s.memory] =
        s.wrote.take (s.handed.length + 1) := by
      rw [List.take_succ_eq_append_getElem hlt, ← h.handed_eq, hget]
    rw [readByte, Stm32UartDmaTransport.readByte, hsync]
    dsimp only
    rw [if_neg hz]
    refine ⟨h.size_pos, h.size_le, h.size_eq, h.dvd, h.wrap, h.produced, ?_, ?_, h.reported_le,
      ?_, h.holds, h.started⟩
    · show s.transport.consumedCount + 1 = UInt32.ofNat (base + _)
      rw [Option.toList_some, hlen, h.consumed, ← Nat.add_assoc, ofNat_succ]
    · show (s.handed ++ [s.transport.current s.memory]).length ≤ s.reported
      omega
    · show s.handed ++ [s.transport.current s.memory] = s.wrote.take _
      rw [Option.toList_some, hlen]
      exact htake

theorem inTime_readByte (hin : s.InTime) : s.readByte.InTime := by
  have hlen : s.handed.length ≤ s.readByte.handed.length := by
    rw [readByte, List.length_append]
    exact Nat.le_add_right _ _
  exact Nat.lt_of_lt_of_le hin (Nat.add_le_add_right hlen _)

theorem aligned_read (h : Aligned s base) (hin : s.InTime) (maxLen : ℕ) :
    Aligned (s.read maxLen) base := by
  rw [read_eq_iterate]
  induction maxLen generalizing s with
  | zero => exact h
  | succ n ih => exact ih (aligned_readByte h hin) (inTime_readByte hin)

/-! ## The other steps -/

theorem aligned_receive (h : Aligned s base) (byte : UInt8) : Aligned (s.receive byte) base := by
  unfold receive
  split
  · have hlen : (s.wrote ++ [byte]).length = s.wrote.length + 1 := by simp
    have hhanded := h.handed_le
    have hreported := h.reported_le
    refine ⟨h.size_pos, h.size_le, h.size_eq, h.dvd, h.wrap, h.produced, h.consumed, h.handed_le,
      ?_, ?_, h.holds.write byte, h.started⟩
    · show s.reported ≤ (s.wrote ++ [byte]).length
      omega
    · show s.handed = (s.wrote ++ [byte]).take s.handed.length
      rw [List.take_append_of_le_length (by omega)]
      exact h.handed_eq
  · exact h

theorem aligned_error (h : Aligned s base) (uart : ℕ) (errorCode : UInt32) :
    Aligned { s with backend := s.backend.onError uart errorCode } base := by
  unfold Stm32f4UartDmaBackend.onError
  split
  · exact ⟨h.size_pos, h.size_le, h.size_eq, h.dvd, h.wrap, h.produced, h.consumed, h.handed_le,
      h.reported_le, h.handed_eq, h.holds, h.started⟩
  · exact ⟨h.size_pos, h.size_le, h.size_eq, h.dvd, h.wrap, h.produced, h.consumed, h.handed_le,
      h.reported_le, h.handed_eq, h.holds, nofun⟩

/-- A recovery that succeeds takes the produced count as the new base. -/
theorem aligned_process (h : Aligned s base) {halOk : Bool} (hmeets : s.Meets (.process halOk)) :
    ∃ base', Aligned (s.process halOk) base' := by
  by_cases hrequested : s.backend.recoveryRequested = true
  · cases halOk with
    | true =>
      have hdvd := hmeets rfl hrequested
      have hlt : s.backend.producedCount.toNat < 2 ^ 32 := s.backend.producedCount.toNat_lt
      have hofNat : s.backend.producedCount = UInt32.ofNat (s.backend.producedCount.toNat + 0) := by
        rw [Nat.add_zero, UInt32.ofNat_toNat]
      refine ⟨s.backend.producedCount.toNat, ?_⟩
      rw [process, Stm32f4UartDmaBackend.process, if_neg (not_not.mpr hrequested)]
      exact ⟨h.size_pos, h.size_le, h.size_eq, hdvd, .inr hlt, hofNat, hofNat, le_refl 0,
        le_refl 0, rfl, Circular.holds_nil _, fun _ => ⟨rfl, (Nat.zero_mod _).symm⟩⟩
    | false =>
      refine ⟨base, ?_⟩
      rw [process, Stm32f4UartDmaBackend.process, if_neg (not_not.mpr hrequested)]
      exact ⟨h.size_pos, h.size_le, h.size_eq, h.dvd, h.wrap, h.produced, h.consumed, h.handed_le,
        h.reported_le, h.handed_eq, h.holds, nofun⟩
  · refine ⟨base, ?_⟩
    rw [process, Stm32f4UartDmaBackend.process, if_pos hrequested]
    simp only [Bool.not_eq_true] at hrequested
    rw [hrequested]
    exact ⟨h.size_pos, h.size_le, h.size_eq, h.dvd, h.wrap, h.produced, h.consumed, h.handed_le,
      h.reported_le, h.handed_eq, h.holds, fun hs => by simpa using h.started hs⟩

theorem aligned_step (h : Aligned s base) (hin : s.InTime) {op : UartOp} (hmeets : s.Meets op) :
    ∃ base', Aligned (s.step op) base' := by
  cases op with
  | receive byte => exact ⟨base, aligned_receive h byte⟩
  | rxEvent uart => exact ⟨base, aligned_rxEvent h hin hmeets⟩
  | error uart errorCode => exact ⟨base, aligned_error h uart errorCode⟩
  | process halOk => exact aligned_process h hmeets
  | readByte => exact ⟨base, aligned_readByte h hin⟩
  | read maxLen => exact ⟨base, aligned_read h hin maxLen⟩

/-! ## Runs -/

def StepInTime (s : UartSystem) (op : UartOp) : Prop := (s.step op).InTime

instance (s : UartSystem) (op : UartOp) : Decidable (s.StepInTime op) :=
  inferInstanceAs (Decidable (InTime _))

theorem reach_aligned {uart rxBufferSize : ℕ} {memory : ℕ → UInt8} {s₀ : UartSystem}
    (hs : start uart rxBufferSize memory = some s₀)
    (h : Reach (fun s op => StepInTime s op ∧ Meets s op) s₀ s) :
    s.InTime ∧ ∃ base, Aligned s base := by
  induction h with
  | start =>
    obtain ⟨hempty, haligned⟩ := start_aligned hs
    have hpos := haligned.size_pos
    refine ⟨?_, 0, haligned⟩
    unfold InTime
    rw [hempty, List.length_nil]
    omega
  | step _ op hop ih =>
    obtain ⟨hin, base, haligned⟩ := ih
    exact ⟨hop.1, aligned_step haligned hin hop.2⟩

/-- **What is handed out since a recovery is what the DMA wrote since then**, in runs in which
every recovery finds an aligned count. -/
theorem handed_prefix {uart rxBufferSize : ℕ} {memory : ℕ → UInt8} {s₀ : UartSystem}
    (hs : start uart rxBufferSize memory = some s₀)
    (h : Reach (fun s op => StepInTime s op ∧ Meets s op) s₀ s) : s.handed <+: s.wrote := by
  obtain ⟨-, base, haligned⟩ := reach_aligned hs h
  rw [haligned.handed_eq]
  exact List.take_prefix _ _

def Allowed (ok : UartSystem → UartOp → Prop) : UartSystem → List UartOp → Prop
  | _, [] => True
  | s, op :: ops => ok s op ∧ Allowed ok (s.step op) ops

instance decidableAllowed (ok : UartSystem → UartOp → Prop) [∀ s op, Decidable (ok s op)] :
    ∀ s ops, Decidable (Allowed ok s ops)
  | _, [] => isTrue trivial
  | s, op :: ops => @instDecidableAnd _ _ _ (decidableAllowed ok (s.step op) ops)

theorem Allowed.reach {ok : UartSystem → UartOp → Prop} {s₀ s : UartSystem} {ops : List UartOp}
    (hs : Reach ok s₀ s) (h : Allowed ok s ops) : Reach ok s₀ (ops.foldl step s) := by
  induction ops generalizing s with
  | nil => exact hs
  | cons op ops ih => exact ih (.step hs op h.1) h.2

/-- An error before any byte, and a byte after the recovery. -/
def earlyError : List UartOp :=
  [.error 1 8, .process true, .receive 9, .rxEvent 1, .readByte]

theorem handed_prefix_earlyError :
    (earlyError.foldl step fourBytes).handed <+: (earlyError.foldl step fourBytes).wrote := by
  have hallowed : Allowed (fun s op => StepInTime s op ∧ Meets s op) fourBytes earlyError := by
    decide
  exact handed_prefix fourBytes_start (hallowed.reach .start)

/-- An error after one byte: the next one is read from the index after its own. -/
def lateError : List UartOp :=
  [.receive 7, .rxEvent 1, .readByte, .error 1 8, .process true, .receive 9, .rxEvent 1, .readByte]

theorem lateError_stale :
    ¬ ∀ uart rxBufferSize memory s₀ s, start uart rxBufferSize memory = some s₀ →
      Reach StepInTime s₀ s → s.handed <+: s.wrote := by
  intro h
  have hallowed : Allowed StepInTime fourBytes lateError := by
    decide
  have hprefix := h 1 4 _ fourBytes _ fourBytes_start (hallowed.reach .start)
  have hhanded : (lateError.foldl step fourBytes).handed = [0] := by decide
  have hwrote : (lateError.foldl step fourBytes).wrote = [9] := by decide
  rw [hhanded, hwrote] at hprefix
  exact absurd hprefix (by decide)

end UartSystem

end RadioConnection
