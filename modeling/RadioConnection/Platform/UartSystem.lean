import RadioConnection.Platform.UartDma
import RadioConnection.Lib.Circular

/-!
# A UART with its DMA

The backend, the transport and a circular DMA, as the composition puts them
together.  The DMA writes from index 0 after every start.  Beside the state stand
the bytes that it wrote since then, and those that were handed out since the last
recovery.

* `onRxEvent_round`: what an event counts.
* `read_eq_iterate`: a read of `n` bytes is `n` reads of one.
-/

namespace RadioConnection

/-- The receiver UART of the composition. -/
structure UartSystem where
  backend : Stm32f4UartDmaBackend
  transport : Stm32UartDmaTransport
  memory : ℕ → UInt8
  /-- The DMA is running. -/
  running : Bool
  /-- The bytes that the DMA wrote since it was started. -/
  wrote : List UInt8
  /-- The bytes that were handed out since the last recovery. -/
  handed : List UInt8
  /-- How many bytes of `wrote` the last event counted. -/
  reported : ℕ

namespace UartSystem

def place (s : UartSystem) : ℕ := s.wrote.length % s.backend.rxBufferSize.toNat

/-- The position that the HAL reports: the size when the index has wrapped to 0. -/
def position (s : UartSystem) : UInt16 :=
  UInt16.ofNat (if s.place = 0 then s.backend.rxBufferSize.toNat else s.place)

def start (uart rxBufferSize : ℕ) (memory : ℕ → UInt8) : Option UartSystem := do
  let backend ← Stm32f4UartDmaBackend.init uart rxBufferSize
  let (_, backend) := backend.start true
  let transport ← Stm32UartDmaTransport.init rxBufferSize backend.producedCount
  pure ⟨backend, transport, memory, true, [], [], 0⟩

def receive (s : UartSystem) (byte : UInt8) : UartSystem :=
  if s.running then
    { s with
      memory := Function.update s.memory s.place byte
      wrote := s.wrote ++ [byte] }
  else s

def rxEvent (s : UartSystem) (uart : ℕ) : UartSystem :=
  { s with
    backend := s.backend.onRxEvent uart s.position
    reported := if s.backend.started ∧ uart = s.backend.uart then s.wrote.length else s.reported }

/-- The DMA is stopped, and a start that succeeds begins at index 0. -/
def process (s : UartSystem) (halOk : Bool) : UartSystem :=
  match s.backend.process halOk with
  | (true, backend) =>
    { s with
      backend := backend
      transport := s.transport.reset backend.producedCount
      running := true
      wrote := []
      handed := []
      reported := 0 }
  | (false, backend) =>
    { s with
      backend := backend
      running := s.running && !s.backend.recoveryRequested }

def readByte (s : UartSystem) : UartSystem :=
  let (byte, transport) := s.transport.readByte s.backend.producedCount s.memory
  { s with
    transport := transport
    handed := s.handed ++ byte.toList }

def read (s : UartSystem) (maxLen : ℕ) : UartSystem :=
  let (bytes, transport) := s.transport.read s.backend.producedCount s.memory maxLen
  { s with
    transport := transport
    handed := s.handed ++ bytes }

/-- `stm32_uart_dma_transport_available`, without its result. -/
def look (s : UartSystem) : UartSystem :=
  { s with transport := (s.transport.syncAvailable s.backend.producedCount).2 }

variable {s : UartSystem}

theorem start_eq {uart rxBufferSize : ℕ} {memory : ℕ → UInt8}
    (h : start uart rxBufferSize memory = some s) :
    0 < rxBufferSize ∧ rxBufferSize ≤ 65535 ∧ (UInt32.ofNat rxBufferSize).toNat = rxBufferSize ∧
      s = ⟨⟨uart, UInt32.ofNat rxBufferSize, 0, false, 0, true, ⟨0, 0, 0, 0, 0, 0, 0, 0⟩⟩,
        ⟨UInt32.ofNat rxBufferSize, 0, ⟨0, 0, 0⟩⟩, memory, true, [], [], 0⟩ := by
  by_cases hsize : rxBufferSize = 0 ∨ 65535 < rxBufferSize
  · rw [start, Stm32f4UartDmaBackend.init, if_pos hsize] at h
    cases h
  · have hlarge : ¬ (rxBufferSize = 0 ∨ 2 ^ 32 - 1 < rxBufferSize) := by omega
    have hnat : (UInt32.ofNat rxBufferSize).toNat = rxBufferSize := by
      rw [UInt32.toNat_ofNat']
      omega
    rw [start, Stm32f4UartDmaBackend.init, if_neg hsize] at h
    change (Stm32UartDmaTransport.init rxBufferSize 0).bind _ = _ at h
    rw [Stm32UartDmaTransport.init, if_neg hlarge] at h
    exact ⟨by omega, by omega, hnat, (Option.some.inj h).symm⟩

/-! ## Events -/

open Stm32f4UartDmaBackend (producedDelta)

theorem producedDelta_toNat {backend : Stm32f4UartDmaBackend} {current : UInt32}
    (hlast : backend.lastDmaPosition.toNat < backend.rxBufferSize.toNat)
    (hsize : backend.rxBufferSize.toNat ≤ 65535) :
    (producedDelta backend current).toNat = Circular.advance backend.rxBufferSize.toNat
      backend.lastDmaPosition.toNat current.toNat := by
  unfold producedDelta Circular.advance
  by_cases hle : backend.lastDmaPosition ≤ current
  · rw [if_pos hle, if_pos (UInt32.le_iff_toNat_le.mp hle), UInt32.toNat_sub_of_le _ _ hle]
  · have hlt : ¬ backend.lastDmaPosition.toNat ≤ current.toNat := by
      intro hn
      exact hle (UInt32.le_iff_toNat_le.mpr hn)
    have hsub : backend.lastDmaPosition ≤ backend.rxBufferSize :=
      UInt32.le_iff_toNat_le.mpr hlast.le
    rw [if_neg hle, if_neg hlt, UInt32.toNat_add, UInt32.toNat_sub_of_le _ _ hsub]
    omega

theorem position_toNat (hpos : 0 < s.backend.rxBufferSize.toNat)
    (hsize : s.backend.rxBufferSize.toNat ≤ 65535) :
    s.position ≠ 0 ∧ ¬ s.backend.rxBufferSize < s.position.toUInt32 ∧
      (if s.position.toUInt32 = s.backend.rxBufferSize then (0 : UInt32)
        else s.position.toUInt32).toNat = s.place := by
  have hplace : s.place < s.backend.rxBufferSize.toNat := Nat.mod_lt _ hpos
  have hnat : s.position.toUInt32.toNat =
      if s.place = 0 then s.backend.rxBufferSize.toNat else s.place := by
    rw [UInt16.toNat_toUInt32, position, UInt16.toNat_ofNat']
    split <;> omega
  refine ⟨?_, ?_, ?_⟩
  · intro hzero
    rw [hzero] at hnat
    have hz : (0 : UInt16).toUInt32.toNat = 0 := rfl
    rw [hz] at hnat
    split at hnat <;> omega
  · rw [UInt32.lt_iff_toNat_lt, hnat]
    split <;> omega
  · have heq : s.position.toUInt32 = s.backend.rxBufferSize ↔ s.place = 0 := by
      rw [← UInt32.toNat_inj, hnat]
      split <;> omega
    by_cases hz : s.place = 0
    · rw [if_pos (heq.mpr hz), hz]
      rfl
    · rw [if_neg (fun h => hz (heq.mp h)), hnat, if_neg hz]

/-- `after` differs from `before` in its counters at most. -/
structure SameConfig (before after : Stm32f4UartDmaBackend) : Prop where
  uart : after.uart = before.uart
  rxBufferSize : after.rxBufferSize = before.rxBufferSize
  started : after.started = before.started

theorem onRxEvent_counted {backend : Stm32f4UartDmaBackend} {dmaPosition : UInt16}
    (hstarted : backend.started = true) (hzero : dmaPosition ≠ 0)
    (hsize : ¬ backend.rxBufferSize < dmaPosition.toUInt32) {current : UInt32}
    (hcurrent : current = if dmaPosition.toUInt32 = backend.rxBufferSize then 0
      else dmaPosition.toUInt32) :
    SameConfig backend (backend.onRxEvent backend.uart dmaPosition) ∧
      (backend.onRxEvent backend.uart dmaPosition).producedCount =
        backend.producedCount + producedDelta backend current ∧
      (backend.onRxEvent backend.uart dmaPosition).lastDmaPosition =
        if producedDelta backend current = 0 then backend.lastDmaPosition else current := by
  have hvalid : ¬ (¬ backend.started ∨ backend.uart ≠ backend.uart ∨ dmaPosition = 0 ∨
      backend.rxBufferSize < dmaPosition.toUInt32) := by
    simp [hstarted, hzero, hsize]
  rw [Stm32f4UartDmaBackend.onRxEvent, if_neg hvalid, ← hcurrent]
  dsimp only
  by_cases hd : producedDelta backend current = 0
  · rw [if_pos hd, if_pos hd, hd, UInt32.add_zero]
    exact ⟨⟨rfl, rfl, rfl⟩, rfl, rfl⟩
  · rw [if_neg hd, if_neg hd]
    exact ⟨⟨rfl, rfl, rfl⟩, rfl, rfl⟩

theorem onRxEvent_ignored {backend : Stm32f4UartDmaBackend} {uart : ℕ} {dmaPosition : UInt16}
    (h : ¬ (backend.started = true ∧ uart = backend.uart)) :
    ∃ stats, backend.onRxEvent uart dmaPosition = { backend with stats := stats } := by
  have hinvalid : ¬ backend.started ∨ uart ≠ backend.uart ∨ dmaPosition = 0 ∨
      backend.rxBufferSize < dmaPosition.toUInt32 := by
    by_cases hstarted : backend.started = true
    · exact .inr (.inl fun heq => h ⟨hstarted, heq⟩)
    · exact .inl hstarted
  exact ⟨_, if_pos hinvalid⟩

/-- **An event counts the bytes since the last one**, when they are less than a round. -/
theorem onRxEvent_round (hpos : 0 < s.backend.rxBufferSize.toNat)
    (hsize : s.backend.rxBufferSize.toNat ≤ 65535) (hstarted : s.backend.started = true)
    (hlast : s.backend.lastDmaPosition.toNat = s.reported % s.backend.rxBufferSize.toNat)
    (hreported : s.reported ≤ s.wrote.length)
    (hgap : s.wrote.length < s.reported + s.backend.rxBufferSize.toNat) :
    SameConfig s.backend (s.backend.onRxEvent s.backend.uart s.position) ∧
      (s.backend.onRxEvent s.backend.uart s.position).producedCount =
        s.backend.producedCount + UInt32.ofNat (s.wrote.length - s.reported) ∧
      (s.backend.onRxEvent s.backend.uart s.position).lastDmaPosition.toNat =
        s.wrote.length % s.backend.rxBufferSize.toNat := by
  obtain ⟨hzero, hle, hcurrent⟩ := position_toNat hpos hsize
  generalize hcur : (if s.position.toUInt32 = s.backend.rxBufferSize then (0 : UInt32)
    else s.position.toUInt32) = current at hcurrent
  obtain ⟨hsame, hproduced, hposition⟩ := onRxEvent_counted hstarted hzero hle hcur.symm
  have hnat : (producedDelta s.backend current).toNat = s.wrote.length - s.reported := by
    have hlt : s.backend.lastDmaPosition.toNat < s.backend.rxBufferSize.toNat := by
      rw [hlast]
      exact Nat.mod_lt _ hpos
    rw [producedDelta_toNat hlt hsize, hlast, hcurrent]
    exact Circular.advance_eq hpos hreported hgap
  have hdelta : producedDelta s.backend current = UInt32.ofNat (s.wrote.length - s.reported) := by
    rw [← hnat, UInt32.ofNat_toNat]
  refine ⟨hsame, by rw [hproduced, hdelta], ?_⟩
  rw [hposition]
  by_cases hd : producedDelta s.backend current = 0
  · have hz : s.wrote.length - s.reported = 0 := by
      rw [← hnat, hd]
      rfl
    rw [if_pos hd, hlast, show s.wrote.length = s.reported by omega]
  · rw [if_neg hd]
    exact hcurrent

theorem rxEvent_eq (hstarted : s.backend.started = true) :
    s.rxEvent s.backend.uart = { s with
      backend := s.backend.onRxEvent s.backend.uart s.position
      reported := s.wrote.length } := by
  rw [rxEvent, if_pos ⟨hstarted, rfl⟩]

/-! ## Reading -/

theorem syncAvailable_again (t : Stm32UartDmaTransport) (producedCount : UInt32) :
    (t.syncAvailable producedCount).2.syncAvailable producedCount =
      t.syncAvailable producedCount := by
  unfold Stm32UartDmaTransport.syncAvailable
  by_cases hover : t.rxBufferSize < producedCount - t.consumedCount
  · have hsize : producedCount - (producedCount - t.rxBufferSize) = t.rxBufferSize := by
      simp
    simp only [if_pos hover, hsize]
    rw [if_neg (UInt32.lt_irrefl _)]
  · simp only [if_neg hover]

theorem readLoop_stats (memory : ℕ → UInt8) (count : ℕ) (t : Stm32UartDmaTransport)
    (stats : Stm32UartDmaTransportStats) :
    Stm32UartDmaTransport.readLoop memory count { t with stats := stats } =
      ((Stm32UartDmaTransport.readLoop memory count t).1,
        { (Stm32UartDmaTransport.readLoop memory count t).2 with stats := stats }) := by
  induction count generalizing t with
  | zero => rfl
  | succ count ih =>
    have hnext := ih { t with consumedCount := t.consumedCount + 1 }
    simp only [Stm32UartDmaTransport.readLoop] at hnext ⊢
    rw [hnext]
    rfl

/-- `read` behind its look at what is available. -/
def handOut (s : UartSystem) (count : ℕ) : UartSystem :=
  { s with
    transport := { (Stm32UartDmaTransport.readLoop s.memory count s.transport).2 with
      stats := { (Stm32UartDmaTransport.readLoop s.memory count s.transport).2.stats with
        bytesRead := (Stm32UartDmaTransport.readLoop s.memory count s.transport).2.stats.bytesRead +
          UInt32.ofNat count } }
    handed := s.handed ++ (Stm32UartDmaTransport.readLoop s.memory count s.transport).1 }

theorem readLoop_keeps (memory : ℕ → UInt8) (count : ℕ) (t : Stm32UartDmaTransport) :
    (Stm32UartDmaTransport.readLoop memory count t).2.stats = t.stats := by
  induction count generalizing t with
  | zero => rfl
  | succ count ih => exact ih _

theorem handOut_zero (s : UartSystem) : s.handOut 0 = s := by
  simp [handOut, Stm32UartDmaTransport.readLoop]

theorem handOut_succ (s : UartSystem) (count : ℕ) :
    s.handOut (count + 1) = (s.handOut 1).handOut count := by
  have hone : s.handOut 1 = { s with
      transport := { s.transport with
        consumedCount := s.transport.consumedCount + 1
        stats := { s.transport.stats with bytesRead := s.transport.stats.bytesRead + 1 } }
      handed := s.handed ++ [s.transport.current s.memory] } := rfl
  have hloop := readLoop_stats s.memory count
    { s.transport with consumedCount := s.transport.consumedCount + 1 }
    { s.transport.stats with bytesRead := s.transport.stats.bytesRead + 1 }
  have hcount : UInt32.ofNat (count + 1) = 1 + UInt32.ofNat count := by
    rw [UInt32.ofNat_add, UInt32.add_comm]
    rfl
  rw [hone, handOut, handOut]
  dsimp only at hloop ⊢
  rw [hloop]
  simp only [Stm32UartDmaTransport.readLoop, readLoop_keeps, hcount, UInt32.add_assoc,
    List.append_assoc, List.singleton_append]

def Within (s : UartSystem) : Prop :=
  ¬ s.transport.rxBufferSize < s.backend.producedCount - s.transport.consumedCount

theorem handOut_within {s : UartSystem} (h : Within s)
    (hne : s.backend.producedCount - s.transport.consumedCount ≠ 0) :
    Within (s.handOut 1) ∧
      ((s.handOut 1).backend.producedCount - (s.handOut 1).transport.consumedCount).toNat + 1 =
        (s.backend.producedCount - s.transport.consumedCount).toNat := by
  have hpos : (s.backend.producedCount - s.transport.consumedCount).toNat ≠ 0 := fun h0 =>
    hne (UInt32.toNat_inj.mp h0)
  have hproduced := s.backend.producedCount.toNat_lt
  have hconsumed := s.transport.consumedCount.toNat_lt
  have hone : (1 : UInt32).toNat = 1 := rfl
  have hnat : (s.backend.producedCount - (s.transport.consumedCount + 1)).toNat + 1 =
      (s.backend.producedCount - s.transport.consumedCount).toNat := by
    rw [UInt32.toNat_sub] at hpos ⊢
    rw [UInt32.toNat_sub, UInt32.toNat_add, hone]
    omega
  refine ⟨?_, hnat⟩
  unfold Within at h ⊢
  change ¬ s.transport.rxBufferSize < s.backend.producedCount - (s.transport.consumedCount + 1)
  rw [UInt32.lt_iff_toNat_lt] at h ⊢
  omega

theorem readByte_within {s : UartSystem} (h : Within s) : s.readByte =
    if s.backend.producedCount - s.transport.consumedCount = 0 then s else s.handOut 1 := by
  have hsync : s.transport.syncAvailable s.backend.producedCount =
      (s.backend.producedCount - s.transport.consumedCount, s.transport) := if_neg h
  rw [readByte, Stm32UartDmaTransport.readByte, hsync]
  dsimp only
  split
  · simp
  · rfl

theorem read_within {s : UartSystem} (h : Within s) (n : ℕ) : s.read n =
    s.handOut (min n (s.backend.producedCount - s.transport.consumedCount).toNat) := by
  have hsync : s.transport.syncAvailable s.backend.producedCount =
      (s.backend.producedCount - s.transport.consumedCount, s.transport) := if_neg h
  rw [read, Stm32UartDmaTransport.read, hsync]
  by_cases hn : n = 0
  · subst hn
    rw [if_pos rfl, Nat.zero_min, handOut_zero]
    simp
  · rw [if_neg hn]
    dsimp only
    split
    · rw [min_eq_left (by omega)]
      rfl
    · rw [min_eq_right (by omega)]
      rfl

theorem look_within (s : UartSystem) : Within s.look := by
  unfold Within look Stm32UartDmaTransport.syncAvailable
  dsimp only
  split
  · simp
  · assumption

theorem iterate_within (n : ℕ) {s : UartSystem} (h : Within s) : readByte^[n] s =
    s.handOut (min n (s.backend.producedCount - s.transport.consumedCount).toNat) := by
  induction n generalizing s with
  | zero => rw [Nat.zero_min, handOut_zero, Function.iterate_zero_apply]
  | succ n ih =>
    rw [Function.iterate_succ_apply, readByte_within h]
    by_cases hz : s.backend.producedCount - s.transport.consumedCount = 0
    · rw [if_pos hz, ih h, hz, UInt32.toNat_zero, Nat.min_zero, Nat.min_zero]
    · obtain ⟨hw, hnat⟩ := handOut_within h hz
      rw [if_neg hz, ih hw, ← hnat, Nat.add_min_add_right]
      exact (handOut_succ s _).symm

theorem look_readByte (s : UartSystem) : s.look.readByte = s.readByte := by
  unfold look readByte Stm32UartDmaTransport.readByte
  dsimp only
  rw [syncAvailable_again]

theorem look_read (s : UartSystem) {n : ℕ} (hn : n ≠ 0) :
    s.look.read n = s.read n := by
  unfold look read Stm32UartDmaTransport.read
  simp only [if_neg hn, syncAvailable_again]

/-- **A read of `n` bytes is `n` reads of one.** -/
theorem read_eq_iterate (s : UartSystem) (n : ℕ) : s.read n = readByte^[n] s := by
  cases n with
  | zero => simp [read, Stm32UartDmaTransport.read]
  | succ n =>
    rw [← look_read s (Nat.succ_ne_zero n), read_within (look_within s),
      ← iterate_within (n + 1) (look_within s), Function.iterate_succ_apply,
      Function.iterate_succ_apply, look_readByte]

theorem ofNat_succ (count : ℕ) : UInt32.ofNat (count + 1) = UInt32.ofNat count + 1 := by
  rw [UInt32.ofNat_add]
  rfl

def fourBytes : UartSystem where
  backend := ⟨1, 4, 0, false, 0, true, ⟨0, 0, 0, 0, 0, 0, 0, 0⟩⟩
  transport := ⟨4, 0, ⟨0, 0, 0⟩⟩
  memory := fun _ => 0
  running := true
  wrote := []
  handed := []
  reported := 0

theorem fourBytes_start : start 1 4 (fun _ => 0) = some fourBytes := rfl

end UartSystem

end RadioConnection
