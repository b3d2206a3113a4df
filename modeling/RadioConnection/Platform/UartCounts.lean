import RadioConnection.Platform.UartSystem

/-!
# Counting without errors

The system as long as the UART reports no error.  `Counts` says
which places of the stream its counters stand for: the counters wrap, the places
do not.

* `syncAvailable_counts`: what the transport skips.
* `call_counts`: every call moves the places forward.
* `congruent_iff`: when the counters name the slots that the DMA writes.
-/

namespace RadioConnection

/-- What happens to a UART without errors. -/
inductive UartCall
  /-- The DMA receives a byte. -/
  | receive (byte : UInt8)
  /-- The HAL reports the write position. -/
  | rxEvent
  | readByte
  | read (maxLen : ℕ)
  | available
  deriving DecidableEq

namespace UartSystem

def call (s : UartSystem) : UartCall → UartSystem
  | .receive byte => s.receive byte
  | .rxEvent => s.rxEvent s.backend.uart
  | .readByte => s.readByte
  | .read maxLen => s.read maxLen
  | .available => s.look

/-- The counters stand for places in the stream, `next` being that of the transport. -/
structure Counts (s : UartSystem) (next : ℕ) : Prop where
  size_pos : 0 < s.backend.rxBufferSize.toNat
  size_le : s.backend.rxBufferSize.toNat ≤ 65535
  size_eq : s.transport.rxBufferSize = s.backend.rxBufferSize
  started : s.backend.started = true
  running : s.running = true
  produced : s.backend.producedCount = UInt32.ofNat s.reported
  last : s.backend.lastDmaPosition.toNat = s.reported % s.backend.rxBufferSize.toNat
  reported_le : s.reported ≤ s.wrote.length
  consumed : s.transport.consumedCount = UInt32.ofNat next
  next_le : next ≤ s.reported

variable {s s₀ : UartSystem} {next : ℕ}

theorem start_counts {uart rxBufferSize : ℕ} {memory : ℕ → UInt8}
    (h : start uart rxBufferSize memory = some s) : Counts s 0 := by
  obtain ⟨hpos, hle, hnat, rfl⟩ := start_eq h
  refine ⟨?_, ?_, rfl, rfl, rfl, rfl, (Nat.zero_mod _).symm, le_refl 0, rfl, le_refl 0⟩
  · show 0 < (UInt32.ofNat rxBufferSize).toNat
    omega
  · show (UInt32.ofNat rxBufferSize).toNat ≤ 65535
    omega

theorem counts_receive (h : Counts s next) (byte : UInt8) :
    s.receive byte = { s with
      memory := Function.update s.memory s.place byte, wrote := s.wrote ++ [byte] } ∧
      Counts (s.receive byte) next := by
  have hstep : s.receive byte = { s with
      memory := Function.update s.memory s.place byte, wrote := s.wrote ++ [byte] } :=
    if_pos h.running
  refine ⟨hstep, ?_⟩
  rw [hstep]
  exact
    { h with
      reported_le := by
        rw [List.length_append]
        exact Nat.le_add_right_of_le h.reported_le }

theorem counts_rxEvent (h : Counts s next)
    (hgap : s.wrote.length < s.reported + s.backend.rxBufferSize.toNat) :
    (∃ backend, SameConfig s.backend backend ∧
      s.rxEvent s.backend.uart = { s with backend := backend, reported := s.wrote.length }) ∧
      Counts (s.rxEvent s.backend.uart) next := by
  have hreported := h.reported_le
  obtain ⟨hsame, hproduced, hplace⟩ :=
    onRxEvent_round h.size_pos h.size_le h.started h.last h.reported_le hgap
  refine ⟨⟨_, hsame, rxEvent_eq h.started⟩, ?_⟩
  rw [rxEvent_eq h.started]
  refine ⟨?_, ?_, ?_, hsame.started.trans h.started, h.running, ?_, ?_, le_refl _, h.consumed,
    h.next_le.trans h.reported_le⟩
  all_goals simp only [hsame.rxBufferSize]
  · exact h.size_pos
  · exact h.size_le
  · exact h.size_eq
  · rw [hproduced, h.produced, ← UInt32.ofNat_add, Nat.add_sub_cancel' hreported]
  · exact hplace

/-! ## Skipping -/

theorem ofNat_eq {a b : ℕ} (h : a % 2 ^ 32 = b % 2 ^ 32) : UInt32.ofNat a = UInt32.ofNat b := by
  apply UInt32.toNat_inj.mp
  rw [UInt32.toNat_ofNat', UInt32.toNat_ofNat', h]

/-- **What the transport skips.**  It counts the unread bytes modulo `2^32`. -/
theorem syncAvailable_counts (h : Counts s next) : ∃ k overflowEvents,
    next + k ≤ s.reported ∧ s.reported - (next + k) ≤ s.backend.rxBufferSize.toNat ∧
    (s.reported - next < 2 ^ 32 → k = s.reported - next - s.backend.rxBufferSize.toNat) ∧
    s.transport.syncAvailable s.backend.producedCount =
      (UInt32.ofNat (s.reported - (next + k)), { s.transport with
        consumedCount := UInt32.ofNat (next + k)
        stats := { s.transport.stats with
          overflowEvents := overflowEvents
          droppedBytes := s.transport.stats.droppedBytes + UInt32.ofNat k } }) := by
  have hnext := h.next_le
  have hsize := h.size_le
  obtain ⟨unread, hunread⟩ := Nat.exists_eq_add_of_le hnext
  have havailable : s.backend.producedCount - s.transport.consumedCount = UInt32.ofNat unread := by
    rw [h.produced, h.consumed, ← UInt32.ofNat_sub hnext]
    congr 1
    omega
  have hnat : (UInt32.ofNat unread).toNat = unread % 2 ^ 32 := UInt32.toNat_ofNat'
  have hbuffer : s.backend.rxBufferSize = UInt32.ofNat s.backend.rxBufferSize.toNat :=
    UInt32.ofNat_toNat.symm
  unfold Stm32UartDmaTransport.syncAvailable
  rw [havailable, h.size_eq]
  dsimp only
  by_cases hover : s.backend.rxBufferSize < UInt32.ofNat unread
  · -- the newest `rxBufferSize` bytes stay
    rw [if_pos hover]
    rw [UInt32.lt_iff_toNat_lt, hnat] at hover
    have hle : s.backend.rxBufferSize.toNat ≤ unread := by omega
    refine ⟨unread - s.backend.rxBufferSize.toNat, s.transport.stats.overflowEvents + 1, by omega,
      by omega, fun _ => by omega, ?_⟩
    have hfst : s.reported - (next + (unread - s.backend.rxBufferSize.toNat)) =
        s.backend.rxBufferSize.toNat := by omega
    have hconsumed : s.backend.producedCount - s.backend.rxBufferSize =
        UInt32.ofNat (next + (unread - s.backend.rxBufferSize.toNat)) := by
      rw [h.produced, hbuffer, ← UInt32.ofNat_sub (by omega), ← hbuffer]
      congr 1
      omega
    have hdropped : UInt32.ofNat unread - s.backend.rxBufferSize =
        UInt32.ofNat (unread - s.backend.rxBufferSize.toNat) := by
      rw [UInt32.ofNat_sub hle, ← hbuffer]
    rw [hfst, ← hbuffer, hconsumed, hdropped, h.size_eq]
  · -- the count is what is left of the unread bytes modulo `2^32`
    rw [if_neg hover]
    rw [UInt32.lt_iff_toNat_lt, hnat] at hover
    refine ⟨unread - unread % 2 ^ 32, s.transport.stats.overflowEvents, by omega, by omega,
      by omega, ?_⟩
    have hfst : UInt32.ofNat unread =
        UInt32.ofNat (s.reported - (next + (unread - unread % 2 ^ 32))) := ofNat_eq (by omega)
    have hconsumed : s.transport.consumedCount =
        UInt32.ofNat (next + (unread - unread % 2 ^ 32)) := by
      rw [h.consumed]
      exact ofNat_eq (by omega)
    have hdropped : UInt32.ofNat (unread - unread % 2 ^ 32) = 0 := by
      rw [ofNat_eq (show (unread - unread % 2 ^ 32) % 2 ^ 32 = 0 % 2 ^ 32 by omega)]
      rfl
    rw [hdropped, UInt32.add_zero, ← hconsumed, ← hfst]

/-- **A look at what is available** moves the transport to the place from which it reads. -/
theorem counts_look (h : Counts s next) : ∃ k overflowEvents,
    next + k ≤ s.reported ∧ s.reported - (next + k) ≤ s.backend.rxBufferSize.toNat ∧
    (s.reported - next < 2 ^ 32 → k = s.reported - next - s.backend.rxBufferSize.toNat) ∧
    s.look = { s with
      transport := { s.transport with
        consumedCount := UInt32.ofNat (next + k)
        stats := { s.transport.stats with
          overflowEvents := overflowEvents
          droppedBytes := s.transport.stats.droppedBytes + UInt32.ofNat k } } } ∧
    Counts s.look (next + k) := by
  obtain ⟨k, overflowEvents, hle, hsize, hmin, heq⟩ := syncAvailable_counts h
  have hcall : s.look = { s with
      transport := { s.transport with
        consumedCount := UInt32.ofNat (next + k)
        stats := { s.transport.stats with
          overflowEvents := overflowEvents
          droppedBytes := s.transport.stats.droppedBytes + UInt32.ofNat k } } } := by
    rw [look, heq]
  refine ⟨k, overflowEvents, hle, hsize, hmin, hcall, ?_⟩
  rw [hcall]
  exact { h with consumed := rfl, next_le := hle }

/-! ## The places after a read -/

theorem counts_within (h : Counts s next)
    (hle : s.reported - next ≤ s.backend.rxBufferSize.toNat) :
    Within s ∧ s.backend.producedCount - s.transport.consumedCount =
      UInt32.ofNat (s.reported - next) := by
  have hsize := h.size_le
  have havailable : s.backend.producedCount - s.transport.consumedCount =
      UInt32.ofNat (s.reported - next) := by
    rw [h.produced, h.consumed, ← UInt32.ofNat_sub h.next_le]
  refine ⟨?_, havailable⟩
  unfold Within
  rw [havailable, h.size_eq, UInt32.lt_iff_toNat_lt, UInt32.toNat_ofNat']
  omega

/-- **A byte that waits is handed out**, from the slot that the counter names. -/
theorem counts_readByte (h : Counts s next)
    (hle : s.reported - next ≤ s.backend.rxBufferSize.toNat) (hlt : next < s.reported) :
    s.readByte = { s with
      transport := { s.transport with
        consumedCount := UInt32.ofNat (next + 1)
        stats := { s.transport.stats with bytesRead := s.transport.stats.bytesRead + 1 } }
      handed := s.handed ++ [s.memory (next % 2 ^ 32 % s.backend.rxBufferSize.toNat)] } ∧
    Counts s.readByte (next + 1) := by
  obtain ⟨hwithin, havailable⟩ := counts_within h hle
  have hsize := h.size_le
  have hne : s.backend.producedCount - s.transport.consumedCount ≠ 0 := by
    intro h0
    rw [havailable, ← UInt32.toNat_inj, UInt32.toNat_ofNat', UInt32.toNat_zero] at h0
    omega
  have hindex : (s.transport.consumedCount % s.transport.rxBufferSize).toNat =
      next % 2 ^ 32 % s.backend.rxBufferSize.toNat := by
    rw [UInt32.toNat_mod, h.consumed, h.size_eq, UInt32.toNat_ofNat']
  have hstep : s.readByte = { s with
      transport := { s.transport with
        consumedCount := UInt32.ofNat (next + 1)
        stats := { s.transport.stats with bytesRead := s.transport.stats.bytesRead + 1 } }
      handed := s.handed ++ [s.memory (next % 2 ^ 32 % s.backend.rxBufferSize.toNat)] } := by
    rw [readByte_within hwithin, if_neg hne, ← hindex, ofNat_succ, ← h.consumed]
    rfl
  refine ⟨hstep, ?_⟩
  rw [hstep]
  exact { h with consumed := rfl, next_le := hlt }

theorem counts_readByte_none (h : Counts s next) (heq : next = s.reported) : s.readByte = s := by
  obtain ⟨hwithin, havailable⟩ := counts_within h (by omega)
  rw [readByte_within hwithin, if_pos]
  rw [havailable, heq, Nat.sub_self]
  rfl

/-! ## Runs -/

/-- Every event comes in less than a round of the DMA; `gap` bytes came before the calls. -/
def InRound (size : ℕ) : ℕ → List UartCall → Prop
  | _, [] => True
  | gap, .receive _ :: calls => InRound size (gap + 1) calls
  | gap, .rxEvent :: calls => gap < size ∧ InRound size 0 calls
  | gap, .readByte :: calls => InRound size gap calls
  | gap, .read _ :: calls => InRound size gap calls
  | gap, .available :: calls => InRound size gap calls

theorem readByte_counts (h : Counts s next) : ∃ next', Counts s.readByte next' := by
  obtain ⟨k, overflowEvents, hle, hsize, -, hcall, hcounts⟩ := counts_look h
  rw [← look_readByte]
  have hreported : s.look.reported = s.reported := by rw [hcall]
  have hbackend : s.look.backend = s.backend := by rw [hcall]
  rcases Nat.lt_or_ge (next + k) s.reported with hlt | hge
  · exact ⟨_, (counts_readByte hcounts (by rw [hreported, hbackend]; exact hsize)
      (by rw [hreported]; exact hlt)).2⟩
  · rw [counts_readByte_none hcounts (by rw [hreported]; omega)]
    exact ⟨_, hcounts⟩

theorem call_counts (h : Counts s next) (c : UartCall) (hgap : c = .rxEvent →
    s.wrote.length < s.reported + s.backend.rxBufferSize.toNat) :
    ∃ next', Counts (s.call c) next' := by
  cases c with
  | receive byte => exact ⟨next, (counts_receive h byte).2⟩
  | rxEvent => exact ⟨next, (counts_rxEvent h (hgap rfl)).2⟩
  | readByte => exact readByte_counts h
  | read maxLen =>
    rw [call, read_eq_iterate]
    induction maxLen generalizing s next with
    | zero => exact ⟨next, h⟩
    | succ n ih =>
      obtain ⟨next', h'⟩ := readByte_counts h
      exact ih h' nofun
  | available =>
    obtain ⟨k, -, -, -, -, -, hcounts⟩ := counts_look h
    exact ⟨_, hcounts⟩

/-- The calls from here on are in a round of the DMA. -/
structure Round (s : UartSystem) (calls : List UartCall) : Prop where
  counts : ∃ next, Counts s next
  inRound : InRound s.backend.rxBufferSize.toNat (s.wrote.length - s.reported) calls

theorem Round.call {c : UartCall} {calls : List UartCall} (h : Round s (c :: calls)) :
    Round (s.call c) calls ∧ (s.call c).backend.rxBufferSize = s.backend.rxBufferSize ∧
      s.reported ≤ (s.call c).reported ∧
      (s.call c).reported < s.reported + s.backend.rxBufferSize.toNat := by
  obtain ⟨⟨next, hcounts⟩, hround⟩ := h
  have hpos := hcounts.size_pos
  have hreported := hcounts.reported_le
  cases c with
  | receive byte =>
    obtain ⟨hstep, hafter⟩ := counts_receive hcounts byte
    have hwrote : (s.receive byte).wrote.length - (s.receive byte).reported =
        s.wrote.length - s.reported + 1 := by
      rw [hstep]
      change (s.wrote ++ [byte]).length - s.reported = _
      rw [List.length_append, List.length_singleton]
      omega
    refine ⟨⟨⟨next, hafter⟩, ?_⟩, by rw [UartSystem.call, hstep],
      by rw [UartSystem.call, hstep],
      by rw [UartSystem.call, hstep]; exact Nat.lt_add_of_pos_right hpos⟩
    rw [UartSystem.call, hwrote, hstep]
    exact hround
  | rxEvent =>
    have hgap : s.wrote.length < s.reported + s.backend.rxBufferSize.toNat := by
      have hlt := hround.1
      omega
    obtain ⟨⟨backend, hsame, hstep⟩, hafter⟩ := counts_rxEvent hcounts hgap
    refine ⟨⟨⟨next, hafter⟩, ?_⟩, by rw [UartSystem.call, hstep, hsame.rxBufferSize],
      by rw [UartSystem.call, hstep]; exact hreported, by rw [UartSystem.call, hstep]; exact hgap⟩
    rw [UartSystem.call, hstep, hsame.rxBufferSize, Nat.sub_self]
    exact hround.2
  | readByte => exact ⟨⟨call_counts hcounts .readByte nofun, hround⟩, rfl, le_refl _, by
      show s.reported < _
      omega⟩
  | read maxLen => exact ⟨⟨call_counts hcounts (.read maxLen) nofun, hround⟩, rfl, le_refl _, by
      show s.reported < _
      omega⟩
  | available => exact ⟨⟨call_counts hcounts .available nofun, hround⟩, rfl, le_refl _, by
      show s.reported < _
      omega⟩

/-- The counters name the slots: the produced count that of the next byte, and the consumed count
that of the oldest byte which the transport still has, as the DMA put byte `i` into slot
`i % rxBufferSize`. -/
def Congruent (s : UartSystem) : Prop :=
  s.backend.producedCount % s.backend.rxBufferSize = s.backend.lastDmaPosition ∧
  ((s.transport.syncAvailable s.backend.producedCount).2.consumedCount %
      s.transport.rxBufferSize).toNat =
    (s.reported - (s.transport.syncAvailable s.backend.producedCount).1.toNat) %
      s.backend.rxBufferSize.toNat

/-- **When the counters name the slots**: what they lost when they wrapped is whole rounds. -/
theorem congruent_places (h : Counts s next) :
    (s.backend.producedCount % s.backend.rxBufferSize = s.backend.lastDmaPosition ↔
      s.backend.rxBufferSize.toNat ∣ 2 ^ 32 * (s.reported / 2 ^ 32)) ∧
    ∃ place ≤ s.reported,
      (((s.transport.syncAvailable s.backend.producedCount).2.consumedCount %
          s.transport.rxBufferSize).toNat =
        (s.reported - (s.transport.syncAvailable s.backend.producedCount).1.toNat) %
          s.backend.rxBufferSize.toNat ↔
        s.backend.rxBufferSize.toNat ∣ 2 ^ 32 * (place / 2 ^ 32)) := by
  constructor
  · rw [← UInt32.toNat_inj, UInt32.toNat_mod, h.produced, h.last, UInt32.toNat_ofNat']
    exact Circular.mod_mod_iff
  · obtain ⟨k, overflowEvents, hle, hsize, -, heq⟩ := syncAvailable_counts h
    have hsize' := h.size_le
    have hplace : s.reported - (UInt32.ofNat (s.reported - (next + k))).toNat = next + k := by
      rw [UInt32.toNat_ofNat']
      omega
    refine ⟨next + k, hle, ?_⟩
    rw [heq, h.size_eq, hplace, UInt32.toNat_mod, UInt32.toNat_ofNat']
    exact Circular.mod_mod_iff

theorem Round.reported_le {calls : List UartCall} (h : Round s calls) :
    s.reported ≤ (calls.foldl UartSystem.call s).reported := by
  induction calls generalizing s with
  | nil => exact le_refl _
  | cons c calls ih =>
    obtain ⟨hnext, -, hle, -⟩ := h.call
    exact hle.trans (ih hnext)

theorem Round.run {calls before : List UartCall} (h : Round s calls) (hbefore : before <+: calls) :
    (∃ next, Counts (before.foldl UartSystem.call s) next) ∧
      (before.foldl UartSystem.call s).backend.rxBufferSize = s.backend.rxBufferSize ∧
      (before.foldl UartSystem.call s).reported ≤ (calls.foldl UartSystem.call s).reported := by
  induction before generalizing s calls with
  | nil => exact ⟨h.counts, rfl, h.reported_le⟩
  | cons c before ih =>
    obtain ⟨after, rfl⟩ := hbefore
    obtain ⟨hnext, hsize, -, -⟩ := h.call
    obtain ⟨hcounts, hsize', hle⟩ := ih hnext (List.prefix_append before after)
    exact ⟨hcounts, hsize'.trans hsize, hle⟩

/-- A count that passes a bound passes it by less than a round. -/
theorem Round.exists_between {calls : List UartCall} (h : Round s calls) {bound : ℕ}
    (hs : s.reported < bound) (hcalls : bound ≤ (calls.foldl UartSystem.call s).reported) :
    ∃ before, before <+: calls ∧ bound ≤ (before.foldl UartSystem.call s).reported ∧
      (before.foldl UartSystem.call s).reported < bound + s.backend.rxBufferSize.toNat := by
  induction calls generalizing s with
  | nil => exact absurd hcalls (Nat.not_le.mpr hs)
  | cons c calls ih =>
    obtain ⟨hnext, hsize, -, hlt⟩ := h.call
    by_cases hb : bound ≤ (s.call c).reported
    · exact ⟨[c], ⟨calls, rfl⟩, hb, by
        show (s.call c).reported < _
        omega⟩
    · obtain ⟨before, hbefore, hle, hlt'⟩ := ih hnext (Nat.not_le.mp hb) hcalls
      rw [hsize] at hlt'
      exact ⟨c :: before, List.cons_prefix_cons.mpr ⟨rfl, hbefore⟩, hle, hlt'⟩

theorem start_round {uart rxBufferSize : ℕ} {memory : ℕ → UInt8}
    (h : start uart rxBufferSize memory = some s₀) {calls : List UartCall}
    (hround : InRound rxBufferSize 0 calls) :
    Round s₀ calls ∧ s₀.backend.rxBufferSize.toNat = rxBufferSize ∧ s₀.reported = 0 := by
  have hcounts := start_counts h
  obtain ⟨-, -, hnat, rfl⟩ := start_eq h
  refine ⟨⟨⟨0, hcounts⟩, ?_⟩, hnat, rfl⟩
  show InRound (UInt32.ofNat rxBufferSize).toNat 0 calls
  rw [hnat]
  exact hround

/-- **The counters always name the slots exactly when the size divides `2^32`**, or the events of
the run count less than `2^32` bytes. -/
theorem congruent_iff {uart rxBufferSize : ℕ} {memory : ℕ → UInt8}
    (h : start uart rxBufferSize memory = some s₀) {calls : List UartCall}
    (hround : InRound rxBufferSize 0 calls) :
    (∀ before, before <+: calls → Congruent (before.foldl call s₀)) ↔
      rxBufferSize ∣ 2 ^ 32 ∨ (calls.foldl call s₀).reported < 2 ^ 32 := by
  obtain ⟨hstart, hsize, hzero⟩ := start_round h hround
  have hsmall := (start_counts h).size_le
  constructor
  · intro hcongruent
    by_contra hnot
    obtain ⟨hdvd, hpassed⟩ := not_or.mp hnot
    obtain ⟨before, hbefore, hle, hlt⟩ :=
      hstart.exists_between (by omega) (Nat.not_lt.mp hpassed)
    obtain ⟨⟨next, hcounts⟩, hsize', -⟩ := hstart.run hbefore
    have hlost := (congruent_places hcounts).1.mp (hcongruent before hbefore).1
    have hwrapped : (before.foldl call s₀).reported / 2 ^ 32 = 1 := by omega
    rw [hwrapped, Nat.mul_one, hsize', hsize] at hlost
    exact hdvd hlost
  · intro hholds before hbefore
    obtain ⟨⟨next, hcounts⟩, hsize', hle⟩ := hstart.run hbefore
    obtain ⟨hproduced, place, hplace, hconsumed⟩ := congruent_places hcounts
    rw [hsize', hsize] at hproduced hconsumed
    have hlost : ∀ n ≤ (before.foldl call s₀).reported, rxBufferSize ∣ 2 ^ 32 * (n / 2 ^ 32) := by
      intro n hn
      rcases hholds with hdvd | hlt
      · exact hdvd.mul_right _
      · rw [Nat.div_eq_of_lt (by omega), Nat.mul_zero]
        exact Nat.dvd_zero _
    unfold Congruent
    rw [hsize', hsize]
    exact ⟨hproduced.mpr (hlost _ (le_refl _)), hconsumed.mpr (hlost _ hplace)⟩

/-- A byte, its event, and a read. -/
theorem congruent_fourBytes :
    Congruent ([UartCall.receive 7, .rxEvent, .readByte].foldl call fourBytes) := by
  have hround : InRound 4 0 [UartCall.receive 7, .rxEvent, .readByte] := ⟨by decide, trivial⟩
  have hall := (congruent_iff fourBytes_start hround).mpr (.inl (by decide))
  exact hall _ (List.prefix_refl _)

def singleBytes (n : ℕ) : List UartCall := (List.replicate n [UartCall.receive 0, .rxEvent]).flatten

theorem singleBytes_succ (n : ℕ) : singleBytes (n + 1) = .receive 0 :: .rxEvent :: singleBytes n :=
  rfl

theorem singleBytes_inRound {size : ℕ} (hsize : 1 < size) (n : ℕ) :
    InRound size 0 (singleBytes n) := by
  induction n with
  | zero => trivial
  | succ n ih => exact ⟨hsize, ih⟩

theorem singleBytes_reported (h : Counts s next) (hsize : 1 < s.backend.rxBufferSize.toNat)
    (hall : s.reported = s.wrote.length) (n : ℕ) :
    ((singleBytes n).foldl call s).reported = s.reported + n := by
  induction n generalizing s with
  | zero => rfl
  | succ n ih =>
    obtain ⟨hreceive, hreceived⟩ := counts_receive h 0
    have hwrote : (s.receive 0).wrote.length = s.reported + 1 := by
      rw [hreceive]
      change (s.wrote ++ [0]).length = _
      rw [List.length_append, List.length_singleton, hall]
    have hbefore : (s.receive 0).reported = s.reported := by rw [hreceive]
    have hsame' : (s.receive 0).backend = s.backend := by rw [hreceive]
    obtain ⟨⟨backend, hsame, hevent⟩, hcounted⟩ := counts_rxEvent hreceived (by
      rw [hwrote, hbefore, hsame']
      omega)
    have hafter : ((s.receive 0).rxEvent (s.receive 0).backend.uart).reported =
        s.reported + 1 := by
      rw [hevent]
      exact hwrote
    rw [singleBytes_succ, List.foldl_cons, List.foldl_cons, call, call, ih hcounted, hafter]
    · omega
    · rw [hevent]
      show 1 < backend.rxBufferSize.toNat
      rw [hsame.rxBufferSize, hsame']
      exact hsize
    · rw [hevent]

def threeBytes : UartSystem where
  backend := ⟨1, 3, 0, false, 0, true, ⟨0, 0, 0, 0, 0, 0, 0, 0⟩⟩
  transport := ⟨3, 0, ⟨0, 0, 0⟩⟩
  memory := fun _ => 0
  running := true
  wrote := []
  handed := []
  reported := 0

/-- **`2^32` bytes in a buffer of three**: the produced count is 0 and the DMA is at index 1. -/
theorem threeBytes_incongruent :
    ¬ ∀ uart rxBufferSize memory s₀ calls, start uart rxBufferSize memory = some s₀ →
      InRound rxBufferSize 0 calls → Congruent (calls.foldl call s₀) := by
  intro h
  have hstart : start 1 3 (fun _ => 0) = some threeBytes := rfl
  have hround := singleBytes_inRound (show 1 < 3 by decide) (2 ^ 32)
  have hcongruent := h 1 3 _ threeBytes _ hstart hround
  have hreported := singleBytes_reported (start_counts hstart) (by decide) rfl (2 ^ 32)
  obtain ⟨⟨next, hcounts⟩, hsize, -⟩ :=
    (start_round hstart hround).1.run (List.prefix_refl _)
  have hlost := (congruent_places hcounts).1.mp hcongruent.1
  rw [hsize, hreported] at hlost
  have hthree : threeBytes.backend.rxBufferSize.toNat = 3 := rfl
  have hzero : threeBytes.reported = 0 := rfl
  rw [hthree, hzero] at hlost
  omega

end UartSystem

end RadioConnection
