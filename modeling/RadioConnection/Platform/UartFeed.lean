import RadioConnection.Platform.UartCounts
import RadioConnection.Lib.Feed

/-!
# The transport as a reader

The bytes come in bursts, each with its event, and the transport reads them in a
buffer whose size divides `2^32`.  `Represents` is the refinement: the transport
stands where a `Feed` stands.

* `represents_op`: every operation keeps it.
* `transport_delivers`: what the transport hands out, counts and exposes.
-/

namespace RadioConnection

namespace UartSystem

open Feed (CatchUp Run since)

/-- The calls of an operation; a burst ends with its event. -/
def feedCalls : Feed.Op UInt8 → List UartCall
  | .burst bytes => bytes.map .receive ++ [.rxEvent]
  | .readOne => [.readByte]
  | .read n => [.read n]
  | .available => [.available]

/-- The system stands where the reader stands. -/
structure Represents (size : ℕ) (s : UartSystem) (f : Feed UInt8) : Prop where
  counts : Counts s f.next
  size_eq : s.backend.rxBufferSize.toNat = size
  dvd : size ∣ 2 ^ 32
  stream : s.wrote = f.stream
  reported : s.reported = f.stream.length
  handed : s.handed = f.returned
  holds : Circular.Holds size s.memory f.stream
  bytesRead : s.transport.stats.bytesRead = UInt32.ofNat f.returned.length
  dropped : s.transport.stats.droppedBytes = UInt32.ofNat f.skipped

variable {s s₀ : UartSystem} {f : Feed UInt8} {next size : ℕ}

theorem start_represents {uart rxBufferSize : ℕ} {memory : ℕ → UInt8}
    (h : start uart rxBufferSize memory = some s) (hdvd : rxBufferSize ∣ 2 ^ 32) :
    Represents rxBufferSize s .empty := by
  have hcounts := start_counts h
  obtain ⟨-, -, hnat, rfl⟩ := start_eq h
  exact ⟨hcounts, hnat, hdvd, rfl, rfl, rfl, Circular.holds_nil memory, rfl, rfl⟩

/-! ## Bursts -/

theorem receives (h : Counts s next)
    (hholds : Circular.Holds s.backend.rxBufferSize.toNat s.memory s.wrote) (bytes : List UInt8) :
    ∃ memory, (bytes.map UartCall.receive).foldl call s =
        { s with memory := memory, wrote := s.wrote ++ bytes } ∧
      Counts ((bytes.map UartCall.receive).foldl call s) next ∧
      Circular.Holds s.backend.rxBufferSize.toNat memory (s.wrote ++ bytes) := by
  induction bytes generalizing s with
  | nil =>
    refine ⟨s.memory, ?_, h, ?_⟩
    · rw [List.append_nil]
      rfl
    · rwa [List.append_nil]
  | cons byte bytes ih =>
    obtain ⟨hstep, hcounts⟩ := counts_receive h byte
    have hholds' := hholds.write byte
    rw [← place] at hholds'
    have hnext := ih hcounts (by rw [hstep]; exact hholds')
    obtain ⟨memory, heq, hafter, hmemory⟩ := hnext
    rw [hstep] at hmemory
    refine ⟨memory, ?_, hafter, ?_⟩
    · rw [List.map_cons, List.foldl_cons, call, heq, hstep, List.append_assoc]
      rfl
    · rw [← List.singleton_append, ← List.append_assoc]
      exact hmemory

theorem represents_burst (h : Represents size s f) {bytes : List UInt8}
    (hbytes : bytes.length < size) :
    Represents size ((feedCalls (.burst bytes)).foldl call s) (f.arrive bytes) := by
  have hmemory : Circular.Holds s.backend.rxBufferSize.toNat s.memory s.wrote := by
    rw [h.size_eq, h.stream]
    exact h.holds
  obtain ⟨memory, heq, hcounts, hholds⟩ := receives h.counts hmemory bytes
  rw [feedCalls, List.foldl_append, List.foldl_cons, List.foldl_nil, call]
  have hlen : (s.wrote ++ bytes).length = s.reported + bytes.length := by
    rw [List.length_append, h.stream, h.reported]
  have hgap : ((bytes.map UartCall.receive).foldl call s).wrote.length <
      ((bytes.map UartCall.receive).foldl call s).reported +
        ((bytes.map UartCall.receive).foldl call s).backend.rxBufferSize.toNat := by
    rw [heq]
    show (s.wrote ++ bytes).length < s.reported + s.backend.rxBufferSize.toNat
    rw [h.size_eq]
    omega
  obtain ⟨⟨backend, hsame, hevent⟩, hafter⟩ := counts_rxEvent hcounts hgap
  rw [heq] at hsame
  have hsize : backend.rxBufferSize.toNat = size := by
    rw [hsame.rxBufferSize]
    exact h.size_eq
  rw [hevent] at hafter ⊢
  rw [heq] at hafter ⊢
  refine ⟨hafter, hsize, h.dvd, ?_, ?_, h.handed, ?_, h.bytesRead, h.dropped⟩
  · exact congrArg (· ++ bytes) h.stream
  · exact congrArg (fun stream => (stream ++ bytes).length) h.stream
  · show Circular.Holds size memory (f.stream ++ bytes)
    rw [← h.stream, ← h.size_eq]
    exact hholds

/-! ## Looks and reads -/

/-- **A look at what is available** is the reader catching up. -/
theorem represents_look (h : Represents size s f) :
    ∃ f', CatchUp size (f.unread < 2 ^ 32) f f' ∧
      Represents size s.look f' := by
  obtain ⟨k, overflowEvents, hle, hsize, hmin, hcall, hcounts⟩ := counts_look h.counts
  have hunread : f.unread = s.reported - f.next := by rw [h.reported, Feed.unread]
  have hk : k ≤ f.unread := by omega
  rw [h.size_eq] at hsize hmin
  refine ⟨f.skip k hk, ⟨k, hk, rfl, ?_, ?_⟩, ?_⟩
  · rw [Feed.skip_unread]
    omega
  · rw [hunread]
    exact hmin
  · rw [← Feed.skip_next f k hk] at hcounts
    rw [hcall] at hcounts ⊢
    refine ⟨hcounts, h.size_eq, h.dvd, h.stream, h.reported, h.handed, h.holds, h.bytesRead, ?_⟩
    show s.transport.stats.droppedBytes + UInt32.ofNat k = UInt32.ofNat (f.skipped + k)
    rw [h.dropped, UInt32.ofNat_add]

theorem represents_readByte (h : Represents size s f)
    (hle : f.unread ≤ size) : Represents size s.readByte f.take := by
  have hunread : s.reported - f.next ≤ s.backend.rxBufferSize.toNat := by
    rw [h.reported, h.size_eq]
    exact hle
  by_cases hlt : f.next < f.stream.length
  · obtain ⟨hstep, hcounts⟩ := counts_readByte h.counts hunread (by rw [h.reported]; exact hlt)
    have hbyte : s.memory (f.next % 2 ^ 32 % s.backend.rxBufferSize.toNat) =
        f.stream.get ⟨f.next, hlt⟩ := by
      rw [h.size_eq, Circular.mod_mod_of (.inl h.dvd)]
      apply h.holds f.next hlt
      unfold Feed.unread at hle
      omega
    have hreturned : f.take.returned = f.returned ++ [f.stream.get ⟨f.next, hlt⟩] := by
      rw [Feed.take_returned, List.getElem?_eq_getElem hlt]
      rfl
    rw [← f.take_next hlt] at hcounts
    rw [hstep, hbyte] at hcounts ⊢
    refine ⟨hcounts, h.size_eq, h.dvd, ?_, ?_, ?_, ?_, ?_, ?_⟩
    · rw [Feed.take_stream]
      exact h.stream
    · rw [Feed.take_stream]
      exact h.reported
    · show s.handed ++ _ = f.take.returned
      rw [hreturned, h.handed]
    · rw [Feed.take_stream]
      exact h.holds
    · show s.transport.stats.bytesRead + 1 = _
      rw [h.bytesRead, hreturned, List.length_append, List.length_singleton, ofNat_succ]
    · rw [Feed.take_skipped]
      exact h.dropped
  · have hge := Nat.not_lt.mp hlt
    rw [f.take_of_le hge, counts_readByte_none h.counts]
    · exact h
    · have hnext := h.counts.next_le
      rw [h.reported] at hnext ⊢
      omega

theorem represents_readBytes (h : Represents size s f) (hle : f.unread ≤ size) (n : ℕ) :
    Represents size (readByte^[n] s) (Feed.take^[n] f) := by
  induction n generalizing s f with
  | zero => exact h
  | succ n ih => exact ih (represents_readByte h hle) (f.take_unread_le.trans hle)

/-! ## Runs -/

/-- Fewer than `2^31` bytes come between two looks at what is available. -/
def Timely (ops : List (Feed.Op UInt8)) : Prop :=
  ∀ before, before <+: ops → since before < 2 ^ 31

/-- A reader that is looked at in time skips as little as it must. -/
theorem catchUp_timely {timely : Prop} {ops : List (Feed.Op UInt8)} {f' : Feed UInt8}
    (h : Represents size s f) (hrun : Run size (Timely ops) ops f)
    (htimely : timely → since ops < 2 ^ 31) (hc : CatchUp size (f.unread < 2 ^ 32) f f') :
    CatchUp size timely f f' := by
  have hsize := h.counts.size_le
  rw [h.size_eq] at hsize
  have hunread := hrun.unread_le
  refine hc.mono fun ht => ?_
  have hsince := htimely ht
  omega

/-- **Every operation keeps the refinement.** -/
theorem represents_op {ops : List (Feed.Op UInt8)} (hrun : Run size (Timely ops) ops f)
    (h : Represents size s f) (op : Feed.Op UInt8)
    (hburst : ∀ bytes, op = .burst bytes → bytes.length < size) :
    ∃ f', Run size (Timely (ops ++ [op])) (ops ++ [op]) f' ∧
      Represents size ((feedCalls op).foldl call s) f' := by
  have hbefore : Timely (ops ++ [op]) → Timely ops := fun htimely before hpart =>
    htimely before (hpart.trans (List.prefix_append ops [op]))
  have hrun' := hrun.mono hbefore
  obtain ⟨f', hc, hlook⟩ := represents_look h
  have hcatch : CatchUp size (Timely (ops ++ [op])) f f' :=
    catchUp_timely h hrun (fun htimely => htimely ops (List.prefix_append ops [op])) hc
  have hunread : f'.unread ≤ size := by
    obtain ⟨-, -, -, hwithin, -⟩ := hc
    exact hwithin
  cases op with
  | burst bytes => exact ⟨_, hrun'.burst bytes, represents_burst h (hburst bytes rfl)⟩
  | available => exact ⟨f', hrun'.available hcatch, hlook⟩
  | readOne =>
    refine ⟨_, hrun'.readOne hcatch, ?_⟩
    have hread := represents_readByte hlook hunread
    rw [look_readByte] at hread
    exact hread
  | read n =>
    cases n with
    | zero =>
      refine ⟨f, hrun'.readNone, ?_⟩
      rw [feedCalls, List.foldl_cons, List.foldl_nil, call, read_eq_iterate]
      exact h
    | succ n =>
      refine ⟨_, hrun'.read hcatch n, ?_⟩
      have hread := represents_readBytes hlook hunread (n + 1)
      rw [← read_eq_iterate, look_read s (Nat.succ_ne_zero n)] at hread
      exact hread

theorem represents_run {uart rxBufferSize : ℕ} {memory : ℕ → UInt8}
    (h : start uart rxBufferSize memory = some s₀) (hdvd : rxBufferSize ∣ 2 ^ 32)
    {ops : List (Feed.Op UInt8)}
    (hbursts : ∀ bytes, .burst bytes ∈ ops → bytes.length < rxBufferSize) :
    ∃ f, Run rxBufferSize (Timely ops) ops f ∧
      Represents rxBufferSize ((ops.flatMap feedCalls).foldl call s₀) f := by
  induction ops using List.reverseRecOn with
  | nil => exact ⟨_, .nil, start_represents h hdvd⟩
  | append_singleton ops op ih =>
    obtain ⟨f, hrun, hrep⟩ := ih fun bytes hmem => hbursts bytes (List.mem_append_left _ hmem)
    rw [List.flatMap_append, List.flatMap_singleton, List.foldl_append]
    exact represents_op hrun hrep op fun bytes heq => hbursts bytes (by simp [heq])

theorem represents_value (h : Represents size s f) (hle : f.unread ≤ size) :
    s.transport.syncAvailable s.backend.producedCount =
      (UInt32.ofNat f.unread, s.transport) := by
  have hunread : f.unread = s.reported - f.next := by rw [h.reported, Feed.unread]
  obtain ⟨hwithin, havailable⟩ := counts_within h.counts (by rw [← hunread, h.size_eq]; exact hle)
  rw [hunread, ← havailable]
  exact if_neg hwithin

/-- **The transport delivers the stream.**  `f` is where it stands after the operations, and `f'`
where it stands after one more look. -/
theorem transport_delivers {uart rxBufferSize : ℕ} {memory : ℕ → UInt8}
    (h : start uart rxBufferSize memory = some s₀) (hdvd : rxBufferSize ∣ 2 ^ 32)
    {ops : List (Feed.Op UInt8)}
    (hbursts : ∀ bytes, .burst bytes ∈ ops → bytes.length < rxBufferSize)
    {available : UInt32} {transport : Stm32UartDmaTransport}
    (hs : s = (ops.flatMap feedCalls).foldl call s₀)
    (hlook : s.transport.syncAvailable s.backend.producedCount = (available, transport)) :
    s.handed.Sublist s.wrote ∧
    (∃ f f', Run rxBufferSize (Timely ops) ops f ∧ s.wrote = f.stream ∧ s.handed = f.returned ∧
      CatchUp rxBufferSize (Timely ops) f f' ∧ available.toNat = f'.unread) ∧
    available.toNat ≤ rxBufferSize ∧
    transport.stats.bytesRead + transport.stats.droppedBytes + available =
      UInt32.ofNat s.wrote.length ∧
    ∀ n, s.read n = readByte^[n] s := by
  obtain ⟨f, hrun, hrep⟩ := represents_run h hdvd hbursts
  rw [← hs] at hrep
  obtain ⟨f', hc, hrep'⟩ := represents_look hrep
  have hcatch : CatchUp rxBufferSize (Timely ops) f f' :=
    catchUp_timely hrep hrun (fun htimely => htimely ops (List.prefix_refl ops)) hc
  obtain ⟨-, -, -, hwithin, -⟩ := hc
  have hvalue := represents_value hrep' hwithin
  rw [look] at hvalue hrep'
  dsimp only at hvalue
  rw [syncAvailable_again, hlook] at hvalue
  obtain ⟨rfl, -⟩ := Prod.mk.inj hvalue
  have hsize := hrep'.counts.size_le
  rw [hrep'.size_eq] at hsize
  have hnat : (UInt32.ofNat f'.unread).toNat = f'.unread := by
    rw [UInt32.toNat_ofNat']
    omega
  refine ⟨?_, ⟨f, f', hrun, hrep.stream, hrep.handed, hcatch, hnat⟩, by omega, ?_,
    read_eq_iterate s⟩
  · rw [hrep.stream, hrep.handed]
    exact f.sublist.trans (List.take_sublist _ _)
  · have hread := hrep'.bytesRead
    have hdropped := hrep'.dropped
    have hstream : s.wrote = f'.stream := hrep'.stream
    have hle := f'.next_le
    rw [hlook] at hread hdropped
    rw [hread, hdropped, hstream, ← UInt32.ofNat_add, ← UInt32.ofNat_add]
    congr 1
    unfold Feed.unread
    unfold Feed.next at hle ⊢
    omega

/-- Two bursts around the end of a buffer of four bytes. -/
def twoBursts : List (Feed.Op UInt8) :=
  [.burst [1, 2, 3], .readOne, .burst [4, 5, 6], .read 2]

theorem transport_delivers_twoBursts :
    ((twoBursts.flatMap feedCalls).foldl call fourBytes).handed.Sublist
      ((twoBursts.flatMap feedCalls).foldl call fourBytes).wrote := by
  have hbursts : ∀ bytes, .burst bytes ∈ twoBursts → bytes.length < 4 := by
    simp [twoBursts]
  exact (transport_delivers fourBytes_start (by decide) hbursts rfl Prod.mk.eta.symm).1

/-- The second byte is skipped, as five are unread when the buffer holds four. -/
example : ((twoBursts.flatMap feedCalls).foldl call fourBytes).handed = [1, 3, 4] := by decide

end UartSystem

end RadioConnection
