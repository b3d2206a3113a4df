import RadioConnection.Link.Packet
import RadioConnection.Platform.RadioChip

/-!
# What the driver's commands do to the radio

The commands of `sx128x.c` on the radio behind the abstract port, and with
`chipPort_of_chipHal` on the radio behind the STM32F4.

* `runs_transact`: a transaction that is OK is received by the radio as a whole, one
  that fails in part, and a wait that ends without one changes nothing.
* `runs_readCommand`, `runs_readBuffer`: what is read is what the radio has.
* `configureLoRa_configures`: **a configuration that returns OK leaves the radio with
  exactly what was asked for.**
-/

namespace RadioConnection

open Interaction Prog Stm32f4Sx128xPort Sx128x

variable {device : Sx128x} {bound : ℕ} {reset chip : RadioChip} {s s' : ChipBus}

/-! ## Transactions -/

theorem runs_pollBusy {startMs : UInt32} {r : Option Sx128xResult}
    (h : Runs (chipPort reset) (device.pollBusy startMs bound) s r s') : s' = s := by
  induction bound generalizing s with
  | zero => exact (runs_pure_iff.mp h).2
  | succ bound ih =>
    obtain ⟨busy, m, hbusy, hpolled⟩ := runs_bind_iff.mp h
    obtain rfl : m = s := runs_ask_iff.mp hbusy
    split at hpolled
    · obtain ⟨currentMs, m', htime, hread⟩ := runs_bind_iff.mp hpolled
      obtain rfl : m' = m := runs_ask_iff.mp htime
      split at hread
      · exact (runs_pure_iff.mp hread).2
      · obtain ⟨_, m'', hdelay, hrest⟩ := runs_bind_iff.mp hread
        obtain rfl : m'' = m' := runs_ask_iff.mp hdelay
        exact ih hrest
    · exact (runs_pure_iff.mp hpolled).2

theorem runs_waitWhileBusy {r : Option Sx128xResult}
    (h : Runs (chipPort reset) (device.waitWhileBusy bound) s r s') :
    s' = s ∧ r ≠ some .spiError := by
  have hresult : r ≠ some .spiError := by
    rintro rfl
    obtain ⟨tr, ht, -⟩ := h
    by_cases hready : device.initialized = true
    · obtain ⟨-, hr | hr | hr⟩ := waitWhileBusy_silent ht hready <;> cases hr
    · rw [waitWhileBusy, if_pos hready] at ht
      cases (trace_pure_iff.mp ht).2
  refine ⟨?_, hresult⟩
  rw [waitWhileBusy] at h
  split at h
  · exact (runs_pure_iff.mp h).2
  · obtain ⟨startMs, m, htime, hpoll⟩ := runs_bind_iff.mp h
    obtain rfl : m = s := runs_ask_iff.mp htime
    exact runs_pollBusy hpoll

theorem runs_transfer {t : Transfer} {heard received : List UInt8} {sent : Bool}
    (h : chipPort reset (.spiTransfer t) ⟨chip, some heard⟩ (sent, received) s') :
    ∃ data, data <+: bytes t ∧ (sent = true → data = bytes t) ∧
      s' = ⟨chip, some (heard ++ data)⟩ ∧
      received = if t.rxData then chip.replies heard data else [] := by
  obtain ⟨data, received', hdata, hall, ⟨rfl, rfl⟩, hreceived⟩ := h
  exact ⟨data, hdata, hall, rfl, hreceived⟩

theorem runs_attempt {ts : List Transfer} {heard : List UInt8} {sent : Bool}
    (h : Runs (chipPort reset) (attempt ts) ⟨chip, some heard⟩ sent s') :
    ∃ data, data <+: ts.flatMap bytes ∧ (sent = true → data = ts.flatMap bytes) ∧
      s' = ⟨chip, some (heard ++ data)⟩ := by
  induction ts generalizing heard with
  | nil =>
    obtain ⟨-, rfl⟩ := runs_pure_iff.mp h
    exact ⟨[], List.prefix_rfl, fun _ => rfl, by rw [List.append_nil]⟩
  | cons t ts ih =>
    obtain ⟨⟨done, received⟩, m, htransfer, h⟩ := runs_bind_iff.mp h
    obtain ⟨first, hfirst, hall, rfl, -⟩ := runs_transfer (runs_ask_iff.mp htransfer)
    rw [List.flatMap_cons]
    cases done with
    | false =>
      obtain ⟨rfl, rfl⟩ := runs_pure_iff.mp h
      exact ⟨first, hfirst.trans (List.prefix_append _ _), (fun hf => by cases hf), rfl⟩
    | true =>
      obtain ⟨rest, hrest, hsent, rfl⟩ := ih h
      obtain rfl := hall rfl
      refine ⟨bytes t ++ rest, (List.prefix_append_right_inj _).mpr hrest, ?_, ?_⟩
      · intro ht
        rw [hsent ht]
      · rw [List.append_assoc]

/-- **What a transaction does to the radio.** -/
theorem runs_transact {t : Transaction} {r : Option Sx128xResult}
    (h : Runs (chipPort reset) (device.transact bound t) ⟨chip, none⟩ r s') :
    (r = some .ok ∧ s' = ⟨chip.receive t.wire, none⟩) ∨
    (r = some .spiError ∧ ∃ part, part <+: t.wire ∧ s' = ⟨chip.receive part, none⟩) ∨
    (r ≠ some .ok ∧ r ≠ some .spiError ∧ s' = ⟨chip, none⟩) := by
  obtain ⟨result, m, hwait, h⟩ := runs_bind_iff.mp h
  obtain ⟨rfl, hresult⟩ := runs_waitWhileBusy hwait
  split at h
  · rename_i hne
    obtain ⟨rfl, rfl⟩ := runs_pure_iff.mp h
    exact .inr (.inr ⟨hne, hresult, rfl⟩)
  · obtain ⟨_, m₁, hfall, h⟩ := runs_bind_iff.mp h
    obtain rfl : m₁ = ⟨chip, some []⟩ := runs_ask_iff.mp hfall
    obtain ⟨sent, m₂, hattempt, h⟩ := runs_bind_iff.mp h
    obtain ⟨data, hdata, hall, rfl⟩ := runs_attempt hattempt
    obtain ⟨_, m₃, hrise, h⟩ := runs_bind_iff.mp h
    obtain rfl : m₃ = ⟨chip.receive ([] ++ data), none⟩ := runs_ask_iff.mp hrise
    obtain ⟨rfl, rfl⟩ := runs_pure_iff.mp h
    rw [List.nil_append]
    cases sent with
    | true => exact .inl ⟨rfl, by rw [hall rfl, Transaction.wire]⟩
    | false => exact .inr (.inl ⟨rfl, data, hdata, rfl⟩)

theorem runs_sequence {plan : List Transaction}
    (h : Runs (chipPort reset) (device.sequence bound plan (some .ok)) ⟨chip, none⟩ (some .ok) s') :
    s' = ⟨(plan.map Transaction.wire).foldl RadioChip.receive chip, none⟩ := by
  induction plan generalizing chip with
  | nil =>
    obtain ⟨-, rfl⟩ := runs_pure_iff.mp h
    rfl
  | cons t plan ih =>
    rw [sequence_ok_cons] at h
    obtain ⟨result, m, htransact, h⟩ := runs_bind_iff.mp h
    have hok : result = some .ok := by
      by_contra hne
      rw [sequence_of_ne_ok hne] at h
      exact hne (runs_pure_iff.mp h).1.symm
    obtain ⟨-, rfl⟩ | ⟨hr, -⟩ | ⟨hr, -⟩ := runs_transact htransact
    · subst hok
      exact ih h
    · rw [hok] at hr
      cases hr
    · exact absurd hok hr

theorem wire_write (command : Sx128xCommand) {parameters : List UInt8} {count : UInt32}
    (hcount : parameters.length = count.toNat) :
    (writeTransaction command (some parameters) count).wire = command.opcode :: parameters := by
  have hopcode : bytes ⟨some [command.opcode], false, 1⟩ = [command.opcode] := bytes_some rfl
  rw [Transaction.wire, Transaction.transfers, List.flatMap_cons]
  change bytes ⟨some [command.opcode], false, 1⟩ ++ _ = _
  rw [hopcode, writeTransaction]
  split
  · rw [List.flatMap_singleton, bytes_some hcount]
    rfl
  · rename_i hzero
    obtain rfl : count = 0 := by simpa using hzero
    obtain rfl := List.length_eq_zero_iff.mp hcount
    rfl

theorem receive_write (command : Sx128xCommand) (parameters : List UInt8) :
    chip.receive (command.opcode :: parameters) = chip.perform command parameters := by
  rw [RadioChip.receive, commandOf_opcode]
  rfl

/-! ## Reading -/

/-- A command that only asks the radio for something. -/
def Sx128xCommand.Asks (command : Sx128xCommand) : Prop :=
  ∀ (chip : RadioChip) (arguments : List UInt8), chip.perform command arguments = chip

theorem asks_of_mem {command : Sx128xCommand} (h : command ∈ [Sx128xCommand.getIrqStatus,
    .getRxBufferStatus, .getPacketStatus, .getStatus, .readBuffer]) : command.Asks := by
  intro chip arguments
  simp only [List.mem_cons, List.not_mem_nil, or_false] at h
  rcases h with rfl | rfl | rfl | rfl | rfl <;> rfl

theorem receive_asks {command : Sx128xCommand} (hc : command.Asks) {part arguments : List UInt8}
    (h : part <+: command.opcode :: arguments) : chip.receive part = chip := by
  cases part with
  | nil => rfl
  | cons b rest =>
    obtain rfl := (List.cons_prefix_cons.mp h).1
    rw [receive_write, hc]

/-- The answer to a command that reads, without a byte that was received before. -/
theorem replies_asks {command : Sx128xCommand} (hne : command ≠ .readBuffer) (b : UInt8)
    (rest data : List UInt8) :
    chip.replies (command.opcode :: b :: rest) data =
      (List.range' rest.length data.length).map (chip.response command) := by
  induction data generalizing rest with
  | nil => rfl
  | cons c data ih =>
    rw [RadioChip.replies, List.cons_append, List.cons_append, ih (rest ++ [c]), List.length_cons,
      List.range'_succ, List.map_cons, List.length_append, List.length_singleton]
    congr 1
    rw [RadioChip.reply, commandOf_opcode]
    cases command <;> first | rfl | exact absurd rfl hne

theorem replies_readBuffer (offset b : UInt8) (rest data : List UInt8) :
    chip.replies (Sx128xCommand.readBuffer.opcode :: offset :: b :: rest) data =
      (List.range' rest.length data.length).map fun i => chip.buffer (offset + UInt8.ofNat i) := by
  induction data generalizing rest with
  | nil => rfl
  | cons c data ih =>
    rw [RadioChip.replies, List.cons_append, List.cons_append, List.cons_append, ih (rest ++ [c]),
      List.length_cons, List.range'_succ, List.map_cons, List.length_append,
      List.length_singleton]
    congr 1

/-- Transfers that read, until one fails; the bytes of the last are kept. -/
def attemptRead : List Transfer → Transfer → Option (List UInt8) →
    PortProg (Sx128xResult × Option (List UInt8))
  | [], t, _ => do
    let (sent, received) ← port (.spiTransfer t)
    if ¬ sent then pure (.spiError, some received) else pure (.ok, some received)
  | first :: ts, t, data => do
    let (sent, _) ← port (.spiTransfer first)
    if ¬ sent then pure (.spiError, data) else attemptRead ts t data

/-- A transaction that reads: wait for BUSY, select, transfer, release. -/
def readTransact (device : Sx128x) (bound : ℕ) (ts : List Transfer) (t : Transfer)
    (data : Option (List UInt8)) : PortProg (Option (Sx128xResult × Option (List UInt8))) := do
  let result ← device.waitWhileBusy bound
  if result ≠ some .ok then pure (result.map fun result => (result, data))
  else
    port (.nssWrite false)
    let (result, data) ← attemptRead ts t data
    port (.nssWrite true)
    pure (some (result, data))

theorem attemptRead_cons_bind {α : Type} (first : Transfer) (ts : List Transfer) (t : Transfer)
    (data : Option (List UInt8)) (k : Sx128xResult × Option (List UInt8) → PortProg α) :
    attemptRead (first :: ts) t data >>= k =
      port (.spiTransfer first) >>= fun x =>
        if x.1 then attemptRead ts t data >>= k else k (.spiError, data) := by
  simp only [attemptRead, LawfulMonad.bind_assoc]
  refine bind_congr fun x => ?_
  obtain ⟨sent, received⟩ := x
  cases sent <;> simp

theorem attemptRead_nil_bind {α : Type} (t : Transfer) (data : Option (List UInt8))
    (k : Sx128xResult × Option (List UInt8) → PortProg α) :
    attemptRead [] t data >>= k =
      port (.spiTransfer t) >>= fun x => k (if x.1 then .ok else .spiError, some x.2) := by
  simp only [attemptRead, LawfulMonad.bind_assoc]
  refine bind_congr fun x => ?_
  obtain ⟨sent, received⟩ := x
  cases sent <;> simp

theorem readCommand_of_ready (hready : device.initialized = true) (command : Sx128xCommand)
    (data : List UInt8) {length : UInt32} (hlength : length ≠ 0) :
    device.readCommand bound command (some data) length =
      readTransact device bound [⟨some [command.opcode], true, 1⟩, ⟨some [sx128xSpiNop], true, 1⟩]
        ⟨none, true, length⟩ (some data) := by
  rw [readCommand, if_neg (not_not.mpr hready), if_neg (by simp [hlength]), readTransact]
  refine bind_congr fun result => ?_
  split
  · rfl
  · refine bind_congr fun _ => ?_
    simp only [attemptRead_cons_bind, attemptRead_nil_bind, Sx128x.spiTransfer]
    refine bind_congr fun x => ?_
    by_cases hx : x.1
    · simp only [hx, not_true_eq_false, if_false, if_true]
      refine bind_congr fun y => ?_
      by_cases hy : y.1
      · simp only [hy, not_true_eq_false, if_false, if_true]
        refine bind_congr fun z => ?_
        by_cases hz : z.1 <;> simp [hz]
      · simp [hy]
    · simp [hx]

theorem readBuffer_of_ready (hready : device.initialized = true) (offset : UInt8)
    (data : List UInt8) {length : UInt32} (hlength : length ≠ 0)
    (hrange : offset.toUInt32 + length ≤ sx128xBufferSize) :
    device.readBuffer bound offset (some data) length =
      readTransact device bound [⟨some [Sx128xCommand.readBuffer.opcode], true, 1⟩,
        ⟨some [offset], true, 1⟩, ⟨some [sx128xSpiNop], true, 1⟩] ⟨none, true, length⟩
        (some data) := by
  rw [readBuffer, if_neg (not_not.mpr hready), if_neg (by simp [hlength, hrange]), readTransact]
  refine bind_congr fun result => ?_
  split
  · rfl
  · refine bind_congr fun _ => ?_
    simp only [attemptRead_cons_bind, attemptRead_nil_bind, Sx128x.spiTransfer]
    refine bind_congr fun x => ?_
    by_cases hx : x.1
    · simp only [hx, not_true_eq_false, if_false, if_true]
      refine bind_congr fun y => ?_
      by_cases hy : y.1
      · simp only [hy, not_true_eq_false, if_false, if_true]
        refine bind_congr fun z => ?_
        by_cases hz : z.1
        · simp only [hz, not_true_eq_false, if_false, if_true]
          refine bind_congr fun w => ?_
          by_cases hw : w.1 <;> simp [hw]
        · simp [hz]
      · simp [hy]
    · simp [hx]

theorem runs_attemptRead {ts : List Transfer} {t : Transfer} {data data' : Option (List UInt8)}
    {heard : List UInt8} {r : Sx128xResult} (ht : t.rxData = true)
    (h : Runs (chipPort reset) (attemptRead ts t data) ⟨chip, some heard⟩ (r, data') s') :
    ∃ part, part <+: ts.flatMap bytes ++ bytes t ∧ s' = ⟨chip, some (heard ++ part)⟩ ∧
      (r = .ok → data' = some (chip.replies (heard ++ ts.flatMap bytes) (bytes t))) := by
  induction ts generalizing heard with
  | nil =>
    obtain ⟨⟨sent, received⟩, m, htransfer, h⟩ := runs_bind_iff.mp h
    obtain ⟨part, hpart, hall, rfl, hreceived⟩ := runs_transfer (runs_ask_iff.mp htransfer)
    rw [if_pos ht] at hreceived
    cases sent with
    | false =>
      obtain ⟨hr, rfl⟩ := runs_pure_iff.mp h
      obtain ⟨rfl, rfl⟩ := Prod.mk.inj hr
      exact ⟨part, hpart, rfl, (fun hr => by cases hr)⟩
    | true =>
      obtain ⟨hr, rfl⟩ := runs_pure_iff.mp h
      obtain ⟨rfl, rfl⟩ := Prod.mk.inj hr
      obtain rfl := hall rfl
      refine ⟨bytes t, List.prefix_rfl, rfl, fun _ => ?_⟩
      rw [hreceived, List.flatMap_nil, List.append_nil]
  | cons first ts ih =>
    obtain ⟨⟨sent, received⟩, m, htransfer, h⟩ := runs_bind_iff.mp h
    obtain ⟨part, hpart, hall, rfl, -⟩ := runs_transfer (runs_ask_iff.mp htransfer)
    rw [List.flatMap_cons, List.append_assoc]
    cases sent with
    | false =>
      obtain ⟨hr, rfl⟩ := runs_pure_iff.mp h
      obtain ⟨rfl, rfl⟩ := Prod.mk.inj hr
      exact ⟨part, hpart.trans (List.prefix_append _ _), rfl, (fun hr => by cases hr)⟩
    | true =>
      obtain rfl := hall rfl
      obtain ⟨rest, hrest, rfl, hok⟩ := ih h
      refine ⟨bytes first ++ rest, (List.prefix_append_right_inj _).mpr hrest, ?_, ?_⟩
      · rw [List.append_assoc]
      · intro hr
        rw [hok hr, List.append_assoc]

/-- **What a transaction that reads does to the radio: nothing**, and what it brings. -/
theorem runs_readTransact {command : Sx128xCommand} (hc : command.Asks) (arguments : List UInt8)
    {ts : List Transfer} {t : Transfer}
    (hts : ts.flatMap bytes = command.opcode :: arguments) (ht : t.rxData = true)
    {data data' : Option (List UInt8)} {r : Sx128xResult}
    (h : Runs (chipPort reset) (readTransact device bound ts t data) ⟨chip, none⟩
      (some (r, data')) s') :
    s' = ⟨chip, none⟩ ∧
      (r = .ok → data' = some (chip.replies (command.opcode :: arguments) (bytes t))) := by
  obtain ⟨result, m, hwait, h⟩ := runs_bind_iff.mp h
  obtain ⟨rfl, -⟩ := runs_waitWhileBusy hwait
  split at h
  · rename_i hne
    obtain ⟨hr, rfl⟩ := runs_pure_iff.mp h
    obtain ⟨result, rfl, he⟩ := Option.map_eq_some_iff.mp hr.symm
    obtain ⟨rfl, -⟩ := Prod.mk.inj he
    exact ⟨rfl, fun hok => absurd (congrArg some hok) hne⟩
  · obtain ⟨_, m₁, hfall, h⟩ := runs_bind_iff.mp h
    obtain rfl : m₁ = ⟨chip, some []⟩ := runs_ask_iff.mp hfall
    obtain ⟨⟨result', data''⟩, m₂, hattempt, h⟩ := runs_bind_iff.mp h
    obtain ⟨part, hpart, rfl, hok⟩ := runs_attemptRead ht hattempt
    obtain ⟨_, m₃, hrise, h⟩ := runs_bind_iff.mp h
    obtain rfl : m₃ = ⟨chip.receive ([] ++ part), none⟩ := runs_ask_iff.mp hrise
    obtain ⟨hr, rfl⟩ := runs_pure_iff.mp h
    obtain ⟨rfl, rfl⟩ := Prod.mk.inj (Option.some.inj hr)
    rw [hts, List.cons_append] at hpart
    rw [hts] at hok
    refine ⟨?_, hok⟩
    rw [List.nil_append, receive_asks hc hpart]

theorem runs_readCommand (hready : device.initialized = true) {command : Sx128xCommand}
    (hc : command.Asks) (hne : command ≠ .readBuffer) {old : List UInt8} {length : UInt32}
    (hlength : length ≠ 0) {data : Option (List UInt8)} {r : Sx128xResult}
    (h : Runs (chipPort reset) (device.readCommand bound command (some old) length) ⟨chip, none⟩
      (some (r, data)) s') :
    s' = ⟨chip, none⟩ ∧
      (r = .ok → data = some ((List.range length.toNat).map (chip.response command))) := by
  rw [readCommand_of_ready hready command old hlength] at h
  obtain ⟨hs, hdata⟩ := runs_readTransact hc [sx128xSpiNop] rfl rfl h
  refine ⟨hs, fun hr => ?_⟩
  rw [hdata hr, replies_asks hne, length_bytes, List.length_nil, List.range_eq_range']

theorem runs_readBuffer (hready : device.initialized = true) {offset : UInt8}
    {old : List UInt8} {length : UInt32} (hlength : length ≠ 0)
    (hrange : offset.toUInt32 + length ≤ sx128xBufferSize) {data : Option (List UInt8)}
    {r : Sx128xResult}
    (h : Runs (chipPort reset) (device.readBuffer bound offset (some old) length) ⟨chip, none⟩
      (some (r, data)) s') :
    s' = ⟨chip, none⟩ ∧ (r = .ok →
      data = some ((List.range length.toNat).map fun i => chip.buffer (offset + UInt8.ofNat i))) := by
  rw [readBuffer_of_ready hready offset old hlength hrange] at h
  have hasks : Sx128xCommand.readBuffer.Asks := asks_of_mem (by simp)
  obtain ⟨hs, hdata⟩ := runs_readTransact hasks [offset, sx128xSpiNop] rfl rfl h
  refine ⟨hs, fun hr => ?_⟩
  rw [hdata hr, replies_readBuffer, length_bytes, List.length_nil, List.range_eq_range']

/-! ## The configuration -/

theorem readU16Be_writeU16Be (value : UInt16) :
    Sx128x.readU16Be (Sx128x.writeU16Be value) = value := LinkPacket.readU16Be_write value

/-- The word of a frequency: whole steps of 52 MHz / 2^18. -/
def frequencyWord (frequencyHz : UInt32) : UInt32 :=
  ((frequencyHz.toUInt64 <<< 18) / sx128xXtalFrequencyHz).toUInt32

theorem toNat_frequencyWord {frequencyHz : UInt32} (h : frequencyHz ≤ sx128xRfFrequencyMaxHz) :
    (frequencyWord frequencyHz).toNat = frequencyHz.toNat * 2 ^ 18 / 52000000 := by
  have hle : frequencyHz.toNat ≤ 2500000000 := UInt32.le_iff_toNat_le.mp h
  rw [frequencyWord, UInt64.toNat_toUInt32, UInt64.toNat_div, UInt64.toNat_shiftLeft]
  simp only [sx128xXtalFrequencyHz, UInt32.toNat_toUInt64, Nat.shiftLeft_eq]
  change frequencyHz.toNat * 2 ^ 18 % 2 ^ 64 / 52000000 % 2 ^ 32 = _
  rw [Nat.mod_eq_of_lt (by omega : frequencyHz.toNat * 2 ^ 18 < 2 ^ 64),
    Nat.mod_eq_of_lt (by omega)]

theorem join_bytes {word : UInt32} (h : word.toNat < 2 ^ 24) :
    (word >>> 16).toUInt8.toNat * 65536 + (word >>> 8).toUInt8.toNat * 256 +
      word.toUInt8.toNat = word.toNat := by
  simp only [UInt32.toNat_toUInt8, UInt32.toNat_shiftRight, Nat.shiftRight_eq_div_pow]
  change word.toNat / 2 ^ 16 % 2 ^ 8 * 65536 + word.toNat / 2 ^ 8 % 2 ^ 8 * 256 +
    word.toNat % 2 ^ 8 = _
  omega

/-- The radio is set as `config` asks: in standby, with LoRa packets, the frequency rounded down
to a step, the power in dBm, and no interrupt on DIO2 and DIO3. -/
structure RadioChip.Configured (chip : RadioChip) (config : Sx128xLoRaConfig) : Prop where
  mode : chip.mode = .standby
  packetType : chip.packetType.toUInt32 = sx128xPacketTypeLoRa
  frequency : chip.frequency * 52000000 ≤ config.frequencyHz.toNat * 2 ^ 18 ∧
    config.frequencyHz.toNat * 2 ^ 18 < (chip.frequency + 1) * 52000000
  bases : chip.txBaseAddress = config.txBaseAddress ∧ chip.rxBaseAddress = config.rxBaseAddress
  modulation : chip.modulation = [config.spreadingFactor.toUInt8, config.bandwidth.toUInt8,
    config.codingRate.toUInt8]
  packetParams : chip.packetParams = [config.preambleSymbols, config.headerType.toUInt8,
    config.payloadLength, config.crcMode.toUInt8, config.iqMode.toUInt8]
  power : chip.txPowerDbm = config.txPowerDbm.toInt ∧ chip.rampTime = config.rampTime.toUInt8
  masks : chip.irqMask = config.irqMask ∧ chip.dio1Mask = config.dio1Mask ∧
    chip.dio2Mask = 0 ∧ chip.dio3Mask = 0

theorem power_byte {power : Int8} (hmin : sx128xTxPowerMinDbm ≤ power)
    (hmax : power ≤ sx128xTxPowerMaxDbm) :
    ((power.toInt16 + 18).toUInt16.toUInt8.toNat : ℤ) - 18 = power.toInt := by
  obtain ⟨⟨bits⟩⟩ := power
  revert bits
  decide +kernel

theorem wire_configure (config : Sx128xLoRaConfig) :
    (configureTransactions config).map Transaction.wire =
      [Sx128xCommand.setStandby.opcode :: [sx128xStandbyRc.toUInt8],
        Sx128xCommand.setPacketType.opcode :: [sx128xPacketTypeLoRa.toUInt8],
        Sx128xCommand.setRfFrequency.opcode ::
          [(frequencyWord config.frequencyHz >>> 16).toUInt8,
            (frequencyWord config.frequencyHz >>> 8).toUInt8,
            (frequencyWord config.frequencyHz).toUInt8],
        Sx128xCommand.setBufferBaseAddress.opcode :: [config.txBaseAddress, config.rxBaseAddress],
        Sx128xCommand.setModulationParams.opcode :: [config.spreadingFactor.toUInt8,
          config.bandwidth.toUInt8, config.codingRate.toUInt8],
        Sx128xCommand.setPacketParams.opcode :: [config.preambleSymbols,
          config.headerType.toUInt8, config.payloadLength, config.crcMode.toUInt8,
          config.iqMode.toUInt8],
        Sx128xCommand.setTxParams.opcode :: [(config.txPowerDbm.toInt16 + 18).toUInt16.toUInt8,
          config.rampTime.toUInt8],
        Sx128xCommand.setDioIrqParams.opcode :: (Sx128x.writeU16Be config.irqMask ++
          Sx128x.writeU16Be config.dio1Mask ++ Sx128x.writeU16Be sx128xIrqNone ++
          Sx128x.writeU16Be sx128xIrqNone)] := by
  simp only [configureTransactions, List.map_cons, List.map_nil, rfFrequencyTransaction]
  rw [wire_write, wire_write, wire_write, wire_write, wire_write, wire_write, wire_write,
    wire_write]
  all_goals rfl

theorem configured_of_commands {config : Sx128xLoRaConfig}
    (hvalid : loRaConfigIsValid (some config) = true) :
    (((configureTransactions config).map Transaction.wire).foldl RadioChip.receive
      chip).Configured config := by
  simp only [loRaConfigIsValid, Bool.and_eq_true, decide_eq_true_eq] at hvalid
  obtain ⟨⟨⟨⟨⟨-, hmax⟩, -⟩, -⟩, hpowerMin⟩, hpowerMax⟩ := hvalid
  have hword := toNat_frequencyWord hmax
  have hle : config.frequencyHz.toNat ≤ 2500000000 := UInt32.le_iff_toNat_le.mp hmax
  have hsmall : (frequencyWord config.frequencyHz).toNat < 2 ^ 24 := by omega
  have hpower := power_byte hpowerMin hpowerMax
  simp only [wire_configure, List.foldl_cons, List.foldl_nil, receive_write, RadioChip.perform,
    RadioChip.configured, if_true, Sx128x.writeU16Be, List.cons_append, List.nil_append]
  refine ⟨rfl, rfl, ?_, ⟨rfl, rfl⟩, rfl, rfl, ⟨hpower, rfl⟩, ?_⟩
  · dsimp only
    rw [join_bytes hsmall, hword]
    omega
  · exact ⟨readU16Be_writeU16Be _, readU16Be_writeU16Be _, readU16Be_writeU16Be 0,
      readU16Be_writeU16Be 0⟩

/-- A configuration leaves alone what it is not about. -/
theorem kept_of_commands (chip : RadioChip) (config : Sx128xLoRaConfig) :
    (((configureTransactions config).map Transaction.wire).foldl RadioChip.receive chip).buffer =
      chip.buffer ∧
    (((configureTransactions config).map Transaction.wire).foldl RadioChip.receive
      chip).irqStatus = chip.irqStatus := by
  simp only [wire_configure, List.foldl_cons, List.foldl_nil, receive_write, RadioChip.perform,
    RadioChip.configured, if_true, Sx128x.writeU16Be, List.cons_append, List.nil_append]
  simp only [and_self]

theorem runs_configureLoRa {config : Sx128xLoRaConfig}
    (h : Runs (chipPort reset) (device.configureLoRa bound (some config)) ⟨chip, none⟩ (some .ok)
      s') :
    loRaConfigIsValid (some config) = true ∧
      s' = ⟨((configureTransactions config).map Transaction.wire).foldl RadioChip.receive chip,
        none⟩ := by
  rw [configureLoRa] at h
  split at h
  · cases (runs_pure_iff.mp h).1
  · rename_i hvalid
    refine ⟨not_not.mp hvalid, ?_⟩
    by_cases hready : device.initialized = true
    · rw [configure_eq hready (not_not.mp hvalid)] at h
      exact runs_sequence h
    · rw [configure_of_not_ready config hready] at h
      cases (runs_pure_iff.mp h).1

/-- **A configuration that returns OK leaves the radio with exactly what was asked for**, whatever
state it was in, through the port of the STM32F4, however often BUSY was waited for. -/
theorem configureLoRa_configures {pins : Stm32f4Sx128xPortConfig}
    {backend b' : Stm32f4Sx128xPort} {config : Sx128xLoRaConfig} (hstarted : Started pins backend)
    (hseparate : pins.nss.isTouched pins.reset = false)
    (h : Runs (chipHal pins reset) (interp portHandler (device.configureLoRa bound (some config))
      backend) ⟨chip, none⟩ (some (some .ok, b')) s') :
    ∃ chip' : RadioChip, s' = ⟨chip', none⟩ ∧ chip'.Configured config ∧
      chip'.buffer = chip.buffer ∧ chip'.irqStatus = chip.irqStatus := by
  obtain ⟨hw, hreset⟩ := hstarted.wired hseparate
  obtain ⟨hvalid, rfl⟩ := runs_configureLoRa
    (chipPort_of_chipHal hw hreset hstarted.initialized hstarted.config_eq h)
  obtain ⟨hbuffer, hirq⟩ := kept_of_commands chip config
  exact ⟨_, rfl, configured_of_commands hvalid, hbuffer, hirq⟩

def coldChip : RadioChip :=
  ⟨.rx 0 0, 0, 0, 0, 0, [], [], 0, 0, 0, 0, 0, 0, 0x4000, fun _ => 0, 0, 0, 0, 0, 0⟩

/-- The configuration of the firmware is made. -/
theorem configureLoRa_configures_firmware : ∃ (backend b' : Stm32f4Sx128xPort) (s' : ChipBus)
    (chip' : RadioChip),
    Runs (chipHal ⟨1, ⟨1, 16⟩, ⟨2, 1⟩, ⟨2, 4⟩, 2, 20⟩ coldChip)
      (interp portHandler ((⟨20, true⟩ : Sx128x).configureLoRa 1 (some ⟨2445000000, 0x60, 0x18,
        0x01, 12, 0x00, 30, 0x20, 0x40, 10, 0xE0, 0, 128, 0x4043, 0x4043⟩)) backend)
      ⟨coldChip, none⟩ (some (some .ok, b')) s' ∧
    s' = ⟨chip', none⟩ ∧ chip'.mode = .standby ∧ chip'.txPowerDbm = 10 ∧
      chip'.rxBaseAddress = 128 ∧ chip'.irqStatus = 0x4000 := by
  let pins : Stm32f4Sx128xPortConfig := ⟨1, ⟨1, 16⟩, ⟨2, 1⟩, ⟨2, 4⟩, 2, 20⟩
  let backend : Stm32f4Sx128xPort := ⟨pins, { nssWrites := 7, resetWrites := 3 }, true⟩
  let config : Sx128xLoRaConfig := ⟨2445000000, 0x60, 0x18, 0x01, 12, 0x00, 30, 0x20, 0x40, 10,
    0xE0, 0, 128, 0x4043, 0x4043⟩
  let p := interp portHandler ((⟨20, true⟩ : Sx128x).configureLoRa 1 (some config)) backend
  have hok : (exec (steadyHal pins coldChip 0) p ⟨coldChip, none⟩).1.map (·.1) = some (some .ok) := by
    decide +kernel
  have hruns := runs_steadyHal pins coldChip 0 p ⟨coldChip, none⟩
  obtain ⟨⟨result, b'⟩, hresult, hr⟩ := Option.map_eq_some_iff.mp hok
  obtain rfl : result = some .ok := hr
  rw [hresult] at hruns
  obtain ⟨chip', hchip, hset, -, hirq⟩ :=
    configureLoRa_configures ⟨rfl, rfl, rfl⟩ (by decide) hruns
  exact ⟨backend, b', _, chip', hruns, hchip, hset.mode, hset.power.1, hset.bases.2, hirq⟩

end RadioConnection
