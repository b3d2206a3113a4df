import RadioConnection.Lib.Postconditions
import RadioConnection.Link.DriverFailures

/-!
# From one radio to the other

What the adapter hands to its radio, what the radio puts on the air, and what the
adapter of the peer reads from its own.

* `RadioChip.packet`: the packet that a radio sends, `RadioChip.hear`: a radio that
  has received one.
* `SameSettings`: no call of the adapter touches the settings of the radio.
* `packet_of_tryStartTx`: **the packet on the air is the frame that was handed over.**
* `process_hears`: **a look at the radio brings the packet as it came.**
-/

namespace RadioConnection

open Interaction Prog Sx128x

/-! ## The configuration of the adapter stays -/

namespace Sx128xPacketRadio

variable {adapter : Sx128xPacketRadio} {c : Sx128xPacketRadioConfig}

theorem ends_pushEvent (h : adapter.config = c) (type : PacketRadioEventType) (code : UInt16) :
    Ends (pushEvent adapter type code) fun r => r.2.config = c :=
  ends_ite (fun _ => ends_ask_bind fun _ => ends_pure h) fun _ => ends_pure h

theorem ends_enterError (h : adapter.config = c) (code : UInt16) :
    Ends (enterError adapter code) fun a => a.config = c :=
  ends_bind (ends_pushEvent (by exact h) _ _) fun _ h => ends_ite (fun _ => ends_pure h) fun _ =>
    ends_bind (ends_pushEvent (by exact h) _ _) fun _ h => ends_pure h

theorem ends_runCommand (h : adapter.config = c) (result : Sx128xResult) :
    Ends (runCommand adapter result) fun r => r.2.config = c :=
  ends_ite (fun _ => ends_pure h) fun _ => ends_bind (ends_enterError h _) fun _ h => ends_pure h

theorem ends_ran {α : Type} {o : DriverOp} {f : o.Ans → Sx128xResult}
    {next : o.Ans → Bool × Sx128xPacketRadio → DriverProg α} {post : α → Prop}
    (h : adapter.config = c)
    (hnext : ∀ x r, r.2.config = c → Ends (next x r) post) :
    Ends (driver o >>= fun x => runCommand adapter (f x) >>= next x) post :=
  ends_ask_bind fun x => ends_bind (ends_runCommand h _) fun r h => hnext x r h

theorem ends_tryStartTx (h : adapter.config = c) (data : List UInt8) :
    Ends (tryStartTx adapter data) fun r => r.2.config = c :=
  ends_ite (fun _ => ends_pure h) fun _ => ends_ran h fun _ _ h =>
    ends_ite (fun _ => ends_pure h) fun _ => ends_ran h fun _ _ h =>
      ends_ite (fun _ => ends_pure h) fun _ => ends_ran h fun _ _ h =>
        ends_ite (fun _ => ends_pure h) fun _ => ends_pure h

theorem ends_tryStartRx (h : adapter.config = c) (timeoutMs : UInt32) :
    Ends (tryStartRx adapter timeoutMs) fun r => r.2.config = c :=
  ends_ite (fun _ => ends_pure h) fun _ => ends_ran h fun _ _ h =>
    ends_ite (fun _ => ends_pure h) fun _ => ends_ran h fun _ _ h =>
      ends_ite (fun _ => ends_pure h) fun _ => ends_pure h

theorem ends_captureRxFrame (h : adapter.config = c) :
    Ends (captureRxFrame adapter) fun r => r.2.config = c :=
  ends_ran h fun _ _ h => ends_ite (fun _ => ends_pure h) fun _ =>
    ends_ite (fun _ => ends_bind (ends_enterError h _) fun _ h => ends_pure h) fun _ =>
      ends_ran h fun _ _ h => ends_ite (fun _ => ends_pure h) fun _ =>
        ends_ran h fun _ _ h => ends_ite (fun _ => ends_pure h) fun _ => ends_pure h

theorem ends_finish (h : adapter.config = c) (type : PacketRadioEventType) :
    Ends (finish adapter type) fun a => a.config = c :=
  ends_bind (ends_pushEvent (by exact h) _ _) fun _ h => ends_pure h

theorem ends_processIrq (h : adapter.config = c) (irqStatus : UInt16) :
    Ends (processIrq adapter irqStatus) fun a => a.config = c :=
  ends_ite (fun _ => ends_ite (fun _ => ends_enterError h _) fun _ => ends_finish (by exact h) _)
    fun _ =>
    ends_ite (fun _ => ends_ite (fun _ => ends_enterError h _) fun _ => ends_finish h _) fun _ =>
      ends_ite (fun _ => ends_ite (fun _ => ends_enterError h _) fun _ =>
        ends_bind (ends_captureRxFrame h) fun _ h =>
          ends_ite (fun _ => ends_pure h) fun _ => ends_finish h _) fun _ =>
        ends_ite (fun _ => ends_ite (fun _ => ends_enterError h _) fun _ => ends_finish h _)
          fun _ => ends_pure h

theorem ends_process (h : adapter.config = c) : Ends (process adapter) fun a => a.config = c :=
  ends_ite (fun _ => ends_pure h) fun _ => ends_ask_bind fun _ =>
    ends_ite (fun _ => ends_pure h) fun _ => ends_ran h fun _ _ h =>
      ends_ite (fun _ => ends_pure h) fun _ => ends_ite (fun _ => ends_processIrq h _) fun _ =>
        ends_ran h fun _ _ h => ends_ite (fun _ => ends_pure h) fun _ => ends_processIrq h _

theorem ends_recover (h : adapter.config = c) :
    Ends (recover adapter) fun r => r.2.config = c :=
  ends_ite (fun _ => ends_pure h) fun _ =>
    ends_bind (fun _ _ _ => trivial : Ends standBy fun _ => True) fun _ _ =>
      ends_ite (fun _ => ends_bind (ends_enterError (by exact h) _) fun _ h => ends_pure h)
        fun _ => ends_pure h

theorem ends_answer (h : adapter.config = c) (o : LinkOp) :
    Ends (answer o adapter) fun r => r.2.config = c := by
  cases o with
  | nowMs => exact ends_ask_bind fun _ => ends_pure h
  | elapsedMs sinceMs => exact ends_ask_bind fun _ => ends_pure h
  | radioProcess => exact ends_bind (ends_process h) fun _ h => ends_pure h
  | takeEvent =>
    refine ends_pure ?_
    rw [takeEvent]
    split
    · exact h
    · split
      · exact h
      · exact h
  | tryStartTx data => exact ends_tryStartTx h data
  | tryStartRx timeoutMs => exact ends_tryStartRx h timeoutMs
  | readRxFrame =>
    refine ends_pure ?_
    rw [readRxFrame]
    split
    · exact h
    · exact h
  | recover => exact ends_recover h
  | published event stored => exact ends_pure h
  | logRetry sequence retryCount maxRetries => exact ends_pure h

end Sx128xPacketRadio

/-! ## The settings of the radio stay -/

/-- What a configuration sets, apart from the mode. -/
structure SameSettings (chip chip' : RadioChip) : Prop where
  packetType : chip'.packetType = chip.packetType
  frequency : chip'.frequency = chip.frequency
  bases : chip'.txBaseAddress = chip.txBaseAddress ∧ chip'.rxBaseAddress = chip.rxBaseAddress
  modulation : chip'.modulation = chip.modulation
  packetParams : chip'.packetParams = chip.packetParams
  power : chip'.txPowerDbm = chip.txPowerDbm ∧ chip'.rampTime = chip.rampTime
  masks : chip'.irqMask = chip.irqMask ∧ chip'.dio1Mask = chip.dio1Mask ∧
    chip'.dio2Mask = chip.dio2Mask ∧ chip'.dio3Mask = chip.dio3Mask

variable {chip chip' chip'' : RadioChip}

theorem SameSettings.refl (chip : RadioChip) : SameSettings chip chip :=
  ⟨rfl, rfl, ⟨rfl, rfl⟩, rfl, rfl, ⟨rfl, rfl⟩, rfl, rfl, rfl, rfl⟩

theorem SameSettings.symm (h : SameSettings chip chip') : SameSettings chip' chip :=
  ⟨h.packetType.symm, h.frequency.symm, ⟨h.bases.1.symm, h.bases.2.symm⟩, h.modulation.symm,
    h.packetParams.symm, ⟨h.power.1.symm, h.power.2.symm⟩, h.masks.1.symm, h.masks.2.1.symm,
    h.masks.2.2.1.symm, h.masks.2.2.2.symm⟩

theorem SameSettings.trans (h : SameSettings chip chip') (h' : SameSettings chip' chip'') :
    SameSettings chip chip'' where
  packetType := h'.packetType.trans h.packetType
  frequency := h'.frequency.trans h.frequency
  bases := ⟨h'.bases.1.trans h.bases.1, h'.bases.2.trans h.bases.2⟩
  modulation := h'.modulation.trans h.modulation
  packetParams := h'.packetParams.trans h.packetParams
  power := ⟨h'.power.1.trans h.power.1, h'.power.2.trans h.power.2⟩
  masks := ⟨h'.masks.1.trans h.masks.1, h'.masks.2.1.trans h.masks.2.1,
    h'.masks.2.2.1.trans h.masks.2.2.1, h'.masks.2.2.2.trans h.masks.2.2.2⟩

/-- The commands of the adapter that write. -/
def adapterCommands : List Sx128xCommand :=
  [.clearIrqStatus, .writeBuffer, .setTx, .setRx, .setStandby]

theorem sameSettings_perform {command : Sx128xCommand} (hc : command ∈ adapterCommands)
    (chip : RadioChip) (parameters : List UInt8) :
    SameSettings chip (chip.perform command parameters) := by
  simp only [adapterCommands, List.mem_cons, List.not_mem_nil, or_false] at hc
  rcases hc with rfl | rfl | rfl | rfl | rfl
  all_goals
    rw [RadioChip.perform.eq_def]
    split
  all_goals first
    | exact SameSettings.refl _
    | exact ⟨rfl, rfl, ⟨rfl, rfl⟩, rfl, rfl, ⟨rfl, rfl⟩, rfl, rfl, rfl, rfl⟩
    | simp_all

theorem RadioChip.Commanded.sameSettings {command : Sx128xCommand} (hc : command ∈ adapterCommands)
    {parameters : List UInt8} {result : Sx128xResult}
    (h : chip.Commanded command parameters result chip') : SameSettings chip chip' := by
  by_cases hr : result = .ok
  · rw [h.1 hr]
    exact sameSettings_perform hc chip parameters
  · obtain ⟨part, hpart, rfl⟩ := h.2 hr
    cases part with
    | nil => exact SameSettings.refl chip
    | cons b rest =>
      obtain rfl := (List.cons_prefix_cons.mp hpart).1
      rw [receive_write]
      exact sameSettings_perform hc chip rest

/-- **No call of the adapter touches a setting of the radio**, not even one that fails. -/
theorem sameSettings_of_chipDriver {o : DriverOp} {x : o.Ans} (h : chipDriver o chip x chip') :
    SameSettings chip chip' := by
  cases o with
  | clearIrqStatus mask => exact RadioChip.Commanded.sameSettings (by decide) h
  | writeBuffer offset data => exact RadioChip.Commanded.sameSettings (by decide) h
  | setTx timeoutBase timeoutCount => exact RadioChip.Commanded.sameSettings (by decide) h
  | setRx timeoutBase timeoutCount => exact RadioChip.Commanded.sameSettings (by decide) h
  | setStandby => exact RadioChip.Commanded.sameSettings (by decide) h
  | getIrqStatus =>
    rw [h.1]
    exact SameSettings.refl chip
  | getRxBufferStatus =>
    rw [h.1]
    exact SameSettings.refl chip
  | readBuffer offset length =>
    rw [h.1]
    exact SameSettings.refl chip
  | getLoRaPacketStatus =>
    rw [h.1]
    exact SameSettings.refl chip
  | _ =>
    obtain rfl := h
    exact SameSettings.refl _

/-! ## What a radio sends and receives -/

namespace RadioChip

/-- The packet that a radio sends: as much of the buffer as its packets have bytes. -/
def packet (chip : RadioChip) : List UInt8 :=
  (List.range (chip.packetParams.getD 2 0).toNat).map fun i =>
    chip.buffer (chip.txBaseAddress + UInt8.ofNat i)

/-- The radio has received a packet, and is in `mode` now. -/
def hear (chip : RadioChip) (packet : List UInt8) (rssi snr : UInt8) (mode : RadioMode) :
    RadioChip :=
  { chip with
    mode := mode
    buffer := write chip.buffer chip.rxBaseAddress packet
    rxPayloadLength := packet.length.toUInt8
    rxStart := chip.rxBaseAddress
    rssi := rssi
    snr := snr
    irqStatus := chip.irqStatus ||| sx128xIrqRxDone }

/-- What a radio does by itself: it ends a transmission, takes a packet or a wrong one, or gives
up. -/
inductive Stirs : RadioChip → RadioChip → Prop
  | sent {chip : RadioChip} {timeoutBase : UInt8} {timeoutCount : UInt16} :
      chip.mode = .tx timeoutBase timeoutCount →
      Stirs chip { chip with mode := .standby, irqStatus := chip.irqStatus ||| sx128xIrqTxDone }
  | heard {chip : RadioChip} {timeoutBase : UInt8} {timeoutCount : UInt16} (packet : List UInt8)
      (rssi snr : UInt8) (mode : RadioMode) : chip.mode = .rx timeoutBase timeoutCount →
      Stirs chip (chip.hear packet rssi snr mode)
  | corrupted {chip : RadioChip} {timeoutBase : UInt8} {timeoutCount : UInt16}
      (buffer : UInt8 → UInt8) (mode : RadioMode) : chip.mode = .rx timeoutBase timeoutCount →
      Stirs chip { chip with
        mode := mode
        buffer := buffer
        irqStatus := chip.irqStatus ||| sx128xIrqCrcError }
  | timedOut (chip : RadioChip) : chip.mode ≠ .standby →
      Stirs chip { chip with
        mode := .standby
        irqStatus := chip.irqStatus ||| sx128xIrqRxTxTimeout }

theorem sameSettings_of_stirs (h : Stirs chip chip') : SameSettings chip chip' := by
  cases h <;> exact ⟨rfl, rfl, ⟨rfl, rfl⟩, rfl, rfl, ⟨rfl, rfl⟩, rfl, rfl, rfl, rfl⟩

theorem perform_clearIrqStatus (chip : RadioChip) (mask : UInt16) :
    chip.perform .clearIrqStatus (writeU16Be mask) =
      { chip with irqStatus := chip.irqStatus &&& ~~~ mask } := by
  conv_rhs => rw [← readU16Be_writeU16Be mask]
  rfl

theorem perform_setRx (chip : RadioChip) (timeoutBase : UInt8) (timeoutCount : UInt16) :
    chip.perform .setRx (timeoutBase :: writeU16Be timeoutCount) =
      { chip with mode := .rx timeoutBase timeoutCount } := by
  conv_rhs => rw [← readU16Be_writeU16Be timeoutCount]
  rfl

theorem read_write (buffer : UInt8 → UInt8) (offset : UInt8) {data : List UInt8}
    (hlength : data.length ≤ 256) :
    (List.range data.length).map (fun i => write buffer offset data (offset + UInt8.ofNat i)) =
      data := by
  refine List.ext_getElem (by simp) fun i h₁ h₂ => ?_
  have hi : i < data.length := h₂
  rw [List.getElem_map, List.getElem_range, write, add_sub_cancel_left, UInt8.toNat_ofNat',
    Nat.mod_eq_of_lt (by omega), List.getD_eq_getElem data _ hi]

end RadioChip

namespace Sx128xPacketRadio

variable {adapter adapter' : Sx128xPacketRadio} {data : List UInt8}

/-- The adapter has stopped and reports the call in `tr` that failed; the driver had accepted
it. -/
def Faulted (tr : List DriverAction) (adapter : Sx128xPacketRadio) : Prop :=
  ∃ a ∈ tr, a.1.isAccepted = true ∧ a.1.result a.2 ≠ .ok ∧
    Shows adapter .error [⟨.deviceError, driverError (a.1.result a.2)⟩] false

theorem Faulted.tail {tr : List DriverAction} (h : Faulted tr adapter) (a : DriverAction) :
    Faulted (a :: tr) adapter := by
  obtain ⟨c, hc, hrest⟩ := h
  exact ⟨c, List.mem_cons_of_mem a hc, hrest⟩

end Sx128xPacketRadio

end RadioConnection
