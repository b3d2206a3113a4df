import RadioConnection.Link.OverTheAir

/-!
# Frames on their way

A node as its frames see it: the adapter, and the radio that obeys it.  A frame that came in
waits in the radio or in the adapter until the service reads it; a frame that goes out is in
the radio until it is sent.

* `Transceiver.held`: the frames that came in, in the order in which they will be read, and
  `Transceiver.sending`: the frame that goes out.
* `Transceiver.Disciplined`: a radio that sends belongs to an adapter that waits for it or has
  stopped.
* `dwindles_of_calls`: **no call makes up a frame**; `reads_of_calls`: a frame that is read
  is the first that was held; `sends_of_calls`: a frame that goes out was handed over.
-/

namespace RadioConnection

open Interaction Prog Sx128x

/-! ## What a command does to the radio, also in part -/

namespace RadioChip

variable {chip chip' : RadioChip} {parameters : List UInt8} {result : Sx128xResult}

def isSending (chip : RadioChip) : Bool :=
  match chip.mode with
  | .tx _ _ => true
  | _ => false

/-- The radio has a packet to report, and nothing that would come first. -/
def hasReceived (chip : RadioChip) : Bool :=
  chip.irqStatus &&& sx128xIrqCrcError = 0 && chip.irqStatus &&& sx128xIrqRxTxTimeout = 0 &&
    chip.irqStatus &&& sx128xIrqRxDone ≠ 0

theorem hasReceived_of_quiet (h : chip.irqStatus = 0) : chip.hasReceived = false := by
  rw [hasReceived, h]
  rfl

/-- The packet where the radio says that it is. -/
def received (chip : RadioChip) : List UInt8 :=
  (List.range chip.rxPayloadLength.toNat).map fun i => chip.buffer (chip.rxStart + UInt8.ofNat i)

theorem Commanded.performed {command : Sx128xCommand}
    (h : chip.Commanded command parameters result chip') :
    chip' = chip ∨ ∃ part, chip' = chip.perform command part := by
  by_cases hr : result = .ok
  · exact .inr ⟨parameters, h.1 hr⟩
  · obtain ⟨part, hpart, rfl⟩ := h.2 hr
    cases part with
    | nil => exact .inl rfl
    | cons b rest =>
      obtain rfl := (List.cons_prefix_cons.mp hpart).1
      exact .inr ⟨rest, receive_write command rest⟩

theorem Commanded.clearIrqStatus_cases
    (h : chip.Commanded .clearIrqStatus parameters result chip') :
    ∃ irqStatus, chip' = { chip with irqStatus := irqStatus } := by
  obtain rfl | ⟨part, rfl⟩ := h.performed
  · exact ⟨chip'.irqStatus, rfl⟩
  · rcases part with _ | ⟨high, _ | ⟨low, _ | ⟨_, _⟩⟩⟩
    all_goals exact ⟨_, rfl⟩

theorem Commanded.writeBuffer_cases (h : chip.Commanded .writeBuffer parameters result chip') :
    ∃ buffer, chip' = { chip with buffer := buffer } := by
  obtain rfl | ⟨part, rfl⟩ := h.performed
  · exact ⟨chip'.buffer, rfl⟩
  · rcases part with _ | ⟨offset, data⟩
    all_goals exact ⟨_, rfl⟩

theorem Commanded.setTx_cases (h : chip.Commanded .setTx parameters result chip') :
    ∃ mode, chip' = { chip with mode := mode } := by
  obtain rfl | ⟨part, rfl⟩ := h.performed
  · exact ⟨chip'.mode, rfl⟩
  · rcases part with _ | ⟨base, _ | ⟨high, _ | ⟨low, _ | ⟨_, _⟩⟩⟩⟩
    all_goals exact ⟨_, rfl⟩

theorem Commanded.setRx_cases (h : chip.Commanded .setRx parameters result chip') :
    chip' = chip ∨ chip'.isSending = false := by
  obtain rfl | ⟨part, rfl⟩ := h.performed
  · exact .inl rfl
  · rcases part with _ | ⟨base, _ | ⟨high, _ | ⟨low, _ | ⟨_, _⟩⟩⟩⟩
    all_goals first
      | exact .inl rfl
      | exact .inr rfl

theorem Commanded.setStandby_cases (h : chip.Commanded .setStandby parameters result chip') :
    chip' = chip ∨ chip'.isSending = false := by
  obtain rfl | ⟨part, rfl⟩ := h.performed
  · exact .inl rfl
  · rcases part with _ | ⟨mode, _ | ⟨_, _⟩⟩
    all_goals first
      | exact .inl rfl
      | exact .inr rfl

end RadioChip

/-! ## The adapter and its radio -/

structure Transceiver where
  adapter : Sx128xPacketRadio
  chip : RadioChip

namespace Transceiver

variable {t t' : Transceiver}

def captured (t : Transceiver) : List (List UInt8) :=
  if t.adapter.rxFrameAvailable then [t.adapter.rxFrame.data] else []

/-- The frame that a look at the radio would bring. -/
def pending (t : Transceiver) : List (List UInt8) :=
  if t.adapter.state = .rx ∧ t.chip.hasReceived = true then [t.chip.received] else []

def held (t : Transceiver) : List (List UInt8) := t.captured ++ t.pending

def sending (t : Transceiver) : List (List UInt8) :=
  if t.chip.isSending then [t.chip.packet] else []

/-- A radio that sends has nothing to report, and its adapter waits for it or has stopped. -/
def Disciplined (t : Transceiver) : Prop :=
  t.chip.isSending = true → (t.adapter.state = .tx ∨ t.adapter.state = .error) ∧
    t.adapter.rxFrameAvailable = false ∧ t.chip.irqStatus = 0

/-- Frames may be lost, and none comes. -/
structure Dwindles (t t' : Transceiver) : Prop where
  held : t'.held.Sublist t.held
  sending : t'.chip.isSending = true → t'.chip = t.chip
  disciplined : t'.Disciplined

theorem Disciplined.refl_dwindles (h : t.Disciplined) : Dwindles t t :=
  ⟨List.Sublist.refl _, fun _ => rfl, h⟩

theorem Dwindles.sending_sublist (h : Dwindles t t') : t'.sending.Sublist t.sending := by
  by_cases hs : t'.chip.isSending = true
  · rw [Transceiver.sending, Transceiver.sending, h.sending hs]
  · rw [Transceiver.sending, if_neg hs]
    exact List.nil_sublist _

theorem pending_of_state (h : t.adapter.state ≠ .rx) : t.pending = [] :=
  if_neg fun hrx => h hrx.1

def Stopped (adapter : Sx128xPacketRadio) : Prop :=
  adapter.state = .error ∧ adapter.rxFrameAvailable = false

theorem held_of_stopped (h : Stopped t.adapter) : t.held = [] := by
  rw [held, captured, h.2, pending_of_state (by rw [h.1]; decide)]
  rfl

theorem dwindles_of_stopped (ht : t.Disciplined) (h : Stopped t'.adapter)
    (hsend : t'.chip.isSending = true → t'.chip = t.chip) : Dwindles t t' := by
  refine ⟨?_, hsend, ?_⟩
  · rw [held_of_stopped h]
    exact List.nil_sublist _
  · intro hs
    have he := hsend hs
    rw [he] at hs
    exact ⟨.inr h.1, h.2, he ▸ (ht hs).2.2⟩

end Transceiver

/-! ## The functions of the adapter -/

namespace Sx128xPacketRadio

open Transceiver (Stopped)

variable {adapter adapter' : Sx128xPacketRadio} {chip chip' : RadioChip}

theorem onChip_pushEvent {type : PacketRadioEventType} {code : UInt16} {stored : Bool}
    (h : Runs chipDriver (pushEvent adapter type code) chip (stored, adapter') chip') :
    chip' = chip ∧ ∃ events, adapter' = { adapter with events := events } := by
  rw [pushEvent] at h
  split at h
  · obtain ⟨_, m, hm, hlast⟩ := runs_bind_iff.mp h
    obtain rfl : m = chip := runs_ask_iff.mp hm
    obtain ⟨he, rfl⟩ := runs_pure_iff.mp hlast
    exact ⟨rfl, adapter.events, (Prod.mk.inj he).2⟩
  · obtain ⟨he, rfl⟩ := runs_pure_iff.mp h
    exact ⟨rfl, _, (Prod.mk.inj he).2⟩

theorem onChip_enterError {code : UInt16}
    (h : Runs chipDriver (enterError adapter code) chip adapter' chip') :
    chip' = chip ∧ Stopped adapter' := by
  obtain ⟨⟨stored, adapter₁⟩, m, hpush, hnext⟩ := runs_bind_iff.mp h
  obtain ⟨rfl, events, rfl⟩ := onChip_pushEvent hpush
  dsimp only at hnext
  split at hnext
  · obtain ⟨rfl, rfl⟩ := runs_pure_iff.mp hnext
    exact ⟨rfl, rfl, rfl⟩
  · obtain ⟨⟨stored', adapter₂⟩, m', hpush', hlast⟩ := runs_bind_iff.mp hnext
    obtain ⟨rfl, events', rfl⟩ := onChip_pushEvent hpush'
    obtain ⟨rfl, rfl⟩ := runs_pure_iff.mp hlast
    exact ⟨rfl, rfl, rfl⟩

theorem onChip_finish {type : PacketRadioEventType}
    (h : Runs chipDriver (finish adapter type) chip adapter' chip') :
    chip' = chip ∧ ∃ events, adapter' = { adapter with state := .idle, events := events } := by
  obtain ⟨⟨stored, adapter₁⟩, m, hpush, hlast⟩ := runs_bind_iff.mp h
  obtain ⟨rfl, events, rfl⟩ := onChip_pushEvent hpush
  obtain ⟨rfl, rfl⟩ := runs_pure_iff.mp hlast
  exact ⟨rfl, events, rfl⟩

theorem onChip_command {α : Type} {o : DriverOp} {f : o.Ans → Sx128xResult}
    {next : o.Ans → Bool × Sx128xPacketRadio → DriverProg α} {a : α}
    (h : Runs chipDriver (driver o >>= fun x => runCommand adapter (f x) >>= next x) chip a chip') :
    ∃ x m, chipDriver o chip x m ∧
      ((f x = .ok ∧ Runs chipDriver (next x (true, adapter)) m a chip') ∨
        ∃ adapter₁, Stopped adapter₁ ∧ Runs chipDriver (next x (false, adapter₁)) m a chip') := by
  obtain ⟨x, m, hx, h⟩ := runs_bind_iff.mp h
  obtain ⟨⟨ok, adapter₁⟩, m', hrun, hnext⟩ := runs_bind_iff.mp h
  refine ⟨x, m, runs_ask_iff.mp hx, ?_⟩
  rw [runCommand] at hrun
  split at hrun
  · rename_i hok
    obtain ⟨he, rfl⟩ := runs_pure_iff.mp hrun
    obtain ⟨rfl, rfl⟩ := Prod.mk.inj he
    exact .inl ⟨hok, hnext⟩
  · obtain ⟨adapter₂, m₂, henter, hlast⟩ := runs_bind_iff.mp hrun
    obtain ⟨rfl, hstop⟩ := onChip_enterError henter
    obtain ⟨he, rfl⟩ := runs_pure_iff.mp hlast
    obtain ⟨rfl, rfl⟩ := Prod.mk.inj he
    exact .inr ⟨_, hstop, hnext⟩

theorem stopped_of_pure {ok ok' : Bool} {adapter₁ : Sx128xPacketRadio} (hs : Stopped adapter₁)
    (h : Runs chipDriver (pure (ok, adapter₁) : DriverProg _) chip (ok', adapter') chip') :
    chip' = chip ∧ ok' = ok ∧ Stopped adapter' := by
  obtain ⟨he, rfl⟩ := runs_pure_iff.mp h
  obtain ⟨rfl, rfl⟩ := Prod.mk.inj he
  exact ⟨rfl, rfl, hs⟩

theorem onChip_tryStartRx {timeoutMs : UInt32} {started : Bool}
    (h : Runs chipDriver (adapter.tryStartRx timeoutMs) chip (started, adapter') chip') :
    (adapter' = adapter ∧ chip' = chip) ∨
      (adapter.state = .idle ∧ (chip'.isSending = true → chip.isSending = true) ∧
        (Stopped adapter' ∨ (adapter'.state = .rx ∧ adapter'.rxFrameAvailable = false ∧
          chip'.irqStatus = 0))) := by
  rw [tryStartRx] at h
  split at h
  · obtain ⟨he, rfl⟩ := runs_pure_iff.mp h
    exact .inl ⟨(Prod.mk.inj he).2, rfl⟩
  rename_i hready
  rw [not_or, not_or, not_or, not_not, not_not, Bool.not_eq_true] at hready
  refine .inr ⟨hready.2.1, ?_⟩
  obtain ⟨result₁, chip₁, hclear, ⟨hok₁, h₁⟩ | ⟨adapter₁, hs, h₁⟩⟩ := onChip_command h
  swap
  · obtain ⟨irqStatus, rfl⟩ := hclear.clearIrqStatus_cases
    obtain ⟨rfl, -, hstop⟩ := stopped_of_pure hs h₁
    exact ⟨id, .inl hstop⟩
  obtain rfl := hclear.1 hok₁
  have hclean : (chip.perform .clearIrqStatus (writeU16Be sx128xIrqAll)).irqStatus = 0 := by
    rw [RadioChip.perform_clearIrqStatus, show ~~~ sx128xIrqAll = 0 from rfl]
    exact UInt16.and_zero
  obtain ⟨result₂, chip₂, hrx, ⟨hok₂, h₂⟩ | ⟨adapter₁, hs, h₂⟩⟩ := onChip_command h₁
  swap
  · obtain ⟨rfl, -, hstop⟩ := stopped_of_pure hs h₂
    refine ⟨?_, .inl hstop⟩
    obtain rfl | hsilent := hrx.setRx_cases
    · exact id
    · exact fun hsend => absurd (hsend.symm.trans hsilent) (by decide)
  obtain rfl := hrx.1 hok₂
  obtain ⟨he, rfl⟩ := runs_pure_iff.mp h₂
  rw [RadioChip.perform_setRx, (Prod.mk.inj he).2]
  exact ⟨(fun hsend => by cases hsend), .inr ⟨rfl, hready.2.2.1, hclean⟩⟩

theorem onChip_standBy {result : Sx128xResult} (h : Runs chipDriver standBy chip result chip') :
    (chip'.isSending = true → chip' = chip) ∧ (result = .ok → chip'.isSending = false) := by
  obtain ⟨result₁, chip₁, hstandby, hnext⟩ := runs_bind_iff.mp h
  have hcommand : chip.Commanded .setStandby [sx128xStandbyRc.toUInt8] result₁ chip₁ :=
    runs_ask_iff.mp hstandby
  split at hnext
  · rename_i hok
    obtain rfl := hcommand.1 hok
    have hclear : RadioChip.Commanded _ .clearIrqStatus (writeU16Be sx128xIrqAll) result chip' :=
      runs_ask_iff.mp hnext
    obtain ⟨irqStatus, rfl⟩ := hclear.clearIrqStatus_cases
    exact ⟨(fun hsend => by cases hsend), fun _ => rfl⟩
  · rename_i hfail
    obtain ⟨rfl, rfl⟩ := runs_pure_iff.mp hnext
    refine ⟨fun hsend => ?_, fun hok => absurd hok hfail⟩
    obtain he | hsilent := hcommand.setStandby_cases
    · exact he
    · exact absurd (hsend.symm.trans hsilent) (by decide)

theorem onChip_recover {recovered : Bool}
    (h : Runs chipDriver adapter.recover chip (recovered, adapter') chip') :
    (adapter' = adapter ∧ chip' = chip) ∨
      ((chip'.isSending = true → chip' = chip) ∧ (Stopped adapter' ∨
        (adapter'.state = .idle ∧ adapter'.rxFrameAvailable = false ∧ chip'.isSending = false))) := by
  rw [recover] at h
  split at h
  · obtain ⟨he, rfl⟩ := runs_pure_iff.mp h
    exact .inl ⟨(Prod.mk.inj he).2, rfl⟩
  obtain ⟨result, chip₁, hstandby, hnext⟩ := runs_bind_iff.mp h
  obtain ⟨hsend, hsilent⟩ := onChip_standBy hstandby
  split at hnext
  · obtain ⟨adapter₁, m, henter, hlast⟩ := runs_bind_iff.mp hnext
    obtain ⟨rfl, hs⟩ := onChip_enterError henter
    obtain ⟨rfl, -, hstop⟩ := stopped_of_pure hs hlast
    exact .inr ⟨hsend, .inl hstop⟩
  · rename_i hok
    obtain ⟨he, rfl⟩ := runs_pure_iff.mp hnext
    rw [(Prod.mk.inj he).2]
    exact .inr ⟨hsend, .inr ⟨rfl, rfl, hsilent (not_not.mp hok)⟩⟩

theorem onChip_captureRxFrame {ok : Bool}
    (h : Runs chipDriver (captureRxFrame adapter) chip (ok, adapter') chip') :
    chip' = chip ∧ ((ok = false ∧ Stopped adapter') ∨ (ok = true ∧ ∃ rssi snr, adapter' =
      { adapter with rxFrame := ⟨chip.received, rssi, snr⟩, rxFrameAvailable := true })) := by
  have hstopped {adapter₁ : Sx128xPacketRadio} {m : RadioChip} (hm : m = chip)
      (hs : Stopped adapter₁)
      (h : Runs chipDriver (pure (false, adapter₁) : DriverProg _) m (ok, adapter') chip') :
      chip' = chip ∧ ok = false ∧ Stopped adapter' := by
    obtain ⟨he, hok, hstop⟩ := stopped_of_pure hs h
    exact ⟨he.trans hm, hok, hstop⟩
  rw [captureRxFrame] at h
  obtain ⟨⟨result₁, status⟩, m₁, ⟨hm₁, hvalue₁⟩, ⟨hok₁, h₁⟩ | ⟨adapter₁, hs, h₁⟩⟩ :=
    onChip_command h
  swap
  · exact (hstopped hm₁ hs h₁).imp_right .inl
  obtain rfl := hvalue₁ hok₁
  subst hm₁
  simp only [not_true_eq_false, if_false] at h₁
  split at h₁
  · obtain ⟨adapter₁, m, henter, hlast⟩ := runs_bind_iff.mp h₁
    obtain ⟨hm, hs⟩ := onChip_enterError henter
    exact (hstopped hm hs hlast).imp_right .inl
  obtain ⟨⟨result₂, data⟩, m₂, ⟨hm₂, hvalue₂⟩, ⟨hok₂, h₂⟩ | ⟨adapter₁, hs, h₂⟩⟩ :=
    onChip_command h₁
  swap
  · exact (hstopped hm₂ hs h₂).imp_right .inl
  obtain rfl := hvalue₂ hok₂
  subst hm₂
  obtain ⟨⟨result₃, packetStatus⟩, m₃, ⟨hm₃, -⟩, ⟨hok₃, h₃⟩ | ⟨adapter₁, hs, h₃⟩⟩ :=
    onChip_command h₂
  swap
  · exact (hstopped hm₃ hs h₃).imp_right .inl
  obtain ⟨he, rfl⟩ := runs_pure_iff.mp h₃
  obtain ⟨hok, hcaptured⟩ := Prod.mk.inj he
  exact ⟨hm₃, .inr ⟨hok, _, _, hcaptured⟩⟩

/-- What a look at an interrupt makes of the adapter. -/
inductive Looked (adapter : Sx128xPacketRadio) (irqStatus : UInt16) (received : List UInt8) :
    Sx128xPacketRadio → Prop
  | stopped {adapter' : Sx128xPacketRadio} : Stopped adapter' →
      Looked adapter irqStatus received adapter'
  | unchanged : Looked adapter irqStatus received adapter
  | ended {adapter' : Sx128xPacketRadio} : adapter'.state = .idle →
      (adapter'.rxFrameAvailable = true → adapter.rxFrameAvailable = true ∧
        adapter'.rxFrame = adapter.rxFrame) → Looked adapter irqStatus received adapter'
  | captured {adapter' : Sx128xPacketRadio} : adapter.state = .rx →
      irqStatus &&& sx128xIrqCrcError = 0 → irqStatus &&& sx128xIrqRxTxTimeout = 0 →
      irqStatus &&& sx128xIrqRxDone ≠ 0 → adapter'.state = .idle →
      adapter'.rxFrame.data = received → Looked adapter irqStatus received adapter'

theorem onChip_processIrq {irqStatus : UInt16}
    (h : Runs chipDriver (processIrq adapter irqStatus) chip adapter' chip') :
    chip' = chip ∧ Looked adapter irqStatus chip.received adapter' := by
  have hunexpected {code : UInt16}
      (h : Runs chipDriver (enterError adapter code) chip adapter' chip') :
      chip' = chip ∧ Looked adapter irqStatus chip.received adapter' :=
    (onChip_enterError h).imp_right .stopped
  rw [processIrq] at h
  split at h
  · split at h
    · exact hunexpected h
    · obtain ⟨rfl, events, rfl⟩ := onChip_finish h
      exact ⟨rfl, .ended rfl fun hf => by cases hf⟩
  rename_i hcrc
  split at h
  · split at h
    · exact hunexpected h
    · obtain ⟨rfl, events, rfl⟩ := onChip_finish h
      exact ⟨rfl, .ended rfl fun ha => ⟨ha, rfl⟩⟩
  rename_i htimeout
  split at h
  · rename_i hdone
    split at h
    · exact hunexpected h
    · rename_i hrx
      obtain ⟨⟨ok, adapter₁⟩, m, hcapture, hnext⟩ := runs_bind_iff.mp h
      obtain ⟨rfl, ⟨rfl, hs⟩ | ⟨rfl, rssi, snr, rfl⟩⟩ := onChip_captureRxFrame hcapture
      · obtain ⟨rfl, rfl⟩ := runs_pure_iff.mp hnext
        exact ⟨rfl, .stopped hs⟩
      · obtain ⟨rfl, events, rfl⟩ := onChip_finish hnext
        exact ⟨rfl, .captured (not_not.mp hrx) (not_not.mp hcrc) (not_not.mp htimeout) hdone rfl
          rfl⟩
  split at h
  · split at h
    · exact hunexpected h
    · obtain ⟨rfl, events, rfl⟩ := onChip_finish h
      exact ⟨rfl, .ended rfl fun ha => ⟨ha, rfl⟩⟩
  · obtain ⟨rfl, rfl⟩ := runs_pure_iff.mp h
    exact ⟨rfl, .unchanged⟩

/-- A look at a radio that has nothing to report changes nothing; otherwise its interrupts are
cleared first. -/
theorem onChip_process (h : Runs chipDriver adapter.process chip adapter' chip') :
    (chip' = chip ∧ (adapter' = adapter ∨ Stopped adapter')) ∨
      (chip.irqStatus ≠ 0 ∧ ∃ irqStatus, chip' = { chip with irqStatus := irqStatus } ∧
        (Stopped adapter' ∨
          (irqStatus = 0 ∧ Looked adapter chip.irqStatus chip.received adapter'))) := by
  rw [process] at h
  split at h
  · obtain ⟨rfl, rfl⟩ := runs_pure_iff.mp h
    exact .inl ⟨rfl, .inl rfl⟩
  obtain ⟨taken, m, hm, hnext⟩ := runs_bind_iff.mp h
  obtain rfl : m = chip := runs_ask_iff.mp hm
  split at hnext
  · obtain ⟨rfl, rfl⟩ := runs_pure_iff.mp hnext
    exact .inl ⟨rfl, .inl rfl⟩
  obtain ⟨⟨result₁, irqStatus⟩, m₁, ⟨hm₁, hvalue⟩, ⟨hok₁, h₁⟩ | ⟨adapter₁, hs, h₁⟩⟩ :=
    onChip_command hnext
  swap
  · obtain ⟨rfl, rfl⟩ := runs_pure_iff.mp h₁
    exact .inl ⟨hm₁, .inr hs⟩
  obtain rfl := hvalue hok₁
  subst hm₁
  simp only [not_true_eq_false, if_false] at h₁
  split at h₁
  · rename_i hzero
    rw [hzero, processIrq, if_neg (by decide), if_neg (by decide), if_neg (by decide),
      if_neg (by decide)] at h₁
    obtain ⟨rfl, rfl⟩ := runs_pure_iff.mp h₁
    exact .inl ⟨rfl, .inl rfl⟩
  rename_i hirq
  refine .inr ⟨hirq, ?_⟩
  obtain ⟨result₂, m₂, hclear, ⟨hok₂, h₂⟩ | ⟨adapter₁, hs, h₂⟩⟩ := onChip_command h₁
  swap
  · obtain ⟨irqStatus, rfl⟩ := hclear.clearIrqStatus_cases
    obtain ⟨rfl, rfl⟩ := runs_pure_iff.mp h₂
    exact ⟨irqStatus, rfl, .inl hs⟩
  obtain rfl := hclear.1 hok₂
  rw [RadioChip.perform_clearIrqStatus] at h₂
  obtain ⟨rfl, hlooked⟩ := onChip_processIrq h₂
  exact ⟨_, rfl, .inr ⟨UInt16.and_not_self, hlooked⟩⟩

theorem onChip_tryStartTx {data : List UInt8} {started : Bool}
    (h : Runs chipDriver (adapter.tryStartTx data) chip (started, adapter') chip')
    (hframe : adapter.config.frameLength ≤ 255) :
    (adapter' = adapter ∧ chip' = chip) ∨
      (adapter.state = .idle ∧ data.length = adapter.config.frameLength ∧
        (Stopped adapter' ∨ adapter' = { adapter with state := .tx }) ∧
        (chip'.isSending = true → chip.isSending = true ∨ ∃ mode, chip' = { chip with
          mode := mode
          irqStatus := 0
          buffer := RadioChip.write chip.buffer adapter.config.txBufferOffset data })) := by
  rw [tryStartTx] at h
  split at h
  · obtain ⟨he, rfl⟩ := runs_pure_iff.mp h
    exact .inl ⟨(Prod.mk.inj he).2, rfl⟩
  rename_i hready
  rw [not_or, not_or, not_not, not_not, not_not] at hready
  refine .inr ⟨hready.2.1, hready.2.2, ?_⟩
  have hlength : data.length < 2 ^ 32 := by
    rw [hready.2.2]
    omega
  obtain ⟨result₁, chip₁, hclear, ⟨hok₁, h₁⟩ | ⟨adapter₁, hs, h₁⟩⟩ := onChip_command h
  swap
  · obtain ⟨irqStatus, rfl⟩ := hclear.clearIrqStatus_cases
    obtain ⟨rfl, -, hstop⟩ := stopped_of_pure hs h₁
    exact ⟨.inl hstop, .inl⟩
  obtain rfl := hclear.1 hok₁
  have hclean : chip.perform .clearIrqStatus (writeU16Be sx128xIrqAll) =
      { chip with irqStatus := 0 } := by
    rw [RadioChip.perform_clearIrqStatus, show ~~~ sx128xIrqAll = 0 from rfl, UInt16.and_zero]
  rw [hclean] at h₁
  obtain ⟨result₂, chip₂, hwrite, ⟨hok₂, h₂⟩ | ⟨adapter₁, hs, h₂⟩⟩ := onChip_command h₁
  swap
  · obtain ⟨buffer, rfl⟩ := hwrite.writeBuffer_cases
    obtain ⟨rfl, -, hstop⟩ := stopped_of_pure hs h₂
    exact ⟨.inl hstop, .inl⟩
  obtain rfl := hwrite.1 hok₂
  rw [Stm32f4Sx128xPort.bytes_some (Nat.mod_eq_of_lt hlength).symm] at h₂
  obtain ⟨result₃, chip₃, htx, ⟨hok₃, h₃⟩ | ⟨adapter₁, hs, h₃⟩⟩ := onChip_command h₂
  all_goals obtain ⟨mode, rfl⟩ := htx.setTx_cases
  · obtain ⟨he, rfl⟩ := runs_pure_iff.mp h₃
    exact ⟨.inr (Prod.mk.inj he).2, fun _ => .inr ⟨mode, rfl⟩⟩
  · obtain ⟨rfl, -, hstop⟩ := stopped_of_pure hs h₃
    exact ⟨.inl hstop, fun _ => .inr ⟨mode, rfl⟩⟩

end Sx128xPacketRadio

/-! ## The calls of the service -/

namespace Transceiver

open Sx128xPacketRadio

variable {t t' : Transceiver}

/-- A call of the service, answered by the adapter on its radio. -/
def Calls (o : LinkOp) (t : Transceiver) (x : o.Ans) (t' : Transceiver) : Prop :=
  Runs chipDriver (answer o t.adapter) t.chip (x, t'.adapter) t'.chip

/-- The packets of the radio are the frames of the adapter, and start where it writes them. -/
structure Matched (t : Transceiver) : Prop where
  length : (t.chip.packetParams.getD 2 0).toNat = t.adapter.config.frameLength
  base : t.chip.txBaseAddress = t.adapter.config.txBufferOffset

theorem Matched.frameLength_le (h : t.Matched) : t.adapter.config.frameLength ≤ 255 := by
  rw [← h.length]
  exact Nat.le_of_lt_succ (UInt8.toNat_lt _)

theorem dwindles_of_process (ht : t.Disciplined)
    (h : Runs chipDriver t.adapter.process t.chip t'.adapter t'.chip) : Dwindles t t' := by
  obtain ⟨adapter, chip⟩ := t
  obtain ⟨adapter', chip'⟩ := t'
  obtain ⟨rfl, rfl | hs⟩ | ⟨hirq, irqStatus, rfl, hlooked⟩ := onChip_process h
  · exact ht.refl_dwindles
  · exact dwindles_of_stopped ht hs fun _ => rfl
  -- a radio that has something to report does not send
  have hsilent : chip.isSending = true → False := fun hs => hirq (ht hs).2.2
  obtain hs | ⟨rfl, hlooked⟩ := hlooked
  · exact dwindles_of_stopped ht hs fun hsend => (hsilent hsend).elim
  refine ⟨?_, fun hsend => (hsilent hsend).elim, fun hsend => (hsilent hsend).elim⟩
  cases hlooked with
  | stopped hs =>
    rw [held_of_stopped hs]
    exact List.nil_sublist _
  | unchanged =>
    rw [held, pending, RadioChip.hasReceived_of_quiet rfl, if_neg (by simp), List.append_nil]
    exact List.sublist_append_left _ _
  | ended hidle hframe =>
    rw [held, pending_of_state (by rw [hidle]; decide), List.append_nil]
    refine List.Sublist.trans ?_ (List.sublist_append_left _ _)
    rw [captured, captured]
    split
    · rename_i ha
      obtain ⟨ha', he⟩ := hframe ha
      rw [if_pos ha', he]
    · exact List.nil_sublist _
  | captured hrx hcrc htimeout hdone hidle hdata =>
    rw [held, pending_of_state (by rw [hidle]; decide), List.append_nil]
    refine List.Sublist.trans ?_ (List.sublist_append_right _ _)
    have hreceived : chip.hasReceived = true := by
      simp [RadioChip.hasReceived, hcrc, htimeout, hdone]
    rw [pending, if_pos ⟨hrx, hreceived⟩, captured]
    split
    · rw [hdata]
    · exact List.nil_sublist _

theorem dwindles_of_tryStartRx {timeoutMs : UInt32} {started : Bool} (ht : t.Disciplined)
    (h : Calls (.tryStartRx timeoutMs) t started t') : Dwindles t t' := by
  obtain ⟨adapter, chip⟩ := t
  obtain ⟨adapter', chip'⟩ := t'
  obtain ⟨rfl, rfl⟩ | ⟨hidle, hsending, hresult⟩ := onChip_tryStartRx h
  · exact ht.refl_dwindles
  -- an idle adapter has a radio that does not send
  have hsilent : chip'.isSending = true → False := fun hs => by
    obtain ⟨htx | herror, -⟩ := ht (hsending hs)
    · exact absurd (hidle.symm.trans htx) (by decide)
    · exact absurd (hidle.symm.trans herror) (by decide)
  obtain hs | ⟨hrx, hread, hirq⟩ := hresult
  · exact dwindles_of_stopped ht hs fun hs => (hsilent hs).elim
  refine ⟨?_, fun hs => (hsilent hs).elim, fun hs => (hsilent hs).elim⟩
  rw [held, captured, hread, pending, RadioChip.hasReceived_of_quiet hirq]
  simp

theorem dwindles_of_recover {recovered : Bool} (ht : t.Disciplined)
    (h : Calls .recover t recovered t') : Dwindles t t' := by
  obtain ⟨adapter, chip⟩ := t
  obtain ⟨adapter', chip'⟩ := t'
  obtain ⟨rfl, rfl⟩ | ⟨hsending, hs | ⟨hidle, hread, hsilent⟩⟩ := onChip_recover h
  · exact ht.refl_dwindles
  · exact dwindles_of_stopped ht hs hsending
  · refine ⟨?_, hsending, fun hs => absurd (hs.symm.trans hsilent) (by decide)⟩
    rw [held, captured, hread, pending_of_state (by rw [hidle]; decide)]
    exact List.nil_sublist _

/-- **A call that neither hands over nor reads a frame makes up none.** -/
theorem dwindles_of_calls {o : LinkOp} {x : o.Ans} (ht : t.Disciplined)
    (hsend : ∀ data, o ≠ .tryStartTx data) (hread : o ≠ .readRxFrame) (h : Calls o t x t') :
    Dwindles t t' := by
  obtain ⟨adapter, chip⟩ := t
  obtain ⟨adapter', chip'⟩ := t'
  cases o with
  | nowMs =>
    obtain ⟨now, m, hm, hlast⟩ := runs_bind_iff.mp h
    obtain rfl : m = chip := runs_ask_iff.mp hm
    obtain ⟨he, rfl⟩ := runs_pure_iff.mp hlast
    obtain ⟨-, rfl⟩ := Prod.mk.inj he
    exact ht.refl_dwindles
  | elapsedMs sinceMs =>
    obtain ⟨elapsed, m, hm, hlast⟩ := runs_bind_iff.mp h
    obtain rfl : m = chip := runs_ask_iff.mp hm
    obtain ⟨he, rfl⟩ := runs_pure_iff.mp hlast
    obtain ⟨-, rfl⟩ := Prod.mk.inj he
    exact ht.refl_dwindles
  | published event stored =>
    obtain ⟨he, rfl⟩ := runs_pure_iff.mp h
    obtain ⟨-, rfl⟩ := Prod.mk.inj he
    exact ht.refl_dwindles
  | logRetry sequence retryCount maxRetries =>
    obtain ⟨he, rfl⟩ := runs_pure_iff.mp h
    obtain ⟨-, rfl⟩ := Prod.mk.inj he
    exact ht.refl_dwindles
  | radioProcess =>
    obtain ⟨adapter₁, m, hprocess, hlast⟩ := runs_bind_iff.mp h
    obtain ⟨he, rfl⟩ := runs_pure_iff.mp hlast
    obtain ⟨-, rfl⟩ := Prod.mk.inj he
    exact dwindles_of_process ht hprocess
  | takeEvent =>
    obtain ⟨he, rfl⟩ := runs_pure_iff.mp h
    rw [takeEvent] at he
    dsimp only at he
    split at he
    · obtain ⟨-, rfl⟩ := Prod.mk.inj he
      exact ht.refl_dwindles
    · split at he
      · obtain ⟨-, rfl⟩ := Prod.mk.inj he
        exact ht.refl_dwindles
      · obtain ⟨-, rfl⟩ := Prod.mk.inj he
        exact ⟨List.Sublist.refl _, fun _ => rfl, ht⟩
  | tryStartTx data => exact absurd rfl (hsend data)
  | tryStartRx timeoutMs => exact dwindles_of_tryStartRx ht h
  | readRxFrame => exact absurd rfl hread
  | recover => exact dwindles_of_recover ht h

/-- **A frame that is read is the first that was held.** -/
theorem reads_of_calls {x : Option PacketRadioRxFrame} (ht : t.Disciplined)
    (h : Calls .readRxFrame t x t') :
    (x = none ∧ t' = t) ∨ ∃ frame, x = some frame ∧ t.held = frame.data :: t'.held ∧
      t'.chip = t.chip ∧ t.chip.isSending = false := by
  obtain ⟨adapter, chip⟩ := t
  obtain ⟨adapter', chip'⟩ := t'
  obtain ⟨he, rfl⟩ := runs_pure_iff.mp h
  rw [readRxFrame] at he
  dsimp only at he
  split at he
  · obtain ⟨rfl, rfl⟩ := Prod.mk.inj he
    exact .inl ⟨rfl, rfl⟩
  · rename_i havailable
    obtain ⟨rfl, rfl⟩ := Prod.mk.inj he
    rw [not_or, not_not, not_not] at havailable
    refine .inr ⟨_, rfl, ?_, rfl, ?_⟩
    · rw [held, captured, if_pos havailable.2]
      rfl
    · by_contra hsend
      rw [Bool.not_eq_false] at hsend
      exact absurd (havailable.2.symm.trans (ht hsend).2.1) (by decide)

/-- **A frame that goes out was handed over.** -/
theorem sends_of_calls {data : List UInt8} {started : Bool} (ht : t.Disciplined) (hm : t.Matched)
    (hread : t.adapter.rxFrameAvailable = false) (h : Calls (.tryStartTx data) t started t') :
    Dwindles t t' ∨ (t'.held = [] ∧ t'.sending = [data] ∧ t'.Disciplined) := by
  obtain ⟨adapter, chip⟩ := t
  obtain ⟨adapter', chip'⟩ := t'
  obtain ⟨rfl, rfl⟩ | ⟨hidle, hlength, hstate, hsending⟩ := onChip_tryStartTx h hm.frameLength_le
  · exact .inl ht.refl_dwindles
  have hstate' : (adapter'.state = .tx ∨ adapter'.state = .error) ∧
      adapter'.rxFrameAvailable = false := by
    obtain hs | rfl := hstate
    · exact ⟨.inr hs.1, hs.2⟩
    · exact ⟨.inl rfl, hread⟩
  have hheld : Transceiver.held ⟨adapter', chip'⟩ = [] := by
    rw [held, captured, hstate'.2, pending_of_state]
    · rfl
    · obtain htx | herror := hstate'.1
      · rw [htx]
        decide
      · rw [herror]
        decide
  by_cases hs : chip'.isSending = true
  · right
    obtain hold | ⟨mode, rfl⟩ := hsending hs
    · obtain ⟨htx | herror, -⟩ := ht hold
      · exact absurd (hidle.symm.trans htx) (by decide)
      · exact absurd (hidle.symm.trans herror) (by decide)
    refine ⟨hheld, ?_, fun _ => ⟨hstate'.1, hstate'.2, rfl⟩⟩
    have hpacket : RadioChip.packet { chip with
        mode := mode
        irqStatus := 0
        buffer := RadioChip.write chip.buffer adapter.config.txBufferOffset data } = data := by
      rw [RadioChip.packet, hm.length, hm.base, ← hlength]
      exact RadioChip.read_write chip.buffer _ (by have := hm.frameLength_le; omega)
    rw [sending, if_pos hs, hpacket]
  · refine .inl ⟨?_, fun hsend => absurd hsend hs, fun hsend => absurd hsend hs⟩
    rw [hheld]
    exact List.nil_sublist _

end Transceiver

end RadioConnection
