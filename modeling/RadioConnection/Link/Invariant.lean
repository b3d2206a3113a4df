import RadioConnection.Link.Rounds

/-!
# What every call of the link service keeps

* `Processed.keeps`: a relation between the service and its environment that
  each part of a call keeps is kept by the call.
* `Consistent`: the states go with the role, and a request is active exactly in
  the states of a request.
* `Run`: the runs of a service, with the history of its calls and of the events
  that the application took.
-/

namespace RadioConnection

namespace DuplexLinkService

open Interaction LinkProg
open Interaction.Prog

inductive PartStep (s : DuplexLinkService) : List LinkAction → DuplexLinkService → Prop
  | event {event : PacketRadioEvent} {tr : List LinkAction} {s' : DuplexLinkService} :
      EventStep s event tr s' → PartStep s tr s'
  | timeout {tr : List LinkAction} {s' : DuplexLinkService} : TimeoutStep s tr s' → PartStep s tr s'
  | action {tr : List LinkAction} {s' : DuplexLinkService} : ActionStep s tr s' → PartStep s tr s'

section Keeps

variable {σ : Type} {env : Env LinkOp LinkOp.Ans σ} {I : DuplexLinkService → σ → Prop}

theorem Polled.keeps (htake : ∀ s e w w', env .takeEvent w e w' → I s w → I s w')
    (hevent : ∀ s e tr s' w w', s.state ≠ .error → EventStep s e tr s' → env.Path w tr w' →
      I s w → I s' w')
    {s s' : DuplexLinkService} {tr : List LinkAction} {w w' : σ} (h : Polled s tr s')
    (hs : s.state ≠ .error) (hp : env.Path w tr w') (hI : I s w) : I s' w' := by
  induction h generalizing w with
  | empty s =>
    obtain ⟨m, hm, rfl⟩ := hp
    exact htake _ _ _ _ hm hI
  | stop he _ =>
    obtain ⟨m, hm, hp⟩ := hp
    exact hevent _ _ _ _ _ _ hs he hp (htake _ _ _ _ hm hI)
  | next he hs₁ _ ih =>
    obtain ⟨m, hm, hp⟩ := hp
    obtain ⟨n, hn, hp⟩ := Env.path_append_iff.mp hp
    exact ih hs₁ hp (hevent _ _ _ _ _ _ hs he hn (htake _ _ _ _ hm hI))

/-- **What the parts of a call keep, the call keeps.** -/
theorem Processed.keeps (hprocess : ∀ s w w', env .radioProcess w () w' → I s w → I s w')
    (htake : ∀ s e w w', env .takeEvent w e w' → I s w → I s w')
    (hpart : ∀ s tr s' w w', s.state ≠ .error → PartStep s tr s' → env.Path w tr w' → I s w →
      I s' w')
    {s s' : DuplexLinkService} {tr : List LinkAction} {w w' : σ} (h : Processed s tr s')
    (hp : env.Path w tr w') (hI : I s w) : I s' w' := by
  have hevent := fun s e tr s' w w' hs (h : EventStep s e tr s') => hpart s tr s' w w' hs (.event h)
  cases h with
  | off _ =>
    obtain rfl := hp
    exact hI
  | failed _ hs hl _ =>
    obtain ⟨m, hm, hp⟩ := hp
    exact hl.keeps htake hevent hs hp (hprocess _ _ _ hm hI)
  | timedOut _ hs hl hs₁ ht _ =>
    obtain ⟨m, hm, hp⟩ := hp
    obtain ⟨n, hn, hp⟩ := Env.path_append_iff.mp hp
    exact hpart _ _ _ _ _ hs₁ (.timeout ht) hp
      (hl.keeps htake hevent hs hn (hprocess _ _ _ hm hI))
  | ran _ hs hl hs₁ ht hs₂ ha =>
    obtain ⟨m, hm, hp⟩ := hp
    obtain ⟨n, hn, hp⟩ := Env.path_append_iff.mp hp
    obtain ⟨k, hk, hp⟩ := Env.path_append_iff.mp hp
    exact hpart _ _ _ _ _ hs₂ (.action ha) hp (hpart _ _ _ _ _ hs₁ (.timeout ht) hk
      (hl.keeps htake hevent hs hn (hprocess _ _ _ hm hI)))

end Keeps

def anything : Env LinkOp LinkOp.Ans Unit := fun _ _ _ _ => True

theorem path_anything (tr : List LinkAction) : anything.Path () tr () := by
  induction tr with
  | nil => rfl
  | cons x tr ih => exact ⟨(), trivial, ih⟩

theorem Processed.keeps' {I : DuplexLinkService → Prop}
    (hpart : ∀ s tr s', PartStep s tr s' → I s → I s')
    {s s' : DuplexLinkService} {tr : List LinkAction} (h : Processed s tr s') (hI : I s) : I s' :=
  h.keeps (I := fun s _ => I s) (fun _ _ _ _ h => h) (fun _ _ _ _ _ h => h)
    (fun _ _ _ _ _ _ hs _ h => hpart _ _ _ hs h) (path_anything tr) hI

/-! ## The role and the state -/

/-- The states of a service with this role, when it has a request and when it has none. -/
def homeStates (role : DuplexLinkRole) (requestActive : Bool) : List DuplexLinkState :=
  match role, requestActive with
  | .initiator, false => [.idle, .error]
  | .initiator, true => [.startRequestTx, .waitRequestTxDone, .startResponseRx, .waitResponse, .error]
  | .responder, false =>
    [.startResponderRx, .responderRx, .startResponseTx, .waitResponseTxDone, .error]
  | .responder, true => []

def Consistent (s : DuplexLinkService) : Prop := s.state ∈ homeStates s.config.role s.requestActive

theorem RetryOrFail.config {s s' : DuplexLinkService} {tr : List LinkAction}
    (h : RetryOrFail s tr s') : s'.config = s.config := by
  cases h <;> rfl

theorem DeviceErrorHandled.config {s s' : DuplexLinkService} {errorCode : UInt16}
    {tr : List LinkAction} (h : DeviceErrorHandled s errorCode tr s') : s'.config = s.config := by
  cases h with
  | active _ _ h => exact h.config
  | _ => rfl

theorem RequestHandled.config {s s' : DuplexLinkService} {frame : PacketRadioRxFrame}
    {tr : List LinkAction} (h : RequestHandled s frame tr s') : s'.config = s.config := by
  cases h with
  | unbuilt _ _ _ h => exact h.config
  | _ => rfl

theorem ResponseHandled.config {s s' : DuplexLinkService} {frame : PacketRadioRxFrame}
    {tr : List LinkAction} (h : ResponseHandled s frame tr s') : s'.config = s.config := by
  cases h with
  | rejected _ h => exact h.config
  | succeeded => rfl

theorem PartStep.config {s s' : DuplexLinkService} {tr : List LinkAction}
    (h : PartStep s tr s') : s'.config = s.config := by
  cases h with
  | event h =>
    cases h with
    | unreadInitiator _ _ h => exact h.config
    | request _ _ _ h => exact h.config
    | response _ _ _ _ h => exact h.config
    | timeoutRetry _ _ _ h => exact h.config
    | crcRetry _ _ _ h => exact h.config
    | deviceError _ h => exact h.config
    | _ => rfl
  | timeout h =>
    cases h with
    | response _ _ _ h => exact h.config
    | requestTx _ _ _ h => exact h.config
    | _ => rfl
  | action h =>
    cases h with
    | responseRxRetry _ _ _ h => exact h.config
    | _ => rfl

namespace Consistent

variable {s : DuplexLinkService}

theorem inactive (h : Consistent s) (hr : s.config.role = .responder) :
    s.requestActive = false := by
  cases ha : s.requestActive with
  | false => rfl
  | true => simp [Consistent, homeStates, hr, ha] at h

theorem goto_error (h : Consistent s) (now : UInt32) : Consistent (s.goto .error now) := by
  cases hr : s.config.role <;> cases ha : s.requestActive <;> simp_all [Consistent, homeStates]

theorem busy (h : Consistent s)
    (hs : s.state ∈ [.startRequestTx, .waitRequestTxDone, .startResponseRx, .waitResponse]) :
    s.config.role = .initiator ∧ s.requestActive = true := by
  cases hr : s.config.role <;> cases ha : s.requestActive <;>
    simp only [Consistent, homeStates, hr, ha] at h <;>
    simp only [List.mem_cons, List.not_mem_nil, or_false] at h hs <;>
    grind

theorem listening (h : Consistent s)
    (hs : s.state ∈ [.startResponderRx, .responderRx, .startResponseTx, .waitResponseTxDone]) :
    s.config.role = .responder ∧ s.requestActive = false := by
  cases hr : s.config.role <;> cases ha : s.requestActive <;>
    simp only [Consistent, homeStates, hr, ha] at h <;>
    simp only [List.mem_cons, List.not_mem_nil, or_false] at h hs <;>
    grind

theorem of_busy {s' : DuplexLinkService} (hr : s'.config.role = .initiator)
    (ha : s'.requestActive = true)
    (hs : s'.state ∈ [.startRequestTx, .waitRequestTxDone, .startResponseRx, .waitResponse]) :
    Consistent s' := by
  rw [Consistent, hr, ha]
  exact List.mem_append_left [.error] hs

theorem of_listening {s' : DuplexLinkService} (hr : s'.config.role = .responder)
    (ha : s'.requestActive = false)
    (hs : s'.state ∈ [.startResponderRx, .responderRx, .startResponseTx, .waitResponseTxDone]) :
    Consistent s' := by
  rw [Consistent, hr, ha]
  exact List.mem_append_left [.error] hs

end Consistent

theorem RetryOrFail.consistent {s s' : DuplexLinkService} {tr : List LinkAction}
    (h : RetryOrFail s tr s') (hr : s.config.role = .initiator) : Consistent s' := by
  cases h with
  | inactive _ ha => simp [Consistent, homeStates, hr, ha]
  | retry _ ha _ => exact .of_busy hr ha (by simp)
  | fail _ _ _ => simp [Consistent, homeStates, hr]

theorem DeviceErrorHandled.consistent {s s' : DuplexLinkService} {errorCode : UInt16}
    {tr : List LinkAction} (h : DeviceErrorHandled s errorCode tr s') (hs : Consistent s) :
    Consistent s' := by
  cases h with
  | lost now => exact Consistent.goto_error (s := s.reported errorCode) hs now
  | responder now hr => exact .of_listening hr (hs.inactive hr) (by simp)
  | active hr _ h => exact h.consistent hr
  | idle now hr ha => simp [Consistent, homeStates, hr, ha]

theorem RequestHandled.consistent {s s' : DuplexLinkService} {frame : PacketRadioRxFrame}
    {tr : List LinkAction} (h : RequestHandled s frame tr s') (hr : s.config.role = .responder)
    (hs : Consistent s) : Consistent s' := by
  cases h with
  | unbuilt _ _ _ h => exact h.consistent hs
  | _ => exact .of_listening hr (hs.inactive hr) (by simp)

theorem ResponseHandled.consistent {s s' : DuplexLinkService} {frame : PacketRadioRxFrame}
    {tr : List LinkAction} (h : ResponseHandled s frame tr s')
    (hr : s.config.role = .initiator) : Consistent s' := by
  cases h with
  | rejected _ h => exact h.consistent hr
  | succeeded => simp [Consistent, homeStates, hr]

theorem EventStep.consistent {s s' : DuplexLinkService} {event : PacketRadioEvent}
    {tr : List LinkAction} (h : EventStep s event tr s') (hs : Consistent s) : Consistent s' := by
  cases h with
  | requestSent now _ hw =>
    obtain ⟨hr, ha⟩ := hs.busy (by simp [hw])
    exact .of_busy hr ha (by simp)
  | responseSent now _ hw =>
    obtain ⟨hr, ha⟩ := hs.listening (by simp [hw])
    exact .of_listening hr ha (by simp)
  | unreadResponder now _ hr => exact .of_listening hr (hs.inactive hr) (by simp)
  | unreadInitiator _ hr h => exact h.consistent hr
  | request _ hr _ h => exact h.consistent hr hs
  | response _ hr _ _ h => exact h.consistent hr
  | timeoutRetry _ hr _ h => exact h.consistent hr
  | timeoutResponder now _ hr => exact .of_listening hr (hs.inactive hr) (by simp)
  | crcRetry _ hr _ h => exact h.consistent hr
  | crcResponder now _ hr => exact .of_listening hr (hs.inactive hr) (by simp)
  | deviceError _ h => exact h.consistent hs
  | _ => exact hs

theorem TimeoutStep.consistent {s s' : DuplexLinkService} {tr : List LinkAction}
    (h : TimeoutStep s tr s') (hs : Consistent s) : Consistent s' := by
  cases h with
  | none => exact hs
  | response _ hw _ h => exact h.consistent (hs.busy (by simp [hw])).1
  | responseLost _ now => exact hs.goto_error now
  | requestTx _ hw _ h => exact h.consistent (hs.busy (by simp [hw])).1
  | responseTx _ now hw =>
    obtain ⟨hr, ha⟩ := hs.listening (by simp [hw])
    exact .of_listening hr ha (by simp)
  | transmissionLost _ now => exact hs.goto_error now

theorem ActionStep.consistent {s s' : DuplexLinkService} {tr : List LinkAction}
    (h : ActionStep s tr s') (hs : Consistent s) : Consistent s' := by
  cases h with
  | requestTx _ _ hw =>
    obtain ⟨hr, ha⟩ := hs.busy (by simp [hw])
    exact .of_busy hr ha (by simp)
  | responseRx _ _ hw =>
    obtain ⟨hr, ha⟩ := hs.busy (by simp [hw])
    exact .of_busy hr ha (by simp)
  | responderRx _ hw =>
    obtain ⟨hr, ha⟩ := hs.listening (by simp [hw])
    exact .of_listening hr ha (by simp)
  | responseTx _ hw =>
    obtain ⟨hr, ha⟩ := hs.listening (by simp [hw])
    exact .of_listening hr ha (by simp)
  | requestLost _ now now' => exact hs.goto_error now
  | lost _ now => exact hs.goto_error now
  | responseRxRetry _ hw _ h => exact h.consistent (hs.busy (by simp [hw])).1
  | responseGivenUp _ _ hw =>
    obtain ⟨hr, ha⟩ := hs.listening (by simp [hw])
    exact .of_listening hr ha (by simp)
  | _ => exact hs

theorem PartStep.consistent {s s' : DuplexLinkService} {tr : List LinkAction}
    (h : PartStep s tr s') (hs : Consistent s) : Consistent s' := by
  cases h with
  | event h => exact h.consistent hs
  | timeout h => exact h.consistent hs
  | action h => exact h.consistent hs

/-- **The state goes with the role and the request, in every call.** -/
theorem Processed.consistent {s s' : DuplexLinkService} {tr : List LinkAction}
    (h : Processed s tr s') (hs : Consistent s) : Consistent s' :=
  h.keeps' (fun _ _ _ => PartStep.consistent) hs

theorem Processed.config {s s' : DuplexLinkService} {tr : List LinkAction}
    (h : Processed s tr s') : s'.config = s.config :=
  h.keeps' (I := fun m => m.config = s.config) (fun _ _ _ hp hm => hp.config.trans hm) rfl

theorem consistent_initial (config : DuplexLinkConfig) (now : UInt32) :
    Consistent (initial config now) := by
  cases hr : config.role <;> simp [Consistent, homeStates, initial, cleared, hr]

theorem consistent_requested {s : DuplexLinkService} {messageType : LinkMessageType}
    {payload : List UInt8} (h : s.CanRequest messageType payload) (packet : LinkPacket)
    (now : UInt32) : Consistent ((s.requested packet).goto .startRequestTx now) :=
  .of_busy h.role rfl (by simp)

theorem RetryOrFail.stays_inactive {s s' : DuplexLinkService} {tr : List LinkAction}
    (h : RetryOrFail s tr s') (ha : s.requestActive = false) : s'.requestActive = false := by
  cases h <;> simp_all

theorem DeviceErrorHandled.stays_inactive {s s' : DuplexLinkService} {errorCode : UInt16}
    {tr : List LinkAction} (h : DeviceErrorHandled s errorCode tr s')
    (ha : s.requestActive = false) : s'.requestActive = false := by
  cases h with
  | active _ _ h => exact h.stays_inactive ha
  | _ => exact ha

theorem PartStep.stays_inactive {s s' : DuplexLinkService} {tr : List LinkAction}
    (h : PartStep s tr s') (ha : s.requestActive = false) : s'.requestActive = false := by
  cases h with
  | event h =>
    cases h with
    | unreadInitiator _ _ h => exact h.stays_inactive ha
    | request _ _ _ h =>
      cases h with
      | unbuilt _ _ _ h => exact h.stays_inactive ha
      | _ => exact ha
    | response _ _ _ _ h =>
      cases h with
      | rejected _ h => exact h.stays_inactive ha
      | succeeded => rfl
    | timeoutRetry _ _ _ h => exact h.stays_inactive ha
    | crcRetry _ _ _ h => exact h.stays_inactive ha
    | deviceError _ h => exact h.stays_inactive ha
    | _ => exact ha
  | timeout h =>
    cases h with
    | response _ _ _ h => exact h.stays_inactive ha
    | requestTx _ _ _ h => exact h.stays_inactive ha
    | _ => exact ha
  | action h =>
    cases h with
    | responseRxRetry _ _ _ h => exact h.stays_inactive ha
    | _ => exact ha

/-! ## Runs -/

/-- What happens in a run: the calls that the service makes, and the events that the
application takes. -/
inductive HistoryEntry
  | action (action : LinkAction)
  | taken (event : DuplexLinkEvent)

/-- The runs of a service: any calls of the application, with any radio and any clock. -/
inductive Run (config : DuplexLinkConfig) : List HistoryEntry → DuplexLinkService → Prop
  | init {tr : List LinkAction} {s : DuplexLinkService} : Trace (init config) tr (some s) →
      Run config (tr.map .action) s
  | process {h : List HistoryEntry} {s s' : DuplexLinkService} {bound : Nat}
      {tr : List LinkAction} : Run config h s → Trace (process bound s) tr (some s') →
      Run config (h ++ tr.map .action) s'
  | start {h : List HistoryEntry} {s s' : DuplexLinkService} {messageType : LinkMessageType}
      {payload : List UInt8} {started : Bool} {tr : List LinkAction} : Run config h s →
      Trace (prepareRequest s messageType payload) tr (started, s') →
      Run config (h ++ tr.map .action) s'
  | setResponsePayload {h : List HistoryEntry} {s : DuplexLinkService} (payload : List UInt8) :
      Run config h s → Run config h (s.setResponsePayload payload).2
  | takeEvent {h : List HistoryEntry} {s s' : DuplexLinkService} {event : DuplexLinkEvent} :
      Run config h s → s.takeEvent = some (event, s') → Run config (h ++ [.taken event]) s'

theorem setResponsePayload_eq (s : DuplexLinkService) (payload : List UInt8) :
    (s.setResponsePayload payload).2 = s ∨
    payloadLengthIsValid payload.length = true ∧ (s.setResponsePayload payload).2 =
      { s with
        responsePayload := payloadBuffer payload
        responsePayloadLength := payload.length.toUInt8 } := by
  unfold setResponsePayload
  split
  · exact .inl rfl
  · rename_i h
    exact .inr ⟨by simp only [not_or, not_not] at h; exact h.2, rfl⟩

theorem setResponsePayload_fields (s : DuplexLinkService) (payload : List UInt8) :
    ∃ buffer length, (s.setResponsePayload payload).2 =
      { s with responsePayload := buffer, responsePayloadLength := length } := by
  rcases setResponsePayload_eq s payload with h | ⟨-, h⟩
  · exact ⟨s.responsePayload, s.responsePayloadLength, h⟩
  · exact ⟨_, _, h⟩

theorem Run.consistent {config : DuplexLinkConfig} {h : List HistoryEntry} {s : DuplexLinkService}
    (hrun : Run config h s) : Consistent s ∧ s.config = config := by
  induction hrun with
  | init h =>
    obtain ⟨-, now, -, rfl⟩ := trace_init h
    exact ⟨consistent_initial _ now, rfl⟩
  | process _ h ih => exact ⟨(trace_process h).consistent ih.1, (trace_process h).config.trans ih.2⟩
  | start _ h ih =>
    rcases trace_prepareRequest h with ⟨-, -, rfl⟩ | ⟨-, hc, now, -, rfl⟩
    · exact ih
    · exact ⟨consistent_requested hc _ now, ih.2⟩
  | @setResponsePayload _ s payload _ ih =>
    obtain ⟨buffer, length, h⟩ := setResponsePayload_fields s payload
    rw [h]
    exact ih
  | takeEvent _ h ih =>
    obtain ⟨events, -, rfl⟩ := takeEvent_eq_some h
    exact ih

end DuplexLinkService

end RadioConnection
