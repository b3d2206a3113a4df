import RadioConnection.Lib.Lockstep
import RadioConnection.Link.Service

/-!
# The link service and the start of its clock

Two runs of the same calls, one with all readings of the clock moved by `c` modulo
`2^32`.  The service keeps three times: the start of its state, of its attempt and
of its wait for a response.  The first is always moved along; the other two may
still be those of an earlier attempt, or zero, and are not read then.

* `ClockPairs`: the calls that the two runs make in pairs.
* `Shifted`: the relation of the two services.  `Reads` is what it asks of the two
  other times, by the state that may read them.
* `lockstep_setState`, `lockstep_retryOrFail`, ..., `lockstep_process`: each
  function of the service keeps the relation, in lockstep.
* `LinkCall` and `LinkCall.session`: the calls of the application.
* `LinkEnv.session_shift`: **whatever the clock shows at its start, a session gives
  the same results and makes the same calls to the radio.**
-/

namespace RadioConnection

open Interaction

/-! ## Pairs of calls -/

def LinkOp.readsClock : LinkOp → Bool
  | nowMs => true
  | elapsedMs _ => true
  | _ => false

/-- The calls of two services whose clocks differ by `c`, with the relation of the answers. -/
inductive ClockPairs (c : UInt32) : Pairs LinkOp LinkOp.Ans
  | now : ClockPairs c .nowMs .nowMs fun now now' => now' = now + c
  | elapsed (since : UInt32) : ClockPairs c (.elapsedMs since) (.elapsedMs (since + c)) (· = ·)
  | radio {o : LinkOp} : o.readsClock = false → ClockPairs c o o (· = ·)

namespace DuplexLinkService

/-- The states in which the start of the current attempt may still be read. -/
def inAttempt : DuplexLinkState → Bool
  | .waitRequestTxDone => true
  | .startResponseRx => true
  | .waitResponse => true
  | _ => false

/-- The service with its start of the state moved by `c`, and the other two starts as given. -/
@[simps] def shifted (c attempt wait : UInt32) (s : DuplexLinkService) : DuplexLinkService :=
  { s with
    stateStartedMs := s.stateStartedMs + c
    attemptStartedMs := attempt
    responseWaitStartedMs := wait }

/-- The starts that `state` may read are moved by `c` as well. -/
structure Reads (c attempt wait : UInt32) (state : DuplexLinkState) (s : DuplexLinkService) :
    Prop where
  attempt : inAttempt state = true → attempt = s.attemptStartedMs + c
  wait : state = .waitResponse → wait = s.responseWaitStartedMs + c

/-- **The relation of the two services**: all fields are the same, apart from the starts. -/
def Shifted (c : UInt32) (s s' : DuplexLinkService) : Prop :=
  ∃ attempt wait, Reads c attempt wait s.state s ∧ s' = s.shifted c attempt wait

variable {c attempt wait : UInt32} {s s' : DuplexLinkService}

theorem reads_of_not_inAttempt {state : DuplexLinkState} (h : inAttempt state = false) :
    Reads c attempt wait state s := by
  constructor
  · intro h'
    exact absurd (h.symm.trans h') (by decide)
  · rintro rfl
    exact absurd h (by decide)

/-! ## Each function in lockstep -/

theorem lockstep_nowMs :
    Lockstep (ClockPairs c) (fun now now' => now' = now + c) LinkProg.nowMs LinkProg.nowMs :=
  .ask ClockPairs.now

theorem lockstep_elapsedMs (since : UInt32) :
    Lockstep (ClockPairs c) (· = ·) (LinkProg.elapsedMs since) (LinkProg.elapsedMs (since + c)) :=
  .ask (ClockPairs.elapsed since)

theorem lockstep_ask {o : LinkOp} (h : o.readsClock = false) :
    Lockstep (ClockPairs c) (· = ·) (Prog.ask o : LinkProg o.Ans) (Prog.ask o) :=
  .ask (ClockPairs.radio h)

theorem lockstep_setState {state : DuplexLinkState} (h : Reads c attempt wait state s) :
    Lockstep (ClockPairs c) (Shifted c) (setState s state)
      (setState (s.shifted c attempt wait) state) := by
  refine lockstep_nowMs.bind fun now now' hnow => .pure ⟨attempt, wait, ?_, ?_⟩
  · exact ⟨h.attempt, h.wait⟩
  · rw [hnow]
    rfl

theorem lockstep_pushEvent (event : DuplexLinkEvent) (h : Reads c attempt wait s.state s) :
    Lockstep (ClockPairs c) (Shifted c) (pushEvent s event)
      (pushEvent (s.shifted c attempt wait) event) := by
  rw [pushEvent, pushEvent, shifted_events]
  split
  · exact (lockstep_ask rfl).bind fun _ _ _ => .pure ⟨attempt, wait, h, rfl⟩
  · exact (lockstep_ask rfl).bind fun _ _ _ => .pure ⟨attempt, wait, ⟨h.attempt, h.wait⟩, rfl⟩

theorem lockstep_publishInvalid (reason : DuplexLinkInvalidReason) (status : LinkPacketStatus)
    (packet : Option LinkPacket) (frame : Option PacketRadioRxFrame)
    (h : Reads c attempt wait s.state s) :
    Lockstep (ClockPairs c) (Shifted c) (publishInvalid s reason status packet frame)
      (publishInvalid (s.shifted c attempt wait) reason status packet frame) :=
  lockstep_pushEvent (s := { s with stats.invalidPackets := s.stats.invalidPackets + 1 }) _
    ⟨h.attempt, h.wait⟩

/-- A state that reads neither of the other two starts is safe to enter. -/
theorem lockstep_enter {state : DuplexLinkState} (hstate : inAttempt state = false) :
    Lockstep (ClockPairs c) (Shifted c) (setState s state)
      (setState (s.shifted c attempt wait) state) :=
  lockstep_setState (reads_of_not_inAttempt hstate)

theorem Shifted.enter {state : DuplexLinkState} (h : Shifted c s s')
    (hstate : inAttempt state = false) :
    Lockstep (ClockPairs c) (Shifted c) (setState s state) (setState s' state) := by
  obtain ⟨attempt, wait, -, rfl⟩ := h
  exact lockstep_enter hstate

theorem Shifted.pushEvent (h : Shifted c s s') (event : DuplexLinkEvent) :
    Lockstep (ClockPairs c) (Shifted c) (s.pushEvent event) (s'.pushEvent event) := by
  obtain ⟨attempt, wait, h, rfl⟩ := h
  exact lockstep_pushEvent event h

theorem lockstep_finishFailedExchange :
    Lockstep (ClockPairs c) (Shifted c) (finishFailedExchange s)
      (finishFailedExchange (s.shifted c attempt wait)) := by
  refine .bind (lockstep_enter (s := { s with
    stats.failedExchanges := s.stats.failedExchanges + 1, requestActive := false }) rfl)
    fun t t' ht => ht.pushEvent _

theorem lockstep_retryOrFail :
    Lockstep (ClockPairs c) (Shifted c) (retryOrFail s)
      (retryOrFail (s.shifted c attempt wait)) := by
  rw [retryOrFail, retryOrFail]
  simp only [shifted_requestActive, shifted_retryCount, shifted_config]
  split
  · exact lockstep_enter rfl
  · split
    · refine .bind (lockstep_enter (s := { s with
        retryCount := s.retryCount + 1, stats.retries := s.stats.retries + 1 }) rfl) fun t t' ht => ?_
      obtain ⟨attempt, wait, h, rfl⟩ := ht
      exact (lockstep_ask rfl).bind fun _ _ _ => .pure ⟨attempt, wait, h, rfl⟩
    · exact lockstep_finishFailedExchange

theorem Shifted.retryOrFail (h : Shifted c s s') :
    Lockstep (ClockPairs c) (Shifted c) s.retryOrFail s'.retryOrFail := by
  obtain ⟨attempt, wait, -, rfl⟩ := h
  exact lockstep_retryOrFail

def ShiftedResult {α : Type} (c : UInt32) (x x' : α × DuplexLinkService) : Prop :=
  x.1 = x'.1 ∧ Shifted c x.2 x'.2

theorem lockstep_recoverRadio (errorCode : UInt16) (h : Reads c attempt wait s.state s) :
    Lockstep (ClockPairs c) (ShiftedResult c) (recoverRadio s errorCode)
      (recoverRadio (s.shifted c attempt wait) errorCode) := by
  refine (lockstep_ask rfl).bind ?_
  rintro recovered _ rfl
  cases recovered with
  | true => exact .pure ⟨rfl, attempt, wait, h, rfl⟩
  | false =>
    refine .bind (lockstep_enter (s := { s with
      stats.deviceErrors := s.stats.deviceErrors + 1 }) rfl) fun t t' ht => ?_
    exact (ht.pushEvent _).bind fun u u' hu => .pure ⟨rfl, hu⟩

theorem lockstep_handleDeviceError (errorCode : UInt16) (h : Reads c attempt wait s.state s) :
    Lockstep (ClockPairs c) (Shifted c) (handleDeviceError s errorCode)
      (handleDeviceError (s.shifted c attempt wait) errorCode) := by
  refine .bind (lockstep_pushEvent (s := { s with
    stats.deviceErrors := s.stats.deviceErrors + 1 }) _ ⟨h.attempt, h.wait⟩) ?_
  rintro t _ ⟨attempt, wait, h, rfl⟩
  refine (lockstep_ask rfl).bind ?_
  rintro recovered _ rfl
  simp only [shifted_config, shifted_requestActive]
  cases recovered with
  | true =>
    simp only [if_true]
    split
    · exact lockstep_enter rfl
    · split
      · exact lockstep_retryOrFail
      · exact lockstep_enter rfl
  | false => exact lockstep_enter rfl

theorem buildResponse_shifted (request : LinkPacket) :
    buildResponse (s.shifted c attempt wait) request =
      (buildResponse s request).map (shifted c attempt wait) := by
  have hresponse : (s.shifted c attempt wait).response request = s.response request := rfl
  rw [buildResponse, buildResponse, hresponse]
  cases (s.response request).encode linkPacketEncodedSize with
  | error status => rfl
  | ok frame => rfl

theorem lockstep_handleResponderFrame (frame : PacketRadioRxFrame)
    (h : Reads c attempt wait s.state s) :
    Lockstep (ClockPairs c) (Shifted c) (handleResponderFrame s frame)
      (handleResponderFrame (s.shifted c attempt wait) frame) := by
  rw [handleResponderFrame, handleResponderFrame, shifted_config]
  cases LinkPacket.decode frame.data s.config.localNodeId with
  | error status =>
    refine (lockstep_publishInvalid _ _ _ _ h).bind fun t t' ht => ht.enter rfl
  | ok request =>
    have hcounted : Reads c attempt wait s.state
        { s with stats.rxPackets := s.stats.rxPackets + 1 } := ⟨h.attempt, h.wait⟩
    simp only [shifted_hasLastRemoteSequence, shifted_lastRemoteSequence]
    split
    · exact (lockstep_publishInvalid _ _ _ _ hcounted).bind fun t t' ht => ht.enter rfl
    · split
      · exact (lockstep_publishInvalid _ _ _ _ hcounted).bind fun t t' ht => ht.enter rfl
      · split
        · refine (lockstep_pushEvent (s := { s with
            stats.rxPackets := s.stats.rxPackets + 1
            stats.duplicatePackets := s.stats.duplicatePackets + 1 }) _
            ⟨h.attempt, h.wait⟩).bind ?_
          rintro t _ ⟨attempt, wait, ht, rfl⟩
          simp only [shifted_hasCachedResponse]
          split
          · exact lockstep_enter rfl
          · exact lockstep_enter rfl
        · refine (lockstep_pushEvent (s := { s with
            stats.rxPackets := s.stats.rxPackets + 1
            hasLastRemoteSequence := true
            lastRemoteSequence := request.sequence
            lastRemoteMessageType := request.messageType }) _ ⟨h.attempt, h.wait⟩).bind ?_
          rintro t _ ⟨attempt, wait, ht, rfl⟩
          rw [buildResponse_shifted]
          cases buildResponse t request with
          | none => exact lockstep_handleDeviceError _ ht
          | some built => exact lockstep_enter rfl

theorem lockstep_handleInitiatorFrame (frame : PacketRadioRxFrame)
    (h : Reads c attempt wait s.state s) (hstate : s.state = .waitResponse) :
    Lockstep (ClockPairs c) (Shifted c) (handleInitiatorFrame s frame)
      (handleInitiatorFrame (s.shifted c attempt wait) frame) := by
  rw [handleInitiatorFrame, handleInitiatorFrame, shifted_config]
  cases LinkPacket.decode frame.data s.config.localNodeId with
  | error status =>
    exact (lockstep_publishInvalid _ _ _ _ h).bind fun t t' ht => ht.retryOrFail
  | ok response =>
    obtain rfl : attempt = s.attemptStartedMs + c := by
      refine h.attempt ?_
      rw [hstate]
      rfl
    have hcounted : Reads c (s.attemptStartedMs + c) wait s.state
        { s with stats.rxPackets := s.stats.rxPackets + 1 } := ⟨h.attempt, h.wait⟩
    simp only [shifted_pendingRequest, shifted_attemptStartedMs]
    split
    · exact (lockstep_publishInvalid _ _ _ _ hcounted).bind fun t t' ht => ht.retryOrFail
    · split
      · exact (lockstep_publishInvalid _ _ _ _ hcounted).bind fun t t' ht => ht.retryOrFail
      · split
        · exact (lockstep_publishInvalid _ _ _ _ hcounted).bind fun t t' ht => ht.retryOrFail
        · refine (lockstep_elapsedMs _).bind ?_
          rintro rttMs _ rfl
          refine .bind (lockstep_enter (s := { s with
            stats.rxPackets := s.stats.rxPackets + 1
            stats.completedExchanges := s.stats.completedExchanges + 1
            requestActive := false }) rfl) fun t t' ht => ht.pushEvent _

theorem lockstep_handleRxDone (h : Reads c attempt wait s.state s) :
    Lockstep (ClockPairs c) (Shifted c) (handleRxDone s)
      (handleRxDone (s.shifted c attempt wait)) := by
  refine (lockstep_ask rfl).bind ?_
  rintro received _ rfl
  cases received with
  | none =>
    refine (lockstep_publishInvalid _ _ _ _ h).bind ?_
    rintro t _ ⟨attempt, wait, -, rfl⟩
    simp only [shifted_config]
    split
    · exact lockstep_enter rfl
    · exact lockstep_retryOrFail
  | some frame =>
    simp only [shifted_config, shifted_state, shifted_requestActive]
    split
    · exact lockstep_handleResponderFrame frame h
    · split
      · rename_i hstate
        exact lockstep_handleInitiatorFrame frame h hstate.2.1
      · exact lockstep_publishInvalid _ _ _ _ h

/-! ## A round of the service -/

theorem lockstep_handleRadioEvent (event : PacketRadioEvent) (h : Shifted c s s') :
    Lockstep (ClockPairs c) (Shifted c) (handleRadioEvent s event)
      (handleRadioEvent s' event) := by
  obtain ⟨attempt, wait, h, rfl⟩ := h
  rw [handleRadioEvent, handleRadioEvent]
  cases event.type with
  | none => exact .pure ⟨attempt, wait, h, rfl⟩
  | txDone =>
    simp only [shifted_state]
    split
    · rename_i hstate
      refine lockstep_setState ⟨fun _ => h.attempt ?_, nofun⟩
      rw [hstate]
      rfl
    · split
      · exact lockstep_enter rfl
      · exact .pure ⟨attempt, wait, h, rfl⟩
  | rxDone => exact lockstep_handleRxDone h
  | rxTimeout =>
    simp only [shifted_config, shifted_state]
    split
    · exact lockstep_retryOrFail (s := { s with stats.timeouts := s.stats.timeouts + 1 })
    · split
      · exact lockstep_enter (s := { s with stats.timeouts := s.stats.timeouts + 1 }) rfl
      · exact .pure ⟨attempt, wait, ⟨h.attempt, h.wait⟩, rfl⟩
  | crcError =>
    simp only [shifted_config, shifted_requestActive]
    split
    · exact lockstep_retryOrFail
        (s := { s with stats.radioCrcErrors := s.stats.radioCrcErrors + 1 })
    · split
      · exact lockstep_enter
          (s := { s with stats.radioCrcErrors := s.stats.radioCrcErrors + 1 }) rfl
      · exact .pure ⟨attempt, wait, ⟨h.attempt, h.wait⟩, rfl⟩
  | deviceError => exact lockstep_handleDeviceError _ h

theorem lockstep_responseTimedOut (h : Reads c attempt wait s.state s) :
    Lockstep (ClockPairs c) (· = ·) (responseTimedOut s)
      (responseTimedOut (s.shifted c attempt wait)) := by
  rw [responseTimedOut, responseTimedOut]
  simp only [shifted_state, shifted_config, shifted_responseWaitStartedMs]
  split
  · rename_i hstate
    rw [h.wait hstate]
    refine (lockstep_elapsedMs _).bind ?_
    rintro elapsed _ rfl
    exact .pure rfl
  · exact .pure rfl

theorem lockstep_transmissionTimedOut :
    Lockstep (ClockPairs c) (· = ·) (transmissionTimedOut s)
      (transmissionTimedOut (s.shifted c attempt wait)) := by
  rw [transmissionTimedOut, transmissionTimedOut]
  simp only [shifted_state, shifted_config, shifted_stateStartedMs]
  split
  · refine (lockstep_elapsedMs _).bind ?_
    rintro elapsed _ rfl
    exact .pure rfl
  · exact .pure rfl

theorem lockstep_operationTimedOut :
    Lockstep (ClockPairs c) (· = ·) (operationTimedOut s)
      (operationTimedOut (s.shifted c attempt wait)) := by
  refine (lockstep_elapsedMs _).bind ?_
  rintro elapsed _ rfl
  exact .pure rfl

theorem lockstep_processTimeouts (h : Shifted c s s') :
    Lockstep (ClockPairs c) (Shifted c) (processTimeouts s) (processTimeouts s') := by
  obtain ⟨attempt, wait, h, rfl⟩ := h
  have hcounted : Reads c attempt wait s.state
      { s with stats.timeouts := s.stats.timeouts + 1 } := ⟨h.attempt, h.wait⟩
  have hrecover := lockstep_recoverRadio
    (s := { s with stats.timeouts := s.stats.timeouts + 1 }) duplexLinkInternalError hcounted
  refine (lockstep_responseTimedOut h).bind ?_
  rintro late _ rfl
  cases late with
  | true =>
    refine hrecover.bind ?_
    rintro ⟨recovered, t⟩ ⟨_, t'⟩ ⟨rfl, ht⟩
    cases recovered with
    | true => exact ht.retryOrFail
    | false => exact .pure ht
  | false =>
    refine lockstep_transmissionTimedOut.bind ?_
    rintro late _ rfl
    cases late with
    | true =>
      refine hrecover.bind ?_
      rintro ⟨recovered, t⟩ ⟨_, t'⟩ ⟨rfl, ht⟩
      cases recovered with
      | true =>
        have hstate : t'.state = t.state := by
          obtain ⟨attempt, wait, -, rfl⟩ := ht
          rfl
        simp only [not_true_eq_false, if_false, hstate]
        split
        · exact ht.retryOrFail
        · exact ht.enter rfl
      | false => exact .pure ht
    | false => exact .pure ⟨attempt, wait, h, rfl⟩

theorem lockstep_refused (h : Reads c attempt wait s.state s)
    {k k' : Bool × DuplexLinkService → LinkProg DuplexLinkService}
    (hk : ∀ recovered t t', Shifted c t t' →
      Lockstep (ClockPairs c) (Shifted c) (k (recovered, t)) (k' (recovered, t'))) :
    Lockstep (ClockPairs c) (Shifted c)
      (operationTimedOut s >>= fun late =>
        if late then recoverRadio s duplexLinkInternalError >>= k else pure s)
      (operationTimedOut (s.shifted c attempt wait) >>= fun late =>
        if late then recoverRadio (s.shifted c attempt wait) duplexLinkInternalError >>= k'
        else pure (s.shifted c attempt wait)) := by
  refine lockstep_operationTimedOut.bind ?_
  rintro late _ rfl
  cases late with
  | true =>
    refine (lockstep_recoverRadio duplexLinkInternalError h).bind ?_
    rintro ⟨recovered, t⟩ ⟨_, t'⟩ ⟨rfl, ht⟩
    exact hk recovered t t' ht
  | false => exact .pure ⟨attempt, wait, h, rfl⟩

theorem lockstep_restart (h : Shifted c s s') :
    Lockstep (ClockPairs c) (Shifted c)
      (LinkProg.nowMs >>= fun now => pure { s with stateStartedMs := now })
      (LinkProg.nowMs >>= fun now => pure { s' with stateStartedMs := now }) := by
  obtain ⟨attempt, wait, h, rfl⟩ := h
  refine lockstep_nowMs.bind ?_
  rintro now _ rfl
  exact .pure ⟨attempt, wait, ⟨h.attempt, h.wait⟩, rfl⟩

theorem lockstep_processStateAction (h : Shifted c s s') :
    Lockstep (ClockPairs c) (Shifted c) (processStateAction s) (processStateAction s') := by
  obtain ⟨attempt, wait, h, rfl⟩ := h
  rw [processStateAction, processStateAction, shifted_state]
  cases hstate : s.state with
  | startRequestTx =>
    refine (lockstep_ask rfl).bind ?_
    rintro started _ rfl
    cases started with
    | true =>
      refine lockstep_nowMs.bind ?_
      rintro now _ rfl
      exact lockstep_setState (s := { s with
        attemptCount := s.attemptCount + 1
        stats.txPackets := s.stats.txPackets + 1
        attemptStartedMs := now }) ⟨fun _ => rfl, nofun⟩
    | false => exact lockstep_refused h fun _ _ _ ht => lockstep_restart ht
  | startResponseRx =>
    refine (lockstep_ask rfl).bind ?_
    rintro started _ rfl
    cases started with
    | true =>
      refine lockstep_nowMs.bind ?_
      rintro now _ rfl
      refine lockstep_setState (s := { s with responseWaitStartedMs := now })
        ⟨fun _ => h.attempt ?_, fun _ => rfl⟩
      rw [hstate]
      rfl
    | false =>
      refine lockstep_refused h fun recovered t t' ht => ?_
      cases recovered with
      | true => exact ht.retryOrFail
      | false => exact .pure ht
  | startResponderRx =>
    refine (lockstep_ask rfl).bind ?_
    rintro started _ rfl
    cases started with
    | true => exact lockstep_enter rfl
    | false =>
      refine lockstep_refused h fun recovered t t' ht => ?_
      cases recovered with
      | true => exact lockstep_restart ht
      | false => exact .pure ht
  | startResponseTx =>
    have hrecovered : ∀ recovered t t', Shifted c t t' → Lockstep (ClockPairs c) (Shifted c)
        (if recovered = true then setState t .startResponderRx else pure t)
        (if recovered = true then setState t' .startResponderRx else pure t') := by
      intro recovered t t' ht
      cases recovered with
      | true => exact ht.enter rfl
      | false => exact .pure ht
    simp only [shifted_hasCachedResponse, shifted_cachedResponseFrame]
    split
    · refine (lockstep_ask rfl).bind ?_
      rintro started _ rfl
      cases started with
      | true =>
        exact lockstep_enter (s := { s with stats.txPackets := s.stats.txPackets + 1 }) rfl
      | false => exact lockstep_refused h hrecovered
    · exact lockstep_refused h hrecovered
  | _ => exact .pure ⟨attempt, wait, h, rfl⟩

theorem Shifted.state_eq (h : Shifted c s s') : s'.state = s.state := by
  obtain ⟨attempt, wait, -, rfl⟩ := h
  rfl

theorem lockstep_pollEvents (bound : Nat) (h : Shifted c s s') :
    Lockstep (ClockPairs c) (Option.Rel (Shifted c)) (pollEvents bound s)
      (pollEvents bound s') := by
  induction bound generalizing s s' with
  | zero => exact .pure .none
  | succ bound ih =>
    refine (lockstep_ask rfl).bind ?_
    rintro event _ rfl
    cases event with
    | none => exact .pure (.some h)
    | some event =>
      refine (lockstep_handleRadioEvent event h).bind fun t t' ht => ?_
      rw [ht.state_eq]
      split
      · exact .pure (.some ht)
      · exact ih ht

theorem Shifted.getStats_eq (h : Shifted c s s') : s'.getStats = s.getStats := by
  obtain ⟨attempt, wait, -, rfl⟩ := h
  rfl

theorem Shifted.events_eq (h : Shifted c s s') : s'.events = s.events := by
  obtain ⟨attempt, wait, -, rfl⟩ := h
  rfl

/-- **A call of `duplex_link_service_process`.** -/
theorem lockstep_process (bound : Nat) (h : Shifted c s s') :
    Lockstep (ClockPairs c) (Option.Rel (Shifted c)) (process bound s) (process bound s') := by
  rw [process, process, h.state_eq]
  split
  · exact .pure (.some h)
  · refine (lockstep_ask rfl).bind fun _ _ _ => ?_
    refine (lockstep_pollEvents bound h).bind ?_
    rintro _ _ (@⟨t, t', ht⟩ | _)
    · simp only [ht.state_eq]
      split
      · exact .pure (.some ht)
      · refine (lockstep_processTimeouts ht).bind fun u u' hu => ?_
        rw [hu.state_eq]
        split
        · exact (lockstep_processStateAction hu).bind fun v v' hv => .pure (.some hv)
        · exact .pure (.some hu)
    · exact .pure .none

/-! ## The calls of the application -/

theorem lockstep_prepareRequest (messageType : LinkMessageType) (payload : List UInt8)
    (h : Shifted c s s') :
    Lockstep (ClockPairs c) (ShiftedResult c) (prepareRequest s messageType payload)
      (prepareRequest s' messageType payload) := by
  obtain ⟨attempt, wait, h, rfl⟩ := h
  rw [prepareRequest, prepareRequest]
  simp only [shifted_config, shifted_state, shifted_requestActive, shifted_nextSequence]
  split
  · exact .pure ⟨rfl, attempt, wait, h, rfl⟩
  · split
    · exact .pure ⟨rfl, attempt, wait, h, rfl⟩
    · rename_i frame _
      refine .bind (lockstep_enter (s := { s with
        pendingRequestFrame := frame
        pendingRequest := _
        nextSequence := s.nextSequence + 1
        requestActive := true
        retryCount := 0
        attemptCount := 0 }) rfl) fun t t' ht => .pure ⟨rfl, ht⟩

theorem lockstep_init (config : DuplexLinkConfig) :
    Lockstep (ClockPairs c) (Option.Rel (Shifted c)) (init config) (init config) := by
  rw [init]
  split
  · exact .pure .none
  · refine lockstep_nowMs.bind ?_
    rintro now _ rfl
    refine .pure (.some ⟨0, 0, reads_of_not_inAttempt ?_, rfl⟩)
    cases config.role with
    | initiator => rfl
    | responder => rfl

end DuplexLinkService

/-! ## The calls -/

inductive LinkCall
  | setResponsePayload (payload : List UInt8)
  | startData (payload : List UInt8)
  | startPing (payload : List UInt8)
  | process
  | takeEvent
  | getState
  | isBusy
  | getStats
  deriving DecidableEq, Repr

inductive LinkResult
  | accepted (accepted : Bool)
  | processed
  | event (event : Option DuplexLinkEvent)
  | state (state : DuplexLinkState)
  | busy (busy : Bool)
  | stats (stats : DuplexLinkStats)
  deriving DecidableEq

namespace LinkCall

/-- `none` when the bound ends `duplex_link_service_process`. -/
def run (bound : Nat) (service : DuplexLinkService) :
    LinkCall → LinkProg (Option (LinkResult × DuplexLinkService))
  | setResponsePayload payload =>
    let (accepted, service) := service.setResponsePayload payload
    pure (some (.accepted accepted, service))
  | startData payload => do
    let (accepted, service) ← service.startData payload
    pure (some (.accepted accepted, service))
  | startPing payload => do
    let (accepted, service) ← service.startPing payload
    pure (some (.accepted accepted, service))
  | process => do
    match ← service.process bound with
    | none => pure none
    | some service => pure (some (.processed, service))
  | takeEvent =>
    match service.takeEvent with
    | none => pure (some (.event none, service))
    | some (event, service) => pure (some (.event (some event), service))
  | getState => pure (some (.state service.getState, service))
  | isBusy => pure (some (.busy service.isBusy, service))
  | getStats => pure (some (.stats service.getStats, service))

def runAll (bound : Nat) (service : DuplexLinkService) :
    List LinkCall → LinkProg (Option (List LinkResult × DuplexLinkService))
  | [] => pure (some ([], service))
  | call :: calls => do
    match ← call.run bound service with
    | none => pure none
    | some (result, service) =>
      match ← runAll bound service calls with
      | none => pure none
      | some (results, service) => pure (some (result :: results, service))

/-- `duplex_link_service_init` and the calls after it; a refused configuration has none. -/
def session (bound : Nat) (config : DuplexLinkConfig) (calls : List LinkCall) :
    LinkProg (Option (List LinkResult × Option DuplexLinkService)) := do
  match ← DuplexLinkService.init config with
  | none => pure (some ([.accepted false], none))
  | some service =>
    match ← runAll bound service calls with
    | none => pure none
    | some (results, service) => pure (some (.accepted true :: results, some service))

/-! ## The calls in lockstep -/

open DuplexLinkService

variable {c : UInt32} {s s' : DuplexLinkService}

theorem lockstep_run (bound : Nat) (call : LinkCall) (h : Shifted c s s') :
    Lockstep (ClockPairs c) (Option.Rel (ShiftedResult c)) (call.run bound s)
      (call.run bound s') := by
  cases call with
  | setResponsePayload payload =>
    obtain ⟨attempt, wait, h, rfl⟩ := h
    rw [run, run, DuplexLinkService.setResponsePayload, DuplexLinkService.setResponsePayload,
      shifted_config]
    by_cases hrefused : s.config.role ≠ .responder ∨ ¬ payloadLengthIsValid payload.length
    · rw [if_pos hrefused, if_pos hrefused]
      exact .pure (.some ⟨rfl, attempt, wait, h, rfl⟩)
    · rw [if_neg hrefused, if_neg hrefused]
      exact .pure (.some ⟨rfl, attempt, wait, ⟨h.attempt, h.wait⟩, rfl⟩)
  | startData payload =>
    refine (lockstep_prepareRequest .data payload h).bind ?_
    rintro ⟨accepted, t⟩ ⟨_, t'⟩ ⟨rfl, ht⟩
    exact .pure (.some ⟨rfl, ht⟩)
  | startPing payload =>
    refine (lockstep_prepareRequest .ping payload h).bind ?_
    rintro ⟨accepted, t⟩ ⟨_, t'⟩ ⟨rfl, ht⟩
    exact .pure (.some ⟨rfl, ht⟩)
  | process =>
    refine (lockstep_process bound h).bind ?_
    rintro _ _ (@⟨t, t', ht⟩ | _)
    · exact .pure (.some ⟨rfl, ht⟩)
    · exact .pure .none
  | takeEvent =>
    obtain ⟨attempt, wait, h, rfl⟩ := h
    rw [run, run, DuplexLinkService.takeEvent, DuplexLinkService.takeEvent, shifted_events]
    cases s.events.pop with
    | none => exact .pure (.some ⟨rfl, attempt, wait, h, rfl⟩)
    | some popped => exact .pure (.some ⟨rfl, attempt, wait, ⟨h.attempt, h.wait⟩, rfl⟩)
  | getState =>
    obtain ⟨attempt, wait, h, rfl⟩ := h
    exact .pure (.some ⟨rfl, attempt, wait, h, rfl⟩)
  | isBusy =>
    obtain ⟨attempt, wait, h, rfl⟩ := h
    exact .pure (.some ⟨rfl, attempt, wait, h, rfl⟩)
  | getStats =>
    obtain ⟨attempt, wait, h, rfl⟩ := h
    exact .pure (.some ⟨rfl, attempt, wait, h, rfl⟩)

theorem lockstep_runAll (bound : Nat) (calls : List LinkCall) (h : Shifted c s s') :
    Lockstep (ClockPairs c) (Option.Rel (ShiftedResult c)) (runAll bound s calls)
      (runAll bound s' calls) := by
  induction calls generalizing s s' with
  | nil => exact .pure (.some ⟨rfl, h⟩)
  | cons call calls ih =>
    refine (lockstep_run bound call h).bind ?_
    rintro _ _ (@⟨⟨result, t⟩, ⟨_, t'⟩, ⟨rfl, ht⟩⟩ | _)
    · refine (ih ht).bind ?_
      rintro _ _ (@⟨⟨results, u⟩, ⟨_, u'⟩, ⟨rfl, hu⟩⟩ | _)
      · exact .pure (.some ⟨rfl, hu⟩)
      · exact .pure .none
    · exact .pure .none

/-- The outcomes of two sessions: the same results, and services that differ in their starts. -/
def SameOutcome (c : UInt32) (x x' : List LinkResult × Option DuplexLinkService) : Prop :=
  x.1 = x'.1 ∧ Option.Rel (Shifted c) x.2 x'.2

theorem rel_final {x x' : Option (List LinkResult × Option DuplexLinkService)}
    (h : Option.Rel (SameOutcome c) x x') :
    Option.Rel (Shifted c) (x.bind Prod.snd) (x'.bind Prod.snd) := by
  cases h with
  | none => exact .none
  | some h => exact h.2

theorem lockstep_session (bound : Nat) (config : DuplexLinkConfig) (calls : List LinkCall) :
    Lockstep (ClockPairs c) (Option.Rel (SameOutcome c)) (session bound config calls)
      (session bound config calls) := by
  refine (lockstep_init config).bind ?_
  rintro _ _ (@⟨t, t', ht⟩ | _)
  · refine (lockstep_runAll bound calls ht).bind ?_
    rintro _ _ (@⟨⟨results, u⟩, ⟨_, u'⟩, ⟨rfl, hu⟩⟩ | _)
    · exact .pure (.some ⟨rfl, .some hu⟩)
    · exact .pure .none
  · exact .pure (.some ⟨rfl, .none⟩)

end LinkCall

/-! ## Two clocks -/

/-- A clock and a radio, which may depend on each other. -/
structure LinkEnv (σ : Type) where
  clock : σ → UInt32 × σ
  radio : (o : LinkOp) → σ → o.Ans × σ

namespace LinkEnv

variable {σ : Type}

theorem map_eq_of_rel {α β : Type} {R : α → α → Prop} {f : α → β} {x x' : Option α}
    (h : Option.Rel R x x') (hf : ∀ a a', R a a' → f a' = f a) : x'.map f = x.map f := by
  cases h with
  | none => rfl
  | some h => exact congrArg some (hf _ _ h)

/-- The answers to the calls of the service: `elapsed_ms` is the difference to `now_ms`, as in
`stm32_time_elapsed_ms`.  The log has the calls that do not read the clock. -/
def answer (env : LinkEnv σ) :
    (o : LinkOp) → σ × List LinkAction → o.Ans × (σ × List LinkAction)
  | .nowMs, (s, log) => ((env.clock s).1, (env.clock s).2, log)
  | .elapsedMs since, (s, log) => ((env.clock s).1 - since, (env.clock s).2, log)
  | .radioProcess, (s, log) => logged .radioProcess s log
  | .takeEvent, (s, log) => logged .takeEvent s log
  | .tryStartTx data, (s, log) => logged (.tryStartTx data) s log
  | .tryStartRx timeoutMs, (s, log) => logged (.tryStartRx timeoutMs) s log
  | .readRxFrame, (s, log) => logged .readRxFrame s log
  | .recover, (s, log) => logged .recover s log
  | .published event stored, (s, log) => logged (.published event stored) s log
  | .logRetry sequence retryCount maxRetries, (s, log) =>
    logged (.logRetry sequence retryCount maxRetries) s log
where
  logged (o : LinkOp) (s : σ) (log : List LinkAction) : o.Ans × (σ × List LinkAction) :=
    ((env.radio o s).1, (env.radio o s).2, log ++ [⟨o, (env.radio o s).1⟩])

/-- All readings of the clock moved by `c`, modulo `2^32`. -/
def shift (env : LinkEnv σ) (c : UInt32) : LinkEnv σ where
  clock s := ((env.clock s).1 + c, (env.clock s).2)
  radio := env.radio

theorem answer_shift (env : LinkEnv σ) {c : UInt32} {o o' : LinkOp} {C : o.Ans → o'.Ans → Prop}
    (h : ClockPairs c o o' C) (s : σ × List LinkAction) :
    C (env.answer o s).1 ((env.shift c).answer o' s).1 ∧
      (env.answer o s).2 = ((env.shift c).answer o' s).2 := by
  cases h with
  | now => exact ⟨rfl, rfl⟩
  | elapsed since =>
    refine ⟨?_, rfl⟩
    change (env.clock s.1).1 - since = (env.clock s.1).1 + c - (since + c)
    exact (add_sub_add_right_eq_sub _ _ _).symm
  | radio ho =>
    cases o with
    | nowMs => exact Bool.noConfusion ho
    | elapsedMs since => exact Bool.noConfusion ho
    | _ => exact ⟨rfl, rfl⟩

/-- **The start of the clock does not matter.** With all readings of the clock moved by `c`, a
session gives the same results, leaves the same statistics and the same events in the queue,
makes the same calls to the radio and publishes the same events. -/
theorem session_shift (env : LinkEnv σ) (c : UInt32) (bound : Nat) (config : DuplexLinkConfig)
    (calls : List LinkCall) (s : σ) :
    let r := Prog.exec env.answer (LinkCall.session bound config calls) (s, [])
    let r' := Prog.exec (env.shift c).answer (LinkCall.session bound config calls) (s, [])
    r'.1.map Prod.fst = r.1.map Prod.fst ∧
    (r'.1.bind Prod.snd).map DuplexLinkService.getStats =
      (r.1.bind Prod.snd).map DuplexLinkService.getStats ∧
    (r'.1.bind Prod.snd).map (·.events) = (r.1.bind Prod.snd).map (·.events) ∧
    r'.2 = r.2 := by
  intro r r'
  have hlockstep : Option.Rel (LinkCall.SameOutcome c) r.1 r'.1 ∧ r.2 = r'.2 :=
    (LinkCall.lockstep_session bound config calls).exec
      (fun ho s t hst => hst ▸ answer_shift env ho s) rfl
  obtain ⟨houtcome, hworld⟩ := hlockstep
  have hfinal := LinkCall.rel_final houtcome
  refine ⟨map_eq_of_rel houtcome fun _ _ h => h.1.symm, ?_, ?_, hworld.symm⟩
  · exact map_eq_of_rel hfinal fun _ _ h => h.getStats_eq
  · exact map_eq_of_rel hfinal fun _ _ h => h.events_eq

end LinkEnv

end RadioConnection
