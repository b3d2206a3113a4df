import RadioConnection.Link.Steps

/-!
# A whole call of the link service

What one call of `duplex_link_service_process` and of the functions of the
application can do, in the manner of `Steps.lean`.

* `ActionStep`: the last part of a call, which hands work to the radio.
* `Polled`, `Processed`: the event loop and the whole call; `trace_process`.
* `trace_process_none`: a call that runs out of its bound is in its event loop.
* `trace_prepareRequest`, `trace_init`: the calls that start a request and a
  service.
-/

namespace RadioConnection

namespace DuplexLinkService

open Interaction LinkProg
open Interaction.Prog

/-! ## The action of a state -/

abbrev atTx (frame : LinkFrame) (started : Bool) : LinkAction := ⟨.tryStartTx frame.toList, started⟩
abbrev atRx (timeoutMs : UInt32) (started : Bool) : LinkAction := ⟨.tryStartRx timeoutMs, started⟩

def countTx (stats : DuplexLinkStats) : DuplexLinkStats :=
  { stats with txPackets := stats.txPackets + 1 }

/-- The states in which `duplex_link_process_state_action` has something to do. -/
def startStates : List DuplexLinkState :=
  [.startRequestTx, .startResponseRx, .startResponderRx, .startResponseTx]

/-- The radio did not take what the state has for it. -/
inductive StartRefused (s : DuplexLinkService) : List LinkAction → Prop
  | requestTx : s.state = .startRequestTx → StartRefused s [atTx s.pendingRequestFrame false]
  | responseRx : s.state = .startResponseRx →
      StartRefused s [atRx s.config.responseTimeoutMs false]
  | responderRx : s.state = .startResponderRx → StartRefused s [atRx 0 false]
  | responseTx : s.state = .startResponseTx → s.hasCachedResponse = true →
      StartRefused s [atTx s.cachedResponseFrame false]
  | unanswered : s.state = .startResponseTx → s.hasCachedResponse = false → StartRefused s []

/-- The ways through `duplex_link_process_state_action`. -/
inductive ActionStep (s : DuplexLinkService) : List LinkAction → DuplexLinkService → Prop
  | none : s.state ∉ startStates → ActionStep s [] s
  | requestTx (now now' : UInt32) : s.state = .startRequestTx →
      ActionStep s [atTx s.pendingRequestFrame true, atNow now, atNow now']
        ((s.attempted now).goto .waitRequestTxDone now')
  | responseRx (now now' : UInt32) : s.state = .startResponseRx →
      ActionStep s [atRx s.config.responseTimeoutMs true, atNow now, atNow now']
        ((s.waitingSince now).goto .waitResponse now')
  | responderRx (now : UInt32) : s.state = .startResponderRx →
      ActionStep s [atRx 0 true, atNow now] (s.goto .responderRx now)
  | responseTx (now : UInt32) : s.state = .startResponseTx → s.hasCachedResponse = true →
      ActionStep s [atTx s.cachedResponseFrame true, atNow now]
        ((s.count countTx).goto .waitResponseTxDone now)
  | refused {tr : List LinkAction} (elapsed : UInt32) : StartRefused s tr →
      ¬ s.config.operationTimeoutMs ≤ elapsed →
      ActionStep s (tr ++ [atElapsed s.stateStartedMs elapsed]) s
  | requestLost (elapsed now now' : UInt32) : s.state = .startRequestTx →
      s.config.operationTimeoutMs ≤ elapsed →
      ActionStep s
        [atTx s.pendingRequestFrame false, atElapsed s.stateStartedMs elapsed, atRecover false,
          atNow now, atPush s (recoveryEvent duplexLinkInternalError), atNow now']
        ((s.lost now duplexLinkInternalError).restarted now')
  | requestRestarted (elapsed now : UInt32) : s.state = .startRequestTx →
      s.config.operationTimeoutMs ≤ elapsed →
      ActionStep s
        [atTx s.pendingRequestFrame false, atElapsed s.stateStartedMs elapsed, atRecover true,
          atNow now]
        (s.restarted now)
  | lost {tr : List LinkAction} (elapsed now : UInt32) : StartRefused s tr →
      s.state ≠ .startRequestTx → s.config.operationTimeoutMs ≤ elapsed →
      ActionStep s
        (tr ++ [atElapsed s.stateStartedMs elapsed, atRecover false, atNow now,
          atPush s (recoveryEvent duplexLinkInternalError)])
        (s.lost now duplexLinkInternalError)
  | responseRxRetry {tr : List LinkAction} {s' : DuplexLinkService} (elapsed : UInt32) :
      s.state = .startResponseRx → s.config.operationTimeoutMs ≤ elapsed → RetryOrFail s tr s' →
      ActionStep s
        (atRx s.config.responseTimeoutMs false :: atElapsed s.stateStartedMs elapsed ::
          atRecover true :: tr) s'
  | responderRestarted (elapsed now : UInt32) : s.state = .startResponderRx →
      s.config.operationTimeoutMs ≤ elapsed →
      ActionStep s [atRx 0 false, atElapsed s.stateStartedMs elapsed, atRecover true, atNow now]
        (s.restarted now)
  | responseGivenUp {tr : List LinkAction} (elapsed now : UInt32) : s.state = .startResponseTx →
      StartRefused s tr → s.config.operationTimeoutMs ≤ elapsed →
      ActionStep s (tr ++ [atElapsed s.stateStartedMs elapsed, atRecover true, atNow now])
        (s.goto .startResponderRx now)

theorem trace_operationTimedOut {s : DuplexLinkService} {tr : List LinkAction} {out : Bool} :
    Trace (operationTimedOut s) tr out ↔ ∃ elapsed, tr = [atElapsed s.stateStartedMs elapsed] ∧
      out = decide (s.config.operationTimeoutMs ≤ elapsed) := by
  simp only [operationTimedOut, LinkProg.elapsedMs, trace_bind_iff, trace_ask_iff, trace_pure_iff]
  constructor
  · rintro ⟨elapsed, _, _, rfl, ⟨rfl, rfl⟩, rfl⟩
    exact ⟨elapsed, rfl, rfl⟩
  · rintro ⟨elapsed, rfl, rfl⟩
    exact ⟨elapsed, _, _, rfl, ⟨rfl, rfl⟩, rfl⟩

/-- What follows a refused start, in each of the four states alike: nothing until
the operation time-out, then a recovery and what the state does after it. -/
theorem trace_afterRefusal {s s' : DuplexLinkService}
    {next : Bool × DuplexLinkService → LinkProg DuplexLinkService} {tr : List LinkAction}
    (h : Trace (do
      if ← operationTimedOut s then
        let recovered ← recoverRadio s duplexLinkInternalError
        next recovered
      else pure s) tr s') :
    ∃ elapsed tr', tr = atElapsed s.stateStartedMs elapsed :: tr' ∧
      ((¬ s.config.operationTimeoutMs ≤ elapsed ∧ tr' = [] ∧ s' = s) ∨
      (s.config.operationTimeoutMs ≤ elapsed ∧ ∃ tr₂, tr' = atRecover true :: tr₂ ∧
        Trace (next (true, s)) tr₂ s') ∨
      (s.config.operationTimeoutMs ≤ elapsed ∧ ∃ now tr₂,
        tr' = atRecover false :: atNow now ::
          atPush s (recoveryEvent duplexLinkInternalError) :: tr₂ ∧
        Trace (next (false, s.lost now duplexLinkInternalError)) tr₂ s')) := by
  rw [trace_bind_iff] at h
  obtain ⟨out, _, t, h₁, h, rfl⟩ := h
  obtain ⟨elapsed, rfl, rfl⟩ := trace_operationTimedOut.mp h₁
  refine ⟨elapsed, t, rfl, ?_⟩
  by_cases ho : s.config.operationTimeoutMs ≤ elapsed
  · simp only [ho, decide_true, if_true, trace_bind_iff] at h
    obtain ⟨⟨recovered, s₁⟩, _, t₂, hr, h, rfl⟩ := h
    rcases trace_recoverRadio.mp hr with ⟨rfl, rfl, rfl⟩ | ⟨rfl, now, rfl, rfl⟩
    · exact .inr (.inl ⟨ho, t₂, rfl, h⟩)
    · exact .inr (.inr ⟨ho, now, t₂, rfl, h⟩)
  · simp only [ho, decide_false, Bool.false_eq_true, if_false, trace_pure_iff] at h
    exact .inl ⟨ho, h.1, h.2⟩

theorem trace_startRequestTx {s s' : DuplexLinkService} {tr : List LinkAction}
    (hs : s.state = .startRequestTx) (h : Trace (processStateAction s) tr s') :
    ActionStep s tr s' := by
  simp only [processStateAction, hs] at h
  rw [trace_bind_iff] at h
  obtain ⟨started, _, t, h₁, h, rfl⟩ := h
  obtain rfl := trace_ask_iff.mp h₁
  cases started with
  | true =>
    simp only [if_true, nowMs, trace_bind_iff, trace_ask_iff, trace_setState] at h
    obtain ⟨now, _, _, rfl, ⟨now', rfl, rfl⟩, rfl⟩ := h
    exact .requestTx now now' hs
  | false =>
    rw [if_neg Bool.false_ne_true] at h
    replace h := trace_afterRefusal h
    obtain ⟨elapsed, t, rfl, ⟨ho, rfl, rfl⟩ | ⟨ho, t₂, rfl, h⟩ | ⟨ho, now, t₂, rfl, h⟩⟩ := h
    · exact .refused elapsed (.requestTx hs) ho
    · simp only [nowMs, trace_bind_iff, trace_ask_iff, trace_pure_iff] at h
      obtain ⟨now, _, _, rfl, ⟨rfl, rfl⟩, rfl⟩ := h
      exact .requestRestarted elapsed now hs ho
    · simp only [nowMs, trace_bind_iff, trace_ask_iff, trace_pure_iff] at h
      obtain ⟨now', _, _, rfl, ⟨rfl, rfl⟩, rfl⟩ := h
      exact .requestLost elapsed now now' hs ho

theorem trace_startResponseRx {s s' : DuplexLinkService} {tr : List LinkAction}
    (hs : s.state = .startResponseRx) (h : Trace (processStateAction s) tr s') :
    ActionStep s tr s' := by
  have hne : s.state ≠ .startRequestTx := by simp [hs]
  simp only [processStateAction, hs] at h
  rw [trace_bind_iff] at h
  obtain ⟨started, _, t, h₁, h, rfl⟩ := h
  obtain rfl := trace_ask_iff.mp h₁
  cases started with
  | true =>
    simp only [if_true, nowMs, trace_bind_iff, trace_ask_iff, trace_setState] at h
    obtain ⟨now, _, _, rfl, ⟨now', rfl, rfl⟩, rfl⟩ := h
    exact .responseRx now now' hs
  | false =>
    rw [if_neg Bool.false_ne_true] at h
    replace h := trace_afterRefusal h
    obtain ⟨elapsed, t, rfl, ⟨ho, rfl, rfl⟩ | ⟨ho, t₂, rfl, h⟩ | ⟨ho, now, t₂, rfl, h⟩⟩ := h
    · exact .refused elapsed (.responseRx hs) ho
    · exact .responseRxRetry elapsed hs ho (trace_retryOrFail h)
    · obtain ⟨rfl, rfl⟩ := trace_pure_iff.mp h
      exact .lost elapsed now (.responseRx hs) hne ho

theorem trace_startResponderRx {s s' : DuplexLinkService} {tr : List LinkAction}
    (hs : s.state = .startResponderRx) (h : Trace (processStateAction s) tr s') :
    ActionStep s tr s' := by
  have hne : s.state ≠ .startRequestTx := by simp [hs]
  simp only [processStateAction, hs] at h
  rw [trace_bind_iff] at h
  obtain ⟨started, _, t, h₁, h, rfl⟩ := h
  obtain rfl := trace_ask_iff.mp h₁
  cases started with
  | true =>
    obtain ⟨now, rfl, rfl⟩ := trace_setState.mp h
    exact .responderRx now hs
  | false =>
    rw [if_neg Bool.false_ne_true] at h
    replace h := trace_afterRefusal h
    obtain ⟨elapsed, t, rfl, ⟨ho, rfl, rfl⟩ | ⟨ho, t₂, rfl, h⟩ | ⟨ho, now, t₂, rfl, h⟩⟩ := h
    · exact .refused elapsed (.responderRx hs) ho
    · simp only [if_true, nowMs, trace_bind_iff, trace_ask_iff, trace_pure_iff] at h
      obtain ⟨now, _, _, rfl, ⟨rfl, rfl⟩, rfl⟩ := h
      exact .responderRestarted elapsed now hs ho
    · obtain ⟨rfl, rfl⟩ := trace_pure_iff.mp h
      exact .lost elapsed now (.responderRx hs) hne ho

theorem trace_responseRefused {s s' : DuplexLinkService} {first tr : List LinkAction}
    (hs : s.state = .startResponseTx) (hr : StartRefused s first) (h : Trace (do
      if ← operationTimedOut s then
        let (recovered, s) ← recoverRadio s duplexLinkInternalError
        if recovered then setState s .startResponderRx else pure s
      else pure s) tr s') : ActionStep s (first ++ tr) s' := by
  have hne : s.state ≠ .startRequestTx := by simp [hs]
  replace h := trace_afterRefusal h
  obtain ⟨elapsed, t, rfl, ⟨ho, rfl, rfl⟩ | ⟨ho, t₂, rfl, h⟩ | ⟨ho, now, t₂, rfl, h⟩⟩ := h
  · exact .refused elapsed hr ho
  · obtain ⟨now, rfl, rfl⟩ := trace_setState.mp h
    exact .responseGivenUp elapsed now hs hr ho
  · obtain ⟨rfl, rfl⟩ := trace_pure_iff.mp h
    exact .lost elapsed now hr hne ho

theorem trace_startResponseTx {s s' : DuplexLinkService} {tr : List LinkAction}
    (hs : s.state = .startResponseTx) (h : Trace (processStateAction s) tr s') :
    ActionStep s tr s' := by
  simp only [processStateAction, hs] at h
  split at h
  · rename_i hc
    rw [trace_bind_iff] at h
    obtain ⟨started, _, t, h₁, h, rfl⟩ := h
    obtain rfl := trace_ask_iff.mp h₁
    cases started with
    | true =>
      obtain ⟨now, rfl, rfl⟩ := trace_setState.mp h
      exact .responseTx now hs hc
    | false => exact trace_responseRefused hs (.responseTx hs hc) h
  · rename_i hc
    rw [trace_bind_iff] at h
    obtain ⟨started, _, t, h₁, h, rfl⟩ := h
    obtain ⟨rfl, rfl⟩ := trace_pure_iff.mp h₁
    exact trace_responseRefused hs (.unanswered hs (by simpa using hc)) h

theorem trace_processStateAction {s s' : DuplexLinkService} {tr : List LinkAction}
    (h : Trace (processStateAction s) tr s') : ActionStep s tr s' := by
  cases hs : s.state with
  | startRequestTx => exact trace_startRequestTx hs h
  | startResponseRx => exact trace_startResponseRx hs h
  | startResponderRx => exact trace_startResponderRx hs h
  | startResponseTx => exact trace_startResponseTx hs h
  | _ =>
    simp only [processStateAction, hs, trace_pure_iff] at h
    obtain ⟨rfl, rfl⟩ := h
    exact .none (by simp [hs, startStates])

/-! ## The event loop and the call -/

abbrev atRadioProcess : LinkAction := ⟨.radioProcess, ()⟩
abbrev atTake (event : Option PacketRadioEvent) : LinkAction := ⟨.takeEvent, event⟩

theorem trace_returned {s s' : DuplexLinkService} {tr : List LinkAction} :
    Trace (pure (some s) : LinkProg (Option DuplexLinkService)) tr (some s') ↔
      tr = [] ∧ s' = s := by
  rw [trace_pure_iff, Option.some_inj]

/-- The ways through the event loop. -/
inductive Polled : DuplexLinkService → List LinkAction → DuplexLinkService → Prop
  | empty (s : DuplexLinkService) : Polled s [atTake none] s
  | stop {s s' : DuplexLinkService} {event : PacketRadioEvent} {tr : List LinkAction} :
      EventStep s event tr s' → s'.state = .error → Polled s (atTake (some event) :: tr) s'
  | next {s s₁ s' : DuplexLinkService} {event : PacketRadioEvent} {tr tr' : List LinkAction} :
      EventStep s event tr s₁ → s₁.state ≠ .error → Polled s₁ tr' s' →
      Polled s (atTake (some event) :: (tr ++ tr')) s'

theorem trace_pollEvents {bound : Nat} {s s' : DuplexLinkService} {tr : List LinkAction}
    (h : Trace (pollEvents bound s) tr (some s')) : Polled s tr s' := by
  induction bound generalizing s tr with
  | zero => exact absurd (trace_pure_iff.mp h).2 (by simp)
  | succ bound ih =>
    rw [pollEvents, trace_bind_iff] at h
    obtain ⟨event, _, t, h₁, h, rfl⟩ := h
    obtain rfl := trace_ask_iff.mp h₁
    cases event with
    | none =>
      obtain ⟨rfl, rfl⟩ := trace_returned.mp h
      exact .empty s'
    | some event =>
      rw [trace_bind_iff] at h
      obtain ⟨s₁, t₁, t₂, h₁, h, rfl⟩ := h
      have he := trace_handleRadioEvent h₁
      split at h
      · rename_i hs
        obtain ⟨rfl, rfl⟩ := trace_returned.mp h
        rw [List.append_nil]
        exact .stop he hs
      · rename_i hs
        rw [List.singleton_append]
        exact .next he hs (ih h)

/-- The ways through `duplex_link_service_process`. -/
inductive Processed (s : DuplexLinkService) : List LinkAction → DuplexLinkService → Prop
  | off : s.state = .uninitialized ∨ s.state = .error → Processed s [] s
  | failed {tr : List LinkAction} {s' : DuplexLinkService} :
      s.state ≠ .uninitialized → s.state ≠ .error → Polled s tr s' → s'.state = .error →
      Processed s (atRadioProcess :: tr) s'
  | timedOut {tr tr' : List LinkAction} {s₁ s' : DuplexLinkService} :
      s.state ≠ .uninitialized → s.state ≠ .error → Polled s tr s₁ → s₁.state ≠ .error →
      TimeoutStep s₁ tr' s' → s'.state = .error → Processed s (atRadioProcess :: (tr ++ tr')) s'
  | ran {tr tr' tr'' : List LinkAction} {s₁ s₂ s' : DuplexLinkService} :
      s.state ≠ .uninitialized → s.state ≠ .error → Polled s tr s₁ → s₁.state ≠ .error →
      TimeoutStep s₁ tr' s₂ → s₂.state ≠ .error → ActionStep s₂ tr'' s' →
      Processed s (atRadioProcess :: (tr ++ (tr' ++ tr''))) s'

theorem trace_process {bound : Nat} {s s' : DuplexLinkService} {tr : List LinkAction}
    (h : Trace (process bound s) tr (some s')) : Processed s tr s' := by
  unfold process at h
  split at h
  · rename_i hs
    obtain ⟨rfl, rfl⟩ := trace_returned.mp h
    exact .off hs
  · rename_i hs
    rw [not_or] at hs
    rw [trace_bind_iff] at h
    obtain ⟨_, _, t, h₁, h, rfl⟩ := h
    obtain rfl := trace_ask_iff.mp h₁
    rw [trace_bind_iff] at h
    obtain ⟨polled, t₁, t₂, h₁, h, rfl⟩ := h
    cases polled with
    | none => exact absurd (trace_pure_iff.mp h).2 (by simp)
    | some s₁ =>
      have hp := trace_pollEvents h₁
      dsimp only at h
      split at h
      · rename_i hs₁
        obtain ⟨rfl, rfl⟩ := trace_returned.mp h
        rw [List.append_nil]
        exact .failed hs.1 hs.2 hp hs₁
      · rename_i hs₁
        rw [trace_bind_iff] at h
        obtain ⟨s₂, t₃, t₄, h₂, h, rfl⟩ := h
        have ht := trace_processTimeouts h₂
        split at h
        · rename_i hs₂
          rw [trace_bind_iff] at h
          obtain ⟨s₃, t₅, t₆, h₃, h, rfl⟩ := h
          obtain ⟨rfl, rfl⟩ := trace_returned.mp h
          rw [List.append_nil, List.singleton_append]
          exact .ran hs.1 hs.2 hp hs₁ ht hs₂ (trace_processStateAction h₃)
        · rename_i hs₂
          obtain ⟨rfl, rfl⟩ := trace_returned.mp h
          rw [List.append_nil, List.singleton_append]
          exact .timedOut hs.1 hs.2 hp hs₁ ht (not_not.mp hs₂)

theorem trace_process_none {bound : Nat} {s : DuplexLinkService} {tr : List LinkAction}
    (h : Trace (process bound s) tr none) :
    ∃ t, tr = atRadioProcess :: t ∧ Trace (pollEvents bound s) t none := by
  unfold process at h
  split at h
  · exact absurd (trace_pure_iff.mp h).2 (by simp)
  · rw [trace_bind_iff] at h
    obtain ⟨_, _, t, h₁, h, rfl⟩ := h
    obtain rfl := trace_ask_iff.mp h₁
    rw [trace_bind_iff] at h
    obtain ⟨polled, t₁, t₂, h₁, h, rfl⟩ := h
    cases polled with
    | none =>
      obtain ⟨rfl, -⟩ := trace_pure_iff.mp h
      exact ⟨t₁, by rw [List.append_nil, List.singleton_append], h₁⟩
    | some s₁ =>
      dsimp only at h
      split at h
      · exact absurd (trace_pure_iff.mp h).2 (by simp)
      · rw [trace_bind_iff] at h
        obtain ⟨s₂, _, _, -, h, -⟩ := h
        split at h
        · rw [trace_bind_iff] at h
          obtain ⟨_, _, _, -, h, -⟩ := h
          exact absurd (trace_pure_iff.mp h).2 (by simp)
        · exact absurd (trace_pure_iff.mp h).2 (by simp)

/-! ## The calls of the application -/

/-- The packet that `duplex_link_prepare_request` builds. -/
def request (s : DuplexLinkService) (messageType : LinkMessageType) (payload : List UInt8) :
    LinkPacket where
  messageType := messageType
  sourceId := s.config.localNodeId
  destinationId := s.config.peerNodeId
  sequence := s.nextSequence
  acknowledgedSequence := 0
  payloadLength := payload.length.toUInt8
  flags := linkPacketFlagNone
  payload := payloadBuffer payload

/-- What `duplex_link_prepare_request` checks. -/
structure CanRequest (s : DuplexLinkService) (messageType : LinkMessageType)
    (payload : List UInt8) : Prop where
  type : requestTypeIsValid messageType = true
  length : payloadLengthIsValid payload.length = true
  role : s.config.role = .initiator
  idle : s.state = .idle
  inactive : s.requestActive = false

theorem trace_prepareRequest {s s' : DuplexLinkService} {messageType : LinkMessageType}
    {payload : List UInt8} {started : Bool} {tr : List LinkAction}
    (h : Trace (prepareRequest s messageType payload) tr (started, s')) :
    (started = false ∧ tr = [] ∧ s' = s) ∨
    (started = true ∧ s.CanRequest messageType payload ∧ ∃ now, tr = [atNow now] ∧
      s' = (s.requested (s.request messageType payload)).goto .startRequestTx now) := by
  unfold prepareRequest at h
  split at h
  · obtain ⟨rfl, h⟩ := trace_pure_iff.mp h
    cases h
    exact .inl ⟨rfl, rfl, rfl⟩
  · rename_i hc
    simp only [not_or, Bool.not_eq_true, not_not, Bool.not_eq_false] at hc
    obtain ⟨ht, hl, hr, hi, ha⟩ := hc
    dsimp only at h
    split at h
    · obtain ⟨rfl, h⟩ := trace_pure_iff.mp h
      cases h
      exact .inl ⟨rfl, rfl, rfl⟩
    · rename_i frame he
      rw [LinkPacket.encode] at he
      split_ifs at he
      obtain rfl := Except.ok.inj he
      simp only [trace_bind_iff, trace_setState] at h
      obtain ⟨_, _, _, ⟨now, rfl, rfl⟩, h, rfl⟩ := h
      obtain ⟨rfl, h⟩ := trace_pure_iff.mp h
      cases h
      exact .inr ⟨rfl, ⟨ht, hl, hr, hi, ha⟩, now, rfl, rfl⟩

/-- The service that `duplex_link_service_init` sets up. -/
def initial (config : DuplexLinkConfig) (now : UInt32) : DuplexLinkService :=
  { cleared config with
    stateStartedMs := now
    state := match config.role with
      | .responder => .startResponderRx
      | .initiator => .idle }

theorem trace_init {config : DuplexLinkConfig} {s : DuplexLinkService} {tr : List LinkAction}
    (h : Trace (init config) tr (some s)) :
    configIsValid config = true ∧ ∃ now, tr = [atNow now] ∧ s = initial config now := by
  unfold init at h
  split at h
  · exact absurd (trace_pure_iff.mp h).2 (by simp)
  · rename_i hc
    simp only [nowMs, trace_bind_iff, trace_ask_iff, trace_pure_iff] at h
    obtain ⟨now, _, _, rfl, ⟨rfl, h⟩, rfl⟩ := h
    exact ⟨by simpa using hc, now, rfl, Option.some.inj h⟩

theorem takeEvent_eq_some {s s' : DuplexLinkService} {event : DuplexLinkEvent}
    (h : s.takeEvent = some (event, s')) :
    ∃ events, s.events.pop = some (event, events) ∧ s' = { s with events := events } := by
  rw [takeEvent, Option.map_eq_some_iff] at h
  obtain ⟨⟨_, events⟩, hp, h⟩ := h
  cases h
  exact ⟨events, hp, rfl⟩

/-- The length of a response payload is one that `setResponsePayload` lets through. -/
def PayloadReady (s : DuplexLinkService) : Prop :=
  LinkPacket.payloadLengthIsValid s.responsePayloadLength = true

theorem response_encode {s : DuplexLinkService} (h : PayloadReady s) (request : LinkPacket) :
    (s.response request).encode linkPacketEncodedSize = .ok (s.response request).frame := by
  refine LinkPacket.encode_eq_ok le_rfl ?_ h
  simp only [response, expectedResponseType]
  split <;> rfl

/-! ## Traces that happen -/

theorem trace_init_of {config : DuplexLinkConfig} (h : configIsValid config = true)
    (now : UInt32) : Trace (init config) [atNow now] (some (initial config now)) := by
  rw [init, if_neg (not_not.mpr h)]
  exact trace_bind_iff.mpr ⟨now, _, [], trace_ask_iff.mpr rfl, trace_pure_iff.mpr ⟨rfl, rfl⟩, rfl⟩

theorem payloadLengthIsValid_toUInt8 {payload : List UInt8}
    (h : payloadLengthIsValid payload.length = true) :
    LinkPacket.payloadLengthIsValid payload.length.toUInt8 = true := by
  simp only [payloadLengthIsValid, linkPacketPayloadSize, Bool.and_eq_true, decide_eq_true_eq] at h
  have hmod : payload.length % 256 = payload.length := Nat.mod_eq_of_lt (by omega)
  simp only [LinkPacket.payloadLengthIsValid, Nat.toUInt8_eq, UInt8.toNat_ofNat', hmod,
    linkPacketPayloadSize, Bool.and_eq_true, decide_eq_true_eq]
  exact h

theorem payloadBuffer_cleared {payload : List UInt8}
    (h : payloadLengthIsValid payload.length = true) :
    LinkPacket.copyPayload (payloadBuffer payload) payload.length.toUInt8.toNat =
      payloadBuffer payload := by
  simp only [payloadLengthIsValid, linkPacketPayloadSize, Bool.and_eq_true, decide_eq_true_eq] at h
  have hlength : payload.length.toUInt8.toNat = payload.length := by
    rw [Nat.toUInt8_eq, UInt8.toNat_ofNat', Nat.mod_eq_of_lt (by omega)]
  apply Vector.ext
  intro j hj
  simp only [LinkPacket.copyPayload, payloadBuffer, Vector.getElem_ofFn, hlength]
  split
  · rfl
  · rw [List.getD_eq_default _ _ (by omega)]

theorem copyPayload_copyPayload (payload : Vector UInt8 linkPacketPayloadSize) (length : Nat) :
    LinkPacket.copyPayload (LinkPacket.copyPayload payload length) length =
      LinkPacket.copyPayload payload length := by
  apply Vector.ext
  intro i hi
  simp only [LinkPacket.copyPayload, Vector.getElem_ofFn]
  split <;> rfl

theorem request_encode {s : DuplexLinkService} {messageType : LinkMessageType}
    {payload : List UInt8} (h : s.CanRequest messageType payload) :
    (s.request messageType payload).encode linkPacketEncodedSize =
      .ok (s.request messageType payload).frame := by
  refine LinkPacket.encode_eq_ok le_rfl ?_ (payloadLengthIsValid_toUInt8 h.length)
  have ht := h.type
  change LinkPacket.messageTypeIsValid messageType.code = true
  cases messageType <;> first | rfl | exact absurd ht (by decide)

theorem trace_prepareRequest_of {s : DuplexLinkService} {messageType : LinkMessageType}
    {payload : List UInt8} (h : s.CanRequest messageType payload) (now : UInt32) :
    Trace (prepareRequest s messageType payload) [atNow now]
      (true, (s.requested (s.request messageType payload)).goto .startRequestTx now) := by
  have hencode := request_encode h
  rw [request] at hencode
  rw [prepareRequest, if_neg (by simp [h.type, h.length, h.role, h.idle, h.inactive])]
  simp only [hencode]
  exact trace_bind_iff.mpr ⟨_, _, [], trace_setState.mpr ⟨now, rfl, rfl⟩,
    trace_pure_iff.mpr ⟨rfl, rfl⟩, rfl⟩

theorem trace_pollEvents_nil (bound : Nat) (s : DuplexLinkService) :
    Trace (pollEvents (bound + 1) s) [atTake none] (some s) :=
  trace_bind_iff.mpr ⟨none, _, [], trace_ask_iff.mpr rfl, trace_pure_iff.mpr ⟨rfl, rfl⟩, rfl⟩

theorem trace_pollEvents_cons {bound : Nat} {s s₁ s' : DuplexLinkService}
    {event : PacketRadioEvent} {tr tr' : List LinkAction}
    (h : Trace (handleRadioEvent s event) tr s₁) (he : s₁.state ≠ .error)
    (h' : Trace (pollEvents bound s₁) tr' (some s')) :
    Trace (pollEvents (bound + 1) s) (atTake (some event) :: (tr ++ tr')) (some s') := by
  rw [pollEvents]
  refine trace_bind_iff.mpr ⟨some event, [_], _, trace_ask_iff.mpr rfl, ?_, rfl⟩
  refine trace_bind_iff.mpr ⟨s₁, tr, tr', h, ?_, rfl⟩
  rwa [if_neg he]

/-- The states in which a time-out of `duplex_link_process_timeouts` runs. -/
def timedStates : List DuplexLinkState := [.waitRequestTxDone, .waitResponse, .waitResponseTxDone]

theorem trace_processTimeouts_nil {s : DuplexLinkService} (h : s.state ∉ timedStates) :
    Trace (processTimeouts s) [] s := by
  simp only [timedStates, List.mem_cons, List.not_mem_nil, or_false, not_or] at h
  obtain ⟨h₁, h₂, h₃⟩ := h
  simp [processTimeouts, responseTimedOut, transmissionTimedOut, h₁, h₂, h₃]

theorem trace_process_of {bound : Nat} {s s₁ s' : DuplexLinkService} {tr tr' : List LinkAction}
    (hu : s.state ≠ .uninitialized) (he : s.state ≠ .error)
    (hp : Trace (pollEvents bound s) tr (some s₁)) (he₁ : s₁.state ≠ .error)
    (ht : s₁.state ∉ timedStates) (ha : Trace (processStateAction s₁) tr' s') :
    Trace (process bound s) (atRadioProcess :: (tr ++ tr')) (some s') := by
  rw [process, if_neg (not_or.mpr ⟨hu, he⟩)]
  refine trace_bind_iff.mpr ⟨(), [atRadioProcess], _, trace_ask_iff.mpr rfl, ?_, rfl⟩
  refine trace_bind_iff.mpr ⟨some s₁, tr, _, hp, ?_, rfl⟩
  simp only [if_neg he₁]
  refine trace_bind_iff.mpr ⟨s₁, [], tr', trace_processTimeouts_nil ht, ?_, rfl⟩
  rw [if_pos he₁]
  exact trace_bind_iff.mpr ⟨s', tr', [], ha, trace_pure_iff.mpr ⟨rfl, rfl⟩,
    (List.append_nil _).symm⟩

theorem trace_action_none {s : DuplexLinkService} (h : s.state ∉ startStates) :
    Trace (processStateAction s) [] s := by
  cases hs : s.state <;> simp_all [startStates, processStateAction]

theorem trace_requestTx {s : DuplexLinkService} (hs : s.state = .startRequestTx)
    (now now' : UInt32) : Trace (processStateAction s)
      [atTx s.pendingRequestFrame true, atNow now, atNow now']
      ((s.attempted now).goto .waitRequestTxDone now') := by
  simp [processStateAction, hs, tryStartTx, nowMs, trace_setState, attempted]

theorem trace_responseRx {s : DuplexLinkService} (hs : s.state = .startResponseRx)
    (now now' : UInt32) : Trace (processStateAction s)
      [atRx s.config.responseTimeoutMs true, atNow now, atNow now']
      ((s.waitingSince now).goto .waitResponse now') := by
  simp [processStateAction, hs, tryStartRx, nowMs, trace_setState, waitingSince]

abbrev txDone : PacketRadioEvent := ⟨.txDone, 0⟩
abbrev rxDone : PacketRadioEvent := ⟨.rxDone, 0⟩
abbrev rxTimeout : PacketRadioEvent := ⟨.rxTimeout, 0⟩

theorem trace_requestSent {s : DuplexLinkService} (hs : s.state = .waitRequestTxDone)
    (now : UInt32) :
    Trace (handleRadioEvent s txDone) [atNow now] (s.goto .startResponseRx now) := by
  simp [handleRadioEvent, hs, trace_setState, goto]

theorem trace_requestGivenUp {s : DuplexLinkService} (hr : s.config.role = .initiator)
    (hs : s.state = .waitResponse) (ha : s.requestActive = true)
    (hretry : ¬ s.retryCount < s.config.maxRetries) (now : UInt32) :
    Trace (handleRadioEvent s rxTimeout) [atNow now, atPush s s.failedEvent]
      (((s.count countTimeout).gaveUp.goto .idle now).pushed s.failedEvent) := by
  have hfail := (trace_finishFailedExchange (s := s.count countTimeout)).mpr ⟨now, rfl, rfl⟩
  have hgive : retryOrFail (s.count countTimeout) = finishFailedExchange (s.count countTimeout) := by
    unfold retryOrFail
    exact (if_neg (not_not.mpr ha)).trans (if_neg hretry)
  have hevent : handleRadioEvent s rxTimeout = retryOrFail (s.count countTimeout) :=
    if_pos ⟨hr, hs⟩
  rw [hevent, hgive]
  exact hfail

theorem trace_requestRetried {s : DuplexLinkService} (hr : s.config.role = .initiator)
    (hs : s.state = .waitResponse) (ha : s.requestActive = true)
    (hretry : s.retryCount < s.config.maxRetries) (now : UInt32) :
    Trace (handleRadioEvent s rxTimeout) [atNow now, atRetry (s.count countTimeout).retried]
      ((s.count countTimeout).retried.goto .startRequestTx now) := by
  have hevent : handleRadioEvent s rxTimeout = retryOrFail (s.count countTimeout) :=
    if_pos ⟨hr, hs⟩
  have hmore : retryOrFail (s.count countTimeout) = (do
      let service ← setState (s.count countTimeout).retried .startRequestTx
      logRetry service.pendingRequest.sequence service.retryCount service.config.maxRetries
      pure service) := by
    unfold retryOrFail
    exact (if_neg (not_not.mpr ha)).trans (if_pos hretry)
  rw [hevent, hmore]
  refine trace_bind_iff.mpr ⟨_, [_], _, trace_setState.mpr ⟨now, rfl, rfl⟩, ?_, rfl⟩
  exact trace_bind_iff.mpr ⟨(), [_], [], trace_ask_iff.mpr rfl, trace_pure_iff.mpr ⟨rfl, rfl⟩, rfl⟩

theorem trace_responderRx {s : DuplexLinkService} (hs : s.state = .startResponderRx)
    (now : UInt32) : Trace (processStateAction s) [atRx 0 true, atNow now]
      (s.goto .responderRx now) := by
  simp [processStateAction, hs, tryStartRx, trace_setState, goto]

theorem trace_responseTx {s : DuplexLinkService} (hs : s.state = .startResponseTx)
    (hc : s.hasCachedResponse = true) (now : UInt32) : Trace (processStateAction s)
      [atTx s.cachedResponseFrame true, atNow now]
      ((s.count countTx).goto .waitResponseTxDone now) := by
  simp [processStateAction, hs, hc, tryStartTx, trace_setState, goto, count, countTx]

theorem trace_responseSent {s : DuplexLinkService} (hs : s.state = .waitResponseTxDone)
    (now : UInt32) :
    Trace (handleRadioEvent s txDone) [atNow now] (s.goto .startResponderRx now) := by
  simp [handleRadioEvent, hs, trace_setState, goto]

/-! A frame that was encoded passes the checks of the service it is for. -/

theorem checkRequest_frame {s : DuplexLinkService} {packet : LinkPacket}
    {frame : PacketRadioRxFrame} (hdata : frame.data = packet.frame.toList)
    (hd : packet.destinationId = s.config.localNodeId)
    (hs : packet.sourceId = s.config.peerNodeId) (ht : requestTypeIsValid packet.messageType = true)
    (hl : LinkPacket.payloadLengthIsValid packet.payloadLength = true) :
    s.checkRequest frame = .accept packet.cleared := by
  have hcode : LinkPacket.messageTypeIsValid packet.messageType.code = true := by
    cases hm : packet.messageType <;> first | rfl | exact absurd (hm ▸ ht) (by decide)
  rw [checkRequest, hdata, ← hd, LinkPacket.decode_frame hcode hl]
  simp only [LinkPacket.cleared, hs, ht, ne_eq, not_true_eq_false, if_false]

theorem checkResponse_frame {s : DuplexLinkService} {packet : LinkPacket}
    {frame : PacketRadioRxFrame} (hdata : frame.data = packet.frame.toList)
    (hd : packet.destinationId = s.config.localNodeId)
    (hs : packet.sourceId = s.config.peerNodeId)
    (ht : packet.messageType = expectedResponseType s.pendingRequest.messageType)
    (hq : packet.acknowledgedSequence = s.pendingRequest.sequence)
    (hl : LinkPacket.payloadLengthIsValid packet.payloadLength = true) :
    s.checkResponse frame = .accept packet.cleared := by
  have hcode : LinkPacket.messageTypeIsValid packet.messageType.code = true := by
    rw [ht, expectedResponseType]
    split <;> rfl
  rw [checkResponse, hdata, ← hd, LinkPacket.decode_frame hcode hl]
  simp only [LinkPacket.cleared, hs, ht, hq, ne_eq, not_true_eq_false, if_false]

theorem trace_unread {s : DuplexLinkService} (hr : s.config.role = .responder) (now : UInt32) :
    Trace (handleRadioEvent s rxDone)
      [atRead none, atPush s (invalidEvent .rxFrame .invalidArgument none none), atNow now]
      ((s.refused .rxFrame .invalidArgument none none).goto .startResponderRx now) := by
  change Trace (handleRxDone s) _ _
  refine trace_bind_iff.mpr ⟨none, [_], _, trace_ask_iff.mpr rfl, ?_, rfl⟩
  refine trace_bind_iff.mpr ⟨_, [_], _, trace_publishInvalid.mpr ⟨rfl, rfl⟩, ?_, rfl⟩
  simp only [pushed_config, count_config, hr, if_true]
  exact trace_setState.mpr ⟨now, rfl, rfl⟩

theorem trace_request {s s' : DuplexLinkService} (hr : s.config.role = .responder)
    (hs : s.state = .responderRx) {frame : PacketRadioRxFrame} {tr : List LinkAction}
    (h : Trace (handleResponderFrame s frame) tr s') :
    Trace (handleRadioEvent s rxDone) (atRead (some frame) :: tr) s' := by
  change Trace (handleRxDone s) _ _
  refine trace_bind_iff.mpr ⟨some frame, [_], _, trace_ask_iff.mpr rfl, ?_, rfl⟩
  simp only [if_pos (And.intro hr hs)]
  exact h

theorem buildResponse_eq {s : DuplexLinkService} {request : LinkPacket} {response : LinkFrame}
    (he : (s.response request).encode linkPacketEncodedSize = .ok response) :
    buildResponse s request = some (s.answered response) := by
  rw [buildResponse, he]
  rfl

theorem trace_received {s : DuplexLinkService} {frame : PacketRadioRxFrame} {request : LinkPacket}
    {response : LinkFrame} (hc : s.checkRequest frame = .accept request)
    (hd : ¬ s.IsDuplicate request)
    (he : (s.response request).encode linkPacketEncodedSize = .ok response) (now : UInt32) :
    Trace (handleResponderFrame s frame) [atPush s (requestEvent request frame), atNow now]
      (((((s.heard frame).remembered request).pushed (requestEvent request frame)).answered
        response).goto .startResponseTx now) := by
  have hresponse : (((s.heard frame).remembered request).pushed
      (requestEvent request frame)).response request = s.response request := rfl
  have hbuild := buildResponse_eq (hresponse.symm ▸ he)
  rw [handleResponderFrame_eq, hc]
  simp only [if_neg hd]
  refine trace_bind_iff.mpr ⟨_, [_], _, trace_pushEvent.mpr ⟨rfl, rfl⟩, ?_, rfl⟩
  simp only [hbuild]
  exact trace_setState.mpr ⟨now, rfl, rfl⟩

theorem trace_duplicate {s : DuplexLinkService} {frame : PacketRadioRxFrame} {request : LinkPacket}
    (hc : s.checkRequest frame = .accept request) (hd : s.IsDuplicate request)
    (hcached : s.hasCachedResponse = true) (now : UInt32) :
    Trace (handleResponderFrame s frame) [atPush s (duplicateEvent request frame), atNow now]
      ((((s.heard frame).count countDuplicate).pushed (duplicateEvent request frame)).goto
        .startResponseTx now) := by
  rw [handleResponderFrame_eq, hc]
  simp only [if_pos hd]
  refine trace_bind_iff.mpr ⟨_, [_], _, trace_pushEvent.mpr ⟨rfl, rfl⟩, ?_, rfl⟩
  simp only [pushed_hasCachedResponse, count_hasCachedResponse, hcached, if_true]
  exact trace_setState.mpr ⟨now, rfl, rfl⟩

/-- The initiator that has taken `response`. -/
def succeeding (s : DuplexLinkService) (frame : PacketRadioRxFrame) (response : LinkPacket) :
    DuplexLinkService :=
  ((s.heard frame).completed.goto .idle 0).pushed (s.successEvent response frame 0)

theorem trace_succeeded {s : DuplexLinkService} (hr : s.config.role = .initiator)
    (hs : s.state = .waitResponse) (ha : s.requestActive = true) {frame : PacketRadioRxFrame}
    {response : LinkPacket} (hc : s.checkResponse frame = .accept response) :
    Trace (handleRadioEvent s rxDone)
      [atRead (some frame), atElapsed s.attemptStartedMs 0, atNow 0,
        atPush s (s.successEvent response frame 0)]
      (s.succeeding frame response) := by
  change Trace (handleRxDone s) _ _
  refine trace_bind_iff.mpr ⟨some frame, [_], _, trace_ask_iff.mpr rfl, ?_, rfl⟩
  simp only [hr, hs, ha, reduceCtorEq, if_false, and_self, if_true]
  rw [handleInitiatorFrame_eq, hc]
  refine trace_bind_iff.mpr ⟨0, [_], _, trace_ask_iff.mpr rfl, ?_, rfl⟩
  refine trace_bind_iff.mpr ⟨_, [_], _, trace_setState.mpr ⟨0, rfl, rfl⟩, ?_, rfl⟩
  exact trace_pushEvent.mpr ⟨rfl, rfl⟩

theorem trace_requestRestarted {s : DuplexLinkService} (hs : s.state = .startRequestTx)
    {elapsed : UInt32} (now : UInt32) (he : s.config.operationTimeoutMs ≤ elapsed) :
    Trace (processStateAction s) [atTx s.pendingRequestFrame false,
      atElapsed s.stateStartedMs elapsed, atRecover true, atNow now] (s.restarted now) := by
  simp [processStateAction, hs, tryStartTx, trace_operationTimedOut, trace_recoverRadio, nowMs, he,
    restarted]

/-- The responder that has accepted `request` and cached its response. -/
def accepting (s : DuplexLinkService) (frame : PacketRadioRxFrame) (request : LinkPacket)
    (now : UInt32) : DuplexLinkService :=
  ((((s.heard frame).remembered request).pushed (requestEvent request frame)).answered
    (s.response request).frame).goto .startResponseTx now

theorem trace_accepting {s : DuplexLinkService} (hr : s.config.role = .responder)
    (hs : s.state = .responderRx) (hp : PayloadReady s) {frame : PacketRadioRxFrame}
    {request : LinkPacket} (hc : s.checkRequest frame = .accept request)
    (hd : ¬ s.IsDuplicate request) (now : UInt32) :
    Trace (process 2 s)
      (atRadioProcess :: ((atTake (some rxDone) :: (atRead (some frame) ::
        [atPush s (requestEvent request frame), atNow now] ++ [atTake none])) ++
        [atTx (s.response request).frame true, atNow now]))
      (some (((s.accepting frame request now).count countTx).goto .waitResponseTxDone now)) := by
  refine trace_process_of (by simp [hs]) (by simp [hs]) (trace_pollEvents_cons (trace_request hr hs
    (trace_received hc hd (response_encode hp request) now)) ?_ (trace_pollEvents_nil 0 _)) ?_ ?_
    (trace_responseTx rfl rfl now)
  · simp
  · simp
  · simp [timedStates]

/-- The responder that has taken `request` for a duplicate. -/
def suppressing (s : DuplexLinkService) (frame : PacketRadioRxFrame) (request : LinkPacket)
    (now : UInt32) : DuplexLinkService :=
  (((s.heard frame).count countDuplicate).pushed (duplicateEvent request frame)).goto
    .startResponseTx now

theorem trace_suppressing {s : DuplexLinkService} (hr : s.config.role = .responder)
    (hs : s.state = .responderRx) {frame : PacketRadioRxFrame} {request : LinkPacket}
    (hc : s.checkRequest frame = .accept request) (hd : s.IsDuplicate request)
    (hcached : s.hasCachedResponse = true) (now : UInt32) :
    Trace (process 2 s)
      (atRadioProcess :: ((atTake (some rxDone) :: (atRead (some frame) ::
        [atPush s (duplicateEvent request frame), atNow now] ++ [atTake none])) ++
        [atTx s.cachedResponseFrame true, atNow now]))
      (some (((s.suppressing frame request now).count countTx).goto .waitResponseTxDone now)) := by
  have hcached' : (s.suppressing frame request now).hasCachedResponse = true := by
    simpa [suppressing] using hcached
  refine trace_process_of (by simp [hs]) (by simp [hs]) (trace_pollEvents_cons (trace_request hr hs
    (trace_duplicate hc hd hcached now)) ?_ (trace_pollEvents_nil 0 _)) ?_ ?_
    (trace_responseTx (s := s.suppressing frame request now) rfl hcached' now)
  · simp
  · simp
  · simp [timedStates]

end DuplexLinkService

end RadioConnection
