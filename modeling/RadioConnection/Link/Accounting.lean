import RadioConnection.Link.Session

/-!
# The accounts of an initiator

Every request that a start call accepts is an exchange: some frames are handed to
the radio, and at most one event reports an end.  `exchanges` reads them off the
log of a session.

* `ExchangeStep`: what a part of a call does to the exchange that is going on.
* `Accounted`: the service counts its exchanges and the attempts of the last one.
* `Session.accounted`: that is so in every session.
-/

namespace RadioConnection

namespace DuplexLinkService

open Interaction LinkProg

/-! ## Exchanges -/

/-- What a log shows of one request. -/
structure Exchange where
  request : LinkPacket
  /-- What was handed to the radio, and whether the radio accepted it. -/
  sent : List (List UInt8 × Bool)
  /-- The events that report an end. -/
  ends : List DuplexLinkEvent

def IsEnd (event : DuplexLinkEvent) : Prop :=
  event.type = .exchangeSucceeded ∨ event.type = .exchangeFailed

instance (event : DuplexLinkEvent) : Decidable (IsEnd event) :=
  inferInstanceAs (Decidable (_ ∨ _))

namespace Exchange

def attempts (x : Exchange) : ℕ := x.sent.countP (·.2)

def succeeded (x : Exchange) : Bool := x.ends.any (·.type = .exchangeSucceeded)
def failed (x : Exchange) : Bool := x.ends.any (·.type = .exchangeFailed)

def observe (x : Exchange) : LinkAction → Exchange
  | ⟨.tryStartTx data, started⟩ => { x with sent := x.sent ++ [(data, started)] }
  | ⟨.published event _, _⟩ => if IsEnd event then { x with ends := x.ends ++ [event] } else x
  | _ => x

end Exchange

/-- What an entry adds to the exchanges, of which the last one stands first. -/
def exchangesAfter (xs : List Exchange) : LogEntry → List Exchange
  | .began request => ⟨request, [], []⟩ :: xs
  | .action a => xs.modifyHead (·.observe a)
  | _ => xs

def exchanges (log : List LogEntry) : List Exchange := log.foldl exchangesAfter []

def starts (log : List LogEntry) : ℕ := log.countP fun | .began _ => true | _ => false

theorem exchanges_append (log entries : List LogEntry) :
    exchanges (log ++ entries) = entries.foldl exchangesAfter (exchanges log) := List.foldl_append

theorem length_exchanges (log : List LogEntry) : (exchanges log).length = starts log := by
  induction log using List.reverseRecOn with
  | nil => rfl
  | append_singleton log entry ih =>
    rw [exchanges_append, starts, List.countP_append]
    cases entry with
    | began request => exact congrArg (· + 1) ih
    | action a =>
      show (List.modifyHead _ (exchanges log)).length = _
      rw [List.length_modifyHead]
      exact ih
    | _ => exact ih

def observed (xs : List Exchange) (tr : List LinkAction) : List Exchange :=
  (tr.map LogEntry.action).foldl exchangesAfter xs

theorem observed_nil (tr : List LinkAction) : observed [] tr = [] := by
  induction tr with
  | nil => rfl
  | cons a tr ih => exact ih

theorem observed_cons (x : Exchange) (xs : List Exchange) (tr : List LinkAction) :
    observed (x :: xs) tr = tr.foldl Exchange.observe x :: xs := by
  induction tr generalizing x with
  | nil => rfl
  | cons a tr ih => exact ih (x.observe a)

/-! ## Neutral actions -/

/-- The action hands nothing to the radio, and reports no end. -/
def Neutral : LinkAction → Prop
  | ⟨.tryStartTx _, _⟩ => False
  | ⟨.published event _, _⟩ => ¬ IsEnd event
  | _ => True

theorem observe_neutral {a : LinkAction} (h : Neutral a) (x : Exchange) : x.observe a = x := by
  obtain ⟨o, y⟩ := a
  cases o with
  | tryStartTx data => exact absurd h id
  | published event stored => exact if_neg h
  | _ => rfl

theorem foldl_neutral {tr : List LinkAction} (h : ∀ a ∈ tr, Neutral a) (x : Exchange) :
    tr.foldl Exchange.observe x = x := by
  induction tr with
  | nil => rfl
  | cons a tr ih =>
    rw [List.foldl_cons, observe_neutral (h a (.head tr))]
    exact ih fun b hb => h b (.tail a hb)

theorem observed_neutral {tr : List LinkAction} (h : ∀ a ∈ tr, Neutral a) (xs : List Exchange) :
    observed xs tr = xs := by
  cases xs with
  | nil => exact observed_nil tr
  | cons x xs => rw [observed_cons, foldl_neutral h]

/-! ## The ledger -/

/-- What the service keeps of its exchanges. -/
structure Ledger where
  config : DuplexLinkConfig
  requestActive : Bool
  pendingRequest : LinkPacket
  pendingRequestFrame : LinkFrame
  retryCount : UInt8
  attemptCount : UInt8
  completedExchanges : UInt32
  failedExchanges : UInt32

def ledger (s : DuplexLinkService) : Ledger :=
  ⟨s.config, s.requestActive, s.pendingRequest, s.pendingRequestFrame, s.retryCount,
    s.attemptCount, s.stats.completedExchanges, s.stats.failedExchanges⟩

/-- The ledger when `event` has been reported. -/
def Ledger.ended (l : Ledger) (event : DuplexLinkEvent) : Ledger :=
  { l with
    requestActive := false
    completedExchanges := l.completedExchanges + if event.type = .exchangeSucceeded then 1 else 0
    failedExchanges := l.failedExchanges + if event.type = .exchangeFailed then 1 else 0 }

theorem ledger_heard (s : DuplexLinkService) (frame : PacketRadioRxFrame) :
    (s.heard frame).ledger = s.ledger := by
  unfold heard count countRx
  cases LinkPacket.decode frame.data s.config.localNodeId <;> rfl

/-- What a part of a call does to the exchange that is going on. -/
inductive ExchangeStep (l : Ledger) (state : DuplexLinkState) :
    List LinkAction → Ledger → DuplexLinkState → Prop
  | quiet {tr : List LinkAction} {state' : DuplexLinkState} : (∀ a ∈ tr, Neutral a) →
      (state' = .startRequestTx → state = .startRequestTx) → ExchangeStep l state tr l state'
  | responder {tr : List LinkAction} {state' : DuplexLinkState} : l.config.role = .responder →
      ExchangeStep l state tr l state'
  | refused {rest : List LinkAction} {state' : DuplexLinkState} : state = .startRequestTx →
      l.requestActive = true → (∀ a ∈ rest, Neutral a) →
      ExchangeStep l state (atTx l.pendingRequestFrame false :: rest) l state'
  | sent {rest : List LinkAction} {state' : DuplexLinkState} : state = .startRequestTx →
      l.requestActive = true → (∀ a ∈ rest, Neutral a) → state' ≠ .startRequestTx →
      ExchangeStep l state (atTx l.pendingRequestFrame true :: rest)
        { l with attemptCount := l.attemptCount + 1 } state'
  | retried {tr : List LinkAction} {state' : DuplexLinkState} : l.requestActive = true →
      l.retryCount < l.config.maxRetries → (∀ a ∈ tr, Neutral a) →
      ExchangeStep l state tr { l with retryCount := l.retryCount + 1 } state'
  | ended {before : List LinkAction} {event : DuplexLinkEvent} (stored : Bool)
      {state' : DuplexLinkState} : l.requestActive = true → IsEnd event →
      event.attempts = l.attemptCount → (∀ a ∈ before, Neutral a) → state' ≠ .startRequestTx →
      ExchangeStep l state (before ++ [atPublished event stored]) (l.ended event) state'

theorem RetryOrFail.exchangeStep {s s' : DuplexLinkService} {tr : List LinkAction}
    (h : RetryOrFail s tr s') (before : List LinkAction) (hb : ∀ a ∈ before, Neutral a)
    (state : DuplexLinkState) :
    ExchangeStep s.ledger state (before ++ tr) s'.ledger s'.state := by
  have hnow : ∀ now, ∀ a ∈ before ++ [atNow now], Neutral a := by
    intro now a ha
    rcases List.mem_append.mp ha with ha | ha
    · exact hb a ha
    · obtain rfl := List.mem_singleton.mp ha
      trivial
  cases h with
  | inactive now _ => exact .quiet (hnow now) (by simp)
  | retry now ha hlt =>
    rw [List.append_cons]
    refine .retried ha hlt fun a hmem => ?_
    rcases List.mem_append.mp hmem with hmem | hmem
    · exact hnow now a hmem
    · obtain rfl := List.mem_singleton.mp hmem
      trivial
  | fail now ha _ =>
    rw [List.append_cons]
    have hend : (((s.gaveUp.goto .idle now).pushed s.failedEvent)).ledger =
        s.ledger.ended s.failedEvent := by
      simp [ledger, Ledger.ended, failedEvent]
    rw [hend]
    exact .ended _ ha (.inr rfl) rfl (hnow now) (by simp)

theorem DeviceErrorHandled.exchangeStep {s s' : DuplexLinkService} {errorCode : UInt16}
    {tr : List LinkAction} (h : DeviceErrorHandled s errorCode tr s') (before : List LinkAction)
    (hb : ∀ a ∈ before, Neutral a) (state : DuplexLinkState) :
    ExchangeStep s.ledger state (before ++ tr) s'.ledger s'.state := by
  have hall : ∀ rest, (∀ a ∈ rest, Neutral a) →
      ∀ a ∈ before ++ atPush s (s.deviceErrorEvent errorCode) :: rest, Neutral a := by
    intro rest hr a ha
    rcases List.mem_append.mp ha with ha | ha
    · exact hb a ha
    · rcases List.mem_cons.mp ha with rfl | ha
      · simp [Neutral, IsEnd, deviceErrorEvent]
      · exact hr a ha
  cases h with
  | lost now => exact .quiet (hall _ (by simp [Neutral])) (by simp)
  | responder now _ => exact .quiet (hall _ (by simp [Neutral])) (by simp)
  | idle now _ _ => exact .quiet (hall _ (by simp [Neutral])) (by simp)
  | active _ _ h =>
    rw [List.append_cons, List.append_cons]
    refine h.exchangeStep (s := s.reported errorCode) _ ?_ state
    simpa using hall [atRecover true] (by simp [Neutral])

theorem ResponseHandled.exchangeStep {s s' : DuplexLinkService} {frame : PacketRadioRxFrame}
    {tr : List LinkAction} (h : ResponseHandled s frame tr s') (ha : s.requestActive = true)
    (state : DuplexLinkState) :
    ExchangeStep s.ledger state (atRead (some frame) :: tr) s'.ledger s'.state := by
  cases h with
  | @rejected reason packetStatus packet _ _ _ h =>
    have hstep := h.exchangeStep [atRead (some frame),
      atPush s (invalidEvent reason packetStatus packet frame)]
      (by simp [Neutral, IsEnd, invalidEvent]) state
    have hl : ((s.heard frame).refused reason packetStatus packet frame).ledger = s.ledger :=
      ledger_heard s frame
    rwa [hl] at hstep
  | @succeeded response rttMs now _ =>
    have hend : (((s.heard frame).completed.goto .idle now).pushed
        (s.successEvent response frame rttMs)).ledger =
          s.ledger.ended (s.successEvent response frame rttMs) := by
      have hheard : ∀ m : DuplexLinkService, m.ledger = s.ledger →
          ((m.completed.goto .idle now).pushed (s.successEvent response frame rttMs)).ledger =
            s.ledger.ended (s.successEvent response frame rttMs) := by
        intro m hm
        rw [← hm]
        simp [ledger, Ledger.ended, successEvent]
      exact hheard _ (ledger_heard s frame)
    rw [hend]
    exact @ExchangeStep.ended _ _ [atRead (some frame), atElapsed s.attemptStartedMs rttMs,
      atNow now] _ _ _ ha (.inl rfl) rfl (by simp [Neutral]) (by simp)

theorem DeviceErrorHandled.ledger_eq {s s' : DuplexLinkService} {errorCode : UInt16}
    {tr : List LinkAction} (h : DeviceErrorHandled s errorCode tr s')
    (hr : s.config.role = .responder) : s'.ledger = s.ledger := by
  cases h with
  | active hi _ _ => exact absurd (hr.symm.trans hi) (by decide)
  | _ => rfl

theorem RequestHandled.ledger_eq {s s' : DuplexLinkService} {frame : PacketRadioRxFrame}
    {tr : List LinkAction} (h : RequestHandled s frame tr s')
    (hr : s.config.role = .responder) : s'.ledger = s.ledger := by
  rw [← ledger_heard s frame]
  cases h with
  | unbuilt _ _ _ h => exact h.ledger_eq hr
  | _ => rfl

theorem EventStep.exchangeStep {s s' : DuplexLinkService} {event : PacketRadioEvent}
    {tr : List LinkAction} (h : EventStep s event tr s') :
    ExchangeStep s.ledger s.state tr s'.ledger s'.state := by
  cases h with
  | unreadResponder => exact .quiet (by simp [Neutral, IsEnd, invalidEvent]) (by simp)
  | unreadInitiator _ _ h =>
    exact h.exchangeStep [_, _] (by simp [Neutral, IsEnd, invalidEvent]) s.state
  | request _ hr _ h =>
    rw [h.ledger_eq hr]
    exact .responder hr
  | response _ _ _ ha h => exact h.exchangeStep ha s.state
  | stray => exact .quiet (by simp [Neutral, IsEnd, invalidEvent]) id
  | timeoutRetry _ _ _ h => exact h.exchangeStep [] (by simp) s.state
  | crcRetry _ _ _ h => exact h.exchangeStep [] (by simp) s.state
  | deviceError _ h => exact h.exchangeStep [] (by simp) s.state
  | none | txDoneIgnored | timeoutIgnored | crcIgnored => exact .quiet (by simp) id
  | _ => exact .quiet (by simp [Neutral]) (by simp)

theorem TimeoutStep.exchangeStep {s s' : DuplexLinkService} {tr : List LinkAction}
    (h : TimeoutStep s tr s') : ExchangeStep s.ledger s.state tr s'.ledger s'.state := by
  cases h with
  | none h =>
    refine .quiet ?_ id
    cases h <;> simp [Neutral]
  | response _ _ _ h => exact h.exchangeStep [_, _] (by simp [Neutral]) s.state
  | requestTx _ _ _ h => exact h.exchangeStep [_, _] (by simp [Neutral]) s.state
  | _ => exact .quiet (by simp [Neutral, IsEnd, recoveryEvent]) (by simp)

theorem StartRefused.exchangeStep {s : DuplexLinkService} {tr rest : List LinkAction}
    (h : StartRefused s tr) (hc : Consistent s) (hrest : ∀ a ∈ rest, Neutral a)
    {state' : DuplexLinkState} (hs : state' = .startRequestTx → s.state = .startRequestTx) :
    ExchangeStep s.ledger s.state (tr ++ rest) s.ledger state' := by
  cases h with
  | requestTx hw => exact .refused hw (hc.busy (by simp [hw])).2 hrest
  | responseRx _ => exact .quiet (by simpa [Neutral] using hrest) hs
  | responderRx _ => exact .quiet (by simpa [Neutral] using hrest) hs
  | responseTx hw _ => exact .responder (hc.listening (by simp [hw])).1
  | unanswered _ _ => exact .quiet hrest hs

theorem ActionStep.exchangeStep {s s' : DuplexLinkService} {tr : List LinkAction}
    (h : ActionStep s tr s') (hc : Consistent s) :
    ExchangeStep s.ledger s.state tr s'.ledger s'.state := by
  cases h with
  | none => exact .quiet (by simp) id
  | requestTx now now' hw =>
    exact .sent hw (hc.busy (by simp [hw])).2 (by simp [Neutral]) (by simp)
  | responseTx now hw _ => exact .responder (hc.listening (by simp [hw])).1
  | refused _ hr _ => exact hr.exchangeStep hc (by simp [Neutral]) id
  | requestLost _ _ _ hw =>
    exact .refused hw (hc.busy (by simp [hw])).2 (by simp [Neutral, IsEnd, recoveryEvent])
  | requestRestarted _ _ hw => exact .refused hw (hc.busy (by simp [hw])).2 (by simp [Neutral])
  | lost _ _ hr => exact hr.exchangeStep hc (by simp [Neutral, IsEnd, recoveryEvent]) (by simp)
  | responseRxRetry _ _ _ h =>
    exact h.exchangeStep [_, _, _] (by simp [Neutral]) s.state
  | responderRestarted _ _ hw => exact .quiet (by simp [Neutral]) id
  | responseGivenUp _ _ _ hr => exact hr.exchangeStep hc (by simp [Neutral]) (by simp)
  | _ => exact .quiet (by simp [Neutral]) (by simp)

/-- **What a part of a call does to the exchange that is going on.** -/
theorem PartStep.exchangeStep {s s' : DuplexLinkService} {tr : List LinkAction}
    (h : PartStep s tr s') (hc : Consistent s) :
    ExchangeStep s.ledger s.state tr s'.ledger s'.state := by
  cases h with
  | event h => exact h.exchangeStep
  | timeout h => exact h.exchangeStep
  | action h => exact h.exchangeStep hc

/-! ## The accounts -/

def SendsRequest (x : Exchange) : Prop :=
  ∃ frame, x.request.encode linkPacketEncodedSize = .ok frame ∧ ∀ d ∈ x.sent, d.1 = frame.toList

/-- An exchange whose end was reported, once. -/
structure Finished (maxRetries : UInt8) (x : Exchange) : Prop where
  ends : ∃ event, x.ends = [event] ∧ IsEnd event ∧ event.attempts = UInt8.ofNat x.attempts
  attempts_le : x.attempts ≤ maxRetries.toNat + 1
  sends : SendsRequest x

structure Going (l : Ledger) (state : DuplexLinkState) (x : Exchange) : Prop where
  request : x.request = l.pendingRequest
  encode : l.pendingRequest.encode linkPacketEncodedSize = .ok l.pendingRequestFrame
  sent : ∀ d ∈ x.sent, d.1 = l.pendingRequestFrame.toList
  ends : x.ends = []
  attemptCount : l.attemptCount = UInt8.ofNat x.attempts
  -- a state that is about to transmit has one attempt less behind it
  attempts_lt : x.attempts + (if state = .startRequestTx then 1 else 0) ≤ l.retryCount.toNat + 1
  retryCount_le : l.retryCount.toNat ≤ l.config.maxRetries.toNat

structure Accounted (xs : List Exchange) (l : Ledger) (state : DuplexLinkState) : Prop where
  going : l.requestActive = true → ∃ x past, xs = x :: past ∧ Going l state x ∧
    ∀ y ∈ past, Finished l.config.maxRetries y
  finished : l.requestActive = false → ∀ y ∈ xs, Finished l.config.maxRetries y
  completed : l.completedExchanges = UInt32.ofNat (xs.countP (·.succeeded))
  failed : l.failedExchanges = UInt32.ofNat (xs.countP (·.failed))
  responder : l.config.role = .responder → xs = []

section

variable {l l' : Ledger} {state state' : DuplexLinkState} {tr : List LinkAction} {x : Exchange}
  {xs : List Exchange}

theorem Going.sends (h : Going l state x) : SendsRequest x :=
  ⟨l.pendingRequestFrame, by rw [h.request]; exact h.encode, h.sent⟩

theorem Going.attempts_le (h : Going l state x) : x.attempts ≤ l.config.maxRetries.toNat + 1 := by
  have := h.attempts_lt
  have := h.retryCount_le
  omega

theorem Going.sent_concat (h : Going l state x) (started : Bool) :
    ∀ d ∈ x.sent ++ [(l.pendingRequestFrame.toList, started)],
      d.1 = l.pendingRequestFrame.toList := by
  intro d hd
  rcases List.mem_append.mp hd with hd | hd
  · exact h.sent d hd
  · obtain rfl := List.mem_singleton.mp hd
    rfl

theorem attempts_concat (x : Exchange) (data : List UInt8) (started : Bool) :
    (x.observe ⟨.tryStartTx data, started⟩).attempts = x.attempts + started.toNat := by
  show (x.sent ++ [(data, started)]).countP _ = _
  rw [List.countP_append]
  cases started <;> rfl

theorem Accounted.quiet (h : Accounted xs l state)
    (hs : state' = .startRequestTx → state = .startRequestTx) : Accounted xs l state' := by
  refine ⟨?_, h.finished, h.completed, h.failed, h.responder⟩
  intro ha
  obtain ⟨x, past, rfl, hx, hpast⟩ := h.going ha
  refine ⟨x, past, rfl, { hx with attempts_lt := ?_ }, hpast⟩
  have hlt := hx.attempts_lt
  by_cases hstart : state' = .startRequestTx
  · rw [if_pos (hs hstart)] at hlt
    rwa [if_pos hstart]
  · rw [if_neg hstart]
    omega

theorem Accounted.transmitted {past : List Exchange} (h : Accounted (x :: past) l state)
    (hx : Going l state x) (hpast : ∀ y ∈ past, Finished l.config.maxRetries y)
    (ha : l.requestActive = true) (started : Bool) (state' : DuplexLinkState)
    (hlt : x.attempts + started.toNat + (if state' = .startRequestTx then 1 else 0) ≤
      l.retryCount.toNat + 1) :
    Accounted (x.observe ⟨.tryStartTx l.pendingRequestFrame.toList, started⟩ :: past)
      { l with attemptCount := UInt8.ofNat (x.attempts + started.toNat) } state' := by
  refine ⟨?_, ?_, h.completed, h.failed, ?_⟩
  · intro _
    refine ⟨_, past, rfl, ⟨hx.request, hx.encode, hx.sent_concat started, hx.ends, ?_, ?_,
      hx.retryCount_le⟩, hpast⟩
    · rw [attempts_concat]
    · rw [attempts_concat]
      exact hlt
  · intro hf
    exact absurd (ha.symm.trans hf) (by decide)
  · intro hr
    cases h.responder hr

theorem Accounted.ended {past : List Exchange} (h : Accounted (x :: past) l state)
    (hx : Going l state x) (hpast : ∀ y ∈ past, Finished l.config.maxRetries y)
    {event : DuplexLinkEvent} (he : IsEnd event) (hattempts : event.attempts = l.attemptCount)
    (stored : Bool) :
    Accounted (x.observe (atPublished event stored) :: past) (l.ended event) state' := by
  have hobserve : x.observe (atPublished event stored) = { x with ends := [event] } := by
    rw [Exchange.observe, if_pos he, hx.ends, List.nil_append]
  have hcount : ∀ type : DuplexLinkEventType,
      ([event].any (·.type = type)) = decide (event.type = type) := by simp
  rw [hobserve]
  refine ⟨nofun, ?_, ?_, ?_, ?_⟩
  · intro _ y hy
    rcases List.mem_cons.mp hy with rfl | hy
    · exact ⟨⟨event, rfl, he, hattempts.trans hx.attemptCount⟩, hx.attempts_le, hx.sends⟩
    · exact hpast y hy
  · have hsum := h.completed
    rw [List.countP_cons_of_neg (by simp [Exchange.succeeded, hx.ends])] at hsum
    show l.completedExchanges + _ = _
    rw [hsum, List.countP_cons, Exchange.succeeded, hcount, UInt32.ofNat_add]
    split <;> simp_all
  · have hsum := h.failed
    rw [List.countP_cons_of_neg (by simp [Exchange.failed, hx.ends])] at hsum
    show l.failedExchanges + _ = _
    rw [hsum, List.countP_cons, Exchange.failed, hcount, UInt32.ofNat_add]
    split <;> simp_all
  · intro hr
    cases h.responder hr

/-- **What a part of a call does to the exchanges, the ledger accounts for.** -/
theorem Accounted.step (h : Accounted xs l state) (hstep : ExchangeStep l state tr l' state') :
    Accounted (observed xs tr) l' state' := by
  cases hstep with
  | quiet hn hs =>
    rw [observed_neutral hn]
    exact h.quiet hs
  | responder hr =>
    have hnil := h.responder hr
    rw [hnil, observed_nil]
    refine ⟨?_, nofun, ?_, ?_, fun _ => rfl⟩
    · intro ha
      obtain ⟨x, past, hxs, -⟩ := h.going ha
      rw [hnil] at hxs
      cases hxs
    · rw [h.completed, hnil]
    · rw [h.failed, hnil]
  | refused hw ha hn =>
    obtain ⟨x, past, rfl, hx, hpast⟩ := h.going ha
    have hlt := hx.attempts_lt
    rw [if_pos hw] at hlt
    rw [observed_cons, List.foldl_cons, foldl_neutral hn]
    have hnext := h.transmitted hx hpast ha false state'
      (by rw [Bool.toNat_false]; split <;> omega)
    rwa [Bool.toNat_false, Nat.add_zero, ← hx.attemptCount] at hnext
  | sent hw ha hn hs =>
    obtain ⟨x, past, rfl, hx, hpast⟩ := h.going ha
    have hlt := hx.attempts_lt
    rw [if_pos hw] at hlt
    rw [observed_cons, List.foldl_cons, foldl_neutral hn]
    have hnext := h.transmitted hx hpast ha true state'
      (by rw [Bool.toNat_true, if_neg hs]; omega)
    rwa [Bool.toNat_true, UInt8.ofNat_add, ← hx.attemptCount] at hnext
  | retried ha hlt hn =>
    obtain ⟨x, past, rfl, hx, hpast⟩ := h.going ha
    rw [observed_neutral hn]
    have hattempts := hx.attempts_lt
    have hmax := l.config.maxRetries.toNat_lt
    have hcount : (l.retryCount + 1).toNat = l.retryCount.toNat + 1 := by
      rw [UInt8.lt_iff_toNat_lt] at hlt
      rw [UInt8.toNat_add]
      show (l.retryCount.toNat + 1) % 256 = _
      omega
    rw [UInt8.lt_iff_toNat_lt] at hlt
    refine ⟨?_, ?_, h.completed, h.failed, h.responder⟩
    · intro _
      refine ⟨x, past, rfl, { hx with attempts_lt := ?_, retryCount_le := ?_ }, hpast⟩
      · show _ ≤ (l.retryCount + 1).toNat + 1
        rw [hcount]
        split <;> omega
      · show (l.retryCount + 1).toNat ≤ l.config.maxRetries.toNat
        omega
    · intro hf
      exact absurd (ha.symm.trans hf) (by decide)
  | ended stored ha he hattempts hb hs =>
    obtain ⟨x, past, rfl, hx, hpast⟩ := h.going ha
    rw [observed_cons, List.foldl_append, foldl_neutral hb]
    exact h.ended hx hpast he hattempts stored

end

/-! ## Sessions -/

variable {config : DuplexLinkConfig} {log : List LogEntry} {p : CallPoint} {s : DuplexLinkService}

theorem accounted_began {xs : List Exchange} (h : Accounted xs s.ledger s.state)
    {messageType : LinkMessageType} {payload : List UInt8} (hc : s.CanRequest messageType payload)
    (now : UInt32) :
    Accounted (⟨s.request messageType payload, [], []⟩ :: xs)
      ((s.requested (s.request messageType payload)).goto .startRequestTx now).ledger
      .startRequestTx := by
  refine ⟨?_, nofun, ?_, ?_, ?_⟩
  · intro _
    exact ⟨_, xs, rfl, ⟨rfl, request_encode hc, nofun, rfl, rfl, le_refl _, Nat.zero_le _⟩,
      h.finished hc.inactive⟩
  · rw [List.countP_cons_of_neg (by simp [Exchange.succeeded])]
    exact h.completed
  · rw [List.countP_cons_of_neg (by simp [Exchange.failed])]
    exact h.failed
  · intro hr
    exact absurd (hc.role.symm.trans hr) (by decide)

/-- **In every session the ledger accounts for the exchanges.** -/
theorem Session.accounted (h : Session config log p s) :
    Accounted (exchanges log) s.ledger s.state := by
  refine (h.invariant (I := fun log s => Consistent s ∧ Accounted (exchanges log) s.ledger s.state)
    ⟨?_, ?_, ?_, ?_, ?_⟩ ?_).2
  · intro log s a ha ⟨hc, hs⟩
    refine ⟨hc, ?_⟩
    have hn : ∀ b ∈ [a], Neutral b := by
      intro b hb
      obtain rfl := List.mem_singleton.mp hb
      rcases ha with rfl | ⟨event, rfl⟩ <;> trivial
    have hobserved := observed_neutral hn (exchanges log)
    rw [exchanges_append]
    change Accounted (observed (exchanges log) [a]) s.ledger s.state
    rwa [hobserved]
  · intro log s event events _ ⟨hc, hs⟩
    rw [exchanges_append]
    exact ⟨hc, hs⟩
  · intro log s messageType payload now hr ⟨_, hs⟩
    rw [exchanges_append]
    exact ⟨consistent_requested hr _ now, accounted_began hs hr now⟩
  · intro log s payload _ _ ⟨hc, hs⟩
    rw [exchanges_append]
    generalize payloadBuffer payload = buffer
    exact ⟨hc, hs⟩
  · intro log s tr s' hp ⟨hc, hs⟩
    rw [exchanges_append]
    exact ⟨hp.consistent hc, hs.step (hp.exchangeStep hc)⟩
  · intro now _
    exact ⟨consistent_initial config now, nofun, nofun, rfl, rfl, fun _ => rfl⟩

end DuplexLinkService

end RadioConnection
