import RadioConnection.Link.Accounting

/-!
# What the accounts say

* `Session.attempts_truthful`: the attempts of an exchange are bounded, and the
  event that ends it tells their number as long as that fits a byte.
* `Session.bookkeeping`: the counters, the sequence number, the states and the
  pending frame of a service in any session.
-/

namespace RadioConnection

namespace DuplexLinkService

open Interaction LinkProg
open Interaction.Prog

variable {config : DuplexLinkConfig} {log entries : List LogEntry} {p p' : CallPoint}
  {s s' : DuplexLinkService}

/-! ## Attempts -/

theorem Session.exchange (h : Session config log p s) {x : Exchange} (hx : x ∈ exchanges log) :
    Finished config.maxRetries x ∨ Going s.ledger s.state x := by
  have hacc := h.accounted
  have hconfig : s.ledger.config = config := h.consistent.2
  cases ha : s.requestActive with
  | false =>
    have hfin := hacc.finished ha x hx
    rw [hconfig] at hfin
    exact .inl hfin
  | true =>
    obtain ⟨y, past, hxs, hgoing, hpast⟩ := hacc.going ha
    rw [hxs] at hx
    rw [hconfig] at hpast
    rcases List.mem_cons.mp hx with rfl | hx
    · exact .inr hgoing
    · exact .inl (hpast x hx)

/-- The radio accepts a request at most once more than the retries. -/
theorem Session.attempts_le (h : Session config log p s) {x : Exchange} (hx : x ∈ exchanges log) :
    x.attempts ≤ config.maxRetries.toNat + 1 := by
  rcases h.exchange hx with hfin | hgoing
  · exact hfin.attempts_le
  · have hconfig : s.ledger.config = config := h.consistent.2
    have hle := hgoing.attempts_le
    rwa [hconfig] at hle

/-- **The attempts of an exchange are bounded, and the event that ends it tells their number
exactly when they are fewer than 256.** -/
theorem Session.attempts_truthful (h : Session config log p s) {x : Exchange}
    (hx : x ∈ exchanges log) :
    x.attempts ≤ config.maxRetries.toNat + 1 ∧
      ((∀ event ∈ x.ends, event.attempts.toNat = x.attempts) ↔ x.attempts < 256 ∨ x.ends = []) := by
  refine ⟨h.attempts_le hx, ?_⟩
  rcases h.exchange hx with hfin | hgoing
  · obtain ⟨event, hends, -, hattempts⟩ := hfin.ends
    have hnat : event.attempts.toNat = x.attempts % 256 := by
      rw [hattempts, UInt8.toNat_ofNat']
    rw [hends]
    constructor
    · intro hall
      have heq := hall event (.head _)
      have hlt := Nat.mod_lt x.attempts (show 0 < 256 by decide)
      left
      omega
    · intro hlt e he
      obtain rfl := List.mem_singleton.mp he
      rcases hlt with hlt | hnil
      · rw [hnat, Nat.mod_eq_of_lt hlt]
      · cases hnil
  · rw [hgoing.ends]
    exact ⟨fun _ => .inr rfl, fun _ event he => absurd he List.not_mem_nil⟩

/-! ## A request that nobody answers -/

def retryConfig (maxRetries : UInt8) : DuplexLinkConfig :=
  ⟨.initiator, 1, 2, 0, 100, 100, maxRetries⟩

/-- A request of 16 zeros has been handed to the radio. -/
structure Transmitted (maxRetries : UInt8) (retries : ℕ) (log : List LogEntry)
    (s : DuplexLinkService) (x : Exchange) : Prop where
  session : Session (retryConfig maxRetries) log .outside s
  state : s.state = .waitRequestTxDone
  active : s.requestActive = true
  retryCount : s.retryCount.toNat = retries
  only : exchanges log = [x]
  attempts : x.attempts = retries + 1

theorem exists_transmitted (maxRetries : UInt8) :
    ∃ log s x, Transmitted maxRetries 0 log s x := by
  have hinit : Session (retryConfig maxRetries) ([atNow 0].map .action) .outside
      (initial (retryConfig maxRetries) 0) := .init (trace_init_of rfl 0)
  have hcan : (initial (retryConfig maxRetries) 0).CanRequest .data (List.replicate 16 0) :=
    ⟨rfl, rfl, rfl, rfl, rfl⟩
  have hbegan := hinit.step (.began (trace_prepareRequest_of hcan 0))
  have hsent := hbegan.process (trace_process_of (by simp) (by simp)
    (trace_pollEvents_nil 0 _) (by simp) (by simp [timedStates]) (trace_requestTx rfl 0 0))
  exact ⟨_, _, _, hsent, rfl, rfl, rfl, rfl, rfl⟩

theorem exchanges_neutral {tr : List LinkAction} (h : ∀ a ∈ tr, Neutral a) :
    exchanges (log ++ tr.map .action) = exchanges log := by
  rw [exchanges_append]
  exact observed_neutral h _

theorem Transmitted.awaits {maxRetries : UInt8} {retries : ℕ} {x : Exchange}
    (h : Transmitted maxRetries retries log s x) :
    ∃ log' s', Session (retryConfig maxRetries) log' .outside s' ∧ s'.state = .waitResponse ∧
      s'.requestActive = true ∧ s'.retryCount = s.retryCount ∧ exchanges log' = [x] := by
  have hs := h.state
  have hwait := h.session.hear (by simp [hs]) (by simp [hs]) (trace_requestSent hs 0) (by simp)
    (by simp [timedStates]) (trace_responseRx rfl 0 0)
  refine ⟨_, _, hwait, rfl, h.active, rfl, ?_⟩
  rw [exchanges_neutral (by simp [Neutral])]
  exact h.only

theorem Transmitted.again {maxRetries : UInt8} {retries : ℕ} {x : Exchange}
    (h : Transmitted maxRetries retries log s x) (hlt : retries < maxRetries.toNat) :
    ∃ log' s' x', Transmitted maxRetries (retries + 1) log' s' x' := by
  obtain ⟨log', s', hwait, hs, ha, hcount, hx⟩ := h.awaits
  have hconfig := hwait.consistent.2
  have hr : s'.config.role = .initiator := by rw [hconfig]; rfl
  have hnat : s'.retryCount.toNat = retries := by rw [hcount, h.retryCount]
  have hretry : s'.retryCount < s'.config.maxRetries := by
    rw [UInt8.lt_iff_toNat_lt, hnat, hconfig]
    exact hlt
  have hmax := maxRetries.toNat_lt
  have hsent := hwait.hear (by simp [hs]) (by simp [hs]) (trace_requestRetried hr hs ha hretry 0)
    (by simp) (by simp [timedStates]) (trace_requestTx rfl 0 0)
  refine ⟨_, _, x.observe (atTx s'.pendingRequestFrame true), hsent, rfl, ha, ?_, ?_, ?_⟩
  · show (s'.retryCount + 1).toNat = _
    rw [UInt8.toNat_add, hnat]
    show (retries + 1) % 256 = _
    omega
  · rw [exchanges_append, hx]
    rfl
  · rw [attempts_concat, h.attempts]
    rfl

theorem Transmitted.givenUp {maxRetries : UInt8} {x : Exchange}
    (h : Transmitted maxRetries maxRetries.toNat log s x) :
    ∃ log' s' event, Session (retryConfig maxRetries) log' .outside s' ∧
      { x with ends := [event] } ∈ exchanges log' := by
  obtain ⟨log', s', hwait, hs, ha, hcount, hx⟩ := h.awaits
  have hconfig := hwait.consistent.2
  have hr : s'.config.role = .initiator := by rw [hconfig]; rfl
  have hretry : ¬ s'.retryCount < s'.config.maxRetries := by
    rw [UInt8.lt_iff_toNat_lt, hcount, h.retryCount, hconfig]
    exact Nat.lt_irrefl _
  have hx' : x.ends = [] := by
    have hmem : x ∈ exchanges log' := by rw [hx]; exact .head _
    obtain ⟨y, past, hxs, hgoing, -⟩ := hwait.accounted.going ha
    rw [hx] at hxs
    obtain rfl := (List.cons.inj hxs).1
    exact hgoing.ends
  have hfailed := hwait.hear (by simp [hs]) (by simp [hs]) (trace_requestGivenUp hr hs ha hretry 0)
    (by simp) (by simp [timedStates]) (trace_action_none (by simp [startStates]))
  refine ⟨_, _, s'.failedEvent, hfailed, ?_⟩
  rw [exchanges_append, hx]
  show _ ∈ [{ x with ends := x.ends ++ [s'.failedEvent] }]
  rw [hx', List.nil_append]
  exact .head _

/-- A request that nobody answers is transmitted once more than the retries. -/
theorem exists_unanswered (maxRetries : UInt8) :
    ∃ log s x, Session (retryConfig maxRetries) log .outside s ∧ x ∈ exchanges log ∧
      x.attempts = maxRetries.toNat + 1 ∧ ∃ event, x.ends = [event] := by
  have hall : ∀ n ≤ maxRetries.toNat, ∃ log s x, Transmitted maxRetries n log s x := by
    intro n
    induction n with
    | zero =>
      intro _
      exact exists_transmitted maxRetries
    | succ n ih =>
      intro hn
      obtain ⟨log, s, x, h⟩ := ih (by omega)
      exact h.again (by omega)
  obtain ⟨log, s, x, h⟩ := hall maxRetries.toNat (le_refl _)
  obtain ⟨log', s', event, hsession, hmem⟩ := h.givenUp
  exact ⟨log', s', _, hsession, hmem, h.attempts, event, rfl⟩

/-- **With 255 retries, the event that ends an unanswered request tells 0 attempts.** -/
theorem attempts_wrapped : ¬ ∀ (config : DuplexLinkConfig) (log : List LogEntry) (p : CallPoint)
    (s : DuplexLinkService), Session config log p s → ∀ x ∈ exchanges log,
      x.attempts ≤ config.maxRetries.toNat + 1 ∧
        ∀ event ∈ x.ends, event.attempts.toNat = x.attempts := by
  intro hall
  obtain ⟨log, s, x, hsession, hx, hattempts, event, hends⟩ := exists_unanswered 255
  obtain ⟨-, htold⟩ := hall _ log _ s hsession x hx
  have heq := htold event (by rw [hends]; exact .head _)
  have hlt := event.attempts.toNat_lt
  rw [heq, hattempts] at hlt
  exact absurd hlt (by decide)

/-- With two retries the event tells the truth. -/
theorem attempts_truthful_three : ∃ log s x, Session (retryConfig 2) log .outside s ∧
    x ∈ exchanges log ∧ x.attempts = 3 ∧ ∃ event, x.ends = [event] ∧ event.attempts.toNat = 3 := by
  obtain ⟨log, s, x, hsession, hx, hattempts, event, hends⟩ := exists_unanswered 2
  have hlt : x.attempts < 256 := by
    rw [hattempts]
    decide
  have htold := (hsession.attempts_truthful hx).2.mpr (.inl hlt) event (by rw [hends]; exact .head _)
  exact ⟨log, s, x, hsession, hx, hattempts, event, hends, htold.trans hattempts⟩

/-! ## The books -/

def requestStates : List DuplexLinkState :=
  [.startRequestTx, .waitRequestTxDone, .startResponseRx, .waitResponse]

/-- The states that only an initiator has. -/
def initiatorStates : List DuplexLinkState := .idle :: requestStates

/-- The states that only a responder has. -/
def responderStates : List DuplexLinkState :=
  [.startResponderRx, .responderRx, .startResponseTx, .waitResponseTxDone]

/-- Exactly one of the two counters of ended exchanges goes up by one. -/
def OneCounterMoves (s s' : DuplexLinkService) : Prop :=
  (s'.stats.completedExchanges = s.stats.completedExchanges + 1 ∧
      s'.stats.failedExchanges = s.stats.failedExchanges) ∨
    (s'.stats.completedExchanges = s.stats.completedExchanges ∧
      s'.stats.failedExchanges = s.stats.failedExchanges + 1)

/-- The service keeps its books about the exchanges of the log. -/
structure Bookkeeping (config : DuplexLinkConfig) (log : List LogEntry) (p : CallPoint)
    (s : DuplexLinkService) : Prop where
  counted : s.stats.completedExchanges + s.stats.failedExchanges +
    (if s.requestActive then 1 else 0) = UInt32.ofNat (starts log)
  sequence : config.role = .initiator →
    s.nextSequence = config.initialSequence + UInt16.ofNat (starts log)
  ends : ∀ x ∈ exchanges log, x.ends.length ≤ 1
  cleared : ∀ {entries : List LogEntry} {p' : CallPoint} {s' : DuplexLinkService},
    Step p s entries p' s' → s.requestActive = true → s'.requestActive = false →
    OneCounterMoves s s'
  active : s.state ≠ .error → (s.requestActive = true ↔ s.state ∈ requestStates)
  initiator : config.role = .initiator → s.state ∉ responderStates
  responder : config.role = .responder → s.state ∉ initiatorStates
  pending : s.requestActive = true →
    s.pendingRequest.encode linkPacketEncodedSize = .ok s.pendingRequestFrame
  sent : ∀ x ∈ exchanges log, SendsRequest x
  transmits : config.role = .initiator → ∀ {entries : List LogEntry} {p' : CallPoint}
    {s' : DuplexLinkService} {data : List UInt8} {started : Bool}, Step p s entries p' s' →
    .action ⟨.tryStartTx data, started⟩ ∈ entries →
    s.requestActive = true ∧ data = s.pendingRequestFrame.toList
  refused : ∀ {messageType : LinkMessageType} {payload : List UInt8} {tr : List LinkAction}
    {s' : DuplexLinkService}, Trace (prepareRequest s messageType payload) tr (false, s') → s' = s

theorem Finished.counted {maxRetries : UInt8} {x : Exchange} (h : Finished maxRetries x) :
    x.succeeded.toNat + x.failed.toNat = 1 := by
  obtain ⟨event, hends, he, -⟩ := h.ends
  rw [Exchange.succeeded, Exchange.failed, hends]
  rcases he with he | he <;> simp [he]

theorem countP_finished {maxRetries : UInt8} {xs : List Exchange}
    (h : ∀ x ∈ xs, Finished maxRetries x) :
    xs.countP (·.succeeded) + xs.countP (·.failed) = xs.length := by
  induction xs with
  | nil => rfl
  | cons x xs ih =>
    have hx := (h x (.head xs)).counted
    have hxs := ih fun y hy => h y (.tail x hy)
    rw [List.countP_cons, List.countP_cons, List.length_cons]
    cases hs : x.succeeded <;> cases hf : x.failed <;> simp_all <;> omega

theorem Accounted.counted {xs : List Exchange} {l : Ledger} {state : DuplexLinkState}
    (h : Accounted xs l state) :
    l.completedExchanges + l.failedExchanges + (if l.requestActive then 1 else 0) =
      UInt32.ofNat xs.length := by
  rw [h.completed, h.failed, ← UInt32.ofNat_add]
  cases ha : l.requestActive with
  | false =>
    rw [countP_finished (h.finished ha)]
    exact UInt32.add_zero _
  | true =>
    obtain ⟨x, past, rfl, hx, hpast⟩ := h.going ha
    rw [List.countP_cons_of_neg (by simp [Exchange.succeeded, hx.ends]),
      List.countP_cons_of_neg (by simp [Exchange.failed, hx.ends]), countP_finished hpast,
      List.length_cons, UInt32.ofNat_add]
    rfl

theorem PartStep.cleared {tr : List LinkAction} (h : PartStep s tr s') (hc : Consistent s)
    (ha : s.requestActive = true) (ha' : s'.requestActive = false) : OneCounterMoves s s' := by
  have hstep := h.exchangeStep hc
  change s.ledger.requestActive = true at ha
  change s'.ledger.requestActive = false at ha'
  change s'.ledger.completedExchanges = s.ledger.completedExchanges + 1 ∧
      s'.ledger.failedExchanges = s.ledger.failedExchanges ∨
    s'.ledger.completedExchanges = s.ledger.completedExchanges ∧
      s'.ledger.failedExchanges = s.ledger.failedExchanges + 1
  generalize s.ledger = l at hstep ha
  generalize s'.ledger = l' at hstep ha'
  cases hstep with
  | ended stored _ he _ _ _ => rcases he with he | he <;> simp [Ledger.ended, he]
  | _ => exact absurd (ha.symm.trans ha') (by decide)

theorem PartStep.transmits {tr : List LinkAction} (h : PartStep s tr s') (hc : Consistent s)
    (hr : s.config.role = .initiator) {data : List UInt8} {started : Bool}
    (hmem : ⟨.tryStartTx data, started⟩ ∈ tr) :
    s.requestActive = true ∧ data = s.pendingRequestFrame.toList := by
  have hno : ∀ rest : List LinkAction, (∀ a ∈ rest, Neutral a) →
      ¬ (⟨.tryStartTx data, started⟩ : LinkAction) ∈ rest := by
    intro rest hrest hm
    exact hrest _ hm
  have hone : ∀ (frame : LinkFrame) (b : Bool) (rest : List LinkAction),
      (∀ a ∈ rest, Neutral a) → ⟨.tryStartTx data, started⟩ ∈ atTx frame b :: rest →
      data = frame.toList := by
    intro frame b rest hrest hm
    rcases List.mem_cons.mp hm with heq | hm
    · cases heq
      rfl
    · exact absurd hm (hno rest hrest)
  have hstep := h.exchangeStep hc
  generalize s'.ledger = l' at hstep
  cases hstep with
  | quiet hn _ => exact absurd hmem (hno _ hn)
  | responder hresponder => exact absurd (hr.symm.trans hresponder) (by decide)
  | refused _ ha hn => exact ⟨ha, hone _ _ _ hn hmem⟩
  | sent _ ha hn _ => exact ⟨ha, hone _ _ _ hn hmem⟩
  | retried _ _ hn => exact absurd hmem (hno _ hn)
  | ended stored _ _ _ hb _ =>
    rcases List.mem_append.mp hmem with hmem | hmem
    · exact absurd hmem (hno _ hb)
    · cases List.mem_singleton.mp hmem

theorem PartStep.nextSequence {tr : List LinkAction} (h : PartStep s tr s') (hp : PayloadReady s)
    (hr : s.config.role = .initiator) : s'.nextSequence = s.nextSequence := by
  cases h.move hp with
  | quiet _ hm => exact congrArg LinkMemory.nextSequence hm
  | requestTx _ _ hm => exact congrArg LinkMemory.nextSequence hm
  | responseTx _ _ _ hm => exact congrArg LinkMemory.nextSequence hm
  | received hresponder => exact absurd (hr.symm.trans hresponder) (by decide)
  | duplicate _ _ _ hm => exact congrArg LinkMemory.nextSequence hm
  | succeeded _ _ _ hm => exact congrArg LinkMemory.nextSequence hm

theorem starts_append (log entries : List LogEntry) :
    starts (log ++ entries) = starts log + starts entries := List.countP_append

theorem starts_actions (tr : List LinkAction) : starts (tr.map .action) = 0 := by
  induction tr with
  | nil => rfl
  | cons a tr ih => exact ih

theorem Session.sequence (h : Session config log p s) (hr : config.role = .initiator) :
    s.nextSequence = config.initialSequence + UInt16.ofNat (starts log) := by
  refine (h.invariant (I := fun log s => s.config = config ∧ PayloadReady s ∧
    s.nextSequence = config.initialSequence + UInt16.ofNat (starts log)) ⟨?_, ?_, ?_, ?_, ?_⟩ ?_).2.2
  · intro log s a _ hs
    rw [starts_append]
    exact hs
  · intro log s event events _ hs
    rw [starts_append]
    exact hs
  · intro log s messageType payload now _ ⟨hconfig, hp, hs⟩
    refine ⟨hconfig, hp, ?_⟩
    rw [starts_append]
    show s.nextSequence + 1 = config.initialSequence + UInt16.ofNat (starts log + 1)
    rw [hs, UInt16.ofNat_add, UInt16.add_assoc]
    rfl
  · intro log s payload _ hl ⟨hconfig, _, hs⟩
    rw [starts_append]
    exact ⟨hconfig, payloadLengthIsValid_toUInt8 hl, hs⟩
  · intro log s tr s' hpart ⟨hconfig, hp, hs⟩
    have hmove := hpart.nextSequence hp (by rw [hconfig]; exact hr)
    rw [starts_append, starts_actions, Nat.add_zero, hmove]
    exact ⟨hpart.config.trans hconfig, (hpart.move hp).payloadReady hp, hs⟩
  · intro now _
    exact ⟨rfl, show LinkPacket.payloadLengthIsValid 16 = true by decide,
      (UInt16.add_zero _).symm⟩

theorem Session.encodes (h : Session config log p s) (ha : s.requestActive = true) :
    s.pendingRequest.encode linkPacketEncodedSize = .ok s.pendingRequestFrame := by
  obtain ⟨x, past, -, hx, -⟩ := h.accounted.going ha
  exact hx.encode

theorem Step.cleared (h : Step p s entries p' s') (hc : Consistent s)
    (ha : s.requestActive = true) (ha' : s'.requestActive = false) : OneCounterMoves s s' := by
  cases h.kind with
  | part hp => exact hp.cleared hc ha ha'
  | event hp => exact hp.cleared hc ha ha'
  | began now hb => exact absurd (ha.symm.trans hb.inactive) (by decide)
  | _ => exact absurd (ha.symm.trans ha') (by decide)

theorem Step.transmits (h : Step p s entries p' s') (hc : Consistent s)
    (hr : s.config.role = .initiator) {data : List UInt8} {started : Bool}
    (hmem : .action ⟨.tryStartTx data, started⟩ ∈ entries) :
    s.requestActive = true ∧ data = s.pendingRequestFrame.toList := by
  have hpart : ∀ tr s', PartStep s tr s' →
      LogEntry.action ⟨.tryStartTx data, started⟩ ∈ tr.map LogEntry.action →
      s.requestActive = true ∧ data = s.pendingRequestFrame.toList := by
    intro tr s' hp hm
    obtain ⟨a, hm, heq⟩ := List.mem_map.mp hm
    cases heq
    exact hp.transmits hc hr hm
  cases h.kind with
  | part hp => exact hpart _ _ hp hmem
  | event hp =>
    rcases List.mem_cons.mp hmem with heq | hmem
    · cases heq
    · exact hpart _ _ hp hmem
  | asked ha =>
    obtain heq := List.mem_singleton.mp hmem
    cases heq
    rcases ha with ha | ⟨event, ha⟩ <;> cases ha
  | began now _ => simp at hmem
  | _ => simp at hmem

/-- **The books of a service are right in every session.** -/
theorem Session.bookkeeping (h : Session config log p s) : Bookkeeping config log p s := by
  have hacc := h.accounted
  obtain ⟨hc, hconfig⟩ := h.consistent
  refine ⟨?_, h.sequence, ?_, ?_, ?_, ?_, ?_, h.encodes, ?_, ?_, ?_⟩
  · have hcount := hacc.counted
    rwa [length_exchanges] at hcount
  · intro x hx
    rcases h.exchange hx with hfin | hgoing
    · obtain ⟨event, hends, -⟩ := hfin.ends
      rw [hends]
      exact le_refl 1
    · rw [hgoing.ends]
      exact Nat.zero_le 1
  · intro entries p' s' hstep ha ha'
    exact hstep.cleared hc ha ha'
  · intro hne
    constructor
    · intro ha
      have hhome := hc
      unfold Consistent at hhome
      rw [ha] at hhome
      cases hr : s.config.role <;> simp_all [homeStates, requestStates]
    · intro hs
      exact (hc.busy hs).2
  · intro hr hs
    exact absurd (hr.symm.trans (hconfig ▸ (hc.listening hs).1)) (by decide)
  · intro hr hs
    have hhome := hc
    unfold Consistent at hhome
    rw [hconfig, hr, hc.inactive (by rw [hconfig]; exact hr)] at hhome
    cases hst : s.state <;> simp_all [homeStates, initiatorStates, requestStates]
  · intro x hx
    rcases h.exchange hx with hfin | hgoing
    · exact hfin.sends
    · exact hgoing.sends
  · intro hr entries p' s' data started hstep hmem
    exact hstep.transmits hc (by rw [hconfig]; exact hr) hmem
  · intro messageType payload tr s' ht
    rcases trace_prepareRequest ht with ⟨-, -, rfl⟩ | ⟨hf, -⟩
    · rfl
    · cases hf

/-- After one start, with the request in the air. -/
theorem bookkeeping_transmitted : ∃ log s, Bookkeeping (retryConfig 0) log .outside s ∧
    starts log = 1 ∧ s.requestActive = true := by
  obtain ⟨log, s, x, h⟩ := exists_transmitted 0
  refine ⟨log, s, h.session.bookkeeping, ?_, h.active⟩
  rw [← length_exchanges, h.only]
  rfl

end DuplexLinkService

end RadioConnection
