import RadioConnection.Link.Moves

/-!
# Sessions of a link service

A session is a run in steps smaller than a call: `duplex_link_service_process` is
taken apart into what it does before its loop, with each radio event, when the
radio has no more events, for the time-outs, and for the action of the state.  So
a state inside a call is a state of a session, also in a call that never returns
because the radio has an event every time.

* `Step`: one step, with what it writes into the log.
* `Session.invariant`: what the start establishes and every step keeps, holds in
  every session.
* `Session.process`: a whole call is a part of a session, and `Run.session`: a run
  is one.
-/

namespace RadioConnection

namespace DuplexLinkService

open Interaction LinkProg
open Interaction.Prog

/-- What a session writes down. -/
inductive LogEntry
  /-- A start call returned true and left this request pending. -/
  | began (request : LinkPacket)
  /-- The application configured a response payload. -/
  | configured (payload : List UInt8)
  /-- The application took an event. -/
  | taken (event : DuplexLinkEvent)
  | action (action : LinkAction)

/-- Where the service is: outside its functions, in the loop of `process`, before the
time-outs, or before the action of the state. -/
inductive CallPoint
  | outside | polling | timeouts | action
  deriving DecidableEq, Repr

/-- `process` returns as soon as the state is an error. -/
def CallPoint.unlessError (point : CallPoint) (s : DuplexLinkService) : CallPoint :=
  if s.state = .error then .outside else point

inductive Step : CallPoint → DuplexLinkService → List LogEntry → CallPoint → DuplexLinkService → Prop
  | began {s s' : DuplexLinkService} {messageType : LinkMessageType} {payload : List UInt8}
      {tr : List LinkAction} : Trace (prepareRequest s messageType payload) tr (true, s') →
      Step .outside s (.began s'.pendingRequest :: tr.map .action) .outside s'
  | notBegun {s s' : DuplexLinkService} {messageType : LinkMessageType} {payload : List UInt8}
      {tr : List LinkAction} : Trace (prepareRequest s messageType payload) tr (false, s') →
      Step .outside s (tr.map .action) .outside s'
  | configured {s s' : DuplexLinkService} {payload : List UInt8} :
      s.setResponsePayload payload = (true, s') →
      Step .outside s [.configured payload] .outside s'
  | notConfigured {s s' : DuplexLinkService} {payload : List UInt8} :
      s.setResponsePayload payload = (false, s') → Step .outside s [] .outside s'
  | taken {s s' : DuplexLinkService} {event : DuplexLinkEvent} :
      s.takeEvent = some (event, s') → Step .outside s [.taken event] .outside s'
  | process {s : DuplexLinkService} : s.state ≠ .uninitialized → s.state ≠ .error →
      Step .outside s [.action atRadioProcess] .polling s
  | event {s s' : DuplexLinkService} {event : PacketRadioEvent} {tr : List LinkAction} :
      Trace (handleRadioEvent s event) tr s' →
      Step .polling s (.action (atTake (some event)) :: tr.map .action)
        (CallPoint.unlessError .polling s') s'
  | noEvent (s : DuplexLinkService) : Step .polling s [.action (atTake none)] .timeouts s
  | timeouts {s s' : DuplexLinkService} {tr : List LinkAction} :
      Trace (processTimeouts s) tr s' →
      Step .timeouts s (tr.map .action) (CallPoint.unlessError .action s') s'
  | action {s s' : DuplexLinkService} {tr : List LinkAction} :
      Trace (processStateAction s) tr s' → Step .action s (tr.map .action) .outside s'

inductive Steps : CallPoint → DuplexLinkService → List LogEntry → CallPoint → DuplexLinkService → Prop
  | refl (point : CallPoint) (s : DuplexLinkService) : Steps point s [] point s
  | tail {p p' p'' : CallPoint} {s s' s'' : DuplexLinkService} {log entries : List LogEntry} :
      Steps p s log p' s' → Step p' s' entries p'' s'' → Steps p s (log ++ entries) p'' s''

/-- The sessions of a service: any calls of the application, with any radio and any clock. -/
inductive Session (config : DuplexLinkConfig) :
    List LogEntry → CallPoint → DuplexLinkService → Prop
  | init {tr : List LinkAction} {s : DuplexLinkService} : Trace (init config) tr (some s) →
      Session config (tr.map .action) .outside s
  | step {log entries : List LogEntry} {p p' : CallPoint} {s s' : DuplexLinkService} :
      Session config log p s → Step p s entries p' s' → Session config (log ++ entries) p' s'

/-! ## Invariants -/

/-- The service asks the radio whether there is work, or an event. -/
def Asks (a : LinkAction) : Prop := a = atRadioProcess ∨ ∃ event, a = atTake event

/-- What a step does: nothing but to ask or to take an event from the queue, to start a
request, to configure a payload, or a part of a call. -/
inductive StepKind (s : DuplexLinkService) : List LogEntry → DuplexLinkService → Prop
  | none : StepKind s [] s
  | asked {a : LinkAction} : Asks a → StepKind s [.action a] s
  | taken (event : DuplexLinkEvent) (events : RingBuffer DuplexLinkEvent duplexLinkEventCapacity) :
      s.events.pop = some (event, events) →
      StepKind s [.taken event] { s with events := events }
  | began {messageType : LinkMessageType} {payload : List UInt8} (now : UInt32) :
      s.CanRequest messageType payload →
      StepKind s [.began (s.request messageType payload), .action (atNow now)]
        ((s.requested (s.request messageType payload)).goto .startRequestTx now)
  | configured {payload : List UInt8} : s.config.role = .responder →
      payloadLengthIsValid payload.length = true →
      StepKind s [.configured payload]
        { s with
          responsePayload := payloadBuffer payload
          responsePayloadLength := payload.length.toUInt8 }
  | part {tr : List LinkAction} {s' : DuplexLinkService} : PartStep s tr s' →
      StepKind s (tr.map .action) s'
  | event {event : PacketRadioEvent} {tr : List LinkAction} {s' : DuplexLinkService} :
      PartStep s tr s' → StepKind s (.action (atTake (some event)) :: tr.map .action) s'

theorem Step.kind {p p' : CallPoint} {s s' : DuplexLinkService} {entries : List LogEntry}
    (h : Step p s entries p' s') : StepKind s entries s' := by
  cases h with
  | began h =>
    rcases trace_prepareRequest h with ⟨hf, -⟩ | ⟨-, hc, now, rfl, rfl⟩
    · cases hf
    · exact .began now hc
  | notBegun h =>
    rcases trace_prepareRequest h with ⟨-, rfl, rfl⟩ | ⟨hf, -⟩
    · exact .none
    · cases hf
  | configured h =>
    rename_i payload
    unfold setResponsePayload at h
    split at h
    · cases h
    · rename_i hc
      rw [not_or, not_not, not_not] at hc
      cases h
      exact .configured hc.1 hc.2
  | notConfigured h =>
    unfold setResponsePayload at h
    split at h
    · cases h
      exact .none
    · cases h
  | taken h =>
    obtain ⟨events, hpop, rfl⟩ := takeEvent_eq_some h
    exact .taken _ events hpop
  | process _ _ => exact .asked (.inl rfl)
  | event h => exact .event (.event (trace_handleRadioEvent h))
  | noEvent => exact .asked (.inr ⟨none, rfl⟩)
  | timeouts h => exact .part (.timeout (trace_processTimeouts h))
  | action h => exact .part (.action (trace_processStateAction h))

structure Kept (I : List LogEntry → DuplexLinkService → Prop) : Prop where
  asked : ∀ log s a, Asks a → I log s → I (log ++ [.action a]) s
  taken : ∀ log s event events, s.events.pop = some (event, events) → I log s →
    I (log ++ [.taken event]) { s with events := events }
  began : ∀ log s messageType payload now, s.CanRequest messageType payload → I log s →
    I (log ++ [.began (s.request messageType payload), .action (atNow now)])
      ((s.requested (s.request messageType payload)).goto .startRequestTx now)
  configured : ∀ log s payload, s.config.role = .responder →
    payloadLengthIsValid payload.length = true → I log s →
    I (log ++ [.configured payload])
      { s with
        responsePayload := payloadBuffer payload
        responsePayloadLength := payload.length.toUInt8 }
  part : ∀ log s tr s', PartStep s tr s' → I log s → I (log ++ tr.map .action) s'

variable {config : DuplexLinkConfig} {log entries : List LogEntry} {p p' : CallPoint}
  {s s' : DuplexLinkService} {I : List LogEntry → DuplexLinkService → Prop}

theorem Kept.step (hI : Kept I) (h : Step p s entries p' s') (hs : I log s) :
    I (log ++ entries) s' := by
  cases h.kind with
  | none =>
    rw [List.append_nil]
    exact hs
  | asked ha => exact hI.asked log s _ ha hs
  | taken event events hpop => exact hI.taken log s event events hpop hs
  | began now hc => exact hI.began log s _ _ now hc hs
  | configured hr hl => exact hI.configured log s _ hr hl hs
  | part hp => exact hI.part log s _ s' hp hs
  | event hp =>
    rw [List.append_cons]
    exact hI.part _ s _ s' hp (hI.asked log s _ (.inr ⟨_, rfl⟩) hs)

theorem Kept.steps (hI : Kept I) (h : Steps p s entries p' s') (hs : I log s) :
    I (log ++ entries) s' := by
  induction h with
  | refl =>
    rw [List.append_nil]
    exact hs
  | tail _ h ih =>
    rw [← List.append_assoc]
    exact hI.step h (ih hs)

/-- **What the start establishes and every step keeps, holds in every session.** -/
theorem Session.invariant (hI : Kept I)
    (hinit : ∀ now, configIsValid config = true → I [.action (atNow now)] (initial config now))
    (h : Session config log p s) : I log s := by
  induction h with
  | init h =>
    obtain ⟨hc, now, rfl, rfl⟩ := trace_init h
    exact hinit now hc
  | step _ h ih => exact hI.step h ih

theorem Session.steps (h : Session config log p s) (hs : Steps p s entries p' s') :
    Session config (log ++ entries) p' s' := by
  induction hs with
  | refl =>
    rw [List.append_nil]
    exact h
  | tail _ hs ih =>
    rw [← List.append_assoc]
    exact (ih h).step hs

theorem Session.consistent (h : Session config log p s) : Consistent s ∧ s.config = config := by
  refine h.invariant (I := fun _ s => Consistent s ∧ s.config = config) ⟨?_, ?_, ?_, ?_, ?_⟩ ?_
  · intro _ _ _ _ hs
    exact hs
  · intro _ _ _ _ _ hs
    exact hs
  · intro _ s _ _ now hc hs
    exact ⟨consistent_requested hc _ now, hs.2⟩
  · intro _ _ _ _ _ hs
    exact hs
  · intro _ s _ s' hp hs
    exact ⟨hp.consistent hs.1, hp.config.trans hs.2⟩
  · intro now _
    exact ⟨consistent_initial config now, rfl⟩

/-! ## Calls -/

namespace Steps

variable {p'' : CallPoint} {s'' : DuplexLinkService} {entries' : List LogEntry}

theorem single (h : Step p s entries p' s') : Steps p s entries p' s' := .tail (.refl p s) h

theorem trans (h : Steps p s entries p' s') (h' : Steps p' s' entries' p'' s'') :
    Steps p s (entries ++ entries') p'' s'' := by
  induction h' with
  | refl =>
    rw [List.append_nil]
    exact h
  | tail _ h' ih =>
    rw [← List.append_assoc]
    exact .tail (ih h) h'

end Steps

theorem unlessError_of {point : CallPoint} (h : s.state ≠ .error) :
    CallPoint.unlessError point s = point := if_neg h

theorem unlessError_error {point : CallPoint} (h : s.state = .error) :
    CallPoint.unlessError point s = .outside := if_pos h

theorem steps_pollEvents {bound : Nat} {tr : List LinkAction}
    (h : Trace (pollEvents bound s) tr (some s')) (hs : s.state ≠ .error) :
    Steps .polling s (tr.map .action) (CallPoint.unlessError .timeouts s') s' := by
  induction bound generalizing s tr with
  | zero => exact absurd (trace_pure_iff.mp h).2 (by simp)
  | succ bound ih =>
    rw [pollEvents, trace_bind_iff] at h
    obtain ⟨event, _, t, h₁, h, rfl⟩ := h
    obtain rfl := trace_ask_iff.mp h₁
    cases event with
    | none =>
      obtain ⟨rfl, rfl⟩ := trace_returned.mp h
      rw [unlessError_of hs]
      exact .single (.noEvent _)
    | some event =>
      rw [trace_bind_iff] at h
      obtain ⟨s₁, t₁, t₂, h₁, h, rfl⟩ := h
      have hstep := Step.event h₁
      split at h
      · rename_i he
        obtain ⟨rfl, rfl⟩ := trace_returned.mp h
        rw [unlessError_error he] at hstep ⊢
        rw [List.append_nil]
        exact .single hstep
      · rename_i he
        rw [unlessError_of he] at hstep
        have hsteps := (Steps.single hstep).trans (ih h he)
        rwa [List.singleton_append, List.map_cons, List.map_append]

/-- **A whole call is a part of a session.** -/
theorem steps_process {bound : Nat} {tr : List LinkAction}
    (h : Trace (DuplexLinkService.process bound s) tr (some s')) :
    Steps .outside s (tr.map .action) .outside s' := by
  unfold DuplexLinkService.process at h
  split at h
  · obtain ⟨rfl, rfl⟩ := trace_returned.mp h
    exact .refl .outside _
  rename_i hs
  rw [not_or] at hs
  rw [trace_bind_iff] at h
  obtain ⟨_, _, t, h₁, h, rfl⟩ := h
  obtain rfl := trace_ask_iff.mp h₁
  rw [trace_bind_iff] at h
  obtain ⟨polled, t₁, t₂, h₁, h, rfl⟩ := h
  cases polled with
  | none => exact absurd (trace_pure_iff.mp h).2 (by simp)
  | some s₁ =>
    have hpolled := (Steps.single (.process hs.1 hs.2)).trans (steps_pollEvents h₁ hs.2)
    dsimp only at h
    split at h
    · rename_i he
      obtain ⟨rfl, rfl⟩ := trace_returned.mp h
      rw [unlessError_error he] at hpolled
      rwa [List.append_nil]
    rename_i he
    rw [unlessError_of he] at hpolled
    rw [trace_bind_iff] at h
    obtain ⟨s₂, t₃, t₄, h₂, h, rfl⟩ := h
    have htimeouts := hpolled.tail (.timeouts h₂)
    split at h
    · rename_i he₂
      rw [trace_bind_iff] at h
      obtain ⟨s₃, t₅, t₆, h₃, h, rfl⟩ := h
      obtain ⟨rfl, rfl⟩ := trace_returned.mp h
      rw [unlessError_of he₂] at htimeouts
      simpa using htimeouts.tail (.action h₃)
    · rename_i he₂
      obtain ⟨rfl, rfl⟩ := trace_returned.mp h
      rw [unlessError_error (not_not.mp he₂)] at htimeouts
      simpa using htimeouts

theorem Session.process {bound : Nat} {tr : List LinkAction} (h : Session config log .outside s)
    (ht : Trace (DuplexLinkService.process bound s) tr (some s')) :
    Session config (log ++ tr.map .action) .outside s' := h.steps (steps_process ht)

theorem Session.hear (h : Session config log .outside s) {event : PacketRadioEvent}
    {s₁ : DuplexLinkService} {tr tr' : List LinkAction}
    (hu : s.state ≠ .uninitialized) (he : s.state ≠ .error)
    (hevent : Trace (handleRadioEvent s event) tr s₁) (he₁ : s₁.state ≠ .error)
    (ht : s₁.state ∉ timedStates) (ha : Trace (processStateAction s₁) tr' s') :
    Session config (log ++ (atRadioProcess :: atTake (some event) ::
      (tr ++ atTake none :: tr')).map .action) .outside s' := by
  have hpoll := trace_pollEvents_cons hevent he₁ (trace_pollEvents_nil 0 s₁)
  simpa using h.process (trace_process_of hu he hpoll he₁ ht ha)

/-- What a run remembers of an entry. -/
def LogEntry.history : LogEntry → Option HistoryEntry
  | .taken event => some (.taken event)
  | .action a => some (.action a)
  | _ => none

theorem filterMap_history (tr : List LinkAction) :
    (tr.map LogEntry.action).filterMap LogEntry.history = tr.map .action := by
  rw [List.filterMap_map]
  exact congrFun (List.filterMap_eq_map (f := HistoryEntry.action)) tr

/-- **Every run is a session.** -/
theorem Run.session {h : List HistoryEntry} (hrun : Run config h s) :
    ∃ log, Session config log .outside s ∧ log.filterMap LogEntry.history = h := by
  induction hrun with
  | init ht => exact ⟨_, .init ht, filterMap_history _⟩
  | process _ ht ih =>
    obtain ⟨log, hlog, rfl⟩ := ih
    exact ⟨_, hlog.process ht, by rw [List.filterMap_append, filterMap_history]⟩
  | @start _ _ _ _ _ started _ _ ht ih =>
    obtain ⟨log, hlog, rfl⟩ := ih
    cases started with
    | true =>
      refine ⟨_, hlog.step (.began ht), ?_⟩
      rw [List.filterMap_append, List.filterMap_cons, filterMap_history]
      rfl
    | false => exact ⟨_, hlog.step (.notBegun ht), by rw [List.filterMap_append, filterMap_history]⟩
  | @setResponsePayload _ s payload _ ih =>
    obtain ⟨log, hlog, rfl⟩ := ih
    cases hset : s.setResponsePayload payload with
    | mk accepted s' =>
      cases accepted with
      | true =>
        refine ⟨_, hlog.step (.configured hset), ?_⟩
        rw [List.filterMap_append]
        exact List.append_nil _
      | false =>
        refine ⟨_, hlog.step (.notConfigured hset), ?_⟩
        rw [List.append_nil]
  | takeEvent _ ht ih =>
    obtain ⟨log, hlog, rfl⟩ := ih
    exact ⟨_, hlog.step (.taken ht), List.filterMap_append⟩

end DuplexLinkService

end RadioConnection
