import RadioConnection.Link.Akin
import RadioConnection.Link.Delivery

/-!
# Foreign frames

What a waiting responder does with a frame that is not for it, and what such
frames change in a run.

* `Turn.steps` and `Step.turn`: the turns of a run are the steps of a session.
* `Session.rejected`: **a foreign frame is rejected and changes nothing**.
* `Disturbed`: two runs with the same answers, where the second hears foreign
  frames while it waits and restarts its reception after them.
* `Disturbed.together`: the second run takes the same decisions and makes the
  same transmissions.
* `foreign_frames_harmless`: **any number of foreign frames may come**, and the
  second run can go on as the first does.
-/

namespace RadioConnection

namespace DuplexLinkService

open Interaction LinkProg
open Interaction.Prog

variable {config : DuplexLinkConfig} {s s' t t' : DuplexLinkService}
  {p p' q q' : CallPoint} {log log' tr tr' : List LinkAction}

/-! ## Turns are steps -/

/-- The calls to the radio and the reports in a log. -/
def actions (entries : List LogEntry) : List LinkAction :=
  entries.filterMap fun | .action a => some a | _ => none

theorem actions_map (tr : List LinkAction) : actions (tr.map .action) = tr := by
  rw [actions, List.filterMap_map]
  exact List.filterMap_some

theorem actions_append (entries entries' : List LogEntry) :
    actions (entries ++ entries') = actions entries ++ actions entries' := List.filterMap_append

theorem Turn.next_at (hp : p ≠ .outside) : Turn.next.At p := hp

theorem trace_continued {β : Type} {prog : LinkProg β} {f : β → CallPoint × DuplexLinkService}
    (h : Trace (do let b ← prog; pure (f b)) tr (p', s')) :
    ∃ b, Trace prog tr b ∧ f b = (p', s') := by
  rw [trace_bind_iff] at h
  obtain ⟨b, t₁, t₂, h₁, h₂, rfl⟩ := h
  obtain ⟨rfl, heq⟩ := trace_pure_iff.mp h₂
  rw [List.append_nil]
  exact ⟨b, h₁, heq.symm⟩

theorem trace_left {u : DuplexLinkService}
    (h : Trace (pure (p, u) : LinkProg (CallPoint × DuplexLinkService)) tr (p', s')) :
    tr = [] ∧ p' = p ∧ s' = u := by
  obtain ⟨htr, heq⟩ := trace_pure_iff.mp h
  obtain ⟨hp, hs⟩ := Prod.mk.inj heq
  exact ⟨htr, hp, hs⟩

theorem trace_begin_process (h : Trace (s.begin .process) tr (p', s')) :
    (tr = [] ∧ p' = .outside ∧ s' = s) ∨
      (s.state ≠ .uninitialized ∧ s.state ≠ .error ∧
        tr = [atRadioProcess] ∧ p' = .polling ∧ s' = s) := by
  rw [begin] at h
  split at h
  · exact .inl (trace_left h)
  · rename_i hstate
    rw [not_or] at hstate
    obtain ⟨_, hu, heq⟩ := trace_continued h
    obtain ⟨rfl, rfl⟩ := Prod.mk.inj heq
    exact .inr ⟨hstate.1, hstate.2, trace_ask_iff.mp hu, rfl, rfl⟩

theorem trace_polling (h : Trace (s.goOn .polling) tr (p', s')) :
    (tr = [atTake none] ∧ p' = .timeouts ∧ s' = s) ∨
      ∃ event rest, tr = atTake (some event) :: rest ∧
        Trace (s.handleRadioEvent event) rest s' ∧ p' = .unlessError .polling s' := by
  rw [goOn, trace_bind_iff] at h
  obtain ⟨event, t₁, t₂, h₁, h₂, rfl⟩ := h
  obtain rfl := trace_ask_iff.mp h₁
  cases event with
  | none =>
    obtain ⟨rfl, rfl, rfl⟩ := trace_left h₂
    exact .inl ⟨rfl, rfl, rfl⟩
  | some event =>
    obtain ⟨u, hu, heq⟩ := trace_continued h₂
    obtain ⟨rfl, rfl⟩ := Prod.mk.inj heq
    exact .inr ⟨event, t₂, rfl, hu, rfl⟩

theorem request_steps {messageType : LinkMessageType} {payload : List UInt8}
    (h : Trace (do
      let (_, s) ← s.prepareRequest messageType payload
      pure (.outside, s)) tr (p', s')) :
    ∃ entries, Steps .outside s entries p' s' ∧ actions entries = tr := by
  obtain ⟨⟨started, u⟩, hu, heq⟩ := trace_continued h
  obtain ⟨rfl, rfl⟩ := Prod.mk.inj heq
  cases started with
  | true => exact ⟨_, .single (.began hu), actions_map tr⟩
  | false => exact ⟨_, .single (.notBegun hu), actions_map tr⟩

theorem begin_steps {call : LinkCall} (h : Trace (s.begin call) tr (p', s')) :
    ∃ entries, Steps .outside s entries p' s' ∧ actions entries = tr := by
  have hstay (h : Trace (pure (.outside, s) : LinkProg _) tr (p', s')) :
      ∃ entries, Steps .outside s entries p' s' ∧ actions entries = tr := by
    obtain ⟨rfl, rfl, rfl⟩ := trace_left h
    exact ⟨[], .refl .outside _, rfl⟩
  cases call with
  | setResponsePayload payload =>
    obtain ⟨rfl, rfl, rfl⟩ := trace_left h
    cases hset : s.setResponsePayload payload with
    | mk done u =>
      cases done with
      | true => exact ⟨_, .single (.configured hset), rfl⟩
      | false => exact ⟨_, .single (.notConfigured hset), rfl⟩
  | startData payload => exact request_steps h
  | startPing payload => exact request_steps h
  | process =>
    rcases trace_begin_process h with ⟨rfl, rfl, rfl⟩ | ⟨hstate, herror, rfl, rfl, rfl⟩
    · exact ⟨[], .refl .outside _, rfl⟩
    · exact ⟨_, .single (.process hstate herror), rfl⟩
  | takeEvent =>
    obtain ⟨rfl, rfl, rfl⟩ := trace_left h
    cases htake : s.takeEvent with
    | none =>
      rw [afterTake, htake]
      exact ⟨[], .refl .outside s, rfl⟩
    | some taken =>
      rw [afterTake, htake]
      exact ⟨_, .single (.taken htake), rfl⟩
  | getState => exact hstay h
  | isBusy => exact hstay h
  | getStats => exact hstay h

theorem goOn_step (hp : p ≠ .outside) (h : Trace (s.goOn p) tr (p', s')) :
    ∃ entries, Step p s entries p' s' ∧ actions entries = tr := by
  cases p with
  | outside => exact absurd rfl hp
  | polling =>
    rcases trace_polling h with ⟨rfl, rfl, rfl⟩ | ⟨event, rest, rfl, hevent, rfl⟩
    · exact ⟨_, .noEvent s', rfl⟩
    · exact ⟨_, .event hevent, congrArg (atTake (some event) :: ·) (actions_map rest)⟩
  | timeouts =>
    obtain ⟨u, hu, heq⟩ := trace_continued h
    obtain ⟨rfl, rfl⟩ := Prod.mk.inj heq
    exact ⟨_, .timeouts hu, actions_map tr⟩
  | action =>
    obtain ⟨u, hu, heq⟩ := trace_continued h
    obtain ⟨rfl, rfl⟩ := Prod.mk.inj heq
    exact ⟨_, .action hu, actions_map tr⟩

/-- **A turn is a part of a session.** -/
theorem Turn.steps {turn : Turn} (hat : turn.At p) (h : Trace (turn.run p s) tr (p', s')) :
    ∃ entries, Steps p s entries p' s' ∧ actions entries = tr := by
  cases turn with
  | call start =>
    obtain rfl := hat
    exact begin_steps h
  | next =>
    obtain ⟨entries, hstep, htr⟩ := goOn_step hat h
    exact ⟨entries, .single hstep, htr⟩

theorem trace_of_continued {β : Type} {prog : LinkProg β} {f : β → CallPoint × DuplexLinkService}
    {b : β} (h : Trace prog tr b) (hb : f b = (p', s')) :
    Trace (do let b ← prog; pure (f b)) tr (p', s') := by
  rw [trace_bind_iff]
  exact ⟨b, tr, [], h, trace_pure_iff.mpr ⟨rfl, hb.symm⟩, (List.append_nil tr).symm⟩

theorem trace_call_process (hs : ¬ (s.state = .uninitialized ∨ s.state = .error)) :
    Trace ((Turn.call .process).run p s) [atRadioProcess] (.polling, s) := by
  rw [Turn.run, begin, if_neg hs]
  exact trace_of_continued (f := fun _ => (CallPoint.polling, s)) (trace_ask_iff.mpr rfl) rfl

theorem trace_next_polling (s : DuplexLinkService) :
    Trace (Turn.next.run .polling s) [atTake none] (.timeouts, s) := by
  rw [Turn.run, goOn, trace_bind_iff]
  exact ⟨none, [_], [], trace_ask_iff.mpr rfl, trace_pure_iff.mpr ⟨rfl, rfl⟩, rfl⟩

theorem trace_next_event {event : PacketRadioEvent} (h : Trace (s.handleRadioEvent event) tr s')
    (hs : CallPoint.unlessError .polling s' = p) :
    Trace (Turn.next.run .polling s) (atTake (some event) :: tr) (p, s') := by
  rw [Turn.run, goOn, trace_bind_iff]
  exact ⟨some event, [_], tr, trace_ask_iff.mpr rfl,
    trace_of_continued h (congrArg (·, s') hs), rfl⟩

/-- **A step of a session is a turn.** -/
theorem Step.turn {entries : List LogEntry} (h : Step p s entries p' s') :
    ∃ turn : Turn, turn.At p ∧ Trace (turn.run p s) (actions entries) (p', s') := by
  have hquiet (s : DuplexLinkService) :
      Trace ((Turn.call .getState).run .outside s) [] (.outside, s) :=
    trace_pure_iff.mpr ⟨rfl, rfl⟩
  cases h with
  | @began s s' messageType payload tr h =>
    have htr : actions (.began s'.pendingRequest :: tr.map .action) = tr := actions_map tr
    rw [htr]
    cases messageType with
    | data => exact ⟨.call (.startData payload), rfl, trace_of_continued h rfl⟩
    | ping => exact ⟨.call (.startPing payload), rfl, trace_of_continued h rfl⟩
    | _ =>
      rcases trace_prepareRequest h with ⟨hfalse, -⟩ | ⟨-, hcan, -⟩
      · cases hfalse
      · cases hcan.type
  | @notBegun s s' messageType payload tr h =>
    rcases trace_prepareRequest h with ⟨-, rfl, rfl⟩ | ⟨htrue, -⟩
    · exact ⟨.call .getState, rfl, hquiet s'⟩
    · cases htrue
  | @configured s s' payload h =>
    refine ⟨.call (.setResponsePayload payload), rfl, trace_pure_iff.mpr ⟨rfl, ?_⟩⟩
    rw [h]
  | @notConfigured s s' payload h =>
    refine ⟨.call (.setResponsePayload payload), rfl, trace_pure_iff.mpr ⟨rfl, ?_⟩⟩
    rw [h]
  | taken h =>
    refine ⟨.call .takeEvent, rfl, trace_pure_iff.mpr ⟨rfl, ?_⟩⟩
    rw [afterTake, h]
    rfl
  | process hstate herror =>
    have hon : ¬ (s.state = .uninitialized ∨ s.state = .error) := not_or.mpr ⟨hstate, herror⟩
    exact ⟨.call .process, rfl, trace_call_process hon⟩
  | @event s s' event tr h =>
    refine ⟨.next, Turn.next_at (by decide), ?_⟩
    have htr : actions (.action (atTake (some event)) :: tr.map .action) =
        atTake (some event) :: tr := congrArg (atTake (some event) :: ·) (actions_map tr)
    rw [htr]
    exact trace_next_event h rfl
  | noEvent => exact ⟨.next, Turn.next_at (by decide), trace_next_polling s⟩
  | @timeouts s s' tr h =>
    rw [actions_map]
    exact ⟨.next, Turn.next_at (by decide), trace_of_continued h rfl⟩
  | @action s s' tr h =>
    rw [actions_map]
    exact ⟨.next, Turn.next_at (by decide), trace_of_continued h rfl⟩

/-! ## What a run is told, and what it does -/

inductive Given
  | now (ms : UInt32)
  | elapsed (ms : UInt32)
  | polled
  | event (event : Option PacketRadioEvent)
  | txStarted (started : Bool)
  | rxStarted (started : Bool)
  | frame (frame : Option PacketRadioRxFrame)
  | recovered (recovered : Bool)

/-- The answer to a call, without what the service says in it; a report and a line of the log are
not answered. -/
def given : LinkAction → Option Given
  | ⟨.nowMs, ms⟩ => some (.now ms)
  | ⟨.elapsedMs _, ms⟩ => some (.elapsed ms)
  | ⟨.radioProcess, _⟩ => some .polled
  | ⟨.takeEvent, event⟩ => some (.event event)
  | ⟨.tryStartTx _, started⟩ => some (.txStarted started)
  | ⟨.tryStartRx _, started⟩ => some (.rxStarted started)
  | ⟨.readRxFrame, frame⟩ => some (.frame frame)
  | ⟨.recover, recovered⟩ => some (.recovered recovered)
  | ⟨.published _ _, _⟩ => none
  | ⟨.logRetry _ _ _, _⟩ => none

/-- The decision that a request is new, or that it is a duplicate; the queue may drop the event
that says so. -/
def decision : LinkAction → Option DuplexLinkEvent
  | ⟨.published event _, _⟩ =>
    if event.type = .requestReceived ∨ event.type = .duplicateSuppressed then some event else none
  | _ => none

def transmission : LinkAction → Option (List UInt8 × Bool)
  | ⟨.tryStartTx data, started⟩ => some (data, started)
  | _ => none

theorem given_determined : DeterminedBy QueuePairs given := by
  intro o o' C h
  cases h with
  | published event stored stored' => exact .inl fun _ _ => ⟨rfl, rfl, trivial⟩
  | same =>
    cases o with
    | published event stored => exact .inl fun _ _ => ⟨rfl, rfl, rfl⟩
    | logRetry sequence retryCount maxRetries => exact .inl fun _ _ => ⟨rfl, rfl, rfl⟩
    | radioProcess => exact .inr fun _ _ => ⟨_, _, rfl, rfl, fun _ => rfl⟩
    | nowMs => exact .inr fun _ _ => ⟨_, _, rfl, rfl, fun h => (Given.now.inj h).symm⟩
    | elapsedMs since => exact .inr fun _ _ => ⟨_, _, rfl, rfl, fun h => (Given.elapsed.inj h).symm⟩
    | takeEvent => exact .inr fun _ _ => ⟨_, _, rfl, rfl, fun h => (Given.event.inj h).symm⟩
    | tryStartTx data =>
      exact .inr fun _ _ => ⟨_, _, rfl, rfl, fun h => (Given.txStarted.inj h).symm⟩
    | tryStartRx timeoutMs =>
      exact .inr fun _ _ => ⟨_, _, rfl, rfl, fun h => (Given.rxStarted.inj h).symm⟩
    | readRxFrame => exact .inr fun _ _ => ⟨_, _, rfl, rfl, fun h => (Given.frame.inj h).symm⟩
    | recover => exact .inr fun _ _ => ⟨_, _, rfl, rfl, fun h => (Given.recovered.inj h).symm⟩

/-- What does not depend on whether an event was stored is the same for the calls of a pair. -/
theorem paired_eq {β : Type} {f : LinkAction → β}
    (hf : ∀ event stored stored', f (atPublished event stored') = f (atPublished event stored))
    {a a' : LinkAction} (h : Paired QueuePairs a a') : f a' = f a := by
  obtain ⟨o, x⟩ := a
  obtain ⟨o', x'⟩ := a'
  obtain ⟨C, hpair, hx⟩ := h
  cases hpair with
  | same =>
    obtain rfl := hx
    rfl
  | published event stored stored' => exact hf event stored stored'

/-- **Two services that are akin, told the same, take the same turn.** -/
theorem Akin.sameTurn (h : Akin s t) {turn : Turn} (hs : Trace (turn.run p s) tr (p', s'))
    (ht : Trace (turn.run p t) tr' (q', t'))
    (hgiven : tr'.filterMap given = tr.filterMap given) :
    q' = p' ∧ Akin s' t' ∧ tr'.filterMap decision = tr.filterMap decision ∧
      tr'.filterMap transmission = tr.filterMap transmission := by
  obtain ⟨⟨hpoint, hakin⟩, hpaired⟩ := (h.turn turn p).traces given_determined hs ht hgiven
  exact ⟨hpoint.symm, hakin, filterMap_paired (paired_eq fun _ _ _ => rfl) hpaired,
    filterMap_paired (paired_eq fun _ _ _ => rfl) hpaired⟩

/-- A turn of one can be taken by the other. -/
theorem Akin.canTurn (h : Akin s t) {turn : Turn} (hs : Trace (turn.run p s) tr (p', s')) :
    ∃ tr' t', Trace (turn.run p t) tr' (p', t') ∧ tr'.filterMap given = tr.filterMap given := by
  have hpartner : ∀ {o o'} {C : LinkOp.Ans o → LinkOp.Ans o' → Prop}, QueuePairs o o' C →
      ∀ x, ∃ x', C x x' := by
    intro o o' C hpair x
    cases hpair with
    | same => exact ⟨x, rfl⟩
    | published event stored stored' => exact ⟨(), trivial⟩
  have hlockstep := h.turn turn p
  obtain ⟨tr', ⟨q', t'⟩, ht, ⟨hpoint, -⟩, hpaired⟩ := hlockstep.follow hpartner hs
  obtain rfl : p' = q' := hpoint
  exact ⟨tr', t', ht, filterMap_paired (paired_eq fun _ _ _ => rfl) hpaired⟩

/-! ## A foreign frame -/

/-- A frame that is not a request to this node, with what the service says of it. -/
inductive ForeignFrame (config : DuplexLinkConfig) (frame : PacketRadioRxFrame) :
    DuplexLinkInvalidReason → LinkPacketStatus → Option LinkPacket → Prop
  | decode {status : LinkPacketStatus} :
      LinkPacket.decode frame.data config.localNodeId = .error status →
      ForeignFrame config frame .decode status none
  | source {packet : LinkPacket} : LinkPacket.decode frame.data config.localNodeId = .ok packet →
      packet.sourceId ≠ config.peerNodeId → ForeignFrame config frame .source .ok (some packet)
  | messageType {packet : LinkPacket} :
      LinkPacket.decode frame.data config.localNodeId = .ok packet →
      packet.sourceId = config.peerNodeId → packet.messageType ≠ .data →
      packet.messageType ≠ .ping → ForeignFrame config frame .messageType .ok (some packet)

variable {frame : PacketRadioRxFrame} {event : PacketRadioEvent}
  {reason : DuplexLinkInvalidReason} {status : LinkPacketStatus} {packet : Option LinkPacket}

theorem ForeignFrame.checkRequest (h : ForeignFrame config frame reason status packet)
    (hs : s.config = config) : s.checkRequest frame = .reject reason status packet := by
  rw [DuplexLinkService.checkRequest, hs]
  cases h with
  | decode hdecode => rw [hdecode]
  | source hdecode hsource =>
    rw [hdecode]
    exact if_pos hsource
  | @messageType packet hdecode hsource hdata hping =>
    have htype : ¬ requestTypeIsValid packet.messageType = true := by
      simp [requestTypeIsValid, hdata, hping]
    rw [hdecode]
    exact (if_neg (not_not.mpr hsource)).trans (if_pos htype)

theorem Consistent.responder (h : Consistent s) (hs : s.state = .responderRx) :
    s.config.role = .responder := by
  rw [Consistent, hs] at h
  cases hrole : s.config.role with
  | responder => rfl
  | initiator =>
    rw [hrole] at h
    cases hactive : s.requestActive with
    | true => simp [hactive, homeStates] at h
    | false => simp [hactive, homeStates] at h

/-- What the service does with a foreign frame while it waits. -/
theorem trace_foreignFrame (hs : s.state = .responderRx) (hc : s.config = config)
    (hr : s.config.role = .responder) (he : event.type = .rxDone)
    (hf : ForeignFrame config frame reason status packet)
    (h : Trace (s.handleRadioEvent event) (atRead (some frame) :: tr) s') :
    ∃ now, tr = [atPush s (invalidEvent reason status packet frame), atNow now] ∧
      s' = ((s.heard frame).refused reason status packet frame).goto .startResponderRx now := by
  simp only [handleRadioEvent, he, handleRxDone, readRxFrame, trace_bind_iff, trace_ask_iff] at h
  obtain ⟨received, _, rest, rfl, h, heq⟩ := h
  obtain ⟨hread, rfl⟩ := List.cons.inj heq
  obtain rfl : some frame = received := by simpa using hread
  dsimp only at h
  rw [if_pos ⟨hr, hs⟩] at h
  have hcheck := hf.checkRequest hc
  cases trace_handleResponderFrame h with
  | rejected now hreject =>
    obtain ⟨rfl, rfl, rfl⟩ := Verdict.reject.inj (hcheck.symm.trans hreject)
    exact ⟨now, rfl, rfl⟩
  | duplicate _ haccept => cases hcheck.symm.trans haccept
  | unanswered _ haccept => cases hcheck.symm.trans haccept
  | received _ haccept => cases hcheck.symm.trans haccept
  | unbuilt haccept => cases hcheck.symm.trans haccept

theorem refused_aside (s : DuplexLinkService) (frame : PacketRadioRxFrame)
    (reason : DuplexLinkInvalidReason) (status : LinkPacketStatus) (packet : Option LinkPacket)
    (now : UInt32) : ∃ events stats,
      ((s.heard frame).refused reason status packet frame).goto .startResponderRx now =
        { s.aside events stats now with state := .startResponderRx } := ⟨_, _, rfl⟩

/-- A frame is rejected: one report, nothing handed to the radio and nothing else changed. -/
structure Rejected (s : DuplexLinkService) (reason : DuplexLinkInvalidReason)
    (status : LinkPacketStatus) (tr : List LinkAction) (s' : DuplexLinkService) : Prop where
  hasLastRemoteSequence : s'.hasLastRemoteSequence = s.hasLastRemoteSequence
  lastRemoteSequence : s'.lastRemoteSequence = s.lastRemoteSequence
  lastRemoteMessageType : s'.lastRemoteMessageType = s.lastRemoteMessageType
  hasCachedResponse : s'.hasCachedResponse = s.hasCachedResponse
  cachedResponseFrame : s'.cachedResponseFrame = s.cachedResponseFrame
  responsePayload : s'.responsePayload = s.responsePayload
  responsePayloadLength : s'.responsePayloadLength = s.responsePayloadLength
  nextSequence : s'.nextSequence = s.nextSequence
  state : s'.state = .startResponderRx
  silent : ∀ data started, (⟨.tryStartTx data, started⟩ : LinkAction) ∉ tr
  report : ∃ event stored now, tr = [atPublished event stored, atNow now] ∧
    event.type = .invalidPacket ∧ event.invalidReason = reason ∧ event.packetStatus = status

theorem Session.rejected {entries : List LogEntry} (h : Session config entries p s)
    (hs : s.state = .responderRx) (he : event.type = .rxDone)
    (hf : ForeignFrame config frame reason status packet)
    (ht : Trace (s.handleRadioEvent event) (atRead (some frame) :: tr) s') :
    Rejected s reason status tr s' := by
  obtain ⟨hconsistent, hconfig⟩ := h.consistent
  obtain ⟨now, rfl, rfl⟩ :=
    trace_foreignFrame hs hconfig (hconsistent.responder hs) he hf ht
  obtain ⟨events, stats, heq⟩ := refused_aside s frame reason status packet now
  rw [heq]
  refine ⟨rfl, rfl, rfl, rfl, rfl, rfl, rfl, rfl, rfl, ?_, _, _, now, rfl, rfl, rfl, rfl⟩
  intro data started hmem
  simp at hmem

/-! ## The second run on its own -/

/-- The states that foreign frames and restarts lead to. -/
def restartStates : List DuplexLinkState := [.responderRx, .startResponderRx, .error]

/-- The first service waits, and the second is like it but for its state. -/
structure Apart (s t : DuplexLinkService) : Prop where
  waits : s.state = .responderRx
  restarts : t.state ∈ restartStates
  akin : Akin s { t with state := .responderRx }

theorem Akin.apart (h : Akin s t) (hs : s.state = .responderRx) : Apart s t := by
  have ht : t.state = .responderRx := h.state_eq.trans hs
  refine ⟨hs, ?_, ?_⟩
  · rw [ht]
    decide
  · rw [← ht]
    exact h

theorem Apart.akin_of_state (h : Apart s t) (ht : t.state = s.state) : Akin s t := by
  have hakin := h.akin
  rw [← h.waits, ← ht] at hakin
  exact hakin

theorem Apart.move (h : Apart s t) {state : DuplexLinkState} (hstate : state ∈ restartStates)
    (events : RingBuffer DuplexLinkEvent duplexLinkEventCapacity) (stats : DuplexLinkStats)
    (started : UInt32) : Apart s { t.aside events stats started with state := state } := by
  obtain ⟨events', stats', started', -, heq⟩ := h.akin
  exact ⟨h.waits, hstate, events, stats, started, fun hne => absurd h.waits hne,
    congrArg (aside events stats started) heq⟩

theorem Apart.action (h : Apart s t) (ha : ActionStep t tr t') :
    Apart s t' ∧ ∀ a ∈ tr, Quiet a := by
  have hnot {state : DuplexLinkState} (ht : t.state = state) (hstate : state ∉ restartStates) :
      Apart s t' ∧ ∀ a ∈ tr, Quiet a := absurd (ht ▸ h.restarts) hstate
  have hrefused {first rest : List LinkAction} (hr : StartRefused t first)
      (hrest : ∀ a ∈ rest, Quiet a) : ∀ a ∈ first ++ rest, Quiet a := by
    cases hr with
    | responderRx ht => simpa [Quiet] using hrest
    | requestTx ht => exact absurd (ht ▸ h.restarts) (by decide)
    | responseRx ht => exact absurd (ht ▸ h.restarts) (by decide)
    | responseTx ht => exact absurd (ht ▸ h.restarts) (by decide)
    | unanswered ht => exact absurd (ht ▸ h.restarts) (by decide)
  cases ha with
  | none => exact ⟨h, by simp⟩
  | requestTx _ _ ht => exact hnot ht (by decide)
  | responseRx _ _ ht => exact hnot ht (by decide)
  | responderRx now => exact ⟨h.move (by decide) _ _ now, by simp [Quiet]⟩
  | responseTx _ ht => exact hnot ht (by decide)
  | refused elapsed hr => exact ⟨h, hrefused hr (by simp [Quiet])⟩
  | requestLost _ _ _ ht => exact hnot ht (by decide)
  | requestRestarted _ _ ht => exact hnot ht (by decide)
  | lost elapsed now hr =>
    have herror : DuplexLinkState.error ∈ restartStates := by decide
    exact ⟨h.move herror _ _ now, hrefused hr (by simp [Quiet, recoveryEvent])⟩
  | responseRxRetry _ ht => exact hnot ht (by decide)
  | responderRestarted elapsed now => exact ⟨h.move h.restarts _ _ now, by simp [Quiet]⟩
  | responseGivenUp _ _ ht => exact hnot ht (by decide)

theorem Apart.timeouts (h : Apart s t) (ht : TimeoutStep t tr t') :
    Apart s t' ∧ ∀ a ∈ tr, Quiet a := by
  have hnot {state : DuplexLinkState} (ht : t.state = state) (hstate : state ∉ restartStates) :
      Apart s t' ∧ ∀ a ∈ tr, Quiet a := absurd (ht ▸ h.restarts) hstate
  cases ht with
  | none hn =>
    cases hn with
    | none => exact ⟨h, by simp⟩
    | response _ ht => exact hnot ht (by decide)
    | transmission _ ht =>
      rcases ht with ht | ht
      · exact hnot ht (by decide)
      · exact hnot ht (by decide)
  | response _ ht => exact hnot ht (by decide)
  | responseLost _ _ ht => exact hnot ht (by decide)
  | requestTx _ ht => exact hnot ht (by decide)
  | responseTx _ _ ht => exact hnot ht (by decide)
  | transmissionLost _ _ ht =>
    rcases ht with ht | ht
    · exact hnot ht (by decide)
    · exact hnot ht (by decide)

/-- **A turn of the second service on its own**, without a radio event. -/
theorem Apart.turn (h : Apart s t) {turn : Turn} (hturn : turn = .call .process ∨ turn = .next)
    (ht : Trace (turn.run q t) tr (q', t')) (hno : ∀ event, atTake (some event) ∉ tr) :
    Apart s t' ∧ ∀ a ∈ tr, Quiet a := by
  rcases hturn with rfl | rfl
  · rcases trace_begin_process ht with ⟨rfl, -, rfl⟩ | ⟨-, -, rfl, -, rfl⟩
    · exact ⟨h, by simp⟩
    · exact ⟨h, by simp [Quiet]⟩
  · cases q with
    | outside =>
      obtain ⟨rfl, -, rfl⟩ := trace_left ht
      exact ⟨h, by simp⟩
    | polling =>
      rcases trace_polling ht with ⟨rfl, -, rfl⟩ | ⟨event, rest, rfl, -, -⟩
      · exact ⟨h, by simp [Quiet]⟩
      · exact absurd List.mem_cons_self (hno event)
    | timeouts =>
      obtain ⟨u, hu, heq⟩ := trace_continued ht
      obtain ⟨-, rfl⟩ := Prod.mk.inj heq
      exact h.timeouts (trace_processTimeouts hu)
    | action =>
      obtain ⟨u, hu, heq⟩ := trace_continued ht
      obtain ⟨-, rfl⟩ := Prod.mk.inj heq
      exact h.action (trace_processStateAction hu)

theorem Apart.hears (h : Apart s t) (ht : t.state = .responderRx) (hc : t.config = config)
    (hr : t.config.role = .responder) (he : event.type = .rxDone)
    (hf : ForeignFrame config frame reason status packet)
    (htr : Trace (t.goOn .polling) (atTake (some event) :: atRead (some frame) :: tr) (q', t')) :
    Apart s t' ∧ ∀ a ∈ tr, Quiet a := by
  rcases trace_polling htr with ⟨heq, -, -⟩ | ⟨taken, rest, heq, hevent, -⟩
  · simp at heq
  · obtain ⟨htake, rfl⟩ := List.cons.inj heq
    obtain rfl : event = taken := by simpa using htake
    obtain ⟨now, rfl, rfl⟩ := trace_foreignFrame ht hc hr he hf hevent
    obtain ⟨events, stats, hmoved⟩ := refused_aside t frame reason status packet now
    rw [hmoved]
    exact ⟨h.move (by decide) events stats now, by simp [Quiet, invalidEvent]⟩

theorem setResponsePayload_state (s : DuplexLinkService) (payload : List UInt8) :
    (s.setResponsePayload payload).2.state = s.state := by
  rw [setResponsePayload]
  split_ifs <;> rfl

theorem setResponsePayload_of_state (s : DuplexLinkService) (payload : List UInt8)
    (state : DuplexLinkState) : ({ s with state := state }.setResponsePayload payload).2 =
      { (s.setResponsePayload payload).2 with state := state } := by
  rw [setResponsePayload, setResponsePayload]
  dsimp only
  split_ifs <;> rfl

theorem trace_notIdle {messageType : LinkMessageType} {payload : List UInt8} {started : Bool}
    (hs : s.state ≠ .idle) (h : Trace (s.prepareRequest messageType payload) tr (started, s')) :
    tr = [] ∧ s' = s := by
  rcases trace_prepareRequest h with ⟨-, rfl, rfl⟩ | ⟨-, hcan, -⟩
  · exact ⟨rfl, rfl⟩
  · exact absurd hcan.idle hs

theorem Apart.afterTake (h : Apart s t) : Apart s.afterTake t.afterTake := by
  obtain ⟨events₁, h₁⟩ := afterTake_eq s
  obtain ⟨events₂, h₂⟩ := afterTake_eq t
  obtain ⟨events, stats, started, hs, heq⟩ := h.akin
  rw [h₁, h₂]
  exact ⟨h.waits, h.restarts, events₂, stats, started, hs,
    congrArg (fun u => { u with events := events₂ }) heq⟩

theorem Apart.request (h : Apart s t) {messageType : LinkMessageType} {payload : List UInt8}
    (hs : Trace (do
      let (_, s) ← s.prepareRequest messageType payload
      pure (.outside, s)) tr (p', s'))
    (ht : Trace (do
      let (_, t) ← t.prepareRequest messageType payload
      pure (.outside, t)) tr' (q', t')) : Apart s' t' ∧ tr = [] ∧ tr' = [] := by
  have hidle : s.state ≠ .idle := by
    rw [h.waits]
    decide
  have hidle' : t.state ≠ .idle := fun hidle => absurd (hidle ▸ h.restarts) (by decide)
  obtain ⟨⟨started, u⟩, hu, heq⟩ := trace_continued hs
  obtain ⟨⟨started', v⟩, hv, heq'⟩ := trace_continued ht
  obtain ⟨-, rfl⟩ := Prod.mk.inj heq
  obtain ⟨-, rfl⟩ := Prod.mk.inj heq'
  obtain ⟨rfl, rfl⟩ := trace_notIdle hidle hu
  obtain ⟨rfl, rfl⟩ := trace_notIdle hidle' hv
  exact ⟨h, rfl, rfl⟩

theorem Apart.call (h : Apart s t) {call : LinkCall} (hcall : call ≠ .process)
    (hs : Trace (s.begin call) tr (p', s')) (ht : Trace (t.begin call) tr' (q', t')) :
    Apart s' t' ∧ tr = [] ∧ tr' = [] := by
  have hreturn {u v : DuplexLinkService} (hs : Trace (pure (.outside, u) : LinkProg _) tr (p', s'))
      (ht : Trace (pure (.outside, v) : LinkProg _) tr' (q', t')) (huv : Apart u v) :
      Apart s' t' ∧ tr = [] ∧ tr' = [] := by
    obtain ⟨rfl, -, rfl⟩ := trace_left hs
    obtain ⟨rfl, -, rfl⟩ := trace_left ht
    exact ⟨huv, rfl, rfl⟩
  cases call with
  | setResponsePayload payload =>
    refine hreturn hs ht ⟨?_, ?_, ?_⟩
    · rw [setResponsePayload_state]
      exact h.waits
    · rw [setResponsePayload_state]
      exact h.restarts
    · rw [← setResponsePayload_of_state]
      exact h.akin.setResponsePayload payload
  | startData payload => exact h.request hs ht
  | startPing payload => exact h.request hs ht
  | process => exact absurd rfl hcall
  | takeEvent => exact hreturn hs ht h.afterTake
  | getState => exact hreturn hs ht h
  | isBusy => exact hreturn hs ht h
  | getStats => exact hreturn hs ht h

/-! ## Two runs -/

/-- Two runs of a service that are told the same, but for what the second has of its own.  Both
take a turn only while they are in the same state, so that after a foreign frame the second has to
get back to `RESPONDER_RX` first. -/
inductive Disturbed (config : DuplexLinkConfig) :
    List LinkAction → CallPoint → DuplexLinkService →
    List LinkAction → CallPoint → DuplexLinkService → Prop
  | init {tr : List LinkAction} {s : DuplexLinkService} : Trace (init config) tr (some s) →
      Disturbed config tr .outside s tr .outside s
  /-- Both take the same turn, with the same answers. -/
  | turn {log log' tr tr' : List LinkAction} {p p' q' : CallPoint} {s s' t t' : DuplexLinkService}
      (turn : Turn) : Disturbed config log p s log' p t → t.state = s.state → turn.At p →
      Trace (turn.run p s) tr (p', s') → Trace (turn.run p t) tr' (q', t') →
      tr'.filterMap given = tr.filterMap given →
      Disturbed config (log ++ tr) p' s' (log' ++ tr') q' t'
  /-- The application makes the same call of both, also while the second is not back yet. -/
  | call {log log' tr tr' : List LinkAction} {p' q' : CallPoint} {s s' t t' : DuplexLinkService}
      (call : LinkCall) : call ≠ .process → Disturbed config log .outside s log' .outside t →
      Trace (s.begin call) tr (p', s') → Trace (t.begin call) tr' (q', t') →
      tr'.filterMap given = tr.filterMap given →
      Disturbed config (log ++ tr) p' s' (log' ++ tr') q' t'
  /-- The application takes one more event from the second. -/
  | taken {log log' : List LinkAction} {p : CallPoint} {s t : DuplexLinkService} :
      Disturbed config log p s log' .outside t → Disturbed config log p s log' .outside t.afterTake
  /-- The second takes a turn of its own while the first waits, and hears nothing. -/
  | alone {log log' tr' : List LinkAction} {p q q' : CallPoint} {s t t' : DuplexLinkService}
      (turn : Turn) : Disturbed config log p s log' q t → s.state = .responderRx →
      turn = .call .process ∨ turn = .next → turn.At q → Trace (turn.run q t) tr' (q', t') →
      (∀ event, atTake (some event) ∉ tr') → Disturbed config log p s (log' ++ tr') q' t'
  /-- The second hears a foreign frame while it waits. -/
  | frame {log log' tr' : List LinkAction} {p q' : CallPoint} {s t t' : DuplexLinkService}
      {event : PacketRadioEvent} {frame : PacketRadioRxFrame} {reason : DuplexLinkInvalidReason}
      {status : LinkPacketStatus} {packet : Option LinkPacket} :
      Disturbed config log p s log' .polling t → t.state = .responderRx → event.type = .rxDone →
      ForeignFrame config frame reason status packet →
      Trace (t.goOn .polling) (atTake (some event) :: atRead (some frame) :: tr') (q', t') →
      Disturbed config log p s (log' ++ atTake (some event) :: atRead (some frame) :: tr') q' t'

def IsRun (config : DuplexLinkConfig) (log : List LinkAction) (p : CallPoint)
    (s : DuplexLinkService) : Prop :=
  ∃ entries, Session config entries p s ∧ actions entries = log

theorem IsRun.turn (h : IsRun config log p s) {turn : Turn} (hat : turn.At p)
    (ht : Trace (turn.run p s) tr (p', s')) : IsRun config (log ++ tr) p' s' := by
  obtain ⟨entries, hsession, rfl⟩ := h
  obtain ⟨entries', hsteps, rfl⟩ := Turn.steps hat ht
  exact ⟨entries ++ entries', hsession.steps hsteps, actions_append entries entries'⟩

/-- **Both runs are sessions.** -/
theorem Disturbed.isRun (h : Disturbed config log p s log' q t) :
    IsRun config log p s ∧ IsRun config log' q t := by
  induction h with
  | init h => exact ⟨⟨_, .init h, actions_map _⟩, _, .init h, actions_map _⟩
  | turn turn _ _ hat hs ht _ ih => exact ⟨ih.1.turn hat hs, ih.2.turn hat ht⟩
  | call start _ _ hs ht _ ih =>
    have hat : (Turn.call start).At .outside := rfl
    exact ⟨ih.1.turn hat hs, ih.2.turn hat ht⟩
  | @taken log log' p s t _ ih =>
    have hat : (Turn.call .takeEvent).At .outside := rfl
    have htake : Trace ((Turn.call .takeEvent).run .outside t) [] (.outside, t.afterTake) :=
      trace_pure_iff.mpr ⟨rfl, rfl⟩
    have hrun := ih.2.turn hat htake
    rw [List.append_nil] at hrun
    exact ⟨ih.1, hrun⟩
  | alone turn _ _ _ hat ht _ ih => exact ⟨ih.1, ih.2.turn hat ht⟩
  | frame _ _ _ _ htr ih =>
    have hat : Turn.next.At .polling := Turn.next_at (by decide)
    exact ⟨ih.1, ih.2.turn hat htr⟩

/-- **Every session may be disturbed**: without foreign frames the second run is the first. -/
theorem Session.disturbed {entries : List LogEntry} (h : Session config entries p s) :
    Disturbed config (actions entries) p s (actions entries) p s := by
  induction h with
  | init h =>
    rw [actions_map]
    exact .init h
  | step _ hstep ih =>
    obtain ⟨turn, hat, ht⟩ := hstep.turn
    rw [actions_append]
    exact .turn turn ih rfl hat ht ht rfl

def Together (p : CallPoint) (s : DuplexLinkService) (q : CallPoint) (t : DuplexLinkService) :
    Prop := (q = p ∧ Akin s t) ∨ Apart s t

theorem Together.akin (h : Together p s q t) (ht : t.state = s.state) : Akin s t :=
  h.elim And.right fun hapart => hapart.akin_of_state ht

theorem Together.apart (h : Together p s q t) (hs : s.state = .responderRx) : Apart s t :=
  h.elim (fun hakin => hakin.2.apart hs) id

theorem Together.waits_of_state (h : Together p s q t) (ht : t.state = .responderRx) :
    s.state = .responderRx := by
  rcases h with ⟨-, hakin⟩ | hapart
  · exact hakin.state_eq.symm.trans ht
  · exact hapart.waits

theorem Together.taken (h : Together p s .outside t) : Together p s .outside t.afterTake := by
  obtain ⟨events, heq⟩ := afterTake_eq t
  rw [heq]
  rcases h with ⟨hp, events', stats, started, hs, rfl⟩ | hapart
  · exact .inl ⟨hp, events, stats, started, hs, rfl⟩
  · exact .inr (hapart.move hapart.restarts events t.stats t.stateStartedMs)

/-- Two logs with the same decisions and the same transmissions. -/
structure SameOutput (log log' : List LinkAction) : Prop where
  decisions : log'.filterMap decision = log.filterMap decision
  transmissions : log'.filterMap transmission = log.filterMap transmission

theorem SameOutput.append (h : SameOutput log log') (htr : SameOutput tr tr') :
    SameOutput (log ++ tr) (log' ++ tr') := by
  constructor
  · rw [List.filterMap_append, List.filterMap_append, h.decisions, htr.decisions]
  · rw [List.filterMap_append, List.filterMap_append, h.transmissions, htr.transmissions]

theorem Quiet.decision_eq {a : LinkAction} (h : Quiet a) : decision a = none := by
  obtain ⟨o, x⟩ := a
  cases o with
  | published event stored =>
    refine if_neg fun htype => h ?_
    rcases htype with htype | htype
    · rw [htype]
      decide
    · rw [htype]
      decide
  | _ => rfl

theorem Quiet.transmission_eq {a : LinkAction} (h : Quiet a) : transmission a = none := by
  obtain ⟨o, x⟩ := a
  cases o with
  | tryStartTx data => exact h.elim
  | _ => rfl

theorem sameOutput_quiet (h : ∀ a ∈ tr, Quiet a) : SameOutput [] tr :=
  ⟨List.filterMap_eq_nil_iff.mpr fun a ha => (h a ha).decision_eq,
    List.filterMap_eq_nil_iff.mpr fun a ha => (h a ha).transmission_eq⟩

theorem Disturbed.together (h : Disturbed config log p s log' q t) :
    Together p s q t ∧ SameOutput log log' := by
  induction h with
  | @init tr s _ => exact ⟨.inl ⟨rfl, .refl s⟩, rfl, rfl⟩
  | turn turn _ hstate _ hs ht hgiven ih =>
    obtain ⟨hpoint, hakin, hdecisions, htransmissions⟩ :=
      (ih.1.akin hstate).sameTurn hs ht hgiven
    exact ⟨.inl ⟨hpoint, hakin⟩, ih.2.append ⟨hdecisions, htransmissions⟩⟩
  | @call log log' tr tr' p' q' s s' t t' start hcall _ hs ht hgiven ih =>
    rcases ih.1 with ⟨-, hakin⟩ | hapart
    · have hturn : Trace ((Turn.call start).run .outside s) tr (p', s') := hs
      obtain ⟨hpoint, hakin, hdecisions, htransmissions⟩ := hakin.sameTurn hturn ht hgiven
      exact ⟨.inl ⟨hpoint, hakin⟩, ih.2.append ⟨hdecisions, htransmissions⟩⟩
    · obtain ⟨hnext, rfl, rfl⟩ := hapart.call hcall hs ht
      exact ⟨.inr hnext, ih.2.append ⟨rfl, rfl⟩⟩
  | taken _ ih => exact ⟨ih.1.taken, ih.2⟩
  | @alone log log' tr' p q q' s t t' turn _ hs hturn _ ht hno ih =>
    obtain ⟨hnext, hquiet⟩ := (ih.1.apart hs).turn hturn ht hno
    have hlog := ih.2.append (sameOutput_quiet hquiet)
    rw [List.append_nil] at hlog
    exact ⟨.inr hnext, hlog⟩
  | @frame log log' tr' p q' s t t' event frame reason status packet h hstate he hf htr ih =>
    obtain ⟨-, entries, hsession, -⟩ := h.isRun
    obtain ⟨hconsistent, hconfig⟩ := hsession.consistent
    have hs : s.state = .responderRx := ih.1.waits_of_state hstate
    obtain ⟨hnext, hquiet⟩ := (ih.1.apart hs).hears hstate hconfig
      (hconsistent.responder hstate) he hf htr
    have hrest := ih.2.append (sameOutput_quiet hquiet)
    rw [List.append_nil] at hrest
    refine ⟨.inr hnext, ?_, ?_⟩
    · rw [← hrest.decisions, List.filterMap_append, List.filterMap_append]
      rfl
    · rw [← hrest.transmissions, List.filterMap_append, List.filterMap_append]
      rfl

/-! ## Foreign frames may always come -/

theorem trace_next_timeouts (hs : s.state = .startResponderRx) :
    Trace (Turn.next.run .timeouts s) [] (.action, s) := by
  refine trace_of_continued (trace_processTimeouts_nil (s := s) ?_) ?_
  · rw [hs]
    decide
  · rw [CallPoint.unlessError, if_neg (by simp [hs])]

theorem trace_next_action (hs : s.state = .startResponderRx) (now : UInt32) :
    Trace (Turn.next.run .action s) [atRx 0 true, atNow now] (.outside, s.goto .responderRx now) :=
  trace_of_continued (trace_responderRx hs now) rfl

theorem trace_foreignFrame_of (hs : s.state = .responderRx) (hc : s.config = config)
    (hr : s.config.role = .responder) (hf : ForeignFrame config frame reason status packet)
    (now : UInt32) :
    Trace (s.handleRadioEvent rxDone) (atRead (some frame) ::
        [atPush s (invalidEvent reason status packet frame), atNow now])
      (((s.heard frame).refused reason status packet frame).goto .startResponderRx now) := by
  refine trace_request hr hs ?_
  rw [handleResponderFrame_eq, hf.checkRequest hc]
  refine trace_bind_iff.mpr ⟨_, [_], _, trace_publishInvalid.mpr ⟨rfl, rfl⟩, ?_, rfl⟩
  exact trace_setState.mpr ⟨now, rfl, rfl⟩

/-- A successful restart of the second run, up to its next poll. -/
theorem Disturbed.restart (h : Disturbed config log p s log' .polling t)
    (hs : s.state = .responderRx) (ht : t.state = .startResponderRx) :
    Disturbed config log p s (log' ++ [atTake none, atRx 0 true, atNow 0, atRadioProcess])
      .polling (t.goto .responderRx 0) := by
  have hpolled := h.alone .next hs (.inr rfl) nofun (trace_next_polling t) (by simp)
  have htimed := hpolled.alone .next hs (.inr rfl) nofun (trace_next_timeouts ht) (by simp)
  have hrestarted := htimed.alone .next hs (.inr rfl) nofun (trace_next_action ht 0) (by simp)
  have hcalled := hrestarted.alone (.call .process) hs (.inl rfl) rfl
    (trace_call_process (by simp)) (by simp)
  simpa using hcalled

def heardFrame : LinkAction → Option PacketRadioRxFrame
  | ⟨.readRxFrame, frame⟩ => frame
  | _ => none

/-- **Any number of foreign frames may come while the second run waits.** -/
theorem Disturbed.hears (h : Disturbed config log p s log' .polling t)
    (hs : s.state = .responderRx) (ht : t.state = .responderRx) (frames : List PacketRadioRxFrame)
    (hf : ∀ frame ∈ frames, ∃ reason status packet,
      ForeignFrame config frame reason status packet) :
    ∃ tr t', Disturbed config log p s (log' ++ tr) .polling t' ∧ t'.state = .responderRx ∧
      tr.filterMap heardFrame = frames := by
  induction frames generalizing log' t with
  | nil => exact ⟨[], t, (List.append_nil log').symm ▸ h, ht, rfl⟩
  | cons frame frames ih =>
    obtain ⟨reason, status, packet, hframe⟩ := hf frame List.mem_cons_self
    obtain ⟨-, entries, hsession, -⟩ := h.isRun
    obtain ⟨hconsistent, hconfig⟩ := hsession.consistent
    have hforeign := trace_foreignFrame_of ht hconfig (hconsistent.responder ht) hframe 0
    have hback := (h.frame ht rfl hframe (trace_next_event hforeign rfl)).restart hs rfl
    obtain ⟨tr, t', hnext, hwaits, hheard⟩ :=
      ih hback rfl fun frame' hmem => hf frame' (List.mem_cons_of_mem frame hmem)
    rw [List.append_assoc, List.append_assoc] at hnext
    refine ⟨_, t', hnext, hwaits, ?_⟩
    rw [← hheard]
    rfl

/-- What foreign frames in the second run leave as it is. -/
structure Undisturbed (config : DuplexLinkConfig) (log : List LinkAction) (p : CallPoint)
    (s : DuplexLinkService) (log' : List LinkAction) (q : CallPoint) (t : DuplexLinkService) :
    Prop where
  sameOutput : SameOutput log log'
  canTurn : q = p → t.state = s.state → ∀ {turn : Turn} {tr p' s'}, turn.At p →
    Trace (turn.run p s) tr (p', s') → ∃ tr' t', tr'.filterMap given = tr.filterMap given ∧
      Disturbed config (log ++ tr) p' s' (log' ++ tr') p' t'
  canHear : q = .polling → t.state = .responderRx → ∀ frames : List PacketRadioRxFrame,
    (∀ frame ∈ frames, ∃ reason status packet, ForeignFrame config frame reason status packet) →
      ∃ tr t', Disturbed config log p s (log' ++ tr) .polling t' ∧ t'.state = s.state ∧
        tr.filterMap heardFrame = frames

theorem Disturbed.undisturbed (h : Disturbed config log p s log' q t) :
    Undisturbed config log p s log' q t := by
  obtain ⟨htogether, hsame⟩ := h.together
  constructor
  · exact hsame
  · rintro rfl hstate turn tr p' s' hat hs
    obtain ⟨tr', t', ht, hgiven⟩ := (htogether.akin hstate).canTurn hs
    exact ⟨tr', t', hgiven, h.turn turn hstate hat hs ht hgiven⟩
  · rintro rfl ht frames hf
    have hs : s.state = .responderRx := htogether.waits_of_state ht
    rw [hs]
    exact h.hears hs ht frames hf

/-- **Foreign frames cannot disturb a responder.** While it waits it rejects one with a single
report and changes nothing else.  Any number of them may come at any such moment of a run, each
followed by a restart: it takes the same decisions and makes the same transmissions, and it can
go on as it would without them. -/
theorem foreign_frames_harmless (config : DuplexLinkConfig) :
    (∀ {entries p s}, Session config entries p s → s.state = .responderRx →
      ∀ {event frame reason status packet tr s'}, event.type = .rxDone →
        ForeignFrame config frame reason status packet →
        Trace (s.handleRadioEvent event) (atRead (some frame) :: tr) s' →
        Rejected s reason status tr s') ∧
      (∀ {entries p s}, Session config entries p s →
        Disturbed config (actions entries) p s (actions entries) p s) ∧
      ∀ {log p s log' q t}, Disturbed config log p s log' q t →
        Undisturbed config log p s log' q t := by
  refine ⟨?_, fun h => h.disturbed, fun h => h.undisturbed⟩
  intro entries p s h hs event frame reason status packet tr s' he hf ht
  exact h.rejected hs he hf ht

/-! ## A responder that hears two empty frames before a request -/

def emptyFrame : PacketRadioRxFrame := ⟨[], 0, 0⟩

theorem emptyFrame_foreign :
    ForeignFrame answererConfig emptyFrame .decode .invalidFrameLength none := .decode rfl

theorem readyAnswerer_session :
    ∃ entries, Session answererConfig entries .polling readyAnswerer := by
  obtain ⟨history, hrun⟩ := readyAnswerer_run
  obtain ⟨entries, hsession, -⟩ := hrun.session
  exact ⟨_, hsession.step (.process (by decide) (by decide))⟩

def hearsPing : List LinkAction :=
  [atTake (some rxDone), atRead (some answererPingFrame),
    atPush readyAnswerer (requestEvent answererPing answererPingFrame), atNow 0]

theorem trace_hearsPing : Trace (Turn.next.run .polling readyAnswerer) hearsPing
    (.polling, readyAnswerer.accepting answererPingFrame answererPing 0) := by
  have hencode := response_encode (rfl : readyAnswerer.PayloadReady) answererPing
  have hreceived := trace_received (checkRequest_answererPing rfl) (by decide) hencode 0
  exact trace_next_event (trace_request rfl rfl hreceived) rfl

theorem foreign_frames_harmless_answerer : ∃ log heard tr s t,
    Disturbed answererConfig (log ++ hearsPing) .polling s (log ++ heard ++ tr) .polling t ∧
      heard.filterMap heardFrame = [emptyFrame, emptyFrame] ∧
      SameOutput (log ++ hearsPing) (log ++ heard ++ tr) ∧
      ∃ rest u, Rejected readyAnswerer .decode .invalidFrameLength rest u := by
  obtain ⟨hrejected, hdisturbed, hundisturbed⟩ := foreign_frames_harmless answererConfig
  obtain ⟨entries, hsession⟩ := readyAnswerer_session
  have hforeign : ∀ frame ∈ [emptyFrame, emptyFrame], ∃ reason status packet,
      ForeignFrame answererConfig frame reason status packet := by
    intro frame hmem
    obtain rfl : frame = emptyFrame := by simpa using hmem
    exact ⟨_, _, _, emptyFrame_foreign⟩
  obtain ⟨heard, t, hheard, ht, hframes⟩ :=
    (hundisturbed (hdisturbed hsession)).canHear rfl rfl _ hforeign
  have hat : Turn.next.At .polling := Turn.next_at (by decide)
  obtain ⟨tr, t', -, hnext⟩ := (hundisturbed hheard).canTurn rfl ht hat trace_hearsPing
  have hreject := hrejected hsession rfl rfl emptyFrame_foreign
    (trace_foreignFrame_of rfl rfl rfl emptyFrame_foreign 0)
  exact ⟨_, heard, tr, _, t', hnext, hframes, (hundisturbed hnext).sameOutput, _, _, hreject⟩

end DuplexLinkService

end RadioConnection
