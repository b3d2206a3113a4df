import RadioConnection.Link.Invariant
import RadioConnection.Link.Sx128xPacketRadio

/-!
# The link service on the radio adapter

The service with the adapter as its radio, and every driver call answered in any
way.  Both have a state of their own, and they only tell each other of a change
through the answers of the adapter and its queue of four events.

* `Settled`: the adapter is where the state of the service wants it and has
  nothing to report; `Reports` adds the events that a look at the radio can
  bring.
* `EventStep.landed`, `TimeoutStep.landed`: an event or a time-out leaves the
  two settled again, or the service in its error state.
* `ActionStep.inStep`: the start at the end of a call may also stop the adapter,
  which then has one error to report.
* `Composed.inStep`, `Composed.follows`: so after every call the two are in step,
  and no event was ever refused.
* `Composed.process_returns`: the event loop of a call takes at most one event.
-/

namespace RadioConnection

namespace DuplexLinkService

open Interaction
open Interaction.Prog
open Sx128xPacketRadio (NoRefusal Shows Failed)

/-- The adapter, and the calls of the driver that it has made. -/
abbrev AdapterWorld : Type := Sx128xPacketRadio × List DriverAction

def adapterEnv : Env LinkOp LinkOp.Ans AdapterWorld := Env.ofHandler Sx128xPacketRadio.answer

/-- The state in which a service in this state wants the adapter. -/
def radioState : DuplexLinkState → Option PacketRadioState
  | .idle | .startRequestTx | .startResponseRx | .startResponderRx | .startResponseTx => some .idle
  | .waitRequestTxDone | .waitResponseTxDone => some .tx
  | .waitResponse | .responderRx => some .rx
  | .uninitialized | .error => none

/-- The adapter shows this and has refused no push. -/
structure Sees (w : AdapterWorld) (state : PacketRadioState) (queue : List PacketRadioEvent)
    (available : Bool) : Prop where
  shows : Shows w.1 state queue available
  quiet : NoRefusal w.2

/-- The adapter has stopped with one error to report. -/
def Fell (w : AdapterWorld) : Prop := Failed w.1 ∧ NoRefusal w.2

/-- The adapter is where the service wants it. -/
def Settled (s : DuplexLinkService) (w : AdapterWorld) : Prop :=
  ∃ state, radioState s.state = some state ∧ Sees w state [] false

/-- Settled, or the service has given up on a recovery that failed. -/
def Landed (s : DuplexLinkService) (w : AdapterWorld) : Prop :=
  Settled s w ∨ (s.state = .error ∧ Fell w)

def InStep (s : DuplexLinkService) (w : AdapterWorld) : Prop :=
  Settled s w ∨ (s.state ∈ .error :: startStates ∧ Fell w)

/-! ## The calls of the service -/

section Calls

variable {w w' : AdapterWorld} {state : PacketRadioState} {queue : List PacketRadioEvent}
  {available : Bool}

def Silent : LinkAction → Prop
  | ⟨.nowMs, _⟩ | ⟨.elapsedMs _, _⟩ | ⟨.published _ _, _⟩ | ⟨.logRetry _ _ _, _⟩ => True
  | _ => False

theorem env_silent {a : LinkAction} (ha : Silent a) (h : adapterEnv a.1 w a.2 w') :
    w'.1 = w.1 ∧ (NoRefusal w.2 → NoRefusal w'.2) := by
  obtain ⟨tr, ht, hlog⟩ := h
  obtain ⟨o, x⟩ := a
  cases o with
  | nowMs =>
    obtain ⟨now, tr, rfl, h₁⟩ := Sx128xPacketRadio.trace_driver.mp ht
    obtain ⟨rfl, he⟩ := trace_pure_iff.mp h₁
    exact ⟨(Prod.mk.inj he).2, fun hq => by simp [hlog, hq]⟩
  | elapsedMs since =>
    obtain ⟨now, tr, rfl, h₁⟩ := Sx128xPacketRadio.trace_driver.mp ht
    obtain ⟨rfl, he⟩ := trace_pure_iff.mp h₁
    exact ⟨(Prod.mk.inj he).2, fun hq => by simp [hlog, hq]⟩
  | published event stored =>
    obtain ⟨rfl, he⟩ := trace_pure_iff.mp ht
    exact ⟨(Prod.mk.inj he).2, fun hq => by simp [hlog, hq]⟩
  | logRetry sequence retryCount maxRetries =>
    obtain ⟨rfl, he⟩ := trace_pure_iff.mp ht
    exact ⟨(Prod.mk.inj he).2, fun hq => by simp [hlog, hq]⟩
  | _ => exact ha.elim

theorem path_silent {tr : List LinkAction} (htr : ∀ a ∈ tr, Silent a)
    (h : adapterEnv.Path w tr w') : w'.1 = w.1 ∧ (NoRefusal w.2 → NoRefusal w'.2) := by
  induction tr generalizing w with
  | nil =>
    obtain rfl := h
    exact ⟨rfl, id⟩
  | cons a tr ih =>
    obtain ⟨m, hm, h⟩ := h
    obtain ⟨ha, htr⟩ := List.forall_mem_cons.mp htr
    obtain ⟨he₁, hq₁⟩ := env_silent ha hm
    obtain ⟨he₂, hq₂⟩ := ih htr h
    exact ⟨he₂.trans he₁, fun hq => hq₂ (hq₁ hq)⟩

theorem Sees.path_silent (hw : Sees w state queue available) {tr : List LinkAction}
    (htr : ∀ a ∈ tr, Silent a) (h : adapterEnv.Path w tr w') : Sees w' state queue available := by
  obtain ⟨he, hq⟩ := DuplexLinkService.path_silent htr h
  exact ⟨he ▸ hw.shows, hq hw.quiet⟩

theorem Sees.published (hw : Sees w state queue available) {event : DuplexLinkEvent} {stored : Bool}
    (h : adapterEnv (.published event stored) w () w') : Sees w' state queue available := by
  obtain ⟨he, hq⟩ := env_silent (a := atPublished event stored) trivial h
  exact ⟨he ▸ hw.shows, hq hw.quiet⟩

theorem Sees.elapsed (hw : Sees w state queue available) {since elapsed : UInt32}
    (h : adapterEnv (.elapsedMs since) w elapsed w') : Sees w' state queue available := by
  obtain ⟨he, hq⟩ := env_silent (a := atElapsed since elapsed) trivial h
  exact ⟨he ▸ hw.shows, hq hw.quiet⟩

theorem Fell.path_silent (hw : Fell w) {tr : List LinkAction}
    (htr : ∀ a ∈ tr, Silent a) (h : adapterEnv.Path w tr w') : Fell w' := by
  obtain ⟨he, hq⟩ := DuplexLinkService.path_silent htr h
  exact ⟨he ▸ hw.1, hq hw.2⟩

theorem Sees.recover (hw : Sees w state queue available) {recovered : Bool}
    (h : adapterEnv .recover w recovered w') :
    (recovered = true ∧ Sees w' .idle [] false) ∨ (recovered = false ∧ Fell w') := by
  obtain ⟨tr, ht, hlog⟩ := h
  obtain ⟨hq, hr⟩ := Sx128xPacketRadio.shows_recover hw.shows ht
  have hquiet : NoRefusal w'.2 := by simp [hlog, hw.quiet, hq]
  rcases hr with ⟨hr, hs⟩ | ⟨hr, hf⟩
  · exact .inl ⟨hr, hs, hquiet⟩
  · exact .inr ⟨hr, hf, hquiet⟩

theorem Sees.readRxFrame (hw : Sees w state queue available) {frame : Option PacketRadioRxFrame}
    (h : adapterEnv .readRxFrame w frame w') : Sees w' state queue false := by
  obtain ⟨tr, ht, hlog⟩ := h
  obtain ⟨rfl, he⟩ := trace_pure_iff.mp ht
  exact ⟨Sx128xPacketRadio.shows_readRxFrame hw.shows he.symm, by simp [hlog, hw.quiet]⟩

theorem Sees.takeEvent (hw : Sees w state queue available) {event : Option PacketRadioEvent}
    (h : adapterEnv .takeEvent w event w') :
    event = queue.head? ∧ Sees w' state queue.tail available := by
  obtain ⟨tr, ht, hlog⟩ := h
  obtain ⟨rfl, he⟩ := trace_pure_iff.mp ht
  obtain ⟨hhead, hs⟩ := Sx128xPacketRadio.shows_takeEvent hw.shows he.symm
  exact ⟨hhead, hs, by simp [hlog, hw.quiet]⟩

def StartAnswered (state : PacketRadioState) (started : Bool) (w : AdapterWorld) : Prop :=
  (started = true ∧ Sees w state [] false) ∨ (started = false ∧ (Sees w .idle [] false ∨ Fell w))

theorem Sees.startAnswered {tr : List DriverAction} {started : Bool}
    (hw : Sees w .idle [] false) (hlog : w'.2 = w.2 ++ tr)
    (h : NoRefusal tr ∧ Sx128xPacketRadio.Started state started w'.1) :
    StartAnswered state started w' := by
  obtain ⟨hq, hs⟩ := h
  have hquiet : NoRefusal w'.2 := by simp [hlog, hw.quiet, hq]
  rcases hs with ⟨ht, hs⟩ | ⟨hf, hs | hs⟩
  · exact .inl ⟨ht, hs, hquiet⟩
  · exact .inr ⟨hf, .inl ⟨hs, hquiet⟩⟩
  · exact .inr ⟨hf, .inr ⟨hs, hquiet⟩⟩

theorem Sees.tryStartTx (hw : Sees w .idle [] false) {data : List UInt8} {started : Bool}
    (h : adapterEnv (.tryStartTx data) w started w') : StartAnswered .tx started w' := by
  obtain ⟨tr, ht, hlog⟩ := h
  exact hw.startAnswered hlog (Sx128xPacketRadio.shows_tryStartTx hw.shows ht)

theorem Sees.tryStartRx (hw : Sees w .idle [] false) {timeoutMs : UInt32} {started : Bool}
    (h : adapterEnv (.tryStartRx timeoutMs) w started w') : StartAnswered .rx started w' := by
  obtain ⟨tr, ht, hlog⟩ := h
  exact hw.startAnswered hlog (Sx128xPacketRadio.shows_tryStartRx hw.shows ht)

end Calls

/-! ## A look at the radio -/

/-- The adapter has `event` to report, which goes with the state of the service; `queue` is what
still waits. -/
inductive Reports (s : DuplexLinkService) (event : PacketRadioEvent)
    (queue : List PacketRadioEvent) (w : AdapterWorld) : Prop
  | deviceError : event.type = .deviceError → Sees w .error queue false → Reports s event queue w
  | noFrame : radioState s.state = some .rx → event.type ∈ [.crcError, .rxTimeout] →
      Sees w .idle queue false → Reports s event queue w
  | rxDone : radioState s.state = some .rx → event.type = .rxDone → Sees w .idle queue true →
      Reports s event queue w
  | txDone : radioState s.state = some .tx → event.type = .txDone → Sees w .idle queue false →
      Reports s event queue w

def Pending (s : DuplexLinkService) (w : AdapterWorld) : Prop :=
  Settled s w ∨ ∃ event, Reports s event [event] w

section

variable {s : DuplexLinkService} {w w' : AdapterWorld}

theorem Fell.reports (hw : Fell w) : ∃ event, Reports s event [event] w := by
  obtain ⟨⟨code, hs⟩, hq⟩ := hw
  exact ⟨⟨.deviceError, code⟩, .deviceError rfl ⟨hs, hq⟩⟩

/-- A look at the radio brings at most one event, and it goes with the state of the service. -/
theorem InStep.pending (h : InStep s w) (hp : adapterEnv .radioProcess w () w') :
    Pending s w' := by
  obtain ⟨tr, ht, hlog⟩ := hp
  rw [Sx128xPacketRadio.answer, trace_bind_iff] at ht
  obtain ⟨adapter, t₁, t₂, h₁, h₂, rfl⟩ := ht
  obtain ⟨rfl, he⟩ := trace_pure_iff.mp h₂
  obtain rfl : w'.1 = adapter := (Prod.mk.inj he).2
  rw [List.append_nil] at hlog
  rcases h with ⟨state, hstate, hw⟩ | ⟨-, hw⟩
  · obtain ⟨hq, hr⟩ := Sx128xPacketRadio.shows_process hw.shows h₁
    have hquiet : NoRefusal w'.2 := by simp [hlog, hw.quiet, hq]
    cases hr with
    | unchanged hs => exact .inl ⟨state, hstate, hs, hquiet⟩
    | failed hf => exact .inr (Fell.reports ⟨hf, hquiet⟩)
    | noFrame hrx htype hs => exact .inr ⟨_, .noFrame (hrx ▸ hstate) htype ⟨hs, hquiet⟩⟩
    | rxDone hrx hs => exact .inr ⟨_, .rxDone (hrx ▸ hstate) rfl ⟨hs, hquiet⟩⟩
    | txDone htx hs => exact .inr ⟨_, .txDone (htx ▸ hstate) rfl ⟨hs, hquiet⟩⟩
  · obtain ⟨⟨code, hs⟩, hq⟩ := hw
    obtain ⟨rfl, he⟩ := Sx128xPacketRadio.process_failed hs h₁
    rw [List.append_nil] at hlog
    exact .inr (Fell.reports ⟨⟨code, he ▸ hs⟩, hlog ▸ hq⟩)

theorem Reports.takeEvent {event : PacketRadioEvent} {taken : Option PacketRadioEvent}
    (h : Reports s event [event] w) (hp : adapterEnv .takeEvent w taken w') :
    taken = some event ∧ Reports s event [] w' := by
  cases h with
  | deviceError he hw =>
    obtain ⟨rfl, hw⟩ := hw.takeEvent hp
    exact ⟨rfl, .deviceError he hw⟩
  | noFrame hs he hw =>
    obtain ⟨rfl, hw⟩ := hw.takeEvent hp
    exact ⟨rfl, .noFrame hs he hw⟩
  | rxDone hs he hw =>
    obtain ⟨rfl, hw⟩ := hw.takeEvent hp
    exact ⟨rfl, .rxDone hs he hw⟩
  | txDone hs he hw =>
    obtain ⟨rfl, hw⟩ := hw.takeEvent hp
    exact ⟨rfl, .txDone hs he hw⟩

theorem Settled.takeEvent {taken : Option PacketRadioEvent} (h : Settled s w)
    (hp : adapterEnv .takeEvent w taken w') : taken = none ∧ Settled s w' := by
  obtain ⟨state, hstate, hw⟩ := h
  obtain ⟨rfl, hw⟩ := hw.takeEvent hp
  exact ⟨rfl, state, hstate, hw⟩

/-! ## Events and time-outs -/

theorem Landed.of_idle (hw : Sees w .idle [] false) (hs : s.state ∈ .idle :: startStates) :
    Landed s w := by
  refine .inl ⟨.idle, ?_, hw⟩
  simp only [startStates, List.mem_cons, List.not_mem_nil, or_false] at hs
  rcases hs with h | h | h | h | h <;> rw [h] <;> rfl

variable {s' : DuplexLinkService} {tr : List LinkAction}

theorem RetryOrFail.landed (h : RetryOrFail s tr s') (hw : Sees w .idle [] false)
    (hp : adapterEnv.Path w tr w') : Landed s' w' := by
  cases h with
  | inactive now _ => exact .of_idle (hw.path_silent (by simp [Silent]) hp) (by simp)
  | retry now _ _ => exact .of_idle (hw.path_silent (by simp [Silent]) hp) (by simp [startStates])
  | fail now _ _ => exact .of_idle (hw.path_silent (by simp [Silent]) hp) (by simp)

/-- A device error ends with a recovered radio or with the service in its error state. -/
theorem DeviceErrorHandled.landed {errorCode : UInt16} {state : PacketRadioState}
    (h : DeviceErrorHandled s errorCode tr s') (hw : Sees w state [] false)
    (hp : adapterEnv.Path w tr w') : Landed s' w' := by
  have hrecovered {m₁ m₂ : AdapterWorld} (h₁ : adapterEnv (.published
      (s.deviceErrorEvent errorCode) (!s.events.isFull)) w () m₁)
      (h₂ : adapterEnv .recover m₁ true m₂) : Sees m₂ .idle [] false := by
    rcases (hw.published h₁).recover h₂ with ⟨-, hs⟩ | ⟨hf, -⟩
    · exact hs
    · cases hf
  cases h with
  | lost now =>
    obtain ⟨m₁, h₁, m₂, h₂, hp⟩ := hp
    rcases (hw.published h₁).recover h₂ with ⟨hf, -⟩ | ⟨-, hf⟩
    · cases hf
    · exact .inr ⟨rfl, hf.path_silent (by simp [Silent]) hp⟩
  | responder now _ =>
    obtain ⟨m₁, h₁, m₂, h₂, hp⟩ := hp
    exact .of_idle ((hrecovered h₁ h₂).path_silent (by simp [Silent]) hp) (by simp [startStates])
  | active _ _ hr =>
    obtain ⟨m₁, h₁, m₂, h₂, hp⟩ := hp
    exact hr.landed (hrecovered h₁ h₂) hp
  | idle now _ _ =>
    obtain ⟨m₁, h₁, m₂, h₂, hp⟩ := hp
    exact .of_idle ((hrecovered h₁ h₂).path_silent (by simp [Silent]) hp) (by simp)

theorem RequestHandled.landed {frame : PacketRadioRxFrame} (h : RequestHandled s frame tr s')
    (hw : Sees w .idle [] false) (hp : adapterEnv.Path w tr w') : Landed s' w' := by
  cases h with
  | unbuilt _ _ _ hd =>
    obtain ⟨m, hm, hp⟩ := hp
    exact hd.landed (hw.published hm) hp
  | rejected now _ => exact .of_idle (hw.path_silent (by simp [Silent]) hp) (by simp [startStates])
  | duplicate now _ _ _ =>
    exact .of_idle (hw.path_silent (by simp [Silent]) hp) (by simp [startStates])
  | unanswered now _ _ _ =>
    exact .of_idle (hw.path_silent (by simp [Silent]) hp) (by simp [startStates])
  | received now _ _ _ =>
    exact .of_idle (hw.path_silent (by simp [Silent]) hp) (by simp [startStates])

theorem ResponseHandled.landed {frame : PacketRadioRxFrame} (h : ResponseHandled s frame tr s')
    (hw : Sees w .idle [] false) (hp : adapterEnv.Path w tr w') : Landed s' w' := by
  cases h with
  | rejected _ hr =>
    obtain ⟨m, hm, hp⟩ := hp
    exact hr.landed (hw.published hm) hp
  | succeeded rttMs now _ => exact .of_idle (hw.path_silent (by simp [Silent]) hp) (by simp)

theorem receives_iff {state : DuplexLinkState} :
    radioState state = some .rx ↔ state = .waitResponse ∨ state = .responderRx := by
  cases state <;> simp [radioState]

theorem transmits_iff {state : DuplexLinkState} :
    radioState state = some .tx ↔ state = .waitRequestTxDone ∨ state = .waitResponseTxDone := by
  cases state <;> simp [radioState]

theorem Consistent.receives (hc : Consistent s) (hs : radioState s.state = some .rx) :
    (s.config.role = .responder ∧ s.state = .responderRx) ∨
    (s.config.role = .initiator ∧ s.state = .waitResponse ∧ s.requestActive = true) := by
  rcases receives_iff.mp hs with hs | hs
  · obtain ⟨hr, ha⟩ := hc.busy (by simp [hs])
    exact .inr ⟨hr, hs, ha⟩
  · exact .inl ⟨(hc.listening (by simp [hs])).1, hs⟩

theorem Reports.idle {event : PacketRadioEvent} (h : Reports s event [] w)
    (he : event.type ≠ .deviceError) (hr : event.type ≠ .rxDone) : Sees w .idle [] false := by
  cases h with
  | deviceError h _ => exact absurd h he
  | noFrame _ _ hw => exact hw
  | rxDone _ h _ => exact absurd h hr
  | txDone _ _ hw => exact hw

theorem Reports.receives {event : PacketRadioEvent} (h : Reports s event [] w)
    (he : event.type ∈ [.crcError, .rxTimeout, .rxDone]) : radioState s.state = some .rx := by
  cases h with
  | deviceError h _ => simp [h] at he
  | noFrame hs _ _ => exact hs
  | rxDone hs _ _ => exact hs
  | txDone _ h _ => simp [h] at he

theorem Reports.read {event : PacketRadioEvent} (h : Reports s event [] w)
    (he : event.type = .rxDone) {frame : Option PacketRadioRxFrame}
    (hp : adapterEnv .readRxFrame w frame w') : Sees w' .idle [] false := by
  cases h with
  | deviceError h _ => simp [h] at he
  | noFrame _ h _ => simp [he] at h
  | rxDone _ _ hw => exact hw.readRxFrame hp
  | txDone _ h _ => simp [h] at he

/-- **An event leaves the two settled again**, or the service in its error state. -/
theorem EventStep.landed {event : PacketRadioEvent} (h : EventStep s event tr s')
    (hc : Consistent s) (hw : Reports s event [] w) (hp : adapterEnv.Path w tr w') :
    Landed s' w' := by
  cases h with
  | none he => cases hw <;> simp_all
  | requestSent now he _ =>
    exact .of_idle ((hw.idle (by simp [he]) (by simp [he])).path_silent (by simp [Silent]) hp)
      (by simp [startStates])
  | responseSent now he _ =>
    exact .of_idle ((hw.idle (by simp [he]) (by simp [he])).path_silent (by simp [Silent]) hp)
      (by simp [startStates])
  | txDoneIgnored he h₁ h₂ =>
    cases hw with
    | txDone hs _ _ => exact absurd (transmits_iff.mp hs) (by simp [h₁, h₂])
    | _ => simp_all
  | unreadResponder now he _ =>
    obtain ⟨m, hm, hp⟩ := hp
    exact .of_idle ((hw.read he hm).path_silent (by simp [Silent]) hp) (by simp [startStates])
  | unreadInitiator he _ hr =>
    obtain ⟨m₁, h₁, m₂, h₂, hp⟩ := hp
    exact hr.landed ((hw.read he h₁).published h₂) hp
  | request he _ _ hr =>
    obtain ⟨m, hm, hp⟩ := hp
    exact hr.landed (hw.read he hm) hp
  | response he _ _ _ hr =>
    obtain ⟨m, hm, hp⟩ := hp
    exact hr.landed (hw.read he hm) hp
  | stray he h₁ h₂ =>
    -- a service that receives takes every frame
    rcases hc.receives (hw.receives (by simp [he])) with hs | hs
    · exact absurd hs h₁
    · exact absurd hs h₂
  | timeoutRetry he _ _ hr => exact hr.landed (hw.idle (by simp [he]) (by simp [he])) hp
  | timeoutResponder now he _ =>
    exact .of_idle ((hw.idle (by simp [he]) (by simp [he])).path_silent (by simp [Silent]) hp)
      (by simp [startStates])
  | timeoutIgnored he h₁ h₂ =>
    rcases hc.receives (hw.receives (by simp [he])) with ⟨hr, -⟩ | ⟨-, hs, -⟩
    · simp [h₁] at hr
    · exact absurd hs h₂
  | crcRetry he _ _ hr => exact hr.landed (hw.idle (by simp [he]) (by simp [he])) hp
  | crcResponder now he _ =>
    exact .of_idle ((hw.idle (by simp [he]) (by simp [he])).path_silent (by simp [Silent]) hp)
      (by simp [startStates])
  | crcIgnored he h₁ h₂ =>
    rcases hc.receives (hw.receives (by simp [he])) with ⟨hr, -⟩ | ⟨-, -, ha⟩
    · simp [h₁] at hr
    · simp [h₂] at ha
  | deviceError he hd =>
    cases hw with
    | deviceError _ hw => exact hd.landed hw hp
    | _ => simp_all

theorem Polled.landed (h : Polled s tr s') (hc : Consistent s) (hw : Pending s w)
    (hp : adapterEnv.Path w tr w') : Landed s' w' := by
  induction h generalizing w with
  | empty s =>
    obtain ⟨m, hm, rfl⟩ := hp
    rcases hw with hw | ⟨event, hw⟩
    · exact .inl (hw.takeEvent hm).2
    · obtain ⟨hn, -⟩ := hw.takeEvent hm
      cases hn
  | stop he _ =>
    obtain ⟨m, hm, hp⟩ := hp
    rcases hw with hw | ⟨event, hw⟩
    · obtain ⟨hn, -⟩ := hw.takeEvent hm
      cases hn
    · obtain ⟨ht, hw⟩ := hw.takeEvent hm
      obtain rfl := Option.some.inj ht
      exact he.landed hc hw hp
  | next he hs₁ _ ih =>
    obtain ⟨m, hm, hp⟩ := hp
    obtain ⟨n, hn, hp⟩ := Env.path_append_iff.mp hp
    rcases hw with hw | ⟨event, hw⟩
    · obtain ⟨hn, -⟩ := hw.takeEvent hm
      cases hn
    · obtain ⟨ht, hw⟩ := hw.takeEvent hm
      obtain rfl := Option.some.inj ht
      rcases he.landed hc hw hn with hw | ⟨hs, -⟩
      · exact ih (he.consistent hc) (.inl hw) hp
      · exact absurd hs hs₁

theorem Settled.path_silent (hw : Settled s w) (htr : ∀ a ∈ tr, Silent a)
    (hp : adapterEnv.Path w tr w') : Settled s w' := by
  obtain ⟨state, hstate, hw⟩ := hw
  exact ⟨state, hstate, hw.path_silent htr hp⟩

/-- **So does a time-out.** -/
theorem TimeoutStep.landed (h : TimeoutStep s tr s') (hw : Settled s w)
    (hp : adapterEnv.Path w tr w') : Landed s' w' := by
  have hidle {since elapsed : UInt32} {m₁ m₂ : AdapterWorld}
      (h₁ : adapterEnv (.elapsedMs since) w elapsed m₁) (h₂ : adapterEnv .recover m₁ true m₂) :
      Sees m₂ .idle [] false := by
    obtain ⟨state, -, hw⟩ := hw
    rcases (hw.elapsed h₁).recover h₂ with ⟨-, hs⟩ | ⟨hf, -⟩
    · exact hs
    · cases hf
  have hfell {since elapsed : UInt32} {m₁ m₂ : AdapterWorld}
      (h₁ : adapterEnv (.elapsedMs since) w elapsed m₁) (h₂ : adapterEnv .recover m₁ false m₂) :
      Fell m₂ := by
    obtain ⟨state, -, hw⟩ := hw
    rcases (hw.elapsed h₁).recover h₂ with ⟨hf, -⟩ | ⟨-, hs⟩
    · cases hf
    · exact hs
  cases h with
  | none h => exact .inl (hw.path_silent (by cases h <;> simp [Silent]) hp)
  | response _ _ _ hr =>
    obtain ⟨m₁, h₁, m₂, h₂, hp⟩ := hp
    exact hr.landed (hidle h₁ h₂) hp
  | requestTx _ _ _ hr =>
    obtain ⟨m₁, h₁, m₂, h₂, hp⟩ := hp
    exact hr.landed (hidle h₁ h₂) hp
  | responseTx _ now _ _ =>
    obtain ⟨m₁, h₁, m₂, h₂, hp⟩ := hp
    exact .of_idle ((hidle h₁ h₂).path_silent (by simp [Silent]) hp)
      (by simp [startStates])
  | responseLost _ now _ _ =>
    obtain ⟨m₁, h₁, m₂, h₂, hp⟩ := hp
    exact .inr ⟨rfl, (hfell h₁ h₂).path_silent (by simp [Silent]) hp⟩
  | transmissionLost _ now _ _ =>
    obtain ⟨m₁, h₁, m₂, h₂, hp⟩ := hp
    exact .inr ⟨rfl, (hfell h₁ h₂).path_silent (by simp [Silent]) hp⟩

/-! ## The start at the end of a call -/

theorem Settled.idle_of_start (hw : Settled s w) (hs : s.state ∈ startStates) :
    Sees w .idle [] false := by
  obtain ⟨state, hstate, hw⟩ := hw
  simp only [startStates, List.mem_cons, List.not_mem_nil, or_false] at hs
  rcases hs with h | h | h | h <;> rw [h] at hstate <;> obtain rfl := Option.some.inj hstate <;>
    exact hw

theorem StartRefused.state_mem (h : StartRefused s tr) : s.state ∈ startStates := by
  cases h <;> simp_all [startStates]

theorem StartRefused.left (h : StartRefused s tr) (hw : Sees w .idle [] false)
    (hp : adapterEnv.Path w tr w') : Sees w' .idle [] false ∨ Fell w' := by
  have hrefused {state : PacketRadioState} {m : AdapterWorld} (h : StartAnswered state false m) :
      Sees m .idle [] false ∨ Fell m := by
    rcases h with ⟨hf, -⟩ | ⟨-, h⟩
    · cases hf
    · exact h
  cases h with
  | requestTx _ =>
    obtain ⟨m, hm, rfl⟩ := hp
    exact hrefused (hw.tryStartTx hm)
  | responseRx _ =>
    obtain ⟨m, hm, rfl⟩ := hp
    exact hrefused (hw.tryStartRx hm)
  | responderRx _ =>
    obtain ⟨m, hm, rfl⟩ := hp
    exact hrefused (hw.tryStartRx hm)
  | responseTx _ _ =>
    obtain ⟨m, hm, rfl⟩ := hp
    exact hrefused (hw.tryStartTx hm)
  | unanswered _ _ =>
    obtain rfl := hp
    exact .inl hw

theorem left_recover (hw : Sees w .idle [] false ∨ Fell w) {m : AdapterWorld} {since elapsed : UInt32}
    {recovered : Bool} (h₁ : adapterEnv (.elapsedMs since) w elapsed m)
    (h₂ : adapterEnv .recover m recovered w') :
    (recovered = true ∧ Sees w' .idle [] false) ∨ (recovered = false ∧ Fell w') := by
  rcases hw with hw | hw
  · exact (hw.elapsed h₁).recover h₂
  · obtain ⟨⟨code, hs⟩, hq⟩ := hw
    exact (Sees.elapsed ⟨hs, hq⟩ h₁).recover h₂

theorem Landed.inStep (h : Landed s w) : InStep s w := by
  rcases h with h | ⟨hs, hf⟩
  · exact .inl h
  · exact .inr ⟨by simp [hs], hf⟩

theorem InStep.of_left (hw : Sees w .idle [] false ∨ Fell w) (hs : s.state ∈ startStates) :
    InStep s w := by
  rcases hw with hw | hw
  · exact (Landed.of_idle hw (List.mem_cons_of_mem _ hs)).inStep
  · exact .inr ⟨List.mem_cons_of_mem _ hs, hw⟩

/-- **A start keeps the two in step**, whatever the radio makes of it. -/
theorem ActionStep.inStep (h : ActionStep s tr s') (hw : Settled s w)
    (hp : adapterEnv.Path w tr w') : InStep s' w' := by
  have hidle {tr : List LinkAction} (h : StartRefused s tr) : Sees w .idle [] false :=
    hw.idle_of_start h.state_mem
  have hrecovered {m₁ m₂ m₃ : AdapterWorld} {since elapsed : UInt32}
      (hl : Sees m₁ .idle [] false ∨ Fell m₁) (h₁ : adapterEnv (.elapsedMs since) m₁ elapsed m₂)
      (h₂ : adapterEnv .recover m₂ true m₃) : Sees m₃ .idle [] false := by
    rcases left_recover hl h₁ h₂ with ⟨-, hs⟩ | ⟨hf, -⟩
    · exact hs
    · cases hf
  have hfell {m₁ m₂ m₃ : AdapterWorld} {since elapsed : UInt32}
      (hl : Sees m₁ .idle [] false ∨ Fell m₁) (h₁ : adapterEnv (.elapsedMs since) m₁ elapsed m₂)
      (h₂ : adapterEnv .recover m₂ false m₃) : Fell m₃ := by
    rcases left_recover hl h₁ h₂ with ⟨hf, -⟩ | ⟨-, hs⟩
    · cases hf
    · exact hs
  cases h with
  | none _ =>
    obtain rfl := hp
    exact .inl hw
  | requestTx now now' hs =>
    obtain ⟨m, hm, hp⟩ := hp
    rcases (hw.idle_of_start (by simp [hs, startStates])).tryStartTx hm with ⟨-, htx⟩ | ⟨hf, -⟩
    · exact .inl ⟨.tx, rfl, htx.path_silent (by simp [Silent]) hp⟩
    · cases hf
  | responseRx now now' hs =>
    obtain ⟨m, hm, hp⟩ := hp
    rcases (hw.idle_of_start (by simp [hs, startStates])).tryStartRx hm with ⟨-, hrx⟩ | ⟨hf, -⟩
    · exact .inl ⟨.rx, rfl, hrx.path_silent (by simp [Silent]) hp⟩
    · cases hf
  | responderRx now hs =>
    obtain ⟨m, hm, hp⟩ := hp
    rcases (hw.idle_of_start (by simp [hs, startStates])).tryStartRx hm with ⟨-, hrx⟩ | ⟨hf, -⟩
    · exact .inl ⟨.rx, rfl, hrx.path_silent (by simp [Silent]) hp⟩
    · cases hf
  | responseTx now hs _ =>
    obtain ⟨m, hm, hp⟩ := hp
    rcases (hw.idle_of_start (by simp [hs, startStates])).tryStartTx hm with ⟨-, htx⟩ | ⟨hf, -⟩
    · exact .inl ⟨.tx, rfl, htx.path_silent (by simp [Silent]) hp⟩
    · cases hf
  | refused elapsed hr _ =>
    obtain ⟨m, hm, hp⟩ := Env.path_append_iff.mp hp
    refine .of_left ?_ hr.state_mem
    rcases hr.left (hidle hr) hm with hl | hl
    · exact .inl (hl.path_silent (by simp [Silent]) hp)
    · exact .inr (hl.path_silent (by simp [Silent]) hp)
  | requestLost elapsed now now' hs _ =>
    obtain ⟨m₁, h₁, m₂, h₂, m₃, h₃, hp⟩ := hp
    have hr : StartRefused s [atTx s.pendingRequestFrame false] := .requestTx hs
    have hf := hfell (hr.left (hidle hr) ⟨m₁, h₁, rfl⟩) h₂ h₃
    exact .inr ⟨by simp, hf.path_silent (by simp [Silent]) hp⟩
  | requestRestarted elapsed now hs _ =>
    obtain ⟨m₁, h₁, m₂, h₂, m₃, h₃, hp⟩ := hp
    have hr : StartRefused s [atTx s.pendingRequestFrame false] := .requestTx hs
    have hrec := hrecovered (hr.left (hidle hr) ⟨m₁, h₁, rfl⟩) h₂ h₃
    exact .of_left (.inl (hrec.path_silent (by simp [Silent]) hp)) hr.state_mem
  | lost elapsed now hr _ _ =>
    obtain ⟨m₁, h₁, m₂, h₂, m₃, h₃, hp⟩ := Env.path_append_iff.mp hp
    have hf := hfell (hr.left (hidle hr) h₁) h₂ h₃
    exact .inr ⟨by simp, hf.path_silent (by simp [Silent]) hp⟩
  | responseRxRetry elapsed hs _ hretry =>
    obtain ⟨m₁, h₁, m₂, h₂, m₃, h₃, hp⟩ := hp
    have hr : StartRefused s [atRx s.config.responseTimeoutMs false] := .responseRx hs
    have hrec := hrecovered (hr.left (hidle hr) ⟨m₁, h₁, rfl⟩) h₂ h₃
    exact (hretry.landed hrec hp).inStep
  | responderRestarted elapsed now hs _ =>
    obtain ⟨m₁, h₁, m₂, h₂, m₃, h₃, hp⟩ := hp
    have hr : StartRefused s [atRx 0 false] := .responderRx hs
    have hrec := hrecovered (hr.left (hidle hr) ⟨m₁, h₁, rfl⟩) h₂ h₃
    exact .of_left (.inl (hrec.path_silent (by simp [Silent]) hp)) hr.state_mem
  | responseGivenUp elapsed now hs hr _ =>
    obtain ⟨m₁, h₁, m₂, h₂, m₃, h₃, hp⟩ := Env.path_append_iff.mp hp
    have hrec := hrecovered (hr.left (hidle hr) h₁) h₂ h₃
    exact .of_left (.inl (hrec.path_silent (by simp [Silent]) hp)) (by simp [startStates])

theorem Landed.settled (h : Landed s w) (hs : s.state ≠ .error) : Settled s w := by
  rcases h with h | ⟨he, -⟩
  · exact h
  · exact absurd he hs

/-- **A whole call keeps the two in step.** -/
theorem Processed.inStep (h : Processed s tr s') (hc : Consistent s) (hw : InStep s w)
    (hp : adapterEnv.Path w tr w') : InStep s' w' := by
  cases h with
  | off _ =>
    obtain rfl := hp
    exact hw
  | failed _ _ hl _ =>
    obtain ⟨m, hm, hp⟩ := hp
    exact (hl.landed hc (hw.pending hm) hp).inStep
  | timedOut _ _ hl hs₁ ht _ =>
    obtain ⟨m, hm, hp⟩ := hp
    obtain ⟨n, hn, hp⟩ := Env.path_append_iff.mp hp
    have hsettled := (hl.landed hc (hw.pending hm) hn).settled hs₁
    exact (ht.landed hsettled hp).inStep
  | ran _ _ hl hs₁ ht hs₂ ha =>
    obtain ⟨m, hm, hp⟩ := hp
    obtain ⟨n, hn, hp⟩ := Env.path_append_iff.mp hp
    obtain ⟨k, hk, hp⟩ := Env.path_append_iff.mp hp
    have hsettled := (hl.landed hc (hw.pending hm) hn).settled hs₁
    exact ha.inStep ((ht.landed hsettled hk).settled hs₂) hp

end

/-! ## Runs -/

/-- The runs of a service on an adapter, with the driver answering as it likes. -/
inductive Composed (config : DuplexLinkConfig) (radioConfig : Sx128xPacketRadioConfig) :
    DuplexLinkService → AdapterWorld → Prop
  | init {adapter : Sx128xPacketRadio} {s : DuplexLinkService} {w : AdapterWorld} :
      Sx128xPacketRadio.init radioConfig = some adapter →
      Runs adapterEnv (init config) (adapter, []) (some s) w → Composed config radioConfig s w
  | process {s s' : DuplexLinkService} {w w' : AdapterWorld} {bound : Nat} :
      Composed config radioConfig s w → Runs adapterEnv (process bound s) w (some s') w' →
      Composed config radioConfig s' w'
  | start {s s' : DuplexLinkService} {w w' : AdapterWorld} {messageType : LinkMessageType}
      {payload : List UInt8} {started : Bool} : Composed config radioConfig s w →
      Runs adapterEnv (prepareRequest s messageType payload) w (started, s') w' →
      Composed config radioConfig s' w'
  | setResponsePayload {s : DuplexLinkService} {w : AdapterWorld} (payload : List UInt8) :
      Composed config radioConfig s w →
      Composed config radioConfig (s.setResponsePayload payload).2 w
  | takeEvent {s s' : DuplexLinkService} {w : AdapterWorld} {event : DuplexLinkEvent} :
      Composed config radioConfig s w → s.takeEvent = some (event, s') →
      Composed config radioConfig s' w

section

variable {config : DuplexLinkConfig} {radioConfig : Sx128xPacketRadioConfig}
  {s : DuplexLinkService} {w : AdapterWorld}

theorem Composed.consistent (h : Composed config radioConfig s w) : Consistent s := by
  induction h with
  | init _ h =>
    obtain ⟨tr, ht, -⟩ := h
    obtain ⟨-, now, -, rfl⟩ := trace_init ht
    exact consistent_initial _ now
  | process _ h ih =>
    obtain ⟨tr, ht, -⟩ := h
    exact (trace_process ht).consistent ih
  | start _ h ih =>
    obtain ⟨tr, ht, -⟩ := h
    rcases trace_prepareRequest ht with ⟨-, -, rfl⟩ | ⟨-, hc, now, -, rfl⟩
    · exact ih
    · exact consistent_requested hc _ now
  | @setResponsePayload s _ payload _ ih =>
    obtain ⟨buffer, length, h⟩ := setResponsePayload_fields s payload
    rw [h]
    exact ih
  | takeEvent _ h ih =>
    obtain ⟨events, -, rfl⟩ := takeEvent_eq_some h
    exact ih

theorem Composed.inStep (h : Composed config radioConfig s w) : InStep s w := by
  induction h with
  | @init adapter _ w hradio h =>
    obtain ⟨tr, ht, hp⟩ := h
    obtain ⟨-, now, rfl, rfl⟩ := trace_init ht
    have hw : Sees (adapter, []) .idle [] false :=
      ⟨Sx128xPacketRadio.shows_init hradio, Sx128xPacketRadio.noRefusal_nil⟩
    refine (Landed.of_idle (hw.path_silent (by simp [Silent]) hp) ?_).inStep
    cases hr : config.role <;> simp [initial, hr, startStates]
  | process hrun h ih =>
    obtain ⟨tr, ht, hp⟩ := h
    exact (trace_process ht).inStep hrun.consistent ih hp
  | start _ h ih =>
    obtain ⟨tr, ht, hp⟩ := h
    rcases trace_prepareRequest ht with ⟨-, rfl, rfl⟩ | ⟨-, hc, now, rfl, rfl⟩
    · obtain rfl := hp
      exact ih
    · rcases ih with ⟨state, hstate, hw⟩ | ⟨hs, -⟩
      · rw [hc.idle] at hstate
        obtain rfl := Option.some.inj hstate
        exact (Landed.of_idle (hw.path_silent (by simp [Silent]) hp) (by simp [startStates])).inStep
      · simp [hc.idle, startStates] at hs
  | @setResponsePayload s _ payload _ ih =>
    obtain ⟨buffer, length, h⟩ := setResponsePayload_fields s payload
    rw [h]
    exact ih
  | takeEvent _ h ih =>
    obtain ⟨events, -, rfl⟩ := takeEvent_eq_some h
    exact ih

theorem InStep.queue (h : InStep s w) :
    w.1.rxFrameAvailable = false ∧ w.1.events.count ≤ 1 ∧ NoRefusal w.2 := by
  rcases h with ⟨state, -, hs, hq⟩ | ⟨-, ⟨code, hs⟩, hq⟩
  · refine ⟨hs.available_eq, ?_, hq⟩
    rw [← RingBuffer.toList_length, hs.queue_eq]
    exact Nat.zero_le 1
  · refine ⟨hs.available_eq, ?_, hq⟩
    rw [← RingBuffer.toList_length, hs.queue_eq]
    exact le_rfl

theorem InStep.settled (h : InStep s w) (hs : s.state ∉ .error :: startStates) : Settled s w := by
  rcases h with h | ⟨hm, -⟩
  · exact h
  · exact absurd hm hs

theorem Settled.state_eq (h : Settled s w) {state : PacketRadioState}
    (hs : radioState s.state = some state) : w.1.state = state := by
  obtain ⟨state', hstate, hw⟩ := h
  obtain rfl := Option.some.inj (hs.symm.trans hstate)
  exact hw.shows.state_eq

/-- **The link service and the radio adapter stay in step.**  After every call the adapter is where
the service takes it to be, it holds no frame and at most one event, and it never refused an
event. -/
theorem Composed.follows (h : Composed config radioConfig s w) :
    (s.state = .waitRequestTxDone ∨ s.state = .waitResponseTxDone → w.1.state = .tx) ∧
    (s.state = .waitResponse ∨ s.state = .responderRx → w.1.state = .rx) ∧
    (s.state = .idle → w.1.state = .idle) ∧
    (s.state ∈ startStates → w.1.state = .idle ∨
      (w.1.state = .error ∧ ∃ code, w.1.events.toList = [⟨.deviceError, code⟩])) ∧
    w.1.rxFrameAvailable = false ∧ w.1.events.count ≤ 1 ∧ NoRefusal w.2 := by
  have hw := h.inStep
  refine ⟨?_, ?_, ?_, ?_, hw.queue⟩
  · intro htx
    have hn : s.state ∉ .error :: startStates := by rcases htx with e | e <;> simp [e, startStates]
    exact (hw.settled hn).state_eq (transmits_iff.mpr htx)
  · intro hrx
    have hn : s.state ∉ .error :: startStates := by rcases hrx with e | e <;> simp [e, startStates]
    exact (hw.settled hn).state_eq (receives_iff.mpr hrx)
  · intro hidle
    exact (hw.settled (by simp [hidle, startStates])).state_eq (by rw [hidle]; rfl)
  · intro hstart
    rcases hw with hw | ⟨-, ⟨code, hf⟩, -⟩
    · exact .inl (hw.idle_of_start hstart).shows.state_eq
    · exact .inr ⟨hf.state_eq, code, hf.queue_eq⟩

/-- A driver whose commands all succeed and which has nothing to report. -/
def quietDriver : (o : DriverOp) → o.Ans
  | .nowMs => 0
  | .elapsedMs _ => 0
  | .clearIrqStatus _ => .ok
  | .writeBuffer _ _ => .ok
  | .setTx _ _ => .ok
  | .setRx _ _ => .ok
  | .setStandby => .ok
  | .takeDio1Event => false
  | .getIrqStatus => (.ok, 0)
  | .getRxBufferStatus => (.ok, ⟨0, 0⟩)
  | .readBuffer _ _ => (.ok, [])
  | .getLoRaPacketStatus => (.ok, ⟨0, 0⟩)
  | .refused => ()

/-- A responder that listens after its first call. -/
theorem follows_responderRx : ∃ config radioConfig s w,
    Composed config radioConfig s w ∧ s.state = .responderRx ∧ w.1.state = .rx ∧
      NoRefusal w.2 := by
  let config : DuplexLinkConfig := ⟨.responder, 2, 1, 0, 300, 1000, 3⟩
  let radioConfig : Sx128xPacketRadioConfig := ⟨0, 28, 2, 500⟩
  let answer := execHandler Sx128xPacketRadio.answer quietDriver
  let adapter : Sx128xPacketRadio := ⟨radioConfig, .idle, .empty ⟨.none, 0⟩ (by decide),
    ⟨[], 0, 0⟩, false, true⟩
  let started := exec answer (init config) (adapter, [])
  let s₀ := initial config 0
  have h₀ : Composed config radioConfig s₀ started.2 :=
    .init rfl (execHandler_runs Sx128xPacketRadio.answer quietDriver (init config) (adapter, []))
  let listening := exec answer (process 2 s₀) started.2
  let s₁ := s₀.goto .responderRx 0
  have h₁ : Composed config radioConfig s₁ listening.2 :=
    h₀.process (execHandler_runs Sx128xPacketRadio.answer quietDriver (process 2 s₀) started.2)
  obtain ⟨-, hrx, -, -, -, -, hq⟩ := h₁.follows
  exact ⟨config, radioConfig, s₁, listening.2, h₁, rfl, hrx (.inr rfl), hq⟩

/-- After an event the loop finds the queue empty or the service in its error state. -/
theorem Pending.pollEvents_returns {w' : AdapterWorld} {tr : List LinkAction} (hw : Pending s w)
    (hc : Consistent s) (ht : Trace (pollEvents 2 s) tr none) (hp : adapterEnv.Path w tr w') :
    False := by
  rw [pollEvents, trace_bind_iff] at ht
  obtain ⟨first, t₁, t₂, h₁, h₂, rfl⟩ := ht
  obtain rfl := trace_ask_iff.mp h₁
  obtain ⟨m, hm, hp⟩ := hp
  rcases hw with hw | ⟨event, hw⟩
  · obtain ⟨rfl, -⟩ := hw.takeEvent hm
    exact absurd (trace_pure_iff.mp h₂).2 (by simp)
  obtain ⟨rfl, hw⟩ := hw.takeEvent hm
  rw [trace_bind_iff] at h₂
  obtain ⟨s₁, t₃, t₄, h₃, h₄, rfl⟩ := h₂
  rw [List.append_eq, List.nil_append] at hp
  obtain ⟨n, hn, hp⟩ := Env.path_append_iff.mp hp
  have hlanded := (trace_handleRadioEvent h₃).landed hc hw hn
  split at h₄
  · exact absurd (trace_pure_iff.mp h₄).2 (by simp)
  · rename_i hs₁
    rw [pollEvents, trace_bind_iff] at h₄
    obtain ⟨second, t₅, t₆, h₅, h₆, rfl⟩ := h₄
    obtain rfl := trace_ask_iff.mp h₅
    obtain ⟨k, hk, -⟩ := hp
    obtain ⟨rfl, -⟩ := (hlanded.settled hs₁).takeEvent hk
    exact absurd (trace_pure_iff.mp h₆).2 (by simp)

/-- The event loop of a call takes at most one event, so every call returns. -/
theorem Composed.process_returns {w' : AdapterWorld} {out : Option DuplexLinkService}
    (h : Composed config radioConfig s w)
    (hruns : Runs adapterEnv (DuplexLinkService.process 2 s) w out w') : out ≠ none := by
  rintro rfl
  obtain ⟨tr, ht, hp⟩ := hruns
  obtain ⟨tr, rfl, hpoll⟩ := trace_process_none ht
  obtain ⟨m, hm, hp⟩ := hp
  exact (h.inStep.pending hm).pollEvents_returns h.consistent hpoll hp

end

end DuplexLinkService

end RadioConnection
