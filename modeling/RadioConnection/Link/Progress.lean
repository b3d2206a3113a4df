import RadioConnection.Link.Invariant

/-!
# Every request comes to an end

A request moves through at most `4 * (maxRetries + 1)` stages, and a call of
`duplex_link_service_process` that comes at least the longest time-out after the
one before it moves it on, gives it up, or leaves the service in `error`.  There
is one exception, the branch of `START_REQUEST_TX` that recovers the radio and
restarts its timer without counting a retry.

* `clock`: a clock of 32 bits that goes on between the readings.
* `stagesLeft`: the stages that a request has left; `Call.outcome` says what a
  call does to it.
* `Calls.length_le`: how many calls a request can survive.
* `request_ends`: without the exception every request ends.
* `request_survives`: with it a request survives any number of calls.
-/

namespace RadioConnection

namespace DuplexLinkService

open Interaction LinkProg
open Interaction.Prog

/-! ## The clock -/

/-- A millisecond counter of 32 bits: the time goes on, by any amount, before each answer. -/
def clock : Env LinkOp LinkOp.Ans Nat
  | .nowMs, t, now, t' => t ≤ t' ∧ now = UInt32.ofNat t'
  | .elapsedMs since, t, elapsed, t' => t ≤ t' ∧ elapsed = UInt32.ofNat t' - since
  | _, t, _, t' => t ≤ t'

theorem clock_le {o : LinkOp} {t t' : Nat} {x : LinkOp.Ans o} (h : clock o t x t') : t ≤ t' := by
  cases o with
  | nowMs => exact h.1
  | elapsedMs _ => exact h.1
  | _ => exact h

theorem path_clock_le {tr : List LinkAction} {t t' : Nat} (h : clock.Path t tr t') : t ≤ t' := by
  induction tr generalizing t with
  | nil => exact h.ge
  | cons x tr ih =>
    obtain ⟨m, hm, h⟩ := h
    exact (clock_le hm).trans (ih h)

/-! ## The stages of a request -/

def longestTimeout (config : DuplexLinkConfig) : Nat :=
  max config.responseTimeoutMs.toNat config.operationTimeoutMs.toNat

def stage : DuplexLinkState → Nat
  | .startRequestTx => 3
  | .waitRequestTxDone => 2
  | .startResponseRx => 1
  | _ => 0

/-- The stages that the request has left, retries included. -/
def stagesLeft (s : DuplexLinkService) : Nat :=
  4 * (s.config.maxRetries.toNat - s.retryCount.toNat) + stage s.state

/-- The timer that the state runs against, and its time-out. -/
def timer (s : DuplexLinkService) : UInt32 :=
  if s.state = .waitResponse then s.responseWaitStartedMs else s.stateStartedMs

def timeout (s : DuplexLinkService) : UInt32 :=
  if s.state = .waitResponse then s.config.responseTimeoutMs else s.config.operationTimeoutMs

theorem timeout_le (s : DuplexLinkService) : s.timeout.toNat ≤ longestTimeout s.config := by
  unfold timeout longestTimeout
  split <;> omega

def Over (s : DuplexLinkService) : Prop := s.requestActive = false ∨ s.state = .error

/-- The same request at the same stage, with the same timers. -/
structure Alike (s s' : DuplexLinkService) : Prop where
  config : s'.config = s.config
  state : s'.state = s.state
  active : s'.requestActive = s.requestActive
  retryCount : s'.retryCount = s.retryCount
  stateStarted : s'.stateStartedMs = s.stateStartedMs
  responseWaitStarted : s'.responseWaitStartedMs = s.responseWaitStartedMs

namespace Alike

variable {s s₁ s' : DuplexLinkService}

theorem refl (s : DuplexLinkService) : Alike s s := ⟨rfl, rfl, rfl, rfl, rfl, rfl⟩

theorem symm (h : Alike s s') : Alike s' s :=
  ⟨h.config.symm, h.state.symm, h.active.symm, h.retryCount.symm, h.stateStarted.symm,
    h.responseWaitStarted.symm⟩

theorem trans (h : Alike s s₁) (h' : Alike s₁ s') : Alike s s' :=
  ⟨h'.config.trans h.config, h'.state.trans h.state, h'.active.trans h.active,
    h'.retryCount.trans h.retryCount, h'.stateStarted.trans h.stateStarted,
    h'.responseWaitStarted.trans h.responseWaitStarted⟩

theorem stagesLeft (h : Alike s s') : s'.stagesLeft = s.stagesLeft := by
  rw [DuplexLinkService.stagesLeft, h.config, h.retryCount, h.state]
  rfl

theorem timer (h : Alike s s') : s'.timer = s.timer := by
  rw [DuplexLinkService.timer, h.state, h.stateStarted, h.responseWaitStarted]
  rfl

theorem timeout (h : Alike s s') : s'.timeout = s.timeout := by
  rw [DuplexLinkService.timeout, h.state, h.config]
  rfl

end Alike

/-- The timer of `s'` was set between `a` and `b`. -/
def SetBetween (a b : Nat) (s' : DuplexLinkService) : Prop :=
  ∃ u, a ≤ u ∧ u ≤ b ∧ s'.timer = UInt32.ofNat u

/-- The request moved on between `a` and `b`. -/
structure Moved (s : DuplexLinkService) (a b : Nat) (s' : DuplexLinkService) : Prop where
  active : s'.requestActive = true
  less : s'.stagesLeft < s.stagesLeft
  set : SetBetween a b s'

theorem SetBetween.mono {a a' b b' : Nat} {s : DuplexLinkService} (h : SetBetween a b s)
    (ha : a' ≤ a) (hb : b ≤ b') : SetBetween a' b' s := by
  obtain ⟨u, hu, hu', hs⟩ := h
  exact ⟨u, ha.trans hu, hu'.trans hb, hs⟩

theorem SetBetween.alike {a b : Nat} {s s' : DuplexLinkService} (h : SetBetween a b s)
    (hs : Alike s s') : SetBetween a b s' := by
  obtain ⟨u, hu, hu', h⟩ := h
  exact ⟨u, hu, hu', hs.timer.trans h⟩

/-! ## One part of a call -/

/-- What the parts of a call since time `a` have done to the request of `s`. -/
def Outcome (s : DuplexLinkService) (a b : Nat) (s' : DuplexLinkService) : Prop :=
  Over s' ∨ Moved s a b s' ∨ Alike s s'

theorem RetryOrFail.outcome {s s' : DuplexLinkService} {tr : List LinkAction} {a b : Nat}
    (h : RetryOrFail s tr s') (hp : clock.Path a tr b) : Over s' ∨ Moved s a b s' := by
  cases h with
  | inactive now ha => exact .inl (.inl ha)
  | retry now ha hr =>
    obtain ⟨m, hm, n, hn, rfl⟩ := hp
    refine .inr ⟨ha, ?_, m, hm.1, hn, hm.2⟩
    have hr := UInt8.lt_iff_toNat_lt.mp hr
    have hmax := s.config.maxRetries.toNat_lt
    have hadd : (s.retryCount + 1).toNat = s.retryCount.toNat + 1 := by
      rw [UInt8.toNat_add]
      exact Nat.mod_eq_of_lt (by simp only [UInt8.reduceToNat]; omega)
    simp only [stagesLeft, goto_config, goto_retryCount, goto_state, retried_config,
      retried_retryCount, hadd, stage]
    omega
  | fail now _ _ => exact .inl (.inl rfl)

theorem Moved.of_alike {s s₁ s' : DuplexLinkService} {a b : Nat} (h : Moved s₁ a b s')
    (hs : Alike s s₁) : Moved s a b s' := ⟨h.active, by rw [← hs.stagesLeft]; exact h.less, h.set⟩

theorem RetryOrFail.outcome_of_alike {s s₁ s' : DuplexLinkService} {tr : List LinkAction}
    {a b : Nat} (h : RetryOrFail s₁ tr s') (hs : Alike s s₁) (hp : clock.Path a tr b) :
    Outcome s a b s' := by
  rcases h.outcome hp with h | h
  · exact .inl h
  · exact .inr (.inl (h.of_alike hs))

theorem Outcome.mono {s s' : DuplexLinkService} {a a' b : Nat} (h : Outcome s a b s')
    (ha : a' ≤ a) : Outcome s a' b s' := by
  rcases h with h | h | h
  · exact .inl h
  · exact .inr (.inl ⟨h.active, h.less, h.set.mono ha le_rfl⟩)
  · exact .inr (.inr h)

theorem not_responder_of_active {s : DuplexLinkService} (hs : Consistent s)
    (ha : s.requestActive = true) : s.config.role ≠ .responder := by
  intro hr
  rw [hs.inactive hr] at ha
  cases ha

theorem DeviceErrorHandled.outcome {s s' : DuplexLinkService} {errorCode : UInt16}
    {tr : List LinkAction} {a b : Nat} (h : DeviceErrorHandled s errorCode tr s')
    (hs : Consistent s) (ha : s.requestActive = true) (hp : clock.Path a tr b) :
    Outcome s a b s' := by
  cases h with
  | lost now => exact .inl (.inr rfl)
  | responder now hr => exact absurd hr (not_responder_of_active hs ha)
  | active _ _ h =>
    obtain ⟨m, hm, n, hn, hp⟩ := hp
    exact (h.outcome_of_alike (s := s) ⟨rfl, rfl, rfl, rfl, rfl, rfl⟩ hp).mono (hm.trans hn)
  | idle now _ ha' =>
    rw [ha] at ha'
    cases ha'

theorem Outcome.mono_right {s s' : DuplexLinkService} {a b b' : Nat} (h : Outcome s a b s')
    (hb : b ≤ b') : Outcome s a b' s' := by
  rcases h with h | h | h
  · exact .inl h
  · exact .inr (.inl ⟨h.active, h.less, h.set.mono le_rfl hb⟩)
  · exact .inr (.inr h)

theorem ResponseHandled.outcome {s s' : DuplexLinkService} {frame : PacketRadioRxFrame}
    {tr : List LinkAction} {a b : Nat} (h : ResponseHandled s frame tr s')
    (hp : clock.Path a tr b) : Outcome s a b s' := by
  cases h with
  | rejected _ h =>
    obtain ⟨m, hm, hp⟩ := hp
    exact (h.outcome_of_alike (s := s) ⟨rfl, rfl, rfl, rfl, rfl, rfl⟩ hp).mono hm
  | succeeded => exact .inl (.inl rfl)

theorem EventStep.outcome {s s' : DuplexLinkService} {event : PacketRadioEvent}
    {tr : List LinkAction} {a b : Nat} (h : EventStep s event tr s') (hs : Consistent s)
    (ha : s.requestActive = true) (hp : clock.Path a tr b) : Outcome s a b s' := by
  have hi := not_responder_of_active hs ha
  have same (f : DuplexLinkStats → DuplexLinkStats) : Alike s (s.count f) :=
    ⟨rfl, rfl, rfl, rfl, rfl, rfl⟩
  cases h with
  | requestSent now _ hw =>
    obtain ⟨m, hm, rfl⟩ := hp
    refine .inr (.inl ⟨ha, ?_, b, hm.1, le_rfl, hm.2⟩)
    simp [stagesLeft, stage, hw]
  | responseSent now _ hw =>
    have := (hs.listening (by simp [hw])).1
    exact absurd this hi
  | unreadResponder _ _ hr => exact absurd hr hi
  | unreadInitiator _ _ h =>
    obtain ⟨m, hm, n, hn, hp⟩ := hp
    exact (h.outcome_of_alike (s := s) ⟨rfl, rfl, rfl, rfl, rfl, rfl⟩ hp).mono (hm.trans hn)
  | request _ hr => exact absurd hr hi
  | response _ _ _ _ h =>
    obtain ⟨m, hm, hp⟩ := hp
    exact (h.outcome hp).mono hm
  | timeoutRetry _ _ _ h => exact h.outcome_of_alike (same _) hp
  | timeoutResponder _ _ hr => exact absurd hr hi
  | crcRetry _ _ _ h => exact h.outcome_of_alike (same _) hp
  | crcResponder _ _ hr => exact absurd hr hi
  | deviceError _ h => exact h.outcome hs ha hp
  | _ => exact .inr (.inr ⟨rfl, rfl, rfl, rfl, rfl, rfl⟩)

/-- The timer of the state has been read, and its time-out had not elapsed. -/
def Waiting (s : DuplexLinkService) (a b : Nat) : Prop :=
  ∃ u, a ≤ u ∧ u ≤ b ∧ ¬ s.timeout ≤ UInt32.ofNat u - s.timer

theorem Waiting.mono {s : DuplexLinkService} {a a' b b' : Nat} (h : Waiting s a b) (ha : a' ≤ a)
    (hb : b ≤ b') : Waiting s a' b' := by
  obtain ⟨u, hu, hu', h⟩ := h
  exact ⟨u, ha.trans hu, hu'.trans hb, h⟩

theorem Waiting.alike {s s' : DuplexLinkService} {a b : Nat} (h : Waiting s a b)
    (hs : Alike s s') : Waiting s' a b := by
  rw [Waiting, hs.timer, hs.timeout]
  exact h

theorem TimeoutStep.outcome {s s' : DuplexLinkService} {tr : List LinkAction} {a b : Nat}
    (h : TimeoutStep s tr s') (hs : Consistent s) (ha : s.requestActive = true)
    (hp : clock.Path a tr b) :
    Over s' ∨ Moved s a b s' ∨ Alike s s' ∧ (s.state ∈ timedStates → Waiting s a b) := by
  have retry {tr : List LinkAction} {s' : DuplexLinkService} {m n : Nat}
      (h : RetryOrFail (s.count countTimeout) tr s') (hm : a ≤ m) (hn : m ≤ n)
      (hp : clock.Path n tr b) : Over s' ∨ Moved s a b s' := by
    rcases h.outcome hp with h | h
    · exact .inl h
    · exact .inr ⟨h.active, h.less, h.set.mono (hm.trans hn) le_rfl⟩
  cases h with
  | none h =>
    refine .inr (.inr ⟨.refl s, fun hw => ?_⟩)
    cases h with
    | response elapsed hs he =>
      obtain ⟨m, ⟨hm, rfl⟩, rfl⟩ := hp
      exact ⟨b, hm, le_rfl, by simpa [timeout, timer, hs] using he⟩
    | transmission elapsed hs he =>
      obtain ⟨m, ⟨hm, rfl⟩, rfl⟩ := hp
      refine ⟨b, hm, le_rfl, ?_⟩
      rcases hs with hs | hs <;> simpa [timeout, timer, hs] using he
    | none h₁ h₂ h₃ => simp [timedStates, h₁, h₂, h₃] at hw
  | response elapsed _ _ h =>
    obtain ⟨m, ⟨hm, -⟩, n, hn, hp⟩ := hp
    exact (retry h hm hn hp).imp_right .inl
  | responseLost elapsed now => exact .inl (.inr rfl)
  | requestTx elapsed _ _ h =>
    obtain ⟨m, ⟨hm, -⟩, n, hn, hp⟩ := hp
    exact (retry h hm hn hp).imp_right .inl
  | responseTx elapsed now hw =>
    exact absurd (hs.listening (by simp [hw])).1 (not_responder_of_active hs ha)
  | transmissionLost elapsed now => exact .inl (.inr rfl)

/-- The branch of `START_REQUEST_TX` that counts no retry: the radio refused the
transmission for so long that the operation time-out elapsed, and recovered. -/
def Stalls (tr : List LinkAction) : Prop :=
  ∃ pre frame since elapsed post,
    tr = pre ++ ⟨.tryStartTx frame, false⟩ :: atElapsed since elapsed :: atRecover true :: post

/-- A start that an initiator's radio refuses takes no time-out while it has not elapsed. -/
theorem StartRefused.waiting {s : DuplexLinkService} {tr : List LinkAction} {a b : Nat}
    {elapsed : UInt32} (h : StartRefused s tr) (he : ¬ s.config.operationTimeoutMs ≤ elapsed)
    (hp : clock.Path a (tr ++ [atElapsed s.stateStartedMs elapsed]) b) : Waiting s a b := by
  obtain ⟨m, hm, n, ⟨hn, rfl⟩, rfl⟩ := Env.path_append_iff.mp hp
  have hw : s.state ≠ .waitResponse := by
    cases h <;> simp [*]
  exact ⟨b, (path_clock_le hm).trans hn, le_rfl, by simpa [timeout, timer, hw] using he⟩

theorem ActionStep.outcome {s s' : DuplexLinkService} {tr : List LinkAction} {a b : Nat}
    (h : ActionStep s tr s') (hs : Consistent s) (ha : s.requestActive = true)
    (he : s.state ≠ .error) (hp : clock.Path a tr b) :
    Over s' ∨ Moved s a b s' ∨
    (s'.requestActive = true ∧ s'.stagesLeft = s.stagesLeft ∧ SetBetween a b s' ∧ Stalls tr) ∨
    Alike s s' ∧ (s.state ∉ timedStates → Waiting s a b) := by
  have hi := not_responder_of_active hs ha
  cases h with
  | none hn =>
    refine .inr (.inr (.inr ⟨.refl s, fun hw => absurd hs ?_⟩))
    rw [Consistent, role_ne_responder.mp hi, ha]
    simp only [homeStates, startStates, timedStates, List.mem_cons, List.not_mem_nil,
      or_false, not_or] at hn hw ⊢
    exact ⟨hn.1, hw.1, hn.2.1, hw.2.1, he⟩
  | requestTx now now' hw =>
    obtain ⟨m, hm, n, hn, k, hk, rfl⟩ := hp
    refine .inr (.inl ⟨ha, ?_, b, (hm.trans hn.1).trans hk.1, le_rfl, hk.2⟩)
    simp [stagesLeft, stage, hw]
  | responseRx now now' hw =>
    obtain ⟨m, hm, n, hn, k, hk, rfl⟩ := hp
    refine .inr (.inl ⟨ha, ?_, n, hm.trans hn.1, hk.1, hn.2⟩)
    simp [stagesLeft, stage, hw]
  | responderRx now hw => exact absurd (hs.listening (by simp [hw])).1 hi
  | responseTx now hw => exact absurd (hs.listening (by simp [hw])).1 hi
  | refused elapsed hr ho => exact .inr (.inr (.inr ⟨.refl s, fun _ => hr.waiting ho hp⟩))
  | requestLost _ now now' => exact .inl (.inr rfl)
  | requestRestarted elapsed now hw ho =>
    obtain ⟨m, hm, n, hn, k, hk, l, hl, rfl⟩ := hp
    refine .inr (.inr (.inl ⟨ha, rfl, ⟨b, ((hm.trans hn.1).trans hk).trans hl.1, le_rfl, ?_⟩, ?_⟩))
    · simpa [timer, hw] using hl.2
    · exact ⟨[], _, _, elapsed, _, rfl⟩
  | lost _ now => exact .inl (.inr rfl)
  | responseRxRetry elapsed _ _ h =>
    obtain ⟨m, hm, n, hn, k, hk, hp⟩ := hp
    rcases h.outcome hp with h | h
    · exact .inl h
    · exact .inr (.inl ⟨h.active, h.less, h.set.mono ((hm.trans hn.1).trans hk) le_rfl⟩)
  | responderRestarted _ now hw => exact absurd (hs.listening (by simp [hw])).1 hi
  | responseGivenUp _ now hw => exact absurd (hs.listening (by simp [hw])).1 hi

/-! ## One call -/

theorem Outcome.trans {s s₁ s' : DuplexLinkService} {a m b : Nat} (h : Outcome s a m s₁)
    (he : s₁.state ≠ .error) (hover : s₁.requestActive = false → s'.requestActive = false)
    (h' : s₁.requestActive = true → Outcome s₁ m b s') (ha : s.requestActive = true)
    (ham : a ≤ m) (hmb : m ≤ b) : Outcome s a b s' := by
  rcases h with (h | h) | h | h
  · exact .inl (.inl (hover h))
  · exact absurd h he
  · rcases h' h.active with h' | h' | h'
    · exact .inl h'
    · exact .inr (.inl ⟨h'.active, h'.less.trans h.less, h'.set.mono ham le_rfl⟩)
    · exact .inr (.inl ⟨h'.active.trans h.active, by rw [h'.stagesLeft]; exact h.less,
        (h.set.mono le_rfl hmb).alike h'⟩)
  · rcases h' (h.active.trans ha) with h' | h' | h'
    · exact .inl h'
    · exact .inr (.inl ⟨h'.active, by rw [← h.stagesLeft]; exact h'.less, h'.set.mono ham le_rfl⟩)
    · exact .inr (.inr (h.trans h'))

theorem Polled.outcome {s s' : DuplexLinkService} {tr : List LinkAction} {a b : Nat}
    (h : Polled s tr s') (hs : Consistent s) (ha : s.requestActive = true)
    (he : s.state ≠ .error) (hp : clock.Path a tr b) :
    Outcome s a b s' ∧ Consistent s' := by
  have hI := h.keeps (I := fun s' t => a ≤ t ∧ Outcome s a t s' ∧ Consistent s') ?_ ?_ he hp
    ⟨le_rfl, .inr (.inr (.refl s)), hs⟩
  · exact hI.2
  · rintro s' _ t t' ht ⟨hat, ho, hc⟩
    exact ⟨hat.trans ht, ho.mono_right ht, hc⟩
  · rintro s₁ e tr s' t t' hs₁ h hp ⟨hat, ho, hc⟩
    have htt := path_clock_le hp
    exact ⟨hat.trans htt, ho.trans hs₁ (PartStep.event h).stays_inactive
      (fun h₁ => h.outcome hc h₁ hp) ha hat htt, h.consistent hc⟩

theorem Stalls.append {tr : List LinkAction} (h : Stalls tr) (pre : List LinkAction) :
    Stalls (pre ++ tr) := by
  obtain ⟨pre', frame, since, elapsed, post, rfl⟩ := h
  exact ⟨pre ++ pre', frame, since, elapsed, post, by rw [List.append_assoc]⟩

/-- A call of `duplex_link_service_process` between the times `a` and `b`. -/
structure Call (s : DuplexLinkService) (a : Nat) (tr : List LinkAction) (s' : DuplexLinkService)
    (b : Nat) : Prop where
  returns : ∃ bound, Trace (process bound s) tr (some s')
  path : clock.Path a tr b

namespace Call

variable {s s' : DuplexLinkService} {tr : List LinkAction} {a b : Nat}

theorem processed (h : Call s a tr s' b) : Processed s tr s' := by
  obtain ⟨bound, h⟩ := h.returns
  exact trace_process h

theorem stays_over (h : Call s a tr s' b) (hs : Over s) : Over s' := by
  rcases hs with hs | hs
  · exact .inl (h.processed.keeps' (fun _ _ _ hp hm => hp.stays_inactive hm) hs)
  · cases h.processed with
    | off _ => exact .inr hs
    | failed _ he => exact absurd hs he
    | timedOut _ he => exact absurd hs he
    | ran _ he => exact absurd hs he

/-- **What a call does to a request.** -/
theorem outcome (h : Call s a tr s' b) (hs : Consistent s) (ha : s.requestActive = true)
    (he : s.state ≠ .error) :
    Over s' ∨ Moved s a b s' ∨
    (s'.requestActive = true ∧ s'.stagesLeft ≤ s.stagesLeft ∧ SetBetween a b s' ∧ Stalls tr) ∨
    Alike s s' ∧ Waiting s a b := by
  have hp := h.path
  cases h.processed with
  | off ho =>
    rw [Consistent] at hs
    rcases ho with ho | ho
    · rw [ho] at hs
      cases hr : s.config.role <;> simp [homeStates, hr, ha] at hs
    · exact absurd ho he
  | failed _ _ _ hs' => exact .inl (.inr hs')
  | timedOut _ _ _ _ _ hs' => exact .inl (.inr hs')
  | @ran tr₁ tr₂ tr₃ s₁ s₂ _ _ _ hl he₁ ht he₂ hact =>
    obtain ⟨m, hm, hp⟩ := hp
    obtain ⟨n, hn, hp⟩ := Env.path_append_iff.mp hp
    obtain ⟨k, hk, hp⟩ := Env.path_append_iff.mp hp
    have hmn := path_clock_le hn
    have hnk := path_clock_le hk
    have hkb := path_clock_le hp
    obtain ⟨ho, hc₁⟩ := hl.outcome hs ha he hn
    have hc₂ := ht.consistent hc₁
    -- after the events and the time-outs, and then after the action
    have ho₂ : Over s₂ ∨ Moved s a k s₂ ∨
        Alike s s₂ ∧ (s₂.state ∈ timedStates → Waiting s₂ a k) := by
      rcases ho with (ho | ho) | ho | ho
      · exact .inl (.inl ((PartStep.timeout ht).stays_inactive ho))
      · exact absurd ho he₁
      · rcases ht.outcome hc₁ ho.active hk with h | h | ⟨h, -⟩
        · exact .inl h
        · exact .inr (.inl ⟨h.active, h.less.trans ho.less, h.set.mono (hm.trans hmn) le_rfl⟩)
        · exact .inr (.inl ⟨h.active.trans ho.active, by rw [h.stagesLeft]; exact ho.less,
            (ho.set.mono hm hnk).alike h⟩)
      · rcases ht.outcome hc₁ (ho.active.trans ha) hk with h | h | ⟨h, hw⟩
        · exact .inl h
        · exact .inr (.inl ⟨h.active, by rw [← ho.stagesLeft]; exact h.less,
            h.set.mono (hm.trans hmn) le_rfl⟩)
        · refine .inr (.inr ⟨ho.trans h, fun hs₂ => ?_⟩)
          rw [h.state] at hs₂
          exact ((hw hs₂).alike h).mono (hm.trans hmn) le_rfl
    have hak := (hm.trans hmn).trans hnk
    have hstall (h : Stalls tr₃) : Stalls (atRadioProcess :: (tr₁ ++ (tr₂ ++ tr₃))) :=
      ((h.append tr₂).append tr₁).append [atRadioProcess]
    rcases ho₂ with (ho | ho) | ho | ⟨ho, hw⟩
    · exact .inl (.inl ((PartStep.action hact).stays_inactive ho))
    · exact absurd ho he₂
    · rcases hact.outcome hc₂ ho.active he₂ hp with h | h | ⟨h, hl, hset, h'⟩ | ⟨h, -⟩
      · exact .inl h
      · exact .inr (.inl ⟨h.active, h.less.trans ho.less, h.set.mono hak le_rfl⟩)
      · exact .inr (.inr (.inl ⟨h, hl.le.trans ho.less.le, hset.mono hak le_rfl, hstall h'⟩))
      · exact .inr (.inl ⟨h.active.trans ho.active, by rw [h.stagesLeft]; exact ho.less,
          (ho.set.mono le_rfl hkb).alike h⟩)
    · rcases hact.outcome hc₂ (ho.active.trans ha) he₂ hp with h | h | ⟨h, hl, hset, h'⟩ | ⟨h, hw'⟩
      · exact .inl h
      · exact .inr (.inl ⟨h.active, by rw [← ho.stagesLeft]; exact h.less, h.set.mono hak le_rfl⟩)
      · exact .inr (.inr (.inl ⟨h, (hl.trans ho.stagesLeft).le, hset.mono hak le_rfl, hstall h'⟩))
      · refine .inr (.inr (.inr ⟨ho.trans h, Waiting.alike ?_ ho.symm⟩))
        by_cases hs₂ : s₂.state ∈ timedStates
        · exact (hw hs₂).mono le_rfl hkb
        · exact (hw' hs₂).mono hak le_rfl

end Call

/-! ## Calls in a row -/

/-- Calls with the traces `trs`, the last one between `a` and `b`: before each call the clock
goes on by at least the longest time-out, and less than `2 ^ 31` from the beginning of the
call before to its end. -/
inductive Calls (s : DuplexLinkService) :
    List (List LinkAction) → DuplexLinkService → Nat → Nat → Prop
  | nil (t : Nat) : Calls s [] s t t
  | next {trs : List (List LinkAction)} {tr : List LinkAction} {s₁ s' : DuplexLinkService}
      {a b a' b' : Nat} : Calls s trs s₁ a b → b + longestTimeout s₁.config ≤ a' →
      b' < a + 2 ^ 31 → Call s₁ a' tr s' b' → Calls s (trs ++ [tr]) s' a' b'

/-- The timer has been read or set between `a` and `b`, and had run no longer than the
longest time-out. -/
def Known (s : DuplexLinkService) (a b : Nat) : Prop :=
  ∃ u, a ≤ u ∧ u ≤ b ∧ (UInt32.ofNat u - s.timer).toNat ≤ longestTimeout s.config

theorem SetBetween.known {s : DuplexLinkService} {a b : Nat} (h : SetBetween a b s) :
    Known s a b := by
  obtain ⟨u, hu, hu', h⟩ := h
  exact ⟨u, hu, hu', by simp [h]⟩

theorem Waiting.known {s : DuplexLinkService} {a b : Nat} (h : Waiting s a b) : Known s a b := by
  obtain ⟨u, hu, hu', h⟩ := h
  rw [UInt32.le_iff_toNat_le, not_le] at h
  exact ⟨u, hu, hu', h.le.trans s.timeout_le⟩

/-- A timer that one call knows has elapsed in the next one. -/
theorem Known.not_waiting {s : DuplexLinkService} {a b a' b' : Nat} (h : Known s a b)
    (hgap : b + longestTimeout s.config ≤ a') (hshort : b' < a + 2 ^ 31) :
    ¬ Waiting s a' b' := by
  rintro ⟨u', hu', hu'b, hw⟩
  obtain ⟨u, hu, hub, hk⟩ := h
  have hle := s.timeout_le
  have hsum : UInt32.ofNat u' - s.timer =
      (UInt32.ofNat u - s.timer) + UInt32.ofNat (u' - u) := by
    have hu'' : UInt32.ofNat u' = UInt32.ofNat u + UInt32.ofNat (u' - u) := by
      rw [← UInt32.ofNat_add, Nat.add_sub_cancel' (by omega)]
    grind
  rw [hsum, UInt32.le_iff_toNat_le, UInt32.toNat_add, UInt32.toNat_ofNat'] at hw
  omega

theorem Calls.config {s s' : DuplexLinkService} {trs : List (List LinkAction)} {a b : Nat}
    (h : Calls s trs s' a b) (hs : Consistent s) : Consistent s' ∧ s'.config = s.config := by
  induction h with
  | nil => exact ⟨hs, rfl⟩
  | next _ _ _ hcall ih =>
    exact ⟨hcall.processed.consistent ih.1, hcall.processed.config.trans ih.2⟩

/-- **How many calls a request survives:** the first call may find a timer that does not
elapse yet, and each one after it takes a stage. -/
theorem Calls.length_le {s s' : DuplexLinkService} {trs : List (List LinkAction)} {a b : Nat}
    (h : Calls s trs s' a b) (hs : Consistent s) (ha : s.requestActive = true)
    (hstall : ∀ tr ∈ trs, ¬ Stalls tr) (hover : ¬ Over s') :
    (trs = [] ∧ s' = s) ∨ (Known s' a b ∧ trs.length + s'.stagesLeft ≤ 1 + s.stagesLeft) := by
  induction h with
  | nil => exact .inl ⟨rfl, rfl⟩
  | @next trs tr s₁ s' a b a' b' h hgap hshort hcall ih =>
    have hover₁ : ¬ Over s₁ := fun h₁ => hover (hcall.stays_over h₁)
    have hc := (h.config hs).1
    obtain ⟨ha₁, he₁⟩ := not_or.mp hover₁
    rw [Bool.not_eq_false] at ha₁
    have hlast : ¬ Stalls tr := hstall tr (by simp)
    rw [List.length_append, List.length_singleton]
    refine .inr ?_
    rcases hcall.outcome hc ha₁ he₁ with h' | h' | ⟨-, -, -, h'⟩ | ⟨h', hw⟩
    · exact absurd h' hover
    · refine ⟨h'.set.known, ?_⟩
      have := h'.less
      rcases ih (fun tr htr => hstall tr (by simp [htr])) hover₁ with ⟨rfl, rfl⟩ | ⟨-, hl⟩
      · simp only [List.length_nil]
        omega
      · omega
    · exact absurd h' hlast
    · rcases ih (fun tr htr => hstall tr (by simp [htr])) hover₁ with ⟨rfl, rfl⟩ | ⟨hk, hl⟩
      · rw [h'.stagesLeft]
        exact ⟨(hw.alike h').known, le_rfl⟩
      · exact absurd hw (hk.not_waiting hgap hshort)

theorem stage_le (state : DuplexLinkState) : stage state ≤ 3 := by cases state <;> decide

/-! ## An initiator with a request -/

/-- An initiator with time-outs of 100 ms and no retries. -/
def askerConfig : DuplexLinkConfig where
  role := .initiator
  localNodeId := 1
  peerNodeId := 2
  initialSequence := 0
  responseTimeoutMs := 100
  operationTimeoutMs := 100
  maxRetries := 0

/-- The initiator that has started a ping at time `0`. -/
def asker : DuplexLinkService :=
  ((initial askerConfig 0).requested
    ((initial askerConfig 0).request .ping (List.replicate 10 0))).goto .startRequestTx 0

theorem asker_run : Run askerConfig [.action (atNow 0), .action (atNow 0)] asker :=
  .start (.init (trace_init_of rfl 0)) (trace_prepareRequest_of ⟨rfl, rfl, rfl, rfl, rfl⟩ 0)

/-- **A request ends** within `4 * (maxRetries + 1) + 1` calls, whatever the radio does, when
no call takes the branch that restarts the timer of a refused transmission. -/
theorem request_ends {config : DuplexLinkConfig} {s s' : DuplexLinkService}
    {trs : List (List LinkAction)} {history : List HistoryEntry} {a b : Nat}
    (hs : Run config history s) (ha : s.requestActive = true) (h : Calls s trs s' a b)
    (hlength : trs.length = 4 * (config.maxRetries.toNat + 1) + 1)
    (hstall : ∀ tr ∈ trs, ¬ Stalls tr) :
    s'.requestActive = false ∨ s'.state = .error := by
  by_contra hover
  obtain ⟨hc, rfl⟩ := hs.consistent
  rcases h.length_le hc ha hstall hover with ⟨rfl, -⟩ | ⟨-, hl⟩
  · simp at hlength
  · have := stage_le s.state
    have hleft : s.stagesLeft = 4 * (s.config.maxRetries.toNat - s.retryCount.toNat) +
      stage s.state := rfl
    omega

theorem Stalls.mem {tr : List LinkAction} (h : Stalls tr) :
    ∃ frame, (⟨.tryStartTx frame, false⟩ : LinkAction) ∈ tr := by
  obtain ⟨pre, frame, since, elapsed, post, rfl⟩ := h
  exact ⟨frame, by simp⟩

/-- The asker in `waitRequestTxDone`, in `waitResponse` and with its request given up. -/
def askerSent : DuplexLinkService := (asker.attempted 100).goto .waitRequestTxDone 100
def askerWaiting : DuplexLinkService :=
  ((askerSent.goto .startResponseRx 200).waitingSince 200).goto .waitResponse 200
def askerIdle : DuplexLinkService :=
  ((askerWaiting.count countTimeout).gaveUp.goto .idle 300).pushed askerWaiting.failedEvent

theorem asker_unanswered : ∃ trs, Calls asker trs askerIdle 500 500 ∧ trs.length = 5 ∧
    ∀ tr ∈ trs, ¬ Stalls tr := by
  have h₁ : Call asker 100 _ askerSent 100 := ⟨⟨1, trace_process_of (by decide) (by decide)
    (trace_pollEvents_nil 0 _) (by decide) (by decide) (trace_requestTx rfl 100 100)⟩,
    ⟨_, le_rfl, _, le_rfl, _, le_rfl, _, ⟨le_rfl, rfl⟩, _, ⟨le_rfl, rfl⟩, rfl⟩⟩
  have h₂ : Call askerSent 200 _ askerWaiting 200 := ⟨⟨2, trace_process_of (by decide) (by decide)
    (trace_pollEvents_cons (trace_requestSent rfl 200) (by decide) (trace_pollEvents_nil 0 _))
    (by decide) (by decide) (trace_responseRx rfl 200 200)⟩,
    ⟨_, le_rfl, _, le_rfl, _, ⟨le_rfl, rfl⟩, _, le_rfl, _, le_rfl, _, ⟨le_rfl, rfl⟩, _,
      ⟨le_rfl, rfl⟩, rfl⟩⟩
  have h₃ : Call askerWaiting 300 _ askerIdle 300 := ⟨⟨2, trace_process_of (by decide) (by decide)
    (trace_pollEvents_cons (trace_requestGivenUp rfl rfl rfl (by decide) 300) (by decide)
      (trace_pollEvents_nil 0 _))
    (by decide) (by decide) (trace_action_none (by decide))⟩,
    ⟨_, le_rfl, _, le_rfl, _, ⟨le_rfl, rfl⟩, _, le_rfl, _, le_rfl, rfl⟩⟩
  have hidle (t : Nat) : Call askerIdle t _ askerIdle t := ⟨⟨1, trace_process_of (by decide)
    (by decide) (trace_pollEvents_nil 0 _) (by decide) (by decide) (trace_action_none (by decide))⟩,
    ⟨_, le_rfl, _, le_rfl, rfl⟩⟩
  refine ⟨_, .next (.next (.next (.next (.next (.nil 0) ?_ ?_ h₁) ?_ ?_ h₂) ?_ ?_ h₃) ?_ ?_
    (hidle 400)) ?_ ?_ (hidle 500), rfl, ?_⟩
  all_goals try decide
  rintro tr htr hstall
  obtain ⟨frame, hmem⟩ := hstall.mem
  simp at htr
  rcases htr with rfl | rfl | rfl | rfl <;> simp at hmem

theorem request_ends_asker : ∃ trs, Calls asker trs askerIdle 500 500 ∧
    (askerIdle.requestActive = false ∨ askerIdle.state = .error) := by
  obtain ⟨trs, hcalls, hlength, hstall⟩ := asker_unanswered
  exact ⟨trs, hcalls, request_ends asker_run rfl hcalls hlength hstall⟩

/-! ## A radio that refuses every transmission -/

/-- The state that the service goes round in. -/
theorem asker_stalls (now : Nat) :
    ∃ tr, Call (asker.restarted (UInt32.ofNat now)) (now + 100) tr
      (asker.restarted (UInt32.ofNat (now + 100))) (now + 100) := by
  have helapsed : 100 = UInt32.ofNat (now + 100) - UInt32.ofNat now := by
    rw [UInt32.ofNat_add]
    grind
  have hs : (asker.restarted (UInt32.ofNat now)).state = .startRequestTx := rfl
  have htimeout : (asker.restarted (UInt32.ofNat now)).config.operationTimeoutMs ≤ 100 :=
    UInt32.le_refl 100
  refine ⟨_, ⟨1, trace_process_of ?_ ?_ (trace_pollEvents_nil 0 _) ?_ ?_
    (trace_requestRestarted hs (UInt32.ofNat (now + 100)) htimeout)⟩, ?_⟩
  · rw [hs]
    decide
  · rw [hs]
    decide
  · rw [hs]
    decide
  · rw [hs]
    decide
  · exact ⟨_, le_rfl, _, le_rfl, _, le_rfl, _, ⟨le_rfl, helapsed⟩, _, le_rfl, _, ⟨le_rfl, rfl⟩, rfl⟩

theorem asker_calls (n : Nat) : ∃ trs, trs.length = n ∧
    Calls asker trs (asker.restarted (UInt32.ofNat (n * 100))) (n * 100) (n * 100) := by
  induction n with
  | zero => exact ⟨[], rfl, .nil 0⟩
  | succ n ih =>
    obtain ⟨trs, hlength, h⟩ := ih
    obtain ⟨tr, hcall⟩ := asker_stalls (n * 100)
    rw [← Nat.succ_mul] at hcall
    refine ⟨trs ++ [tr], by simp [hlength], .next h ?_ ?_ hcall⟩
    · change n * 100 + 100 ≤ _
      omega
    · omega

/-- **No number of calls ends every request:** when the radio refuses each transmission and
recovers each time, the service only restarts its timer. -/
theorem request_survives : ¬ ∀ config, configIsValid config = true → ∃ N, ∀ history s s' trs a b,
    Run config history s → s.requestActive = true → Calls s trs s' a b → trs.length = N →
      s'.requestActive = false ∨ s'.state = .error := by
  intro h
  obtain ⟨N, hN⟩ := h askerConfig rfl
  obtain ⟨trs, hlength, hcalls⟩ := asker_calls N
  rcases hN _ _ _ _ _ _ asker_run rfl hcalls hlength with h | h
  · cases h
  · cases h

end DuplexLinkService

end RadioConnection
