import RadioConnection.Link.Delivery
import RadioConnection.Link.RadioInStep

/-!
# The events of one call

On the radio adapter a call of `duplex_link_service_process` publishes at most five
events.  The queue has room for eight, so an application that empties it between
the calls misses none.

* `Processed.publishes_le`: the bound.
* `Processed.stored`: **a call that finds room for five events loses none.**
-/

namespace RadioConnection

namespace DuplexLinkService

open Interaction LinkProg RingBuffer
open Interaction.Prog

variable {s s' : DuplexLinkService} {tr : List LinkAction} {w w' : AdapterWorld}

/-! ## How many -/

theorem RetryOrFail.publishes_le (h : RetryOrFail s tr s') : (traceOps tr).length ≤ 1 := by
  cases h with
  | inactive => exact Nat.zero_le 1
  | retry => exact Nat.zero_le 1
  | fail => exact le_rfl

theorem DeviceErrorHandled.publishes_le {errorCode : UInt16}
    (h : DeviceErrorHandled s errorCode tr s') : (traceOps tr).length ≤ 2 := by
  cases h with
  | active _ _ h => exact Nat.succ_le_succ h.publishes_le
  | _ => exact Nat.le_succ 1

theorem RequestHandled.publishes_le {frame : PacketRadioRxFrame}
    (h : RequestHandled s frame tr s') : (traceOps tr).length ≤ 3 := by
  cases h with
  | unbuilt _ _ _ h => exact Nat.succ_le_succ h.publishes_le
  | _ => exact Nat.succ_le_succ (Nat.zero_le 2)

theorem ResponseHandled.publishes_le {frame : PacketRadioRxFrame}
    (h : ResponseHandled s frame tr s') : (traceOps tr).length ≤ 2 := by
  cases h with
  | rejected _ h => exact Nat.succ_le_succ h.publishes_le
  | succeeded => exact Nat.le_succ 1

theorem EventStep.publishes_le {event : PacketRadioEvent} (h : EventStep s event tr s') :
    (traceOps tr).length ≤ 3 := by
  cases h with
  | unreadInitiator _ _ h => exact Nat.succ_le_succ (h.publishes_le.trans (Nat.le_succ 1))
  | request _ _ _ h => exact h.publishes_le
  | response _ _ _ _ h => exact h.publishes_le.trans (Nat.le_succ 2)
  | timeoutRetry _ _ _ h => exact h.publishes_le.trans (by decide)
  | crcRetry _ _ _ h => exact h.publishes_le.trans (by decide)
  | deviceError _ h => exact h.publishes_le.trans (Nat.le_succ 2)
  | unreadResponder => exact Nat.succ_le_succ (Nat.zero_le 2)
  | stray => exact Nat.succ_le_succ (Nat.zero_le 2)
  | _ => exact Nat.zero_le 3

theorem TimeoutStep.publishes_le (h : TimeoutStep s tr s') : (traceOps tr).length ≤ 1 := by
  cases h with
  | none h => cases h <;> exact Nat.zero_le 1
  | response _ _ _ h => exact h.publishes_le
  | requestTx _ _ _ h => exact h.publishes_le
  | responseTx => exact Nat.zero_le 1
  | _ => exact le_rfl

theorem ActionStep.publishes_le (h : ActionStep s tr s') : (traceOps tr).length ≤ 1 := by
  cases h with
  | refused _ hr =>
    rw [hr.traceOps]
    exact Nat.zero_le 1
  | lost _ _ hr =>
    rw [hr.traceOps]
    exact le_rfl
  | responseGivenUp _ _ _ hr =>
    rw [hr.traceOps]
    exact Nat.zero_le 1
  | responseRxRetry _ _ _ h => exact h.publishes_le
  | requestLost => exact le_rfl
  | _ => exact Nat.zero_le 1

theorem Polled.publishes_le (h : Polled s tr s') (hc : Consistent s) (hw : Pending s w)
    (hp : adapterEnv.Path w tr w') : (traceOps tr).length ≤ 3 := by
  cases h with
  | empty => exact Nat.zero_le 3
  | stop he _ => exact he.publishes_le
  | next he hs₁ hrest =>
    obtain ⟨m, hm, hp⟩ := hp
    obtain ⟨n, hn, hp⟩ := Env.path_append_iff.mp hp
    rcases hw with hw | ⟨event, hw⟩
    · obtain ⟨hnone, -⟩ := hw.takeEvent hm
      cases hnone
    obtain ⟨ht, hw⟩ := hw.takeEvent hm
    obtain rfl := Option.some.inj ht
    have hsettled := (he.landed hc hw hn).settled hs₁
    -- what is left of the loop finds no event
    cases hrest with
    | empty =>
      change (traceOps (_ ++ _)).length ≤ 3
      rw [traceOps_append, List.length_append]
      exact he.publishes_le
    | stop _ _ =>
      obtain ⟨k, hk, -⟩ := hp
      obtain ⟨hnone, -⟩ := hsettled.takeEvent hk
      cases hnone
    | next _ _ _ =>
      obtain ⟨k, hk, -⟩ := hp
      obtain ⟨hnone, -⟩ := hsettled.takeEvent hk
      cases hnone

/-- A call publishes at most five events. -/
theorem Processed.publishes_le (h : Processed s tr s') (hc : Consistent s) (hw : InStep s w)
    (hp : adapterEnv.Path w tr w') : (traceOps tr).length ≤ 5 := by
  cases h with
  | off _ => exact Nat.zero_le 5
  | failed _ _ hl _ =>
    obtain ⟨m, hm, hp⟩ := hp
    exact (hl.publishes_le hc (hw.pending hm) hp).trans (by decide)
  | timedOut _ _ hl _ ht _ =>
    obtain ⟨m, hm, hp⟩ := hp
    obtain ⟨n, hn, -⟩ := Env.path_append_iff.mp hp
    have hpolled := hl.publishes_le hc (hw.pending hm) hn
    have htimeout := ht.publishes_le
    change (traceOps (_ ++ _)).length ≤ 5
    rw [traceOps_append, List.length_append]
    omega
  | ran _ _ hl _ ht _ ha =>
    obtain ⟨m, hm, hp⟩ := hp
    obtain ⟨n, hn, -⟩ := Env.path_append_iff.mp hp
    have hpolled := hl.publishes_le hc (hw.pending hm) hn
    have htimeout := ht.publishes_le
    have haction := ha.publishes_le
    change (traceOps (_ ++ (_ ++ _))).length ≤ 5
    rw [traceOps_append, traceOps_append, List.length_append, List.length_append]
    omega

/-! ## None is lost -/

theorem QueueStep.trans {s₁ : DuplexLinkService} {tr' : List LinkAction}
    (h : QueueStep s tr s₁) (h' : QueueStep s₁ tr' s') : QueueStep s (tr ++ tr') s' := by
  rw [QueueStep, traceOps_append]
  exact fifo_append_iff.mpr ⟨_, h, h'⟩

theorem Polled.queueStep (h : Polled s tr s') : QueueStep s tr s' := by
  induction h with
  | empty s => exact .of_eq rfl rfl
  | stop he _ => exact he.queueStep
  | next he _ _ ih => exact he.queueStep.trans ih

theorem Processed.queueStep (h : Processed s tr s') : QueueStep s tr s' := by
  cases h with
  | off _ => exact .of_eq rfl rfl
  | failed _ _ hl _ => exact hl.queueStep
  | timedOut _ _ hl _ ht _ => exact hl.queueStep.trans ht.queueStep
  | ran _ _ hl _ ht _ ha => exact hl.queueStep.trans (ht.queueStep.trans ha.queueStep)

theorem popped_traceOps (tr : List LinkAction) : popped (traceOps tr) = [] := by
  induction tr with
  | nil => rfl
  | cons a tr ih =>
    obtain ⟨o, x⟩ := a
    cases o <;> exact ih

theorem mem_traceOps {event : DuplexLinkEvent} {stored : Bool}
    (h : atPublished event stored ∈ tr) : .push event stored ∈ traceOps tr :=
  List.mem_filterMap.mpr ⟨_, List.mem_map_of_mem h, rfl⟩

/-- What a trace has stored in the queue, in order. -/
abbrev published (tr : List LinkAction) : List DuplexLinkEvent :=
  RingBuffer.pushed (traceOps tr)

/-- **A call that finds room for five events loses none.** -/
theorem Processed.stored (h : Processed s tr s') (hc : Consistent s) (hw : InStep s w)
    (hp : adapterEnv.Path w tr w') (hroom : s.events.toList.length ≤ 3) :
    (∀ event stored, atPublished event stored ∈ tr → stored = true) ∧
      s'.events.toList = s.events.toList ++ published tr := by
  have hqueue := h.queueStep
  refine ⟨fun event stored hmem => ?_, ?_⟩
  · refine hqueue.stored_of_room ?_ (mem_traceOps hmem)
    have hle := h.publishes_le hc hw hp
    change _ + _ ≤ 8
    omega
  · have he := hqueue.pushed_eq
    rwa [popped_traceOps, List.nil_append, eq_comm] at he

end DuplexLinkService

end RadioConnection
