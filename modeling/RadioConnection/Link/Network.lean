import RadioConnection.Link.Moves
import RadioConnection.Lib.LossyChannel

/-!
# Two nodes on one channel

An initiator and a responder that hear each other over a channel which loses
frames and does not reorder them.  Radio events, recoveries and clocks are
arbitrary; a node reads a frame only when the other one has transmitted it, and
every frame that is handed to the radio may be lost or delivered, whatever the
radio answers.

* `LinkLog`: what happens on the link, newest first, and what can be read off
  it: the successful start calls, the restarts of the initiator and the requests
  that the responder accepted.
* `Wire`: the log and the frames in the air, each with the start call that it
  was transmitted for.  A request belongs to the last start call, a response to
  the start call of the request that was accepted last.
* `Net.Run`: the runs of the two nodes.
-/

namespace RadioConnection

open Interaction
open Interaction.Prog
open LossyChannel

/-- A frame in the air; `start` is the number of the start call that it was transmitted for. -/
structure AirFrame where
  source : DuplexLinkRole
  data : List UInt8
  start : Nat
  deriving DecidableEq

/-- What happens on the link; `heard` is the start call of the frame that was read last. -/
inductive LinkEntry
  | started (packet : LinkPacket)
  | restarted
  | transmitted (frame : AirFrame)
  | published (role : DuplexLinkRole) (heard : Nat) (event : DuplexLinkEvent) (stored : Bool)

/-- A successful start call: its packet, and how often the initiator had been restarted. -/
structure StartCall where
  epoch : Nat
  packet : LinkPacket
  deriving DecidableEq

/-- The entries, newest first. -/
abbrev LinkLog : Type := List LinkEntry

namespace LinkLog

def epoch : LinkLog → Nat
  | [] => 0
  | .restarted :: log => epoch log + 1
  | _ :: log => epoch log

def starts : LinkLog → List StartCall
  | [] => []
  | .started packet :: log => starts log ++ [⟨epoch log, packet⟩]
  | _ :: log => starts log

/-- The requests that the responder published as received, in order, each with the start call
of the frame that it read. -/
def accepted : LinkLog → List (Nat × LinkPacket)
  | [] => []
  | .published .responder heard event _ :: log =>
    if event.type = .requestReceived then accepted log ++ [(heard, event.packet)] else accepted log
  | _ :: log => accepted log

def startFor (log : LinkLog) : DuplexLinkRole → Nat
  | .initiator => (starts log).length - 1
  | .responder => ((accepted log).getLast?.map Prod.fst).getD 0

/-- An entry that starts nothing and accepts nothing. -/
def Inert : LinkEntry → Prop
  | .started _ | .restarted => False
  | .transmitted _ => True
  | .published .initiator _ _ _ => True
  | .published .responder _ event _ => event.type ≠ .requestReceived

section

variable {e : LinkEntry} {log : LinkLog}

theorem starts_inert (h : Inert e) : starts (e :: log) = starts log := by
  cases e with
  | published role _ _ _ => rfl
  | transmitted _ => rfl
  | _ => exact h.elim

theorem epoch_inert (h : Inert e) : epoch (e :: log) = epoch log := by
  cases e with
  | published role _ _ _ => rfl
  | transmitted _ => rfl
  | _ => exact h.elim

theorem accepted_inert (h : Inert e) : accepted (e :: log) = accepted log := by
  cases e with
  | published role _ _ _ =>
    cases role with
    | initiator => rfl
    | responder => exact if_neg h
  | transmitted _ => rfl
  | _ => exact h.elim

theorem accepted_received {heard : Nat} {event : DuplexLinkEvent} {stored : Bool}
    (h : event.type = .requestReceived) :
    accepted (.published .responder heard event stored :: log) =
      accepted log ++ [(heard, event.packet)] := if_pos h

theorem epoch_le {s : StartCall} (hs : s ∈ starts log) : s.epoch ≤ epoch log := by
  induction log with
  | nil => cases hs
  | cons e log ih =>
    cases e with
    | started packet =>
      rcases List.mem_append.mp hs with hs | hs
      · exact ih hs
      · rw [List.mem_singleton.mp hs]
        exact le_rfl
    | restarted => exact (ih hs).trans (Nat.le_succ _)
    | transmitted _ => exact ih hs
    | published _ _ _ _ => exact ih hs

theorem starts_sorted (log : LinkLog) : (starts log).Pairwise fun s s' => s.epoch ≤ s'.epoch := by
  induction log with
  | nil => exact List.Pairwise.nil
  | cons e log ih =>
    cases e with
    | started packet =>
      apply pairwise_send ih
      intro s hs
      exact epoch_le hs
    | restarted => exact ih
    | transmitted _ => exact ih
    | published _ _ _ _ => exact ih

theorem starts_suffix {pre : LinkLog} (h : pre <:+ log) : starts pre <+: starts log := by
  obtain ⟨new, rfl⟩ := h
  induction new with
  | nil => exact List.prefix_refl _
  | cons e new ih =>
    cases e with
    | started packet => exact ih.trans (List.prefix_append _ _)
    | restarted => exact ih
    | transmitted _ => exact ih
    | published _ _ _ _ => exact ih

theorem starts_getElem? {pre : LinkLog} (h : pre <:+ log) {n : Nat} {s : StartCall}
    (hs : (starts pre)[n]? = some s) : (starts log)[n]? = some s := by
  obtain ⟨new, hnew⟩ := starts_suffix h
  rw [← hnew, List.getElem?_append_left (List.getElem?_eq_some_iff.mp hs).1]
  exact hs

theorem exists_published {a : Nat × LinkPacket} (h : a ∈ accepted log) :
    ∃ event stored, .published .responder a.1 event stored ∈ log ∧
      event.type = .requestReceived ∧ event.packet = a.2 := by
  induction log with
  | nil => cases h
  | cons e log ih =>
    have hold (h : a ∈ accepted log) : ∃ event stored,
        .published .responder a.1 event stored ∈ e :: log ∧
          event.type = .requestReceived ∧ event.packet = a.2 := by
      obtain ⟨event, stored, hm, he⟩ := ih h
      exact ⟨event, stored, List.mem_cons_of_mem e hm, he⟩
    by_cases he : Inert e
    · rw [accepted_inert he] at h
      exact hold h
    · cases e with
      | published role heard event stored =>
        cases role with
        | initiator => exact absurd trivial he
        | responder =>
          have htype : event.type = .requestReceived := not_not.mp he
          rw [accepted_received htype] at h
          rcases List.mem_append.mp h with h | h
          · exact hold h
          · rw [List.mem_singleton.mp h]
            exact ⟨event, stored, List.mem_cons_self, htype, rfl⟩
      | transmitted _ => exact absurd trivial he
      | started _ => exact hold h
      | restarted => exact hold h

theorem mem_accepted {heard : Nat} {event : DuplexLinkEvent} {stored : Bool}
    (h : .published .responder heard event stored ∈ log) (ht : event.type = .requestReceived) :
    (heard, event.packet) ∈ accepted log := by
  induction log with
  | nil => cases h
  | cons e log ih =>
    rcases List.mem_cons.mp h with rfl | h
    · rw [accepted_received ht]
      exact List.mem_append_right _ (List.mem_singleton_self _)
    · have hmem := ih h
      cases e with
      | published role heard' event' _ =>
        cases role with
        | initiator => exact hmem
        | responder =>
          by_cases ht' : event'.type = .requestReceived
          · rw [accepted_received ht']
            exact List.mem_append_left _ hmem
          · rw [accepted_inert (e := .published .responder heard' event' _) ht']
            exact hmem
      | transmitted _ => exact hmem
      | started _ => exact hmem
      | restarted => exact hmem

end

end LinkLog

/-! ## The channel -/

structure Wire where
  log : LinkLog
  air : List AirFrame
  heard : Nat

namespace Wire

def initial : Wire := ⟨[], [], 0⟩

def transmit (w : Wire) (role : DuplexLinkRole) (data : List UInt8) : Wire :=
  let frame := ⟨role, data, w.log.startFor role⟩
  { w with log := .transmitted frame :: w.log, air := w.air ++ [frame] }

def record (w : Wire) (role : DuplexLinkRole) (event : DuplexLinkEvent) (stored : Bool) : Wire :=
  { w with log := .published role w.heard event stored :: w.log }

/-- A start call that says `true`. -/
def begin (w : Wire) (started : Bool) (packet : LinkPacket) : Wire :=
  if started then { w with log := .started packet :: w.log } else w

def restart (w : Wire) : Wire := { w with log := .restarted :: w.log }

/-- A node reads `data`, which the other one has transmitted. -/
def Hears (w : Wire) (role : DuplexLinkRole) (data : List UInt8) (w' : Wire) : Prop :=
  ∃ x air, Delivers w.air x air ∧ x.source ≠ role ∧ x.data = data ∧
    w' = { w with air := air, heard := x.start }

/-- The channel as the environment of a node. -/
def env (role : DuplexLinkRole) : Env LinkOp LinkOp.Ans Wire
  | .tryStartTx data, w, _, w' => w' = w.transmit role data
  | .readRxFrame, w, some frame, w' => w.Hears role frame.data w'
  | .published event stored, w, _, w' => w' = w.record role event stored
  | _, w, _, w' => w' = w

end Wire

/-! ## The two nodes -/

structure Net where
  node : DuplexLinkRole → DuplexLinkService
  wire : Wire

namespace Net

/-- A call of one node, which changes it and the channel. -/
def set (net : Net) (role : DuplexLinkRole) (s : DuplexLinkService) (w : Wire) : Net :=
  ⟨Function.update net.node role s, w⟩

/-- The configurations of two nodes that talk to each other. -/
structure Mirrored (config : DuplexLinkRole → DuplexLinkConfig) : Prop where
  role : ∀ r, (config r).role = r
  request : (config .initiator).localNodeId = (config .responder).peerNodeId
  response : (config .responder).localNodeId = (config .initiator).peerNodeId

/-- The runs of two nodes: their calls in any order, and restarts of the initiator. -/
inductive Run (config : DuplexLinkRole → DuplexLinkConfig) : Net → Prop
  | init {node : DuplexLinkRole → DuplexLinkService} {tr : DuplexLinkRole → List LinkAction} :
      (∀ role, Trace (DuplexLinkService.init (config role)) (tr role) (some (node role))) →
      Run config ⟨node, .initial⟩
  | process {net : Net} {role : DuplexLinkRole} {bound : Nat} {s : DuplexLinkService} {w : Wire} :
      Run config net → Runs (Wire.env role) ((net.node role).process bound) net.wire (some s) w →
      Run config (net.set role s w)
  | start {net : Net} {role : DuplexLinkRole} {messageType : LinkMessageType}
      {payload : List UInt8} {tr : List LinkAction} {started : Bool} {s : DuplexLinkService} :
      Run config net → Trace ((net.node role).prepareRequest messageType payload) tr (started, s) →
      Run config (net.set role s (net.wire.begin started s.pendingRequest))
  | setResponsePayload {net : Net} (role : DuplexLinkRole) (payload : List UInt8) :
      Run config net →
      Run config (net.set role ((net.node role).setResponsePayload payload).2 net.wire)
  | takeEvent {net : Net} {role : DuplexLinkRole} {event : DuplexLinkEvent}
      {s : DuplexLinkService} : Run config net → (net.node role).takeEvent = some (event, s) →
      Run config (net.set role s net.wire)
  | restart {net : Net} {tr : List LinkAction} {s : DuplexLinkService} : Run config net →
      Trace (DuplexLinkService.init (config .initiator)) tr (some s) →
      Run config (net.set .initiator s net.wire.restart)

end Net

end RadioConnection
