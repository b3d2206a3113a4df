import RadioConnection.Drivers.Transactions

/-!
# The discipline of the SPI bus

The traces of `sx128x.c` as the radio sees them.

* `periods`: the transfers of each period in which NSS is low.
* `Disciplined`: transfers only while NSS is low; NSS low only after a wait that
  found BUSY low; an opcode first; nothing after a failed transfer; NSS high in the
  end.
* `bus`: these rules as an automaton over the calls of the port, an environment
  that allows only what they allow.  `disciplined_of_path`: what it accepts is
  disciplined.
* `sequence_path` and `sequence_carried`: a sequence of transactions is accepted,
  and comes as far as its result says, by induction on the transactions.
* `spi_discipline`: **the discipline, for every call of the driver and every
  behaviour of its port.**
-/

namespace RadioConnection

open Interaction

/-! ## Traces of the port -/

/-- The level of NSS after a trace that finds it high. -/
def nssHigh (tr : List PortAction) : Bool :=
  tr.foldl (fun high a => match a.1 with
    | .nssWrite level => level
    | _ => high) true

/-- The transfers up to the next release of NSS, with their success. -/
def transfers : List PortAction → List (Transfer × Bool)
  | ⟨.spiTransfer t, (sent, _)⟩ :: tr => (t, sent) :: transfers tr
  | ⟨.nssWrite true, _⟩ :: _ => []
  | _ :: tr => transfers tr
  | [] => []

/-- The transfers of each period in which NSS is low. -/
def periods : List PortAction → List (List (Transfer × Bool))
  | ⟨.nssWrite false, _⟩ :: tr => transfers tr :: periods tr
  | _ :: tr => periods tr
  | [] => []

/-- A call that is no transfer and does not pull NSS low. -/
def PortOp.silent : PortOp → Bool
  | spiTransfer _ => false
  | nssWrite high => high
  | _ => true

/-- A trace without a transfer and without a pulse of NSS. -/
def Silent (tr : List PortAction) : Prop := ∀ a ∈ tr, a.1.silent = true

/-- What the radio and the other devices on the bus rely on. -/
structure Disciplined (device : Sx128x) (bound : Nat) (tr : List PortAction) : Prop where
  /-- A transfer is made while NSS is low. -/
  selected : ∀ before t x after, tr = before ++ ⟨.spiTransfer t, x⟩ :: after →
    nssHigh before = false
  /-- NSS goes low right after a wait that has found BUSY low. -/
  ready : ∀ before after, tr = before ++ ⟨.nssWrite false, ()⟩ :: after →
    ∃ earlier wait, before = earlier ++ wait ∧
      Prog.Trace (device.waitWhileBusy bound) wait (some .ok)
  /-- The first thing that the radio hears is the one byte of a command. -/
  opcode : ∀ before after, tr = before ++ ⟨.nssWrite false, ()⟩ :: after →
    ∃ (command : Sx128xCommand) (rxData : Bool) (x : Bool × List UInt8) (rest : List PortAction),
      after = ⟨.spiTransfer ⟨some [command.opcode], rxData, 1⟩, x⟩ :: rest
  /-- A failed transfer is the last one before NSS is released. -/
  stops : ∀ before t received after,
    tr = before ++ ⟨.spiTransfer t, (false, received)⟩ :: after →
    ∃ rest, after = ⟨.nssWrite true, ()⟩ :: rest
  /-- NSS is left high. -/
  released : nssHigh tr = true

/-! ## The bus as an automaton -/

/-- NSS is high; it is low and nothing is sent; the transfers so far were sent; one has failed. -/
inductive Line
  | released | selected | sending | failed
  deriving DecidableEq

structure Bus where
  history : List PortAction
  line : Line

/-- The calls that the discipline allows, and the line after each of them. -/
def Bus.Allows (device : Sx128x) (bound : Nat) (s : Bus) : PortAction → Line → Prop
  | ⟨.spiTransfer t, (sent, _)⟩, line =>
    ((s.line = .selected ∧ ∃ (command : Sx128xCommand) (rxData : Bool),
      t = ⟨some [command.opcode], rxData, 1⟩) ∨ s.line = .sending) ∧
    line = if sent then .sending else .failed
  | ⟨.nssWrite false, _⟩, line =>
    s.line = .released ∧ (∃ earlier wait, s.history = earlier ++ wait ∧
      Prog.Trace (device.waitWhileBusy bound) wait (some .ok)) ∧ line = .selected
  | ⟨.nssWrite true, _⟩, line => s.line ≠ .selected ∧ line = .released
  | _, line => s.line = .released ∧ line = .released

def bus (device : Sx128x) (bound : Nat) : Env PortOp PortOp.Ans Bus := fun o s x s' =>
  s'.history = s.history ++ [⟨o, x⟩] ∧ s.Allows device bound ⟨o, x⟩ s'.line

variable {device : Sx128x} {bound : Nat} {tr : List PortAction}

theorem bus_path_history {s s' : Bus} (h : (bus device bound).Path s tr s') :
    s'.history = s.history ++ tr := by
  induction tr generalizing s with
  | nil =>
    obtain rfl := h
    exact (List.append_nil _).symm
  | cons a tr ih =>
    obtain ⟨m, hm, h⟩ := h
    rw [ih h, hm.1, List.append_assoc]
    rfl

theorem nssHigh_concat (tr : List PortAction) (a : PortAction) :
    nssHigh (tr ++ [a]) = match a.1 with
      | .nssWrite level => level
      | _ => nssHigh tr := by
  rw [nssHigh, List.foldl_append]
  rfl

/-- The line is released exactly while NSS is high. -/
def Bus.Follows (s : Bus) : Prop := nssHigh s.history = decide (s.line = .released)

theorem Bus.Follows.path {s s' : Bus} (h : (bus device bound).Path s tr s') (hs : s.Follows) :
    s'.Follows := by
  refine h.invariant ?_ hs
  intro o s x s' ⟨hhistory, hallows⟩ hs
  unfold Follows at hs ⊢
  rw [hhistory, nssHigh_concat]
  cases o with
  | spiTransfer t =>
    obtain ⟨hline, hline'⟩ := hallows
    rw [hs, hline']
    obtain ⟨hline, -⟩ | hline := hline <;> rw [hline] <;> cases x.1 <;> rfl
  | nssWrite high =>
    cases high with
    | false => rw [hallows.2.2]; rfl
    | true => rw [hallows.2]; rfl
  | resetWrite high => rw [hs, hallows.1, hallows.2]
  | busyRead => rw [hs, hallows.1, hallows.2]
  | delayMs ms => rw [hs, hallows.1, hallows.2]
  | timeMs => rw [hs, hallows.1, hallows.2]
  | takeDio1Event => rw [hs, hallows.1, hallows.2]

theorem Bus.Allows.of_selected {s : Bus} {a : PortAction} {line : Line}
    (h : s.Allows device bound a line) (hs : s.line = .selected) :
    ∃ (command : Sx128xCommand) (rxData : Bool) (x : Bool × List UInt8),
      a = ⟨.spiTransfer ⟨some [command.opcode], rxData, 1⟩, x⟩ := by
  obtain ⟨o, x⟩ := a
  cases o with
  | spiTransfer t =>
    obtain ⟨-, command, rxData, rfl⟩ | hline := h.1
    · exact ⟨command, rxData, x, rfl⟩
    · exact absurd (hs.symm.trans hline) (by decide)
  | nssWrite high =>
    cases high with
    | false => exact absurd (hs.symm.trans h.1) (by decide)
    | true => exact absurd hs h.1
  | resetWrite high => exact absurd (hs.symm.trans h.1) (by decide)
  | busyRead => exact absurd (hs.symm.trans h.1) (by decide)
  | delayMs ms => exact absurd (hs.symm.trans h.1) (by decide)
  | timeMs => exact absurd (hs.symm.trans h.1) (by decide)
  | takeDio1Event => exact absurd (hs.symm.trans h.1) (by decide)

theorem Bus.Allows.of_failed {s : Bus} {a : PortAction} {line : Line}
    (h : s.Allows device bound a line) (hs : s.line = .failed) : a = ⟨.nssWrite true, ()⟩ := by
  obtain ⟨o, x⟩ := a
  cases o with
  | spiTransfer t =>
    obtain ⟨hline, -⟩ | hline := h.1
    · exact absurd (hs.symm.trans hline) (by decide)
    · exact absurd (hs.symm.trans hline) (by decide)
  | nssWrite high =>
    cases high with
    | false => exact absurd (hs.symm.trans h.1) (by decide)
    | true => rfl
  | resetWrite high => exact absurd (hs.symm.trans h.1) (by decide)
  | busyRead => exact absurd (hs.symm.trans h.1) (by decide)
  | delayMs ms => exact absurd (hs.symm.trans h.1) (by decide)
  | timeMs => exact absurd (hs.symm.trans h.1) (by decide)
  | takeDio1Event => exact absurd (hs.symm.trans h.1) (by decide)

theorem bus_path_cons {s s' : Bus} (h : (bus device bound).Path s tr s') (hs : s.line ≠ s'.line) :
    ∃ a rest line, tr = a :: rest ∧ s.Allows device bound a line := by
  cases tr with
  | nil =>
    obtain rfl := h
    exact absurd rfl hs
  | cons a rest =>
    obtain ⟨m, hm, -⟩ := h
    exact ⟨a, rest, m.line, rfl, hm.2⟩

/-- **What the automaton accepts is disciplined.** -/
theorem disciplined_of_path {s : Bus} (h : (bus device bound).Path ⟨[], .released⟩ tr s)
    (hs : s.line = .released) : Disciplined device bound tr := by
  have hfollows : ∀ {before m}, (bus device bound).Path ⟨[], .released⟩ before m →
      m.history = before ∧ m.Follows := by
    intro before m hm
    exact ⟨bus_path_history hm, .path hm rfl⟩
  constructor
  · rintro before t x after rfl
    obtain ⟨m, hm, n, hn, -⟩ := Env.path_append_iff.mp h
    obtain ⟨hhistory, hfollows⟩ := hfollows hm
    rw [← hhistory, hfollows]
    obtain ⟨hline, -⟩ | hline := hn.2.1 <;> rw [hline] <;> rfl
  · rintro before after rfl
    obtain ⟨m, hm, n, hn, -⟩ := Env.path_append_iff.mp h
    obtain ⟨earlier, wait, hwait, htrace⟩ := hn.2.2.1
    exact ⟨earlier, wait, (hfollows hm).1.symm.trans hwait, htrace⟩
  · rintro before after rfl
    obtain ⟨m, hm, n, hn, hafter⟩ := Env.path_append_iff.mp h
    have hline : n.line = .selected := hn.2.2.2
    obtain ⟨a, rest, line, rfl, hallows⟩ := bus_path_cons hafter (by rw [hline, hs]; decide)
    obtain ⟨command, rxData, x, rfl⟩ := hallows.of_selected hline
    exact ⟨command, rxData, x, rest, rfl⟩
  · rintro before t received after rfl
    obtain ⟨m, hm, n, hn, hafter⟩ := Env.path_append_iff.mp h
    have hline : n.line = .failed := hn.2.2
    obtain ⟨a, rest, line, rfl, hallows⟩ := bus_path_cons hafter (by rw [hline, hs]; decide)
    obtain rfl := hallows.of_failed hline
    exact ⟨rest, rfl⟩
  · obtain ⟨hhistory, hfollows⟩ := hfollows h
    rw [← hhistory, hfollows, hs]
    rfl

/-! ## The trace of a transaction -/

theorem Silent.cons {a : PortAction} (h : Silent tr) (ha : a.1.silent = true) :
    Silent (a :: tr) := by
  intro b hb
  obtain rfl | hb := List.mem_cons.mp hb
  · exact ha
  · exact h b hb

theorem silent_nil : Silent [] := fun _ h => nomatch h

theorem Silent.periods_append (h : Silent tr) (rest : List PortAction) :
    periods (tr ++ rest) = periods rest := by
  induction tr with
  | nil => rfl
  | cons a tr ih =>
    have hrest := ih fun b hb => h b (List.mem_cons_of_mem a hb)
    have ha := h a List.mem_cons_self
    obtain ⟨o, x⟩ := a
    cases o with
    | nssWrite high =>
      obtain rfl : high = true := ha
      exact hrest
    | _ => exact hrest

theorem Silent.path (h : Silent tr) (history : List PortAction) :
    (bus device bound).Path ⟨history, .released⟩ tr ⟨history ++ tr, .released⟩ := by
  induction tr generalizing history with
  | nil => rw [List.append_nil]; rfl
  | cons a tr ih =>
    have hrest := ih (fun b hb => h b (List.mem_cons_of_mem a hb)) (history ++ [a])
    rw [List.append_assoc] at hrest
    have ha := h a List.mem_cons_self
    obtain ⟨o, x⟩ := a
    refine ⟨⟨history ++ [⟨o, x⟩], .released⟩, ⟨rfl, ?_⟩, hrest⟩
    cases o with
    | spiTransfer t => exact absurd ha (by simp [PortOp.silent])
    | nssWrite high =>
      obtain rfl : high = true := ha
      exact ⟨nofun, rfl⟩
    | _ => exact ⟨rfl, rfl⟩

namespace Sx128x

theorem pollBusy_silent {startMs : UInt32} {r : Option Sx128xResult}
    (h : Prog.Trace (device.pollBusy startMs bound) tr r) :
    Silent tr ∧ (r = none ∨ r = some .ok ∨ r = some .busyTimeout) := by
  induction bound generalizing tr with
  | zero =>
    obtain ⟨rfl, rfl⟩ := Prog.trace_pure_iff.mp h
    exact ⟨silent_nil, .inl rfl⟩
  | succ bound ih =>
    obtain ⟨busy, t₁, t₂, hbusy, hpolled, rfl⟩ := Prog.trace_bind_iff.mp h
    obtain rfl := Prog.trace_ask_iff.mp hbusy
    cases busy with
    | false =>
      obtain ⟨rfl, rfl⟩ := Prog.trace_pure_iff.mp hpolled
      exact ⟨silent_nil.cons rfl, .inr (.inl rfl)⟩
    | true =>
      rw [if_pos rfl] at hpolled
      obtain ⟨currentMs, t₃, t₄, htime, hread, rfl⟩ := Prog.trace_bind_iff.mp hpolled
      obtain rfl := Prog.trace_ask_iff.mp htime
      split at hread
      · obtain ⟨rfl, rfl⟩ := Prog.trace_pure_iff.mp hread
        exact ⟨(silent_nil.cons rfl).cons rfl, .inr (.inr rfl)⟩
      · obtain ⟨_, t₅, t₆, hdelay, hrest, rfl⟩ := Prog.trace_bind_iff.mp hread
        obtain rfl := Prog.trace_ask_iff.mp hdelay
        obtain ⟨hsilent, hr⟩ := ih hrest
        exact ⟨((hsilent.cons rfl).cons rfl).cons rfl, hr⟩

theorem waitWhileBusy_silent {r : Option Sx128xResult}
    (h : Prog.Trace (device.waitWhileBusy bound) tr r) (hready : device.initialized = true) :
    Silent tr ∧ (r = none ∨ r = some .ok ∨ r = some .busyTimeout) := by
  rw [waitWhileBusy, if_neg (not_not.mpr hready)] at h
  obtain ⟨startMs, t₁, t₂, htime, hpoll, rfl⟩ := Prog.trace_bind_iff.mp h
  obtain rfl := Prog.trace_ask_iff.mp htime
  obtain ⟨hsilent, hr⟩ := pollBusy_silent hpoll
  exact ⟨hsilent.cons rfl, hr⟩

/-- The first failed transfer ends a transaction. -/
def CutShort (ts : List Transfer) (log : List (Transfer × Bool)) : Prop :=
  ∃ done t rest, ts = done ++ t :: rest ∧ log = done.map (·, true) ++ [(t, false)]

theorem trace_attempt {ts : List Transfer} {sent : Bool} (h : Prog.Trace (attempt ts) tr sent) :
    ∃ log : List (Transfer × Bool × List UInt8),
      tr = log.map (fun x => ⟨.spiTransfer x.1, x.2⟩) ∧
      if sent then log.map (fun x => (x.1, x.2.1)) = ts.map (·, true)
      else CutShort ts (log.map fun x => (x.1, x.2.1)) := by
  induction ts generalizing tr with
  | nil =>
    obtain ⟨rfl, rfl⟩ := Prog.trace_pure_iff.mp h
    exact ⟨[], rfl, rfl⟩
  | cons t ts ih =>
    obtain ⟨x, t₁, t₂, htransfer, hrest, rfl⟩ := Prog.trace_bind_iff.mp h
    obtain rfl := Prog.trace_ask_iff.mp htransfer
    obtain ⟨_ | _, received⟩ := x
    · obtain ⟨rfl, rfl⟩ := Prog.trace_pure_iff.mp hrest
      exact ⟨[(t, false, received)], rfl, [], t, ts, rfl, rfl⟩
    · obtain ⟨log, rfl, hlog⟩ := ih hrest
      refine ⟨(t, true, received) :: log, rfl, ?_⟩
      cases sent with
      | true => exact congrArg ((t, true) :: ·) hlog
      | false =>
        obtain ⟨done, u, rest, rfl, hlog⟩ := hlog
        exact ⟨t :: done, u, rest, rfl, congrArg ((t, true) :: ·) hlog⟩

theorem trace_transact {t : Transaction} {r : Option Sx128xResult}
    (h : Prog.Trace (device.transact bound t) tr r) :
    (Prog.Trace (device.waitWhileBusy bound) tr r ∧ r ≠ some .ok) ∨
    ∃ wait body sent, Prog.Trace (device.waitWhileBusy bound) wait (some .ok) ∧
      Prog.Trace (attempt t.transfers) body sent ∧
      tr = wait ++ ⟨.nssWrite false, ()⟩ :: (body ++ [⟨.nssWrite true, ()⟩]) ∧
      r = some (if sent then .ok else .spiError) := by
  obtain ⟨result, wait, t₂, hwait, hrest, rfl⟩ := Prog.trace_bind_iff.mp h
  split at hrest
  · obtain ⟨rfl, rfl⟩ := Prog.trace_pure_iff.mp hrest
    refine .inl ⟨?_, ‹_›⟩
    rwa [List.append_nil]
  · obtain rfl : result = some .ok := not_not.mp ‹_›
    simp only [Prog.trace_bind_iff, Prog.trace_pure_iff] at hrest
    obtain ⟨_, t₁, t₂, hlow, ⟨sent, body, t₃, hbody, ⟨_, t₄, t₅, hhigh, ⟨rfl, rfl⟩, rfl⟩, rfl⟩,
      rfl⟩ := hrest
    obtain rfl := Prog.trace_ask_iff.mp hlow
    obtain rfl := Prog.trace_ask_iff.mp hhigh
    exact .inr ⟨wait, body, sent, hwait, hbody, rfl, rfl⟩

theorem attempt_path {ts : List Transfer} {sent : Bool} (h : Prog.Trace (attempt ts) tr sent)
    (history : List PortAction) :
    (bus device bound).Path ⟨history, .sending⟩ tr
      ⟨history ++ tr, if sent then .sending else .failed⟩ := by
  induction ts generalizing tr history with
  | nil =>
    obtain ⟨rfl, rfl⟩ := Prog.trace_pure_iff.mp h
    rw [List.append_nil]
    rfl
  | cons t ts ih =>
    obtain ⟨x, t₁, t₂, htransfer, hrest, rfl⟩ := Prog.trace_bind_iff.mp h
    obtain rfl := Prog.trace_ask_iff.mp htransfer
    obtain ⟨_ | _, received⟩ := x
    · obtain ⟨rfl, rfl⟩ := Prog.trace_pure_iff.mp hrest
      exact ⟨_, ⟨rfl, .inr rfl, rfl⟩, rfl⟩
    · have hpath := ih hrest (history ++ [⟨.spiTransfer t, (true, received)⟩])
      rw [List.append_assoc] at hpath
      exact ⟨_, ⟨rfl, .inr rfl, rfl⟩, hpath⟩

theorem attempt_transfers_path {t : Transaction} {sent : Bool}
    (h : Prog.Trace (attempt t.transfers) tr sent) (history : List PortAction) :
    (bus device bound).Path ⟨history, .selected⟩ tr
      ⟨history ++ tr, if sent then .sending else .failed⟩ := by
  obtain ⟨x, t₁, t₂, htransfer, hrest, rfl⟩ := Prog.trace_bind_iff.mp h
  obtain rfl := Prog.trace_ask_iff.mp htransfer
  have hopcode : ∃ (command : Sx128xCommand) (rxData : Bool),
      (⟨some [t.command.opcode], t.rxData, 1⟩ : Transfer) = ⟨some [command.opcode], rxData, 1⟩ :=
    ⟨t.command, t.rxData, rfl⟩
  obtain ⟨_ | _, received⟩ := x
  · obtain ⟨rfl, rfl⟩ := Prog.trace_pure_iff.mp hrest
    exact ⟨_, ⟨rfl, .inl ⟨rfl, hopcode⟩, rfl⟩, rfl⟩
  · have hpath (before : List PortAction) : (bus device bound).Path ⟨before, .sending⟩ t₂
        ⟨before ++ t₂, if sent then .sending else .failed⟩ := attempt_path hrest before
    have hafter := hpath
      (history ++ [⟨.spiTransfer ⟨some [t.command.opcode], t.rxData, 1⟩, (true, received)⟩])
    rw [List.append_assoc] at hafter
    exact ⟨_, ⟨rfl, .inl ⟨rfl, hopcode⟩, rfl⟩, hafter⟩

theorem transact_path {t : Transaction} {r : Option Sx128xResult}
    (hready : device.initialized = true) (h : Prog.Trace (device.transact bound t) tr r)
    (history : List PortAction) :
    (bus device bound).Path ⟨history, .released⟩ tr ⟨history ++ tr, .released⟩ := by
  obtain ⟨hwait, -⟩ | ⟨wait, body, sent, hwait, hbody, rfl, -⟩ := trace_transact h
  · exact (waitWhileBusy_silent hwait hready).1.path history
  · refine Env.path_append_iff.mpr
      ⟨_, (waitWhileBusy_silent hwait hready).1.path history, ?_⟩
    refine ⟨⟨history ++ wait ++ [⟨.nssWrite false, ()⟩], .selected⟩,
      ⟨rfl, rfl, ⟨history, wait, rfl, hwait⟩, rfl⟩, ?_⟩
    refine Env.path_append_iff.mpr ⟨_, attempt_transfers_path hbody _, ?_⟩
    refine ⟨⟨_, .released⟩, ⟨rfl, ?_, rfl⟩, ?_⟩
    · cases sent <;> exact nofun
    · simp

/-- **The transactions of a sequence keep the discipline.** -/
theorem sequence_path {plan : List Transaction} {r result : Option Sx128xResult}
    (hready : device.initialized = true)
    (h : Prog.Trace (device.sequence bound plan result) tr r) (history : List PortAction) :
    (bus device bound).Path ⟨history, .released⟩ tr ⟨history ++ tr, .released⟩ := by
  induction plan generalizing result tr history with
  | nil =>
    obtain ⟨rfl, rfl⟩ := Prog.trace_pure_iff.mp h
    rw [List.append_nil]
    rfl
  | cons t ts ih =>
    by_cases hresult : result = some .ok
    · obtain rfl := hresult
      rw [sequence_ok_cons] at h
      obtain ⟨result, t₁, t₂, htransact, hrest, rfl⟩ := Prog.trace_bind_iff.mp h
      have hpath := ih hrest (history ++ t₁)
      rw [List.append_assoc] at hpath
      exact Env.path_append_iff.mpr ⟨_, transact_path hready htransact history, hpath⟩
    · rw [sequence_of_ne_ok hresult] at h
      obtain ⟨rfl, rfl⟩ := Prog.trace_pure_iff.mp h
      rw [List.append_nil]
      rfl

/-! ## The periods of a sequence -/

theorem transfers_map_append (log : List (Transfer × Bool × List UInt8)) (rest : List PortAction) :
    transfers (log.map (fun x => (⟨.spiTransfer x.1, x.2⟩ : PortAction)) ++
      ⟨.nssWrite true, ()⟩ :: rest) = log.map fun x => (x.1, x.2.1) := by
  induction log with
  | nil => rfl
  | cons x log ih => exact congrArg ((x.1, x.2.1) :: ·) ih

theorem periods_map_append (log : List (Transfer × Bool × List UInt8)) (rest : List PortAction) :
    periods (log.map (fun x => (⟨.spiTransfer x.1, x.2⟩ : PortAction)) ++ rest) =
      periods rest := by
  induction log with
  | nil => rfl
  | cons x log ih => exact ih

def complete (t : Transaction) : List (Transfer × Bool) := t.transfers.map (·, true)

theorem CutShort.ne_complete {t : Transaction} {log : List (Transfer × Bool)}
    (h : CutShort t.transfers log) : log ≠ complete t := by
  rintro rfl
  obtain ⟨done, u, rest, -, hlog⟩ := h
  have hmem : (u, false) ∈ complete t := by
    rw [hlog]
    exact List.mem_append_right _ List.mem_cons_self
  obtain ⟨v, -, hv⟩ := List.mem_map.mp hmem
  exact Bool.noConfusion (congrArg Prod.snd hv)

/-- How far the transactions of `plan` come: all of them, none of those from some point on
because BUSY stays high, or one is cut short by a transfer that fails. -/
inductive Carried :
    List Transaction → List (List (Transfer × Bool)) → Option Sx128xResult → Prop
  | all : Carried [] [] (some .ok)
  | busy (t : Transaction) (ts : List Transaction) : Carried (t :: ts) [] (some .busyTimeout)
  | waits (t : Transaction) (ts : List Transaction) : Carried (t :: ts) [] none
  | failed {t : Transaction} (ts : List Transaction) {log : List (Transfer × Bool)} :
    CutShort t.transfers log → Carried (t :: ts) [log] (some .spiError)
  | sent (t : Transaction) {ts : List Transaction} {logs : List (List (Transfer × Bool))}
    {r : Option Sx128xResult} : Carried ts logs r → Carried (t :: ts) (complete t :: logs) r

/-- The periods of one transaction and of what comes after it. -/
theorem transact_periods {t : Transaction} {r : Option Sx128xResult}
    (hready : device.initialized = true) (h : Prog.Trace (device.transact bound t) tr r) :
    (r = some .ok ∧ ∀ rest, periods (tr ++ rest) = complete t :: periods rest) ∨
    (r = some .spiError ∧ ∃ log, CutShort t.transfers log ∧
      ∀ rest, periods (tr ++ rest) = log :: periods rest) ∨
    ((r = some .busyTimeout ∨ r = none) ∧ ∀ rest, periods (tr ++ rest) = periods rest) := by
  obtain ⟨hwait, hr⟩ | ⟨wait, body, sent, hwait, hbody, rfl, rfl⟩ := trace_transact h
  · obtain ⟨hsilent, rfl | rfl | rfl⟩ := waitWhileBusy_silent hwait hready
    · exact .inr (.inr ⟨.inr rfl, hsilent.periods_append⟩)
    · exact absurd rfl hr
    · exact .inr (.inr ⟨.inl rfl, hsilent.periods_append⟩)
  · obtain ⟨hsilent, -⟩ := waitWhileBusy_silent hwait hready
    obtain ⟨log, rfl, hlog⟩ := trace_attempt hbody
    have hperiods : ∀ rest, periods (wait ++ ⟨.nssWrite false, ()⟩ ::
        (log.map (fun x => (⟨.spiTransfer x.1, x.2⟩ : PortAction)) ++ [⟨.nssWrite true, ()⟩]) ++
        rest) = log.map (fun x => (x.1, x.2.1)) :: periods rest := by
      intro rest
      rw [List.append_assoc, hsilent.periods_append, List.cons_append, List.append_assoc]
      exact congrArg₂ List.cons (transfers_map_append log rest) (periods_map_append log _)
    cases sent with
    | true =>
      refine .inl ⟨rfl, fun rest => ?_⟩
      rw [hperiods, if_pos rfl] at *
      exact congrArg (· :: _) hlog
    | false => exact .inr (.inl ⟨rfl, _, hlog, hperiods⟩)

/-- **A sequence comes as far as its result says.** -/
theorem sequence_carried {plan : List Transaction} {r : Option Sx128xResult}
    (hready : device.initialized = true)
    (h : Prog.Trace (device.sequence bound plan (some .ok)) tr r) :
    Carried plan (periods tr) r := by
  induction plan generalizing tr with
  | nil =>
    obtain ⟨rfl, rfl⟩ := Prog.trace_pure_iff.mp h
    exact .all
  | cons t ts ih =>
    rw [sequence_ok_cons] at h
    obtain ⟨result, t₁, t₂, htransact, hrest, rfl⟩ := Prog.trace_bind_iff.mp h
    have hstop : result ≠ some .ok → t₂ = [] ∧ r = result := by
      intro hresult
      rw [sequence_of_ne_ok hresult] at hrest
      exact Prog.trace_pure_iff.mp hrest
    obtain ⟨rfl, hperiods⟩ | ⟨rfl, log, hlog, hperiods⟩ | ⟨hresult, hperiods⟩ :=
      transact_periods hready htransact
    · rw [hperiods]
      exact .sent t (ih hrest)
    · obtain ⟨rfl, rfl⟩ := hstop (by decide)
      rw [hperiods]
      exact .failed ts hlog
    · obtain rfl | rfl := hresult
      · obtain ⟨rfl, rfl⟩ := hstop (by decide)
        rw [hperiods]
        exact .busy t ts
      · obtain ⟨rfl, rfl⟩ := hstop (by decide)
        rw [hperiods]
        exact .waits t ts

/-- The periods are those of the first transactions of `plan`, the last of them perhaps cut
short. -/
def StartsPlan (plan : List Transaction) (logs : List (List (Transfer × Bool))) : Prop :=
  ∃ sent rest, plan = sent ++ rest ∧ (logs = sent.map complete ∨
    ∃ t rest' log, rest = t :: rest' ∧ CutShort t.transfers log ∧
      logs = sent.map complete ++ [log])

theorem Carried.startsPlan {plan : List Transaction} {logs : List (List (Transfer × Bool))}
    {r : Option Sx128xResult} (h : Carried plan logs r) : StartsPlan plan logs := by
  induction h with
  | all => exact ⟨[], [], rfl, .inl rfl⟩
  | busy t ts => exact ⟨[], t :: ts, rfl, .inl rfl⟩
  | waits t ts => exact ⟨[], t :: ts, rfl, .inl rfl⟩
  | @failed t ts log hlog => exact ⟨[], t :: ts, rfl, .inr ⟨t, ts, log, rfl, hlog, rfl⟩⟩
  | sent t _ ih =>
    obtain ⟨sent, rest, rfl, rfl | ⟨u, rest', log, hrest, hlog, rfl⟩⟩ := ih
    · exact ⟨t :: sent, rest, rfl, .inl rfl⟩
    · exact ⟨t :: sent, rest, rfl, .inr ⟨u, rest', log, hrest, hlog, rfl⟩⟩

theorem Carried.ok_iff {plan : List Transaction} {logs : List (List (Transfer × Bool))}
    {r : Option Sx128xResult} (h : Carried plan logs r) :
    r = some .ok ↔ logs = plan.map complete := by
  induction h with
  | all => exact iff_of_true rfl rfl
  | busy t ts => exact iff_of_false nofun nofun
  | waits t ts => exact iff_of_false nofun nofun
  | failed ts hlog =>
    refine iff_of_false nofun fun h => hlog.ne_complete ?_
    exact (List.cons.inj h).1
  | sent t _ ih =>
    rw [ih, List.map_cons, List.cons.injEq]
    exact ⟨fun h => ⟨rfl, h⟩, And.right⟩

theorem Carried.not_rejected {plan : List Transaction} {logs : List (List (Transfer × Bool))}
    {result : Option Sx128xResult} (h : Carried plan logs result) :
    ∀ r, result = some r → ¬ Rejected r := by
  induction h with
  | all => rintro _ ⟨⟩ (h | h | h) <;> exact nomatch h
  | busy t ts => rintro _ ⟨⟩ (h | h | h) <;> exact nomatch h
  | waits t ts => exact nofun
  | failed ts hlog => rintro _ ⟨⟩ (h | h | h) <;> exact nomatch h
  | sent t _ ih => exact ih

/-- A time-out: the transactions before it are complete, and the wait of the next one is all
that follows them. -/
def TimedOut (device : Sx128x) (bound : Nat) (plan : List Transaction)
    (tr : List PortAction) : Prop :=
  ∃ sent t rest earlier wait, plan = sent ++ t :: rest ∧ tr = earlier ++ wait ∧
    periods earlier = sent.map complete ∧ (sent = [] → earlier = []) ∧ Silent wait ∧
    Prog.Trace (device.waitWhileBusy bound) wait (some .busyTimeout)

theorem sequence_timedOut {plan : List Transaction} (hready : device.initialized = true)
    (h : Prog.Trace (device.sequence bound plan (some .ok)) tr (some .busyTimeout)) :
    TimedOut device bound plan tr := by
  induction plan generalizing tr with
  | nil => exact nomatch (Prog.trace_pure_iff.mp h).2
  | cons t ts ih =>
    rw [sequence_ok_cons] at h
    obtain ⟨result, t₁, t₂, htransact, hrest, rfl⟩ := Prog.trace_bind_iff.mp h
    by_cases hresult : result = some .ok
    · obtain rfl := hresult
      obtain ⟨sent, u, rest, earlier, wait, rfl, rfl, hperiods, -, hsilent, hwait⟩ := ih hrest
      refine ⟨t :: sent, u, rest, t₁ ++ earlier, wait, rfl, (List.append_assoc _ _ _).symm, ?_,
        nofun, hsilent, hwait⟩
      obtain ⟨-, hfirst⟩ | ⟨hr, -⟩ | ⟨hr | hr, -⟩ := transact_periods hready htransact
      · rw [hfirst, hperiods]
        rfl
      · exact nomatch hr
      · exact nomatch hr
      · exact nomatch hr
    · rw [sequence_of_ne_ok hresult] at hrest
      obtain ⟨rfl, rfl⟩ := Prog.trace_pure_iff.mp hrest
      obtain ⟨hwait, -⟩ | ⟨wait, body, sent, -, -, -, hr⟩ := trace_transact htransact
      · exact ⟨[], t, ts, [], t₁, rfl, List.append_nil t₁, rfl, fun _ => rfl,
          (waitWhileBusy_silent hwait hready).1, hwait⟩
      · cases sent <;> exact nomatch hr

theorem TimedOut.silent {t : Transaction} (h : TimedOut device bound [t] tr) : Silent tr := by
  obtain ⟨sent, u, rest, earlier, wait, hplan, rfl, -, hearlier, hsilent, -⟩ := h
  cases sent with
  | nil =>
    rw [hearlier rfl]
    exact hsilent
  | cons v sent => exact absurd (List.cons.inj hplan).2 (by simp)

end Sx128x

/-! ## The calls -/

namespace Sx128xCall

open Sx128x

theorem silent_of_isQuiet {call : Sx128xCall} (hquiet : call.IsQuiet) {out : Option Sx128xReturn}
    (h : Prog.Trace (call.run device bound) tr out) : Silent tr := by
  have hwait : ∀ {tr r}, Prog.Trace (device.waitWhileBusy bound) tr r → Silent tr := by
    intro tr r h
    by_cases hready : device.initialized = true
    · exact (waitWhileBusy_silent h hready).1
    · rw [Sx128x.waitWhileBusy, if_pos hready] at h
      obtain ⟨rfl, -⟩ := Prog.trace_pure_iff.mp h
      exact silent_nil
  cases call with
  | hardwareReset =>
    obtain ⟨r, hreset, -⟩ := Prog.trace_map_iff.mp h
    rw [Sx128x.hardwareReset] at hreset
    split at hreset
    · obtain ⟨rfl, -⟩ := Prog.trace_pure_iff.mp hreset
      exact silent_nil
    · simp only [Prog.trace_bind_iff, port, Prog.trace_ask_iff] at hreset
      obtain ⟨_, _, _, rfl, ⟨_, _, _, rfl, ⟨_, _, _, rfl, ⟨_, _, _, rfl, ⟨_, _, _, rfl, hrest, rfl⟩,
        rfl⟩, rfl⟩, rfl⟩, rfl⟩ := hreset
      exact (((((hwait hrest).cons rfl).cons rfl).cons rfl).cons rfl).cons rfl
  | waitWhileBusy =>
    obtain ⟨r, hrest, -⟩ := Prog.trace_map_iff.mp h
    exact hwait hrest
  | takeDio1Event =>
    obtain ⟨taken, htake, -⟩ := Prog.trace_map_iff.mp h
    rw [Sx128x.takeDio1Event] at htake
    split at htake
    · obtain rfl := Prog.trace_ask_iff.mp htake
      exact silent_nil.cons rfl
    · obtain ⟨rfl, -⟩ := Prog.trace_pure_iff.mp htake
      exact silent_nil
  | _ => exact absurd hquiet not_false

/-- **A call that makes commands is silent and rejected, or a sequence of its transactions.** -/
theorem trace_run {call : Sx128xCall} (hquiet : ¬ call.IsQuiet) {out : Option Sx128xReturn}
    (h : Prog.Trace (call.run device bound) tr out) :
    ∃ r : Option Sx128xResult, out = r.map .result ∧
      ((∃ result, r = some result ∧ Rejected result ∧ tr = []) ∨
        (device.initialized = true ∧
          Prog.Trace (device.sequence bound call.transactions (some .ok)) tr r)) := by
  obtain ⟨p, hp, hdoes⟩ : ∃ p, call.run device bound = returns p ∧
      device.Does bound p call.transactions := call.run_does hquiet
  rw [hp] at h
  obtain ⟨r, htrace, rfl⟩ := Prog.trace_map_iff.mp h
  refine ⟨r, rfl, ?_⟩
  obtain ⟨result, hresult, rfl⟩ | ⟨hready, rfl⟩ := hdoes
  · obtain ⟨rfl, rfl⟩ := Prog.trace_pure_iff.mp htrace
    exact .inl ⟨result, rfl, hresult, rfl⟩
  · exact .inr ⟨hready, htrace⟩

theorem transactions_eq_singleton {call : Sx128xCall} (hquiet : ¬ call.IsQuiet)
    (hconfigure : ∀ config, call ≠ .configureLoRa config) : ∃ t, call.transactions = [t] := by
  cases call with
  | hardwareReset => exact absurd trivial hquiet
  | waitWhileBusy => exact absurd trivial hquiet
  | takeDio1Event => exact absurd trivial hquiet
  | configureLoRa config => exact absurd rfl (hconfigure config)
  | _ => exact ⟨_, rfl⟩

theorem path_run {call : Sx128xCall} {out : Option Sx128xReturn}
    (h : Prog.Trace (call.run device bound) tr out) :
    (bus device bound).Path ⟨[], .released⟩ tr ⟨tr, .released⟩ := by
  by_cases hquiet : call.IsQuiet
  · exact (silent_of_isQuiet hquiet h).path []
  · obtain ⟨r, rfl, ⟨result, -, -, rfl⟩ | ⟨hready, hsequence⟩⟩ := trace_run hquiet h
    · exact silent_nil.path []
    · exact sequence_path hready hsequence []

theorem startsPlan_run {call : Sx128xCall} {out : Option Sx128xReturn}
    (h : Prog.Trace (call.run device bound) tr out) :
    StartsPlan call.transactions (periods tr) := by
  by_cases hquiet : call.IsQuiet
  · have hperiods := (silent_of_isQuiet hquiet h).periods_append []
    rw [List.append_nil] at hperiods
    exact ⟨[], call.transactions, rfl, .inl hperiods⟩
  · obtain ⟨r, rfl, ⟨result, -, -, rfl⟩ | ⟨hready, hsequence⟩⟩ := trace_run hquiet h
    · exact ⟨[], call.transactions, rfl, .inl rfl⟩
    · exact (sequence_carried hready hsequence).startsPlan

theorem result_of_map {result : Option Sx128xResult} {r : Sx128xResult}
    (h : some (Sx128xReturn.result r) = result.map .result) : result = some r := by
  obtain ⟨r', hr', heq⟩ := Option.map_eq_some_iff.mp h.symm
  rw [hr', Sx128xReturn.result.inj heq]

theorem silent_of_rejected {call : Sx128xCall} {r : Sx128xResult}
    (h : Prog.Trace (call.run device bound) tr (some (.result r))) (hr : Rejected r) :
    Silent tr := by
  by_cases hquiet : call.IsQuiet
  · exact silent_of_isQuiet hquiet h
  · obtain ⟨result, hresult, ⟨_, -, -, rfl⟩ | ⟨hready, hsequence⟩⟩ := trace_run hquiet h
    · exact silent_nil
    · have hr' : result = some r := result_of_map hresult
      exact absurd hr ((sequence_carried hready hsequence).not_rejected r hr')

theorem silent_of_busyTimeout {call : Sx128xCall}
    (h : Prog.Trace (call.run device bound) tr (some (.result .busyTimeout)))
    (hconfigure : ∀ config, call ≠ .configureLoRa config) : Silent tr := by
  by_cases hquiet : call.IsQuiet
  · exact silent_of_isQuiet hquiet h
  · obtain ⟨result, hresult, ⟨_, -, -, rfl⟩ | ⟨hready, hsequence⟩⟩ := trace_run hquiet h
    · exact silent_nil
    · obtain rfl := result_of_map hresult
      obtain ⟨t, ht⟩ := transactions_eq_singleton hquiet hconfigure
      rw [ht] at hsequence
      exact (sequence_timedOut hready hsequence).silent

end Sx128xCall

namespace Sx128x

/-! ## The outputs of the getters -/

theorem eq_of_not_ok {β : Type} {result r : Sx128xResult} {x y z : β}
    (h : Prog.Trace (if result = .ok then pure (some (result, x)) else pure (some (result, y)) :
      PortProg (Option (Sx128xResult × β))) tr (some (r, z))) (hr : r ≠ .ok) : z = y := by
  split at h
  · obtain ⟨-, h⟩ := Prog.trace_pure_iff.mp h
    obtain ⟨rfl, -⟩ := Prod.mk.inj (Option.some.inj h)
    exact absurd ‹_› hr
  · obtain ⟨-, h⟩ := Prog.trace_pure_iff.mp h
    exact (Prod.mk.inj (Option.some.inj h)).2

theorem getIrqStatus_unchanged {old new : Option UInt16} {r : Sx128xResult}
    (h : Prog.Trace (device.getIrqStatus bound old) tr (some (r, new))) (hr : r ≠ .ok) :
    new = old := by
  rw [getIrqStatus] at h
  split at h
  · obtain ⟨-, h⟩ := Prog.trace_pure_iff.mp h
    exact (Prod.mk.inj (Option.some.inj h)).2
  · obtain ⟨_ | ⟨result, response⟩, t₁, t₂, -, hrest, -⟩ := Prog.trace_bind_iff.mp h
    · obtain ⟨-, hnone⟩ := Prog.trace_pure_iff.mp hrest
      cases hnone
    · exact eq_of_not_ok hrest hr

theorem getRxBufferStatus_unchanged {old new : Option Sx128xRxBufferStatus} {r : Sx128xResult}
    (h : Prog.Trace (device.getRxBufferStatus bound old) tr (some (r, new))) (hr : r ≠ .ok) :
    new = old := by
  rw [getRxBufferStatus] at h
  split at h
  · obtain ⟨-, h⟩ := Prog.trace_pure_iff.mp h
    exact (Prod.mk.inj (Option.some.inj h)).2
  · obtain ⟨_ | ⟨result, response⟩, t₁, t₂, -, hrest, -⟩ := Prog.trace_bind_iff.mp h
    · obtain ⟨-, hnone⟩ := Prog.trace_pure_iff.mp hrest
      cases hnone
    · exact eq_of_not_ok hrest hr

theorem getLoRaPacketStatus_unchanged {old new : Option Sx128xLoRaPacketStatus} {r : Sx128xResult}
    (h : Prog.Trace (device.getLoRaPacketStatus bound old) tr (some (r, new))) (hr : r ≠ .ok) :
    new = old := by
  rw [getLoRaPacketStatus] at h
  split at h
  · obtain ⟨-, h⟩ := Prog.trace_pure_iff.mp h
    exact (Prod.mk.inj (Option.some.inj h)).2
  · obtain ⟨_ | ⟨result, response⟩, t₁, t₂, -, hrest, -⟩ := Prog.trace_bind_iff.mp h
    · obtain ⟨-, hnone⟩ := Prog.trace_pure_iff.mp hrest
      cases hnone
    · exact eq_of_not_ok hrest hr

/-! ## The discipline -/

theorem configureLoRa_carried {config : Sx128xLoRaConfig} {r : Sx128xResult}
    (h : Prog.Trace (device.configureLoRa bound (some config)) tr (some r)) :
    (Rejected r ∧ tr = []) ∨ (device.initialized = true ∧
      Prog.Trace (device.sequence bound (configureTransactions config) (some .ok)) tr
        (some r)) := by
  have hdoes : device.Does bound (device.configureLoRa bound (some config))
      (configureTransactions config) := does_configureLoRa (some config)
  obtain ⟨result, hresult, hp⟩ | ⟨hready, hp⟩ := hdoes
  · rw [hp] at h
    obtain ⟨rfl, hr⟩ := Prog.trace_pure_iff.mp h
    obtain rfl := Option.some.inj hr
    exact .inl ⟨hresult, rfl⟩
  · rw [hp] at h
    exact .inr ⟨hready, h⟩

/-- **The discipline of the SPI bus**: it is kept by every call of the driver, whatever the port
answers, also by one that still waits for BUSY after `bound` polls; a call that rejects its
arguments or runs into a time-out leaves the bus alone; the getters write their outputs only
after an OK; and the configuration makes its eight commands in order, up to the first that
fails. -/
theorem spi_discipline (device : Sx128x) (bound : Nat) :
    (∀ (call : Sx128xCall) tr out, Prog.Trace (call.run device bound) tr out →
      Disciplined device bound tr ∧
      StartsPlan call.transactions (periods tr) ∧
      (∀ r, out = some (.result r) → Rejected r → Silent tr) ∧
      (out = some (.result .busyTimeout) → (∀ config, call ≠ .configureLoRa config) →
        Silent tr)) ∧
    (∀ old tr r new, Prog.Trace (device.getIrqStatus bound old) tr (some (r, new)) →
      r ≠ .ok → new = old) ∧
    (∀ old tr r new, Prog.Trace (device.getRxBufferStatus bound old) tr (some (r, new)) →
      r ≠ .ok → new = old) ∧
    (∀ old tr r new, Prog.Trace (device.getLoRaPacketStatus bound old) tr (some (r, new)) →
      r ≠ .ok → new = old) ∧
    (∀ config tr r, Prog.Trace (device.configureLoRa bound (some config)) tr (some r) →
      StartsPlan (configureTransactions config) (periods tr) ∧
      (r = .ok ↔ periods tr = (configureTransactions config).map complete) ∧
      (r = .busyTimeout → TimedOut device bound (configureTransactions config) tr)) := by
  refine ⟨?_, fun _ _ _ _ => getIrqStatus_unchanged, fun _ _ _ _ => getRxBufferStatus_unchanged,
    fun _ _ _ _ => getLoRaPacketStatus_unchanged, ?_⟩
  · intro call tr out h
    refine ⟨disciplined_of_path (Sx128xCall.path_run h) rfl, Sx128xCall.startsPlan_run h, ?_, ?_⟩
    · rintro r rfl
      exact Sx128xCall.silent_of_rejected h
    · rintro rfl
      exact Sx128xCall.silent_of_busyTimeout h
  · intro config tr r h
    obtain ⟨hrejected, rfl⟩ | ⟨hready, hsequence⟩ := configureLoRa_carried h
    · refine ⟨⟨[], _, rfl, .inl rfl⟩, iff_of_false ?_ nofun, ?_⟩
      · rintro rfl
        obtain hr | hr | hr := hrejected <;> exact nomatch hr
      · rintro rfl
        obtain hr | hr | hr := hrejected <;> exact nomatch hr
    · have hcarried := sequence_carried hready hsequence
      have hok : some r = some .ok ↔ r = .ok := Option.some_inj
      refine ⟨hcarried.startsPlan, hok.symm.trans hcarried.ok_iff, ?_⟩
      rintro rfl
      exact sequence_timedOut hready hsequence

end Sx128x

end RadioConnection
