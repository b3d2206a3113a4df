import RadioConnection.Platform.Sx128xPort

/-!
# DIO1 under interrupts

The driver on its port, with the interrupt of DIO1 before any call of the HAL and
before any access to the shared counters, also in the middle of
`stm32f4_sx128x_port_take_dio1_event`.

* `Dio1World`: the shared counters, with what really happened beside them.
* `Accounted`: what the counters and the statistics say of that.
* `runs_takeDio1Event`: what a take does, with interrupts anywhere in it.
* `dio1_never_lost`: **the account holds after every program of the driver, and a take
  returns true exactly when there is an interrupt that none has served.**
-/

namespace RadioConnection

open Interaction Prog Stm32f4Sx128xPort

/-- The shared counters, and beside them: how many interrupts there were, how many when
`dio1_produced_count` was last read and at the read of the last event taken, and how many events
were taken while an interrupt came between the read and the write. -/
structure Dio1World where
  counters : Dio1Counters := {}
  irqs : ℕ := 0
  seen : ℕ := 0
  served : ℕ := 0
  struck : ℕ := 0
  deriving DecidableEq

namespace Dio1World

/-- The interrupt of an EXTI line, which is that of DIO1 or another. -/
def interrupt (backend : Stm32f4Sx128xPort) (gpioPin : UInt16) (w : Dio1World) : Dio1World :=
  { w with
    counters := backend.onDio1Irq gpioPin w.counters
    irqs := if gpioPin = backend.config.dio1Pin then w.irqs + 1 else w.irqs }

/-- Some interrupts one after another; less than `2^32` of DIO1 are never taken together. -/
inductive Interrupts (backend : Stm32f4Sx128xPort) (w : Dio1World) : Dio1World → Prop
  | refl : Interrupts backend w w
  | tail {m : Dio1World} (gpioPin : UInt16) : Interrupts backend w m →
      (m.interrupt backend gpioPin).irqs < m.served + 2 ^ 32 →
      Interrupts backend w (m.interrupt backend gpioPin)

/-- The calls of the HAL, and what those that touch the counters do. -/
def access : Env HalOp HalOp.Ans Dio1World
  | .loadProduced, w, x, w' => x = w.counters.producedCount ∧ w' = { w with seen := w.irqs }
  | .loadConsumed, w, x, w' => x = w.counters.consumedCount ∧ w' = w
  | .storeConsumed count, w, _, w' =>
    w' = { w with
      counters.consumedCount := count
      served := w.seen
      struck := if w.seen < w.irqs then w.struck + 1 else w.struck }
  | _, w, _, w' => w' = w

def env (backend : Stm32f4Sx128xPort) : Env HalOp HalOp.Ans Dio1World :=
  access.interrupted (Interrupts backend)

/-! ## What the counters say -/

/-- 1 while an interrupt waits to be taken. -/
def pending (w : Dio1World) : UInt32 := if w.served < w.irqs then 1 else 0

/-- The counters and the statistics, which `taken` belongs to, against what happened. -/
structure Accounted (w : Dio1World) (taken : UInt32) : Prop where
  produced : w.counters.producedCount = UInt32.ofNat w.irqs
  consumed : w.counters.consumedCount = UInt32.ofNat w.served
  served_le : w.served ≤ w.irqs
  bounded : w.irqs < w.served + 2 ^ 32
  irqEvents : w.counters.irqEvents = UInt32.ofNat w.irqs
  balance : w.counters.irqEvents + UInt32.ofNat w.struck =
    taken + w.counters.coalescedEvents + w.pending

variable {backend : Stm32f4Sx128xPort} {w w' : Dio1World} {taken : UInt32}

theorem ofNat_eq_iff {a b : ℕ} (hab : a ≤ b) (hb : b < a + 2 ^ 32) :
    UInt32.ofNat b = UInt32.ofNat a ↔ ¬ a < b := by
  constructor
  · intro h hlt
    have hmod : b % 2 ^ 32 = a % 2 ^ 32 := by
      simpa using congrArg UInt32.toNat h
    omega
  · intro h
    rw [show a = b by omega]

theorem Accounted.pending_iff (h : Accounted w taken) :
    w.counters.producedCount ≠ w.counters.consumedCount ↔ w.served < w.irqs := by
  rw [h.produced, h.consumed, ne_eq, ofNat_eq_iff h.served_le h.bounded, not_not]

theorem ofNat_succ (n : ℕ) : UInt32.ofNat (n + 1) = UInt32.ofNat n + 1 := by
  rw [UInt32.ofNat_add]
  rfl

theorem Accounted.interrupt (h : Accounted w taken) (hready : backend.initialized = true)
    {gpioPin : UInt16} (hbound : (w.interrupt backend gpioPin).irqs < w.served + 2 ^ 32) :
    Accounted (w.interrupt backend gpioPin) taken := by
  by_cases hpin : gpioPin = backend.config.dio1Pin
  · have hcounters : backend.onDio1Irq gpioPin w.counters =
        { w.counters with
          irqEvents := w.counters.irqEvents + 1
          coalescedEvents := if w.served < w.irqs then w.counters.coalescedEvents + 1
            else w.counters.coalescedEvents
          producedCount := w.counters.producedCount + 1 } := by
      rw [onDio1Irq, if_neg (by simp [hready, hpin])]
      simp only [h.pending_iff]
    rw [Dio1World.interrupt, if_pos hpin] at hbound
    rw [Dio1World.interrupt, if_pos hpin, hcounters]
    refine ⟨?_, h.consumed, Nat.le_succ_of_le h.served_le, hbound, ?_, ?_⟩
    · rw [ofNat_succ, ← h.produced]
    · rw [ofNat_succ, ← h.irqEvents]
    · have hbalance := h.balance
      have hlt : w.served < w.irqs + 1 := Nat.lt_succ_of_le h.served_le
      simp only [pending, hlt, if_true] at hbalance ⊢
      split at hbalance
      · rename_i hpending
        rw [if_pos hpending, add_right_comm, hbalance, ← add_assoc, add_right_comm]
      · rename_i hpending
        rw [if_neg hpending, add_right_comm, hbalance, add_zero]
  · have hcounters : backend.onDio1Irq gpioPin w.counters = w.counters := by
      rw [onDio1Irq, if_pos (.inr hpin)]
    rw [Dio1World.interrupt, if_neg hpin, hcounters]
    exact h

theorem Interrupts.accounted (h : Interrupts backend w w') (hready : backend.initialized = true)
    (hw : Accounted w taken) : Accounted w' taken := by
  induction h with
  | refl => exact hw
  | tail gpioPin _ hbound ih => exact ih.interrupt hready hbound

theorem Interrupts.kept (h : Interrupts backend w w') :
    w'.seen = w.seen ∧ w'.served = w.served ∧ w'.struck = w.struck ∧ w.irqs ≤ w'.irqs ∧
      w'.counters.consumedCount = w.counters.consumedCount := by
  induction h with
  | refl => exact ⟨rfl, rfl, rfl, le_rfl, rfl⟩
  | tail gpioPin _ _ ih =>
    obtain ⟨hseen, hserved, hstruck, hirqs, hconsumed⟩ := ih
    refine ⟨hseen, hserved, hstruck, hirqs.trans ?_, Eq.trans ?_ hconsumed⟩
    · rw [Dio1World.interrupt]
      dsimp only
      split
      · exact Nat.le_succ _
      · exact le_rfl
    · rw [Dio1World.interrupt, onDio1Irq]
      split <;> rfl

/-! ## What a call of the port does -/

theorem Interrupts.trans {m : Dio1World} (h : Interrupts backend w m)
    (h' : Interrupts backend m w') : Interrupts backend w w' := by
  induction h' with
  | refl => exact h
  | tail gpioPin _ hbound ih => exact .tail gpioPin ih hbound

/-- The backend belongs to the same pins and has taken the same events. -/
structure Same (b b' : Stm32f4Sx128xPort) : Prop where
  config : b'.config = b.config
  initialized : b'.initialized = b.initialized
  taken : b'.stats.dio1EventsTaken = b.stats.dio1EventsTaken

theorem interrupts_of_env {o : HalOp} {x : o.Ans} (h : env backend o w x w')
    (ho : ∀ m m', access o m x m' → m' = m) : Interrupts backend w w' := by
  obtain ⟨m, hm, hx⟩ := h
  obtain rfl := ho m w' hx
  exact hm

theorem interrupts_of_transferChunks {b b' : Stm32f4Sx128xPort} {t : Transfer}
    {rounds offset : ℕ} {received : List UInt8} {r : Bool × List UInt8}
    (h : Runs (env backend) (transferChunks b t rounds offset received) w (r, b') w') :
    Interrupts backend w w' ∧ Same b b' := by
  have hend {b : Stm32f4Sx128xPort} {received : List UInt8} {w : Dio1World}
      (h : Runs (env backend) (b.transferred t received) w (r, b') w') :
      Interrupts backend w w' ∧ Same b b' := by
    obtain ⟨he, rfl⟩ := runs_pure_iff.mp h
    obtain rfl := (Prod.mk.inj he).2
    exact ⟨.refl, rfl, rfl, rfl⟩
  induction rounds generalizing b offset received w with
  | zero => exact hend h
  | succ rounds ih =>
    rw [transferChunks] at h
    split at h
    · obtain ⟨⟨status, rx⟩, m, hm, h⟩ := runs_bind_iff.mp h
      have hi : Interrupts backend w m := interrupts_of_env (runs_ask_iff.mp hm) fun _ _ h => h
      dsimp only at h
      split at h
      · obtain ⟨he, rfl⟩ := runs_pure_iff.mp h
        obtain rfl := (Prod.mk.inj he).2
        exact ⟨hi, rfl, rfl, rfl⟩
      · obtain ⟨hi', hs⟩ := ih h
        exact ⟨hi.trans hi', hs.config, hs.initialized, hs.taken⟩
    · exact hend h

theorem interrupts_of_once {α : Type} {b b₂ b' : Stm32f4Sx128xPort} {o : HalOp}
    {f : o.Ans → α} {x₀ x : α}
    (h : Runs (env backend) (if ¬ b.initialized then pure (x₀, b)
      else hal o >>= fun y => pure (f y, b₂)) w (x, b') w')
    (ho : ∀ y m m', access o m y m' → m' = m) (hs : Same b b₂) :
    Interrupts backend w w' ∧ Same b b' := by
  split at h
  · obtain ⟨he, rfl⟩ := runs_pure_iff.mp h
    obtain rfl := (Prod.mk.inj he).2
    exact ⟨.refl, rfl, rfl, rfl⟩
  · obtain ⟨y, m, hm, h⟩ := runs_bind_iff.mp h
    obtain ⟨he, rfl⟩ := runs_pure_iff.mp h
    obtain rfl := (Prod.mk.inj he).2
    exact ⟨interrupts_of_env (runs_ask_iff.mp hm) (ho y), hs⟩

/-- Every call of the port but `take_dio1_event` leaves the counters to the interrupts. -/
theorem interrupts_of_answer {b b' : Stm32f4Sx128xPort} {o : PortOp} {x : o.Ans}
    (ho : o ≠ .takeDio1Event) (h : Runs (env backend) (Stm32f4Sx128xPort.answer o b) w (x, b') w') :
    Interrupts backend w w' ∧ Same b b' := by
  cases o with
  | takeDio1Event => exact absurd rfl ho
  | spiTransfer t =>
    rw [Stm32f4Sx128xPort.answer, spiTransfer] at h
    dsimp only at h
    split at h
    · obtain ⟨he, rfl⟩ := runs_pure_iff.mp h
      obtain rfl := (Prod.mk.inj he).2
      exact ⟨.refl, rfl, rfl, rfl⟩
    split at h
    · obtain ⟨he, rfl⟩ := runs_pure_iff.mp h
      obtain rfl := (Prod.mk.inj he).2
      exact ⟨.refl, rfl, rfl, rfl⟩
    split at h
    · obtain ⟨he, rfl⟩ := runs_pure_iff.mp h
      obtain rfl := (Prod.mk.inj he).2
      exact ⟨.refl, rfl, rfl, rfl⟩
    · obtain ⟨hi, hs⟩ := interrupts_of_transferChunks h
      exact ⟨hi, hs.config, hs.initialized, hs.taken⟩
  | nssWrite high => exact interrupts_of_once h (fun _ _ _ h => h) ⟨rfl, rfl, rfl⟩
  | resetWrite high => exact interrupts_of_once h (fun _ _ _ h => h) ⟨rfl, rfl, rfl⟩
  | busyRead => exact interrupts_of_once h (fun _ _ _ h => h) ⟨rfl, rfl, rfl⟩
  | delayMs ms => exact interrupts_of_once h (fun _ _ _ h => h) ⟨rfl, rfl, rfl⟩
  | timeMs => exact interrupts_of_once h (fun _ _ _ h => h) ⟨rfl, rfl, rfl⟩

/-! ## Taking an event -/

/-- What was read is taken: the interrupts up to `seen` are served. -/
theorem Accounted.store (h : Accounted w taken) (hnew : w.served < w.seen) (hle : w.seen ≤ w.irqs)
    (h' : access (.storeConsumed (UInt32.ofNat w.seen)) w () w') :
    Accounted w' (taken + 1) ∧ w'.served = w.seen ∧ w'.irqs = w.irqs := by
  obtain rfl := h'
  refine ⟨⟨h.produced, rfl, hle, ?_, h.irqEvents, ?_⟩, rfl, rfl⟩
  · have hbounded := h.bounded
    dsimp only
    omega
  · have hbalance := h.balance
    rw [pending, if_pos (by omega)] at hbalance
    rw [pending]
    dsimp only
    split
    · rw [ofNat_succ, ← add_assoc, hbalance, add_right_comm taken 1]
    · rw [hbalance, add_right_comm taken 1, add_zero]

/-- What a call of `take_dio1_event` does, with interrupts anywhere in it: it reads the count of
interrupts at a moment of its own, `n` in all, and takes them if there are new ones. -/
theorem runs_takeDio1Event {b b' : Stm32f4Sx128xPort} {r : Bool} (hb : b.initialized = true)
    (hready : backend.initialized = true) (hw : Accounted w b.stats.dio1EventsTaken)
    (h : Runs (env backend) b.takeDio1Event w (r, b') w') :
    Accounted w' b'.stats.dio1EventsTaken ∧ b'.config = b.config ∧
      b'.initialized = b.initialized ∧
      ∃ n, w.irqs ≤ n ∧ n ≤ w'.irqs ∧ w'.served = n ∧ (r = true ↔ w.served < n) := by
  rw [Stm32f4Sx128xPort.takeDio1Event, if_neg (not_not.mpr hb)] at h
  obtain ⟨produced, w₁, hread, h⟩ := runs_bind_iff.mp h
  obtain ⟨m₁, hi₁, rfl, rfl⟩ := runs_ask_iff.mp hread
  obtain ⟨consumed, m₂, hconsumed, h⟩ := runs_bind_iff.mp h
  obtain ⟨_, hi₂, rfl, rfl⟩ := runs_ask_iff.mp hconsumed
  -- the count is read in `m₁`, and the comparison is with what `m₂` still says of it
  have hw₁ := hi₁.accounted hready hw
  have hw₂ : Accounted m₂ b.stats.dio1EventsTaken :=
    hi₂.accounted hready ⟨hw₁.produced, hw₁.consumed, hw₁.served_le, hw₁.bounded, hw₁.irqEvents,
      hw₁.balance⟩
  obtain ⟨-, hserved₁, -, hirqs₁, -⟩ := hi₁.kept
  obtain ⟨hseen₂, hserved₂, -, hirqs₂, hconsumed₂⟩ := hi₂.kept
  have hnew : m₁.counters.producedCount = m₂.counters.consumedCount ↔ ¬ w.served < m₁.irqs := by
    rw [hconsumed₂, ← hserved₁, ← hw₁.pending_iff, ne_eq, not_not]
  split at h
  · rename_i hsame
    obtain ⟨he, rfl⟩ := runs_pure_iff.mp h
    obtain ⟨rfl, rfl⟩ := Prod.mk.inj he
    have hold := hnew.mp hsame
    have hall : w.served = m₁.irqs := by
      have := hw₁.served_le
      omega
    exact ⟨hw₂, rfl, rfl, m₁.irqs, hirqs₁, hirqs₂, by rw [← hall, hserved₂, ← hserved₁],
      iff_of_false Bool.false_ne_true hold⟩
  · rename_i hdiffers
    have hnew : w.served < m₁.irqs := not_not.mp fun hold => hdiffers (hnew.mpr hold)
    obtain ⟨_, m₃, hstore, h⟩ := runs_bind_iff.mp h
    obtain ⟨m, hi₃, hstored⟩ := runs_ask_iff.mp hstore
    obtain ⟨he, rfl⟩ := runs_pure_iff.mp h
    obtain ⟨rfl, rfl⟩ := Prod.mk.inj he
    have hw₃ := hi₃.accounted hready hw₂
    obtain ⟨hseen₃, hserved₃, -, hirqs₃, -⟩ := hi₃.kept
    have hseen : m.seen = m₁.irqs := hseen₃.trans hseen₂
    have hserved : m.served = w.served := hserved₃.trans (hserved₂.trans hserved₁)
    have hirqs : m₁.irqs ≤ m.irqs := le_trans hirqs₂ hirqs₃
    rw [hw₁.produced, ← hseen] at hstored
    obtain ⟨hw', hserved', hirqs'⟩ := hw₃.store (by omega) (by omega) hstored
    exact ⟨hw', rfl, rfl, m₁.irqs, hirqs₁, by omega, by omega, iff_of_true rfl hnew⟩

/-! ## Programs of the driver -/

def portEnv (backend : Stm32f4Sx128xPort) :
    Env PortOp PortOp.Ans (Stm32f4Sx128xPort × Dio1World) :=
  (env backend).through fun o b => some <$> Stm32f4Sx128xPort.answer o b

/-- The backend is the one of the interrupts, and the counters are in order. -/
structure Sound (backend b : Stm32f4Sx128xPort) (w : Dio1World) : Prop where
  config : b.config = backend.config
  initialized : b.initialized = true
  accounted : Accounted w b.stats.dio1EventsTaken

theorem Sound.answer {b b' : Stm32f4Sx128xPort} {o : PortOp} {x : o.Ans}
    (h : Sound backend b w) (hready : backend.initialized = true)
    (ho : portEnv backend o (b, w) x (b', w')) : Sound backend b' w' := by
  obtain ⟨tr, ht, hp⟩ := ho
  obtain ⟨r, hr, he⟩ := trace_map_iff.mp ht
  obtain rfl := Option.some.inj he
  have hruns : Runs (env backend) (Stm32f4Sx128xPort.answer o b) w (x, b') w' := ⟨tr, hr, hp⟩
  by_cases htake : o = .takeDio1Event
  · subst htake
    obtain ⟨hw', hconfig, hinit, -⟩ := runs_takeDio1Event h.initialized hready h.accounted hruns
    exact ⟨hconfig.trans h.config, hinit.trans h.initialized, hw'⟩
  · obtain ⟨hi, hs⟩ := interrupts_of_answer htake hruns
    refine ⟨hs.config.trans h.config, hs.initialized.trans h.initialized, ?_⟩
    rw [hs.taken]
    exact hi.accounted hready h.accounted

theorem sound_of_runs {α : Type} {p : PortProg α} {a : α} {b : Stm32f4Sx128xPort}
    (hready : backend.initialized = true) (hfresh : backend.stats.dio1EventsTaken = 0)
    (h : Runs (portEnv backend) p (backend, {}) a (b, w)) : Sound backend b w := by
  have hstart : Sound backend backend {} := by
    refine ⟨rfl, hready, ⟨rfl, rfl, le_rfl, by decide, rfl, ?_⟩⟩
    rw [hfresh]
    rfl
  have hkept : ∀ o (s : Stm32f4Sx128xPort × Dio1World) x s', portEnv backend o s x s' →
      Sound backend s.1 s.2 → Sound backend s'.1 s'.2 := by
    intro o s x s' ho hs
    exact hs.answer hready ho
  exact h.invariant (I := fun s => Sound backend s.1 s.2) hkept hstart

/-- **No interrupt of DIO1 is lost and none is taken twice**, wherever interrupts come in the
programs of the driver.  The counters count the interrupts and the takes; apart from one for each
take that an interrupt struck, every interrupt was taken, was coalesced with another or is still to
be taken; and a take returns true exactly when there is an interrupt that no take has served, and
leaves none behind that came before it. -/
theorem dio1_never_lost {α : Type} {config : Stm32f4Sx128xPortConfig} {tr : List HalAction}
    {p : PortProg α} {a : α} {b : Stm32f4Sx128xPort}
    (hinit : Trace (Stm32f4Sx128xPort.init config) tr (some backend))
    (h : Runs (portEnv backend) p (backend, {}) a (b, w)) :
    Accounted w b.stats.dio1EventsTaken ∧
    ∀ r b' w', portEnv backend .takeDio1Event (b, w) r (b', w') →
      ∃ n, w.irqs ≤ n ∧ n ≤ w'.irqs ∧ w'.served = n ∧ (r = true ↔ w.served < n) := by
  obtain ⟨-, rfl, -⟩ := trace_init hinit
  have hs := sound_of_runs rfl rfl h
  refine ⟨hs.accounted, ?_⟩
  rintro r b' w' ⟨tr', ht, hp⟩
  obtain ⟨r', hr, he⟩ := trace_map_iff.mp ht
  obtain rfl := Option.some.inj he
  obtain ⟨-, -, -, hn⟩ := runs_takeDio1Event hs.initialized rfl hs.accounted ⟨tr', hr, hp⟩
  exact hn

/-- The interrupt comes between the two reads of a take: this one returns false, and the next
takes it. -/
theorem dio1_never_lost_late : ∃ (backend b b' : Stm32f4Sx128xPort) (w w' : Dio1World),
    Runs (portEnv backend) (port .takeDio1Event) (backend, {}) false (b, w) ∧ w.irqs = 1 ∧
    w.served = 0 ∧ portEnv backend .takeDio1Event (b, w) true (b', w') ∧ w'.served = 1 := by
  let config : Stm32f4Sx128xPortConfig := ⟨1, ⟨1, 1⟩, ⟨1, 2⟩, ⟨1, 4⟩, 8, 20⟩
  let backend : Stm32f4Sx128xPort := ⟨config, { nssWrites := 1, resetWrites := 1 }, true⟩
  let w : Dio1World := Dio1World.interrupt backend 8 {}
  have hirq : Interrupts backend {} w := .tail 8 .refl (by decide)
  have hinit : Trace (Stm32f4Sx128xPort.init config)
      [⟨.gpioWritePin config.nss true, ()⟩, ⟨.gpioWritePin config.reset true, ()⟩]
      (some backend) := by
    rw [Stm32f4Sx128xPort.init, if_neg (by decide)]
    apply Trace.call
    apply Trace.call
    exact Trace.ret _
  have hlate : portEnv backend .takeDio1Event (backend, {}) false (backend, w) := by
    refine ⟨_, trace_map_iff.mpr ⟨(false, backend), .call 0 (.call 0 (.ret _)), rfl⟩, ?_⟩
    exact ⟨{}, ⟨{}, .refl, rfl, rfl⟩, w, ⟨w, hirq, rfl, rfl⟩, rfl⟩
  have hruns : Runs (portEnv backend) (port .takeDio1Event) (backend, {}) false (backend, w) :=
    runs_ask_iff.mpr hlate
  let b' : Stm32f4Sx128xPort := { backend with stats.dio1EventsTaken := 1 }
  let w₁ : Dio1World := { w with seen := 1 }
  let w' : Dio1World := { w₁ with counters.consumedCount := 1, served := 1 }
  have hnext : portEnv backend .takeDio1Event (backend, w) true (b', w') := by
    refine ⟨_, trace_map_iff.mpr ⟨(true, b'), .call 1 (.call 0 (.call () (.ret _))), rfl⟩, ?_⟩
    exact ⟨w₁, ⟨w, .refl, rfl, rfl⟩, w₁, ⟨w₁, .refl, rfl, rfl⟩, w', ⟨w₁, .refl, rfl⟩, rfl⟩
  obtain ⟨-, htakes⟩ := dio1_never_lost hinit hruns
  obtain ⟨n, -, hn, hserved, -⟩ := htakes true b' w' hnext
  exact ⟨backend, backend, b', w, w', hruns, rfl, rfl, hnext, rfl⟩

end Dio1World

end RadioConnection
