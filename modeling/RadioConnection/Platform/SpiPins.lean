import RadioConnection.Drivers.SpiDiscipline
import RadioConnection.Platform.Sx128xPort

/-!
# The SPI bus on the pins

The driver on the port of the STM32F4: what the pins and the SPI peripheral of the
microcontroller do in a call of the driver.

* `pinHigh`: the level of a pin after a trace of the HAL; `frames`: the bytes of each
  period in which NSS is low.
* `pins`: what the radio relies on, as an automaton over the calls of the HAL.
* `step_path`: **the port turns the discipline of the driver's bus into one of the
  pins**, step by step.
* `expands_path`: so it does in a whole call, and the bytes of a period are those of
  its transfers.
* `hal_discipline`: every call of the driver keeps the pins in order, and one that
  returns OK has sent the radio exactly its transactions.
-/

namespace RadioConnection

open Interaction Prog Stm32f4Sx128xPort Sx128x

/-! ## Traces of the HAL -/

/-- A write to the pins `written` reaches `pin`. -/
def GpioPin.isTouched (pin written : GpioPin) : Bool :=
  written.port = pin.port && written.mask &&& pin.mask ≠ 0

/-- The level of a pin after a trace that finds it high. -/
def pinHigh (pin : GpioPin) (tr : List HalAction) : Bool :=
  tr.foldl (fun high a => match a.1 with
    | .gpioWritePin written set => if pin.isTouched written then set else high
    | _ => high) true

/-- The bytes handed to the SPI peripheral up to the next rise of NSS. -/
def outgoing (nss : GpioPin) : List HalAction → List UInt8
  | ⟨.spiTransmitReceive _ txData _ _, _⟩ :: tr => txData ++ outgoing nss tr
  | ⟨.gpioWritePin written set, _⟩ :: tr =>
    if nss.isTouched written && set then [] else outgoing nss tr
  | _ :: tr => outgoing nss tr
  | [] => []

/-- The bytes of each period in which NSS is low. -/
def frames (nss : GpioPin) : List HalAction → List (List UInt8)
  | ⟨.gpioWritePin written set, _⟩ :: tr =>
    if nss.isTouched written && !set then outgoing nss tr :: frames nss tr else frames nss tr
  | _ :: tr => frames nss tr
  | [] => []

/-- What the radio relies on. -/
structure PinsDisciplined (config : Stm32f4Sx128xPortConfig) (tr : List HalAction) : Prop where
  /-- A transfer is made while NSS is low, on the SPI of the radio, and has 1 to 64 bytes. -/
  selected : ∀ before spi txData size timeoutMs x after,
    tr = before ++ ⟨.spiTransmitReceive spi txData size timeoutMs, x⟩ :: after →
    pinHigh config.nss before = false ∧ spi = config.spi ∧ timeoutMs = config.spiTimeoutMs ∧
      size.toNat = txData.length ∧ 0 < txData.length ∧ txData.length ≤ 64
  /-- NSS goes low right after BUSY was read low. -/
  ready : ∀ before written after, tr = before ++ ⟨.gpioWritePin written false, ()⟩ :: after →
    config.nss.isTouched written = true →
    ∃ earlier, before = earlier ++ [⟨.gpioReadPin config.busy, false⟩]
  /-- NSS is left high. -/
  released : pinHigh config.nss tr = true

/-! ## The pins as an automaton -/

/-- The level of NSS, and whether the last call has read BUSY low. -/
structure Pins where
  high : Bool
  ready : Bool
  deriving DecidableEq

/-- The calls that the radio can bear, and the pins after each of them. -/
def Pins.Allows (config : Stm32f4Sx128xPortConfig) (s : Pins) : HalAction → Pins → Prop
  | ⟨.spiTransmitReceive spi txData size timeoutMs, _⟩, s' =>
    s.high = false ∧ (spi = config.spi ∧ timeoutMs = config.spiTimeoutMs ∧
      size.toNat = txData.length ∧ 0 < txData.length ∧ txData.length ≤ 64) ∧ s' = ⟨false, false⟩
  | ⟨.gpioWritePin written set, _⟩, s' =>
    if config.nss.isTouched written then (set = false → s.ready = true) ∧ s' = ⟨set, false⟩
    else s' = ⟨s.high, false⟩
  | ⟨.gpioReadPin pin, set⟩, s' => s' = ⟨s.high, decide (pin = config.busy ∧ set = false)⟩
  | _, s' => s' = ⟨s.high, false⟩

def pins (config : Stm32f4Sx128xPortConfig) : Env HalOp HalOp.Ans Pins :=
  fun o s x s' => s.Allows config ⟨o, x⟩ s'

variable {config : Stm32f4Sx128xPortConfig} {tr : List HalAction}

theorem pinHigh_concat (pin : GpioPin) (tr : List HalAction) (a : HalAction) :
    pinHigh pin (tr ++ [a]) = match a.1 with
      | .gpioWritePin written set => if pin.isTouched written then set else pinHigh pin tr
      | _ => pinHigh pin tr := by
  rw [pinHigh, List.foldl_append]
  rfl

theorem Pins.Allows.high {s s' : Pins} {a : HalAction} (h : s.Allows config a s')
    (hs : pinHigh config.nss tr = s.high) : pinHigh config.nss (tr ++ [a]) = s'.high := by
  rw [pinHigh_concat]
  obtain ⟨o, x⟩ := a
  cases o with
  | spiTransmitReceive spi txData size timeoutMs =>
    obtain ⟨hlow, -, rfl⟩ := h
    exact hs.trans hlow
  | gpioWritePin written set =>
    rw [Pins.Allows] at h
    dsimp only
    split at h
    · rename_i htouched
      obtain ⟨-, rfl⟩ := h
      rw [if_pos htouched]
    · rename_i htouched
      subst h
      rw [if_neg htouched]
      exact hs
  | _ =>
    obtain rfl := h
    exact hs

theorem pins_path_high {s s' : Pins} (before : List HalAction) (h : (pins config).Path s tr s')
    (hs : pinHigh config.nss before = s.high) :
    pinHigh config.nss (before ++ tr) = s'.high := by
  induction tr generalizing s before with
  | nil =>
    obtain rfl := h
    rw [List.append_nil]
    exact hs
  | cons a tr ih =>
    obtain ⟨m, hm, h⟩ := h
    have hnext := ih _ h (Pins.Allows.high hm hs)
    rwa [List.append_assoc] at hnext

theorem Pins.Allows.ready {s s' : Pins} {a : HalAction} (h : s.Allows config a s')
    (hs : s'.ready = true) : a = ⟨.gpioReadPin config.busy, false⟩ := by
  obtain ⟨o, x⟩ := a
  cases o with
  | gpioReadPin pin =>
    obtain rfl := h
    obtain ⟨rfl, rfl⟩ := of_decide_eq_true hs
    rfl
  | spiTransmitReceive spi txData size timeoutMs =>
    obtain ⟨-, -, rfl⟩ := h
    cases hs
  | gpioWritePin written set =>
    rw [Pins.Allows] at h
    split at h
    · obtain ⟨-, rfl⟩ := h
      cases hs
    · subst h
      cases hs
  | _ =>
    obtain rfl := h
    cases hs

theorem pins_path_ready {high : Bool} {s : Pins} (h : (pins config).Path ⟨high, false⟩ tr s)
    (hs : s.ready = true) : ∃ earlier, tr = earlier ++ [⟨.gpioReadPin config.busy, false⟩] := by
  obtain rfl | ⟨earlier, a, rfl⟩ := List.eq_nil_or_concat tr
  · obtain rfl := h
    cases hs
  · rw [List.concat_eq_append] at h ⊢
    obtain ⟨m, -, n, hn, rfl⟩ := Env.path_append_iff.mp h
    have ha : a = ⟨.gpioReadPin config.busy, false⟩ := Pins.Allows.ready hn hs
    exact ⟨earlier, by rw [ha]⟩

/-- **What the automaton accepts is disciplined.** -/
theorem pinsDisciplined_of_path {s : Pins} (h : (pins config).Path ⟨true, false⟩ tr s)
    (hs : s.high = true) : PinsDisciplined config tr := by
  constructor
  · rintro before spi txData size timeoutMs x after rfl
    obtain ⟨m, hm, n, ⟨hlow, hcall, -⟩, -⟩ := Env.path_append_iff.mp h
    have hhigh := pins_path_high [] hm rfl
    rw [List.nil_append] at hhigh
    exact ⟨hhigh.trans hlow, hcall⟩
  · rintro before written after rfl htouched
    obtain ⟨m, hm, n, hn, -⟩ := Env.path_append_iff.mp h
    rw [pins, Pins.Allows, if_pos htouched] at hn
    exact pins_path_ready hm (hn.1 rfl)
  · have hhigh := pins_path_high [] h rfl
    rw [List.nil_append] at hhigh
    exact hhigh.trans hs

/-! ## What the port makes of a call -/

/-- The calls of the HAL that neither a pin nor the SPI peripheral sees. -/
def HalOp.isInward : HalOp → Bool
  | delay _ | getTick | loadProduced | loadConsumed | storeConsumed _ => true
  | _ => false

/-- The calls of the port that become such calls. -/
def PortOp.isInward : PortOp → Bool
  | delayMs _ | timeMs | takeDio1Event => true
  | _ => false

/-- The calls of the HAL that answer a call of the port. -/
inductive Shape (config : Stm32f4Sx128xPortConfig) : PortAction → List HalAction → Prop
  | spiTransfer {t : Transfer} {sent : Bool} {received : List UInt8}
      {log : List (List UInt8 × HalStatus × List UInt8)} :
      (∀ e ∈ log, 0 < e.1.length ∧ e.1.length ≤ 64) → Chunks.sent log <+: bytes t →
      (sent = true → Chunks.sent log = bytes t) →
      Shape config ⟨.spiTransfer t, (sent, received)⟩ (log.map (chunkCall config))
  | nssWrite (high : Bool) :
      Shape config ⟨.nssWrite high, ()⟩ [⟨.gpioWritePin config.nss high, ()⟩]
  | resetWrite (high : Bool) :
      Shape config ⟨.resetWrite high, ()⟩ [⟨.gpioWritePin config.reset high, ()⟩]
  | busyRead (set : Bool) : Shape config ⟨.busyRead, set⟩ [⟨.gpioReadPin config.busy, set⟩]
  | inward {o : PortOp} {x : o.Ans} {tr : List HalAction} :
      o.isInward = true → tr.all (·.1.isInward) = true → Shape config ⟨o, x⟩ tr

theorem trace_once_iff {α : Type} {b b₂ b' : Stm32f4Sx128xPort} {o : HalOp} {f : o.Ans → α}
    {x₀ x : α} (hb : b.initialized = true) :
    Trace (if ¬ b.initialized then pure (x₀, b) else hal o >>= fun y => pure (f y, b₂)) tr
      (x, b') ↔ ∃ y, tr = [⟨o, y⟩] ∧ x = f y ∧ b' = b₂ := by
  rw [if_neg (not_not.mpr hb)]
  constructor
  · intro h
    obtain ⟨y, t₁, t₂, h₁, h₂, rfl⟩ := trace_bind_iff.mp h
    obtain rfl := trace_ask_iff.mp h₁
    obtain ⟨rfl, he⟩ := trace_pure_iff.mp h₂
    obtain ⟨rfl, rfl⟩ := Prod.mk.inj he
    exact ⟨y, rfl, rfl, rfl⟩
  · rintro ⟨y, rfl, rfl, rfl⟩
    exact trace_bind_iff.mpr ⟨y, [_], [], trace_ask_iff.mpr rfl, trace_pure_iff.mpr ⟨rfl, rfl⟩, rfl⟩

/-- **What the port makes of a call of the driver.** -/
theorem trace_answer {b b' : Stm32f4Sx128xPort} {a : PortAction} (hb : b.initialized = true)
    (h : Trace (Stm32f4Sx128xPort.answer a.1 b) tr (a.2, b')) :
    b'.config = b.config ∧ b'.initialized = true ∧ Shape b.config a tr := by
  obtain ⟨o, x⟩ := a
  cases o with
  | spiTransfer t =>
    obtain ⟨sent, received⟩ := x
    obtain ⟨-, rfl, rfl, -, rfl⟩ | ⟨-, log, rfl, hsends, -, rfl⟩ := spiTransfer_cases hb h
    · exact ⟨rfl, hb, @Shape.spiTransfer b.config t false received [] (fun e he => by cases he)
        List.nil_prefix fun hs => by cases hs⟩
    · refine ⟨rfl, hb, .spiTransfer (hsends.sizes (by decide)) (hsends.sent_isPrefix (by decide)) ?_⟩
      rintro rfl
      exact (hsends.whole (by decide)).1
  | nssWrite high =>
    obtain ⟨y, rfl, -, rfl⟩ := (trace_once_iff hb).mp h
    exact ⟨rfl, hb, .nssWrite high⟩
  | resetWrite high =>
    obtain ⟨y, rfl, -, rfl⟩ := (trace_once_iff hb).mp h
    exact ⟨rfl, hb, .resetWrite high⟩
  | busyRead =>
    obtain ⟨y, rfl, rfl, rfl⟩ := (trace_once_iff hb).mp h
    exact ⟨rfl, hb, .busyRead _⟩
  | delayMs ms =>
    obtain ⟨y, rfl, -, rfl⟩ := (trace_once_iff hb).mp h
    exact ⟨rfl, hb, .inward rfl rfl⟩
  | timeMs =>
    obtain ⟨y, rfl, -, rfl⟩ := (trace_once_iff hb).mp h
    exact ⟨rfl, hb, .inward rfl rfl⟩
  | takeDio1Event =>
    rw [Stm32f4Sx128xPort.answer, Stm32f4Sx128xPort.takeDio1Event, if_neg (not_not.mpr hb)] at h
    obtain ⟨produced, t₁, t₂, h₁, hrest, rfl⟩ := trace_bind_iff.mp h
    obtain rfl := trace_ask_iff.mp h₁
    obtain ⟨consumed, t₃, t₄, h₃, hlast, rfl⟩ := trace_bind_iff.mp hrest
    obtain rfl := trace_ask_iff.mp h₃
    split at hlast
    · obtain ⟨rfl, he⟩ := trace_pure_iff.mp hlast
      obtain ⟨rfl, rfl⟩ := Prod.mk.inj he
      exact ⟨rfl, hb, .inward rfl rfl⟩
    · obtain ⟨_, t₅, t₆, h₅, hend, rfl⟩ := trace_bind_iff.mp hlast
      obtain rfl := trace_ask_iff.mp h₅
      obtain ⟨rfl, he⟩ := trace_pure_iff.mp hend
      obtain ⟨rfl, rfl⟩ := Prod.mk.inj he
      exact ⟨rfl, hb, .inward rfl rfl⟩

/-! ## The pins during a call -/

variable {device : Sx128x} {bound : ℕ}

/-- A wait for BUSY that ends well ends with BUSY read low. -/
theorem pollBusy_idle {startMs : UInt32} {wait : List PortAction}
    (h : Trace (device.pollBusy startMs bound) wait (some .ok)) :
    ∃ earlier, wait = earlier ++ [⟨.busyRead, false⟩] := by
  induction bound generalizing wait with
  | zero => exact absurd (trace_pure_iff.mp h).2 (by simp)
  | succ bound ih =>
    obtain ⟨busy, t₁, t₂, hbusy, hpolled, rfl⟩ := trace_bind_iff.mp h
    obtain rfl := trace_ask_iff.mp hbusy
    cases busy with
    | false =>
      obtain ⟨rfl, -⟩ := trace_pure_iff.mp hpolled
      exact ⟨[], rfl⟩
    | true =>
      rw [if_pos rfl] at hpolled
      obtain ⟨currentMs, t₃, t₄, htime, hread, rfl⟩ := trace_bind_iff.mp hpolled
      split at hread
      · exact absurd (trace_pure_iff.mp hread).2 (by simp)
      · obtain ⟨_, t₅, t₆, hdelay, hrest, rfl⟩ := trace_bind_iff.mp hread
        obtain ⟨earlier, rfl⟩ := ih hrest
        exact ⟨[⟨.busyRead, true⟩] ++ (t₃ ++ (t₅ ++ earlier)), by simp⟩

theorem waitWhileBusy_idle {wait : List PortAction}
    (h : Trace (device.waitWhileBusy bound) wait (some .ok)) :
    ∃ earlier, wait = earlier ++ [⟨.busyRead, false⟩] := by
  rw [waitWhileBusy] at h
  split at h
  · exact absurd (trace_pure_iff.mp h).2 (by simp)
  · obtain ⟨startMs, t₁, t₂, -, hpoll, rfl⟩ := trace_bind_iff.mp h
    obtain ⟨earlier, rfl⟩ := pollBusy_idle hpoll
    exact ⟨t₁ ++ earlier, (List.append_assoc t₁ earlier _).symm⟩

/-- NSS is high when the bus is released, and BUSY was just read low when it says so. -/
structure Matches (s : Bus) (q : Pins) : Prop where
  high : q.high = decide (s.line = .released)
  ready : (∃ earlier, s.history = earlier ++ [⟨.busyRead, false⟩]) → q.ready = true

/-- The pins of a port that is properly wired: NSS is a pin, and RESET another. -/
structure Wired (config : Stm32f4Sx128xPortConfig) : Prop where
  nss : config.nss.isTouched config.nss = true
  reset : config.nss.isTouched config.reset = false

theorem Stm32f4Sx128xPort.Started.wired {backend : Stm32f4Sx128xPort} (h : Started config backend)
    (hseparate : config.nss.isTouched config.reset = false) :
    Wired config ∧ config.reset.isTouched config.reset = true := by
  have hvalid := h.valid
  simp only [configIsValid, Bool.and_eq_true, decide_eq_true_eq] at hvalid
  have hnss : config.nss.mask ≠ 0 := hvalid.1.1.1.1.1.1.2
  have hreset : config.reset.mask ≠ 0 := hvalid.1.1.1.1.2
  exact ⟨⟨by simp [GpioPin.isTouched, hnss], hseparate⟩, by simp [GpioPin.isTouched, hreset]⟩

theorem inward_path (config : Stm32f4Sx128xPortConfig) (q : Pins) (h : tr.all (·.1.isInward) = true) :
    ∃ q', (pins config).Path q tr q' ∧ q'.high = q.high := by
  induction tr generalizing q with
  | nil => exact ⟨q, rfl, rfl⟩
  | cons a tr ih =>
    rw [List.all_cons, Bool.and_eq_true] at h
    obtain ⟨q', hpath, hhigh⟩ := ih ⟨q.high, false⟩ h.2
    have ha := h.1
    refine ⟨q', ⟨⟨q.high, false⟩, ?_, hpath⟩, hhigh⟩
    obtain ⟨o, x⟩ := a
    cases o with
    | spiTransmitReceive spi txData size timeoutMs => cases ha
    | gpioWritePin written set => cases ha
    | gpioReadPin pin => cases ha
    | _ => rfl

theorem chunks_path (config : Stm32f4Sx128xPortConfig)
    {log : List (List UInt8 × HalStatus × List UInt8)} {q : Pins}
    (hq : q.high = false) (hsizes : ∀ e ∈ log, 0 < e.1.length ∧ e.1.length ≤ 64) :
    ∃ q', (pins config).Path q (log.map (chunkCall config)) q' ∧ q'.high = false := by
  induction log generalizing q with
  | nil => exact ⟨q, rfl, hq⟩
  | cons e log ih =>
    obtain ⟨he, hsizes⟩ := List.forall_mem_cons.mp hsizes
    obtain ⟨q', hpath, hhigh⟩ := ih (q := ⟨false, false⟩) rfl hsizes
    refine ⟨q', ⟨⟨false, false⟩, ⟨hq, ⟨rfl, rfl, ?_, he⟩, rfl⟩, hpath⟩, hhigh⟩
    simp only [Nat.toUInt16, UInt16.toNat_ofNat']
    omega

theorem ready_of_concat {s : Bus} {history : List PortAction} {a : PortAction}
    (hs : s.history = history ++ [a]) (ha : a ≠ ⟨.busyRead, false⟩) {q : Pins} :
    (∃ earlier, s.history = earlier ++ [⟨.busyRead, false⟩]) → q.ready = true := by
  rintro ⟨earlier, he⟩
  rw [hs] at he
  exact absurd (List.append_inj' he rfl).2 (by simpa using ha)

/-- **One step of the bus is a path of the pins.** -/
theorem step_path {s s' : Bus} {q : Pins} {a : PortAction} (hw : Wired config)
    (hshape : Shape config a tr) (hstep : bus device bound a.1 s a.2 s') (hq : Matches s q) :
    ∃ q', (pins config).Path q tr q' ∧ Matches s' q' := by
  obtain ⟨hhistory, hallows⟩ := hstep
  cases hshape with
  | @spiTransfer t sent received log hsizes _ _ =>
    obtain ⟨hline, hline'⟩ := hallows
    have hlow : q.high = false := by
      rw [hq.high]
      obtain ⟨hline, -⟩ | hline := hline <;> rw [hline] <;> rfl
    obtain ⟨q', hpath, hhigh⟩ := chunks_path config hlow hsizes
    refine ⟨q', hpath, ?_, ready_of_concat hhistory (by simp)⟩
    rw [hhigh, hline']
    cases sent <;> rfl
  | nssWrite high =>
    refine ⟨⟨high, false⟩, ⟨⟨high, false⟩, ?_, rfl⟩, ?_, ready_of_concat hhistory (by simp)⟩
    · rw [pins, Pins.Allows, if_pos hw.nss]
      refine ⟨?_, rfl⟩
      rintro rfl
      obtain ⟨-, ⟨earlier, wait, hwait, htrace⟩, -⟩ := hallows
      obtain ⟨earlier', rfl⟩ := waitWhileBusy_idle htrace
      exact hq.ready ⟨earlier ++ earlier', hwait.trans (List.append_assoc _ _ _).symm⟩
    · cases high with
      | false => rw [hallows.2.2]; rfl
      | true => rw [hallows.2]; rfl
  | resetWrite high =>
    have hline : s.line = .released ∧ s'.line = .released := hallows
    refine ⟨⟨q.high, false⟩, ⟨⟨q.high, false⟩, ?_, rfl⟩, ?_, ready_of_concat hhistory (by simp)⟩
    · rw [pins, Pins.Allows, if_neg (by simp [hw.reset])]
    · rw [hq.high, hline.1, hline.2]
  | busyRead set =>
    have hline : s.line = .released ∧ s'.line = .released := hallows
    refine ⟨⟨q.high, decide (set = false)⟩, ⟨⟨q.high, decide (set = false)⟩, ?_, rfl⟩, ?_, ?_⟩
    · rw [pins, Pins.Allows]
      simp
    · rw [hq.high, hline.1, hline.2]
    · rintro ⟨earlier, he⟩
      rw [hhistory] at he
      have ha := (List.append_inj' he rfl).2
      simpa using ha
  | @inward o x tr ho hinward =>
    obtain ⟨q', hpath, hhigh⟩ := inward_path config q hinward
    refine ⟨q', hpath, ?_, ?_⟩
    · cases o with
      | delayMs ms => rw [hhigh, hq.high, hallows.1, hallows.2]
      | timeMs => rw [hhigh, hq.high, hallows.1, hallows.2]
      | takeDio1Event => rw [hhigh, hq.high, hallows.1, hallows.2]
      | _ => cases ho
    · refine ready_of_concat hhistory ?_
      cases o with
      | busyRead => cases ho
      | _ => simp

/-! ## The bytes of a call -/

/-- The port in the place of the calls of the driver. -/
def portHandler : Handler PortOp PortOp.Ans HalOp HalOp.Ans Stm32f4Sx128xPort :=
  fun o b => some <$> Stm32f4Sx128xPort.answer o b

theorem kept_of_expands {b b' : Stm32f4Sx128xPort} {ptr : List PortAction}
    (hx : Expands portHandler b ptr tr b') (hb : b.initialized = true) :
    b'.initialized = true ∧ b'.config = b.config := by
  refine hx.invariant (I := fun b₁ => b₁.initialized = true ∧ b₁.config = b.config) ?_ ⟨hb, rfl⟩
  rintro o b₁ t x b₂ ht ⟨hb₁, hconfig⟩
  obtain ⟨r, hr, he⟩ := trace_map_iff.mp ht
  obtain rfl := Option.some.inj he
  obtain ⟨hconfig₂, hb₂, -⟩ := trace_answer (a := ⟨o, x⟩) hb₁ hr
  exact ⟨hb₂, hconfig₂.trans hconfig⟩

theorem Stm32f4Sx128xPort.Started.expands {backend b' : Stm32f4Sx128xPort}
    {ptr : List PortAction} (h : Started config backend)
    (hx : Expands portHandler backend ptr tr b') : Started config b' := by
  obtain ⟨hready, hconfig⟩ := kept_of_expands hx h.initialized
  exact ⟨h.valid, hready, hconfig.trans h.config_eq⟩

/-- The bytes that carry some transfers: all those of one that was sent, a beginning of those of
one that failed. -/
inductive Carries : List (Transfer × Bool) → List UInt8 → Prop
  | nil : Carries [] []
  | sent (t : Transfer) {log : List (Transfer × Bool)} {data : List UInt8} : Carries log data →
      Carries ((t, true) :: log) (bytes t ++ data)
  | failed {t : Transfer} {part : List UInt8} {log : List (Transfer × Bool)} {data : List UInt8} :
      part <+: bytes t → Carries log data → Carries ((t, false) :: log) (part ++ data)

def Transaction.wire (t : Transaction) : List UInt8 := t.transfers.flatMap bytes

theorem Carries.complete {ts : List Transfer} {data : List UInt8}
    (h : Carries (ts.map (·, true)) data) : data = ts.flatMap bytes := by
  induction ts generalizing data with
  | nil =>
    cases h
    rfl
  | cons t ts ih =>
    cases h with
    | sent _ h => rw [List.flatMap_cons, ih h]

theorem outgoing_chunks (config : Stm32f4Sx128xPortConfig) (nss : GpioPin)
    (log : List (List UInt8 × HalStatus × List UInt8)) (rest : List HalAction) :
    outgoing nss (log.map (chunkCall config) ++ rest) = Chunks.sent log ++ outgoing nss rest ∧
      frames nss (log.map (chunkCall config) ++ rest) = frames nss rest := by
  induction log with
  | nil => exact ⟨rfl, rfl⟩
  | cons e log ih =>
    refine ⟨?_, ih.2⟩
    rw [Chunks.sent_cons, List.append_assoc, ← ih.1]
    rfl

theorem outgoing_inward (nss : GpioPin) (h : tr.all (·.1.isInward) = true)
    (rest : List HalAction) : frames nss (tr ++ rest) = frames nss rest := by
  induction tr with
  | nil => rfl
  | cons a tr ih =>
    rw [List.all_cons, Bool.and_eq_true] at h
    have ha := h.1
    rw [← ih h.2]
    obtain ⟨o, x⟩ := a
    cases o with
    | spiTransmitReceive spi txData size timeoutMs => cases ha
    | gpioWritePin written set => cases ha
    | gpioReadPin pin => cases ha
    | _ => rfl

/-- **The pins and the bytes of an expanded trace of the bus.** -/
theorem expands_path {ptr : List PortAction} {s s' : Bus} {q : Pins} {b b' : Stm32f4Sx128xPort}
    (hw : Wired config) (hb : b.initialized = true) (hconfig : b.config = config)
    (hpath : (bus device bound).Path s ptr s') (hx : Expands portHandler b ptr tr b')
    (hq : Matches s q) :
    (∃ q', (pins config).Path q tr q' ∧ Matches s' q') ∧
    List.Forall₂ Carries (periods ptr) (frames config.nss tr) ∧
    (s.line ≠ .released → Carries (transfers ptr) (outgoing config.nss tr)) := by
  induction ptr generalizing s q b tr with
  | nil =>
    obtain ⟨rfl, rfl⟩ := hx
    obtain rfl := hpath
    exact ⟨⟨q, rfl, hq⟩, .nil, fun _ => .nil⟩
  | cons a ptr ih =>
    obtain ⟨m, hstep, hpath⟩ := hpath
    obtain ⟨o, x⟩ := a
    obtain ⟨b₁, t₁, t₂, hanswer, hx, rfl⟩ := hx
    obtain ⟨r, hr, he⟩ := trace_map_iff.mp hanswer
    obtain rfl := Option.some.inj he
    obtain ⟨hconfig₁, hb₁, hshape⟩ := trace_answer (a := ⟨o, x⟩) hb hr
    rw [hconfig] at hconfig₁ hshape
    obtain ⟨q₁, hpins, hq₁⟩ := step_path hw hshape hstep hq
    obtain ⟨⟨q', hrest, hq'⟩, hperiods, htransfers⟩ :=
      ih hb₁ hconfig₁ hpath hx hq₁
    refine ⟨⟨q', Env.path_append_iff.mpr ⟨q₁, hpins, hrest⟩, hq'⟩, ?_⟩
    obtain ⟨-, hallows⟩ := hstep
    cases hshape with
    | @spiTransfer t sent received log hsizes hprefix hall =>
      obtain ⟨hout, hframes⟩ := outgoing_chunks config config.nss log t₂
      have hline : m.line ≠ .released := by
        rw [hallows.2]
        cases sent <;> decide
      rw [hout, hframes]
      refine ⟨hperiods, fun _ => ?_⟩
      cases sent with
      | true =>
        rw [hall rfl]
        exact .sent t (htransfers hline)
      | false => exact .failed hprefix (htransfers hline)
    | nssWrite high =>
      cases high with
      | false =>
        have hline : m.line ≠ .released := by
          rw [hallows.2.2]
          decide
        refine ⟨?_, fun hs => absurd hallows.1 hs⟩
        rw [List.singleton_append, frames, if_pos (by simp [hw.nss])]
        exact .cons (htransfers hline) hperiods
      | true =>
        rw [List.singleton_append, frames, outgoing, if_neg (by simp), if_pos (by simp [hw.nss])]
        exact ⟨hperiods, fun _ => .nil⟩
    | resetWrite high =>
      rw [List.singleton_append, frames, if_neg (by simp [hw.reset])]
      exact ⟨hperiods, fun hs => absurd hallows.1 hs⟩
    | busyRead set => exact ⟨hperiods, fun hs => absurd hallows.1 hs⟩
    | inward ho hinward =>
      rw [outgoing_inward config.nss hinward]
      cases o with
      | delayMs ms => exact ⟨hperiods, fun hs => absurd hallows.1 hs⟩
      | timeMs => exact ⟨hperiods, fun hs => absurd hallows.1 hs⟩
      | takeDio1Event => exact ⟨hperiods, fun hs => absurd hallows.1 hs⟩
      | _ => cases ho

/-! ## Calls of the driver -/

theorem Carries.of_append_failed {done : List Transfer} {t : Transfer} {data : List UInt8}
    (h : Carries (done.map (·, true) ++ [(t, false)]) data) :
    ∃ part, part <+: bytes t ∧ data = done.flatMap bytes ++ part := by
  induction done generalizing data with
  | nil =>
    cases h with
    | failed hpart hrest =>
      cases hrest
      exact ⟨_, hpart, List.append_nil _⟩
  | cons u done ih =>
    cases h with
    | sent _ h =>
      obtain ⟨part, hpart, rfl⟩ := ih h
      exact ⟨part, hpart, by rw [List.flatMap_cons, List.append_assoc]⟩

/-- The bytes of a transaction that is cut short are a beginning of its bytes. -/
theorem Sx128x.CutShort.wire {t : Transaction} {log : List (Transfer × Bool)} {data : List UInt8}
    (h : CutShort t.transfers log) (hdata : Carries log data) : data <+: t.wire := by
  obtain ⟨done, u, rest, hts, rfl⟩ := h
  obtain ⟨part, hpart, rfl⟩ := hdata.of_append_failed
  rw [Transaction.wire, hts, List.flatMap_append, List.flatMap_cons]
  exact (List.prefix_append_right_inj _).mpr (hpart.trans (List.prefix_append _ _))

theorem forall₂_complete {plan : List Transaction} {datas : List (List UInt8)}
    (h : List.Forall₂ Carries (plan.map complete) datas) :
    datas = plan.map Transaction.wire := by
  induction plan generalizing datas with
  | nil =>
    cases h
    rfl
  | cons t plan ih =>
    cases h with
    | cons hdata h => rw [List.map_cons, ← ih h, hdata.complete, Transaction.wire]

/-- The bytes are those of the first transactions of `plan`, the last of them perhaps cut short. -/
def StartsWire (plan : List Transaction) (datas : List (List UInt8)) : Prop :=
  ∃ sent rest, plan = sent ++ rest ∧ (datas = sent.map Transaction.wire ∨
    ∃ t rest' part, rest = t :: rest' ∧ part <+: t.wire ∧
      datas = sent.map Transaction.wire ++ [part])

theorem Sx128x.StartsPlan.wire {plan : List Transaction} {logs : List (List (Transfer × Bool))}
    {datas : List (List UInt8)} (h : StartsPlan plan logs)
    (hdatas : List.Forall₂ Carries logs datas) : StartsWire plan datas := by
  obtain ⟨sent, rest, rfl, rfl | ⟨t, rest', log, rfl, hlog, rfl⟩⟩ := h
  · exact ⟨sent, rest, rfl, .inl (forall₂_complete hdatas)⟩
  · obtain ⟨first, last, hfirst, hlast, rfl⟩ :
        ∃ first last, List.Forall₂ Carries (sent.map complete) first ∧
          List.Forall₂ Carries [log] last ∧ datas = first ++ last := by
      have hsplit := hdatas
      refine ⟨datas.take (sent.map complete).length, datas.drop (sent.map complete).length, ?_, ?_,
        (List.take_append_drop _ _).symm⟩
      · simpa using List.forall₂_take (sent.map complete).length hsplit
      · simpa using List.forall₂_drop (sent.map complete).length hsplit
    cases hlast with
    | cons hpart hnil =>
      cases hnil
      refine ⟨sent, t :: rest', rfl, .inr ⟨t, rest', _, rfl, hlog.wire hpart, ?_⟩⟩
      rw [forall₂_complete hfirst]

theorem periods_of_ok {call : Sx128xCall} {ptr : List PortAction}
    (h : Trace (call.run device bound) ptr (some (.result .ok))) :
    periods ptr = call.transactions.map complete := by
  by_cases hquiet : call.IsQuiet
  · have hperiods := (Sx128xCall.silent_of_isQuiet hquiet h).periods_append []
    rw [List.append_nil] at hperiods
    rw [hperiods]
    cases call with
    | hardwareReset => rfl
    | waitWhileBusy => rfl
    | takeDio1Event => rfl
    | _ => exact absurd hquiet not_false
  · obtain ⟨r, hr, ⟨result, rfl, hrejected, -⟩ | ⟨hready, hsequence⟩⟩ :=
      Sx128xCall.trace_run hquiet h
    · cases hr
      obtain hr | hr | hr := hrejected <;> cases hr
    · obtain rfl : r = some .ok := Sx128xCall.result_of_map hr
      exact (sequence_carried hready hsequence).ok_iff.mp rfl

/-- **Every call of the driver keeps the pins in order**, whatever the HAL answers: the SPI of the
radio only moves bytes while NSS is low, 1 to 64 at a time; NSS falls right after BUSY was read low
and is left high; and between a fall and the next rise the radio gets the bytes of one transaction,
all of them if the call returns OK.  The next call finds the port as this one did. -/
theorem hal_discipline {backend b' : Stm32f4Sx128xPort} {call : Sx128xCall}
    {out : Option Sx128xReturn} (hstarted : Started config backend)
    (hseparate : config.nss.isTouched config.reset = false)
    (h : Trace (interp portHandler (call.run device bound) backend) tr (some (out, b'))) :
    PinsDisciplined config tr ∧
    StartsWire call.transactions (frames config.nss tr) ∧
    (out = some (.result .ok) →
      frames config.nss tr = call.transactions.map Transaction.wire) ∧
    Started config b' := by
  have hw := (hstarted.wired hseparate).1
  obtain ⟨ptr, hptr, hx⟩ := trace_interp_iff.mp h
  have hstarts := Sx128xCall.startsPlan_run hptr
  have hstart : Matches ⟨[], .released⟩ ⟨true, false⟩ := by
    refine ⟨rfl, ?_⟩
    rintro ⟨earlier, he⟩
    exact absurd he (by simp)
  obtain ⟨⟨q, hpins, hq⟩, hperiods, -⟩ :=
    expands_path hw hstarted.initialized hstarted.config_eq (Sx128xCall.path_run hptr) hx hstart
  refine ⟨pinsDisciplined_of_path hpins hq.high, hstarts.wire hperiods, ?_, hstarted.expands hx⟩
  rintro rfl
  rw [periods_of_ok hptr] at hperiods
  exact forall₂_complete hperiods

/-- A look at the status of a radio that is not busy: NSS is low for the one byte. -/
theorem hal_discipline_getStatus : ∃ tr b', Trace (interp portHandler
      ((Sx128xCall.getStatus (some 0)).run ⟨20, true⟩ 1)
      ⟨⟨1, ⟨1, 1⟩, ⟨1, 2⟩, ⟨1, 4⟩, 8, 20⟩, { nssWrites := 1, resetWrites := 1 }, true⟩) tr
      (some (some (.result .ok), b')) ∧
    frames ⟨1, 1⟩ tr = [[0xC0]] ∧ pinHigh ⟨1, 1⟩ tr = true := by
  let config : Stm32f4Sx128xPortConfig := ⟨1, ⟨1, 1⟩, ⟨1, 2⟩, ⟨1, 4⟩, 8, 20⟩
  let backend : Stm32f4Sx128xPort := ⟨config, { nssWrites := 1, resetWrites := 1 }, true⟩
  let ptr : List PortAction := [⟨.timeMs, 0⟩, ⟨.busyRead, false⟩, ⟨.nssWrite false, ()⟩,
    ⟨.spiTransfer ⟨some [0xC0], true, 1⟩, (true, [0x55])⟩, ⟨.nssWrite true, ()⟩]
  have hptr : Trace ((Sx128xCall.getStatus (some 0)).run ⟨20, true⟩ 1) ptr
      (some (.result .ok)) := by
    apply Trace.call
    apply Trace.call
    apply Trace.call
    apply Trace.call
    apply Trace.call
    exact Trace.ret _
  let t : Transfer := ⟨some [0xC0], true, 1⟩
  let b₁ : Stm32f4Sx128xPort := { backend with stats.busyReads := 1 }
  let b₂ : Stm32f4Sx128xPort := { b₁ with stats.nssWrites := 2 }
  let b₃ : Stm32f4Sx128xPort := afterChunks { b₂ with stats.spiTransferCalls := 1 } t 1 true
  let b₄ : Stm32f4Sx128xPort := { b₃ with stats.nssWrites := 3 }
  have hspi : Trace (b₂.spiTransfer t) [⟨.spiTransmitReceive 1 [0xC0] 1 20, (.ok, [0x55])⟩]
      ((true, [0x55]), b₃) := by
    apply Trace.call
    exact Trace.ret _
  have hx : Expands portHandler backend ptr [⟨.getTick, 0⟩, ⟨.gpioReadPin config.busy, false⟩,
      ⟨.gpioWritePin config.nss false, ()⟩, ⟨.spiTransmitReceive 1 [0xC0] 1 20, (.ok, [0x55])⟩,
      ⟨.gpioWritePin config.nss true, ()⟩] b₄ := by
    have htime : Trace backend.timeMs [⟨.getTick, 0⟩] (0, backend) :=
      (trace_once_iff rfl).mpr ⟨0, rfl, rfl, rfl⟩
    have hbusy : Trace backend.busyRead [⟨.gpioReadPin config.busy, false⟩] (false, b₁) :=
      (trace_once_iff rfl).mpr ⟨false, rfl, rfl, rfl⟩
    have hfall : Trace (b₁.nssWrite false) [⟨.gpioWritePin config.nss false, ()⟩] ((), b₂) :=
      (trace_once_iff rfl).mpr ⟨(), rfl, rfl, rfl⟩
    have hrise : Trace (b₃.nssWrite true) [⟨.gpioWritePin config.nss true, ()⟩] ((), b₄) :=
      (trace_once_iff rfl).mpr ⟨(), rfl, rfl, rfl⟩
    exact ⟨backend, [_], _, trace_map_iff.mpr ⟨_, htime, rfl⟩,
      ⟨b₁, [_], _, trace_map_iff.mpr ⟨_, hbusy, rfl⟩,
        ⟨b₂, [_], _, trace_map_iff.mpr ⟨_, hfall, rfl⟩,
          ⟨b₃, [_], _, trace_map_iff.mpr ⟨_, hspi, rfl⟩,
            ⟨b₄, [_], [], trace_map_iff.mpr ⟨_, hrise, rfl⟩, ⟨rfl, rfl⟩, rfl⟩, rfl⟩, rfl⟩, rfl⟩, rfl⟩
  have htrace := trace_interp_iff.mpr ⟨ptr, hptr, hx⟩
  obtain ⟨hpins, -, hall, -⟩ := hal_discipline ⟨rfl, rfl, rfl⟩ (by decide) htrace
  exact ⟨_, b₄, htrace, hall rfl, hpins.released⟩

end RadioConnection
