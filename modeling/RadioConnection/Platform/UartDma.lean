import Mathlib

/-!
# Reception by DMA

`stm32f4_uart_dma_backend.c` counts the bytes that a circular DMA has written,
from the positions that the HAL reports, and `stm32_uart_dma_transport.c` hands
them out of the same buffer.  Both count modulo `2^32`.  The results of HAL calls
are parameters, and the buffer is a function of the index.
-/

namespace RadioConnection

/-! ## The backend -/

structure Stm32f4UartDmaBackendStats where
  rxEvents : UInt32
  duplicateEvents : UInt32
  invalidEvents : UInt32
  uartErrorEvents : UInt32
  recoveryAttempts : UInt32
  recoverySuccesses : UInt32
  recoveryFailures : UInt32
  lastUartError : UInt32
  deriving DecidableEq, Repr

structure Stm32f4UartDmaBackend where
  /-- Which UART the backend belongs to. -/
  uart : ℕ
  rxBufferSize : UInt32
  producedCount : UInt32
  recoveryRequested : Bool
  lastDmaPosition : UInt32
  started : Bool
  stats : Stm32f4UartDmaBackendStats
  deriving DecidableEq, Repr

namespace Stm32f4UartDmaBackend

/-- `none` when the size of the buffer is refused. -/
def init (uart rxBufferSize : ℕ) : Option Stm32f4UartDmaBackend :=
  if rxBufferSize = 0 ∨ 65535 < rxBufferSize then none
  else
    some {
      uart := uart
      rxBufferSize := UInt32.ofNat rxBufferSize
      producedCount := 0
      recoveryRequested := false
      lastDmaPosition := 0
      started := false
      stats := ⟨0, 0, 0, 0, 0, 0, 0, 0⟩ }

/-- `stm32f4_uart_dma_backend_begin_receive`; `halOk` is what `HAL_UARTEx_ReceiveToIdle_DMA`
returns. -/
def beginReceive (backend : Stm32f4UartDmaBackend) (halOk : Bool) : Bool × Stm32f4UartDmaBackend :=
  if ¬ halOk then (false, { backend with started := false })
  else (true, { backend with started := true })

/-- `stm32f4_uart_dma_backend_start`, with a circular DMA stream. -/
def start (backend : Stm32f4UartDmaBackend) (halOk : Bool) : Bool × Stm32f4UartDmaBackend :=
  beginReceive { backend with lastDmaPosition := 0, recoveryRequested := false } halOk

/-- `stm32f4_uart_dma_backend_process`. -/
def process (backend : Stm32f4UartDmaBackend) (halOk : Bool) : Bool × Stm32f4UartDmaBackend :=
  if ¬ backend.recoveryRequested then (false, backend)
  else
    let backend := { backend with
      stats := { backend.stats with recoveryAttempts := backend.stats.recoveryAttempts + 1 }
      started := false
      lastDmaPosition := 0 }
    match beginReceive backend halOk with
    | (true, backend) =>
      (true, { backend with
        recoveryRequested := false
        stats := { backend.stats with recoverySuccesses := backend.stats.recoverySuccesses + 1 } })
    | (false, backend) =>
      (false, { backend with
        stats := { backend.stats with recoveryFailures := backend.stats.recoveryFailures + 1 } })

/-- `produced_delta` of `stm32f4_uart_dma_backend_on_rx_event`. -/
def producedDelta (backend : Stm32f4UartDmaBackend) (currentPosition : UInt32) : UInt32 :=
  if backend.lastDmaPosition ≤ currentPosition then currentPosition - backend.lastDmaPosition
  else (backend.rxBufferSize - backend.lastDmaPosition) + currentPosition

/-- `stm32f4_uart_dma_backend_on_rx_event`. -/
def onRxEvent (backend : Stm32f4UartDmaBackend) (uart : ℕ) (dmaPosition : UInt16) :
    Stm32f4UartDmaBackend :=
  if ¬ backend.started ∨ uart ≠ backend.uart ∨ dmaPosition = 0 ∨
      backend.rxBufferSize < dmaPosition.toUInt32 then
    { backend with
      stats := { backend.stats with invalidEvents := backend.stats.invalidEvents + 1 } }
  else
    let currentPosition :=
      if dmaPosition.toUInt32 = backend.rxBufferSize then 0 else dmaPosition.toUInt32
    let producedDelta := backend.producedDelta currentPosition
    let backend := { backend with
      stats := { backend.stats with rxEvents := backend.stats.rxEvents + 1 } }
    if producedDelta = 0 then
      { backend with
        stats := { backend.stats with duplicateEvents := backend.stats.duplicateEvents + 1 } }
    else
      { backend with
        producedCount := backend.producedCount + producedDelta
        lastDmaPosition := currentPosition }

/-- `stm32f4_uart_dma_backend_on_error`. -/
def onError (backend : Stm32f4UartDmaBackend) (uart : ℕ) (errorCode : UInt32) :
    Stm32f4UartDmaBackend :=
  if uart ≠ backend.uart then
    { backend with
      stats := { backend.stats with invalidEvents := backend.stats.invalidEvents + 1 } }
  else
    { backend with
      stats := { backend.stats with
        uartErrorEvents := backend.stats.uartErrorEvents + 1
        lastUartError := errorCode }
      recoveryRequested := true
      started := false }

end Stm32f4UartDmaBackend

/-! ## The transport -/

structure Stm32UartDmaTransportStats where
  bytesRead : UInt32
  overflowEvents : UInt32
  droppedBytes : UInt32
  deriving DecidableEq, Repr

structure Stm32UartDmaTransport where
  rxBufferSize : UInt32
  consumedCount : UInt32
  stats : Stm32UartDmaTransportStats
  deriving DecidableEq, Repr

namespace Stm32UartDmaTransport

/-- `none` when the size of the buffer is refused; `producedCount` is what the backend says. -/
def init (rxBufferSize : ℕ) (producedCount : UInt32) : Option Stm32UartDmaTransport :=
  if rxBufferSize = 0 ∨ 2 ^ 32 - 1 < rxBufferSize then none
  else some ⟨UInt32.ofNat rxBufferSize, producedCount, ⟨0, 0, 0⟩⟩

/-- `stm32_uart_dma_transport_reset`. -/
def reset (context : Stm32UartDmaTransport) (producedCount : UInt32) : Stm32UartDmaTransport :=
  { context with consumedCount := producedCount, stats := ⟨0, 0, 0⟩ }

/-- `stm32_uart_dma_transport_sync_available`. -/
def syncAvailable (context : Stm32UartDmaTransport) (producedCount : UInt32) :
    UInt32 × Stm32UartDmaTransport :=
  let available := producedCount - context.consumedCount
  if context.rxBufferSize < available then
    let dropped := available - context.rxBufferSize
    (context.rxBufferSize, { context with
      consumedCount := producedCount - context.rxBufferSize
      stats := { context.stats with
        overflowEvents := context.stats.overflowEvents + 1
        droppedBytes := context.stats.droppedBytes + dropped } })
  else (available, context)

def current (context : Stm32UartDmaTransport) (rxBuffer : ℕ → UInt8) : UInt8 :=
  rxBuffer (context.consumedCount % context.rxBufferSize).toNat

/-- `stm32_uart_dma_transport_read_byte`. -/
def readByte (context : Stm32UartDmaTransport) (producedCount : UInt32) (rxBuffer : ℕ → UInt8) :
    Option UInt8 × Stm32UartDmaTransport :=
  let (available, context) := context.syncAvailable producedCount
  if available = 0 then (none, context)
  else
    (some (context.current rxBuffer), { context with
      consumedCount := context.consumedCount + 1
      stats := { context.stats with bytesRead := context.stats.bytesRead + 1 } })

/-- The loop of `stm32_uart_dma_transport_read`. -/
def readLoop (rxBuffer : ℕ → UInt8) : ℕ → Stm32UartDmaTransport →
    List UInt8 × Stm32UartDmaTransport
  | 0, context => ([], context)
  | count + 1, context =>
    let byte := context.current rxBuffer
    let (bytes, context) := readLoop rxBuffer count
      { context with consumedCount := context.consumedCount + 1 }
    (byte :: bytes, context)

/-- `stm32_uart_dma_transport_read`. -/
def read (context : Stm32UartDmaTransport) (producedCount : UInt32) (rxBuffer : ℕ → UInt8)
    (maxLen : ℕ) : List UInt8 × Stm32UartDmaTransport :=
  if maxLen = 0 then ([], context)
  else
    let (available, context) := context.syncAvailable producedCount
    let toRead := if maxLen < available.toNat then maxLen else available.toNat
    let (bytes, context) := readLoop rxBuffer toRead context
    (bytes, { context with
      stats := { context.stats with
        bytesRead := context.stats.bytesRead + UInt32.ofNat toRead } })

end Stm32UartDmaTransport

end RadioConnection
