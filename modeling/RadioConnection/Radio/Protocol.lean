import RadioConnection.Radio.ChannelMapper

/-!
# Receiver protocols

`radio_protocol_if.h`: a byte parser with a context of its own, behind three
functions.  `feed` runs one over a list of bytes, and `results` is what it returns.
-/

namespace RadioConnection

inductive RadioParseResult
  | idle | inProgress | frameReady | error
  deriving DecidableEq, Repr

/-- The functions of a protocol whose context is a `σ`. -/
structure RadioProtocol (σ : Type) where
  type : RadioProtocolType
  reset : σ → σ
  processByte : σ → UInt8 → UInt32 → RadioParseResult × σ
  /-- `none` when no frame is ready. -/
  getFrame : σ → Option RcInputFrame × σ

namespace RadioProtocol

variable {σ : Type} (protocol : RadioProtocol σ) (nowMs : UInt32)

def feed (context : σ) : List UInt8 → σ
  | [] => context
  | byte :: bytes => feed (protocol.processByte context byte nowMs).2 bytes

def results (context : σ) : List UInt8 → List RadioParseResult
  | [] => []
  | byte :: bytes =>
    (protocol.processByte context byte nowMs).1 ::
      results (protocol.processByte context byte nowMs).2 bytes

theorem feed_append (context : σ) (bytes bytes' : List UInt8) :
    protocol.feed nowMs context (bytes ++ bytes') =
      protocol.feed nowMs (protocol.feed nowMs context bytes) bytes' := by
  induction bytes generalizing context with
  | nil => rfl
  | cons byte bytes ih => exact ih _

theorem results_append (context : σ) (bytes bytes' : List UInt8) :
    protocol.results nowMs context (bytes ++ bytes') =
      protocol.results nowMs context bytes ++
        protocol.results nowMs (protocol.feed nowMs context bytes) bytes' := by
  induction bytes generalizing context with
  | nil => rfl
  | cons byte bytes ih =>
    rw [List.cons_append, results, ih]
    rfl

end RadioProtocol

end RadioConnection
