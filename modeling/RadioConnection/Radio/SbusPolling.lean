import RadioConnection.Radio.ReceiverService
import RadioConnection.Radio.SbusResync

/-!
# SBUS frames over several calls

`rc_receiver_service_process` reads the clock once, so the time-out of the SBUS parser
sees the bytes of a call at one time and those of another call at another.  Valid frames
come in order; the calls take their bytes in any portions.

* `acceptedIn_eq`: the calls are one stream of timed bytes.
* `ready_le`: each frame that is decoded takes 25 bytes of its own.
* `decodesAll_iff`: all frames are decoded when no call boundary inside a frame lasts
  as long as the time-out.
-/

namespace RadioConnection

namespace RcReceiverService

variable {σ : Type} (protocol : RadioProtocol σ)

/-! ## Several calls -/

def processAll (service : RcReceiverService σ) (polls : List Poll) : RcReceiverService σ :=
  polls.foldl (process protocol) service

def acceptedIn (service : RcReceiverService σ) : List Poll → List RcInputFrame
  | [] => []
  | poll :: polls =>
    acceptedFrames protocol (UInt32.ofNat poll.startMs) service.context poll.bytes ++
      acceptedIn (process protocol service poll) polls

/-- The bytes of the calls, with the clock that the parser is given. -/
def timedBytes (polls : List Poll) : List (UInt8 × UInt32) :=
  polls.flatMap fun poll => poll.bytes.map fun byte => (byte, UInt32.ofNat poll.startMs)

def takeAll (context : σ) (bytes : List (UInt8 × UInt32)) : σ :=
  bytes.foldl (fun context b => (takeFrame protocol context b.1 b.2).2) context

/-- The frames that the protocol gives for the bytes. -/
def acceptedTimed (context : σ) : List (UInt8 × UInt32) → List RcInputFrame
  | [] => []
  | b :: bytes =>
    (takeFrame protocol context b.1 b.2).1.toList ++
      acceptedTimed (takeFrame protocol context b.1 b.2).2 bytes

variable {protocol} {service : RcReceiverService σ}

theorem acceptedTimed_append (context : σ) (bytes bytes' : List (UInt8 × UInt32)) :
    acceptedTimed protocol context (bytes ++ bytes') =
      acceptedTimed protocol context bytes ++
        acceptedTimed protocol (takeAll protocol context bytes) bytes' := by
  induction bytes generalizing context with
  | nil => rfl
  | cons b bytes ih =>
    rw [List.cons_append, acceptedTimed, ih, acceptedTimed, List.append_assoc]
    rfl

theorem acceptedFrames_eq (nowMs : UInt32) (context : σ) (bytes : List UInt8) :
    acceptedFrames protocol nowMs context bytes =
      acceptedTimed protocol context (bytes.map fun byte => (byte, nowMs)) := by
  induction bytes generalizing context with
  | nil => rfl
  | cons byte bytes ih => rw [acceptedFrames, ih, List.map_cons, acceptedTimed]

theorem process_context (poll : Poll) :
    (process protocol service poll).context = takeAll protocol service.context
      (poll.bytes.map fun byte => (byte, UInt32.ofNat poll.startMs)) := by
  have hreceive : ∀ (bytes : List UInt8) (nowMs : UInt32) (service : RcReceiverService σ),
      (bytes.foldl (receiveByte protocol nowMs) service).context =
        takeAll protocol service.context (bytes.map fun byte => (byte, nowMs)) := by
    intro bytes nowMs
    induction bytes with
    | nil => exact fun _ => rfl
    | cons byte bytes ih =>
      intro service
      rw [List.foldl_cons, ih, receiveByte_context]
      rfl
  rw [process, ← hreceive]
  unfold checkTimeout
  split_ifs <;> rfl

theorem timedBytes_cons (poll : Poll) (polls : List Poll) :
    timedBytes (poll :: polls) =
      (poll.bytes.map fun byte => (byte, UInt32.ofNat poll.startMs)) ++ timedBytes polls := rfl

/-- **The calls are one stream of timed bytes.** -/
theorem acceptedIn_eq (polls : List Poll) (service : RcReceiverService σ) :
    acceptedIn protocol service polls =
      acceptedTimed protocol service.context (timedBytes polls) := by
  induction polls generalizing service with
  | nil => rfl
  | cons poll polls ih =>
    rw [acceptedIn, ih, process_context, acceptedFrames_eq, timedBytes_cons,
      acceptedTimed_append]

theorem processAll_channels (polls : List Poll) (service : RcReceiverService σ) :
    (processAll protocol service polls).latestFrame.channels =
      ((acceptedIn protocol service polls).getLast?.map (·.channels)).getD
        service.latestFrame.channels := by
  induction polls generalizing service with
  | nil => rfl
  | cons poll polls ih =>
    have hpoll : (process protocol service poll).latestFrame.channels =
        ((acceptedFrames protocol (UInt32.ofNat poll.startMs) service.context
          poll.bytes).getLast?.map (·.channels)).getD service.latestFrame.channels := by
      have hcheck : ∀ (service : RcReceiverService σ) (nowMs : UInt32),
          (checkTimeout service nowMs).latestFrame.channels = service.latestFrame.channels := by
        intro service nowMs
        unfold checkTimeout
        split_ifs <;> rfl
      obtain ⟨context, hlast⟩ :=
        @receive_last σ protocol (UInt32.ofNat poll.startMs) poll.bytes service
      rw [process, hcheck, hlast]
      cases (acceptedFrames protocol (UInt32.ofNat poll.startMs) service.context
        poll.bytes).getLast? <;> rfl
    show (processAll protocol (process protocol service poll) polls).latestFrame.channels = _
    rw [ih, hpoll, acceptedIn, List.getLast?_append]
    cases (acceptedIn protocol (process protocol service poll) polls).getLast? <;> rfl

end RcReceiverService

namespace SbusProtocolContext

open RcReceiverService (takeFrame takeAll acceptedTimed acceptedTimed_append timedBytes)

variable {context : SbusProtocolContext} {part : List TimedByte}

/-! ## One byte of the service -/

theorem takeFrame_tracks (h : Tracks context part) (hp : FramePart part) (b : TimedByte) :
    Tracks (takeFrame sbusProtocol context b.1 b.2).2 (advance part b) ∧
      ((takeFrame sbusProtocol context b.1 b.2).1.isSome ↔ resultOf part b = .frameReady) := by
  obtain ⟨htracks, hresult⟩ := processByte_tracks h hp b.1 b.2
  unfold takeFrame
  show Tracks (if (processByte context b.1 b.2).1 = .frameReady then
      getFrame (processByte context b.1 b.2).2 else (none, (processByte context b.1 b.2).2)).2 _ ∧
    ((if (processByte context b.1 b.2).1 = .frameReady then
      getFrame (processByte context b.1 b.2).2
      else (none, (processByte context b.1 b.2).2)).1.isSome ↔ _)
  by_cases hready : (processByte context b.1 b.2).1 = .frameReady
  · obtain ⟨_, _, _, _, _, hget⟩ := frame_of_ready h hp hready
    rw [if_pos hready, hget, ← hresult]
    exact ⟨getFrame_tracks htracks, fun _ => hready, fun _ => rfl⟩
  · rw [if_neg hready, ← hresult]
    exact ⟨htracks, nofun, fun h => absurd h hready⟩

theorem takeAll_tracks (h : Tracks context part) (hp : FramePart part) (bytes : List TimedByte) :
    Tracks (takeAll sbusProtocol context bytes) (bytes.foldl advance part) := by
  induction bytes generalizing context part with
  | nil => exact h
  | cons b bytes ih => exact ih (takeFrame_tracks h hp b).1 (hp.advance b)

def readyCount (part bytes : List TimedByte) : ℕ := (outcomes part bytes).count .frameReady

theorem length_acceptedTimed (h : Tracks context part) (hp : FramePart part)
    (bytes : List TimedByte) :
    (acceptedTimed sbusProtocol context bytes).length = readyCount part bytes := by
  induction bytes generalizing context part with
  | nil => rfl
  | cons b bytes ih =>
    obtain ⟨htracks, hsome⟩ := takeFrame_tracks h hp b
    rw [acceptedTimed, List.length_append, ih htracks (hp.advance b), readyCount, readyCount,
      outcomes, List.count_cons, Nat.add_comm]
    congr 1
    cases hframe : (takeFrame sbusProtocol context b.1 b.2).1 with
    | none =>
      have hnot : ¬ resultOf part b = .frameReady := by
        rw [← hsome, hframe]
        decide
      simp [hnot]
    | some frame =>
      have hready : resultOf part b = .frameReady := by
        rw [← hsome, hframe]
        rfl
      simp [hready]

/-! ## 25 bytes for each frame -/

theorem part_of_ready {b : TimedByte} (hp : FramePart part) (h : resultOf part b = .frameReady) :
    fresh part b.2 = part ∧ part.length = 24 ∧ advance part b = [] := by
  have hfresh := hp.fresh b.2
  have hmax := hfresh.length
  unfold resultOf at h
  split_ifs at h with hnil hheader hshort hzero
  have hsame : fresh part b.2 = part := by
    unfold fresh at hnil ⊢
    split_ifs at hnil ⊢
    · exact absurd rfl hnil
    · rfl
  rw [hsame] at hshort hmax
  refine ⟨hsame, by omega, ?_⟩
  have hheader : ¬ b.1 = sbusHeaderByte := by
    rw [hzero]
    decide
  rw [advance, hsame, if_neg (fun h => hshort h.2), if_neg hheader]

/-- **Each frame that is decoded takes 25 bytes of its own.** -/
theorem ready_le (hp : FramePart part) (bytes : List TimedByte) :
    25 * readyCount part bytes + (bytes.foldl advance part).length ≤
      part.length + bytes.length := by
  induction bytes generalizing part with
  | nil => exact (Nat.zero_add _).le
  | cons b bytes ih =>
    have hrest := ih (hp.advance b)
    rw [readyCount, outcomes, List.count_cons, List.foldl_cons, List.length_cons]
    unfold readyCount at hrest
    by_cases hready : resultOf part b = .frameReady
    · obtain ⟨-, hlength, hempty⟩ := part_of_ready hp hready
      rw [hempty, List.length_nil] at hrest
      rw [hempty, if_pos (by rw [hready]; rfl)]
      omega
    · have hgrows : (advance part b).length ≤ part.length + 1 := by
        have hsuffix := (advance_suffix part b).length_le
        rwa [List.length_append] at hsuffix
      rw [if_neg (by simpa using hready)]
      omega

theorem gaps_of_ready {chunk : List TimedByte} (hlength : chunk.length = 25)
    (h : readyCount [] chunk = 1) :
    chunk.IsChain fun b b' => b'.2 - b.2 < sbusInterByteTimeoutMs := by
  obtain rfl | ⟨bytes, last, rfl⟩ := List.eq_nil_or_concat' chunk
  · cases hlength
  rw [List.length_append] at hlength
  have hbytes : bytes.length = 24 := Nat.succ.inj hlength
  have hpart := framePart_nil.foldl bytes
  have hnone := ready_le framePart_nil bytes
  rw [hbytes] at hnone
  have hzero : readyCount [] bytes = 0 := by
    rw [List.length_nil] at hnone
    omega
  have hready : resultOf (bytes.foldl advance []) last = .frameReady := by
    by_contra hnot
    rw [readyCount, outcomes_append, List.count_append] at h
    unfold readyCount at hzero
    rw [hzero, outcomes, outcomes, List.count_cons, List.count_nil, if_neg (by simpa using hnot)]
      at h
    cases h
  obtain ⟨hfresh, hfull, -⟩ := part_of_ready hpart hready
  have hwhole : bytes.foldl advance [] = bytes :=
    (foldl_advance_suffix bytes []).eq_of_length (by rw [hfull, List.nil_append, hbytes])
  rw [hwhole] at hpart hfresh
  refine hpart.gaps.append (.singleton last) ?_
  intro before hbefore first hfirst
  obtain rfl := Option.some.inj hfirst
  exact not_late_fresh bytes last.2 before (by rwa [hfresh])

/-! ## Frames in order -/

/-- The valid frame of some data and flags. -/
abbrev SbusData := Vector UInt8 22 × UInt8

def bytesOf (frames : List SbusData) : List UInt8 :=
  frames.flatMap fun frame => sbusFrameBytes frame.1 frame.2

/-- Within each of the first `n` frames no byte is read the time-out after the one before. -/
def InTime (n : ℕ) (stream : List TimedByte) : Prop :=
  ∀ k < n, ((stream.drop (25 * k)).take 25).IsChain fun b b' => b'.2 - b.2 < sbusInterByteTimeoutMs

instance (n : ℕ) (stream : List TimedByte) : Decidable (InTime n stream) :=
  inferInstanceAs (Decidable (∀ k < n, _))

theorem inTime_succ (n : ℕ) (stream : List TimedByte) :
    InTime (n + 1) stream ↔
      (stream.take 25).IsChain (fun b b' => b'.2 - b.2 < sbusInterByteTimeoutMs) ∧
        InTime n (stream.drop 25) := by
  constructor
  · intro h
    refine ⟨h 0 (Nat.succ_pos n), ?_⟩
    intro k hk
    have hchunk := h (k + 1) (Nat.succ_lt_succ hk)
    rwa [Nat.mul_succ, Nat.add_comm, ← List.drop_drop] at hchunk
  · intro ⟨hfirst, hrest⟩ k hk
    cases k with
    | zero => exact hfirst
    | succ k =>
      rw [Nat.mul_succ, Nat.add_comm, ← List.drop_drop]
      exact hrest k (Nat.lt_of_succ_lt_succ hk)

theorem length_bytesOf (frames : List SbusData) : (bytesOf frames).length = 25 * frames.length := by
  unfold bytesOf
  induction frames with
  | nil => rfl
  | cons frame frames ih =>
    rw [List.flatMap_cons, List.length_append, ih, length_sbusFrameBytes, List.length_cons]
    omega

theorem accepted_chunk (h : Tracks context []) {chunk : List TimedByte} {frame : SbusData}
    (hbytes : chunk.map Prod.fst = sbusFrameBytes frame.1 frame.2)
    (hgaps : chunk.IsChain fun b b' => b'.2 - b.2 < sbusInterByteTimeoutMs) :
    acceptedTimed sbusProtocol context chunk = [sbusFrame frame.1.toList frame.2] ∧
      chunk.foldl advance [] = [] := by
  have hframe : IsFrame chunk frame.1.toList frame.2 :=
    ⟨hbytes.trans (sbusFrameBytes_eq _ _), Vector.length_toList, hgaps⟩
  obtain ⟨houtcomes, hempty⟩ := @outcomes_frame [] chunk _ _ hframe fun _ _ => ite_self _
  refine ⟨?_, hempty⟩
  have hlength := hframe.length_eq
  obtain rfl | ⟨bytes, last, rfl⟩ := List.eq_nil_or_concat' chunk
  · nomatch hlength
  have hlast : outcomes [] bytes = List.replicate 24 .inProgress ∧
      resultOf (bytes.foldl advance []) last = .frameReady := by
    rw [outcomes_append] at houtcomes
    obtain ⟨hfirst, hend⟩ := List.append_inj' houtcomes rfl
    exact ⟨hfirst, List.singleton_inj.mp hend⟩
  have hpart := framePart_nil.foldl bytes
  have hnone : acceptedTimed sbusProtocol context bytes = [] := by
    apply List.eq_nil_of_length_eq_zero
    rw [length_acceptedTimed h framePart_nil, readyCount, hlast.1]
    rfl
  have htracks := takeAll_tracks h framePart_nil bytes
  have hready := (processByte_tracks htracks hpart last.1 last.2).2.trans hlast.2
  obtain ⟨frame', data, flags, hsuffix, hisFrame, hget⟩ := frame_of_ready htracks hpart hready
  have hsame : frame' = bytes ++ [last] := by
    obtain ⟨dropped, hdropped⟩ := foldl_advance_suffix bytes []
    have hall : frame' <:+ bytes ++ [last] := by
      refine hsuffix.trans ⟨dropped, ?_⟩
      rw [← List.append_assoc, hdropped, List.nil_append]
    exact hall.eq_of_length (hisFrame.length_eq.trans hlength.symm)
  rw [hsame] at hisFrame
  obtain ⟨hdata, hflags⟩ := hisFrame.eq_of_bytes hframe.bytes
  have htake : (takeFrame sbusProtocol (takeAll sbusProtocol context bytes) last.1 last.2).1 =
      some (sbusFrame data flags) := by
    unfold takeFrame
    exact (congrArg Prod.fst (if_pos hready)).trans hget
  rw [acceptedTimed_append, hnone, acceptedTimed, acceptedTimed, htake, hdata, hflags]
  rfl

/-- **The frames of a stream are all decoded exactly when it is read in time.** -/
theorem accepted_stream (frames : List SbusData) {stream : List TimedByte}
    (hbytes : stream.map Prod.fst = bytesOf frames) (h : Tracks context []) :
    ((acceptedTimed sbusProtocol context stream).length = frames.length →
        InTime frames.length stream) ∧
      (InTime frames.length stream → acceptedTimed sbusProtocol context stream =
        frames.map fun frame => sbusFrame frame.1.toList frame.2) := by
  induction frames generalizing stream context with
  | nil =>
    have hnil : stream = [] := List.map_eq_nil_iff.mp hbytes
    rw [hnil]
    exact ⟨fun _ => nofun, fun _ => rfl⟩
  | cons frame frames ih =>
    have hcons : bytesOf (frame :: frames) = sbusFrameBytes frame.1 frame.2 ++ bytesOf frames := rfl
    have hfirst : (stream.take 25).map Prod.fst = sbusFrameBytes frame.1 frame.2 := by
      rw [List.map_take, hbytes, hcons]
      exact List.take_left' length_sbusFrameBytes
    have hrest : (stream.drop 25).map Prod.fst = bytesOf frames := by
      rw [List.map_drop, hbytes, hcons]
      exact List.drop_left' length_sbusFrameBytes
    have hlength : (stream.take 25).length = 25 := by
      rw [← List.length_map Prod.fst, hfirst, length_sbusFrameBytes]
    have hrestLength : (stream.drop 25).length = 25 * frames.length := by
      rw [← List.length_map Prod.fst, hrest, length_bytesOf]
    rw [← List.take_append_drop 25 stream, acceptedTimed_append, List.take_append_drop,
      List.length_cons, inTime_succ]
    constructor
    · intro hall
      have hpart := framePart_nil.foldl (stream.take 25)
      have htracks := takeAll_tracks h framePart_nil (stream.take 25)
      have hfirstReady := ready_le framePart_nil (stream.take 25)
      have hrestReady := ready_le hpart (stream.drop 25)
      have hmax := hpart.length
      rw [List.length_append, length_acceptedTimed h framePart_nil,
        length_acceptedTimed htracks hpart] at hall
      rw [hlength, List.length_nil] at hfirstReady
      rw [hrestLength] at hrestReady
      have hone : readyCount [] (stream.take 25) = 1 := by omega
      have hempty : (stream.take 25).foldl advance [] = [] := by
        apply List.eq_nil_of_length_eq_zero
        omega
      rw [hempty] at htracks hall
      refine ⟨gaps_of_ready hlength hone, (ih hrest htracks).1 ?_⟩
      rw [length_acceptedTimed htracks framePart_nil]
      omega
    · intro ⟨hgaps, hrestInTime⟩
      obtain ⟨haccepted, hempty⟩ := accepted_chunk h hfirst hgaps
      have htracks := takeAll_tracks h framePart_nil (stream.take 25)
      rw [hempty] at htracks
      rw [haccepted, (ih hrest htracks).2 hrestInTime]
      rfl

/-- All frames are decoded, and the service ends with the channels of the last. -/
structure DecodesAll (service : RcReceiverService SbusProtocolContext) (polls : List Poll)
    (frames : List SbusData) : Prop where
  count : (RcReceiverService.acceptedIn sbusProtocol service polls).length = frames.length
  channels : (RcReceiverService.processAll sbusProtocol service polls).latestFrame.channels =
    (frames.getLast?.map fun frame => sbusChannels frame.1.toList).getD
      service.latestFrame.channels

/-- **All frames are decoded exactly when each is read in time.** -/
theorem decodesAll_iff (nowMs failsafeTimeoutMs : UInt32) (frames : List SbusData)
    (polls : List Poll) (h : polls.flatMap Poll.bytes = bytesOf frames) :
    DecodesAll (.init sbusProtocol init nowMs failsafeTimeoutMs) polls frames ↔
      InTime frames.length (timedBytes polls) := by
  have hbytes : (timedBytes polls).map Prod.fst = bytesOf frames := by
    rw [← h, timedBytes, List.map_flatMap]
    congr 1
    funext poll
    rw [List.map_map]
    exact List.map_id poll.bytes
  have htracks : Tracks (RcReceiverService.init sbusProtocol init nowMs failsafeTimeoutMs).context
      [] := .waitHeader rfl
  obtain ⟨hforward, hbackward⟩ := accepted_stream frames hbytes htracks
  constructor
  · intro hall
    have hcount := hall.count
    rw [RcReceiverService.acceptedIn_eq] at hcount
    exact hforward hcount
  · intro htime
    have haccepted := hbackward htime
    rw [← RcReceiverService.acceptedIn_eq] at haccepted
    constructor
    · rw [haccepted, List.length_map]
    · rw [RcReceiverService.processAll_channels, haccepted, List.getLast?_map]
      cases frames.getLast? <;> rfl

def zeroFrames : List SbusData := [(Vector.replicate 22 0, 0), (Vector.replicate 22 0, 0)]

/-- The bytes cut behind byte `n`, read at two times. -/
def twoPolls (n lateMs : ℕ) : List Poll :=
  [⟨0, (bytesOf zeroFrames).take n, 0⟩, ⟨lateMs, (bytesOf zeroFrames).drop n, lateMs⟩]

/-- A frame that is read 4 ms later loses nothing. -/
theorem decodesAll_iff_soon :
    DecodesAll (.init sbusProtocol init 0 100) (twoPolls 30 4) zeroFrames := by
  have hcut : (twoPolls 30 4).flatMap Poll.bytes = bytesOf zeroFrames := by decide +kernel
  refine (decodesAll_iff 0 100 zeroFrames (twoPolls 30 4) hcut).mpr ?_
  decide +kernel

/-- The calls take the bytes of the frames, and the clock does not run backwards. -/
structure Delivers (polls : List Poll) (frames : List SbusData) : Prop where
  bytes : polls.flatMap Poll.bytes = bytesOf frames
  call : ∀ poll ∈ polls, poll.startMs ≤ poll.checkMs
  between : polls.IsChain fun poll poll' => poll.checkMs ≤ poll'.startMs

/-- **A frame that is cut between two calls 5 ms apart is lost.** -/
theorem late_frame_lost : ¬ ∀ (nowMs failsafeTimeoutMs : UInt32) (frames : List SbusData)
    (polls polls' : List Poll) (service : RcReceiverService SbusProtocolContext),
    service = .init sbusProtocol init nowMs failsafeTimeoutMs →
      Delivers polls frames → Delivers polls' frames →
      (RcReceiverService.acceptedIn sbusProtocol service polls).length = frames.length ∧
        (RcReceiverService.acceptedIn sbusProtocol service polls').length = frames.length ∧
        (RcReceiverService.processAll sbusProtocol service polls).latestFrame.channels =
          (RcReceiverService.processAll sbusProtocol service polls').latestFrame.channels := by
  intro hclaim
  have hlate : Delivers (twoPolls 30 5) zeroFrames := ⟨by decide +kernel, by decide, by decide⟩
  have hall := hclaim 0 100 zeroFrames _ _ _ rfl hlate hlate
  exact absurd hall.1 (by decide +kernel)

end SbusProtocolContext

end RadioConnection
