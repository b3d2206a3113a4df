import RadioConnection.Radio.Crsf

/-!
# Device pings

A CRSF device asks who is there with a ping, which the parser remembers until
`crsf_protocol_take_device_ping` takes it.

* `FrameEnd`: how a frame ends, read off its bytes.
* `processByte_ping`: what one byte does to the ping that waits.
* `ping_taken_iff`: when a ping is taken.
-/

namespace RadioConnection

namespace CrsfProtocolContext

/-! ## The ends of frames -/

inductive FrameEnd
  | badLength | badCrc | pingLength | pingElsewhere
  | ping (origin : UInt8)
  | rcChannels | unsupported
  deriving DecidableEq, Repr

/-- The end of a frame of length `l`; `body` is its type and payload, `crc` its last byte. -/
def frameEndOf (l : UInt8) (body : List UInt8) (crc : UInt8) : FrameEnd :=
  if crsfCrc8DvbS2 body ≠ crc then .badCrc
  else if body.getD 0 0 = crsfFrameTypeParameterPing then
    if l ≠ crsfExtendedPingFrameLength then .pingLength
    else if body.getD 1 0 = crsfAddressFlightCtrl ∨ body.getD 1 0 = 0 then .ping (body.getD 2 0)
    else .pingElsewhere
  else if body.getD 0 0 = crsfFrameTypeRcChannelsPacked then .rcChannels
  else .unsupported

/-- The end that `byte` makes of a part of a frame. -/
def frameEnd : List UInt8 → UInt8 → Option FrameEnd
  | [], _ => none
  | [_], byte => if IsLength byte then none else some .badLength
  | _ :: l :: body, byte =>
    if l.toNat ≤ body.length + 1 then some (frameEndOf l body byte) else none

namespace FrameEnd

def IsPing : FrameEnd → Prop
  | .ping _ => True
  | _ => False

/-- The frame ends with `crsf_protocol_reset`, not with `crsf_parser_reset`. -/
def Clears : FrameEnd → Prop
  | .badLength | .badCrc | .rcChannels | .unsupported => True
  | _ => False

def origin : FrameEnd → Option UInt8
  | .ping origin => some origin
  | _ => none

def pending : Option UInt8 → FrameEnd → Option UInt8
  | _, .ping origin => some origin
  | waiting, .pingLength => waiting
  | waiting, .pingElsewhere => waiting
  | _, .badLength | _, .badCrc | _, .rcChannels | _, .unsupported => none

end FrameEnd

/-- The ping that waits after a byte. -/
def pendingAfter (waiting : Option UInt8) (w : List UInt8) (byte : UInt8) : Option UInt8 :=
  match frameEnd w byte with
  | none => waiting
  | some e => e.pending waiting

/-! ## One byte -/

variable {ctx : CrsfProtocolContext} {w body : List UInt8} {byte : UInt8}

theorem takeDevicePing_congr {ctx' : CrsfProtocolContext}
    (hp : ctx'.devicePingPending = ctx.devicePingPending)
    (ho : ctx'.devicePingOrigin = ctx.devicePingOrigin) :
    ctx'.takeDevicePing.1 = ctx.takeDevicePing.1 := by
  unfold takeDevicePing
  rw [hp, ho]
  split <;> rfl

theorem Holds.getD (h : Holds ctx body byte) {i : ℕ} (hi : i < body.length) :
    ctx.bufferAt (2 + i) = body.getD i 0 := by
  rw [h.bytes i hi, List.getD_eq_getElem _ _ hi]
  rfl

theorem processFrame_ping (h : Holds ctx body byte) (hne : body ≠ [])
    (hlen : body.length + 1 = ctx.expectedLength.toNat) :
    (processFrame ctx).2.takeDevicePing.1 =
      (frameEndOf ctx.expectedLength body byte).pending ctx.takeDevicePing.1 := by
  have htype : ctx.bufferAt 2 = body.getD 0 0 := h.getD (List.length_pos_iff.mpr hne)
  have hother : ∀ i, 2 ≤ i → i < 2 + body.length → ctx.bufferAt i = body.getD (i - 2) 0 := by
    intro i hmin hmax
    rw [← h.getD (by omega), Nat.add_sub_cancel' hmin]
  have hfour : ctx.expectedLength = crsfExtendedPingFrameLength → body.length = 3 := by
    intro hl
    have hnat : body.length + 1 = 4 := by
      rw [hlen, hl]
      rfl
    omega
  change (if crsfCrc8DvbS2 ctx.crcData ≠ ctx.bufferAt (ctx.framePos - 1).toNat then _
    else if ctx.bufferAt 2 = crsfFrameTypeParameterPing then
      if ctx.expectedLength ≠ crsfExtendedPingFrameLength then _
      else if ctx.bufferAt 3 = crsfAddressFlightCtrl ∨ ctx.bufferAt 3 = 0 then _ else _
    else if ctx.bufferAt 2 = crsfFrameTypeRcChannelsPacked then _
    else _ : RadioParseResult × CrsfProtocolContext).2.takeDevicePing.1 = _
  rw [h.crcData, h.expectedCrc, htype, frameEndOf]
  by_cases hcrc : crsfCrc8DvbS2 body ≠ byte
  · rw [if_pos hcrc, if_pos hcrc]
    rfl
  rw [if_neg hcrc, if_neg hcrc]
  by_cases hping : body.getD 0 0 = crsfFrameTypeParameterPing
  · rw [if_pos hping, if_pos hping]
    by_cases hl : ctx.expectedLength ≠ crsfExtendedPingFrameLength
    · rw [if_pos hl, if_pos hl]
      exact takeDevicePing_congr rfl rfl
    have hthree := hfour (not_not.mp hl)
    rw [if_neg hl, if_neg hl, hother 3 (by omega) (by omega)]
    by_cases hd : body.getD 1 0 = crsfAddressFlightCtrl ∨ body.getD 1 0 = 0
    · rw [if_pos hd, if_pos hd]
      exact congrArg some (hother 4 (by omega) (by omega))
    · rw [if_neg hd, if_neg hd]
      exact takeDevicePing_congr rfl rfl
  rw [if_neg hping, if_neg hping]
  by_cases hrc : body.getD 0 0 = crsfFrameTypeRcChannelsPacked
  · rw [if_pos hrc, if_pos hrc]
    rfl
  · rw [if_neg hrc, if_neg hrc]
    rfl

/-- **What one byte does to the ping that waits.** -/
theorem processByte_ping (h : Tracks ctx w) (byte : UInt8) :
    (processByte ctx byte).2.takeDevicePing.1 = pendingAfter ctx.takeDevicePing.1 w byte := by
  cases h with
  | address hs =>
    by_cases ha : IsAddress byte
    · rw [processByte_address hs ha]
      exact takeDevicePing_congr rfl rfl
    · rw [processByte_not_address hs ha]
      rfl
  | length a hs ha hb =>
    by_cases hl : IsLength byte
    · rw [processByte_length hs hl, pendingAfter, frameEnd, if_pos hl]
      exact takeDevicePing_congr rfl rfl
    · rw [processByte_not_length hs hl, pendingAfter, frameEnd, if_neg hl]
      rfl
  | payload a l body hs ha hl hbody hlength hpos hb =>
    by_cases hlen : l.toNat ≤ body.length + 1
    · have hcomplete : body.length + 1 = l.toNat := by omega
      obtain ⟨hholds, hne, heq⟩ :=
        processByte_complete (.payload a l body hs ha hl hbody hlength hpos hb) hcomplete byte
      subst hlength
      rw [heq, processFrame_ping hholds hne hcomplete, pendingAfter, frameEnd, if_pos hlen]
      exact congrArg (FrameEnd.pending · _) (takeDevicePing_congr rfl rfl)
    · subst hlength
      rw [processByte_payload hs hl hpos hbody, if_neg hlen, pendingAfter, frameEnd, if_neg hlen]
      exact takeDevicePing_congr rfl rfl

/-! ## Runs -/

/-- What a receiver does with the parser between two looks at the ping. -/
inductive CrsfCall
  | byte (byte : UInt8)
  | getFrame
  deriving DecidableEq, Repr

def call (ctx : CrsfProtocolContext) : CrsfCall → CrsfProtocolContext
  | .byte byte => (ctx.processByte byte).2
  | .getFrame => ctx.getFrame.2

/-- The part of a frame after a call. -/
def part (w : List UInt8) : CrsfCall → List UInt8
  | .byte byte => advance w byte
  | .getFrame => w

def ends : List UInt8 → List CrsfCall → List FrameEnd
  | _, [] => []
  | w, .byte byte :: calls => (frameEnd w byte).toList ++ ends (advance w byte) calls
  | w, .getFrame :: calls => ends w calls

theorem getFrame_ping (ctx : CrsfProtocolContext) :
    ctx.getFrame.2.takeDevicePing.1 = ctx.takeDevicePing.1 := by
  apply takeDevicePing_congr <;> (unfold getFrame; split <;> rfl)

theorem getFrame_tracks (h : Tracks ctx w) : Tracks ctx.getFrame.2 w := by
  refine h.congr ?_ ?_ ?_ ?_ <;> (unfold getFrame; split <;> rfl)

theorem call_tracks (h : Tracks ctx w) (c : CrsfCall) : Tracks (call ctx c) (part w c) := by
  cases c with
  | byte byte => exact processByte_tracks h byte
  | getFrame => exact getFrame_tracks h

theorem calls_tracks (h : Tracks ctx w) (calls : List CrsfCall) :
    Tracks (calls.foldl call ctx) (calls.foldl part w) := by
  induction calls generalizing ctx w with
  | nil => exact h
  | cons c calls ih => exact ih (call_tracks h c)

/-- **The ping that waits after some calls.** -/
theorem calls_ping (h : Tracks ctx w) (calls : List CrsfCall) :
    (calls.foldl call ctx).takeDevicePing.1 =
      (ends w calls).foldl FrameEnd.pending ctx.takeDevicePing.1 := by
  induction calls generalizing ctx w with
  | nil => rfl
  | cons c calls ih =>
    rw [List.foldl_cons, ih (call_tracks h c)]
    cases c with
    | byte byte =>
      rw [ends, List.foldl_append]
      apply congrArg (List.foldl FrameEnd.pending · _)
      rw [call, processByte_ping h, pendingAfter]
      cases frameEnd w byte <;> rfl
    | getFrame => exact congrArg (List.foldl FrameEnd.pending · _) (getFrame_ping ctx)

/-! ## The last ping -/

/-- The origin of the last ping of `ends`, which come after a ping from `origin`. -/
def lastOrigin (origin : UInt8) (ends : List FrameEnd) : UInt8 :=
  ends.foldl (fun last e => e.origin.getD last) origin

/-- After the last ping a frame ended that clears the ping. -/
def Cleared (ends : List FrameEnd) : Prop :=
  ∃ before e after, ends = before ++ e :: after ∧ e.Clears ∧ ∀ e' ∈ after, ¬ e'.IsPing

theorem cleared_concat {ends : List FrameEnd} {e : FrameEnd} :
    Cleared (ends ++ [e]) ↔ e.Clears ∨ ¬ e.IsPing ∧ Cleared ends := by
  constructor
  · rintro ⟨before, c, after, heq, hc, hafter⟩
    rcases List.eq_nil_or_concat after with rfl | ⟨rest, last, rfl⟩
    · obtain ⟨-, hlast⟩ := List.append_inj' heq rfl
      obtain rfl := List.singleton_inj.mp hlast
      exact .inl hc
    · rw [List.concat_eq_append, ← List.cons_append, ← List.append_assoc] at heq
      obtain ⟨rfl, hlast⟩ := List.append_inj' heq rfl
      obtain rfl := List.singleton_inj.mp hlast
      refine .inr ⟨hafter e (by simp), before, c, rest, rfl, hc, ?_⟩
      intro e' he'
      exact hafter e' (by simp [he'])
  · rintro (hc | ⟨hping, before, c, after, rfl, hc, hafter⟩)
    · exact ⟨ends, e, [], rfl, hc, fun e' he' => absurd he' List.not_mem_nil⟩
    · refine ⟨before, c, after ++ [e], by simp, hc, ?_⟩
      intro e' he'
      rcases List.mem_append.mp he' with he' | he'
      · exact hafter e' he'
      · obtain rfl := List.mem_singleton.mp he'
        exact hping

/-- The last ping waits exactly when nothing cleared it. -/
theorem foldl_pending_iff (origin : UInt8) (ends : List FrameEnd) :
    ends.foldl FrameEnd.pending (some origin) = some (lastOrigin origin ends) ↔ ¬ Cleared ends := by
  induction ends using List.reverseRecOn with
  | nil =>
    refine ⟨fun _ => ?_, fun _ => rfl⟩
    rintro ⟨before, e, after, heq, -⟩
    simp at heq
  | append_singleton ends e ih =>
    rw [List.foldl_append, cleared_concat, lastOrigin, List.foldl_append]
    cases e with
    | ping origin =>
      refine ⟨fun _ => ?_, fun _ => rfl⟩
      rintro (hc | ⟨hping, -⟩)
      · exact hc
      · exact hping trivial
    | pingLength | pingElsewhere =>
      refine ih.trans ⟨fun h => ?_, fun h hc => h (.inr ⟨id, hc⟩)⟩
      rintro (hc | ⟨-, hc⟩)
      · exact hc
      · exact h hc
    | _ => exact ⟨nofun, fun h => absurd (.inl trivial) h⟩

theorem foldl_pending_none {ends : List FrameEnd} (h : ∀ e ∈ ends, ¬ e.IsPing) :
    ends.foldl FrameEnd.pending none = none := by
  induction ends with
  | nil => rfl
  | cons e ends ih =>
    have hnone : FrameEnd.pending none e = none := by
      cases e with
      | ping origin => exact absurd trivial (h _ (.head ends))
      | _ => rfl
    rw [List.foldl_cons, hnone]
    exact ih fun e' he' => h e' (.tail e he')

/-! ## Pings -/

/-- `w` is a ping from `origin` to the flight controller or to every device. -/
def IsPingFrame (w : List UInt8) (origin : UInt8) : Prop :=
  ∃ destination, (destination = crsfAddressFlightCtrl ∨ destination = 0) ∧
    IsFrame w crsfExtendedPingFrameLength [crsfFrameTypeParameterPing, destination, origin]

theorem frameEnd_ping {origin : UInt8} (h : IsPingFrame (w ++ [byte]) origin) :
    frameEnd w byte = some (.ping origin) ∧ advance w byte = [] := by
  obtain ⟨destination, hd, -, a, -, heq⟩ := h
  have hsplit : w ++ [byte] = [a, 4, crsfFrameTypeParameterPing, destination, origin] ++
      [crsfCrc8DvbS2 [crsfFrameTypeParameterPing, destination, origin]] := heq
  obtain ⟨rfl, hlast⟩ := List.append_inj' hsplit rfl
  obtain rfl := List.singleton_inj.mp hlast
  have hof : frameEndOf crsfExtendedPingFrameLength
      [crsfFrameTypeParameterPing, destination, origin]
      (crsfCrc8DvbS2 [crsfFrameTypeParameterPing, destination, origin]) = .ping origin := by
    unfold frameEndOf
    rw [if_neg (not_not.mpr rfl), if_pos (by rfl), if_neg (not_not.mpr rfl)]
    exact if_pos hd
  exact ⟨congrArg some hof, rfl⟩

theorem takeDevicePing_taken (ctx : CrsfProtocolContext) :
    ctx.takeDevicePing.2.takeDevicePing.1 = none := by
  unfold takeDevicePing
  split
  · simp
  · rfl

theorem takeDevicePing_tracks (h : Tracks ctx w) : Tracks ctx.takeDevicePing.2 w := by
  refine h.congr ?_ ?_ ?_ ?_ <;> (unfold takeDevicePing; split <;> rfl)

/-- **A ping is taken exactly when no frame after it clears it**, and no ping is taken twice. -/
theorem ping_taken_iff (h : Reach ctx w) {origin : UInt8} (hping : IsPingFrame (w ++ [byte]) origin)
    (calls : List CrsfCall) {after : CrsfProtocolContext}
    (hafter : after = calls.foldl call (ctx.processByte byte).2) :
    (after.takeDevicePing.1 = some (lastOrigin origin (ends [] calls)) ↔
      ¬ Cleared (ends [] calls)) ∧
    ∀ calls', (∀ e ∈ ends (calls.foldl part []) calls', ¬ e.IsPing) →
      (calls'.foldl call after.takeDevicePing.2).takeDevicePing.1 = none := by
  subst hafter
  obtain ⟨hend, hnil⟩ := frameEnd_ping hping
  have hbyte := processByte_tracks h.tracks byte
  have hwaits := processByte_ping h.tracks byte
  rw [hnil] at hbyte
  rw [pendingAfter, hend] at hwaits
  constructor
  · rw [calls_ping hbyte, hwaits]
    exact foldl_pending_iff origin _
  · intro calls' hno
    have htracks := takeDevicePing_tracks (calls_tracks hbyte calls)
    rw [calls_ping htracks, takeDevicePing_taken]
    exact foldl_pending_none hno

/-- A ping to the flight controller from `0xEA`, without its last byte. -/
def pingHead : List UInt8 := [0xC8, 4, crsfFrameTypeParameterPing, 0xC8, 0xEA]

def pingCrc : UInt8 := crsfCrc8DvbS2 [crsfFrameTypeParameterPing, 0xC8, 0xEA]

theorem pingHead_reach : Reach (crsfProtocol.feed 0 init pingHead) pingHead :=
  Reach.init.feed 0 pingHead

theorem pingHead_frame : IsPingFrame (pingHead ++ [pingCrc]) 0xEA :=
  ⟨0xC8, .inl rfl, rfl, 0xC8, .inl rfl, rfl⟩

/-- A ping, and another one behind garbage. -/
theorem ping_taken_again :
    ((([0xFF, 0] ++ pingHead ++ [pingCrc]).map CrsfCall.byte).foldl call
      (processByte (crsfProtocol.feed 0 init pingHead) pingCrc).2).takeDevicePing.1 =
        some 0xEA := by
  have hends : ends [] (([0xFF, 0] ++ pingHead ++ [pingCrc]).map CrsfCall.byte) = [.ping 0xEA] := by
    decide +kernel
  have htaken := (ping_taken_iff pingHead_reach pingHead_frame
    (([0xFF, 0] ++ pingHead ++ [pingCrc]).map CrsfCall.byte) rfl).1
  rw [hends] at htaken
  refine htaken.mpr ?_
  rintro ⟨before, e, after, heq, hc, -⟩
  have hmem : e ∈ [FrameEnd.ping 0xEA] := by
    rw [heq]
    simp
  obtain rfl := List.mem_singleton.mp hmem
  exact hc

def centredFrame : List UInt8 := centredPrefix ++ [0xAD]

/-- **An RC channels frame behind a ping**: the ping is lost. -/
theorem ping_lost : ¬ ∀ (ctx : CrsfProtocolContext) (w : List UInt8) (byte origin : UInt8)
    (calls : List CrsfCall), Reach ctx w → IsPingFrame (w ++ [byte]) origin →
    (calls.foldl call (ctx.processByte byte).2).takeDevicePing.1 =
      some (lastOrigin origin (ends [] calls)) := by
  intro hclaim
  have htaken := hclaim _ _ _ _ (centredFrame.map CrsfCall.byte ++ [CrsfCall.getFrame])
    pingHead_reach pingHead_frame
  have hnone : ((centredFrame.map CrsfCall.byte ++ [CrsfCall.getFrame]).foldl call
      (processByte (crsfProtocol.feed 0 init pingHead) pingCrc).2).takeDevicePing.1 = none := by
    decide +kernel
  rw [hnone] at htaken
  cases htaken

end CrsfProtocolContext

end RadioConnection
