import RadioConnection.Radio.SbusFrames
import RadioConnection.Lib.Periodic

/-!
# Copies of one SBUS frame

Without a pause of the time-out the parser of `sbus_protocol.c` takes 25 bytes from
each header it finds, whatever lies between.  On back-to-back copies of one frame the
headers it starts from go from one to the next by 25 bytes, or by 24 when the byte in
the place of the footer is a header itself.

* `heldAt`: how many bytes of a frame the parser holds.
* `hops`: the gaps between the bytes that it starts from.
* `sbusResynchronises_iff`: every prefix resynchronises when each 0x0F of the frame
  follows another, up to the header.
-/

namespace RadioConnection.SbusProtocolContext

open Periodic (hop Hops)

def sbusFrameHead (data : Vector UInt8 22) (flags : UInt8) : List UInt8 :=
  sbusHeaderByte :: (data.toList ++ [flags])

def sbusFrameBytes (data : Vector UInt8 22) (flags : UInt8) : List UInt8 :=
  sbusFrameHead data flags ++ [sbusFooterByte]

theorem sbusFrameBytes_eq (data : Vector UInt8 22) (flags : UInt8) :
    sbusFrameBytes data flags =
      sbusHeaderByte :: (data.toList ++ [flags, sbusFooterByte]) := by
  simp [sbusFrameBytes, sbusFrameHead]

/-- The bytes from number `n` on, with the clock of each. -/
def timed (clock : ℕ → UInt32) : ℕ → List UInt8 → List TimedByte
  | _, [] => []
  | n, byte :: bytes => (byte, clock n) :: timed clock (n + 1) bytes

/-- Some copy of the frame, after the prefix, is published at its last byte. -/
def Resynchronises (clock : ℕ → UInt32) (pre : List UInt8) (data : Vector UInt8 22)
    (flags : UInt8) : Prop :=
  ∃ n, ∃ bytes context, bytes = pre ++ ((List.replicate n (sbusFrameBytes data flags)).flatten ++
      sbusFrameHead data flags) ∧
    context = feedTimed init (timed clock 0 bytes) ∧
    (processByte context sbusFooterByte (clock bytes.length)).1 = .frameReady ∧
    (getFrame (processByte context sbusFooterByte (clock bytes.length)).2).1 =
      some (sbusFrame data.toList flags)

variable {data : Vector UInt8 22} {flags : UInt8} {clock : ℕ → UInt32}

@[simp] theorem length_sbusFrameHead : (sbusFrameHead data flags).length = 24 := by
  simp [sbusFrameHead]

@[simp] theorem length_sbusFrameBytes : (sbusFrameBytes data flags).length = 25 := by
  simp [sbusFrameBytes]

theorem map_timed (n : ℕ) (bytes : List UInt8) : (timed clock n bytes).map Prod.fst = bytes := by
  induction bytes generalizing n with
  | nil => rfl
  | cons byte bytes ih => exact congrArg (byte :: ·) (ih (n + 1))

/-! ## How many bytes the parser holds -/

/-- What a byte without a pause before it does to that number. -/
def step (held : ℕ) (byte : UInt8) : ℕ :=
  if 0 < held ∧ held < 24 then held + 1
  else if byte = sbusHeaderByte then 1
  else 0

theorem length_advance {part : List TimedByte} {b : TimedByte} (hfresh : fresh part b.2 = part) :
    (advance part b).length = step part.length b.1 := by
  rw [advance, hfresh, step]
  have hiff : part ≠ [] ∧ part.length < 24 ↔ 0 < part.length ∧ part.length < 24 := by
    rw [List.length_pos_iff]
  simp only [hiff]
  split_ifs <;> simp

theorem advance_getLast (part : List TimedByte) (b : TimedByte) :
    ∀ last ∈ (advance part b).getLast?, last = b := by
  unfold advance
  intro last hlast
  split_ifs at hlast
  · rw [List.getLast?_concat] at hlast
    exact (Option.some.inj hlast).symm
  · exact (Option.some.inj hlast).symm
  · nomatch hlast

/-- **Without a pause the parser is the counter.** -/
theorem foldl_timed (hclock : ∀ k, clock (k + 1) - clock k < sbusInterByteTimeoutMs)
    (bytes : List UInt8) {n : ℕ} {part : List TimedByte} (hp : fresh part (clock n) = part) :
    ((timed clock n bytes).foldl advance part).length = bytes.foldl step part.length ∧
      fresh ((timed clock n bytes).foldl advance part) (clock (n + bytes.length)) =
        (timed clock n bytes).foldl advance part := by
  induction bytes generalizing n part with
  | nil => exact ⟨rfl, hp⟩
  | cons byte bytes ih =>
    have hnext : fresh (advance part (byte, clock n)) (clock (n + 1)) =
        advance part (byte, clock n) := by
      refine if_neg fun ⟨last, hlast, hlate⟩ => ?_
      obtain rfl := advance_getLast part _ last hlast
      exact absurd hlate (UInt32.not_le.mpr (hclock n))
    obtain ⟨hlength, hlast⟩ := ih hnext
    have hfirst : (advance part (byte, clock n)).length = step part.length byte :=
      length_advance hp
    have hindex : n + (byte :: bytes).length = n + 1 + bytes.length := by
      rw [List.length_cons]
      omega
    rw [hindex]
    exact ⟨hlength.trans (congrArg (bytes.foldl step) hfirst), hlast⟩

/-! ## The stream of copies -/

/-- Byte `t` of the copies. -/
def byteAt (data : Vector UInt8 22) (flags : UInt8) (t : ℕ) : UInt8 :=
  (sbusFrameBytes data flags).getD (t % 25) 0

/-- How many bytes the parser holds after `t` bytes of the copies. -/
def heldAt (data : Vector UInt8 22) (flags : UInt8) (held : ℕ) : ℕ → ℕ :=
  Periodic.run step (byteAt data flags) held

/-- The parser starts a frame with byte `t`. -/
def Starts (data : Vector UInt8 22) (flags : UInt8) (held t : ℕ) : Prop :=
  heldAt data flags held (t + 1) = 1

/-- The gap after a byte that the parser starts from. -/
def gap (data : Vector UInt8 22) (flags : UInt8) (i : ℕ) : ℕ :=
  if byteAt data flags (i + 24) = sbusHeaderByte then 24 else 25

variable {held t : ℕ}

theorem heldAt_succ (held t : ℕ) :
    heldAt data flags held (t + 1) = step (heldAt data flags held t) (byteAt data flags t) := rfl

theorem byteAt_mod (t d : ℕ) : byteAt data flags (t % 25 + d) = byteAt data flags (t + d) := by
  rw [byteAt, byteAt, Nat.mod_add_mod]

theorem byteAt_copy (n : ℕ) {i : ℕ} (hi : i < 25) :
    byteAt data flags (25 * n + i) = (sbusFrameBytes data flags).get ⟨i, by simpa using hi⟩ := by
  rw [byteAt, Nat.mul_add_mod, Nat.mod_eq_of_lt hi]
  simp [hi]

theorem byteAt_header (n : ℕ) : byteAt data flags (25 * n) = sbusHeaderByte :=
  byteAt_copy n (by decide : 0 < 25)

theorem byteAt_footer : byteAt data flags 24 = sbusFooterByte := by
  rw [byteAt, sbusFrameBytes, List.getD_append_right _ _ _ _ (by simp)]
  simp

theorem Starts.header (h : Starts data flags held t) : byteAt data flags t = sbusHeaderByte := by
  by_contra hne
  unfold Starts at h
  rw [heldAt_succ, step, if_neg hne] at h
  split_ifs at h with hpos
  omega

theorem heldAt_add (hpos : 0 < heldAt data flags held t) (d : ℕ)
    (hd : heldAt data flags held t + d ≤ 24) :
    heldAt data flags held (t + d) = heldAt data flags held t + d := by
  induction d with
  | zero => rfl
  | succ d ih =>
    have hprev := ih (by omega)
    rw [← Nat.add_assoc, heldAt_succ, hprev, step, if_pos (by omega), Nat.add_assoc]

theorem starts_of_heldAt (h : heldAt data flags held (t + 24) = 24) : Starts data flags held t := by
  have hback : ∀ d ≤ 23, heldAt data flags held (t + 24 - d) = 24 - d := by
    intro d hd
    induction d with
    | zero => exact h
    | succ d ih =>
      have hnext := ih (by omega)
      rw [show t + 24 - d = t + 24 - (d + 1) + 1 by omega, heldAt_succ, step] at hnext
      split_ifs at hnext <;> omega
  exact hback 23 le_rfl

theorem Starts.heldAt (h : Starts data flags held t) : heldAt data flags held (t + 24) = 24 := by
  have hone : SbusProtocolContext.heldAt data flags held (t + 1) = 1 := h
  have hrun := heldAt_add (t := t + 1) (by rw [hone]; decide) 23 (by rw [hone])
  rw [hone] at hrun
  exact hrun

/-- **The bytes that the parser starts from.** -/
theorem hops (data : Vector UInt8 22) (flags : UInt8) (held : ℕ) :
    Hops (Starts data flags held) 25 (gap data flags) := by
  have hgap : ∀ t, gap data flags (t % 25) = gap data flags t := by
    intro t
    rw [gap, gap, byteAt_mod]
  refine ⟨?_, ?_, ?_⟩
  · intro i
    unfold gap
    split_ifs <;> decide
  · intro t ht
    have hfull := ht.heldAt
    have hnext := @heldAt_succ data flags held (t + 24)
    rw [hfull] at hnext
    rw [hgap, gap]
    split_ifs with hheader
    · rw [hheader] at hnext
      exact hnext
    · have hzero : heldAt data flags held (t + 25) = 0 := by
        rw [hnext, step, if_neg (by decide), if_neg hheader]
      have hbyte : byteAt data flags (t + 25) = sbusHeaderByte := by
        rw [byteAt, Nat.add_mod_right]
        exact ht.header
      rw [Starts, heldAt_succ, hzero, hbyte]
      rfl
  · intro t ht d hpos hd hstarts
    have hone : heldAt data flags held (t + 1) = 1 := ht
    rw [hgap, gap] at hd
    by_cases hlate : d = 24
    · subst hlate
      split_ifs at hd with hheader
      · omega
      · exact hheader hstarts.header
    · have hrun := heldAt_add (t := t + 1) (by rw [hone]; decide) d (by split_ifs at hd <;> omega)
      have hagain : heldAt data flags held (t + d + 1) = 1 := hstarts
      rw [show t + 1 + d = t + d + 1 by omega, hone, hagain] at hrun
      omega

/-! ## The parser on the copies -/

def heldAfter (pre : List UInt8) : ℕ := pre.foldl step 0

theorem foldl_step_copies (n : ℕ) :
    ((List.replicate n (sbusFrameBytes data flags)).flatten ++
        sbusFrameHead data flags).foldl step held =
      heldAt data flags held (25 * n + 24) := by
  have hhead : ∀ i (hi : i < (sbusFrameHead data flags).length),
      (sbusFrameHead data flags).get ⟨i, hi⟩ = byteAt data flags (25 * n + i) := by
    intro i hi
    have hi' : i < 24 := by simpa using hi
    rw [byteAt_copy n (by omega)]
    simp only [sbusFrameBytes, List.get_eq_getElem]
    rw [List.getElem_append_left hi]
  rw [List.foldl_append, Periodic.foldl_copies length_sbusFrameBytes, Periodic.foldl_run _ _ hhead,
    length_sbusFrameHead, heldAt]
  intro n i hi
  exact (byteAt_copy n (by simpa using hi)).symm

theorem held_copies (hclock : ∀ k, clock (k + 1) - clock k < sbusInterByteTimeoutMs)
    (pre : List UInt8) (n : ℕ) {bytes : List UInt8}
    (hbytes : bytes = pre ++ ((List.replicate n (sbusFrameBytes data flags)).flatten ++
      sbusFrameHead data flags)) :
    Tracks (feedTimed init (timed clock 0 bytes)) ((timed clock 0 bytes).foldl advance []) ∧
      FramePart ((timed clock 0 bytes).foldl advance []) ∧
      fresh ((timed clock 0 bytes).foldl advance []) (clock bytes.length) =
        (timed clock 0 bytes).foldl advance [] ∧
      ((timed clock 0 bytes).foldl advance []).length =
        heldAt data flags (heldAfter pre) (25 * n + 24) := by
  have hempty : fresh [] (clock 0) = [] := ite_self _
  have hinit : Tracks init [] := .waitHeader rfl
  obtain ⟨hlength, hfresh⟩ := foldl_timed hclock bytes hempty
  have htracks := (results_eq_outcomes hinit framePart_nil (timed clock 0 bytes)).1
  rw [Nat.zero_add] at hfresh
  refine ⟨htracks, framePart_nil.foldl _, hfresh, ?_⟩
  rw [hlength, hbytes, List.foldl_append, foldl_step_copies]
  rfl

/-- What the parser holds behind the head of a copy is this head. -/
theorem map_of_suffix {bytes : List UInt8} {part : List TimedByte} {n : ℕ}
    (hpart : part <:+ timed clock n bytes) (hhead : sbusFrameHead data flags <:+ bytes)
    (hlength : part.length = 24) : part.map Prod.fst = sbusFrameHead data flags := by
  have hmap : part.map Prod.fst <:+ bytes := by
    have hsuffix := hpart.map Prod.fst
    rwa [map_timed] at hsuffix
  have hsame : (part.map Prod.fst).length = (sbusFrameHead data flags).length := by
    rw [List.length_map, hlength, length_sbusFrameHead]
  exact (List.suffix_of_suffix_length_le hmap hhead hsame.le).eq_of_length hsame

theorem frame_of_head {part frame : List TimedByte} {nowMs : UInt32} {data' : List UInt8}
    {flags' : UInt8} (hpart : part.map Prod.fst = sbusFrameHead data flags)
    (hsuffix : frame <:+ part ++ [(sbusFooterByte, nowMs)]) (hframe : IsFrame frame data' flags') :
    data' = data.toList ∧ flags' = flags := by
  have hwhole : frame = part ++ [(sbusFooterByte, nowMs)] := by
    apply hsuffix.eq_of_length
    rw [hframe.length_eq, List.length_append, ← List.length_map Prod.fst, hpart,
      length_sbusFrameHead]
    rfl
  apply hframe.eq_of_bytes
  rw [hwhole, List.map_append, hpart, ← sbusFrameBytes_eq]
  rfl

/-- **A copy is published exactly when the parser starts from its header.** -/
theorem resynchronises_iff_starts
    (hclock : ∀ k, clock (k + 1) - clock k < sbusInterByteTimeoutMs) (pre : List UInt8) :
    Resynchronises clock pre data flags ↔
      ∃ n, Starts data flags (heldAfter pre) (25 * n) := by
  constructor
  · rintro ⟨n, bytes, context, hbytes, hcontext, hready, _⟩
    subst hcontext
    obtain ⟨htracks, hpart, hfresh, hlength⟩ := held_copies hclock pre n hbytes
    refine ⟨n, starts_of_heldAt ?_⟩
    rw [(processByte_tracks htracks hpart _ _).2, resultOf, hfresh] at hready
    rw [← hlength]
    have hmax := hpart.length
    split_ifs at hready with _ _ hshort
    omega
  · rintro ⟨n, hstarts⟩
    refine ⟨n, _, _, rfl, rfl, ?_⟩
    obtain ⟨htracks, hpart, hfresh, hlength⟩ :=
      held_copies hclock pre n (Eq.refl (pre ++
        ((List.replicate n (sbusFrameBytes data flags)).flatten ++ sbusFrameHead data flags)))
    generalize hbytes : pre ++ ((List.replicate n (sbusFrameBytes data flags)).flatten ++
      sbusFrameHead data flags) = bytes at htracks hpart hfresh hlength ⊢
    rw [hstarts.heldAt] at hlength
    have hready : (processByte (feedTimed init (timed clock 0 bytes)) sbusFooterByte
        (clock bytes.length)).1 = .frameReady := by
      have hne : (timed clock 0 bytes).foldl advance [] ≠ [] := by
        intro hnil
        rw [hnil] at hlength
        cases hlength
      rw [(processByte_tracks htracks hpart _ _).2, resultOf, hfresh, if_neg hne,
        if_neg (by omega), if_pos rfl]
    refine ⟨hready, ?_⟩
    obtain ⟨frame, data', flags', hframe, hisFrame, hget⟩ :=
      frame_of_ready htracks hpart hready
    have hhead : sbusFrameHead data flags <:+ bytes := by
      rw [← hbytes, ← List.append_assoc]
      exact List.suffix_append _ _
    have hheld := map_of_suffix (foldl_advance_suffix (timed clock 0 bytes) []) hhead hlength
    obtain ⟨hdata, hflags⟩ := frame_of_head hheld hframe hisFrame
    rw [hget, hdata, hflags]

/-! ## The orbits -/

/-- When each 0x0F follows another, the starts go back to the header. -/
theorem orbit_of_contiguous
    (h : ∀ j < 24, byteAt data flags (j + 1) = sbusHeaderByte →
      byteAt data flags j = sbusHeaderByte) {i : ℕ} (hi : i < 25)
    (hheader : byteAt data flags i = sbusHeaderByte) :
    ∃ k, (hop 25 (gap data flags))^[k] i = 0 := by
  induction i with
  | zero => exact ⟨0, rfl⟩
  | succ i ih =>
    have hbefore := h i (by omega) hheader
    obtain ⟨k, hk⟩ := ih (by omega) hbefore
    have hwrap : byteAt data flags (i + 1 + 24) = byteAt data flags i := by
      rw [byteAt, byteAt, show i + 1 + 24 = i + 25 by omega, Nat.add_mod_right]
    have hhop : hop 25 (gap data flags) (i + 1) = i := by
      rw [hop, gap, hwrap, if_pos hbefore]
      omega
    exact ⟨k + 1, by rw [Function.iterate_succ_apply, hhop, hk]⟩

/-- The parser starts from some byte, whatever it holds when the copies begin. -/
theorem starts (data : Vector UInt8 22) (flags : UInt8) (held : ℕ) :
    ∃ t, Starts data flags held t := by
  by_contra hnone
  have hzero : ∃ t, heldAt data flags held t = 0 := by
    by_contra hheld
    have hgrows : ∀ t, t < heldAt data flags held t := by
      intro t
      induction t with
      | zero => exact Nat.pos_of_ne_zero fun h => hheld ⟨0, h⟩
      | succ t ih =>
        have hnext := @heldAt_succ data flags held t
        rw [step] at hnext
        split_ifs at hnext with hshort hheader
        · omega
        · exact absurd ⟨t, hnext⟩ hnone
        · exact absurd ⟨t + 1, hnext⟩ hheld
    have hmax : heldAt data flags held 25 ≤ 24 := by
      rw [heldAt_succ, step]
      split_ifs <;> omega
    exact absurd (hgrows 25) (by omega)
  obtain ⟨t, ht⟩ := hzero
  have hstays : ∀ d, heldAt data flags held (t + d) = 0 := by
    intro d
    induction d with
    | zero => exact ht
    | succ d ih =>
      have hnext := @heldAt_succ data flags held (t + d)
      rw [ih, step, if_neg (by decide)] at hnext
      split_ifs at hnext with hheader
      · exact absurd ⟨t + d, hnext⟩ hnone
      · exact hnext
  refine hnone ⟨25 * t, ?_⟩
  have hheld := hstays (24 * t)
  rw [show t + 24 * t = 25 * t by omega] at hheld
  rw [Starts, heldAt_succ, hheld, byteAt_header]
  rfl

/-- The header, and zeros up to a number of bytes. -/
def lockPrefix (m : ℕ) : List UInt8 := sbusHeaderByte :: List.replicate (m - 1) 0

theorem heldAfter_lockPrefix {m : ℕ} (hm : 0 < m) (hm24 : m ≤ 24) :
    heldAfter (lockPrefix m) = m := by
  have hrun : ∀ (d : ℕ) {held : ℕ}, 0 < held → held + d ≤ 24 →
      (List.replicate d (0 : UInt8)).foldl step held = held + d := by
    intro d
    induction d with
    | zero => exact fun _ _ => rfl
    | succ d ih =>
      intro held hpos hd
      rw [List.replicate_succ, List.foldl_cons, step, if_pos (by omega),
        ih (by omega) (by omega)]
      omega
  have hall := @hrun (m - 1) 1 (by decide) (by omega)
  rw [Nat.add_sub_cancel' hm] at hall
  exact hall

/-- A 0x0F that follows another byte keeps some prefix from resynchronising. -/
theorem contiguous_of_resynchronises
    (hclock : ∀ k, clock (k + 1) - clock k < sbusInterByteTimeoutMs) {j : ℕ} (hj : j < 23)
    (hheader : byteAt data flags (j + 1) = sbusHeaderByte)
    (h : Resynchronises clock (lockPrefix (23 - j)) data flags) :
    byteAt data flags j = sbusHeaderByte := by
  obtain ⟨n, hn⟩ := (resynchronises_iff_starts hclock _).mp h
  rw [heldAfter_lockPrefix (by omega) (by omega)] at hn
  by_contra hother
  have hrun := @heldAt_add data flags (23 - j) 0
    (show 0 < 23 - j by omega) (j + 1) (show 23 - j + (j + 1) ≤ 24 by omega)
  have hfull : heldAt data flags (23 - j) (j + 1) = 24 := by
    rw [Nat.zero_add] at hrun
    rw [hrun]
    show 23 - j + (j + 1) = 24
    omega
  have hstart : Starts data flags (23 - j) (j + 1) := by
    rw [Starts, heldAt_succ, hfull, hheader]
    rfl
  have hlater : j + 1 ≤ 25 * n := by
    by_contra hlt
    obtain rfl : n = 0 := by omega
    have hfirst : heldAt data flags (23 - j) 1 = 23 - j + 1 := by
      have := @heldAt_add data flags (23 - j) 0
        (show 0 < 23 - j by omega) 1 (show 23 - j + 1 ≤ 24 by omega)
      exact this
    have hone : heldAt data flags (23 - j) 1 = 1 := hn
    omega
  obtain ⟨k, hk⟩ := ((hops data flags (23 - j)).aligned_iff hstart).mp
    ⟨25 * n, hlater, hn, Nat.mul_mod_right 25 n⟩
  have hwrap : byteAt data flags (j + 1 + 24) = byteAt data flags j := by
    rw [byteAt, byteAt, show j + 1 + 24 = j + 25 by omega, Nat.add_mod_right]
  have hfixed : hop 25 (gap data flags) (j + 1) = j + 1 := by
    rw [hop, gap, hwrap, if_neg hother]
    omega
  rw [Nat.mod_eq_of_lt (by omega), Function.iterate_fixed hfixed k] at hk
  cases hk

/-- **Every prefix resynchronises exactly when each 0x0F of the frame follows another.** -/
theorem sbusResynchronises_iff (clock : ℕ → UInt32)
    (hclock : ∀ k, clock (k + 1) - clock k < sbusInterByteTimeoutMs) (data : Vector UInt8 22)
    (flags : UInt8) :
    (∀ pre, Resynchronises clock pre data flags) ↔
      ∀ j < 24, byteAt data flags (j + 1) = sbusHeaderByte →
        byteAt data flags j = sbusHeaderByte := by
  constructor
  · intro h j hj hheader
    have hlast : j ≠ 23 := by
      intro heq
      rw [heq, byteAt_footer] at hheader
      nomatch hheader
    exact contiguous_of_resynchronises hclock (by omega) hheader (h _)
  · intro h pre
    obtain ⟨t, ht⟩ := starts data flags (heldAfter pre)
    have hheader : byteAt data flags (t % 25) = sbusHeaderByte := by
      have hmod := @byteAt_mod data flags t 0
      rw [Nat.add_zero, Nat.add_zero] at hmod
      rw [hmod]
      exact ht.header
    have horbit := orbit_of_contiguous h (Nat.mod_lt t (by decide)) hheader
    obtain ⟨u, -, hu, hmod⟩ := ((hops data flags (heldAfter pre)).aligned_iff ht).mpr horbit
    refine (resynchronises_iff_starts hclock pre).mpr ⟨u / 25, ?_⟩
    rw [Nat.mul_div_cancel' (Nat.dvd_of_mod_eq_zero hmod)]
    exact hu

/-- A frame with one 0x0F in its data. -/
def lockingData : Vector UInt8 22 :=
  #v[0, 0, 0, 0, 0x0F, 0, 0, 0, 0, 0, 0, 0, 0, 0, 0, 0, 0, 0, 0, 0, 0, 0]

def stoppedClock (_ : ℕ) : UInt32 := 0

theorem stoppedClock_gap (k : ℕ) :
    stoppedClock (k + 1) - stoppedClock k < sbusInterByteTimeoutMs := by
  show (0 : UInt32) - 0 < sbusInterByteTimeoutMs
  decide

theorem sbusResynchronises_iff_zeros :
    Resynchronises stoppedClock (lockPrefix 7) (Vector.replicate 22 0) 0 := by
  refine (sbusResynchronises_iff stoppedClock stoppedClock_gap (Vector.replicate 22 0) 0).mpr ?_ _
  decide

/-- **A parser that starts from that byte never leaves it.** -/
theorem lockingData_never : ¬ ∀ (clock : ℕ → UInt32) (pre : List UInt8) (data : Vector UInt8 22)
    (flags : UInt8), (∀ k, clock (k + 1) - clock k < sbusInterByteTimeoutMs) →
      Resynchronises clock pre data flags := by
  intro hclaim
  have hbefore := @contiguous_of_resynchronises lockingData 0 stoppedClock stoppedClock_gap 4
    (by decide) (by decide) (hclaim stoppedClock _ lockingData 0 stoppedClock_gap)
  exact absurd hbefore (by decide)

end RadioConnection.SbusProtocolContext
