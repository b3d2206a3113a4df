import RadioConnection.Radio.Crsf
import RadioConnection.Lib.Periodic

/-!
# Copies of one frame

After a failed frame the parser drops the bytes it has taken and waits for the
next address byte.  On back-to-back copies of one RC channels frame it is hunting
at instants that go from one to the next by a gap that the bytes of the frame
alone decide (`gap`), so whether it ever comes back to the start of a copy is a
property of the orbits of `Periodic.hop`.

* `hops`: the gaps.
* `resynchronises_iff`: every prefix resynchronises when every orbit reaches the
  start of a copy.
-/

namespace RadioConnection.CrsfProtocolContext

open Periodic (hop Hops)

def rcFrame (a : UInt8) (p : Vector UInt8 22) : List UInt8 := rcFrameHead a p ++ [rcFrameCrc p]

variable {a : UInt8} {p : Vector UInt8 22}

@[simp] theorem length_rcFrameHead : (rcFrameHead a p).length = 25 := by simp [rcFrameHead]

@[simp] theorem length_rcFrame : (rcFrame a p).length = 26 := by simp [rcFrame]

/-- Some copy of the frame, after the prefix, is published at its last byte. -/
def Resynchronises (pre : List UInt8) (a : UInt8) (p : Vector UInt8 22) : Prop :=
  ∃ n, ∃ ctx, ctx = crsfProtocol.feed 0 init
      (pre ++ ((List.replicate n (rcFrame a p)).flatten ++ rcFrameHead a p)) ∧
    (processByte ctx (rcFrameCrc p)).1 = .frameReady ∧
    (processByte ctx (rcFrameCrc p)).2.getFrame.1 = some (crsfRcFrame p)

/-! ## The stream of copies -/

/-- Byte `t` of the copies. -/
def byteAt (a : UInt8) (p : Vector UInt8 22) (t : ℕ) : UInt8 := (rcFrame a p).getD (t % 26) 0

/-- The part of a frame that the parser holds after `t` bytes of the copies. -/
def partAt (a : UInt8) (p : Vector UInt8 22) (w : List UInt8) : ℕ → List UInt8
  | 0 => w
  | t + 1 => advance (partAt a p w t) (byteAt a p t)

/-- The gap after an instant at which the parser hunts. -/
def gap (a : UInt8) (p : Vector UInt8 22) (i : ℕ) : ℕ :=
  if ¬ IsAddress (byteAt a p i) then 1
  else if ¬ IsLength (byteAt a p (i + 1)) then 2
  else 2 + (byteAt a p (i + 1)).toNat

theorem byteAt_mod (t d : ℕ) : byteAt a p (t % 26 + d) = byteAt a p (t + d) := by
  rw [byteAt, byteAt, Nat.mod_add_mod]

theorem gap_mod (t : ℕ) : gap a p (t % 26) = gap a p t := by
  have hbyte : byteAt a p (t % 26) = byteAt a p t := byteAt_mod t 0
  rw [gap, gap, hbyte, byteAt_mod]

theorem gap_pos (i : ℕ) : 0 < gap a p i := by
  unfold gap
  split_ifs <;> omega

variable {w : List UInt8} {t : ℕ}

theorem partAt_address (hw : partAt a p w t = []) (ha : IsAddress (byteAt a p t)) :
    partAt a p w (t + 1) = [byteAt a p t] := by
  rw [partAt, hw]
  exact if_pos ha

theorem partAt_length {b : UInt8} (hw : partAt a p w t = [b]) (hl : IsLength (byteAt a p t)) :
    partAt a p w (t + 1) = [b, byteAt a p t] := by
  rw [partAt, hw]
  exact if_pos hl

theorem partAt_body {b l : UInt8} {body : List UInt8} (hw : partAt a p w t = b :: l :: body) (d : ℕ)
    (hd : body.length + d < l.toNat) :
    ∃ body', partAt a p w (t + d) = b :: l :: body' ∧ body'.length = body.length + d := by
  induction d with
  | zero => exact ⟨body, hw, rfl⟩
  | succ d ih =>
    obtain ⟨body', heq, hlen⟩ := ih (by omega)
    refine ⟨body' ++ [byteAt a p (t + d)], ?_, by simp [hlen]; omega⟩
    rw [← Nat.add_assoc, partAt, heq]
    exact if_neg (by omega)

theorem partAt_end {b l : UInt8} {body : List UInt8} (hw : partAt a p w t = b :: l :: body)
    (hl : body.length < l.toNat) : partAt a p w (t + (l.toNat - body.length)) = [] := by
  obtain ⟨body', heq, hlen⟩ := partAt_body hw (l.toNat - body.length - 1) (by omega)
  rw [show t + (l.toNat - body.length) = t + (l.toNat - body.length - 1) + 1 by omega, partAt, heq]
  exact if_pos (by omega)

/-- What the parser does from an instant at which it hunts to the next. -/
theorem partAt_gap (hw : partAt a p w t = []) :
    partAt a p w (t + gap a p t) = [] ∧
      ∀ d, 0 < d → d < gap a p t → partAt a p w (t + d) ≠ [] := by
  unfold gap
  by_cases ha : IsAddress (byteAt a p t)
  · have hone := partAt_address hw ha
    rw [if_neg (not_not.mpr ha)]
    by_cases hl : IsLength (byteAt a p (t + 1))
    · have htwo := partAt_length hone hl
      have hmin := hl.1
      rw [if_neg (not_not.mpr hl)]
      refine ⟨?_, ?_⟩
      · rw [← Nat.add_assoc]
        exact partAt_end htwo (by simp only [List.length_nil]; omega)
      · intro d hpos hd
        by_cases hd1 : d = 1
        · rw [hd1, hone]
          exact List.cons_ne_nil _ _
        · obtain ⟨body, hbody, -⟩ := partAt_body htwo (d - 2) (by simp only [List.length_nil]; omega)
          rw [show t + d = t + 1 + 1 + (d - 2) by omega, hbody]
          exact List.cons_ne_nil _ _
    · rw [if_pos hl]
      refine ⟨?_, ?_⟩
      · show partAt a p w (t + 1 + 1) = []
        rw [partAt, hone]
        exact if_neg hl
      · intro d hpos hd
        obtain rfl : d = 1 := by omega
        rw [hone]
        exact List.cons_ne_nil _ _
  · rw [if_pos ha]
    refine ⟨?_, ?_⟩
    · rw [partAt, hw]
      exact if_neg ha
    · intro d hpos hd
      omega

/-- **The instants at which the parser hunts.** -/
theorem hops (a : UInt8) (p : Vector UInt8 22) (w : List UInt8) :
    Hops (fun t => partAt a p w t = []) 26 (gap a p) := by
  refine ⟨gap_pos, ?_, ?_⟩
  · intro t ht
    rw [gap_mod]
    exact (partAt_gap ht).1
  · intro t ht d hpos hd
    rw [gap_mod] at hd
    exact (partAt_gap ht).2 d hpos hd

/-! ## The copies as lists -/

theorem byteAt_copy (n : ℕ) {i : ℕ} (hi : i < 26) :
    byteAt a p (26 * n + i) = (rcFrame a p).get ⟨i, by simpa using hi⟩ := by
  rw [byteAt, Nat.mul_add_mod, Nat.mod_eq_of_lt hi]
  simp [hi]

theorem partAt_eq_run (t : ℕ) : partAt a p w t = Periodic.run advance (byteAt a p) w t := by
  induction t with
  | zero => rfl
  | succ t ih => rw [partAt, ih, Periodic.run]

theorem foldl_copies (n : ℕ) :
    (List.replicate n (rcFrame a p)).flatten.foldl advance w = partAt a p w (26 * n) := by
  rw [Periodic.foldl_copies length_rcFrame, partAt_eq_run]
  intro n i hi
  exact (byteAt_copy n (by simpa using hi)).symm

theorem foldl_head (n : ℕ) :
    (rcFrameHead a p).foldl advance (partAt a p w (26 * n)) = partAt a p w (26 * n + 25) := by
  have hb : ∀ i (hi : i < (rcFrameHead a p).length),
      (rcFrameHead a p).get ⟨i, hi⟩ = byteAt a p (26 * n + i) := by
    intro i hi
    have hi' : i < 25 := by simpa using hi
    rw [byteAt_copy n (by omega)]
    simp only [rcFrame, List.get_eq_getElem]
    rw [List.getElem_append_left hi]
  rw [partAt_eq_run, Periodic.foldl_run (26 * n) (rcFrameHead a p) hb, length_rcFrameHead,
    partAt_eq_run]

theorem foldl_rcFrameHead (ha : IsAddress a) :
    (rcFrameHead a p).foldl advance [] = rcFrameHead a p := by
  have hfirst : advance [] a = [a] := if_pos ha
  have hsecond : advance [a] 24 = [a, 24] := by
    rw [advance, if_pos (show IsLength 24 by decide)]
  rw [rcFrameHead, List.foldl_cons, hfirst, List.foldl_cons, hsecond]
  exact foldl_body a 24 [] _ (by simp)

/-! ## Resynchronisation -/

theorem reach_head (pre : List UInt8) (n : ℕ) :
    Reach (crsfProtocol.feed 0 init
        (pre ++ ((List.replicate n (rcFrame a p)).flatten ++ rcFrameHead a p)))
      (partAt a p (pre.foldl advance []) (26 * n + 25)) := by
  have hreach := Reach.init.feed 0
    (pre ++ ((List.replicate n (rcFrame a p)).flatten ++ rcFrameHead a p))
  rw [List.foldl_append, List.foldl_append, foldl_copies, foldl_head] at hreach
  exact hreach

theorem resynchronises_of_aligned (ha : IsAddress a) (pre : List UInt8) {n : ℕ}
    (hw : partAt a p (pre.foldl advance []) (26 * n) = []) : Resynchronises pre a p := by
  have hreach := reach_head (a := a) (p := p) pre n
  rw [← foldl_head, hw, foldl_rcFrameHead ha] at hreach
  exact ⟨n, _, rfl, getFrame_of_isRcFrame hreach.tracks (rcFrameCrc p) ⟨a, ha, rfl⟩⟩

theorem isAddress_not_isLength {b : UInt8} (h : IsAddress b) : ¬ IsLength b := by
  rcases h with rfl | rfl <;> decide

theorem aligned_of_resynchronises {pre : List UInt8} (h : Resynchronises pre a p) :
    ∃ n, partAt a p (pre.foldl advance []) (26 * (n + 1)) = [] := by
  obtain ⟨n, _, rfl, hready, -⟩ := h
  have hreach := reach_head (a := a) (p := p) pre n
  obtain ⟨l, body, ⟨hlen, b, -, heq⟩, -⟩ := (frameReady_iff hreach.tracks _).mp hready
  have happ : partAt a p (pre.foldl advance []) (26 * n + 25) ++ [rcFrameCrc p] =
      b :: l :: body ++ [crsfCrc8DvbS2 body] := heq
  obtain ⟨hpart, -⟩ := List.append_inj' happ rfl
  refine ⟨n, ?_⟩
  show advance (partAt a p _ (26 * n + 25)) (byteAt a p (26 * n + 25)) = []
  rw [hpart]
  exact if_pos (by omega)

/-- The parser hunts at some instant, whatever it holds when the copies start. -/
theorem hunts (ha : IsAddress a) {ctx : CrsfProtocolContext} (h : Tracks ctx w) :
    ∃ t, partAt a p w t = [] := by
  cases h with
  | address hs => exact ⟨0, rfl⟩
  | length b hs hb htake =>
    refine ⟨1, ?_⟩
    have hfirst : byteAt a p 0 = a := rfl
    show advance [b] (byteAt a p 0) = []
    rw [hfirst]
    exact if_neg (isAddress_not_isLength ha)
  | payload b l body hs hb hl hbody hlength hpos htake =>
    have hstart : partAt a p (b :: l :: body) 0 = b :: l :: body := rfl
    exact ⟨_, partAt_end hstart hbody⟩

/-- When every orbit reaches the start of a copy, every prefix resynchronises. -/
theorem resynchronises_of_orbits (ha : IsAddress a)
    (h : ∀ i < 26, ∃ k, (hop 26 (gap a p))^[k] i = 0) (pre : List UInt8) :
    Resynchronises pre a p := by
  obtain ⟨t, ht⟩ := hunts (a := a) (p := p) ha (Reach.init.feed 0 pre).tracks
  obtain ⟨u, -, hu, hmod⟩ :=
    ((hops a p (pre.foldl advance [])).aligned_iff ht).mpr (h (t % 26) (Nat.mod_lt t (by omega)))
  refine resynchronises_of_aligned ha pre (n := u / 26) ?_
  rw [Nat.mul_div_cancel' (Nat.dvd_of_mod_eq_zero hmod)]
  exact hu

/-- The length byte that leaves the parser hunting at place `i` of a copy. -/
def lockLength (i : ℕ) : UInt8 := UInt8.ofNat (if i < 2 then i + 26 else i)

theorem toNat_lockLength {i : ℕ} (hi : i < 26) :
    (lockLength i).toNat = if i < 2 then i + 26 else i := by
  rw [lockLength, UInt8.toNat_ofNat_of_lt']
  show _ < 256
  split <;> omega

/-- An orbit that does not reach the start of a copy keeps some prefix from resynchronising. -/
theorem orbit_of_resynchronises {i : ℕ} (hi : i < 26)
    (h : Resynchronises [0xC8, lockLength i] a p) : ∃ k, (hop 26 (gap a p))^[k] i = 0 := by
  obtain ⟨n, hn⟩ := aligned_of_resynchronises h
  have hnat := toNat_lockLength hi
  generalize lockLength i = l at hn hnat
  have hbounds : 2 ≤ l.toNat ∧ l.toNat ≤ 27 ∧ l.toNat % 26 = i := by
    split at hnat <;> omega
  obtain ⟨hmin, hmax, hmod⟩ := hbounds
  have hpre : [0xC8, l].foldl advance [] = [0xC8, l] := by
    show advance [0xC8] l = _
    rw [advance, if_pos ⟨hmin, by omega⟩]
  rw [hpre] at hn
  have hstart : partAt a p [0xC8, l] 0 = 0xC8 :: l :: [] := rfl
  have hmark : partAt a p [0xC8, l] l.toNat = [] := by
    have hend := partAt_end hstart (by simp only [List.length_nil]; omega)
    simpa using hend
  -- no mark lies before the end of the prefix's own frame
  have hle : l.toNat ≤ 26 * (n + 1) := by
    by_contra hlt
    obtain ⟨body, hbody, -⟩ := partAt_body hstart (26 * (n + 1))
      (by simp only [List.length_nil]; omega)
    rw [Nat.zero_add, hn] at hbody
    cases hbody
  have hreached := ((hops a p [0xC8, l]).aligned_iff hmark).mp
    ⟨26 * (n + 1), hle, hn, Nat.mul_mod_right 26 (n + 1)⟩
  rwa [hmod] at hreached

/-- **Every prefix resynchronises exactly when every orbit reaches the start of a copy.** -/
theorem resynchronises_iff (a : UInt8) (ha : IsAddress a) (p : Vector UInt8 22) :
    (∀ pre, Resynchronises pre a p) ↔ ∀ i < 26, ∃ k, (hop 26 (gap a p))^[k] i = 0 := by
  constructor
  · intro h i hi
    exact orbit_of_resynchronises hi (h _)
  · intro h
    exact resynchronises_of_orbits ha h

/-- A frame whose first payload bytes look like an address and the length 24. -/
def lockingPayload : Vector UInt8 22 :=
  #v[0xC8, 24, 0, 0, 0, 0, 0, 0, 0, 0, 0, 0, 0, 0, 0, 0, 0, 0, 0, 0, 0, 0]

theorem lockingPayload_never : ¬ ∀ pre a p, IsAddress a → Resynchronises pre a p := by
  intro h
  obtain ⟨k, hk⟩ := orbit_of_resynchronises (i := 3) (by omega)
    (h [0xC8, lockLength 3] 0xC8 lockingPayload (by decide))
  have hfixed : hop 26 (gap 0xC8 lockingPayload) 3 = 3 := by decide
  rw [Function.iterate_fixed hfixed k] at hk
  cases hk

theorem resynchronises_iff_zeros :
    Resynchronises [0xC8, lockLength 3] 0xC8 (Vector.replicate 22 0) := by
  refine (resynchronises_iff 0xC8 (by decide) (Vector.replicate 22 0)).mpr ?_ _
  have hall : ∀ i < 26, (hop 26 (gap 0xC8 (Vector.replicate 22 0)))^[(26 - i) % 26] i = 0 := by
    decide +kernel
  exact fun i hi => ⟨_, hall i hi⟩

end RadioConnection.CrsfProtocolContext
