import RadioConnection.Radio.Normalization

/-!
# Mapping is all or nothing

`rc_channel_mapper_map` writes its output entry by entry.  A table that
`rc_channel_mapper_init` accepts names every function once, so no entry overwrites
another, and an entry whose channel is missing undoes those before it.

* `accepted_table`: what `rc_channel_mapper_init` accepts.
* `mapEntries_eq`: the loop writes every entry, or finds a missing channel.
* `Written`: what the entries so far have written.
* `map_allOrNothing`: the two outcomes.
-/

namespace RadioConnection

/-! ## The bits of the mask -/

theorem RcLogicalFunction.code_injective : Function.Injective RcLogicalFunction.code := by
  intro f g h
  cases f <;> cases g <;> first | rfl | nomatch h

theorem RcLogicalFunction.toNat_bit (function : RcLogicalFunction) :
    function.bit.toNat = 2 ^ function.code.val := by
  cases function <;> rfl

theorem testBit_or_bit (mask : UInt32) (function : RcLogicalFunction) (k : ℕ) :
    (mask ||| function.bit).toNat.testBit k =
      (mask.toNat.testBit k || decide (function.code.val = k)) := by
  rw [UInt32.toNat_or, Nat.testBit_or, function.toNat_bit, Nat.testBit_two_pow]

theorem and_bit_eq_zero_iff (mask : UInt32) (function : RcLogicalFunction) :
    mask &&& function.bit = 0 ↔ mask.toNat.testBit function.code.val = false := by
  have hand : (mask &&& function.bit).toNat =
      (mask.toNat.testBit function.code.val).toNat * 2 ^ function.code.val := by
    rw [UInt32.toNat_and, function.toNat_bit, Nat.and_two_pow]
  constructor
  · intro hzero
    rw [hzero] at hand
    cases hbit : mask.toNat.testBit function.code.val with
    | false => rfl
    | true =>
      rw [hbit, Bool.toNat_true, Nat.one_mul] at hand
      exact absurd hand.symm (Nat.two_pow_pos _).ne'
  · intro hbit
    rw [hbit, Bool.toNat_false, Nat.zero_mul] at hand
    exact UInt32.toNat_inj.mp hand

namespace RcChannelMapper

/-! ## The table -/

/-- An accepted table: its entries are accepted, and their functions differ. -/
structure AcceptedTable (entries : List RcChannelMapEntry) : Prop where
  accepted : ∀ entry ∈ entries, entry.Accepted
  functions : (entries.map RcChannelMapEntry.function).Nodup

theorem entriesAreValid_iff (before rest : List RcChannelMapEntry) :
    entriesAreValid before rest = true ↔
      (∀ entry ∈ rest, entry.isValid = true) ∧
        (∀ entry ∈ rest, ∀ earlier ∈ before, earlier.function ≠ entry.function) ∧
        (rest.map RcChannelMapEntry.function).Nodup := by
  induction rest generalizing before with
  | nil => simp [entriesAreValid]
  | cons entry rest ih =>
    have hduplicate : hasDuplicateFunction before entry = false ↔
        ∀ earlier ∈ before, earlier.function ≠ entry.function := by
      rw [hasDuplicateFunction]
      rw [List.any_eq_false]
      exact forall₂_congr fun earlier _ => decide_eq_true_iff.not
    rw [entriesAreValid, Bool.and_eq_true, Bool.and_eq_true, Bool.not_eq_true', hduplicate, ih,
      List.map_cons, List.nodup_cons]
    constructor
    · rintro ⟨⟨hvalid, hbefore⟩, hrest, hlater, hnodup⟩
      refine ⟨List.forall_mem_cons.mpr ⟨hvalid, hrest⟩, List.forall_mem_cons.mpr ⟨hbefore, ?_⟩, ?_,
        hnodup⟩
      · exact fun e he earlier hearlier => hlater e he earlier (List.mem_append_left _ hearlier)
      · intro hmem
        obtain ⟨e, he, heq⟩ := List.mem_map.mp hmem
        exact hlater e he entry (List.mem_append_right _ (List.mem_singleton_self entry)) heq.symm
    · rintro ⟨hvalid, hbefore, hnot, hnodup⟩
      obtain ⟨hvalid, hrest⟩ := List.forall_mem_cons.mp hvalid
      obtain ⟨hbefore, hlater⟩ := List.forall_mem_cons.mp hbefore
      refine ⟨⟨hvalid, hbefore⟩, hrest, fun e he earlier hearlier => ?_, hnodup⟩
      rcases List.mem_append.mp hearlier with hmem | hmem
      · exact hlater e he earlier hmem
      · rw [List.mem_singleton.mp hmem]
        exact fun heq => hnot (List.mem_map.mpr ⟨e, he, heq.symm⟩)

theorem accepted_table {entries : List RcChannelMapEntry} {mapper : RcChannelMapper}
    (h : init entries = some mapper) :
    mapper = ⟨entries, true⟩ ∧ AcceptedTable entries := by
  rw [init] at h
  split_ifs at h with hcount hvalid
  obtain ⟨haccepted, -, hnodup⟩ := (entriesAreValid_iff [] entries).mp hvalid
  exact ⟨(Option.some.inj h).symm,
    fun entry hentry => RcChannelMapEntry.accepted_of_isValid (haccepted entry hentry), hnodup⟩

/-! ## The loop -/

def rawOf (input : RcInputFrame) (entry : RcChannelMapEntry) : UInt16 :=
  (input.channels[entry.sourceChannel.toNat - 1]?).getD 0

def HasSource (input : RcInputFrame) (entry : RcChannelMapEntry) : Prop :=
  entry.sourceChannel ≤ input.channelCount

instance (input : RcInputFrame) (entry : RcChannelMapEntry) : Decidable (HasSource input entry) :=
  inferInstanceAs (Decidable (_ ≤ _))

def writeEntry (input : RcInputFrame) (output : RcMappedInput) (entry : RcChannelMapEntry) :
    RcMappedInput := output.write entry (rawOf input entry)

theorem mapEntries_cons {input : RcInputFrame} {entry : RcChannelMapEntry}
    (haccepted : entry.Accepted) (rest : List RcChannelMapEntry) (output : RcMappedInput) :
    mapEntries input (entry :: rest) output =
      if HasSource input entry then mapEntries input rest (writeEntry input output entry)
      else none := by
  obtain ⟨hpos, hmax⟩ := haccepted.source
  have hindex : (entry.sourceChannel - 1).toNat = entry.sourceChannel.toNat - 1 :=
    UInt8.toNat_sub_of_le _ _ (UInt8.le_iff_toNat_le.mpr hpos)
  have hlt : (entry.sourceChannel - 1).toNat < rcMaxChannels := by
    rw [hindex]
    omega
  have hmissing : (input.channelCount ≤ entry.sourceChannel - 1 ∨
      rcMaxChannels ≤ (entry.sourceChannel - 1).toNat) ↔ ¬ HasSource input entry := by
    rw [HasSource]
    rw [UInt8.le_iff_toNat_le, UInt8.le_iff_toNat_le, hindex]
    omega
  rw [mapEntries]
  by_cases hsource : HasSource input entry
  · have hraw : input.channels[(entry.sourceChannel - 1).toNat] = rawOf input entry := by
      rw [rawOf, ← hindex, Vector.getElem?_eq_getElem hlt]
      rfl
    rw [if_pos hsource, dif_neg (hmissing.not.mpr (not_not.mpr hsource)), writeEntry, ← hraw]
  · rw [if_neg hsource, dif_pos (hmissing.mpr hsource)]

/-- **The loop writes every entry, or finds a missing channel.** -/
theorem mapEntries_eq {input : RcInputFrame} {entries : List RcChannelMapEntry}
    (haccepted : ∀ entry ∈ entries, entry.Accepted) (output : RcMappedInput) :
    mapEntries input entries output =
      if ∀ entry ∈ entries, HasSource input entry then
        some (entries.foldl (writeEntry input) output)
      else none := by
  induction entries generalizing output with
  | nil => rfl
  | cons entry rest ih =>
    obtain ⟨hentry, hrest⟩ := List.forall_mem_cons.mp haccepted
    rw [mapEntries_cons hentry, ih hrest, List.foldl_cons]
    by_cases hsource : HasSource input entry
    · rw [if_pos hsource]
      refine if_congr ?_ rfl rfl
      rw [List.forall_mem_cons]
      exact (and_iff_right hsource).symm
    · rw [if_neg hsource, if_neg fun hall => hsource (hall entry List.mem_cons_self)]

/-! ## What is written -/

/-- The value and the pulse of an entry, from its own source channel. -/
def valuesOf (input : RcInputFrame) (entry : RcChannelMapEntry) : Int16 × UInt16 :=
  (entry.normalize (rawOf input entry),
    RcChannelMapEntry.normalizedToPulseUs (entry.normalize (rawOf input entry)) entry.mode)

/-- The output has the functions of the entries `done`, each with the values of its entry. -/
structure Written (input : RcInputFrame) (done : List RcChannelMapEntry) (output : RcMappedInput) :
    Prop where
  mask : ∀ k, output.availableMask.toNat.testBit k = true ↔
    ∃ entry ∈ done, entry.function.code.val = k
  values : ∀ entry ∈ done,
    (output.normalized[entry.function.code], output.pulseUs[entry.function.code]) =
      valuesOf input entry

theorem written_nil (input : RcInputFrame) : Written input [] (.ofFlags input) := by
  refine ⟨fun k => ?_, nofun⟩
  show (0 : ℕ).testBit k = true ↔ _
  rw [Nat.zero_testBit]
  exact ⟨nofun, nofun⟩

theorem Written.write {input : RcInputFrame} {done : List RcChannelMapEntry}
    {output : RcMappedInput} (h : Written input done output) {entry : RcChannelMapEntry}
    (hnew : ∀ earlier ∈ done, earlier.function ≠ entry.function) :
    Written input (done ++ [entry]) (writeEntry input output entry) := by
  constructor
  · intro k
    show (output.availableMask ||| entry.function.bit).toNat.testBit k = true ↔ _
    rw [testBit_or_bit, Bool.or_eq_true, h.mask, decide_eq_true_iff]
    simp only [List.mem_append, List.mem_singleton, or_and_right, exists_or, exists_eq_left]
  · intro e he
    show ((output.normalized.set entry.function.code _)[e.function.code],
      (output.pulseUs.set entry.function.code _)[e.function.code]) = _
    rcases List.mem_append.mp he with hmem | hmem
    · have hne : entry.function.code.val ≠ e.function.code.val := fun heq =>
        hnew e hmem (RcLogicalFunction.code_injective (Fin.ext heq)).symm
      rw [Fin.getElem_fin, Fin.getElem_fin, Vector.getElem_set_ne _ _ hne,
        Vector.getElem_set_ne _ _ hne]
      exact h.values e hmem
    · obtain rfl := List.mem_singleton.mp hmem
      rw [Fin.getElem_fin, Fin.getElem_fin, Vector.getElem_set_self, Vector.getElem_set_self]
      rfl

/-- **No entry overwrites another.** -/
theorem written_foldl {input : RcInputFrame} {rest done : List RcChannelMapEntry}
    {output : RcMappedInput} (h : Written input done output)
    (hnodup : ((done ++ rest).map RcChannelMapEntry.function).Nodup) :
    Written input (done ++ rest) (rest.foldl (writeEntry input) output) := by
  induction rest generalizing done output with
  | nil =>
    rw [List.append_nil]
    exact h
  | cons entry rest ih =>
    have hnew : ∀ earlier ∈ done, earlier.function ≠ entry.function := by
      rw [List.map_append, List.nodup_append] at hnodup
      intro earlier hearlier
      exact hnodup.2.2 _ (List.mem_map_of_mem hearlier) _ (List.mem_cons_self ..)
    have hnext := ih (h.write hnew) (by rwa [List.append_assoc])
    rwa [List.append_assoc] at hnext

theorem Written.get {input : RcInputFrame} {done : List RcChannelMapEntry}
    {output : RcMappedInput} (h : Written input done output) {entry : RcChannelMapEntry}
    (hentry : entry ∈ done) (hfunction : entry.function ≠ .none) :
    output.get entry.function = some (valuesOf input entry) := by
  have hbit := (h.mask entry.function.code.val).mpr ⟨entry, hentry, rfl⟩
  rw [RcMappedInput.get, if_neg hfunction, if_neg, ← h.values entry hentry]
  rw [and_bit_eq_zero_iff, hbit]
  decide

/-! ## The two outcomes -/

def Mappable (entries : List RcChannelMapEntry) (input : RcInputFrame) : Prop :=
  input.frameValid = true ∧ input.frameLost = false ∧ input.failsafe = false ∧
    ∀ entry ∈ entries, HasSource input entry

/-- No function, no value, and the flags of the frame. -/
structure Cleared (input : RcInputFrame) (output : RcMappedInput) : Prop where
  mask : output.availableMask = 0
  normalized : ∀ i : Fin rcFunctionCount, output.normalized[i] = 0
  pulseUs : ∀ i : Fin rcFunctionCount, output.pulseUs[i] = 0
  flags : SameFlags input output
  protocol : output.protocol = input.protocol

theorem cleared_ofFlags (input : RcInputFrame) : Cleared input (.ofFlags input) :=
  ⟨rfl, fun i => Vector.getElem_replicate i.isLt, fun i => Vector.getElem_replicate i.isLt,
    ⟨rfl, rfl, rfl, rfl⟩, rfl⟩

instance (entries : List RcChannelMapEntry) (input : RcInputFrame) :
    Decidable (Mappable entries input) := inferInstanceAs (Decidable (_ ∧ _))

theorem map_eq {entries : List RcChannelMapEntry} (htable : AcceptedTable entries)
    (input : RcInputFrame) (output : RcMappedInput) :
    map ⟨entries, true⟩ input output =
      if Mappable entries input then
        (true, entries.foldl (writeEntry input) (.ofFlags input))
      else (false, .ofFlags input) := by
  have hloop := @mapEntries_eq input entries htable.accepted (.ofFlags input)
  rw [map]
  rw [if_neg (by decide : ¬ ¬ true = true)]
  dsimp only
  rw [hloop]
  by_cases hmappable : Mappable entries input
  · rw [if_pos hmappable]
    obtain ⟨hvalid, hlost, hfailsafe, hsources⟩ := hmappable
    rw [if_neg (by simp [hvalid, hlost, hfailsafe]), if_pos hsources]
  · rw [if_neg hmappable]
    split_ifs with hflags hsources
    · rfl
    · simp only [not_or, Bool.not_eq_true, Bool.not_eq_false] at hflags
      exact absurd ⟨hflags.1, hflags.2.1, hflags.2.2, hsources⟩ hmappable
    · rfl

/-- **Mapping is all or nothing.** -/
theorem map_allOrNothing {entries : List RcChannelMapEntry} {mapper : RcChannelMapper}
    (h : init entries = some mapper) (input : RcInputFrame) (output : RcMappedInput) :
    ((mapper.map input output).1 = true ↔ Mappable entries input) ∧
      ((mapper.map input output).1 = true →
        (∀ k, (mapper.map input output).2.availableMask.toNat.testBit k = true ↔
          ∃ entry ∈ entries, entry.function.code.val = k) ∧
        ∀ entry ∈ entries, (mapper.map input output).2.get entry.function =
          some (valuesOf input entry)) ∧
      ((mapper.map input output).1 = false → Cleared input (mapper.map input output).2) := by
  obtain ⟨rfl, htable⟩ := accepted_table h
  rw [map_eq htable]
  by_cases hmappable : Mappable entries input
  · have hwritten := written_foldl (written_nil input) htable.functions
    rw [if_pos hmappable]
    refine ⟨iff_of_true rfl hmappable, fun _ => ⟨hwritten.mask, fun entry hentry => ?_⟩, nofun⟩
    exact hwritten.get hentry (htable.accepted entry hentry).function
  · rw [if_neg hmappable]
    exact ⟨iff_of_false nofun hmappable, nofun, fun _ => cleared_ofFlags input⟩

/-- A stick on the first channel, and a switch on the fifth. -/
def stickAndSwitch : List RcChannelMapEntry :=
  [⟨1, .roll, .centered, 172, 992, 1811, 10, false⟩,
    ⟨5, .arm, .switch2pos, 172, 992, 1811, 0, false⟩]

/-- A frame that ends before the switch. -/
def fourChannels : RcInputFrame :=
  { RcInputFrame.zero with channelCount := 4, frameValid := true, timestampMs := 7 }

theorem map_allOrNothing_fourChannels :
    Cleared fourChannels (map ⟨stickAndSwitch, true⟩ fourChannels (.ofFlags .zero)).2 :=
  (map_allOrNothing (by decide : init stickAndSwitch = some ⟨stickAndSwitch, true⟩) fourChannels
    (.ofFlags .zero)).2.2 (by decide)

end RcChannelMapper

end RadioConnection
