import Mathlib

/-!
# Frames and the channel mapper

`rc_types.h` and `rc_channel_mapper.c`: a frame of raw channels becomes, through
a table of entries, one normalised value and one pulse width for each logical
function.

* `RcChannelMapper.map`: all entries or none.
* `map_false`: a mapping that fails makes no function available.
-/

namespace RadioConnection

/-! ## Frames -/

abbrev rcMaxChannels : Nat := 18

inductive RadioProtocolType
  | none | crsf | sbus | ibus
  deriving DecidableEq, Repr

structure RcInputFrame where
  channels : Vector UInt16 rcMaxChannels
  channelCount : UInt8
  frameValid : Bool
  failsafe : Bool
  frameLost : Bool
  timestampMs : UInt32
  protocol : RadioProtocolType
  deriving DecidableEq, Repr

/-- The frame of `memset`. -/
def RcInputFrame.zero : RcInputFrame :=
  ⟨Vector.replicate _ 0, 0, false, false, false, 0, .none⟩

/-! ## The table -/

def rcChannelMapperMaxEntries : Nat := 16
def rcNormalizedMin : Int16 := -1000
def rcNormalizedCenter : Int16 := 0
def rcNormalizedMax : Int16 := 1000
def rcPulseMinUs : Int := 1000
def rcPulseCenterUs : Int := 1500
def rcPulseMaxUs : Int := 2000

inductive RcLogicalFunction
  | none
  | roll | pitch | throttle | yaw | arm | mode
  | aux1 | aux2 | aux3 | aux4 | aux5 | aux6 | aux7 | aux8
  deriving DecidableEq, Repr

abbrev rcFunctionCount : Nat := 15

def RcLogicalFunction.code : RcLogicalFunction → Fin rcFunctionCount
  | none => 0
  | roll => 1
  | pitch => 2
  | throttle => 3
  | yaw => 4
  | arm => 5
  | mode => 6
  | aux1 => 7
  | aux2 => 8
  | aux3 => 9
  | aux4 => 10
  | aux5 => 11
  | aux6 => 12
  | aux7 => 13
  | aux8 => 14

inductive RcChannelMode
  | centered | unipolar | switch2pos | switch3pos
  deriving DecidableEq, Repr

structure RcChannelMapEntry where
  sourceChannel : UInt8
  function : RcLogicalFunction
  mode : RcChannelMode
  rawMin : UInt16
  rawCenter : UInt16
  rawMax : UInt16
  deadband : UInt16
  reversed : Bool
  deriving DecidableEq, Repr

structure RcChannelMapper where
  entries : List RcChannelMapEntry
  initialized : Bool
  deriving DecidableEq, Repr

structure RcMappedInput where
  normalized : Vector Int16 rcFunctionCount
  pulseUs : Vector UInt16 rcFunctionCount
  availableMask : UInt32
  frameValid : Bool
  frameLost : Bool
  failsafe : Bool
  timestampMs : UInt32
  protocol : RadioProtocolType
  deriving DecidableEq, Repr

namespace RcChannelMapEntry

def isValid (entry : RcChannelMapEntry) : Bool :=
  if entry.sourceChannel = 0 ∨ rcMaxChannels < entry.sourceChannel.toNat then false
  else if entry.function = .none then false
  else if entry.rawCenter ≤ entry.rawMin ∨ entry.rawMax ≤ entry.rawCenter then false
  else
    let lowerSpan := entry.rawCenter - entry.rawMin
    let upperSpan := entry.rawMax - entry.rawCenter
    !(lowerSpan ≤ entry.deadband || upperSpan ≤ entry.deadband)

/-! ## Normalisation -/

def clampRaw (rawValue rawMin rawMax : UInt16) : UInt16 :=
  if rawValue < rawMin then rawMin else if rawMax < rawValue then rawMax else rawValue

def toInt (value : UInt16) : Int := value.toNat

def normalizeCentered (rawValue : UInt16) (entry : RcChannelMapEntry) : Int16 :=
  let raw := clampRaw rawValue entry.rawMin entry.rawMax
  let lowerDeadband := entry.rawCenter - entry.deadband
  let upperDeadband := entry.rawCenter + entry.deadband
  if lowerDeadband ≤ raw ∧ raw ≤ upperDeadband then rcNormalizedCenter
  else if raw < lowerDeadband then
    let distance := toInt lowerDeadband - toInt raw
    let span := toInt lowerDeadband - toInt entry.rawMin
    Int16.ofInt ((-(distance * rcNormalizedMax.toInt)).tdiv span)
  else
    let distance := toInt raw - toInt upperDeadband
    let span := toInt entry.rawMax - toInt upperDeadband
    Int16.ofInt ((distance * rcNormalizedMax.toInt).tdiv span)

def normalizeUnipolar (rawValue : UInt16) (entry : RcChannelMapEntry) : Int16 :=
  let raw := clampRaw rawValue entry.rawMin entry.rawMax
  let activeMin := entry.rawMin + entry.deadband
  if raw ≤ activeMin then 0
  else
    let distance := toInt raw - toInt activeMin
    let span := toInt entry.rawMax - toInt activeMin
    Int16.ofInt ((distance * rcNormalizedMax.toInt).tdiv span)

def normalizeSwitch2pos (rawValue : UInt16) (entry : RcChannelMapEntry) : Int16 :=
  if entry.rawCenter ≤ rawValue then rcNormalizedMax else 0

def normalizeSwitch3pos (rawValue : UInt16) (entry : RcChannelMapEntry) : Int16 :=
  if rawValue < entry.rawCenter - entry.deadband then rcNormalizedMin
  else if entry.rawCenter + entry.deadband < rawValue then rcNormalizedMax
  else rcNormalizedCenter

def applyReverse (normalized : Int16) (mode : RcChannelMode) (reversed : Bool) : Int16 :=
  if ¬ reversed then normalized
  else if mode = .unipolar ∨ mode = .switch2pos then rcNormalizedMax - normalized
  else -normalized

def normalizedToPulseUs (normalized : Int16) (mode : RcChannelMode) : UInt16 :=
  let pulseUs :=
    if mode = .unipolar ∨ mode = .switch2pos then rcPulseMinUs + normalized.toInt
    else rcPulseCenterUs + normalized.toInt.tdiv 2
  let pulseUs := if pulseUs < rcPulseMinUs then rcPulseMinUs else pulseUs
  let pulseUs := if rcPulseMaxUs < pulseUs then rcPulseMaxUs else pulseUs
  UInt16.ofInt pulseUs

/-- The `switch` over the mode, with the reversal. -/
def normalize (entry : RcChannelMapEntry) (rawValue : UInt16) : Int16 :=
  let normalized := match entry.mode with
    | .centered => normalizeCentered rawValue entry
    | .unipolar => normalizeUnipolar rawValue entry
    | .switch2pos => normalizeSwitch2pos rawValue entry
    | .switch3pos => normalizeSwitch3pos rawValue entry
  applyReverse normalized entry.mode entry.reversed

end RcChannelMapEntry

/-! ## The mapper -/

/-- The bit of a function in the mask. -/
def RcLogicalFunction.bit (function : RcLogicalFunction) : UInt32 :=
  1 <<< UInt32.ofNat function.code.val

namespace RcMappedInput

/-- `memset`, with the flags of the frame copied. -/
def ofFlags (input : RcInputFrame) : RcMappedInput where
  normalized := Vector.replicate _ 0
  pulseUs := Vector.replicate _ 0
  availableMask := 0
  frameValid := input.frameValid
  frameLost := input.frameLost
  failsafe := input.failsafe
  timestampMs := input.timestampMs
  protocol := input.protocol

def write (output : RcMappedInput) (entry : RcChannelMapEntry) (rawValue : UInt16) :
    RcMappedInput :=
  let normalized := entry.normalize rawValue
  { output with
    normalized := output.normalized.set entry.function.code normalized entry.function.code.isLt
    pulseUs := output.pulseUs.set entry.function.code
      (RcChannelMapEntry.normalizedToPulseUs normalized entry.mode) entry.function.code.isLt
    availableMask := output.availableMask ||| entry.function.bit }

/-- `rc_mapped_input_get`. -/
def get (input : RcMappedInput) (function : RcLogicalFunction) : Option (Int16 × UInt16) :=
  if function = .none then none
  else if input.availableMask &&& function.bit = 0 then none
  else some (input.normalized[function.code], input.pulseUs[function.code])

end RcMappedInput

namespace RcChannelMapper

def hasDuplicateFunction (entries : List RcChannelMapEntry) (entry : RcChannelMapEntry) : Bool :=
  entries.any fun e => e.function = entry.function

/-- The loop of `rc_channel_mapper_init`; `before` is what it has passed. -/
def entriesAreValid : List RcChannelMapEntry → List RcChannelMapEntry → Bool
  | _, [] => true
  | before, entry :: rest =>
    entry.isValid && !hasDuplicateFunction before entry && entriesAreValid (before ++ [entry]) rest

/-- `none` when the table is refused. -/
def init (entries : List RcChannelMapEntry) : Option RcChannelMapper :=
  if entries = [] ∨ rcChannelMapperMaxEntries < entries.length then none
  else if entriesAreValid [] entries then some ⟨entries, true⟩
  else none

/-- The loop of `rc_channel_mapper_map`; `none` when a source channel is missing. -/
def mapEntries (input : RcInputFrame) :
    List RcChannelMapEntry → RcMappedInput → Option RcMappedInput
  | [], output => some output
  | entry :: rest, output =>
    let channelIndex := entry.sourceChannel - 1
    if h : input.channelCount ≤ channelIndex ∨ rcMaxChannels ≤ channelIndex.toNat then none
    else
      have : channelIndex.toNat < rcMaxChannels := by omega
      mapEntries input rest (output.write entry input.channels[channelIndex.toNat])

/-- The result and what `output` holds then. -/
def map (mapper : RcChannelMapper) (input : RcInputFrame) (output : RcMappedInput) :
    Bool × RcMappedInput :=
  if ¬ mapper.initialized then (false, output)
  else if ¬ input.frameValid ∨ input.frameLost ∨ input.failsafe then (false, .ofFlags input)
  else
    match mapEntries input mapper.entries (.ofFlags input) with
    | none => (false, .ofFlags input)
    | some output => (true, output)

/-! ## What a mapping says about its frame -/

/-- The flags of the output are the flags of the frame. -/
structure SameFlags (input : RcInputFrame) (output : RcMappedInput) : Prop where
  frameValid : output.frameValid = input.frameValid
  frameLost : output.frameLost = input.frameLost
  failsafe : output.failsafe = input.failsafe
  timestampMs : output.timestampMs = input.timestampMs

theorem map_false {mapper : RcChannelMapper} (hm : mapper.initialized = true)
    {input : RcInputFrame} {output : RcMappedInput} (h : (mapper.map input output).1 = false) :
    (mapper.map input output).2 = .ofFlags input := by
  rw [map, if_neg (not_not.mpr hm)] at h ⊢
  split
  · rfl
  · rename_i hf
    rw [if_neg hf] at h
    cases he : mapEntries input mapper.entries (.ofFlags input) with
    | none => rfl
    | some output => simp [he] at h

theorem init_initialized {entries : List RcChannelMapEntry} {mapper : RcChannelMapper}
    (h : init entries = some mapper) : mapper.initialized = true := by
  unfold init at h
  split_ifs at h
  obtain rfl := Option.some.inj h
  rfl

theorem get_ofFlags (input : RcInputFrame) (function : RcLogicalFunction) :
    (RcMappedInput.ofFlags input).get function = none := by
  simp [RcMappedInput.get, RcMappedInput.ofFlags]

theorem mapEntries_stamp (t : UInt32) (input : RcInputFrame) (entries : List RcChannelMapEntry)
    (output : RcMappedInput) :
    mapEntries { input with timestampMs := t } entries { output with timestampMs := t } =
      (mapEntries input entries output).map fun o => { o with timestampMs := t } := by
  induction entries generalizing output with
  | nil => rfl
  | cons entry rest ih =>
    rw [mapEntries, mapEntries]
    split
    · rfl
    · rename_i hc
      have hlt : (entry.sourceChannel - 1).toNat < rcMaxChannels := by omega
      exact ih (output.write entry input.channels[(entry.sourceChannel - 1).toNat])

theorem map_stamp {mapper : RcChannelMapper} (hm : mapper.initialized = true) (t : UInt32)
    (input : RcInputFrame) (output : RcMappedInput) :
    mapper.map { input with timestampMs := t } output =
      ((mapper.map input output).1, { (mapper.map input output).2 with timestampMs := t }) := by
  rw [map, map, if_neg (not_not.mpr hm), if_neg (not_not.mpr hm)]
  dsimp only
  split
  · rfl
  · have hstamp := mapEntries_stamp t input mapper.entries (.ofFlags input)
    show (match mapEntries { input with timestampMs := t } mapper.entries
      { RcMappedInput.ofFlags input with timestampMs := t } with
      | none => _
      | some output => _) = _
    rw [hstamp]
    cases mapEntries input mapper.entries (.ofFlags input) <;> rfl

end RcChannelMapper

end RadioConnection
