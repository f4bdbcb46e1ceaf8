import CommitCiPreflight.Config
import CommitCiPreflight.Slices

/-! `resource.rs`: the pressure rules of the watchdog and the parsers of the host probe. -/
namespace CommitCiPreflight

open Outcome

def minPrestartAvailablePercent : UInt8 := 20
def minPrestartFreeBytes : UInt64 := 3*1024*1024*1024
def hardAvailablePercent : UInt8 := 3
def hardReclaimableBytes : UInt64 := 512*1024*1024
def hardCompressorPercent : UInt8 := 70
def hardCompressorCompanionAvailablePercent : UInt8 := 8
def softAvailablePercent : UInt8 := 10
def softReclaimableBytes : UInt64 := 1536*1024*1024
def softCompressorPercent : UInt8 := 55
def softSwapBytes : UInt64 := 4*1024*1024*1024
def softSwapGrowthBytes : UInt64 := 1024*1024*1024
def softRequiredSignals : UInt8 := 2
def softConsecutiveSamples : UInt8 := 15
def softTrendWindowSamples : ℕ := 16
def maxPercent : UInt8 := 100

inductive ResourceProbeError
  | malformedOutput
  | contradictorySnapshot
  | overflow
  | cancelled
  | commandFailed
  | process
  | watchdogPanicked
  | watchdogStatePoisoned
  deriving DecidableEq

structure ResourceSnapshot where
  availablePercent : UInt8
  reclaimableUncompressedBytes : UInt64
  compressorOccupiedBytes : UInt64
  totalMemoryBytes : UInt64
  swapUsedBytes : UInt64
  swapTotalBytes : UInt64
  deriving DecidableEq

/-- The products are taken in 128 bits, where none overflows. -/
def ratioAtLeast (value total : UInt64) (percent : UInt8) : Bool :=
  total.toNat*percent.toNat ≤ value.toNat*100

namespace ResourceSnapshot

variable (snapshot : ResourceSnapshot)

def validate : Outcome ResourceProbeError Unit :=
  ensure (¬ (snapshot.availablePercent > maxPercent ∨ snapshot.totalMemoryBytes = 0 ∨
    snapshot.reclaimableUncompressedBytes > snapshot.totalMemoryBytes ∨
    snapshot.compressorOccupiedBytes > snapshot.totalMemoryBytes ∨
    snapshot.swapUsedBytes > snapshot.swapTotalBytes)) .contradictorySnapshot

def compressorPercentAtLeast (percent : UInt8) : Bool :=
  ratioAtLeast snapshot.compressorOccupiedBytes snapshot.totalMemoryBytes percent

def hasHardCompoundCompression : Bool :=
  snapshot.compressorPercentAtLeast hardCompressorPercent &&
    (snapshot.availablePercent ≤ hardCompressorCompanionAvailablePercent ||
      snapshot.reclaimableUncompressedBytes < softReclaimableBytes ||
      snapshot.swapUsedBytes ≥ softSwapBytes)

end ResourceSnapshot

inductive PreStartDecision
  | admitted
  | deny
  deriving DecidableEq

def evaluatePreStart (snapshot : ResourceSnapshot) :
    Outcome ResourceProbeError PreStartDecision := do
  snapshot.validate
  return if snapshot.availablePercent ≥ minPrestartAvailablePercent ∧
      snapshot.reclaimableUncompressedBytes ≥ minPrestartFreeBytes ∧
      ¬ snapshot.hasHardCompoundCompression then .admitted else .deny

inductive WatchdogTripReason
  | hardPressure
  | softPressure
  | probeFailure
  deriving DecidableEq

inductive WatchdogDecision
  | continue
  | tripped (reason : WatchdogTripReason)
  deriving DecidableEq

structure WatchdogState where
  consecutiveSoftSamples : UInt8
  firstTrip : Option WatchdogTripReason
  swapWindow : List UInt64
  deriving DecidableEq

def signal (b : Bool) : UInt8 := if b then 1 else 0

/-- `u8::saturating_add` of one. -/
def saturatingSucc (n : UInt8) : UInt8 := if n = 255 then 255 else n+1

/-- `u64::saturating_sub`. -/
def saturatingSub (a b : UInt64) : UInt64 := if b ≤ a then a-b else 0

namespace WatchdogState

def default : WatchdogState := ⟨0,none,[]⟩

/-- `push_back`, then `pop_front` when the window is too long. -/
def pushSwap (window : List UInt64) (swapUsedBytes : UInt64) : List UInt64 :=
  let window := window++[swapUsedBytes]
  if window.length > softTrendWindowSamples then window.tail else window

/-- The growth is only looked at when the window is full; an empty window would panic. -/
def swapGrowth (window : List UInt64) (swapUsedBytes : UInt64) : Outcome ResourceProbeError Bool :=
  if window.length = softTrendWindowSamples then do
    let front ← expect window.head?
    return decide (saturatingSub swapUsedBytes front ≥ softSwapGrowthBytes)
  else .ok false

def softSignals (snapshot : ResourceSnapshot) (swapGrowth : Bool) : UInt8 :=
  signal (snapshot.availablePercent < softAvailablePercent) +
    signal (snapshot.reclaimableUncompressedBytes < softReclaimableBytes) +
    signal (snapshot.compressorPercentAtLeast softCompressorPercent) +
    signal (snapshot.swapUsedBytes ≥ softSwapBytes) +
    signal swapGrowth

/-- The state after an error is the state before. -/
def observe (state : WatchdogState) (snapshot : ResourceSnapshot) :
    Outcome ResourceProbeError (WatchdogState × WatchdogDecision) := do
  snapshot.validate
  match state.firstTrip with
  | some reason => return (state,.tripped reason)
  | none =>
    let state := {state with swapWindow := pushSwap state.swapWindow snapshot.swapUsedBytes}
    let swapGrowth ← swapGrowth state.swapWindow snapshot.swapUsedBytes
    if snapshot.availablePercent ≤ hardAvailablePercent ∨
        snapshot.reclaimableUncompressedBytes < hardReclaimableBytes ∨
        snapshot.hasHardCompoundCompression then
      return ({state with firstTrip := some .hardPressure},.tripped .hardPressure)
    else if softSignals snapshot swapGrowth ≥ softRequiredSignals then
      let state := {state with
        consecutiveSoftSamples := saturatingSucc state.consecutiveSoftSamples}
      if state.consecutiveSoftSamples ≥ softConsecutiveSamples then
        return ({state with firstTrip := some .softPressure},.tripped .softPressure)
      else return (state,.continue)
    else return ({state with consecutiveSoftSamples := 0},.continue)

end WatchdogState

inductive ResourceCommand
  | memoryPressure
  | vmStat
  | memSize
  | swapUsage
  deriving DecidableEq

/-- `std::str::from_utf8` with the error of a malformed output. -/
def readOutput (input : Bytes) : Outcome ResourceProbeError String :=
  ofOption .malformedOutput (Text.fromUtf8 input)

/-- `str::parse::<u64>`. -/
def parseU64 (text : String) : Outcome ResourceProbeError UInt64 :=
  ofOption .malformedOutput ((Text.parseUnsigned 64 text).map UInt64.ofNat)

def isDigits (text : String) : Prop :=
  text ≠ "" ∧ (Text.bytes text).all Text.isAsciiDigit = true

instance (text : String) : Decidable (isDigits text) := inferInstanceAs (Decidable (_ ∧ _))

/-- One line of `memory_pressure`. -/
def readFreePercentage (found : Option UInt8) (line : String) :
    Outcome ResourceProbeError (Option UInt8) :=
  match Text.stripPrefix line "System-wide memory free percentage:" with
  | none => .ok found
  | some value => do
    ensure (found = none) .malformedOutput
    let digits ← ofOption .malformedOutput (Text.stripSuffix (Text.trim value) "%")
    let percent ← ofOption .malformedOutput ((Text.parseUnsigned 8 digits).map UInt8.ofNat)
    ensure (percent ≤ maxPercent) .malformedOutput
    return some percent

def parseMemoryPressure (input : Bytes) : Outcome ResourceProbeError UInt8 := do
  let text ← readOutput input
  let found ← fold readFreePercentage none (Text.lines text)
  ofOption .malformedOutput found

def parsePageCount (value : String) : Outcome ResourceProbeError UInt64 := do
  let digits ← ofOption .malformedOutput (Text.stripSuffix value ".")
  ensure (isDigits digits) .malformedOutput
  parseU64 digits

structure VmStatSlots where
  free : Option UInt64
  speculative : Option UInt64
  inactive : Option UInt64
  compressor : Option UInt64

def fillSlot (slot : Option UInt64) (value : String) :
    Outcome ResourceProbeError (Option UInt64) := do
  ensure (slot = none) .malformedOutput
  let pages ← parsePageCount (Text.trim value)
  return some pages

/-- One line of `vm_stat` after the header. -/
def readVmStatLine (slots : VmStatSlots) (line : String) : Outcome ResourceProbeError VmStatSlots :=
  match Text.splitOnce line ':' with
  | none => .ok slots
  | some ("Pages free",value) => do
    let free ← fillSlot slots.free value
    return {slots with free}
  | some ("Pages speculative",value) => do
    let speculative ← fillSlot slots.speculative value
    return {slots with speculative}
  | some ("Pages inactive",value) => do
    let inactive ← fillSlot slots.inactive value
    return {slots with inactive}
  | some ("Pages occupied by compressor",value) => do
    let compressor ← fillSlot slots.compressor value
    return {slots with compressor}
  | some _ => .ok slots

structure VmStat where
  pageSize : UInt64
  freePages : UInt64
  speculativePages : UInt64
  inactivePages : UInt64
  compressorPages : UInt64

def parseVmStat (input : Bytes) : Outcome ResourceProbeError VmStat := do
  let text ← readOutput input
  let header ← ofOption .malformedOutput (Text.lines text).head?
  let digits ← ofOption .malformedOutput
    (((Text.stripPrefix header "Mach Virtual Memory Statistics: (page size of ").or
      (Text.stripPrefix header "Mach Virtual Memory Statistics: (page size: ")).bind
        (Text.stripSuffix · " bytes)"))
  let pageSize ← parseU64 digits
  ensure (pageSize ≠ 0) .malformedOutput
  let slots ← fold readVmStatLine ⟨none,none,none,none⟩ (Text.lines text).tail
  let freePages ← ofOption .malformedOutput slots.free
  let speculativePages ← ofOption .malformedOutput slots.speculative
  let inactivePages ← ofOption .malformedOutput slots.inactive
  let compressorPages ← ofOption .malformedOutput slots.compressor
  return {pageSize,freePages,speculativePages,inactivePages,compressorPages}

def parseMemsize (input : Bytes) : Outcome ResourceProbeError UInt64 := do
  let text ← readOutput input
  let text := Text.trim text
  ensure (isDigits text) .malformedOutput
  let value ← parseU64 text
  ensure (value ≠ 0) .malformedOutput
  return value

/-- The value of a `u128` operation that is checked. -/
def checkedU128 (x : ℕ) : Option ℕ := if x < 2^128 then some x else none

/-- `u64::try_from`. -/
def narrowU64 (x : ℕ) : Option UInt64 := if x < 2^64 then some (UInt64.ofNat x) else none

def sizeMultiplier (unit : String) : Option ℕ :=
  match unit with
  | "B" => some 1
  | "K" => some (2^10)
  | "M" => some (2^20)
  | "G" => some (2^30)
  | "T" => some (2^40)
  | _ => none

def parseSize (value : String) : Outcome ResourceProbeError UInt64 := do
  let (number,unit) ← expect (Text.splitAt value (value.utf8ByteSize-1))
  let multiplier ← ofOption .malformedOutput (sizeMultiplier unit)
  let (whole,fraction) ← ofOption .malformedOutput (Text.splitOnce number '.')
  ensure (isDigits whole ∧ isDigits fraction ∧ fraction.utf8ByteSize ≤ 2) .malformedOutput
  let scale := 10^fraction.utf8ByteSize
  let whole ← parseU64 whole
  let numerator ← ofOption .overflow
    ((checkedU128 (whole.toNat*scale)).bind fun value =>
      (Text.parseUnsigned 64 fraction).bind fun fraction => checkedU128 (value+fraction))
  let bytes ← ofOption .overflow (checkedU128 (numerator*multiplier))
  ofOption .overflow (narrowU64 (bytes/scale))

/-- The three sizes between the words of the line. -/
def swapSizes : List String → Option (String × String × String)
  | ["total","=",total,"used","=",used,"free","=",free] => some (total,used,free)
  | ["total","=",total,"used","=",used,"free","=",free,"(encrypted)"] => some (total,used,free)
  | _ => none

/-- The text after the name, which white space has to follow. -/
def swapUsageRest (text : String) : Option String :=
  (Text.stripPrefix text "vm.swapusage:").filter fun rest =>
    (Text.bytes rest).head?.any Text.isAsciiWhitespace

/-- `u64::abs_diff`. -/
def absDiff (a b : UInt64) : ℕ := (a.toNat-b.toNat)+(b.toNat-a.toNat)

structure SwapUsage where
  total : UInt64
  used : UInt64
  deriving DecidableEq

def parseSwapUsage (input : Bytes) : Outcome ResourceProbeError SwapUsage := do
  let text ← readOutput input
  let rest ← ofOption .malformedOutput (swapUsageRest text)
  let (total,used,free) ← ofOption .malformedOutput (swapSizes (Text.splitWhitespace rest))
  let total ← parseSize total
  let used ← parseSize used
  let free ← parseSize free
  let sum ← ofOption .overflow (checkedAdd used free)
  ensure (absDiff sum total ≤ 1) .contradictorySnapshot
  return {total,used}

def pagesToBytes (pages pageSize : UInt64) : Outcome ResourceProbeError UInt64 :=
  ofOption .overflow (narrowU64 (pages.toNat*pageSize.toNat))

/-- `ResourceProbe::sample`, over what the runner answers to each command. -/
def ResourceProbe.sample (run : ResourceCommand → Outcome ResourceProbeError Bytes) :
    Outcome ResourceProbeError ResourceSnapshot := do
  let memoryPressure ← run .memoryPressure
  let vmStat ← run .vmStat
  let memsize ← run .memSize
  let swapUsage ← run .swapUsage
  let availablePercent ← parseMemoryPressure memoryPressure
  let vmStat ← parseVmStat vmStat
  let totalMemoryBytes ← parseMemsize memsize
  let swap ← parseSwapUsage swapUsage
  let reclaimablePages ← ofOption .overflow
    ((checkedAdd vmStat.freePages vmStat.speculativePages).bind
      (checkedAdd · vmStat.inactivePages))
  let reclaimableUncompressedBytes ← pagesToBytes reclaimablePages vmStat.pageSize
  let compressorOccupiedBytes ← pagesToBytes vmStat.compressorPages vmStat.pageSize
  let snapshot : ResourceSnapshot := {
    availablePercent
    reclaimableUncompressedBytes
    compressorOccupiedBytes
    totalMemoryBytes
    swapUsedBytes := swap.used
    swapTotalBytes := swap.total }
  snapshot.validate
  return snapshot

end CommitCiPreflight
