import Mathlib.Data.List.Infix

/-!
# SMART Data of a Disk

A model of the parser for SATA disks of `agent/smart.go`.  An output of `smartctl` is what
`json.Unmarshal` makes of it, and nothing where it fails.  The table of attributes is left out: no
other function reads it.

The status of a disk is recorded with the temperature that `smartctl` prints.  For a SATA disk
that prints none, the temperature is then taken from the device statistics.
-/

namespace Bantay.Agent.Smart

/-! ## The data -/

/-- The functions of package `strings`. -/
structure Text where
  toUpper : String → String
  equalFold : String → String → Bool

inductive SmartStatus
  | passed
  | failed
  | unknown
deriving DecidableEq

structure SmartData where
  modelName : String := ""
  serialNumber : String := ""
  firmwareVersion : String := ""
  capacity : Nat := 0
  temperature : UInt8 := 0
  smartStatus : SmartStatus := .unknown
  diskName : String := ""
  diskType : String := ""
deriving DecidableEq

/-- `SmartDataMap`, by serial number. -/
abbrev SmartDataMap := String → Option SmartData

/-- The part of an output that every kind of disk has. -/
structure SmartInfo where
  exitStatus : Int := 0
  deviceName : String
  deviceType : String
  modelName : String := ""
  serialNumber : String
  firmwareVersion : String := ""
  userCapacity : Nat := 0
  temperature : UInt8
  passed : Bool

structure AtaDeviceStatisticsEntry where
  name : String
  value : Option Int

structure AtaDeviceStatisticsPage where
  number : UInt8
  table : List AtaDeviceStatisticsEntry

structure SmartInfoForSata extends SmartInfo where
  scsiVendor : String := ""
  scsiProduct : String := ""
  ataDeviceStatistics : Option (List AtaDeviceStatisticsPage) := none

/-! ## The parsers -/

def isVirtualDeviceFromStrings (text : Text) (fields : List String) : Bool :=
  fields.any fun field =>
    ["IET", "VIRTUAL", "QEMU", "VBOX", "VMWARE", "MSFT"].any fun mark =>
      decide (mark.toList <:+: (text.toUpper field).toList)

def isVirtualDevice (text : Text) (data : SmartInfoForSata) : Bool :=
  isVirtualDeviceFromStrings text
    [text.toUpper data.scsiVendor, text.toUpper data.scsiProduct, text.toUpper data.modelName]

def getSmartStatus (temperature : UInt8) (passed : Bool) : SmartStatus :=
  if passed then .passed else if temperature > 0 then .failed else .unknown

def findAtaDeviceStatisticsValue (text : Text) (data : SmartInfoForSata) (entryNumber : UInt8)
    (entryName : String) (minValue maxValue : Int) : Option Int := do
  let pages ← data.ataDeviceStatistics
  -- the first entry of the name decides, also one without a usable value
  let entry ← ((pages.filter (·.number = entryNumber)).flatMap (·.table)).find?
    (text.equalFold ·.name entryName)
  entry.value.filter fun value => minValue ≤ value ∧ value ≤ maxValue

/-- What every parser writes into the data of the disk. -/
def SmartData.update (data : SmartData) (info : SmartInfo) : SmartData :=
  { data with
    modelName := info.modelName
    serialNumber := info.serialNumber
    firmwareVersion := info.firmwareVersion
    capacity := info.userCapacity
    temperature := info.temperature
    smartStatus := getSmartStatus info.temperature info.passed
    diskName := info.deviceName
    diskType := info.deviceType }

/-- A disk without a serial number and a virtual one are refused. -/
def parseSmartFor (info : SmartInfo) (isVirtual : Bool) (update : SmartData → SmartData)
    (m : SmartDataMap) : SmartDataMap × Bool × Int :=
  if info.serialNumber = "" ∨ isVirtual = true then (m, false, info.exitStatus)
  else
    let data := (m info.serialNumber).getD {}
    (Function.update m info.serialNumber (some (update data)), true, info.exitStatus)

def fallbackTemperature (text : Text) (data : SmartInfoForSata) (smartData : SmartData) :
    SmartData :=
  if smartData.temperature = 0 then
    match findAtaDeviceStatisticsValue text data 5 "Current Temperature" 0 255 with
    | none => smartData
    | some temp => { smartData with temperature := UInt8.ofInt temp }
  else smartData

def parseSmartForSata (text : Text) (output : Option SmartInfoForSata) (m : SmartDataMap) :
    SmartDataMap × Bool × Int :=
  match output with
  | none => (m, false, 0)
  | some data =>
    parseSmartFor data.toSmartInfo (isVirtualDevice text data)
      (fun smartData => fallbackTemperature text data (smartData.update data.toSmartInfo)) m

/-! ## The recorded status -/

theorem getSmartStatus_failed_iff {temperature : UInt8} {passed : Bool} :
    getSmartStatus temperature passed = .failed ↔ passed = false ∧ 0 < temperature := by
  unfold getSmartStatus
  cases passed <;> simp [UInt8.pos_iff_ne_zero]

/-- The status is `FAILED` exactly if the self-assessment did not pass and the temperature is
    positive. -/
def StatusMatches (passed : Bool) (smartData : SmartData) : Prop :=
  smartData.smartStatus = getSmartStatus smartData.temperature passed ∧
    (smartData.smartStatus = .failed ↔ passed = false ∧ 0 < smartData.temperature)

theorem statusMatches_iff {passed : Bool} {smartData : SmartData} :
    StatusMatches passed smartData ↔
      smartData.smartStatus = getSmartStatus smartData.temperature passed := by
  constructor
  · exact And.left
  · intro h
    exact ⟨h, by rw [h, getSmartStatus_failed_iff]⟩

/-- The device statistics have a positive temperature, and the output none. -/
def TakesTemperature (text : Text) (data : SmartInfoForSata) : Prop :=
  data.temperature = 0 ∧
    ∃ temp, findAtaDeviceStatisticsValue text data 5 "Current Temperature" 0 255 = some temp ∧
      0 < temp

theorem findAtaDeviceStatisticsValue_range {text : Text} {data : SmartInfoForSata}
    {entryNumber : UInt8} {entryName : String} {minValue maxValue temp : Int}
    (h : findAtaDeviceStatisticsValue text data entryNumber entryName minValue maxValue =
      some temp) : minValue ≤ temp ∧ temp ≤ maxValue := by
  simp only [findAtaDeviceStatisticsValue, Option.bind_eq_bind, Option.bind_eq_some_iff] at h
  obtain ⟨pages, -, entry, -, hval⟩ := h
  simpa using (Option.filter_eq_some_iff.mp hval).2

theorem ofInt_pos_iff {temp : Int} (hmin : 0 ≤ temp) (hmax : temp ≤ 255) :
    0 < UInt8.ofInt temp ↔ 0 < temp := by
  rw [UInt8.lt_iff_toNat_lt, UInt8.toNat_zero, UInt8.ofInt]
  simp only [UInt8.toNat_ofNat']
  omega

theorem fallback_statusMatches_iff (text : Text) (data : SmartInfoForSata) (smartData : SmartData) :
    StatusMatches data.passed
        (fallbackTemperature text data (smartData.update data.toSmartInfo)) ↔
      data.passed = true ∨ ¬ TakesTemperature text data := by
  rw [statusMatches_iff]
  cases hpassed : data.passed with
  | true =>
    simp only [fallbackTemperature, SmartData.update, hpassed, getSmartStatus]
    split
    · split <;> simp
    · simp
  | false =>
    by_cases hzero : data.temperature = 0
    · cases hfind : findAtaDeviceStatisticsValue text data 5 "Current Temperature" 0 255 with
      | none =>
        simp [fallbackTemperature, SmartData.update, TakesTemperature, hpassed, hzero, hfind]
      | some temp =>
        -- the status of no temperature stays, so that of the new one must be unknown as well
        obtain ⟨hmin, hmax⟩ := findAtaDeviceStatisticsValue_range hfind
        have hpos := ofInt_pos_iff hmin hmax
        simp [fallbackTemperature, SmartData.update, TakesTemperature, hpassed, hzero, hfind,
          getSmartStatus, hpos]
    · simp [fallbackTemperature, SmartData.update, TakesTemperature, hpassed, hzero]

/-- **The status of a SATA disk is that of its temperature exactly if the disk passed, or the
    temperature is not from the device statistics.** -/
theorem sata_status_matches_iff (text : Text) (data : SmartInfoForSata) (m : SmartDataMap)
    (hparsed : (parseSmartForSata text (some data) m).2.1 = true) :
    (∃ smartData, (parseSmartForSata text (some data) m).1 data.serialNumber = some smartData ∧
      StatusMatches data.passed smartData) ↔
      data.passed = true ∨ ¬ TakesTemperature text data := by
  simp only [parseSmartForSata, parseSmartFor] at hparsed ⊢
  split at hparsed
  · cases hparsed
  · next hacc =>
    simp only [if_neg hacc, Function.update_self, Option.some.injEq, exists_eq_left']
    exact fallback_statusMatches_iff text data _

def asciiText : Text where
  toUpper s := String.ofList (s.toList.map Char.toUpper)
  equalFold a b := a.toList.map Char.toLower = b.toList.map Char.toLower

/-- A failing disk that has its temperature in the device statistics only. -/
def failingDisk : SmartInfoForSata where
  deviceName := "/dev/sda"
  deviceType := "sat"
  serialNumber := "S1"
  temperature := 0
  passed := false
  ataDeviceStatistics := some [⟨5, [⟨"Current Temperature", some 40⟩]⟩]

theorem sata_status_of_failingDisk :
    (∃ smartData, (parseSmartForSata asciiText (some { failingDisk with temperature := 40 })
      fun _ => none).1 "S1" = some smartData ∧ StatusMatches false smartData) :=
  (sata_status_matches_iff asciiText { failingDisk with temperature := 40 } _ (by decide)).mpr
    (.inr fun h => absurd h.1 (by decide))

def failingData : SmartData where
  serialNumber := "S1"
  temperature := 40
  smartStatus := .unknown
  diskName := "/dev/sda"
  diskType := "sat"

theorem sata_status_unknown :
    (parseSmartForSata asciiText (some failingDisk) fun _ => none).2.1 = true ∧
      (parseSmartForSata asciiText (some failingDisk) fun _ => none).1 "S1" =
        some failingData ∧ ¬ StatusMatches false failingData := by
  refine ⟨by decide, by decide, fun h => ?_⟩
  exact absurd h.1 (by decide)

end Bantay.Agent.Smart
