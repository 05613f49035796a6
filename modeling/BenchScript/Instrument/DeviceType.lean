import BenchScript.Instrument.Capability

/-!
# Device types

The kinds of instrument that a script can drive, their tags, and the capabilities that each kind
is declared to have. What mainframes and switch systems can do depends on the modules in them, so
they have none of their own.
-/

namespace BenchScript

open BenchScript.Text

/-- A kind of instrument. -/
inductive DeviceType
  /-- Oscilloscope. -/
  | scope
  /-- Arbitrary waveform generator. -/
  | awg
  /-- Arbitrary function generator. -/
  | afg
  /-- Bench power supply. -/
  | psu
  /-- Source-measure unit. -/
  | smu
  /-- Digital multimeter. -/
  | dmm
  /-- Data acquisition unit. -/
  | daq
  /-- Modular mainframe. -/
  | mainframe
  /-- Switch system. -/
  | switchSystem
deriving Repr, DecidableEq

namespace DeviceType

/-- All device types. -/
def all : List DeviceType := [scope, awg, afg, psu, smu, dmm, daq, mainframe, switchSystem]

theorem mem_all (d : DeviceType) : d ∈ all := by cases d <;> decide

/-- The tag of a device type. -/
def tag : DeviceType → String
  | scope => "SCOPE"
  | awg => "AWG"
  | afg => "AFG"
  | psu => "PSU"
  | smu => "SMU"
  | dmm => "DMM"
  | daq => "DAQ"
  | mainframe => "MF"
  | switchSystem => "SS"

/-- Other names of a device type. -/
def aliases : DeviceType → List String
  | scope => ["OSCILLOSCOPE"]
  | psu => ["POWER_SUPPLY"]
  | dmm => ["MULTIMETER"]
  | mainframe => ["MAINFRAME"]
  | switchSystem => ["SWITCH_SYSTEM"]
  | _ => []

/-- The device type that a tag or other name stands for, in any case and with blanks around it. -/
def ofTag? (text : String) : Option DeviceType :=
  let name := String.ofList (upper (trim text.toList))
  all.find? fun d => (d.tag :: d.aliases).contains name

/-- The capabilities of a device type. -/
def capabilities : DeviceType → List Capability
  | scope => [.acquireWaveform, .saveWaveform, .saveScreenshot, .measureFrequency,
      .measureAmplitude, .measureVoltage]
  | awg => [.generateSignal, .enableOutput]
  | afg => [.generateSignal, .enableOutput]
  | psu => [.setVoltage, .setCurrent, .measureVoltage, .measureCurrent, .enableOutput]
  | smu => [.setVoltage, .setCurrent, .measureVoltage, .measureCurrent, .enableOutput]
  | dmm => [.measureVoltage, .measureCurrent, .measureFrequency]
  | daq => [.measureVoltage, .measureCurrent]
  | mainframe => []
  | switchSystem => []

/-- Whether a device type has a capability. -/
def has (d : DeviceType) (c : Capability) : Bool := d.capabilities.contains c

end DeviceType

end BenchScript
