import BenchScript.Instrument.DeviceType

/-!
# Roles

The parts that a step of a workflow can ask an instrument to play, and the choice of a connected
instrument for a role: first by the role's preference among device types, then by the order of
connection.
-/

namespace BenchScript

open BenchScript.Text

/-- A role: its name, the device types that fulfil it, the preferred ones first, and the
capabilities of which such a device has one. A role without capabilities only groups devices. -/
structure Role where
  name : String
  fulfillers : List DeviceType
  capabilities : List Capability
deriving Repr, DecidableEq

/-- An instrument connected under a name. -/
structure ConnectedDevice where
  name : String
  deviceType : DeviceType
deriving Repr, DecidableEq

namespace Role

/-- The known roles. -/
def all : List Role := [
  ⟨"psu", [.psu], [.setVoltage, .setCurrent, .enableOutput]⟩,
  ⟨"power_supply", [.psu, .smu], [.setVoltage, .setCurrent, .enableOutput]⟩,
  ⟨"voltage_source", [.psu, .smu], [.setVoltage]⟩,
  ⟨"current_source", [.smu, .psu], [.setCurrent]⟩,
  ⟨"smu", [.smu], [.setVoltage, .setCurrent, .measureVoltage, .measureCurrent]⟩,
  ⟨"scope", [.scope], [.acquireWaveform, .saveWaveform, .saveScreenshot]⟩,
  ⟨"oscilloscope", [.scope], [.acquireWaveform, .saveWaveform, .saveScreenshot]⟩,
  ⟨"waveform_capture", [.scope], [.acquireWaveform]⟩,
  ⟨"dmm", [.dmm, .daq], [.measureVoltage, .measureCurrent]⟩,
  ⟨"multimeter", [.dmm, .daq], [.measureVoltage, .measureCurrent]⟩,
  ⟨"voltmeter", [.dmm, .daq, .smu, .scope], [.measureVoltage]⟩,
  ⟨"ammeter", [.dmm, .daq, .smu], [.measureCurrent]⟩,
  ⟨"frequency_counter", [.scope, .dmm], [.measureFrequency]⟩,
  ⟨"daq", [.daq], [.measureVoltage, .measureCurrent]⟩,
  ⟨"signal_source", [.afg, .awg], [.generateSignal]⟩,
  ⟨"function_generator", [.afg], [.generateSignal]⟩,
  ⟨"awg", [.awg], [.generateSignal]⟩,
  ⟨"afg", [.afg], [.generateSignal]⟩,
  ⟨"mainframe", [.mainframe], []⟩,
  ⟨"switch", [.switchSystem], []⟩]

/-- The role that a text names, in any case and with blanks around it. -/
def find? (text : String) : Option Role :=
  let name := String.ofList (lower (trim text.toList))
  all.find? (·.name == name)

/-- The fulfillers that have none of the role's capabilities, where it has any. -/
def inconsistencies (r : Role) : List DeviceType :=
  if r.capabilities.isEmpty then [] else r.fulfillers.filter fun d => !r.capabilities.any d.has

end Role

/-- The device types that fulfil a role, the preferred ones first; none for an unknown role. -/
def fulfillers (role : String) : List DeviceType :=
  match Role.find? role with
  | some r => r.fulfillers
  | none => []

/-- Whether a device type fulfils a role. -/
def DeviceType.fulfils (d : DeviceType) (role : String) : Bool := (fulfillers role).contains d

/-- Whether a device type can be driven as a power supply: it fulfils that role or can set a
voltage. -/
def DeviceType.drivesSupply (d : DeviceType) : Bool := d.fulfils "psu" || d.has .setVoltage

/-- The first connected device of a type. -/
def firstOfType? (devices : List ConnectedDevice) (d : DeviceType) : Option ConnectedDevice :=
  devices.find? (·.deviceType == d)

/-- The connected device that serves a role. -/
def deviceForRole? (role : String) (devices : List ConnectedDevice) : Option ConnectedDevice :=
  (fulfillers role).findSome? (firstOfType? devices)

/-- The entries of the role table that list a device type without any of the role's
capabilities. -/
def roleInconsistencies : List (Role × DeviceType) :=
  Role.all.flatMap fun r => r.inconsistencies.map fun d => (r, d)

end BenchScript
