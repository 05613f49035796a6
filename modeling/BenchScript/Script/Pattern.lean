import BenchScript.Instrument.Backend
import BenchScript.Instrument.DeviceType
import BenchScript.Text.Slot

/-!
# Command patterns

The script line for a capability, before its value is known. A pattern is the name of a device
variable followed by a call on it; the token `{value}` marks where the value goes.
-/

namespace BenchScript

open BenchScript.Text

/-- How a capability is driven. -/
inductive Method
  /-- A call of the high-level device binding. -/
  | highLevel
  /-- A write or query of an instrument command. -/
  | raw
deriving Repr, DecidableEq

/-- The token that stands for the value. -/
def valueToken : String := "\x7bvalue\x7d"

/-- Whether the high-level binding knows a device type. -/
def DeviceType.hasBinding : DeviceType → Bool
  | smu | scope | dmm | awg | afg | psu => true
  | daq | mainframe | switchSystem => false

/-- How a device type is driven under a backend. The capability does not matter here. -/
def driveMethod (device : DeviceType) (backend : Backend) : Method :=
  match backend with
  | .tmDevices => if device.hasBinding then .highLevel else .raw
  | _ => .raw

/-- A script line without its value. -/
structure Pattern where
  /-- The device variable. -/
  name : String
  /-- The call on the variable. -/
  call : String
  method : Method
  /-- Whether the line sends its value as an instrument command. -/
  generic : Bool
deriving Repr, DecidableEq

/-- The high-level call for a capability, if the binding has one. -/
def highLevelCall? (device : DeviceType) (capability : Capability) : Option String :=
  match capability, device with
  | .setVoltage, .smu => some (".commands.smu[\"a\"].source.levelv = " ++ valueToken)
  | .setCurrent, .smu => some (".commands.smu[\"a\"].source.leveli = " ++ valueToken)
  | .measureVoltage, .smu => some ".commands.smu[\"a\"].measure.v()"
  | .measureCurrent, .smu => some ".commands.smu[\"a\"].measure.i()"
  | .enableOutput, .smu => some (".commands.smu[\"a\"].source.output = " ++ valueToken)
  | .enableOutput, .afg => some (".commands.output[1].state.write(\"" ++ valueToken ++ "\")")
  | .enableOutput, .awg => some (".commands.output[1].state.write(\"" ++ valueToken ++ "\")")
  | .acquireWaveform, .scope => some (".curve_query(" ++ valueToken ++ ")")
  | .saveWaveform, .scope => some (".commands.save.waveform.write(\"" ++ valueToken ++ "\")")
  | .saveScreenshot, .scope => some (".save_screenshot(\"" ++ valueToken ++ "\")")
  | .generateSignal, .afg => some (".generate_function(" ++ valueToken ++ ")")
  | .generateSignal, .awg => some (".generate_function(" ++ valueToken ++ ")")
  | _, _ => none

/-- The raw command for a capability, and whether it sends its value as the command. -/
def rawCall (capability : Capability) : String × Bool :=
  match capability with
  | .setVoltage => (".write(\"SOURce:VOLTage " ++ valueToken ++ "\")", false)
  | .enableOutput => (".write(\"OUTPut:STATe " ++ valueToken ++ "\")", false)
  | .measureCurrent => (".query(\"MEASure:CURRent?\")", false)
  | .measureVoltage => (".query(\"MEASure:VOLTage?\")", false)
  | _ => (".write(\"" ++ valueToken ++ "\")", true)

namespace Pattern

/-- The pattern for a capability on a device variable. Where the binding has no call for the
capability the raw command is used. -/
def of (device : DeviceType) (capability : Capability) (backend : Backend) (name : String) :
    Pattern :=
  let rawPattern : Pattern := ⟨name, (rawCall capability).1, .raw, (rawCall capability).2⟩
  match driveMethod device backend with
  | .raw => rawPattern
  | .highLevel =>
    match highLevelCall? device capability with
    | some call => ⟨name, call, .highLevel, false⟩
    | none => rawPattern

/-- The characters of a pattern. -/
def chars (p : Pattern) : List Char := p.name.toList ++ p.call.toList

/-- The text of a pattern. -/
def text (p : Pattern) : String := String.ofList p.chars

/-- Whether the token occurs in the pattern. -/
def usesValue (p : Pattern) : Bool := occursIn valueToken.toList p.chars

/-- Whether the pattern needs a value and none is given. -/
def lacksValue (p : Pattern) (value : Option String) : Bool := value.isNone && p.usesValue

/-- The line with the value in place of the token; without a value, the text of the pattern. -/
def render (p : Pattern) (value : Option String) : String :=
  match value with
  | some v => String.ofList (fill valueToken.toList v.toList p.chars)
  | none => p.text

end Pattern

end BenchScript
