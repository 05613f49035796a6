import BenchScript.Text.Blank
import BenchScript.Text.Case

/-!
# Capabilities

The operations that an instrument may support, and their tags.
-/

namespace BenchScript

open BenchScript.Text

/-- One operation of an instrument. -/
inductive Capability
  | setVoltage
  | measureVoltage
  | setCurrent
  | measureCurrent
  | enableOutput
  | acquireWaveform
  | saveWaveform
  | saveScreenshot
  | generateSignal
  | measureFrequency
  | measureAmplitude
deriving Repr, DecidableEq

namespace Capability

/-- All capabilities. -/
def all : List Capability :=
  [setVoltage, measureVoltage, setCurrent, measureCurrent, enableOutput, acquireWaveform,
    saveWaveform, saveScreenshot, generateSignal, measureFrequency, measureAmplitude]

theorem mem_all (c : Capability) : c ∈ all := by cases c <;> decide

/-- The tag of a capability. -/
def tag : Capability → String
  | setVoltage => "set_voltage"
  | measureVoltage => "measure_voltage"
  | setCurrent => "set_current"
  | measureCurrent => "measure_current"
  | enableOutput => "enable_output"
  | acquireWaveform => "acquire_waveform"
  | saveWaveform => "save_waveform"
  | saveScreenshot => "save_screenshot"
  | generateSignal => "generate_signal"
  | measureFrequency => "measure_frequency"
  | measureAmplitude => "measure_amplitude"

/-- Other names of a capability. -/
def aliases : Capability → List String
  | acquireWaveform => ["acquire"]
  | enableOutput => ["output_enable"]
  | _ => []

/-- The capability that a tag or other name stands for, in any case and with blanks around it. -/
def ofTag? (text : String) : Option Capability :=
  let name := String.ofList (lower (trim text.toList))
  all.find? fun c => (c.tag :: c.aliases).contains name

end Capability

end BenchScript
