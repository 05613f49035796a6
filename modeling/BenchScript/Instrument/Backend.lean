import BenchScript.Text.Blank
import BenchScript.Text.Case

/-!
# Backends

The control dialects that a script can be written in.
-/

namespace BenchScript

open BenchScript.Text

/-- The dialect of a whole script. -/
inductive Backend
  /-- Generic instrument protocol with writes and queries. -/
  | pyvisa
  /-- High-level device binding. -/
  | tmDevices
  /-- Direct low-level protocol. -/
  | vxi11
  /-- Fast waveform transfer only. -/
  | tekhsi
  /-- Control and data split over two other dialects. -/
  | hybrid
deriving Repr, DecidableEq

namespace Backend

/-- All backends. -/
def all : List Backend := [pyvisa, tmDevices, vxi11, tekhsi, hybrid]

theorem mem_all (b : Backend) : b ∈ all := by cases b <;> decide

/-- The tag of a backend. -/
def tag : Backend → String
  | pyvisa => "pyvisa"
  | tmDevices => "tm_devices"
  | vxi11 => "vxi11"
  | tekhsi => "tekhsi"
  | hybrid => "hybrid"

/-- The backend that a tag stands for, in any case and with blanks around it. -/
def ofTag? (text : String) : Option Backend :=
  let name := String.ofList (lower (trim text.toList))
  all.find? fun b => b.tag == name

end Backend

end BenchScript
