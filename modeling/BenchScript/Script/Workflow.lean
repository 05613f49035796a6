import BenchScript.Failure

/-!
# Workflows

A workflow lists the connected instruments and the steps of a measurement in order. Each step asks
for one capability of a device type, and may name a role or a device.
-/

namespace BenchScript

open BenchScript.Json

/-- A step of a workflow. -/
structure WorkflowStep where
  deviceType : DeviceType
  role : Option String := none
  capability : Capability
  deviceName : Option String := none
  /-- A device name as it stands in a context field, such as `(scope)`. -/
  deviceContext : Option String := none
  paramValue : Option String := none
deriving Repr, DecidableEq

/-- A workflow. -/
structure Workflow where
  backend : Backend := .pyvisa
  devices : List ConnectedDevice := []
  steps : List WorkflowStep
deriving Repr, DecidableEq

/-- Why a workflow document is rejected. -/
inductive WorkflowFault
  | tag (e : TagError)
  | paramValue (v : Value)

/-- The wording of a fault. -/
def WorkflowFault.message : WorkflowFault → String
  | tag e => e.message
  | paramValue v =>
    "expected a string, number or boolean parameter value, got " ++ v.canonical.compactText

/-- Why no workflow was read. -/
inductive WorkflowError
  /-- A file cannot be read as text. -/
  | unreadable (path : String)
  /-- A text does not describe a workflow. -/
  | invalid (e : ReadError WorkflowFault)

/-- The failure for a workflow that was not read. -/
def WorkflowError.failure : WorkflowError → Failure
  | .unreadable path => ⟨"Failed to read workflow '" ++ path ++ "'", [.unreadable]⟩
  | .invalid e => ⟨"Invalid workflow document", [readCause WorkflowFault.message e]⟩

namespace Workflow

/-- Readers of parts of a workflow. -/
abbrev WorkflowReader (α : Type) := Reader WorkflowFault α

/-- Reads a string that `ofTag` understands. -/
def readTag {α : Type} (ofTag : String → Except TagError α) : WorkflowReader α := fun n => do
  let s ← readString n
  (ofTag s).mapError fun e => .data (.rejected (.tag e))

/-- How deep a parameter value lies in a workflow: in a step, among the steps, in the workflow. -/
def paramValueDepth : Nat := 3

/-- Reads a parameter value. Numbers and truth values are taken as text. -/
def readParamValue : WorkflowReader (Option String) := fun n =>
  match n.value? (depthLimit - paramValueDepth) with
  | none => .error .malformed
  | some .null => .ok none
  | some (.string s) => .ok (some s)
  | some (.number x) => .ok (some (String.ofList x.text))
  | some (.bool b) => .ok (some (String.ofList (boolText b)))
  | some v => .error (.data (.rejected (.paramValue v)))

/-- How a step is written. -/
def stepShape : Shape WorkflowFault WorkflowStep where
  name := "WorkflowStep"
  fields := [
    .of "device_type" true (readTag DeviceType.ofTag) fun d s => { s with deviceType := d },
    .of "role" false (readOption readString) fun r s => { s with role := r },
    .of "capability" true (readTag Capability.ofTag) fun c s => { s with capability := c },
    .of "device_name" false (readOption readString) fun t s => { s with deviceName := t },
    .of "device_context" false (readOption readString) fun t s => { s with deviceContext := t },
    .of "param_value" false readParamValue fun t s => { s with paramValue := t }]
  blank := { deviceType := .scope, capability := .setVoltage }
  skipsUnknown := true

/-- How a connected device is written. -/
def deviceShape : Shape WorkflowFault ConnectedDevice where
  name := "ConnectedDevice"
  fields := [
    .of "name" true readString fun t d => { d with name := t },
    .of "device_type" true (readTag DeviceType.ofTag) fun t d => { d with deviceType := t }]
  blank := ⟨"", .scope⟩
  skipsUnknown := true

/-- How a workflow is written. -/
def shape : Shape WorkflowFault Workflow where
  name := "Workflow"
  fields := [
    .of "backend" false (readTag Backend.ofTag) fun b w => { w with backend := b },
    .of "devices" false (readList deviceShape.read) fun ds w => { w with devices := ds },
    .of "steps" true (readList stepShape.read) fun ss w => { w with steps := ss }]
  blank := { steps := [] }
  skipsUnknown := true

/-- Reads a workflow. -/
def parse (text : String) : Except WorkflowError Workflow :=
  ((readDocument text).read shape.read).mapError .invalid

/-- Reads the workflow of a file, given what the file holds if it can be read. -/
def ofFile (path : String) (content : Option String) : Except WorkflowError Workflow :=
  match content with
  | none => .error (.unreadable path)
  | some text => parse text

end Workflow

end BenchScript
