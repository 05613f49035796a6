import BenchScript.Script.Context
import BenchScript.Script.Workflow

/-!
# Targets

The device variable that a step runs against. In order of precedence it is given by the step's
context, by its device name, by its role among the connected devices, by the device used before if
that is of the type of the step, or else it is the first connected device of that type.
-/

namespace BenchScript

open BenchScript.Text

/-- A device variable and the type that it is driven as. -/
structure Target where
  name : String
  deviceType : DeviceType
deriving Repr, DecidableEq

/-- The connected device as a target. -/
def ConnectedDevice.target (d : ConnectedDevice) : Target := ⟨d.name, d.deviceType⟩

/-- The target with a name: it has the type of the first connected device of that name, or the
given type if there is none. -/
def namedTarget (devices : List ConnectedDevice) (declared : DeviceType) (name : String) : Target :=
  match devices.find? (·.name == name) with
  | some d => ⟨name, d.deviceType⟩
  | none => ⟨name, declared⟩

namespace WorkflowStep

/-- The device name that the step gives, by its context or else by its name field. -/
def explicitName? (s : WorkflowStep) : Option String :=
  (s.deviceContext.bind contextName?).or <|
    s.deviceName.bind fun name =>
      let name := trim name.toList
      if name.isEmpty then none else some (String.ofList name)

/-- The connected device that serves the role of the step. -/
def roleDevice? (s : WorkflowStep) (devices : List ConnectedDevice) : Option ConnectedDevice :=
  s.role.bind (deviceForRole? · devices)

/-- The target of a step, given the one used before. -/
def target? (s : WorkflowStep) (devices : List ConnectedDevice) (previous : Option Target) :
    Option Target :=
  match s.explicitName? with
  | some name => some (namedTarget devices s.deviceType name)
  | none =>
    match s.roleDevice? devices with
    | some d => some d.target
    | none =>
      match previous.filter (·.deviceType == s.deviceType) with
      | some t => some t
      | none => (firstOfType? devices s.deviceType).map (·.target)

end WorkflowStep

end BenchScript
