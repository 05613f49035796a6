import BenchScript.Command.Issue
import BenchScript.Instrument.Role
import BenchScript.Script.Pattern
import BenchScript.Text.Quoted

/-!
# Log

What the library reports while it works. An event says what happened; its level, the part of the
library that it comes from and its wording follow from that.
-/

namespace BenchScript

open BenchScript.Text

/-- How much an event matters. -/
inductive Level
  | debug
  | info
  | warn
deriving Repr, DecidableEq

/-- The name of a level. -/
def Level.name : Level → String
  | debug => "DEBUG"
  | info => "INFO"
  | warn => "WARN"

/-- Something to report. -/
inductive Event
  /-- A setting was replaced. -/
  | settingChanged (field before after reason : String)
  /-- Entries of the role table are inconsistent. -/
  | rolesInconsistent (count : Nat)
  /-- A role lists a device type that has none of the role's capabilities. -/
  | roleWithoutCapability (role : String) (device : DeviceType)
  /-- A later command of the library took the header of a command. -/
  | headerTaken (scpi : String)
  /-- A library was loaded. -/
  | libraryLoaded (commands collapsed : Nat)
  /-- No device was found for a step. -/
  | noDevice (step : Nat) (device : DeviceType) (capability : Capability)
  /-- A device type does not fulfil the role of a step. -/
  | roleNotFulfilled (step : Nat) (device : DeviceType) (role : String)
  /-- A device type lacks the capability of a step. -/
  | unsupported (step : Nat) (device : DeviceType) (capability : Capability)
  /-- The high-level binding has no call for a capability. -/
  | noHighLevelCall (device : DeviceType) (capability : Capability)
  /-- Something is wrong with a raw command. -/
  | commandIssue (command device : String) (issue : Issue)
  /-- A step lacks the value for its line. -/
  | missingValue (capability : Capability) (device : String)

namespace Event

/-- How much an event matters. -/
def level : Event → Level
  | headerTaken .. => .debug
  | rolesInconsistent _ | libraryLoaded .. | roleNotFulfilled .. | noHighLevelCall .. => .info
  | settingChanged .. | roleWithoutCapability .. | noDevice .. | unsupported .. | commandIssue ..
  | missingValue .. => .warn

/-- The part of the library that an event comes from. -/
def source : Event → String
  | headerTaken .. | libraryLoaded .. => "tekflow.rust::command_registry::registry"
  | roleWithoutCapability .. => "tekflow.rust::tekflow_common::roles"
  | noHighLevelCall .. => "tekflow.rust::codegenerator::emitter"
  | settingChanged .. | rolesInconsistent _ | noDevice .. | roleNotFulfilled .. | unsupported ..
  | commandIssue .. | missingValue .. => "tekflow.rust::codegenerator::generator"

/-- The wording of an event. -/
def message : Event → String
  | settingChanged field before after reason =>
    "Setting '" ++ field ++ "' changed from '" ++ String.ofList (escaped before.toList) ++
      "' to '" ++ after ++ "': " ++ reason
  | rolesInconsistent count => s!"Role table has {count} inconsistent entries"
  | roleWithoutCapability role device =>
    "Device type '" ++ device.tag ++ "' is listed for role '" ++ role ++
      "' but supports none of its capabilities"
  | headerTaken scpi => "Header of '" ++ scpi ++ "' taken over by a later entry"
  | libraryLoaded commands collapsed =>
    s!"Command registry loaded with {commands} commands ({collapsed} duplicate headers collapsed)"
  | noDevice step device capability =>
    s!"Step {step}: no device available for {device.tag} '{capability.tag}'"
  | roleNotFulfilled step device role =>
    s!"Step {step}: {device.tag} is not registered for role '{role}'"
  | unsupported step device capability =>
    s!"Step {step}: {device.tag} does not support '{capability.tag}'"
  | noHighLevelCall device capability =>
    s!"No high-level call for '{capability.tag}' on {device.tag}, falling back to a raw command"
  | commandIssue command device issue =>
    s!"Command '{command}' on '{device}': {issue.message}"
  | missingValue capability device =>
    s!"No value given for '{capability.tag}' on '{device}', " ++
      s!"the line keeps the '{valueToken}' placeholder"

/-- An event as a line of the log. -/
def line (e : Event) : String := s!"[{e.level.name} {e.source}] {e.message}"

/-- Whether the event appears in a log without events for debugging. -/
def isShown (e : Event) : Bool := e.level != .debug

end Event

end BenchScript
