import BenchScript.Command.Table
import BenchScript.Script.Settings
import BenchScript.Script.Target

/-!
# Script generation

From a workflow to the lines of a script. A run decides for each step, in order, whether it is
emitted and for which target; the lines and the log of the run follow from these decisions.
-/

namespace BenchScript

/-- A step whose device is known. -/
structure ResolvedStep where
  deviceType : DeviceType
  capability : Capability
  backend : Backend
  deviceName : String
  paramValue : Option String := none
deriving Repr, DecidableEq

namespace ResolvedStep

/-- The pattern of the step's line. -/
def pattern (s : ResolvedStep) : Pattern :=
  .of s.deviceType s.capability s.backend s.deviceName

/-- The line for the step. -/
def line (s : ResolvedStep) : String := s.pattern.render s.paramValue

end ResolvedStep

/-- A generator of scripts. -/
structure Generator where
  settings : Settings
  /-- The commands against which raw commands are checked. -/
  table : Option CommandTable := none

/-- What becomes of a step. -/
inductive Outcome
  | noDevice
  | unsupported (target : Target)
  | emitted (target : Target)
deriving Repr, DecidableEq

/-- The target used last, after a step. -/
def Outcome.next (previous : Option Target) : Outcome → Option Target
  | emitted t => some t
  | noDevice | unsupported _ => previous

/-- A step in a run. -/
structure Entry where
  /-- The number of the step, from one on. -/
  number : Nat
  step : WorkflowStep
  outcome : Outcome
deriving Repr, DecidableEq

/-- The report on a setting that was replaced. -/
def SettingChange.event (c : SettingChange) : Event :=
  .settingChanged c.field c.before c.after c.reason.message

/-- The report on the role table. -/
def roleTableEvents : List Event :=
  let found := roleInconsistencies
  found.map (fun (r, d) => .roleWithoutCapability r.name d) ++
    if found.isEmpty then [] else [.rolesInconsistent found.length]

namespace Generator

/-- A generator with the given settings, made usable, and the report on that. -/
def create (settings : Settings) : Generator × List Event :=
  let (usable, changes) := settings.sanitize
  (⟨usable, none⟩,
    changes.map (·.event) ++ if usable.checkRoleTable then roleTableEvents else [])

/-- The report on the pattern for a step, for diagnosis. -/
def patternEvents (diagnostics : Bool) (device : DeviceType) (capability : Capability)
    (backend : Backend) : List Event :=
  if diagnostics && driveMethod device backend == .highLevel &&
      (highLevelCall? device capability).isNone then
    [.noHighLevelCall device capability]
  else []

/-- What becomes of a step, given the target used last. -/
def outcome (g : Generator) (devices : List ConnectedDevice) (previous : Option Target)
    (s : WorkflowStep) : Outcome :=
  match s.target? devices previous with
  | none => .noDevice
  | some t =>
    if g.settings.skipUnsupported && !t.deviceType.has s.capability then .unsupported t
    else .emitted t

/-- The run over steps, the first of which has the given number. -/
def runFrom (g : Generator) (devices : List ConnectedDevice) :
    Nat → Option Target → List WorkflowStep → List Entry
  | _, _, [] => []
  | k, previous, s :: ss =>
    let o := g.outcome devices previous s
    ⟨k, s, o⟩ :: runFrom g devices (k + 1) (o.next previous) ss

@[simp] theorem map_step_runFrom (g : Generator) (devices : List ConnectedDevice) (k : Nat)
    (previous : Option Target) (steps : List WorkflowStep) :
    (g.runFrom devices k previous steps).map (·.step) = steps := by
  induction steps generalizing k previous with
  | nil => rfl
  | cons s ss ih => simp [runFrom, ih]

/-- The run over the steps of a workflow. -/
def run (g : Generator) (w : Workflow) : List Entry := g.runFrom w.devices 1 none w.steps

/-- The comment in place of a step that is skipped. -/
def comment (g : Generator) (number : Nat) (reason : String) : String :=
  s!"{g.settings.commentPrefix} step {number} skipped: {reason}"

/-- The report on the line for a step. -/
def stepEvents (g : Generator) (diagnostics : Bool) (s : ResolvedStep) : List Event :=
  patternEvents diagnostics s.deviceType s.capability s.backend ++
  (match g.table, s.paramValue with
    | some table, some value =>
      if s.pattern.generic then
        (table.validate value).map (.commandIssue value s.deviceName)
      else []
    | _, _ => []) ++
  if s.pattern.lacksValue s.paramValue then [.missingValue s.capability s.deviceName] else []

end Generator

namespace Entry

/-- The step, for its target. -/
def resolved (e : Entry) (backend : Backend) (t : Target) : ResolvedStep :=
  ⟨t.deviceType, e.step.capability, backend, t.name, e.step.paramValue⟩

/-- The line for a step, if there is one. -/
def line? (e : Entry) (g : Generator) (backend : Backend) : Option String :=
  let comment (reason : String) :=
    if g.settings.emitComments then some (g.comment e.number reason) else none
  match e.outcome with
  | .noDevice => comment "no device available"
  | .unsupported t => comment s!"{t.deviceType.tag} does not support '{e.step.capability.tag}'"
  | .emitted t => some (e.resolved backend t).line

/-- The report on a role that the target of the step does not fulfil. -/
def roleEvents (e : Entry) (diagnostics : Bool) (t : Target) : List Event :=
  match e.step.role with
  | some role =>
    if diagnostics && !t.deviceType.fulfils role then
      [.roleNotFulfilled e.number t.deviceType role]
    else []
  | none => []

/-- The report on a step. -/
def events (e : Entry) (g : Generator) (diagnostics : Bool) (backend : Backend) : List Event :=
  match e.outcome with
  | .noDevice => [.noDevice e.number e.step.deviceType e.step.capability]
  | .unsupported t =>
    e.roleEvents diagnostics t ++ [.unsupported e.number t.deviceType e.step.capability]
  | .emitted t => e.roleEvents diagnostics t ++ g.stepEvents diagnostics (e.resolved backend t)

end Entry

namespace Generator

/-- The lines of the script for a workflow. -/
def lines (g : Generator) (w : Workflow) : List String :=
  (g.run w).filterMap (·.line? g w.backend)

/-- The log of the run over a workflow. -/
def events (g : Generator) (diagnostics : Bool) (w : Workflow) : List Event :=
  (g.run w).flatMap (·.events g diagnostics w.backend)

end Generator

/-- The text of a script. -/
def scriptText (lines : List String) : String := "\n".intercalate lines

end BenchScript
