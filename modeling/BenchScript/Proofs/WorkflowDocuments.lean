import BenchScript.Proofs.ObjectMembers
import BenchScript.Proofs.Tags
import BenchScript.Script.Workflow

/-!
# Documents of workflows

What a document has to say of a workflow, of its devices and of its steps: under which keys, with
which values, and what may be left out. Every document that says it is read as that workflow
(`workflow_document_decodes`), however its texts are spelled, in whatever order its members come
and whatever else it holds.
-/

namespace BenchScript

open BenchScript.Json BenchScript.Text

/-! ## Values -/

/-- Whether a part of a document is a string that spells this text. -/
def IsText (s : String) (n : Node) : Prop := ∃ ps, n = .string ps ∧ Spells ps s.toList

/-- Whether a part of a document is a string for this text, or null if there is none. -/
def IsOptionalText : Option String → Node → Prop
  | none, n => n = .null
  | some s, n => IsText s n

/-- Whether a part of a document is a string with this tag, in any spelling. -/
def IsTag (tag : String) (n : Node) : Prop :=
  ∃ s : String, SpellsTag tag s.toList ∧ IsText s n

/-! ## What is said -/

/-- What a document says of a connected device. -/
def ConnectedDevice.clauses (d : ConnectedDevice) : List Clause :=
  [⟨"name", IsText d.name, False⟩, ⟨"device_type", IsTag d.deviceType.tag, False⟩]

/-- What a document says of a step. -/
def WorkflowStep.clauses (s : WorkflowStep) : List Clause :=
  [⟨"device_type", IsTag s.deviceType.tag, False⟩,
    ⟨"role", IsOptionalText s.role, s.role = none⟩,
    ⟨"capability", IsTag s.capability.tag, False⟩,
    ⟨"device_name", IsOptionalText s.deviceName, s.deviceName = none⟩,
    ⟨"device_context", IsOptionalText s.deviceContext, s.deviceContext = none⟩,
    ⟨"param_value", IsOptionalText s.paramValue, s.paramValue = none⟩]

/-- What a document says of a workflow. -/
def Workflow.clauses (w : Workflow) : List Clause :=
  [⟨"backend", IsTag w.backend.tag, w.backend = .pyvisa⟩,
    ⟨"devices", IsListOf (fun d n => n.Says d.clauses) w.devices, w.devices = []⟩,
    ⟨"steps", IsListOf (fun s n => n.Says s.clauses) w.steps, False⟩]

/-! ## Reading it -/

variable {ε α : Type} {n : Node}

theorem readString_of_isText {s : String} (h : IsText s n) :
    (readString n : Except (ReadError ε) String) = .ok s := by
  obtain ⟨ps, rfl, hps⟩ := h
  rw [readString, hps.text?_eq]

theorem readOption_of_isOptionalText {t : Option String} (h : IsOptionalText t n) :
    (readOption readString n : Except (ReadError ε) (Option String)) = .ok t := by
  cases t with
  | none =>
    obtain rfl : n = .null := h
    rfl
  | some s =>
    have hread : (readString n : Except (ReadError ε) String) = .ok s := readString_of_isText h
    obtain ⟨ps, rfl, -⟩ : IsText s n := h
    rw [readOption_of_ne_null (by nofun), hread]
    rfl

namespace Workflow

theorem readTag_of_isTag {ofTag : String → Except TagError α} {a : α} {tag : String}
    (htag : ∀ s : String, SpellsTag tag s.toList → ofTag s = .ok a) (h : IsTag tag n) :
    readTag ofTag n = .ok a := by
  obtain ⟨s, hs, htext⟩ := h
  rw [readTag, readString_of_isText htext]
  show (ofTag s).mapError _ = _
  rw [htag s hs]
  rfl

theorem readParamValue_of_isOptionalText {t : Option String} (h : IsOptionalText t n) :
    readParamValue n = .ok t := by
  cases t with
  | none =>
    obtain rfl : n = .null := h
    rfl
  | some s =>
    obtain ⟨ps, rfl, hps⟩ : IsText s n := h
    have hvalue : (Node.string ps).value? (depthLimit - paramValueDepth) = some (.string s) := by
      rw [Node.value?, hps.text?_eq, Option.map_some]
    simp only [readParamValue, hvalue]

theorem anyOrder_deviceShape : deviceShape.AnyOrder := by
  simp only [Shape.AnyOrder, deviceShape, List.pairwise_cons, List.forall_mem_cons,
    List.not_mem_nil, false_implies, implies_true, List.Pairwise.nil, and_true]
  exact Field.commutes_of fun _ _ _ => rfl

theorem anyOrder_stepShape : stepShape.AnyOrder := by
  simp only [Shape.AnyOrder, stepShape, List.pairwise_cons, List.forall_mem_cons,
    List.not_mem_nil, false_implies, implies_true, List.Pairwise.nil, and_true]
  and_intros <;> exact Field.commutes_of fun _ _ _ => rfl

theorem anyOrder_shape : shape.AnyOrder := by
  simp only [Shape.AnyOrder, shape, List.pairwise_cons, List.forall_mem_cons,
    List.not_mem_nil, false_implies, implies_true, List.Pairwise.nil, and_true]
  and_intros <;> exact Field.commutes_of fun _ _ _ => rfl

theorem readClauses_device (d : ConnectedDevice) :
    ReadClauses deviceShape.fields d.clauses deviceShape.blank d :=
  .of (fun _ _ h => readString_of_isText h) nofun
    (.of (fun _ _ h => readTag_of_isTag (fun _ => DeviceType.ofTag_of_spellsTag) h) nofun (.nil _))

theorem readClauses_step (s : WorkflowStep) :
    ReadClauses stepShape.fields s.clauses stepShape.blank s :=
  .of (fun _ _ h => readTag_of_isTag (fun _ => DeviceType.ofTag_of_spellsTag) h) nofun
    (.of (fun _ _ h => readOption_of_isOptionalText h) (fun h => ⟨rfl, by rw [h]; rfl⟩)
    (.of (fun _ _ h => readTag_of_isTag (fun _ => Capability.ofTag_of_spellsTag) h) nofun
    (.of (fun _ _ h => readOption_of_isOptionalText h) (fun h => ⟨rfl, by rw [h]; rfl⟩)
    (.of (fun _ _ h => readOption_of_isOptionalText h) (fun h => ⟨rfl, by rw [h]; rfl⟩)
    (.of (fun _ _ h => readParamValue_of_isOptionalText h) (fun h => ⟨rfl, by rw [h]; rfl⟩)
    (.nil _))))))

theorem read_device {d : ConnectedDevice} (hn : n.wellFormed) (h : n.Says d.clauses) :
    deviceShape.read n = .ok d :=
  Shape.read_of_says (by decide) rfl anyOrder_deviceShape (readClauses_device d) hn h

theorem read_step {s : WorkflowStep} (hn : n.wellFormed) (h : n.Says s.clauses) :
    stepShape.read n = .ok s :=
  Shape.read_of_says (by decide) rfl anyOrder_stepShape (readClauses_step s) hn h

theorem readClauses_workflow (w : Workflow) : ReadClauses shape.fields w.clauses shape.blank w :=
  .of (fun _ _ h => readTag_of_isTag (fun _ => Backend.ofTag_of_spellsTag) h)
    (fun h => ⟨rfl, by rw [h]; rfl⟩)
    (.of (fun _ hn h => readList_of_isListOf (fun _ _ => read_device) hn h)
      (fun h => ⟨rfl, by rw [h]; rfl⟩)
    (.of (fun _ hn h => readList_of_isListOf (fun _ _ => read_step) hn h) nofun (.nil _)))

end Workflow

/-- **Documents are read as the workflows that they describe.** The members of the document, of its
devices and of its steps come in any order, among any others; what is absent is left out or null;
tags are in any spelling, and strings written with any escapes. -/
theorem workflow_document_decodes {w : Workflow} {n : Node} {text : String}
    (htext : n.IsWrittenAs text) (hn : n.Says w.clauses) : Workflow.parse text = .ok w := by
  have hread : Workflow.shape.read n = .ok w :=
    Shape.read_of_says (by decide) rfl Workflow.anyOrder_shape (Workflow.readClauses_workflow w)
      htext.wellFormed hn
  rw [Workflow.parse, readDocument_of_isWrittenAs htext, Document.read, hread]
  rfl

/-! ## A document that says more, in another order -/

/-- A device with a name in quotes. -/
def quotedScope : ConnectedDevice := ⟨"scope \"A\"", .scope⟩

def acquireOne : WorkflowStep where
  deviceType := .scope
  capability := .acquireWaveform
  deviceName := some quotedScope.name
  paramValue := some "1"

/-- One acquisition, with everything else left at its default. -/
def oneAcquisition : Workflow where
  devices := [quotedScope]
  steps := [acquireOne]

def quotedScopeMembers : List (String × Value) :=
  [("name", .string "scope \"A\""), ("device_type", .string "Scope")]

def acquireOneMembers : List (String × Value) :=
  [("device_type", .string " scope"), ("role", .null), ("capability", .string "Acquire_WAVEFORM\n"),
    ("device_name", .string "scope \"A\""), ("param_value", .string "1")]

def noteMember : String × Value := ("note", .object [("steps", .array [])])

def versionMember : String × Value := ("version", .array [.number (.integer (-1)), .bool true])

def oneAcquisitionMembers : List (String × Value) :=
  [("devices", .array [.object quotedScopeMembers.reverse]),
    ("steps", .array [.object (noteMember :: acquireOneMembers).reverse])]

/-- The document of this workflow, with the members of all objects in reverse: a note ends the
step, and a version ends the document. -/
def oneAcquisitionDocument : Value := .object (versionMember :: oneAcquisitionMembers).reverse

theorem isText_toNode (s : String) : IsText s (Value.string s).toNode :=
  ⟨literalPieces s, rfl, spells_literalPieces s⟩

theorem sayInOrder_quotedScopeMembers :
    SayInOrder quotedScope.clauses (memberNodes quotedScopeMembers) :=
  .given (spells_literalPieces _) (isText_toNode _) (.given (spells_literalPieces _)
    ⟨_, ⟨[], "Scope".toList, [], rfl, nofun, nofun, rfl⟩, isText_toNode _⟩ .nil)

theorem sayInOrder_acquireOneMembers :
    SayInOrder acquireOne.clauses (memberNodes acquireOneMembers) :=
  .given (spells_literalPieces _)
      ⟨_, ⟨[' '], "scope".toList, [], rfl, List.forall_mem_singleton.2 rfl, nofun, rfl⟩,
        isText_toNode _⟩
    (.given (spells_literalPieces _) rfl
    (.given (spells_literalPieces _)
      ⟨_, ⟨[], "Acquire_WAVEFORM".toList, ['\n'], rfl, nofun, List.forall_mem_singleton.2 rfl, rfl⟩,
        isText_toNode _⟩
    (.given (spells_literalPieces _) (isText_toNode _)
    (.omitted rfl
    (.given (spells_literalPieces _) (isText_toNode _) .nil)))))

theorem workflow_document_decodes_oneAcquisition :
    Workflow.parse oneAcquisitionDocument.prettyText = .ok oneAcquisition := by
  have htext : oneAcquisitionDocument.toNode.IsWrittenAs oneAcquisitionDocument.prettyText :=
    Value.isWrittenAs_prettyText (by decide)
  have hdevice : (Value.object quotedScopeMembers.reverse).toNode.Says quotedScope.clauses :=
    says_toNode [] (List.reverse_perm _) sayInOrder_quotedScopeMembers nofun
  have hstep := says_toNode [noteMember] (List.reverse_perm _) sayInOrder_acquireOneMembers
    (by decide)
  have hmembers : SayInOrder oneAcquisition.clauses (memberNodes oneAcquisitionMembers) :=
    .omitted rfl (.given (spells_literalPieces _) ⟨_, rfl, .cons hdevice .nil⟩
      (.given (spells_literalPieces _) ⟨_, rfl, .cons hstep .nil⟩ .nil))
  exact workflow_document_decodes htext
    (says_toNode [versionMember] (List.reverse_perm _) hmembers (by decide))

end BenchScript
