import BenchScript.Proofs.LiteralTexts
import BenchScript.Proofs.Places
import BenchScript.Proofs.Run

/-!
# Parameter values of documents

What a number or a truth value becomes that a document gives as the parameter value of a step
(`number_literal_becomes_text`). Truth values and integers of 64 bits are kept as they are written.
Any other number is read as a float and printed again, so just those are kept whose literal is the
text of the float.
-/

namespace BenchScript

open BenchScript.Json BenchScript.Decimal

/-! ## Places of parameter values -/

namespace Workflow

theorem finds_steps : shape.Finds "steps" (readList stepShape.read) Workflow.steps := by
  refine .of_forall (by decide) (by decide) ?_
  simp only [shape, List.forall_mem_cons, List.not_mem_nil, false_implies, implies_true, and_true]
  exact ⟨.inr ⟨by decide, fun _ _ _ => Field.of_keeps fun _ _ => rfl⟩,
    .inr ⟨by decide, fun _ _ _ => Field.of_keeps fun _ _ => rfl⟩,
    .inl ⟨rfl, fun _ _ _ => Field.of_holds fun _ _ => rfl⟩⟩

theorem finds_paramValue :
    stepShape.Finds "param_value" readParamValue WorkflowStep.paramValue := by
  refine .of_forall (by decide) (by decide) ?_
  simp only [stepShape, List.forall_mem_cons, List.not_mem_nil, false_implies, implies_true,
    and_true]
  refine ⟨.inr ⟨by decide, ?_⟩, .inr ⟨by decide, ?_⟩, .inr ⟨by decide, ?_⟩, .inr ⟨by decide, ?_⟩,
    .inr ⟨by decide, ?_⟩, .inl ⟨rfl, fun _ _ _ => Field.of_holds fun _ _ => rfl⟩⟩ <;>
  exact fun _ _ _ => Field.of_keeps fun _ _ => rfl

/-- Whether a place is that of the parameter value of the step number `i`, from zero on. -/
def IsParamPlace (i : ℕ) (place : Node → Node) : Prop :=
  ∃ (outer inner : Node → Node) (before after : List Node), shape.HasPlace "steps" outer ∧
    stepShape.HasPlace "param_value" inner ∧ before.length = i ∧
      ∀ v, place v = outer (.array (before ++ inner v :: after) true)

/-- **The parameter value of a step** is read from its place. -/
theorem IsParamPlace.read_eq_ok {i : ℕ} {place : Node → Node} {v : Node} {w : Workflow}
    (hplace : IsParamPlace i place) (h : shape.read (place v) = .ok w) :
    ∃ s, w.steps[i]? = some s ∧ readParamValue v = .ok s.paramValue := by
  obtain ⟨outer, inner, before, after, houter, hinner, rfl, heq⟩ := hplace
  rw [heq] at h
  obtain ⟨s, hs, hread⟩ := readList_append_eq_ok (houter.read_eq_ok finds_steps h)
  exact ⟨s, hs, hinner.read_eq_ok finds_paramValue hread⟩

/-- Whether a text is that of a document in which the parameter value of the step number `i` is a
number or a truth value that is written as this literal. -/
def WritesParam (text : String) (i : ℕ) (v : Node) (literal : List Char) : Prop :=
  ∃ (place : Node → Node) (before after : List Char), IsParamPlace i place ∧
    Surrounds place before after ∧ IsLiteral v literal ∧
      text.toList = before ++ (literal ++ after)

theorem IsParamPlace.isPlace {i : ℕ} {place : Node → Node} (h : IsParamPlace i place) :
    IsPlace place := by
  obtain ⟨outer, inner, before, after, houter, hinner, -, heq⟩ := h
  obtain rfl : place = fun v => outer (.array (before ++ inner v :: after) true) := funext heq
  exact houter.isPlace.comp ((isPlace_item before after).comp hinner.isPlace)

theorem IsParamPlace.exists_writesParam {i : ℕ} {place : Node → Node} {v : Node} {text : String}
    (hplace : IsParamPlace i place) (hv : (∃ b, v = .bool b) ∨ ∃ l, v = .number l)
    (h : (place v).IsWrittenAs text) : ∃ literal, WritesParam text i v literal := by
  obtain ⟨t, htokens, hliteral⟩ : ∃ t, v.tokens = [t] ∧
      ∀ cs, t.IsWrittenAs cs → IsLiteral v cs := by
    rcases hv with ⟨b, rfl⟩ | ⟨l, rfl⟩
    · refine ⟨.bool b, rfl, fun cs hcs => ?_⟩
      cases hcs
      · exact .bool true
      · exact .bool false
    · refine ⟨.number l, rfl, fun cs hcs => ?_⟩
      cases hcs with
      | number hl => exact .number hl
  obtain ⟨before, literal, after, hsurrounds, hl, htext⟩ :=
    hplace.isPlace.exists_literal htokens hliteral h
  exact ⟨literal, place, before, after, hplace, hsurrounds, hl, htext⟩

/-- Where a literal is written, the document has its value in the place of a parameter value. -/
theorem WritesParam.exists_place {text : String} {i : ℕ} {v : Node} {literal : List Char}
    (h : WritesParam text i v literal) : IsLiteral v literal ∧
      ∃ place, IsParamPlace i place ∧ (place v).IsWrittenAs text := by
  obtain ⟨place, before, after, hplace, hsurrounds, hv, htext⟩ := h
  have hwritten := hsurrounds v literal hv.isWrittenAs
  rw [← htext, String.ofList_toList] at hwritten
  exact ⟨hv, place, hplace, hwritten⟩

/-- **Literals and places.** A text has a literal for the parameter value of a step just if it is
that of a document with a number or a truth value there. -/
theorem exists_writesParam_iff {text : String} {i : ℕ} {v : Node} :
    (∃ literal, WritesParam text i v literal) ↔ ((∃ b, v = .bool b) ∨ ∃ l, v = .number l) ∧
      ∃ place, IsParamPlace i place ∧ (place v).IsWrittenAs text := by
  constructor
  · rintro ⟨literal, h⟩
    obtain ⟨hv, hplace⟩ := h.exists_place
    refine ⟨?_, hplace⟩
    cases hv with
    | bool b => exact .inl ⟨b, rfl⟩
    | number _ => exact .inr ⟨_, rfl⟩
  · rintro ⟨hv, place, hplace, h⟩
    exact hplace.exists_writesParam hv h

/-- What is read from a literal in the place of a parameter value. -/
theorem WritesParam.read_eq_ok {text : String} {i : ℕ} {v : Node} {literal : List Char}
    {w : Workflow} (h : WritesParam text i v literal) (hw : parse text = .ok w) :
    IsLiteral v literal ∧ ∃ s, w.steps[i]? = some s ∧ readParamValue v = .ok s.paramValue := by
  obtain ⟨hv, place, hplace, hwritten⟩ := h.exists_place
  rw [parse, read_readDocument hwritten, mapError_eq_ok_iff] at hw
  exact ⟨hv, hplace.read_eq_ok hw⟩

theorem readParamValue_bool (b : Bool) :
    readParamValue (.bool b) = .ok (some (String.ofList (boolText b))) := rfl

theorem readParamValue_number_eq_ok_iff {l : Literal} {t : Option String} :
    readParamValue (.number l) = .ok t ↔
      ∃ x, l.number? = some x ∧ t = some (String.ofList x.text) := by
  have hvalue : (Node.number l).value? (depthLimit - paramValueDepth) =
      l.number?.map .number := Node.value?.eq_3 ..
  unfold readParamValue
  rw [hvalue]
  cases l.number? with
  | none => simp
  | some x => simp [eq_comm]

end Workflow

/-- The line of a step is rendered with its parameter value. -/
theorem Generator.line?_of_emitted {g : Generator} {w : Workflow} {i : ℕ} {s : WorkflowStep}
    {e : Entry} {t : Target} (hs : w.steps[i]? = some s) (he : (g.run w)[i]? = some e)
    (hemitted : e.outcome = .emitted t) (b : Backend) : e.line? g b =
      some ((Pattern.of t.deviceType s.capability b t.name).render s.paramValue) := by
  rw [getElem?_run, hs] at he
  obtain rfl := Option.some.inj he
  unfold Entry.line?
  rw [hemitted]
  rfl

/-- **Literals as parameter values.** A number or a truth value in the place of a parameter value
has a literal in the text of the document. It is taken as text, and the text is what the line of the
step is rendered with. Truth values and integers of 64 bits are kept as they are written. Any other
number is taken as the text of the float that it stands for: it is kept only if it has a point or an
exponent and its exponent has its spelling, and a short one is kept just if it also is the shortest
literal for its value. -/
theorem number_literal_becomes_text {text : String} {w : Workflow}
    (hw : Workflow.parse text = .ok w) (i : ℕ) (v : Node) :
    ((∃ literal, Workflow.WritesParam text i v literal) ↔
      ((∃ b, v = .bool b) ∨ ∃ l, v = .number l) ∧
        ∃ place, Workflow.IsParamPlace i place ∧ (place v).IsWrittenAs text) ∧
    ∀ literal, Workflow.WritesParam text i v literal →
      ∃ s t, w.steps[i]? = some s ∧ s.paramValue = some t ∧
        (∀ (g : Generator) (e : Entry) (target : Target) (b : Backend), (g.run w)[i]? = some e →
          e.outcome = .emitted target → e.line? g b =
            some ((Pattern.of target.deviceType s.capability b target.name).render (some t))) ∧
        (∀ b, v = .bool b → t = String.ofList literal) ∧
        ∀ l, v = .number l →
          (l.integer? ≠ none → t = String.ofList literal) ∧
          (l.integer? = none →
            (∃ x, l.number? = some (.float x) ∧ t = String.ofList (Number.float x).text) ∧
            (t = String.ofList literal →
              (l.fraction ≠ [] ∨ l.exponent ≠ none) ∧ literal = l.spelling) ∧
            (l.IsShort →
              t = String.ofList (signText l.negative ++ shortText l.significand l.scale) ∧
              (t = String.ofList literal ↔ literal = l.spelling ∧ l.IsShortest))) := by
  refine ⟨Workflow.exists_writesParam_iff, fun literal h => ?_⟩
  obtain ⟨hv, s, hs, hparam⟩ := h.read_eq_ok hw
  have hline {t : String} (ht : s.paramValue = some t) (g : Generator) (e : Entry)
      (target : Target) (b : Backend) (he : (g.run w)[i]? = some e)
      (hemitted : e.outcome = .emitted target) : e.line? g b =
        some ((Pattern.of target.deviceType s.capability b target.name).render (some t)) := by
    rw [Generator.line?_of_emitted hs he hemitted, ht]
  cases hv with
  | bool b =>
    have ht := (Except.ok.inj ((Workflow.readParamValue_bool b).symm.trans hparam)).symm
    exact ⟨s, _, hs, ht, hline ht, fun _ _ => rfl, nofun⟩
  | @number l literal hl =>
    obtain ⟨x, hx, ht⟩ := Workflow.readParamValue_number_eq_ok_iff.1 hparam
    refine ⟨s, _, hs, ht, hline ht, nofun, ?_⟩
    rintro _ ⟨⟩
    rw [String.ofList_inj]
    refine ⟨fun hinteger => ?_, fun hfloat => ?_⟩
    · obtain ⟨i, hi⟩ := Option.ne_none_iff_exists'.1 hinteger
      obtain rfl := Option.some.inj (hx.symm.trans (Literal.number?_of_integer? hi))
      exact hl.text_of_integer? hi
    · obtain ⟨y, rfl⟩ := Literal.exists_float_of_number? hfloat hx
      refine ⟨⟨y, hx, rfl⟩, hl.eq_spelling_of_text, fun hshort => ?_⟩
      obtain ⟨z, hz, htext⟩ := hshort.exists_text_eq hfloat
      obtain ⟨rfl⟩ : y = z := by
        cases hx.symm.trans hz
        rfl
      exact ⟨congrArg _ htext, hshort.text_eq_iff hl htext⟩

/-! ## A step that sets a voltage -/

/-- A step that sets the voltage of a supply to a value. -/
def voltageMembers (value : Node) : List (List Piece × Node) :=
  [(literalPieces "device_type", .string (literalPieces "PSU")),
    (literalPieces "capability", .string (literalPieces "set_voltage")),
    (literalPieces "param_value", value)]

/-- A document with this step alone. -/
def voltageDocument (value : Node) : Node :=
  .object [(literalPieces "steps", .array [.object (voltageMembers value) true] true)] true

/-- What stands before the value. -/
def voltageOpening : List Char :=
  '{' :: (stringText "steps" ++ ':' :: '[' :: '{' ::
    (stringText "device_type" ++ ':' :: (stringText "PSU" ++ ',' ::
      (stringText "capability" ++ ':' :: (stringText "set_voltage" ++ ',' ::
        (stringText "param_value" ++ [':']))))))

/-- The text of the document. -/
def voltageText (literal : String) : String :=
  String.ofList (voltageOpening ++ (literal.toList ++ ['}', ']', '}']))

/-- The workflow of the document. -/
def voltageWorkflow (value : String) : Workflow where
  steps := [{ deviceType := .psu, capability := .setVoltage, paramValue := some value }]

/-- The tokens before the value. -/
def voltageTokens : List Token :=
  [.openBrace, .string (literalPieces "steps"), .colon, .openBracket, .openBrace,
    .string (literalPieces "device_type"), .colon, .string (literalPieces "PSU"), .comma,
    .string (literalPieces "capability"), .colon, .string (literalPieces "set_voltage"), .comma,
    .string (literalPieces "param_value"), .colon]

theorem areWrittenAs_voltageOpening : AreWrittenAs voltageTokens voltageOpening :=
  .token .openBrace (.token (isWrittenAs_stringText _) (.token .colon (.token .openBracket
    (.token .openBrace (.token (isWrittenAs_stringText _) (.token .colon
    (.token (isWrittenAs_stringText _) (.token .comma (.token (isWrittenAs_stringText _)
    (.token .colon (.token (isWrittenAs_stringText _) (.token .comma
    (.token (isWrittenAs_stringText _) (.token .colon .nil))))))))))))))

theorem surrounds_voltageOpening : Surrounds voltageDocument voltageOpening ['}', ']', '}'] := by
  have hclosing : AreWrittenAs [.closeBrace, .closeBracket, .closeBrace] ['}', ']', '}'] :=
    .token .closeBrace (.token .closeBracket (.token .closeBrace .nil))
  refine surrounds_of_tokens areWrittenAs_voltageOpening hclosing (fun v => ?_) fun v => ?_
  · simp [voltageDocument, voltageMembers, voltageTokens, Node.tokens, memberTokens, itemTokens]
  · simp [voltageDocument, voltageMembers, Node.wellFormed, membersWellFormed, itemsWellFormed]

theorem isParamPlace_voltageDocument : Workflow.IsParamPlace 0 voltageDocument :=
  have hsteps : Workflow.shape.HasPlace "steps" _ := .member [] [] rfl
  have hvalue : Workflow.stepShape.HasPlace "param_value"
      fun v => .object (voltageMembers v) true :=
    .member [(literalPieces "device_type", .string (literalPieces "PSU")),
      (literalPieces "capability", .string (literalPieces "set_voltage"))] [] rfl
  ⟨_, _, [], [], hsteps, hvalue, rfl, fun _ => rfl⟩

theorem writesParam_voltageText {l : Literal} {literal : String}
    (hl : l.IsWrittenAs literal.toList) :
    Workflow.WritesParam (voltageText literal) 0 (.number l) literal.toList :=
  ⟨voltageDocument, voltageOpening, ['}', ']', '}'], isParamPlace_voltageDocument,
    surrounds_voltageOpening, .number hl, String.toList_ofList⟩

theorem read_voltageDocument {v : Node} {value : String}
    (hvalue : Workflow.readParamValue v = .ok (some value)) :
    Workflow.shape.read (voltageDocument v) = .ok (voltageWorkflow value) := by
  have hstep : Shape.Fills Workflow.stepShape.fields Workflow.stepShape.blank (voltageMembers v)
      { deviceType := .psu, capability := .setVoltage, paramValue := some value } :=
    .of_given (x := .psu) rfl (.omitted rfl (.of_given (x := .setVoltage) rfl
      (.omitted rfl (.omitted rfl (.of_given hvalue (.nil _))))))
  have hsteps : readList Workflow.stepShape.read (.array [.object (voltageMembers v) true] true) =
      .ok (voltageWorkflow value).steps := by
    rw [readList, readItems, hstep.read_object (by decide)]
    rfl
  have hworkflow : Shape.Fills Workflow.shape.fields Workflow.shape.blank
      [(literalPieces "steps", .array [.object (voltageMembers v) true] true)]
      (voltageWorkflow value) :=
    .omitted rfl (.omitted rfl (.of_given hsteps (.nil _)))
  exact hworkflow.read_object (by decide)

theorem parse_voltageText {l : Literal} {literal value : String}
    (hl : l.IsWrittenAs literal.toList) (hvalue : l.number?.map (·.text) = some value.toList) :
    Workflow.parse (voltageText literal) = .ok (voltageWorkflow value) := by
  obtain ⟨x, hx, htext⟩ := Option.map_eq_some_iff.1 hvalue
  have hparam : Workflow.readParamValue (.number l) = .ok (some value) :=
    Workflow.readParamValue_number_eq_ok_iff.2 ⟨x, hx, by rw [htext, String.ofList_toList]⟩
  have hnumber : IsLiteral (.number l) literal.toList := .number hl
  have hwritten := surrounds_voltageOpening (.number l) _ hnumber.isWrittenAs
  rw [Workflow.parse, voltageText, read_readDocument hwritten, read_voltageDocument hparam]
  rfl

/-- A decimal that ends in zero. -/
def paddedDecimal : Literal := ⟨false, ['1'], ['5', '0'], none⟩

theorem isWrittenAs_paddedDecimal : paddedDecimal.IsWrittenAs "1.50".toList :=
  ⟨⟨by decide, by simp [paddedDecimal, isDigit], by decide⟩, by simp [paddedDecimal, isDigit], [],
    .absent, by decide⟩

/-- The zero is left out, since the decimal is not the shortest. -/
theorem number_literal_becomes_text_paddedDecimal :
    Workflow.WritesParam (voltageText "1.50") 0 (.number paddedDecimal) "1.50".toList ∧
      (∃ place, Workflow.IsParamPlace 0 place ∧
        (place (.number paddedDecimal)).IsWrittenAs (voltageText "1.50")) ∧
      Workflow.parse (voltageText "1.50") = .ok (voltageWorkflow "1.5") ∧
      paddedDecimal.integer? = none ∧ paddedDecimal.IsShort ∧ ¬ paddedDecimal.IsShortest ∧
      ∃ s t, (voltageWorkflow "1.5").steps[0]? = some s ∧ s.paramValue = some t ∧
        t = String.ofList (shortText 150 (-2)) ∧ t ≠ "1.50" := by
  have hwrites := writesParam_voltageText isWrittenAs_paddedDecimal
  have hparse : Workflow.parse (voltageText "1.50") = .ok (voltageWorkflow "1.5") :=
    parse_voltageText isWrittenAs_paddedDecimal (by decide +kernel)
  have hfloat : paddedDecimal.integer? = none := by decide
  have hshort : paddedDecimal.IsShort := ⟨by decide, by decide, by decide, nofun⟩
  have hlong : ¬ paddedDecimal.IsShortest := by
    simp [Literal.IsShortest, paddedDecimal]
  obtain ⟨hplaces, htaken⟩ := number_literal_becomes_text hparse 0 (.number paddedDecimal)
  obtain ⟨s, t, hs, ht, -, -, hnumber⟩ := htaken _ hwrites
  obtain ⟨-, hother⟩ := hnumber paddedDecimal rfl
  obtain ⟨-, -, hkept⟩ := hother hfloat
  obtain ⟨htext, hiff⟩ := hkept hshort
  exact ⟨hwrites, (hplaces.1 ⟨_, hwrites⟩).2, hparse, hfloat, hshort, hlong, s, t, hs, ht, htext,
    fun heq => hlong (hiff.1 heq).2⟩

/-- A thousand, as a power of ten. -/
def thousand : Literal := ⟨false, ['1'], [], some ⟨false, 3⟩⟩

theorem isWrittenAs_thousand : thousand.IsWrittenAs "1e3".toList :=
  ⟨⟨by decide, by simp [thousand, isDigit], by decide⟩, nofun, _,
    @IsExponent.given 'e' [] ['3'] (.inl rfl) (.inl rfl) (by decide) (by simp [isDigit]), by decide⟩

/-- Not every number is kept as it is written. -/
theorem not_every_number_literal_kept :
    ¬ ∀ (text : String) (i : ℕ) (v : Node) (literal : List Char) (w : Workflow),
      Workflow.WritesParam text i v literal → Workflow.parse text = .ok w →
        ∃ s, w.steps[i]? = some s ∧ s.paramValue = some (String.ofList literal) := by
  intro hall
  have hparse : Workflow.parse (voltageText "1e3") = .ok (voltageWorkflow "1000.0") :=
    parse_voltageText isWrittenAs_thousand (by decide +kernel)
  obtain ⟨s, hs, hkept⟩ := hall _ 0 _ _ _ (writesParam_voltageText isWrittenAs_thousand) hparse
  obtain rfl := Option.some.inj hs
  exact absurd hkept (by decide)

end BenchScript
