import BenchScript.Proofs.Slots
import BenchScript.Script.Pattern

/-!
# Rendering lines

The call of a pattern has at most one slot, and its characters beside the name and beside the slot
are none of the token's (`Call.IsSound`). So the name is filled by itself and the value lands in the
slot as it is, whatever either of them holds: `rendering_fills_slot`.
-/

namespace BenchScript

open BenchScript.Text

/-! ## Calls in parts -/

/-- A call in parts. -/
structure Call where
  /-- The text before the slot, or all of a call without one. -/
  pre : List Char
  slot : Bool
  /-- The text after the slot. -/
  post : List Char
deriving Repr, DecidableEq

namespace Call

/-- The call with a value in its slot. -/
def put (c : Call) (value : List Char) : List Char :=
  c.pre ++ if c.slot then value ++ c.post else []

/-- The parts of the text of a call, which holds a brace only as part of the token. -/
def ofChars (cs : List Char) : Call where
  pre := cs.takeWhile (· != '\x7b')
  slot := cs.contains '\x7b'
  post := (cs.dropWhile (· != '\x7b')).drop valueToken.toList.length

/-- What sets the parts of a call apart from the name, from the value and from other lines. -/
@[mk_iff]
structure IsSound (c : Call) : Prop where
  starts : c.pre.head? = some '.'
  noBrace : '\x7b' ∉ c.pre ++ c.post
  before_slot : ∀ x ∈ c.pre.getLast?, x ∉ valueToken.toList
  after_slot : ∀ x ∈ c.post.head?, x ∉ valueToken.toList
  oneLine : '\n' ∉ c.pre ++ c.post ∧ '\r' ∉ c.pre ++ c.post

instance (c : Call) : Decidable c.IsSound :=
  decidable_of_iff (c.pre.head? = some '.' ∧ '\x7b' ∉ c.pre ++ c.post ∧
      c.pre.getLast?.all (· ∉ valueToken.toList) = true ∧
      c.post.head?.all (· ∉ valueToken.toList) = true ∧
      '\n' ∉ c.pre ++ c.post ∧ '\r' ∉ c.pre ++ c.post) <| by
    simp only [isSound_iff, Option.all_eq_true, Option.mem_def, decide_eq_true_eq]

/-- Whether a text is a call that comes apart soundly. -/
def Accounts (c : Call) (cs : List Char) : Prop := c.IsSound ∧ c.put valueToken.toList = cs

instance (c : Call) (cs : List Char) : Decidable (c.Accounts cs) :=
  inferInstanceAs (Decidable (_ ∧ _))

/-- The text of a call with a value in its slot. -/
def putText (c : Call) (v : String) : String :=
  String.ofList c.pre ++ if c.slot then v ++ String.ofList c.post else ""

theorem toList_putText (c : Call) (v : String) : (c.putText v).toList = c.put v.toList := by
  rw [putText, put, String.toList_append, String.toList_ofList]
  cases c.slot <;> simp

end Call

theorem accounts_rawCall (c : Capability) :
    (Call.ofChars (rawCall c).1.toList).Accounts (rawCall c).1.toList := by
  cases c <;> decide +kernel

theorem accounts_highLevelCall {d : DeviceType} {c : Capability} {call : String}
    (h : highLevelCall? d c = some call) : (Call.ofChars call.toList).Accounts call.toList := by
  have hall : ∀ d ∈ DeviceType.all, ∀ c ∈ Capability.all, ∀ call ∈ highLevelCall? d c,
      (Call.ofChars call.toList).Accounts call.toList := by
    decide +kernel
  exact hall d d.mem_all c c.mem_all call h

/-! ## Patterns in parts -/

theorem isToken_valueToken : IsToken valueToken.toList :=
  ⟨'\x7b', "value\x7d".toList, rfl, by decide⟩

namespace Call.IsSound

variable {c : Call} {name value : List Char}

theorem not_straddles_name (h : c.IsSound) (name value : List Char) :
    ¬ Straddles valueToken.toList name (c.put value) := by
  refine not_straddles_of_head ?_
  rw [put, List.head?_append, h.starts]
  rintro x ⟨⟩
  decide

theorem not_isInfix_of_noBrace {cs : List Char} (h : '\x7b' ∉ cs) :
    ¬ valueToken.toList <:+: cs :=
  fun hcs => h (hcs.subset (by decide))

theorem not_isInfix_pre (h : c.IsSound) : ¬ valueToken.toList <:+: c.pre :=
  not_isInfix_of_noBrace fun hpre => h.noBrace (List.mem_append_left c.post hpre)

theorem not_isInfix_post (h : c.IsSound) : ¬ valueToken.toList <:+: c.post :=
  not_isInfix_of_noBrace fun hpost => h.noBrace (List.mem_append_right c.pre hpost)

/-- The token stands in a call if it stands in the value in the slot. -/
theorem isInfix_put_iff (h : c.IsSound) (value : List Char) :
    valueToken.toList <:+: c.put value ↔ c.slot = true ∧ valueToken.toList <:+: value := by
  rw [put]
  cases c.slot with
  | false => simpa using h.not_isInfix_pre
  | true =>
    rw [if_pos rfl, isInfix_append_iff_of_not_straddles (not_straddles_of_getLast h.before_slot),
      isInfix_append_iff_of_not_straddles (not_straddles_of_head fun x hx => ?_),
      or_iff_right h.not_isInfix_pre, or_iff_left h.not_isInfix_post, and_iff_right rfl]
    exact fun hmem => h.after_slot x hx (List.mem_of_mem_tail hmem)

/-- Filling a call puts the value into its slot. -/
theorem fill_put (h : c.IsSound) (value : List Char) :
    fill valueToken.toList value (c.put valueToken.toList) = c.put value := by
  have hne : valueToken.toList ≠ [] := isToken_valueToken.ne_nil
  rw [put, put, fill_append_of_not_straddles value hne (not_straddles_of_getLast h.before_slot),
    fill_of_not_isInfix value h.not_isInfix_pre]
  cases c.slot with
  | false => rfl
  | true => rw [if_pos rfl, if_pos rfl, fill_append value hne,
      fill_of_not_isInfix value h.not_isInfix_post]

end Call.IsSound

namespace Pattern

variable (d : DeviceType) (c : Capability) (b : Backend) (name : String)

/-- The call of a pattern in parts. The name does not matter for it. -/
def callParts : Call := .ofChars (Pattern.of d c b "").call.toList

/-- Patterns for different names differ in nothing else. -/
theorem of_eq_rename : Pattern.of d c b name = { Pattern.of d c b "" with name := name } := by
  unfold Pattern.of
  cases driveMethod d b with
  | raw => rfl
  | highLevel => dsimp only; cases highLevelCall? d c <;> rfl

theorem name_of : (Pattern.of d c b name).name = name := by
  rw [of_eq_rename]

theorem call_of : (Pattern.of d c b name).call = (Pattern.of d c b "").call := by
  rw [of_eq_rename]

theorem accounts_callParts : (callParts d c b).Accounts (Pattern.of d c b "").call.toList := by
  unfold callParts Pattern.of
  cases driveMethod d b with
  | raw => exact accounts_rawCall c
  | highLevel =>
    dsimp only
    cases hcall : highLevelCall? d c with
    | none => exact accounts_rawCall c
    | some call => exact accounts_highLevelCall hcall

theorem isSound_callParts : (callParts d c b).IsSound := (accounts_callParts d c b).1

theorem chars_of :
    (Pattern.of d c b name).chars = name.toList ++ (callParts d c b).put valueToken.toList := by
  rw [chars, name_of, call_of, (accounts_callParts d c b).2]

theorem text_of : (Pattern.of d c b name).text = name ++ (callParts d c b).putText valueToken := by
  rw [← String.toList_inj, String.toList_append, Call.toList_putText, ← chars_of]
  exact String.toList_ofList

/-- A line with its value: the name filled by itself, and the call with the value in its slot. -/
theorem toList_render_some (v : String) : ((Pattern.of d c b name).render (some v)).toList =
    fill valueToken.toList v.toList name.toList ++ (callParts d c b).put v.toList := by
  have hsound := isSound_callParts d c b
  show (String.ofList (fill valueToken.toList v.toList (Pattern.of d c b name).chars)).toList = _
  rw [String.toList_ofList, chars_of, fill_append_of_not_straddles v.toList
    isToken_valueToken.ne_nil (hsound.not_straddles_name name.toList _), hsound.fill_put]

/-- A line is what the name is filled to, and the call with its value. -/
theorem render_some_of_fill_eq {start v : String}
    (h : fill valueToken.toList v.toList name.toList = start.toList) :
    (Pattern.of d c b name).render (some v) = start ++ (callParts d c b).putText v := by
  rw [← String.toList_inj, toList_render_some, h, String.toList_append, Call.toList_putText]

theorem usesValue_iff {p : Pattern} : p.usesValue = true ↔ valueToken.toList <:+: p.chars :=
  occursIn_iff

/-- A pattern uses its value if the token stands in the name or there is a slot. -/
theorem usesValue_of_iff : (Pattern.of d c b name).usesValue = true ↔
    valueToken.toList <:+: name.toList ∨ (callParts d c b).slot = true := by
  have hsound := isSound_callParts d c b
  rw [usesValue_iff, chars_of, isInfix_append_iff_of_not_straddles
    (hsound.not_straddles_name name.toList _), hsound.isInfix_put_iff,
    and_iff_left (List.infix_refl _)]

theorem render_injective {p : Pattern} (h : p.usesValue = true) :
    Function.Injective fun v => p.render (some v) := by
  intro v w hvw
  have hfill : fill valueToken.toList v.toList p.chars = fill valueToken.toList w.toList p.chars :=
    String.ofList_injective hvw
  exact String.toList_inj.1 (fill_injective isToken_valueToken.ne_nil (usesValue_iff.1 h) hfill)

end Pattern

/-- **Rendering.** For a device type, a capability and a backend there are a text before the slot, a
text after it, and whether there is a slot; the first begins with a point and neither holds the
token. The pattern for a name is the name with that call, and no occurrence of the token straddles
the border between them. A value takes the place of the tokens in the name and of the slot, and
nothing that it holds is replaced again; so a name without the token stands in the line as it is. A
pattern that uses its value gives different lines for different values. -/
theorem rendering_fills_slot (d : DeviceType) (c : Capability) (b : Backend) :
    ∃ (pre post : String) (slot : Bool), pre.toList.head? = some '.' ∧
      ¬ valueToken.toList <:+: pre.toList ∧ ¬ valueToken.toList <:+: post.toList ∧
      ∀ name : String,
        let p := Pattern.of d c b name
        let template := pre ++ if slot then valueToken ++ post else ""
        (p.text = name ++ template ∧ p.render none = p.text ∧
          ¬ Straddles valueToken.toList name.toList template.toList ∧
          (p.usesValue = true ↔ valueToken.toList <:+: name.toList ∨ slot = true)) ∧
        (∃ pieces : List String, IsParted valueToken.toList (pieces.map (·.toList)) name.toList) ∧
        (∀ pieces : List String, IsParted valueToken.toList (pieces.map (·.toList)) name.toList →
          ∀ v : String, p.render (some v) =
            v.intercalate pieces ++ pre ++ if slot then v ++ post else "") ∧
        (¬ valueToken.toList <:+: name.toList →
          ∀ v : String, p.render (some v) = name ++ pre ++ if slot then v ++ post else "") ∧
        (p.usesValue = true → Function.Injective fun v => p.render (some v)) := by
  have hsound := Pattern.isSound_callParts d c b
  have htext := Pattern.text_of d c b
  have hrender (name start v : String)
      (h : fill valueToken.toList v.toList name.toList = start.toList) :=
    (Pattern.render_some_of_fill_eq d c b name h).trans (String.append_assoc ..).symm
  refine ⟨.ofList (Pattern.callParts d c b).pre, .ofList (Pattern.callParts d c b).post,
    (Pattern.callParts d c b).slot, ?_, ?_, ?_, fun name => ?_⟩
  · rw [String.toList_ofList]
    exact hsound.starts
  · rw [String.toList_ofList]
    exact hsound.not_isInfix_pre
  · rw [String.toList_ofList]
    exact hsound.not_isInfix_post
  refine ⟨⟨htext name, rfl, ?_, Pattern.usesValue_of_iff d c b name⟩, ?_,
    fun pieces hpieces v => hrender _ _ v ?_, fun hname v => hrender _ _ v ?_,
    Pattern.render_injective⟩
  · show ¬ Straddles _ _ ((Pattern.callParts d c b).putText valueToken).toList
    rw [Call.toList_putText]
    exact hsound.not_straddles_name name.toList _
  · obtain ⟨pieces, hpieces⟩ := exists_isParted isToken_valueToken.ne_nil name.toList
    refine ⟨pieces.map String.ofList, ?_⟩
    rw [List.map_map]
    simpa [Function.comp_def] using hpieces
  · rw [hpieces.fill_eq isToken_valueToken, String.toList_intercalate]
  · exact fill_of_not_isInfix v.toList hname

/-- A name that ends in the token takes the value too, and the value may hold the token. -/
theorem rendering_fills_slot_psu :
    let line (name : String) := (Pattern.of .psu .setVoltage .pyvisa name).render
    line "psu1" (some "\x7bvalue\x7d") = line "psu1" none ∧
      (∃ pre post : String, line "psu1" none = "psu1" ++ pre ++ (valueToken ++ post) ∧
        ∀ v : String,
          line "psu1" (some v) = "psu1" ++ pre ++ (v ++ post) ∧
          line ("psu" ++ valueToken) (some v) = "psu" ++ v ++ pre ++ (v ++ post)) ∧
      Function.Injective fun v => line ("psu" ++ valueToken) (some v) := by
  intro line
  obtain ⟨pre, post, slot, -, -, -, hname⟩ := rendering_fills_slot .psu .setVoltage .pyvisa
  obtain ⟨⟨htext, hnone, -, huses⟩, -, -, hfree, -⟩ := hname "psu1"
  obtain ⟨⟨-, -, -, huses'⟩, -, hparted, -, hinjective⟩ := hname ("psu" ++ valueToken)
  have hnotIn : ¬ valueToken.toList <:+: "psu1".toList := by decide
  have hpieces : IsParted valueToken.toList (["psu", ""].map (·.toList))
      ("psu" ++ valueToken).toList := ⟨by decide, by decide, by decide⟩
  have hslot : slot = true := (huses.1 (by decide +kernel)).resolve_left hnotIn
  subst hslot
  have hline : line "psu1" none = "psu1" ++ pre ++ (valueToken ++ post) := by
    rw [String.append_assoc]
    exact hnone.trans htext
  refine ⟨(hfree hnotIn _).trans hline.symm, ⟨pre, post, hline, fun v => ⟨hfree hnotIn v, ?_⟩⟩,
    hinjective (huses'.2 (.inr rfl))⟩
  simpa using hparted _ hpieces v

end BenchScript
