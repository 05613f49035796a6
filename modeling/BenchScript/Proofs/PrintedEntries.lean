import BenchScript.Command.Printer
import BenchScript.Proofs.LibraryEntries

/-!
# Entries of command libraries, printed

A command of a library, written as a value on lines of its own between brackets, is a library with
that one command again (`printed_entry_is_read_again`), as long as no float is written.
-/

namespace BenchScript.Json

variable {α : Type} {a c : α} {fields : List (Field Unit α)}

theorem forall_mem_optionalMember {name : String} {v? : Option Value}
    {P : String × Value → Prop} :
    (∀ m ∈ optionalMember name v?, P m) ↔ ∀ v ∈ v?, P (name, v) := by
  cases v? <;> simp [optionalMember]

/-- A field that is written unless it is absent. -/
theorem Shape.Fills.of_optional {β : Type} {name : String} {read : Reader Unit β}
    {put : Option β → α → α} {o : Option β} {w : β → Value} {ms : List (List Piece × Node)}
    (hread : ∀ x ∈ o, w x ≠ .null ∧ read (w x).toNode = .ok x) (hput : put none a = a)
    (hrest : Fills fields (put o a) ms c) :
    Fills (.of name false (readOption read) put :: fields) a
      (memberNodes (optionalMember name (o.map w)) ++ ms) c := by
  cases o with
  | none => exact .omitted rfl (hput ▸ hrest)
  | some x =>
    obtain ⟨hnull, hread⟩ := hread x rfl
    refine .of_given ?_ hrest
    rw [readOption_of_ne_null (Value.toNode_ne_null hnull), hread]
    rfl

end BenchScript.Json

namespace BenchScript

open BenchScript.Json

/-! ## Parameters -/

/-- Whether a parameter is written without floats: it has no bounds, and the numbers in its default
are integers that fit into 64 bits. -/
structure Param.IsFloatFree (p : Param) : Prop where
  bounds : p.least = none ∧ p.greatest = none
  numbers : ∀ v ∈ p.default, ∀ x ∈ v.numbers, x.IsWord

namespace Param

variable {p : Param} {room : Nat}

/-- What can stand in a printed parameter without bounds. -/
theorem IsFloatFree.forall_member {P : Value → Prop} (hfree : p.IsFloatFree)
    (string : ∀ s, P (.string s)) (bool : ∀ b, P (.bool b))
    (strings : ∀ os : List String, P (.array (os.map .string))) (default : ∀ v ∈ p.default, P v) :
    ∃ ms, p.toValue = .object ms ∧ ∀ m ∈ ms, P m.2 := by
  refine ⟨_, rfl, ?_⟩
  simp only [List.forall_mem_append, List.forall_mem_cons, forall_mem_optionalMember]
  simp [hfree.bounds, string, bool, strings]
  exact default

theorem IsFloatFree.depth_toValue_le (hfree : p.IsFloatFree) (hp : p.IsSettled (room + 1)) :
    p.toValue.depth ≤ room + 2 := by
  have hstrings (os : List String) : (Value.array (os.map .string)).depth ≤ room + 1 := by
    rw [Value.depth, Nat.succ_le_succ_iff, itemsDepth_le_iff]
    exact List.forall_mem_map.2 fun _ _ => Nat.zero_le _
  obtain ⟨ms, hms, hdepth⟩ := hfree.forall_member (P := fun v => v.depth ≤ room + 1)
    (fun _ => Nat.zero_le _) (fun _ => Nat.zero_le _) hstrings fun v hv => (hp v hv).2.2
  rw [hms]
  exact Nat.succ_le_succ (membersDepth_le_iff.2 hdepth)

theorem IsFloatFree.numbers_toValue (hfree : p.IsFloatFree) :
    ∀ x ∈ p.toValue.numbers, x.IsWord := by
  have hstrings (os : List String) : ∀ x ∈ (Value.array (os.map .string)).numbers, x.IsWord :=
    forall_mem_itemNumbers.2 (List.forall_mem_map.2 fun _ _ => List.forall_mem_nil _)
  obtain ⟨ms, hms, hnumbers⟩ := hfree.forall_member (P := fun v => ∀ x ∈ v.numbers, x.IsWord)
    (fun _ => List.forall_mem_nil _) (fun _ => List.forall_mem_nil _) hstrings hfree.numbers
  rw [hms]
  exact forall_mem_memberNumbers.2 hnumbers

/-- A printed parameter is read again. -/
theorem IsFloatFree.read_toValue (hfree : p.IsFloatFree) (hp : p.IsSettled depthLimit) :
    Library.paramShape.read p.toValue.toNode = .ok p := by
  have hkind : Library.readKind (Value.string p.kind.name).toNode = .ok p.kind := by
    show (readString (.string (literalPieces p.kind.name))).map ParamKind.ofName = _
    rw [readString_literalPieces, Except.map, ParamKind.ofName_name]
  have hdefault : ∀ v ∈ p.default, v ≠ .null ∧ Library.readValue v.toNode = .ok v := by
    intro v hv
    obtain ⟨hnull, hcanonical, hdepth⟩ := hp v hv
    refine ⟨hnull, ?_⟩
    rw [Library.readValue, v.value?_toNode depthLimit (hfree.numbers v hv) hdepth]
    exact congrArg Except.ok hcanonical
  -- a default is written as it is, where other parts are made into values first
  have hid : optionalMember "default" (p.default.map id) = optionalMember "default" p.default := by
    rw [Option.map_id, id]
  refine Shape.Fills.read_object ?_ (by decide)
  simp only [memberNodes_append, List.append_assoc]
  rw [← List.append_nil (memberNodes (optionalMember "description" _)), ← hid]
  refine .of_given (readString_literalPieces p.name) (.of_given hkind ?_)
  refine .of_optional (w := id) hdefault rfl ?_
  refine .of_given (x := p.required) rfl ?_
  refine .of_optional (fun os _ => ⟨by simp, readList_toNode fun s _ => readString_toNode s⟩) rfl ?_
  refine .of_optional (o := p.least) (by simp [hfree.bounds.1]) rfl ?_
  refine .of_optional (o := p.greatest) (by simp [hfree.bounds.2]) rfl ?_
  refine .of_optional (fun s _ => ⟨by simp, readString_toNode s⟩) rfl ?_
  refine .of_optional (fun s _ => ⟨by simp, readString_toNode s⟩) rfl ?_
  exact .nil p

end Param

/-! ## Commands -/

namespace Command

variable {c : Command} {room : Nat}

/-- What can stand in a printed command. -/
theorem forall_member {P : Value → Prop} (string : ∀ s, P (.string s))
    (params : ∀ ps ∈ c.params, P (.array (ps.map Param.toValue))) :
    ∃ ms, c.toValue = .object ms ∧ ∀ m ∈ ms, P m.2 := by
  refine ⟨_, rfl, ?_⟩
  simp only [List.forall_mem_append, List.forall_mem_cons, forall_mem_optionalMember]
  simp [string]
  exact params

theorem depth_toValue_le (hfree : ∀ p ∈ c.paramList, p.IsFloatFree)
    (hsettled : ∀ p ∈ c.paramList, p.IsSettled (room + 1)) : c.toValue.depth ≤ room + 4 := by
  have hparams : ∀ ps ∈ c.params, (Value.array (ps.map Param.toValue)).depth ≤ room + 3 := by
    intro ps hps
    rw [paramList, hps] at hfree hsettled
    refine Nat.succ_le_succ (itemsDepth_le_iff.2 (List.forall_mem_map.2 fun p hp => ?_))
    exact (hfree p hp).depth_toValue_le (hsettled p hp)
  obtain ⟨ms, hms, hdepth⟩ := forall_member (P := fun v => v.depth ≤ room + 3)
    (fun _ => Nat.zero_le _) hparams
  rw [hms]
  exact Nat.succ_le_succ (membersDepth_le_iff.2 hdepth)

theorem numbers_toValue (hfree : ∀ p ∈ c.paramList, p.IsFloatFree) :
    ∀ x ∈ c.toValue.numbers, x.IsWord := by
  have hparams : ∀ ps ∈ c.params,
      ∀ x ∈ (Value.array (ps.map Param.toValue)).numbers, x.IsWord := by
    intro ps hps
    rw [paramList, hps] at hfree
    refine forall_mem_itemNumbers.2 (List.forall_mem_map.2 fun p hp => ?_)
    exact (hfree p hp).numbers_toValue
  obtain ⟨ms, hms, hnumbers⟩ := forall_member (P := fun v => ∀ x ∈ v.numbers, x.IsWord)
    (fun _ => List.forall_mem_nil _) hparams
  rw [hms]
  exact forall_mem_memberNumbers.2 hnumbers

/-- A printed command is read again. -/
theorem read_toValue (hfree : ∀ p ∈ c.paramList, p.IsFloatFree)
    (hsettled : ∀ p ∈ c.paramList, p.IsSettled depthLimit) :
    Library.commandShape.read c.toValue.toNode = .ok c := by
  have hparams : ∀ ps ∈ c.params, Value.array (ps.map Param.toValue) ≠ .null ∧
      readList Library.paramShape.read (Value.array (ps.map Param.toValue)).toNode = .ok ps := by
    intro ps hps
    rw [paramList, hps] at hfree hsettled
    exact ⟨by simp, readList_toNode fun p hp => (hfree p hp).read_toValue (hsettled p hp)⟩
  refine Shape.Fills.read_object ?_ (by decide)
  simp only [memberNodes_append, List.append_assoc]
  rw [← List.append_nil (memberNodes (optionalMember "params" _))]
  refine .of_given (readString_literalPieces c.scpi) ?_
  refine .of_given (readString_literalPieces c.description) ?_
  refine .of_optional (fun s _ => ⟨by simp, readString_toNode s⟩) rfl ?_
  refine .of_given (readString_literalPieces c.category) (.of_optional hparams rfl ?_)
  exact .nil c

end Command

/-! ## Libraries with one command -/

/-- A library with one command. -/
def Command.libraryText (c : Command) : String := "[" ++ c.toValue.prettyText ++ "]"

namespace Library

/-- The text of a library with one command is read as the tree of an array with that command. -/
theorem readDocument_libraryText {c : Command} (hfree : ∀ p ∈ c.paramList, p.IsFloatFree) :
    readDocument c.libraryText = ⟨.array [c.toValue.toNode] true, true⟩ := by
  have hnumbers := c.numbers_toValue hfree
  have htext : c.libraryText.toList = ['['] ++ (c.toValue.pretty 0 ++ ([']'] ++ [])) := by
    simp [Command.libraryText, Value.prettyText]
  refine readDocument_of_isWrittenAs ⟨?_, ?_⟩
  · rw [Node.wellFormed, itemsWellFormed, c.toValue.wellFormed_toNode hnumbers]
    rfl
  · rw [htext]
    exact .token .openBracket
      (c.toValue.areWrittenAs_pretty_append 0 _ _ hnumbers (.token .closeBracket .nil))

/-- A command without floats whose defaults are such as a library gives them. -/
theorem parse_libraryText {c : Command} (hfree : ∀ p ∈ c.paramList, p.IsFloatFree)
    (hsettled : ∀ p ∈ c.paramList, p.IsSettled defaultDepth) : parse c.libraryText = .ok [c] := by
  have hcommand : c.toValue.depth ≤ defaultDepth - 1 + 4 := c.depth_toValue_le hfree hsettled
  have hdepth : (Value.array [c.toValue]).depth ≤ depthLimit :=
    Nat.succ_le_succ (Nat.max_le.2 ⟨hcommand, Nat.zero_le _⟩)
  have hnumbers : ∀ x ∈ (Value.array [c.toValue]).numbers, x.IsWord :=
    forall_mem_itemNumbers.2 (List.forall_mem_singleton.2 (c.numbers_toValue hfree))
  have hvalue := Value.value?_toNode (.array [c.toValue]) depthLimit hnumbers hdepth
  have hread := c.read_toValue hfree fun p hp => (hsettled p hp).mono (Nat.sub_le _ _)
  rw [parse_eq_ok_iff, readDocument_libraryText hfree]
  refine ⟨⟨_, hvalue⟩, ?_, rfl⟩
  rw [ofNode?, readList, readItems, hread]
  rfl

end Library

/-- **Entries survive printing**: a command of a library, without bounds on its parameters and with
no other numbers in their defaults than integers of 64 bits, is written as a library that holds
just that command. -/
theorem printed_entry_is_read_again {text : String} {cs : List Command} {c : Command}
    (h : Library.parse text = .ok cs) (hc : c ∈ cs)
    (hbounds : ∀ p ∈ c.paramList, p.least = none ∧ p.greatest = none)
    (hnumbers : ∀ p ∈ c.paramList, ∀ v ∈ p.default, ∀ x ∈ v.numbers, x.IsWord) :
    Library.parse ("[" ++ c.toValue.prettyText ++ "]") = .ok [c] := by
  have hfree : ∀ p ∈ c.paramList, p.IsFloatFree := fun p hp => ⟨hbounds p hp, hnumbers p hp⟩
  have hsettled : ∀ p ∈ c.paramList, p.IsSettled Library.defaultDepth :=
    Library.isSettled_of_mem_parse h hc
  exact Library.parse_libraryText hfree hsettled

/-- A library with groups, where a parameter is an array with another name for its kind, and the
members of its default are neither sorted nor distinct. -/
def triggerLibrary : String :=
  "\x7b\"groups\": \x7b\"trigger\": \x7b\"commands\": [\x7b\"scpi\": \"TRIG\\u0001\", " ++
    "\"params\": [[\"mode\", \"numeric\", \x7b\"b\": 0, \"a\": -1, \"b\": [null, 7]\x7d]]" ++
    "\x7d]\x7d\x7d\x7d"

theorem printed_trigger_is_read_again : ∃ c, Library.parse triggerLibrary = .ok [c] ∧
    c.scpi = "TRIG\x01" ∧ c.category = "trigger" ∧ c.paramList.map (·.kind) = [.number] ∧
    c.paramList.map (·.default.map Value.compact) =
      [some "\x7b\"a\":-1,\"b\":[null,7]\x7d".toList] ∧
    Library.parse ("[" ++ c.toValue.prettyText ++ "]") = .ok [c] := by
  have hread : (Library.parse triggerLibrary).toOption.any (fun cs => cs.length = 1 &&
      cs.all fun c => c.scpi = "TRIG\x01" && c.category = "trigger" &&
        c.paramList.map (·.kind) = [.number] &&
        c.paramList.map (·.default.map Value.compact) =
          [some "\x7b\"a\":-1,\"b\":[null,7]\x7d".toList] &&
        c.paramList.all fun p => p.least.isNone && p.greatest.isNone &&
          ∀ v ∈ p.default, ∀ x ∈ v.numbers, x.IsWord) := by
    decide +kernel
  obtain ⟨cs, hcs, hread⟩ := (Option.any_eq_true _ _).1 hread
  have hparse := toOption_eq_some_iff.1 hcs
  simp only [Bool.and_eq_true, decide_eq_true_eq, List.length_eq_one_iff, List.all_eq_true,
    Option.isNone_iff_eq_none] at hread
  obtain ⟨⟨c, rfl⟩, hread⟩ := hread
  obtain ⟨⟨⟨⟨hscpi, hcategory⟩, hkinds⟩, hdefaults⟩, hfree⟩ := hread c List.mem_cons_self
  exact ⟨c, hparse, hscpi, hcategory, hkinds, hdefaults,
    printed_entry_is_read_again hparse List.mem_cons_self (fun p hp => (hfree p hp).1)
      fun p hp => (hfree p hp).2⟩

end BenchScript
