import BenchScript.Proofs.NodeValues

/-!
# Canonical values

Sorting the members of the objects within a value leaves a value that sorting does not change again
(`Value.canonical_canonical`), and that is no deeper than before (`Value.depth_canonical_le`).
-/

namespace BenchScript.Json

mutual

/-- Induction on a value, where the parts of an array or object are taken together. -/
@[elab_as_elim]
theorem Value.parts_induction {P : Value → Prop} (null : P .null) (bool : ∀ b, P (.bool b))
    (number : ∀ x, P (.number x)) (string : ∀ s, P (.string s))
    (array : ∀ vs : List Value, (∀ v ∈ vs, P v) → P (.array vs))
    (object : ∀ ms : List (String × Value), (∀ m ∈ ms, P m.2) → P (.object ms)) : ∀ v, P v
  | .null => null
  | .bool b => bool b
  | .number x => number x
  | .string s => string s
  | .array vs => array vs (items_induction null bool number string array object vs)
  | .object ms => object ms (members_induction null bool number string array object ms)

theorem items_induction {P : Value → Prop} (null : P .null) (bool : ∀ b, P (.bool b))
    (number : ∀ x, P (.number x)) (string : ∀ s, P (.string s))
    (array : ∀ vs : List Value, (∀ v ∈ vs, P v) → P (.array vs))
    (object : ∀ ms : List (String × Value), (∀ m ∈ ms, P m.2) → P (.object ms)) :
    ∀ vs : List Value, ∀ v ∈ vs, P v
  | [] => nofun
  | v :: vs => List.forall_mem_cons.2 ⟨v.parts_induction null bool number string array object,
      items_induction null bool number string array object vs⟩

theorem members_induction {P : Value → Prop} (null : P .null) (bool : ∀ b, P (.bool b))
    (number : ∀ x, P (.number x)) (string : ∀ s, P (.string s))
    (array : ∀ vs : List Value, (∀ v ∈ vs, P v) → P (.array vs))
    (object : ∀ ms : List (String × Value), (∀ m ∈ ms, P m.2) → P (.object ms)) :
    ∀ ms : List (String × Value), ∀ m ∈ ms, P m.2
  | [] => nofun
  | (_, v) :: ms => List.forall_mem_cons.2 ⟨v.parts_induction null bool number string array object,
      members_induction null bool number string array object ms⟩

end

/-! ## Sorted members -/

variable {k : String} {v : Value} {m : String × Value} {sorted ms : List (String × Value)}

/-- Members whose keys increase. -/
def KeysIncrease (ms : List (String × Value)) : Prop := ms.Pairwise fun m m' => m.1 < m'.1

theorem lt_of_not_lt_of_ne {a b : String} (hlt : ¬ a < b) (hne : a ≠ b) : b < a := by
  by_contra h
  exact hne (String.le_antisymm (String.not_lt.1 h) (String.not_lt.1 hlt))

theorem mem_putMember (h : m ∈ putMember k v ms) : m = (k, v) ∨ m ∈ ms := by
  induction ms with
  | nil => exact .inl (List.mem_singleton.1 h)
  | cons m' ms ih =>
    rw [putMember] at h
    split_ifs at h
    · exact List.mem_cons.1 h
    · exact (List.mem_cons.1 h).imp_right (List.mem_cons_of_mem m')
    · rcases List.mem_cons.1 h with rfl | h
      · exact .inr List.mem_cons_self
      · exact (ih h).imp_right (List.mem_cons_of_mem m')

/-- A member is put where its key belongs. -/
theorem KeysIncrease.putMember (h : KeysIncrease ms) : KeysIncrease (putMember k v ms) := by
  induction ms with
  | nil => exact List.pairwise_singleton _ _
  | cons m ms ih =>
    obtain ⟨hm, hms⟩ := List.pairwise_cons.1 h
    rw [Json.putMember]
    split_ifs with hlt heq
    · refine List.pairwise_cons.2 ⟨fun m' hm' => ?_, h⟩
      rcases List.mem_cons.1 hm' with rfl | hm'
      · exact hlt
      · exact String.lt_trans hlt (hm m' hm')
    · exact List.pairwise_cons.2 ⟨fun m' hm' => heq ▸ hm m' hm', hms⟩
    · refine List.pairwise_cons.2 ⟨fun m' hm' => ?_, ih hms⟩
      rcases mem_putMember hm' with rfl | hm'
      · exact lt_of_not_lt_of_ne hlt heq
      · exact hm m' hm'

/-- A member whose key is greater than all others comes last. -/
theorem putMember_of_lt (h : ∀ m ∈ ms, m.1 < k) : putMember k v ms = ms ++ [(k, v)] := by
  induction ms with
  | nil => rfl
  | cons m ms ih =>
    obtain ⟨hm, hms⟩ := List.forall_mem_cons.1 h
    have hne : k ≠ m.1 := by
      rintro rfl
      exact String.lt_irrefl _ hm
    rw [putMember, if_neg (String.lt_asymm hm), if_neg hne, ih hms, List.cons_append]

theorem keysIncrease_canonicalMembers (h : KeysIncrease sorted) (ms : List (String × Value)) :
    KeysIncrease (canonicalMembers sorted ms) := by
  induction ms generalizing sorted with
  | nil => exact h
  | cons m ms ih => exact ih h.putMember

/-- Every member is one of those there were, with its value sorted. -/
theorem mem_canonicalMembers (h : m ∈ canonicalMembers sorted ms) :
    m ∈ sorted ∨ ∃ m' ∈ ms, m = (m'.1, m'.2.canonical) := by
  induction ms generalizing sorted with
  | nil => exact .inl h
  | cons m₁ ms ih =>
    rcases ih h with hput | ⟨m', hm', rfl⟩
    · rcases mem_putMember hput with rfl | hm
      · exact .inr ⟨m₁, List.mem_cons_self, rfl⟩
      · exact .inl hm
    · exact .inr ⟨m', List.mem_cons_of_mem m₁ hm', rfl⟩

/-- Members that are sorted, with sorted values, stay as they are. -/
theorem canonicalMembers_eq_append (h : KeysIncrease (sorted ++ ms))
    (hms : ∀ m ∈ ms, m.2.canonical = m.2) : canonicalMembers sorted ms = sorted ++ ms := by
  induction ms generalizing sorted with
  | nil => rw [canonicalMembers, List.append_nil]
  | cons m ms ih =>
    obtain ⟨hm, hms⟩ := List.forall_mem_cons.1 hms
    -- no key so far is greater, so the member is put at the end
    have hlast : ∀ m' ∈ sorted, m'.1 < m.1 := fun m' hm' =>
      (List.pairwise_append.1 h).2.2 m' hm' m List.mem_cons_self
    rw [List.append_cons] at h ⊢
    rw [canonicalMembers, hm, putMember_of_lt hlast]
    exact ih h hms

/-! ## Canonical values -/

@[simp] theorem canonicalItems_eq_map (vs : List Value) :
    canonicalItems vs = vs.map Value.canonical := by
  induction vs with
  | nil => rfl
  | cons v vs ih => rw [canonicalItems, ih, List.map_cons]

theorem Value.canonical_eq_null_iff : v.canonical = .null ↔ v = .null := by
  cases v <;> simp [Value.canonical]

/-- **Sorting a value again changes nothing.** -/
@[simp] theorem Value.canonical_canonical (v : Value) : v.canonical.canonical = v.canonical := by
  induction v using Value.parts_induction with
  | null | bool _ | number _ | string _ => rfl
  | array vs ih => simpa [Value.canonical] using ih
  | object ms ih =>
    rw [Value.canonical, Value.canonical, canonicalMembers_eq_append, List.nil_append]
    · exact keysIncrease_canonicalMembers List.Pairwise.nil ms
    · intro m hm
      obtain hm | ⟨m', hm', rfl⟩ := mem_canonicalMembers hm
      · exact absurd hm List.not_mem_nil
      · exact ih m' hm'

/-- Sorting a value makes it no deeper. -/
theorem Value.depth_canonical_le (v : Value) : v.canonical.depth ≤ v.depth := by
  induction v using Value.parts_induction with
  | null | bool _ | number _ | string _ => exact Nat.le_refl _
  | array vs ih =>
    have hvs := itemsDepth_le_iff.1 (Nat.le_refl (itemsDepth vs))
    rw [Value.canonical, canonicalItems_eq_map]
    refine Nat.succ_le_succ (itemsDepth_le_iff.2 (List.forall_mem_map.2 fun v hv => ?_))
    exact Nat.le_trans (ih v hv) (hvs v hv)
  | object ms ih =>
    have hms := membersDepth_le_iff.1 (Nat.le_refl (membersDepth ms))
    refine Nat.succ_le_succ (membersDepth_le_iff.2 fun m hm => ?_)
    obtain hm | ⟨m', hm', rfl⟩ := mem_canonicalMembers hm
    · exact absurd hm List.not_mem_nil
    · exact Nat.le_trans (ih m' hm') (hms m' hm')

end BenchScript.Json
