import BenchScript.Proofs.ByteOrder
import BenchScript.Proofs.UpperCase

/-!
# Suffixes in bytes

A text that ends in the bytes of another one ends in that text: the first byte of a character is
no byte within one, so bytes at the end of a text that are those of a text begin where a character
does (`utf8_suffix_iff`). Nor does it matter whether ASCII letters are put in lower case before or
after they are encoded (`map_lowerByte_utf8`).
-/

namespace BenchScript

open BenchScript.Text

/-- The bytes in UTF-8 of a list of characters. -/
def utf8 (cs : List Char) : List UInt8 := cs.flatMap String.utf8EncodeChar

variable {cs ds : List Char}

@[simp] theorem utf8_nil : utf8 [] = [] := rfl

@[simp] theorem utf8_cons (c : Char) (cs : List Char) :
    utf8 (c :: cs) = String.utf8EncodeChar c ++ utf8 cs := rfl

@[simp] theorem utf8_append (cs ds : List Char) : utf8 (cs ++ ds) = utf8 cs ++ utf8 ds :=
  List.flatMap_append

@[simp] theorem utf8_eq_nil_iff : utf8 cs = [] ↔ cs = [] := by
  cases cs with
  | nil => simp
  | cons c cs => simp

theorem utf8_injective : Function.Injective utf8 := by
  intro cs ds h
  have hbytes : (String.ofList cs).toByteArray = (String.ofList ds).toByteArray := by
    rw [String.toByteArray_ofList, String.toByteArray_ofList, List.utf8Encode, List.utf8Encode]
    exact congrArg List.toByteArray h
  exact String.ofList_injective (String.toByteArray_inj.1 hbytes)

/-! ## Borders of characters -/

/-- The bytes of a text do not begin within a character. -/
theorem isPrefix_of_utf8EncodeChar_append_eq {c : Char} {before bytes : List UInt8}
    (hcs : cs ≠ []) (hbefore : before ≠ [])
    (h : String.utf8EncodeChar c ++ bytes = before ++ utf8 cs) :
    String.utf8EncodeChar c <+: before := by
  refine List.prefix_of_prefix_length_le ⟨bytes, h⟩ (List.prefix_append _ _) ?_
  by_contra hlength
  rw [Nat.not_le] at hlength
  obtain ⟨d, rest, rfl⟩ := List.exists_cons_of_ne_nil hcs
  -- where the text begins the bytes of `c` go on, though a character begins there
  have hpos : 0 < (String.utf8EncodeChar d).length :=
    List.length_pos_of_ne_nil String.utf8EncodeChar_ne_nil
  have hbyte : (String.utf8EncodeChar c)[before.length] = (String.utf8EncodeChar d)[0] := by
    have hsame : (String.utf8EncodeChar c ++ bytes)[before.length]? =
        (before ++ (String.utf8EncodeChar d ++ utf8 rest))[before.length]? := by rw [h, utf8_cons]
    rw [List.getElem?_append_left hlength, List.getElem?_append_right le_rfl, Nat.sub_self,
      List.getElem?_append_left hpos, List.getElem?_eq_getElem hlength,
      List.getElem?_eq_getElem hpos] at hsame
    exact Option.some.inj hsame
  have hfirst : (String.utf8EncodeChar c)[before.length].IsUTF8FirstByte := by
    rw [hbyte]
    exact UInt8.isUTF8FirstByte_getElem_utf8EncodeChar.2 rfl
  have hzero := UInt8.isUTF8FirstByte_getElem_utf8EncodeChar.1 hfirst
  exact hbefore (List.length_eq_zero_iff.1 hzero)

theorem suffix_of_utf8_eq {before : List UInt8} (h : utf8 ds = before ++ utf8 cs) : cs <:+ ds := by
  by_cases hcs : cs = []
  · rw [hcs]
    exact List.nil_suffix
  induction ds generalizing before with
  | nil =>
    have hbytes := (List.append_eq_nil_iff.1 h.symm).2
    exact absurd (utf8_eq_nil_iff.1 hbytes) hcs
  | cons d ds ih =>
    by_cases hbefore : before = []
    · rw [hbefore, List.nil_append] at h
      obtain rfl := utf8_injective h
      exact List.suffix_refl _
    · rw [utf8_cons] at h
      obtain ⟨between, rfl⟩ := isPrefix_of_utf8EncodeChar_append_eq hcs hbefore h
      rw [List.append_assoc] at h
      exact (ih (List.append_cancel_left h)).trans (List.suffix_cons d ds)

/-- **Suffixes.** A text is a suffix of another one exactly if its bytes are. -/
theorem utf8_suffix_iff : utf8 cs <:+ utf8 ds ↔ cs <:+ ds := by
  constructor
  · rintro ⟨before, h⟩
    exact suffix_of_utf8_eq h.symm
  · rintro ⟨before, rfl⟩
    rw [utf8_append]
    exact List.suffix_append _ _

/-! ## Case -/

/-- The lower-case form of a byte that is an ASCII letter, else the byte itself. -/
def lowerByte (b : UInt8) : UInt8 := if 65 ≤ b ∧ b ≤ 90 then b + 32 else b

/-- The bytes of a character outside ASCII are no bytes of ASCII characters. -/
theorem le_toNat_of_mem_utf8EncodeChar {c : Char} {b : UInt8} (hc : ¬ c.toNat < 128)
    (hb : b ∈ String.utf8EncodeChar c) : 128 ≤ b.toNat := by
  have hvalue : c.val.toNat = c.toNat := rfl
  unfold String.utf8EncodeChar at hb
  rw [hvalue] at hb
  generalize c.toNat = n at hc hb
  dsimp only at hb
  split_ifs at hb
  all_goals
    simp only [List.mem_cons, List.not_mem_nil, or_false, ← UInt8.toNat_inj, UInt8.toNat_ofNat',
      Nat.reducePow] at hb
    omega

theorem map_lowerByte_utf8EncodeChar (c : Char) :
    (String.utf8EncodeChar c).map lowerByte = String.utf8EncodeChar c.toLower := by
  by_cases hc : c.toNat < 128
  · have hascii : ∀ n < 128, (String.utf8EncodeChar (Char.ofNat n)).map lowerByte =
        String.utf8EncodeChar (Char.ofNat n).toLower := by decide +kernel
    rw [← Char.ofNat_toNat c]
    exact hascii c.toNat hc
  · have hfixed : ∀ b ∈ String.utf8EncodeChar c, lowerByte b = b := by
      intro b hb
      refine if_neg fun hletter => ?_
      have hhigh : b.toNat ≤ 90 := UInt8.le_iff_toNat_le.1 hletter.2
      have hlow := le_toNat_of_mem_utf8EncodeChar hc hb
      omega
    rw [toLower_eq_self hc, List.map_congr_left hfixed, List.map_id']

theorem map_lowerByte_utf8 (cs : List Char) :
    (utf8 cs).map lowerByte = utf8 (cs.map Char.toLower) := by
  induction cs with
  | nil => rfl
  | cons c cs ih =>
    rw [utf8_cons, List.map_append, ih, map_lowerByte_utf8EncodeChar, List.map_cons, utf8_cons]

end BenchScript
