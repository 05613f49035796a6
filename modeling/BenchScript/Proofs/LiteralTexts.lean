import BenchScript.Proofs.PlainDecimals

/-!
# Texts of literals

Which number literals are the text of the number that they stand for. Integers are
(`Literal.IsWrittenAs.text_of_integer?`). Any other literal is one only if it has a point or an
exponent and its exponent has the spelling that the texts of floats have
(`Literal.IsWrittenAs.eq_spelling_of_text`); a short literal is one just if it is the shortest for
its value, too (`Literal.IsShort.text_eq_iff`).
-/

namespace BenchScript.Json

open BenchScript.Decimal

variable {l : Literal} {cs ds es front back : List Char} {i : Int} {c : Char} {n k : ℕ} {q : ℤ}

/-! ## Integers -/

theorem Literal.number?_of_integer? (hi : l.integer? = some i) : l.number? = some (.integer i) := by
  unfold number?
  rw [hi]

theorem Literal.exists_float_of_number? (hfloat : l.integer? = none) {x : Number}
    (hx : l.number? = some x) : ∃ y, x = .float y := by
  unfold number? at hx
  rw [hfloat] at hx
  obtain ⟨y, -, rfl⟩ := Option.map_eq_some_iff.1 hx
  exact ⟨_, rfl⟩

theorem IsExponent.cases {o : Option Exponent} (h : IsExponent o es) :
    o = none ∧ es = [] ∨ o ≠ none ∧ (es.head? = some 'e' ∨ es.head? = some 'E') := by
  cases h with
  | absent => exact .inl ⟨rfl, rfl⟩
  | given hmark => exact .inr ⟨by simp, hmark.imp (congrArg some) (congrArg some)⟩

theorem IsExponent.eq_nil (h : IsExponent none es) : es = [] :=
  (h.cases.resolve_right fun hgiven => hgiven.1 rfl).2

/-- **Integers** are written as they are. -/
theorem Literal.IsWrittenAs.text_of_integer? (h : l.IsWrittenAs cs) (hi : l.integer? = some i) :
    (Number.integer i).text = cs := by
  obtain ⟨hwhole, -, exponent, hexponent, rfl⟩ := h
  have hdigits := digitsOf_valueOf hwhole
  unfold Literal.integer? at hi
  dsimp only at hi
  split_ifs at hi with hfloat hneg hrange hword
  · obtain ⟨hfraction, hnone⟩ := not_or.1 hfloat
    rw [not_not] at hfraction hnone
    rw [hnone] at hexponent
    obtain rfl := Option.some.inj hi
    have hlt : -(valueOf l.whole : ℤ) < 0 := by omega
    rw [Number.text, if_pos hlt, if_pos hneg, hexponent.eq_nil, hfraction, Int.natAbs_neg,
      Int.natAbs_natCast, hdigits]
    simp [fractionText]
  · obtain ⟨hfraction, hnone⟩ := not_or.1 hfloat
    rw [not_not] at hfraction hnone
    rw [hnone] at hexponent
    obtain rfl := Option.some.inj hi
    have hge : ¬ (valueOf l.whole : ℤ) < 0 := by omega
    rw [Number.text, if_neg hge, if_neg hneg, hexponent.eq_nil, hfraction, Int.natAbs_natCast,
      hdigits]
    simp [fractionText]

/-! ## Parts of texts -/

/-- The characters before an exponent. -/
def isFront (c : Char) : Bool := isDigit c || c == '.' || c == '-'

/-- The spelling of an exponent: a small letter, a sign, and digits without zeros in front. -/
def Exponent.text (e : Exponent) : List Char :=
  'e' :: (if e.negative then '-' else '+') :: digitsOf e.size

/-- The spelling of a literal. -/
def Literal.spelling (l : Literal) : List Char :=
  signText l.negative ++ (l.whole ++ (fractionText l.fraction ++ l.exponent.elim [] Exponent.text))

theorem isFront_of_isDigit (hds : ∀ d ∈ ds, isDigit d) : ∀ d ∈ ds, isFront d := by
  intro d hd
  simp [isFront, hds d hd]

theorem isFront_fractionText (hds : ∀ d ∈ ds, isDigit d) : ∀ d ∈ fractionText ds, isFront d := by
  unfold fractionText
  split_ifs
  · simp
  · exact List.forall_mem_cons.2 ⟨rfl, isFront_of_isDigit hds⟩

theorem isFront_decimal (hds : ∀ d ∈ ds, isDigit d) (hes : ∀ d ∈ es, isDigit d) :
    ∀ c ∈ ds ++ fractionText es, isFront c :=
  List.forall_mem_append.2 ⟨isFront_of_isDigit hds, isFront_fractionText hes⟩

theorem isFront_signText (negative : Bool) : ∀ c ∈ signText negative, isFront c := by
  cases negative <;> simp [signText, isFront]

/-- The exponent begins at the first character that is not before it. -/
theorem span_front (hfront : ∀ c ∈ front, isFront c) (hback : ∀ c ∈ back.head?, ¬ isFront c) :
    (front ++ back).takeWhile isFront = front ∧ (front ++ back).dropWhile isFront = back := by
  have hnone : back.takeWhile isFront = [] ∧ back.dropWhile isFront = back := by
    cases back with
    | nil => exact ⟨rfl, rfl⟩
    | cons c back =>
      have hc := hback c rfl
      exact ⟨List.takeWhile_cons_of_neg hc, List.dropWhile_cons_of_neg hc⟩
  rw [List.takeWhile_append_of_pos hfront, List.dropWhile_append_of_pos hfront, hnone.1, hnone.2]
  exact ⟨List.append_nil _, rfl⟩

theorem front_inj {front' back' : List Char} (hfront : ∀ c ∈ front, isFront c)
    (hback : ∀ c ∈ back.head?, ¬ isFront c) (hfront' : ∀ c ∈ front', isFront c)
    (hback' : ∀ c ∈ back'.head?, ¬ isFront c) (h : front ++ back = front' ++ back') :
    front = front' ∧ back = back' := by
  obtain ⟨htake, hdrop⟩ := span_front hfront hback
  obtain ⟨htake', hdrop'⟩ := span_front hfront' hback'
  exact ⟨htake.symm.trans ((congrArg _ h).trans htake'),
    hdrop.symm.trans ((congrArg _ h).trans hdrop')⟩

theorem fractionText_inj {es' : List Char} (h : fractionText es = fractionText es') : es = es' := by
  unfold fractionText at h
  split_ifs at h <;> simp_all

theorem append_fractionText_inj {ds' es' : List Char} (hds : ∀ d ∈ ds, isDigit d)
    (hds' : ∀ d ∈ ds', isDigit d) (h : ds ++ fractionText es = ds' ++ fractionText es') :
    ds = ds' ∧ es = es' := by
  have htake : ∀ {ds es : List Char}, (∀ d ∈ ds, isDigit d) →
      (ds ++ fractionText es).takeWhile isDigit = ds := by
    intro ds es hds
    rw [List.takeWhile_append_of_pos hds]
    unfold fractionText
    split_ifs <;> simp [isDigit]
  obtain rfl : ds = ds' := (htake hds).symm.trans ((congrArg _ h).trans (htake hds'))
  exact ⟨rfl, fractionText_inj (List.append_cancel_left h)⟩

/-! ## Texts of floats -/

theorem isFront_positionalText (hds : ∀ d ∈ ds, isDigit d) (point : ℤ) :
    (∀ c ∈ Layout.document.positionalText ds point, isFront c) ∧
      '.' ∈ Layout.document.positionalText ds point := by
  have hall := isFront_of_isDigit hds
  have hzeros : ∀ j, ∀ c ∈ List.replicate j '0', isFront c := fun j =>
    isFront_of_isDigit fun d => isDigit_of_mem_zeros
  have hopening : ∀ c ∈ ['0', '.'], isFront c := by simp [isFront, isDigit]
  have hmark : ∀ c ∈ Layout.document.wholeMark, isFront c := by
    simp [Layout.document, isFront, isDigit]
  unfold Layout.positionalText
  split_ifs
  · refine ⟨?_, by simp⟩
    exact List.forall_mem_append.2 ⟨List.forall_mem_append.2 ⟨hopening, hzeros _⟩, hall⟩
  · refine ⟨?_, by simp [Layout.document]⟩
    exact List.forall_mem_append.2 ⟨List.forall_mem_append.2 ⟨hall, hzeros _⟩, hmark⟩
  · refine ⟨?_, by simp⟩
    exact List.forall_mem_append.2 ⟨fun c hc => hall c (List.mem_of_mem_take hc),
      List.forall_mem_cons.2 ⟨rfl, fun c hc => hall c (List.mem_of_mem_drop hc)⟩⟩

theorem scientificText_eq (ds : List Char) (z : ℤ) : scientificText ds z =
    ds.take 1 ++ (fractionText (ds.drop 1) ++ Exponent.text ⟨z < 0, z.natAbs⟩) := by
  have hfraction : (if (ds.drop 1).isEmpty then [] else '.' :: ds.drop 1) =
      fractionText (ds.drop 1) := by
    simp only [fractionText, List.isEmpty_iff]
  unfold scientificText Exponent.text
  dsimp only
  rw [hfraction]
  simp only [decide_eq_true_eq, List.append_assoc, List.cons_append, List.nil_append]

/-- Whether what follows these characters is nothing, and they have a point, or an exponent. -/
def ShowsFloat (front back : List Char) : Prop :=
  (∀ c ∈ front, isFront c) ∧ (back = [] ∧ '.' ∈ front ∨ ∃ e : Exponent, back = e.text)

theorem exists_decimalText_eq (d : Scientific) : ∃ front back,
    Layout.document.decimalText d = front ++ back ∧ ShowsFloat front back := by
  have hdigits : ∀ c ∈ digitsOf d.coefficient, isDigit c := (isWhole_digitsOf _).2.1
  unfold Layout.decimalText
  simp only [Layout.document]
  split_ifs
  · obtain ⟨hfront, hpoint⟩ :=
      isFront_positionalText hdigits ((digitsOf d.coefficient).length + d.exponent - 1 + 1)
    exact ⟨_, [], (List.append_nil _).symm, hfront, .inl ⟨rfl, hpoint⟩⟩
  · refine ⟨_, _, (scientificText_eq _ _).trans (List.append_assoc ..).symm, ?_, .inr ⟨_, rfl⟩⟩
    exact isFront_decimal (fun c hc => hdigits c (List.mem_of_mem_take hc))
      fun c hc => hdigits c (List.mem_of_mem_drop hc)

/-- **The text of a finite float** shows by a point or an exponent that it is one. -/
theorem exists_finiteText_eq (x : Float) : ∃ front back,
    Layout.document.finiteText x = front ++ back ∧ ShowsFloat front back := by
  have hmagnitude : ∃ front back, (if x.toBits.toNat % Nat.pow 2 63 = 0 then ['0', '.', '0'] else
      Layout.document.decimalText ((Binary.ofFloat x).shortest Layout.document.tie)) =
        front ++ back ∧ ShowsFloat front back := by
    split_ifs
    · exact ⟨['0', '.', '0'], [], rfl, by simp [isFront, isDigit], .inl ⟨rfl, by simp⟩⟩
    · exact exists_decimalText_eq _
  obtain ⟨front, back, htext, hfront, hshows⟩ := hmagnitude
  refine ⟨signText (2 ^ 63 ≤ x.toBits.toNat) ++ front, back, ?_, ?_, ?_⟩
  · rw [List.append_assoc, ← htext]
    simp only [signText, decide_eq_true_eq]
    rfl
  · exact List.forall_mem_append.2 ⟨isFront_signText _, hfront⟩
  · exact hshows.imp_left fun hplain => ⟨hplain.1, List.mem_append_right _ hplain.2⟩

/-! ## Literals as texts of floats -/

theorem Exponent.not_isFront_text (e : Exponent) : ∀ c ∈ e.text.head?, ¬ isFront c := by
  intro c hc
  obtain rfl := Option.mem_some.1 hc
  decide

theorem ShowsFloat.not_isFront (h : ShowsFloat front back) : ∀ c ∈ back.head?, ¬ isFront c := by
  rcases h.2 with ⟨rfl, -⟩ | ⟨e, rfl⟩
  · simp
  · exact e.not_isFront_text

theorem IsExponent.not_isFront {e : Option Exponent} (h : IsExponent e es) :
    ∀ c ∈ es.head?, ¬ isFront c := by
  intro c hc
  rcases h.cases with ⟨-, rfl⟩ | ⟨-, hmark | hmark⟩
  · cases hc
  · obtain rfl := Option.some.inj (hmark.symm.trans hc)
    decide
  · obtain rfl := Option.some.inj (hmark.symm.trans hc)
    decide

theorem not_isDigit_sign (negative : Bool) : ¬ isDigit (if negative then '-' else '+') := by
  cases negative <;> decide

/-- What is written as the spelling of an exponent is its own spelling. -/
theorem IsExponent.elim_text {o : Option Exponent} {e : Exponent} (h : IsExponent o es)
    (hes : es = e.text) : o.elim [] Exponent.text = es := by
  cases h with
  | absent => cases hes
  | given hmark hsign hne hdigits =>
    obtain ⟨rfl, hrest⟩ := List.cons.inj hes
    rcases hsign with rfl | rfl | rfl
    · -- there is no sign
      rw [List.nil_append] at hrest
      rw [hrest] at hdigits
      exact absurd (hdigits _ List.mem_cons_self) (not_isDigit_sign e.negative)
    all_goals
      obtain ⟨-, rfl⟩ := List.cons.inj hrest
      rw [Option.elim_some, Exponent.text, valueOf_digitsOf]
      rfl

/-- **Other literals** are the text of a float only if they have a point or an exponent and their
exponent has its spelling. -/
theorem Literal.IsWrittenAs.eq_spelling_of_text (h : l.IsWrittenAs cs) {x : Float}
    (htext : (Number.float x).text = cs) :
    (l.fraction ≠ [] ∨ l.exponent ≠ none) ∧ cs = l.spelling := by
  obtain ⟨hwhole, hfraction, exponent, hexponent, rfl⟩ := h
  have hliteral : (if l.negative then ['-'] else []) ++
      (l.whole ++ (fractionText l.fraction ++ exponent)) =
        signText l.negative ++ (l.whole ++ fractionText l.fraction) ++ exponent := by
    simp only [signText, List.append_assoc]
  have hfront : ∀ c ∈ signText l.negative ++ (l.whole ++ fractionText l.fraction), isFront c :=
    List.forall_mem_append.2 ⟨isFront_signText _, isFront_decimal hwhole.2.1 hfraction⟩
  rw [hliteral] at htext ⊢
  suffices hparts : (l.fraction ≠ [] ∨ l.exponent ≠ none) ∧
      l.exponent.elim [] Exponent.text = exponent by
    refine ⟨hparts.1, ?_⟩
    rw [spelling, hparts.2]
    simp only [List.append_assoc]
  unfold Number.text at htext
  dsimp only at htext
  split_ifs at htext with hfinite
  · obtain ⟨front, back, hsplit, hshows⟩ := exists_finiteText_eq x
    obtain ⟨rfl, rfl⟩ := front_inj hshows.1 hshows.not_isFront hfront hexponent.not_isFront
      (hsplit.symm.trans htext)
    rcases hshows.2 with ⟨rfl, hpoint⟩ | ⟨e, rfl⟩
    · obtain ⟨hnone, -⟩ := hexponent.cases.resolve_right (by simp)
      refine ⟨.inl fun hempty => ?_, by rw [hnone]; rfl⟩
      rw [hempty, fractionText, if_pos rfl, List.append_nil] at hpoint
      rcases List.mem_append.1 hpoint with hmem | hmem
      · cases l.negative <;> simp [signText] at hmem
      · exact absurd (hwhole.2.1 _ hmem) (by decide)
    · refine ⟨.inr fun hnone => ?_, hexponent.elim_text rfl⟩
      rw [hnone] at hexponent
      cases hexponent.eq_nil
  · -- no literal is written like an infinite float
    have hnone : ∀ c ∈ ([] : List Char), isFront c := by simp
    have hnull : ∀ c ∈ ['n', 'u', 'l', 'l'].head?, ¬ isFront c := by simp [isFront, isDigit]
    obtain ⟨-, rfl⟩ := front_inj hnone hnull hfront hexponent.not_isFront htext
    exact absurd hexponent.cases (by simp)

/-! ## Short literals -/

/-- The text of a short decimal has an exponent just if it is not positional. -/
theorem e_mem_shortText_iff (hshort : n < 10 ^ 20) : 'e' ∈ shortText n q ↔ ¬ IsPositional n q := by
  constructor
  · intro he hplace
    obtain ⟨ds, es, htext, htidy, -⟩ := exists_shortText_eq hshort hplace
    rw [htext] at he
    exact absurd (isFront_decimal htidy.whole.2.1 htidy.digits _ he) (by decide)
  · intro hplace
    obtain ⟨k, j, -, -, htext⟩ := exists_shortText_eq_scientific hshort hplace
    rw [htext]
    simp [scientificText]

namespace Literal

/-- **Short literals** that are no integers stand for a float with the text of their value. -/
theorem IsShort.exists_text_eq (h : l.IsShort) (hfloat : l.integer? = none) :
    ∃ x, l.number? = some (.float x) ∧
      (Number.float x).text = signText l.negative ++ shortText l.significand l.scale := by
  rcases Nat.eq_zero_or_pos l.significand with hzero | hpos
  · refine ⟨if l.negative then -0 else 0, ?_, ?_⟩
    · unfold number?
      rw [hfloat, h.magnitude?_eq, hzero, scale?_zero h.least h.greatest]
      rfl
    · have htexts : ∀ negative, (Number.float (if negative then -0 else 0)).text =
          signText negative ++ ['0', '.', '0'] := by
        decide +kernel
      rw [shortText, if_pos hzero]
      exact htexts l.negative
  · obtain ⟨x, m, e, hx, hbinary, hrounds⟩ := h.exists_number?_eq hfloat hpos
    refine ⟨x, hx, ?_⟩
    have htext := hrounds.finiteText_eq Layout.document hbinary hpos h.least h.greatest
    unfold Number.text
    dsimp only
    rw [if_pos hbinary.isFinite_eq, htext, shortText, if_neg hpos.ne']

/-- Whether a literal is the shortest for its value: without exponent it ends in no zero, but for a
single one after the point, and is at least `1e-5`; with one, it has one digit before the point, not
zero, ends in no zero, and would be too long without the exponent. -/
def IsShortest (l : Literal) : Prop :=
  match l.exponent with
  | none => l.fraction ≠ [] ∧ (l.fraction = ['0'] ∨ l.fraction.getLast? ≠ some '0' ∧
      10 ^ l.fraction.length ≤ l.significand * 10 ^ 5)
  | some _ => l.whole.length = 1 ∧ l.whole ≠ ['0'] ∧ l.fraction.getLast? ≠ some '0' ∧
      (l.shift < -5 ∨ 15 < l.shift)

theorem getLast?_eq_of_significand (hwhole : IsWhole l.whole)
    (hdigits : ∀ d ∈ l.fraction, isDigit d) :
    (l.whole ++ l.fraction).getLast? = some '0' ↔ l.significand % 10 = 0 :=
  getLast?_eq_iff_mod_ten (List.forall_mem_append.2 ⟨hwhole.2.1, hdigits⟩) (by simp [hwhole.1])

/-- **Plain decimals** are the text of their value just if they are the shortest. -/
theorem IsShort.shortText_eq_iff_of_plain (h : l.IsShort) (hwhole : IsWhole l.whole)
    (hdigits : ∀ d ∈ l.fraction, isDigit d) (hpoint : l.fraction ≠ [])
    (hexponent : l.exponent = none) :
    shortText l.significand l.scale = l.whole ++ fractionText l.fraction ↔ l.IsShortest := by
  have hshort : l.significand < 10 ^ 20 := Nat.lt_trans h.digits (by norm_num)
  have hscale : l.scale = -(l.fraction.length : ℤ) := by
    unfold scale shift
    rw [hexponent]
    exact Int.zero_sub _
  have hshortest : l.IsShortest ↔ l.fraction = ['0'] ∨ l.fraction.getLast? ≠ some '0' ∧
      10 ^ l.fraction.length ≤ l.significand * 10 ^ 5 := by
    unfold IsShortest
    rw [hexponent]
    exact and_iff_right hpoint
  rw [hshortest, hscale]
  constructor
  · intro htext
    have hplace : IsPositional l.significand (-l.fraction.length) := by
      by_contra hplace
      rw [← e_mem_shortText_iff hshort, htext] at hplace
      exact absurd (isFront_decimal hwhole.2.1 hdigits _ hplace) (by decide)
    obtain ⟨ds, es, htidied, htidy, -⟩ := exists_shortText_eq hshort hplace
    obtain ⟨-, rfl⟩ := append_fractionText_inj htidy.whole.2.1 hwhole.2.1
      (htidied.symm.trans htext)
    refine htidy.last.imp_right fun hlast => ⟨hlast, ?_⟩
    refine ((isPositional_iff h.digits).1 hplace).resolve_left fun hzero => hlast ?_
    rw [← List.getLast?_append_of_ne_nil _ hpoint, getLast?_eq_of_significand hwhole hdigits, hzero]
  · intro hlast
    have htidy : IsTidy l.whole l.fraction :=
      ⟨hwhole, hdigits, hpoint, hlast.imp_right And.left⟩
    have hplace : IsPositional l.significand (-l.fraction.length) := by
      refine (isPositional_iff h.digits).2 ?_
      rcases hlast with hone | ⟨-, hnear⟩
      · rw [hone, List.length_singleton]
        omega
      · exact .inr hnear
    obtain ⟨ds, es, htext, htidy', hvalue⟩ := exists_shortText_eq hshort hplace
    obtain ⟨rfl, rfl⟩ := htidy'.unique htidy (by rw [hvalue, pointValue_eq]; rfl)
    exact htext

theorem firstPlace_eq_shift (hone : l.whole.length = 1)
    (hdigits : digitsOf l.significand = l.whole ++ l.fraction) :
    firstPlace l.significand l.scale = l.shift := by
  rw [firstPlace, hdigits, List.length_append, hone, scale]
  push_cast
  ring

/-- A scientific text has one digit before the point. -/
theorem whole_of_scientificText_eq {z : ℤ} {e : Exponent} (hds : ∀ d ∈ ds, isDigit d)
    (hes : ∀ d ∈ es, isDigit d)
    (h : scientificText (digitsOf k) z = ds ++ fractionText es ++ e.text) :
    digitsOf k = ds ++ es ∧ ds.length = 1 := by
  have hall := (isWhole_digitsOf k).2.1
  have htake : ∀ d ∈ (digitsOf k).take 1, isDigit d := fun d hd => hall d (List.mem_of_mem_take hd)
  have hdrop : ∀ d ∈ (digitsOf k).drop 1, isDigit d := fun d hd => hall d (List.mem_of_mem_drop hd)
  rw [scientificText_eq, ← List.append_assoc] at h
  obtain ⟨hfront, -⟩ := front_inj (isFront_decimal htake hdrop) (Exponent.not_isFront_text _)
    (isFront_decimal hds hes) (Exponent.not_isFront_text _) h
  obtain ⟨rfl, rfl⟩ := append_fractionText_inj htake hds hfront
  refine ⟨(List.take_append_drop 1 _).symm, ?_⟩
  rw [List.length_take]
  exact Nat.min_eq_left (List.length_pos_iff.2 (isWhole_digitsOf k).1)

/-- The exponent of a literal as the number that it is. -/
theorem exponent_of_shift_ne_zero {e : Exponent} (hexponent : l.exponent = some e)
    (hshift : l.shift ≠ 0) : ⟨l.shift < 0, l.shift.natAbs⟩ = e := by
  unfold shift at hshift ⊢
  rw [hexponent] at hshift ⊢
  obtain ⟨negative, size⟩ := e
  cases negative with
  | false => simp
  | true =>
    have hpos : 0 < size := Nat.pos_of_ne_zero fun hzero => hshift (by simp [hzero])
    simp [hpos]

theorem IsShortest.digitsOf_significand {e : Exponent} (h : l.IsShortest) (hwhole : IsWhole l.whole)
    (hdigits : ∀ d ∈ l.fraction, isDigit d) (hexponent : l.exponent = some e) :
    digitsOf l.significand = l.whole ++ l.fraction ∧ l.significand % 10 ≠ 0 := by
  unfold IsShortest at h
  rw [hexponent] at h
  obtain ⟨hone, hzero, hlast, -⟩ := h
  obtain ⟨d, hd⟩ := List.length_eq_one_iff.1 hone
  have hne : d ≠ '0' := fun hd' => hzero (hd' ▸ hd)
  have hall : IsWhole (l.whole ++ l.fraction) := by
    refine ⟨by simp [hwhole.1], List.forall_mem_append.2 ⟨hwhole.2.1, hdigits⟩, fun hhead => ?_⟩
    rw [hd] at hhead
    exact absurd (Option.some.inj hhead) hne
  refine ⟨digitsOf_valueOf hall, ?_⟩
  rw [ne_eq, ← getLast?_eq_of_significand hwhole hdigits, List.getLast?_append, hd]
  intro hend
  rcases Option.or_eq_some_iff.1 hend with hend | ⟨-, hend⟩
  · exact hlast hend
  · exact hne (Option.some.inj hend)

/-- **Literals with an exponent** are the text of their value just if they are the shortest. -/
theorem IsShort.shortText_eq_iff_of_exponent (h : l.IsShort) (hwhole : IsWhole l.whole)
    (hdigits : ∀ d ∈ l.fraction, isDigit d) {e : Exponent} (hexponent : l.exponent = some e) :
    shortText l.significand l.scale = l.whole ++ fractionText l.fraction ++ e.text ↔
      l.IsShortest := by
  have hshort : l.significand < 10 ^ 20 := Nat.lt_trans h.digits (by norm_num)
  have hshortest : l.IsShortest ↔ l.whole.length = 1 ∧ l.whole ≠ ['0'] ∧
      l.fraction.getLast? ≠ some '0' ∧ (l.shift < -5 ∨ 15 < l.shift) := by
    unfold IsShortest
    rw [hexponent]
  constructor
  · intro htext
    have hplace : ¬ IsPositional l.significand l.scale := by
      rw [← e_mem_shortText_iff hshort, htext]
      simp [Exponent.text]
    obtain ⟨k, j, -, hk, hscientific⟩ := exists_shortText_eq_scientific hshort hplace
    obtain ⟨hall, hone⟩ := whole_of_scientificText_eq hwhole.2.1 hdigits (hscientific ▸ htext)
    have hsignificand : l.significand = k := by
      rw [significand, ← hall, valueOf_digitsOf]
    refine hshortest.2 ⟨hone, fun hzero => ?_, fun hlast => ?_, ?_⟩
    · refine head?_digitsOf_ne (pos_of_mod_ten_ne_zero hk) ?_
      rw [hall, hzero]
      rfl
    · refine getLast?_digitsOf_ne hk ?_
      rw [hall, List.getLast?_append, hlast]
      rfl
    · rw [IsPositional, firstPlace_eq_shift hone (hsignificand ▸ hall)] at hplace
      omega
  · intro hl
    obtain ⟨hall, hmod⟩ := hl.digitsOf_significand hwhole hdigits hexponent
    obtain ⟨hone, -, -, hfar⟩ := hshortest.1 hl
    have hplace : ¬ IsPositional l.significand l.scale := by
      rw [IsPositional, firstPlace_eq_shift hone hall]
      omega
    rw [shortText_eq_scientificText hshort hplace hmod, scientificText_eq, hall,
      firstPlace_eq_shift hone hall, exponent_of_shift_ne_zero hexponent (by omega),
      List.take_left' hone, List.drop_left' hone, List.append_assoc]

theorem IsShortest.ne_nil_or (h : l.IsShortest) : l.fraction ≠ [] ∨ l.exponent ≠ none := by
  unfold IsShortest at h
  cases hexponent : l.exponent with
  | none =>
    rw [hexponent] at h
    exact .inl h.1
  | some e => exact .inr (by simp)

/-- **The spelling of a short literal** that is no integer is its text just if it is the
shortest. -/
theorem IsShort.text_eq_spelling_iff (h : l.IsShort) (hl : l.IsWrittenAs cs)
    (hfloat : l.fraction ≠ [] ∨ l.exponent ≠ none) :
    signText l.negative ++ shortText l.significand l.scale = l.spelling ↔ l.IsShortest := by
  obtain ⟨hwhole, hdigits, -⟩ := hl
  rw [spelling, List.append_cancel_left_eq, ← List.append_assoc]
  cases hexponent : l.exponent with
  | none =>
    have hpoint : l.fraction ≠ [] := hfloat.resolve_right (not_not_intro hexponent)
    rw [Option.elim_none, List.append_nil]
    exact h.shortText_eq_iff_of_plain hwhole hdigits hpoint hexponent
  | some e => exact h.shortText_eq_iff_of_exponent hwhole hdigits hexponent

/-- **Short literals** that are no integers are the text of the float that they stand for just if
they have its spelling and are the shortest. -/
theorem IsShort.text_eq_iff (h : l.IsShort) (hl : l.IsWrittenAs cs) {x : Float}
    (htext : (Number.float x).text = signText l.negative ++ shortText l.significand l.scale) :
    (Number.float x).text = cs ↔ cs = l.spelling ∧ l.IsShortest := by
  constructor
  · intro hcs
    obtain ⟨hfloat, hspelling⟩ := hl.eq_spelling_of_text hcs
    refine ⟨hspelling, (h.text_eq_spelling_iff hl hfloat).1 ?_⟩
    rw [← htext, hcs, hspelling]
  · rintro ⟨rfl, hshortest⟩
    rw [htext]
    exact (h.text_eq_spelling_iff hl hshortest.ne_nil_or).2 hshortest

end Literal

end BenchScript.Json
