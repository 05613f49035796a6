import BenchScript.Proofs.Tags

/-!
# What tags are read from

Tags are compared after their case is folded, that of device types upwards and that of capabilities
and backends downwards, by mappings of all characters. So a text is read as a tag if it has the
letters of one of its forms in either case, but a character outside ASCII may stand for one or more
letters where the mapping turns it into these: `tags_read_by_folded_case`.
-/

namespace BenchScript

open BenchScript.Text

namespace Text

variable {c d : Char} {xs ys zs : List Char} {f : Char → List Char} {wide : List (Char × List Char)}

/-! ## Texts that stand for names -/

/-- Whether a text stands for a name: it has the letters of the name in either case, or in place of
some of them a character that is listed for these letters. -/
inductive StandsFor (wide : List (Char × List Char)) : List Char → List Char → Prop
  | nil : StandsFor wide [] []
  | letter {c d : Char} {xs ys : List Char} (h : c.toLower = d.toLower)
      (hxs : StandsFor wide xs ys) : StandsFor wide (c :: xs) (d :: ys)
  | listed {c : Char} {letters letters' xs ys : List Char} (hc : (c, letters) ∈ wide)
      (hletters : sameAsciiCase letters' letters = true) (hxs : StandsFor wide xs ys) :
      StandsFor wide (c :: xs) (letters' ++ ys)

/-- The letters of a name in either case stand for it. -/
theorem standsFor_of_sameAsciiCase (h : sameAsciiCase xs ys = true) : StandsFor wide xs ys := by
  rw [sameAsciiCase, beq_iff_eq] at h
  induction xs generalizing ys with
  | nil =>
    obtain rfl := List.map_eq_nil_iff.1 h.symm
    exact .nil
  | cons c xs ih =>
    obtain ⟨d, ys, rfl, hd, hys⟩ := List.map_eq_cons_iff.1 h.symm
    exact .letter hd.symm (ih hys.symm)

/-- A name without the letters of any listed character has no other spellings than its own letters
in either case. -/
theorem standsFor_iff_sameAsciiCase
    (h : ∀ e ∈ wide, ∃ l ∈ e.2, l.toLower ∉ ys.map Char.toLower) :
    StandsFor wide xs ys ↔ sameAsciiCase xs ys = true := by
  refine ⟨fun hxs => ?_, standsFor_of_sameAsciiCase⟩
  induction hxs with
  | nil => rfl
  | letter hcd _ ih =>
    have htail := ih fun e he => (h e he).imp fun l hl => ⟨hl.1, fun hmem =>
      hl.2 (List.mem_cons_of_mem _ hmem)⟩
    rw [sameAsciiCase, beq_iff_eq, List.map_cons, List.map_cons, hcd, eq_of_beq htail]
  | listed hc hletters _ _ =>
    obtain ⟨l, hl, hnot⟩ := h _ hc
    refine absurd ?_ hnot
    rw [List.map_append, eq_of_beq hletters]
    exact List.mem_append_left _ (List.mem_map_of_mem hl)

/-! ## Mappings that fold case -/

/-- Whether a mapping of characters folds the case of ASCII letters, and turns no other characters
into ASCII than the listed ones, each into the letters listed for it. -/
structure IsFolding (f : Char → List Char) (wide : List (Char × List Char)) : Prop where
  toLower : ∀ c, f c.toLower = f c
  ascii : ∀ c, c.toNat < 128 → ∃ d, f c = [d] ∧ d.toNat < 128 ∧ d.toLower = c.toLower
  listed : ∀ e ∈ wide, f e.1 = e.2.flatMap f
  mem : ∀ c, ¬ c.toNat < 128 → (∀ d ∈ f c, d.toNat < 128) → (c, f c) ∈ wide

namespace IsFolding

theorem flatMap_eq_of_standsFor (hf : IsFolding f wide) (h : StandsFor wide xs ys) :
    xs.flatMap f = ys.flatMap f := by
  induction h with
  | nil => rfl
  | letter hcd _ ih =>
    rw [List.flatMap_cons, List.flatMap_cons, ← hf.toLower, hcd, hf.toLower, ih]
  | listed hc hletters _ ih =>
    rw [List.flatMap_cons, List.flatMap_append, hf.listed _ hc, ih,
      flatMap_eq_of_sameAsciiCase hf.toLower hletters]

theorem mem_flatMap_ascii (hf : IsFolding f wide) (hys : ∀ d ∈ ys, d.toNat < 128)
    (h : d ∈ ys.flatMap f) : d.toNat < 128 := by
  obtain ⟨c, hc, hd⟩ := List.mem_flatMap.1 h
  obtain ⟨e, he, hascii, -⟩ := hf.ascii c (hys c hc)
  rw [he, List.mem_singleton] at hd
  rwa [hd]

/-- The letters that a part of a folded name comes from. -/
theorem exists_split (hf : IsFolding f wide) (hys : ∀ d ∈ ys, d.toNat < 128)
    (h : xs ++ zs = ys.flatMap f) :
    ∃ ys₁ ys₂, ys = ys₁ ++ ys₂ ∧ sameAsciiCase ys₁ xs = true ∧ ys₂.flatMap f = zs := by
  induction xs generalizing ys with
  | nil => exact ⟨[], ys, rfl, rfl, h.symm⟩
  | cons c xs ih =>
    cases ys with
    | nil => cases h
    | cons d ys =>
      obtain ⟨hd, hys⟩ := List.forall_mem_cons.1 hys
      obtain ⟨e, he, -, hlower⟩ := hf.ascii d hd
      rw [List.flatMap_cons, he] at h
      obtain ⟨rfl, htail⟩ := List.cons.inj h
      obtain ⟨ys₁, ys₂, rfl, hsame, hrest⟩ := ih hys htail
      refine ⟨d :: ys₁, ys₂, rfl, ?_, hrest⟩
      rw [sameAsciiCase, beq_iff_eq, List.map_cons, List.map_cons, hlower, eq_of_beq hsame]

/-- **Folded case.** A text is folded to the same as a name in ASCII just if it stands for it. -/
theorem flatMap_eq_iff_standsFor (hf : IsFolding f wide) (hys : ∀ d ∈ ys, d.toNat < 128) :
    xs.flatMap f = ys.flatMap f ↔ StandsFor wide xs ys := by
  refine ⟨fun h => ?_, hf.flatMap_eq_of_standsFor⟩
  induction xs generalizing ys with
  | nil =>
    cases ys with
    | nil => exact .nil
    | cons d ys =>
      obtain ⟨e, he, -⟩ := hf.ascii d (hys d List.mem_cons_self)
      rw [List.flatMap_cons, he] at h
      cases h
  | cons c xs ih =>
    rw [List.flatMap_cons] at h
    obtain ⟨ys₁, ys₂, rfl, hsame, hrest⟩ := hf.exists_split hys h
    have hxs := ih (fun d hd => hys d (List.mem_append_right ys₁ hd)) hrest.symm
    by_cases hc : c.toNat < 128
    · -- a character in ASCII stands for one letter
      obtain ⟨d, hd, -, hlower⟩ := hf.ascii c hc
      rw [hd, sameAsciiCase, beq_iff_eq, List.map_singleton, List.map_eq_singleton_iff] at hsame
      obtain ⟨e, rfl, he⟩ := hsame
      exact .letter (he.trans hlower).symm hxs
    · have hascii : ∀ d ∈ f c, d.toNat < 128 := fun d hd =>
        hf.mem_flatMap_ascii hys (h ▸ List.mem_append_left _ hd)
      exact .listed (hf.mem c hc hascii) hsame hxs

end IsFolding

/-! ## The two mappings -/

section Mappings

variable (m : CaseMap)

/-- What a mapping turns into ASCII is listed if its tables turn nothing else into ASCII. -/
theorem CaseMap.mem_of_ascii
    (hruns : ∀ r ∈ m.runs, ∀ k ∈ r.distances, (Char.ofNat (r.other + k)).toNat < 128 →
      (Char.ofNat (r.first + k), [Char.ofNat (r.other + k)]) ∈ wide)
    (hexpansions : ∀ e ∈ m.expansions, (∀ n ∈ e.2, (Char.ofNat n).toNat < 128) →
      (Char.ofNat e.1, e.2.map Char.ofNat) ∈ wide)
    (hc : ¬ c.toNat < 128) (h : ∀ d ∈ m.form c, d.toNat < 128) : (c, m.form c) ∈ wide := by
  have hchar : Char.ofNat c.toNat = c := Char.ofNat_toNat c
  rcases m.form_cases c with ⟨hascii, -⟩ | ⟨r, hr, k, hk, hcode, hform⟩ | ⟨ns, hns, hform⟩ | hform
  · exact absurd hascii hc
  · rw [hform] at h ⊢
    have hmem := hruns r hr k hk (h _ List.mem_cons_self)
    rwa [← hcode, hchar] at hmem
  · rw [hform] at h ⊢
    have hmem := hexpansions _ hns fun n hn => h _ (List.mem_map_of_mem hn)
    rwa [hchar] at hmem
  · rw [hform] at h
    exact absurd (h c List.mem_cons_self) hc

/-- A mapping folds case if it does so within ASCII, and its tables turn just the listed characters
into ASCII. -/
theorem CaseMap.isFolding
    (htoLower : ∀ n < 128, m.form (Char.ofNat n).toLower = m.form (Char.ofNat n))
    (hascii : ∀ n < 128, (m.ascii (Char.ofNat n)).toNat < 128 ∧
      (m.ascii (Char.ofNat n)).toLower = (Char.ofNat n).toLower)
    (hlisted : ∀ e ∈ wide, m.form e.1 = e.2.flatMap m.form)
    (hruns : ∀ r ∈ m.runs, ∀ k ∈ r.distances, (Char.ofNat (r.other + k)).toNat < 128 →
      (Char.ofNat (r.first + k), [Char.ofNat (r.other + k)]) ∈ wide)
    (hexpansions : ∀ e ∈ m.expansions, (∀ n ∈ e.2, (Char.ofNat n).toNat < 128) →
      (Char.ofNat e.1, e.2.map Char.ofNat) ∈ wide) : IsFolding m.form wide where
  toLower := apply_toLower m.form htoLower
  ascii c hc := by
    refine ⟨m.ascii c, if_pos hc, ?_⟩
    rw [← Char.ofNat_toNat c]
    exact hascii c.toNat hc
  listed := hlisted
  mem _ := m.mem_of_ascii hruns hexpansions

end Mappings

/-- The characters outside ASCII that are capital ASCII letters in upper case. -/
def capitalForms : List (Char × List Char) :=
  [('ı', ['I']), ('ſ', ['S']), ('ß', ['S', 'S']), ('ﬀ', ['F', 'F']), ('ﬁ', ['F', 'I']),
    ('ﬂ', ['F', 'L']), ('ﬃ', ['F', 'F', 'I']), ('ﬄ', ['F', 'F', 'L']), ('ﬅ', ['S', 'T']),
    ('ﬆ', ['S', 'T'])]

theorem isFolding_upperChar : IsFolding upperChar capitalForms :=
  upperCase.isFolding (by decide +kernel) (by decide +kernel) (by decide +kernel)
    (by decide +kernel) (by decide +kernel)

/-- The character outside ASCII that is a small ASCII letter in lower case: the Kelvin sign. -/
def smallForms : List (Char × List Char) := [('\u212a', ['k'])]

theorem isFolding_lowerChar : IsFolding lowerChar smallForms :=
  lowerCase.isFolding (by decide +kernel) (by decide +kernel) (by decide +kernel)
    (by decide +kernel) (by decide +kernel)

end Text

/-! ## Tables of text forms -/

section Forms

variable {α : Type} {f : Char → List Char} {wide : List (Char × List Char)}
  {forms : List (String × α)}

/-- Whether text forms are written in ASCII, and are told apart when their case is folded. -/
structure AreForms (f : Char → List Char) (forms : List (String × α)) : Prop where
  ascii : ∀ e ∈ forms, ∀ c ∈ e.1.toList, c.toNat < 128
  unique : ∀ e ∈ forms, ∀ e' ∈ forms, e.1.toList.flatMap f = e'.1.toList.flatMap f → e.2 = e'.2

/-- The letters of each form are gone through, not all characters. -/
theorem areForms_of_all (hascii : ∀ e ∈ forms, e.1.toList.all (·.toNat < 128) = true)
    (hunique : ∀ e ∈ forms, ∀ e' ∈ forms,
      e.1.toList.flatMap f = e'.1.toList.flatMap f → e.2 = e'.2) : AreForms f forms :=
  ⟨fun e he c hc => of_decide_eq_true (List.all_eq_true.1 (hascii e he) c hc), hunique⟩

/-- What is found by its folded names is found from the texts that stand for one of its forms. -/
theorem find?_eq_some_iff_standsFor (hf : IsFolding f wide) (hforms : AreForms f forms)
    {all : List α} (hall : ∀ a, a ∈ all) {p : α → String → Bool}
    (hp : ∀ a name, p a name = true ↔
      ∃ form, (form, a) ∈ forms ∧ String.ofList (form.toList.flatMap f) = name)
    {xs : List Char} {a : α} :
    (all.find? fun b => p b (String.ofList (xs.flatMap f))) = some a ↔
      ∃ form, (form, a) ∈ forms ∧ StandsFor wide xs form.toList := by
  have hname (b : α) : p b (String.ofList (xs.flatMap f)) = true ↔
      ∃ form, (form, b) ∈ forms ∧ StandsFor wide xs form.toList := by
    rw [hp]
    refine exists_congr fun form => and_congr_right fun hmem => ?_
    rw [String.ofList_inj, eq_comm, hf.flatMap_eq_iff_standsFor (hforms.ascii _ hmem)]
  rw [← hname]
  constructor
  · intro h
    exact List.find?_some (p := fun b => p b _) h
  intro ha
  obtain ⟨b, hb⟩ : ∃ b, all.find? (fun b => p b (String.ofList (xs.flatMap f))) = some b :=
    Option.isSome_iff_exists.1 (List.find?_isSome.2 ⟨a, hall a, ha⟩)
  obtain ⟨form, hmem, hform⟩ := (hname a).1 ha
  obtain ⟨form', hmem', hform'⟩ := (hname b).1 (List.find?_some (p := fun b => p b _) hb)
  have hab : b = a := hforms.unique _ hmem' _ hmem <|
    (hf.flatMap_eq_of_standsFor hform').symm.trans (hf.flatMap_eq_of_standsFor hform)
  rw [hb, hab]

end Forms

/-- The text forms of device types: the tags, and the long names. -/
def DeviceType.textForms : List (String × DeviceType) :=
  [("SCOPE", .scope), ("AWG", .awg), ("AFG", .afg), ("PSU", .psu), ("SMU", .smu), ("DMM", .dmm),
    ("DAQ", .daq), ("MF", .mainframe), ("SS", .switchSystem), ("oscilloscope", .scope),
    ("mainframe", .mainframe), ("switch_system", .switchSystem), ("power_supply", .psu),
    ("multimeter", .dmm)]

/-- The text forms of capabilities: the tags, and two other names. -/
def Capability.textForms : List (String × Capability) :=
  [("set_voltage", .setVoltage), ("measure_voltage", .measureVoltage),
    ("set_current", .setCurrent), ("measure_current", .measureCurrent),
    ("enable_output", .enableOutput), ("acquire_waveform", .acquireWaveform),
    ("save_waveform", .saveWaveform), ("save_screenshot", .saveScreenshot),
    ("generate_signal", .generateSignal), ("measure_frequency", .measureFrequency),
    ("measure_amplitude", .measureAmplitude), ("acquire", .acquireWaveform),
    ("output_enable", .enableOutput)]

/-- The text forms of backends: the tags. -/
def Backend.textForms : List (String × Backend) :=
  [("pyvisa", .pyvisa), ("tm_devices", .tmDevices), ("vxi11", .vxi11), ("tekhsi", .tekhsi),
    ("hybrid", .hybrid)]

theorem DeviceType.areForms_textForms : AreForms upperChar textForms :=
  areForms_of_all (by decide +kernel) (by decide +kernel)

theorem Capability.areForms_textForms : AreForms lowerChar textForms :=
  areForms_of_all (by decide +kernel) (by decide +kernel)

theorem Backend.areForms_textForms : AreForms lowerChar textForms :=
  areForms_of_all (by decide +kernel) (by decide +kernel)

/-- Names in a table are those that forms are folded to. -/
theorem contains_iff_exists_form {α : Type} [DecidableEq α] {f : Char → List Char}
    {forms : List (String × α)} {names : List String} {a : α}
    (h : names = (forms.filter (·.2 = a)).map fun e => String.ofList (e.1.toList.flatMap f))
    (name : String) : names.contains name = true ↔
      ∃ form, (form, a) ∈ forms ∧ String.ofList (form.toList.flatMap f) = name := by
  simp [h]

theorem DeviceType.ofTag?_eq_some_iff {s : String} {d : DeviceType} :
    ofTag? s = some d ↔
      ∃ form, (form, d) ∈ textForms ∧ StandsFor capitalForms (trim s.toList) form.toList := by
  rw [ofTag?, upper]
  refine find?_eq_some_iff_standsFor isFolding_upperChar areForms_textForms mem_all fun d name => ?_
  exact contains_iff_exists_form (by cases d <;> decide +kernel) name

theorem Capability.ofTag?_eq_some_iff {s : String} {c : Capability} :
    ofTag? s = some c ↔
      ∃ form, (form, c) ∈ textForms ∧ StandsFor smallForms (trim s.toList) form.toList := by
  rw [ofTag?, lower]
  refine find?_eq_some_iff_standsFor isFolding_lowerChar areForms_textForms mem_all fun c name => ?_
  exact contains_iff_exists_form (by cases c <;> decide +kernel) name

theorem Backend.ofTag?_eq_some_iff {s : String} {b : Backend} :
    ofTag? s = some b ↔
      ∃ form, (form, b) ∈ textForms ∧ StandsFor smallForms (trim s.toList) form.toList := by
  rw [ofTag?, lower]
  refine find?_eq_some_iff_standsFor isFolding_lowerChar areForms_textForms mem_all fun b name => ?_
  have hname : name = b.tag ↔ [b.tag].contains name = true := by simp
  rw [beq_iff_eq, eq_comm, hname]
  exact contains_iff_exists_form (by cases b <;> decide +kernel) name

/-! ## Reading tags -/

section Reading

variable {s : String}

theorem DeviceType.ofTag_eq_ok_iff {d : DeviceType} : ofTag s = .ok d ↔ ofTag? s = some d := by
  unfold ofTag
  cases ofTag? s <;> simp

theorem Capability.ofTag_eq_ok_iff {c : Capability} : ofTag s = .ok c ↔ ofTag? s = some c := by
  unfold ofTag
  cases ofTag? s <;> simp

theorem Backend.ofTag_eq_ok_iff {b : Backend} : ofTag s = .ok b ↔ ofTag? s = some b := by
  unfold ofTag
  cases ofTag? s <;> simp

end Reading

/-- No form of a capability has a letter that a character outside ASCII stands for. -/
theorem Capability.standsFor_iff {form : String} {c : Capability} (h : (form, c) ∈ textForms)
    {xs : List Char} :
    StandsFor smallForms xs form.toList ↔ sameAsciiCase xs form.toList = true := by
  have hall : ∀ e ∈ textForms, 'k' ∉ e.1.toList.map Char.toLower := by decide +kernel
  refine standsFor_iff_sameAsciiCase fun e he => ?_
  obtain rfl := List.mem_singleton.1 he
  exact ⟨'k', List.mem_cons_self, hall _ h⟩

/-- **Tags.** A text is read as a capability if, without the blanks around it, it is one of the text
forms of the capability in any ASCII case. It is read as a backend if it is its text form in any
ASCII case, where the Kelvin sign may stand for `k`, and as a device type if it is one of its text
forms in any ASCII case, where a character whose upper case is one or more ASCII letters may stand
for these. All other texts are rejected. -/
theorem tags_read_by_folded_case (s : String) :
    (∀ d, DeviceType.ofTag s = .ok d ↔ ∃ form, (form, d) ∈ DeviceType.textForms ∧
      StandsFor capitalForms (trim s.toList) form.toList) ∧
    (∀ c, Capability.ofTag s = .ok c ↔ ∃ form, (form, c) ∈ Capability.textForms ∧
      sameAsciiCase (trim s.toList) form.toList = true) ∧
    (∀ b, Backend.ofTag s = .ok b ↔ ∃ form, (form, b) ∈ Backend.textForms ∧
      StandsFor smallForms (trim s.toList) form.toList) ∧
    ((∃ d, DeviceType.ofTag s = .ok d) ∨ DeviceType.ofTag s = .error (.deviceType s)) ∧
    ((∃ c, Capability.ofTag s = .ok c) ∨ Capability.ofTag s = .error (.capability s)) ∧
    ((∃ b, Backend.ofTag s = .ok b) ∨ Backend.ofTag s = .error (.backend s)) := by
  refine ⟨fun d => ?_, fun c => ?_, fun b => ?_, ?_, ?_, ?_⟩
  · rw [DeviceType.ofTag_eq_ok_iff, DeviceType.ofTag?_eq_some_iff]
  · rw [Capability.ofTag_eq_ok_iff, Capability.ofTag?_eq_some_iff]
    exact exists_congr fun form => and_congr_right fun h => Capability.standsFor_iff h
  · rw [Backend.ofTag_eq_ok_iff, Backend.ofTag?_eq_some_iff]
  · unfold DeviceType.ofTag
    cases DeviceType.ofTag? s <;> simp
  · unfold Capability.ofTag
    cases Capability.ofTag? s <;> simp
  · unfold Backend.ofTag
    cases Backend.ofTag? s <;> simp

/-- A long s at the beginning of a tag, a Kelvin sign in another, and an alias among blanks. -/
theorem tags_read_by_folded_case_longS :
    DeviceType.ofTag " ſcope\n" = .ok .scope ∧
    Backend.ofTag "TE\u212ahsi" = .ok .tekhsi ∧
    Capability.ofTag "\u00a0Output_ENABLE" = .ok .enableOutput ∧
    Capability.ofTag "acquires" = .error (.capability "acquires") := by
  have hcope : StandsFor capitalForms "cope".toList "COPE".toList :=
    standsFor_of_sameAsciiCase rfl
  have hscope : StandsFor capitalForms "ſcope".toList "SCOPE".toList :=
    @StandsFor.listed capitalForms 'ſ' ['S'] ['S'] _ _ (by decide) rfl hcope
  have hhsi : StandsFor smallForms "hsi".toList "hsi".toList :=
    standsFor_of_sameAsciiCase rfl
  have hkhsi : StandsFor smallForms "\u212ahsi".toList "khsi".toList :=
    @StandsFor.listed smallForms '\u212a' ['k'] ['k'] _ _ (by decide) rfl hhsi
  have htekhsi : StandsFor smallForms "TE\u212ahsi".toList "tekhsi".toList :=
    .letter rfl (.letter rfl hkhsi)
  obtain ⟨-, hcapability, -, -, hrejected, -⟩ := tags_read_by_folded_case "acquires"
  refine ⟨((tags_read_by_folded_case " ſcope\n").1 .scope).2 ⟨"SCOPE", by decide, hscope⟩,
    ((tags_read_by_folded_case "TE\u212ahsi").2.2.1 .tekhsi).2 ⟨"tekhsi", by decide, htekhsi⟩,
    ((tags_read_by_folded_case "\u00a0Output_ENABLE").2.1 .enableOutput).2
      ⟨"output_enable", by decide, by decide⟩, hrejected.resolve_left ?_⟩
  rintro ⟨c, hc⟩
  obtain ⟨form, hmem, hsame⟩ := (hcapability c).1 hc
  have hforms : ∀ e ∈ Capability.textForms,
      sameAsciiCase (trim "acquires".toList) e.1.toList = false := by
    decide +kernel
  rw [hforms _ hmem] at hsame
  cases hsame

/-- The sharp s is in no ASCII case a form of a device type, and is read as one. -/
theorem not_every_tag_in_ascii_case : ¬ ∀ s : String,
    (∀ d, DeviceType.ofTag s = .ok d ↔ ∃ form, (form, d) ∈ DeviceType.textForms ∧
      sameAsciiCase (trim s.toList) form.toList = true) ∧
    (∀ c, Capability.ofTag s = .ok c ↔ ∃ form, (form, c) ∈ Capability.textForms ∧
      sameAsciiCase (trim s.toList) form.toList = true) ∧
    (∀ b, Backend.ofTag s = .ok b ↔ ∃ form, (form, b) ∈ Backend.textForms ∧
      sameAsciiCase (trim s.toList) form.toList = true) := by
  intro h
  have hread : DeviceType.ofTag "ß" = .ok .switchSystem := by decide +kernel
  have hforms : ∀ e ∈ DeviceType.textForms,
      sameAsciiCase (trim "ß".toList) e.1.toList = false := by
    decide +kernel
  obtain ⟨form, hmem, hsame⟩ := ((h "ß").1 .switchSystem).1 hread
  rw [hforms _ hmem] at hsame
  cases hsame

end BenchScript
