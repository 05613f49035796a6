import BenchScript.Command.Registry
import BenchScript.Proofs.ByteOrder
import Mathlib.Data.Finset.Card
import Mathlib.Data.List.Induction

/-!
# Command tables

The table of a library holds, for each header, the last command that has it (`getElem?_ofList`),
and lists the commands that a later one replaced in the order in which that happened
(`replaced_ofList`). `table_holds_last_commands` states what follows for the queries and for the log
of loading a library.
-/

namespace BenchScript

variable {cs : List Command} {c : Command} {h : String}

/-! ## The last command with a header -/

/-- The last command with a header. -/
def lastWithHeader (cs : List Command) (h : String) : Option Command :=
  cs.reverse.find? (·.header == h)

theorem lastWithHeader_concat (cs : List Command) (c : Command) (h : String) :
    lastWithHeader (cs ++ [c]) h = if c.header = h then some c else lastWithHeader cs h := by
  rw [lastWithHeader, List.reverse_concat, List.find?_cons]
  by_cases hc : c.header = h
  · rw [if_pos hc, hc, beq_self_eq_true]
  · rw [if_neg hc, beq_false_of_ne hc]
    rfl

theorem lastWithHeader_eq_none_iff : lastWithHeader cs h = none ↔ ∀ c ∈ cs, c.header ≠ h := by
  rw [lastWithHeader, List.find?_eq_none]
  simp only [List.mem_reverse, beq_iff_eq]

theorem lastWithHeader_eq_some_iff :
    lastWithHeader cs h = some c ↔
      ∃ before after, cs = before ++ c :: after ∧ c.header = h ∧ ∀ d ∈ after, d.header ≠ h := by
  rw [lastWithHeader, List.find?_eq_some_iff_append]
  simp only [beq_iff_eq, Bool.not_eq_true', beq_eq_false_iff_ne]
  constructor
  · rintro ⟨hc, after, before, hsplit, hafter⟩
    refine ⟨before.reverse, after.reverse, ?_, hc, fun d hd => hafter d (List.mem_reverse.1 hd)⟩
    rw [← List.reverse_inj, hsplit]
    simp
  · rintro ⟨before, after, rfl, hc, hafter⟩
    refine ⟨hc, after.reverse, before.reverse, by simp, fun d hd => ?_⟩
    exact hafter d (List.mem_reverse.1 hd)

theorem mem_of_lastWithHeader (hc : lastWithHeader cs h = some c) : c ∈ cs ∧ c.header = h := by
  obtain ⟨before, after, rfl, hheader, -⟩ := lastWithHeader_eq_some_iff.1 hc
  exact ⟨List.mem_append_right before List.mem_cons_self, hheader⟩

/-! ## Replaced commands -/

/-- The commands of a library that a later one replaces: each command replaces the last one before
it with its header. -/
def replacedIn (cs : List Command) : List Command :=
  cs.zipIdx.filterMap fun (c, i) => lastWithHeader (cs.take i) c.header

theorem replacedIn_concat (cs : List Command) (c : Command) :
    replacedIn (cs ++ [c]) = replacedIn cs ++ (lastWithHeader cs c.header).toList := by
  have hbefore : ∀ p ∈ cs.zipIdx,
      lastWithHeader ((cs ++ [c]).take p.2) p.1.header =
        lastWithHeader (cs.take p.2) p.1.header := by
    intro p hp
    rw [List.take_append_of_le_length (List.snd_lt_of_mem_zipIdx hp).le]
  unfold replacedIn
  rw [List.zipIdx_append, List.filterMap_append, List.filterMap_congr hbefore]
  congr 1
  cases hlast : lastWithHeader cs c.header <;> simp [hlast]

/-! ## The table of a library -/

namespace CommandTable

theorem ofList_concat (cs : List Command) (c : Command) :
    ofList (cs ++ [c]) = (ofList cs).insert c := by
  rw [ofList, List.foldl_concat, ofList]

/-- The table holds the last command with each header. -/
theorem getElem?_ofList (cs : List Command) (h : String) :
    (ofList cs).commands[h]? = lastWithHeader cs h := by
  induction cs using List.reverseRecOn with
  | nil => simp [ofList, lastWithHeader]
  | append_singleton cs c ih =>
    rw [ofList_concat, lastWithHeader_concat, ← ih, insert, Std.TreeMap.getElem?_insert]
    simp

theorem lookup_ofList (cs : List Command) (line : String) :
    (ofList cs).lookup line = lastWithHeader cs (normalizeHeader line) :=
  getElem?_ofList cs (normalizeHeader line)

theorem replaced_ofList (cs : List Command) : (ofList cs).replaced = replacedIn cs := by
  induction cs using List.reverseRecOn with
  | nil => rfl
  | append_singleton cs c ih =>
    rw [ofList_concat, replacedIn_concat, insert, ih, getElem?_ofList]

theorem mem_headers_iff {t : CommandTable} : h ∈ t.headers ↔ ∃ c, t.commands[h]? = some c := by
  rw [headers, Std.TreeMap.mem_keys, Std.TreeMap.mem_iff_isSome_getElem?, Option.isSome_iff_exists]

theorem mem_headers_ofList : h ∈ (ofList cs).headers ↔ ∃ c ∈ cs, c.header = h := by
  simp only [mem_headers_iff, getElem?_ofList, ← Option.ne_none_iff_exists', ne_eq,
    lastWithHeader_eq_none_iff, not_forall, not_not, exists_prop]

/-- Headers are listed in the order of texts. -/
theorem pairwise_headers_lt (t : CommandTable) : t.headers.Pairwise (· < ·) := by
  refine Std.TreeMap.ordered_keys.imp fun hlt => ?_
  exact compareOfLessAndEq_eq_lt.1 hlt

theorem length_headers (t : CommandTable) : t.headers.length = t.size :=
  Std.TreeMap.length_keys

/-- The table has one entry for each header of the library. -/
theorem size_ofList (cs : List Command) :
    (ofList cs).size = (cs.map (·.header)).toFinset.card := by
  have hnodup : (ofList cs).headers.Nodup :=
    (pairwise_headers_lt (ofList cs)).imp fun hlt => String.ne_of_lt hlt
  have hsame : (ofList cs).headers.toFinset = (cs.map (·.header)).toFinset := by
    ext h
    simp only [List.mem_toFinset, mem_headers_ofList, List.mem_map]
  rw [← length_headers, ← hsame, List.toFinset_card_of_nodup hnodup]

/-- A command that is added is one more header or replaces one command. -/
theorem size_add_collapsed_insert (t : CommandTable) (c : Command) :
    (t.insert c).size + (t.insert c).collapsed = t.size + t.collapsed + 1 := by
  unfold size collapsed insert
  rw [Std.TreeMap.size_insert, Std.TreeMap.contains_eq_isSome_getElem?, List.length_append]
  cases t.commands[c.header]? with
  | none =>
    show t.commands.size + 1 + (t.replaced.length + 0) = _
    omega
  | some d =>
    show t.commands.size + (t.replaced.length + 1) = _
    omega

theorem size_add_collapsed_ofList (cs : List Command) :
    (ofList cs).size + (ofList cs).collapsed = cs.length := by
  induction cs using List.reverseRecOn with
  | nil => rfl
  | append_singleton cs c ih =>
    rw [ofList_concat, size_add_collapsed_insert, ih, List.length_append]
    rfl

/-- The parameters of a command line are those of its command. -/
theorem params_eq (t : CommandTable) (line : String) :
    t.params line = ((t.lookup line).bind (·.params)).getD [] := by
  unfold params Command.paramList
  cases t.lookup line <;> rfl

theorem options_eq (t : CommandTable) (line : String) (index : ℕ) :
    t.options line index = ((t.params line)[index]?.bind (·.options)).getD [] := by
  unfold options Param.allowed
  cases (t.params line)[index]? <;> rfl

/-- Of the reports on a table that has been loaded, those for debugging name the commands that were
replaced. -/
theorem filter_debug_loadEvents (t : CommandTable) :
    (Registry.loadEvents t).filter (·.level == .debug) =
      t.replaced.map fun c => .headerTaken c.scpi := by
  have hall : ∀ ev ∈ t.replaced.map fun c => Event.headerTaken c.scpi,
      (ev.level == .debug) = true := by
    intro ev hev
    obtain ⟨c, -, rfl⟩ := List.mem_map.1 hev
    rfl
  rw [Registry.loadEvents, List.filter_append, List.filter_eq_self.2 hall]
  exact List.append_nil _

end CommandTable

/-- **The last command wins.** The table of a library answers a command line with the last command
that has the header of the line, its parameters and their allowed values. It lists each header of
the library once, in the order of bytes, and has as many commands less than the library as later
commands replaced; the log names each of these. -/
theorem table_holds_last_commands (cs : List Command) (line : String) (index : ℕ) :
    let t := CommandTable.ofList cs
    let debug := (({} : Registry).setCommands cs).2.filter (·.level == .debug)
    ((∀ c, t.lookup line = some c ↔ ∃ before after, cs = before ++ c :: after ∧
        normalizeHeader c.scpi = normalizeHeader line ∧
        ∀ d ∈ after, normalizeHeader d.scpi ≠ normalizeHeader line) ∧
      (t.lookup line = none ↔ ∀ c ∈ cs, normalizeHeader c.scpi ≠ normalizeHeader line)) ∧
    (t.params line = ((t.lookup line).bind (·.params)).getD [] ∧
      t.options line index =
        ((((t.lookup line).bind (·.params)).getD [])[index]?.bind (·.options)).getD []) ∧
    (t.headers.Pairwise (fun a b => utf8Bytes a < utf8Bytes b) ∧
      ∀ h, h ∈ t.headers ↔ ∃ c ∈ cs, normalizeHeader c.scpi = h) ∧
    (t.size = (cs.map fun c => normalizeHeader c.scpi).toFinset.card ∧
      t.size + t.collapsed = cs.length) ∧
    debug.length = t.collapsed ∧
    debug.map (·.message) = (replacedIn cs).map fun c =>
      "Header of '" ++ c.scpi ++ "' taken over by a later entry" := by
  intro t debug
  have hdebug : debug = (replacedIn cs).map fun c => .headerTaken c.scpi := by
    rw [← CommandTable.replaced_ofList]
    exact CommandTable.filter_debug_loadEvents t
  have hlookup : t.lookup line = lastWithHeader cs (normalizeHeader line) :=
    CommandTable.lookup_ofList cs line
  refine ⟨⟨fun c => ?_, ?_⟩, ⟨t.params_eq line, ?_⟩, ⟨?_, fun h => ?_⟩,
    ⟨CommandTable.size_ofList cs, CommandTable.size_add_collapsed_ofList cs⟩, ?_, ?_⟩
  · rw [hlookup]
    exact lastWithHeader_eq_some_iff
  · rw [hlookup]
    exact lastWithHeader_eq_none_iff
  · rw [t.options_eq, t.params_eq]
  · exact t.pairwise_headers_lt.imp fun hlt => utf8Bytes_lt hlt
  · exact CommandTable.mem_headers_ofList
  · rw [hdebug, List.length_map, CommandTable.collapsed, CommandTable.replaced_ofList]
  · rw [hdebug, List.map_map]
    rfl

/-! ## A library with two forms of a command -/

/-- The form of a command that sets the horizontal scale. -/
def scaleWrite : Command := { scpi := "HORizontal:SCAle <NR3>", category := "write" }

/-- The form of the same command that asks for the scale. -/
def scaleQuery : Command := { scpi := "HORizontal:SCAle?", category := "query" }

/-- A command with a parameter that has two allowed values. -/
def coupling : Command where
  scpi := "CH<x>:COUPling {AC|DC}"
  params := some [{ name := "coupling", kind := .enumeration, options := some ["AC", "DC"] }]

/-- The query form takes the place of the other one, which the log names. -/
theorem table_holds_last_of_scale_commands :
    let cs := [scaleWrite, coupling, scaleQuery]
    let t := CommandTable.ofList cs
    t.lookup "horizontal:scale 2" = some scaleQuery ∧ t.options "horizontal:scale 2" 0 = [] ∧
      t.options "ch<y>:coupling?" 0 = ["AC", "DC"] ∧ t.lookup "*RST" = none ∧
      t.size = 2 ∧ t.collapsed = 1 ∧
      ((({} : Registry).setCommands cs).2.filter (·.level == .debug)).map (·.message) =
        ["Header of 'HORizontal:SCAle <NR3>' taken over by a later entry"] := by
  intro cs t
  obtain ⟨⟨hscale, -⟩, ⟨-, hscaleOptions⟩, -, ⟨hsize, hcount⟩, -, hlog⟩ :=
    table_holds_last_commands cs "horizontal:scale 2" 0
  obtain ⟨⟨hcoupling, -⟩, ⟨-, hcouplingOptions⟩, -⟩ :=
    table_holds_last_commands cs "ch<y>:coupling?" 0
  obtain ⟨⟨-, hreset⟩, -⟩ := table_holds_last_commands cs "*RST" 0
  have hscaleFound : t.lookup "horizontal:scale 2" = some scaleQuery :=
    (hscale scaleQuery).2 ⟨[scaleWrite, coupling], [], rfl, by decide +kernel, by simp⟩
  have hcouplingFound : t.lookup "ch<y>:coupling?" = some coupling :=
    (hcoupling coupling).2 ⟨[scaleWrite], [scaleQuery], rfl, by decide +kernel, by decide +kernel⟩
  have htwo : t.size = 2 := hsize.trans (by decide +kernel)
  have hthree : t.size + t.collapsed = 3 := hcount
  rw [hscaleFound] at hscaleOptions
  rw [hcouplingFound] at hcouplingOptions
  exact ⟨hscaleFound, hscaleOptions, hcouplingOptions, hreset.2 (by decide +kernel), htwo, by omega,
    hlog.trans (by decide +kernel)⟩

end BenchScript
