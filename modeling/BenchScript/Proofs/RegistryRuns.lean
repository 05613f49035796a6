import BenchScript.Proofs.CommandTables

/-!
# Registries in use

A registry in use takes in libraries, some of which are faulty, and gives tables away. Whatever was
done to it, it answers as the table of the last library that it took in, and a table that it gave
away stays as it was: `registry_answers_as_last_library`. Each action is settled by one step lemma
for the table and one for the tables given away, and runs follow by induction from their ends.
-/

namespace BenchScript

/-! ## Actions -/

/-- Something that is done to a registry. -/
inductive RegistryAction
  /-- Its commands are replaced. -/
  | set (cs : List Command)
  /-- Its commands are replaced by those of a library. -/
  | load (text : String)
  /-- A table is taken from it. -/
  | snapshot

/-- What an action answers. -/
inductive RegistryAnswer
  | done
  | loaded (size : ℕ)
  | failed (e : LibraryError)
deriving DecidableEq

/-- A registry in use: the tables taken from it, the first one first, and the log so far. -/
structure Session where
  registry : Registry := {}
  taken : List CommandTable := []
  log : List Event := []

namespace RegistryAction

/-- The commands that an action puts into a registry, if it does. -/
def library? : RegistryAction → Option (List Command)
  | set cs => some cs
  | load text => (Library.parse text).toOption
  | snapshot => none

/-- Whether an action takes a table. -/
def takes : RegistryAction → Bool
  | snapshot => true
  | set _ | load _ => false

end RegistryAction

namespace Session

/-- The session after an action, and the answer. -/
def act (s : Session) : RegistryAction → Session × RegistryAnswer
  | .set cs =>
    let (r, log) := s.registry.setCommands cs
    ({ s with registry := r, log := s.log ++ log }, .done)
  | .load text =>
    match s.registry.load text with
    | .ok (r, log) => ({ s with registry := r, log := s.log ++ log }, .loaded r.size)
    | .error e => (s, .failed e)
  | .snapshot => ({ s with taken := s.taken ++ [s.registry.snapshot] }, .done)

/-- The session after some actions on an empty registry. -/
def run (actions : List RegistryAction) : Session := actions.foldl (fun s a => (s.act a).1) {}

theorem run_concat (actions : List RegistryAction) (a : RegistryAction) :
    run (actions ++ [a]) = ((run actions).act a).1 := by
  rw [run, List.foldl_concat, run]

variable (s : Session) {text : String}

theorem act_load_of_ok {cs : List Command} (h : Library.parse text = .ok cs) :
    s.act (.load text) = ((s.act (.set cs)).1, .loaded (CommandTable.ofList cs).size) := by
  have hload : s.registry.load text = .ok (s.registry.setCommands cs) := by
    rw [Registry.load, h]
  simp only [act, hload]
  rfl

/-- A library that is faulty changes nothing. -/
theorem act_load_of_error {fault : LibraryFault} (h : Library.parse text = .error fault) :
    s.act (.load text) = (s, .failed (.notLoaded fault)) := by
  have hload : s.registry.load text = .error (.notLoaded fault) := by
    rw [Registry.load, h]
  simp only [act, hload]

/-- The table after an action is that of the commands that the action puts in, if it does. -/
theorem table_act (a : RegistryAction) :
    (s.act a).1.registry.table =
      (a.library?.map CommandTable.ofList).getD s.registry.table := by
  cases a with
  | set cs => rfl
  | snapshot => rfl
  | load text =>
    cases h : Library.parse text with
    | ok cs =>
      rw [act_load_of_ok s h, RegistryAction.library?, h]
      rfl
    | error fault =>
      rw [act_load_of_error s h, RegistryAction.library?, h]
      rfl

/-- An action adds a table to those taken or leaves them as they are. -/
theorem taken_act (a : RegistryAction) :
    (s.act a).1.taken = s.taken ++ if a.takes then [s.registry.snapshot] else [] := by
  cases a with
  | set cs => exact (List.append_nil _).symm
  | snapshot => rfl
  | load text =>
    rw [RegistryAction.takes]
    cases h : Library.parse text with
    | ok cs =>
      rw [act_load_of_ok s h]
      exact (List.append_nil _).symm
    | error fault =>
      rw [act_load_of_error s h]
      exact (List.append_nil _).symm

end Session

/-! ## Runs -/

/-- The commands that were put into a registry last; none if there was no library. -/
def lastLibrary (actions : List RegistryAction) : List Command :=
  (actions.filterMap (·.library?)).getLast?.getD []

theorem lastLibrary_concat (actions : List RegistryAction) (a : RegistryAction) :
    lastLibrary (actions ++ [a]) = a.library?.getD (lastLibrary actions) := by
  unfold lastLibrary
  rw [List.filterMap_append]
  cases hlibrary : a.library? <;> simp [hlibrary]

namespace Session

variable (actions : List RegistryAction)

/-- **The invariant.** The registry holds the table of the last library. -/
theorem table_run : (run actions).registry.table = CommandTable.ofList (lastLibrary actions) := by
  induction actions using List.reverseRecOn with
  | nil => rfl
  | append_singleton actions a ih =>
    rw [run_concat, table_act, ih, lastLibrary_concat]
    cases a.library? <;> rfl

theorem length_taken_run : (run actions).taken.length = actions.countP (·.takes) := by
  induction actions using List.reverseRecOn with
  | nil => rfl
  | append_singleton actions a ih =>
    rw [run_concat, taken_act, List.length_append, ih, List.countP_append, List.countP_singleton]
    cases a.takes <;> rfl

/-- Tables that were taken stay as they are. -/
theorem taken_run_isPrefix (later : List RegistryAction) :
    (run actions).taken <+: (run (actions ++ later)).taken := by
  induction later using List.reverseRecOn with
  | nil => rw [List.append_nil]
  | append_singleton later a ih =>
    rw [← List.append_assoc, run_concat, taken_act]
    exact ih.trans (List.prefix_append _ _)

/-- The table that is taken at some point is the one that the registry holds then. -/
theorem getElem?_taken_run (before after : List RegistryAction) :
    (run (before ++ .snapshot :: after)).taken[before.countP (·.takes)]? =
      some (run before).registry.snapshot := by
  obtain ⟨rest, hrest⟩ := taken_run_isPrefix (before ++ [.snapshot]) after
  rw [List.append_assoc, List.singleton_append] at hrest
  rw [← hrest, run_concat, taken_act, ← length_taken_run, List.append_assoc,
    List.getElem?_append_right (Nat.le_refl _), Nat.sub_self]
  rfl

end Session

/-- **Registries in use.** Whatever was done to a registry, it answers every query as the table of
the library that it took in last. A faulty library changes nothing and is not reported in the log;
any other answers with the number of its headers. A table that was taken is the one that the
registry held then, whatever was done later. -/
theorem registry_answers_as_last_library (actions : List RegistryAction) :
    let s := Session.run actions
    let r := s.registry
    let t := CommandTable.ofList (lastLibrary actions)
    (∀ line index, r.lookup line = t.lookup line ∧ r.params line = t.params line ∧
      r.options line index = t.options line index ∧
      r.snapshot.validate line = t.validate line) ∧
    (r.size = t.size ∧ r.isPopulated = !t.isEmpty ∧ r.snapshot.headers = t.headers ∧
      r.snapshot.collapsed = t.collapsed) ∧
    (∀ text fault, Library.parse text = .error fault →
      s.act (.load text) = (s, .failed (.notLoaded fault))) ∧
    (∀ text cs, Library.parse text = .ok cs →
      (s.act (.load text)).2 = .loaded (cs.map (·.header)).toFinset.card) ∧
    (s.taken.length = actions.countP (·.takes) ∧
      ∀ before after, actions = before ++ .snapshot :: after →
        s.taken[before.countP (·.takes)]? = some (Session.run before).registry.snapshot) ∧
    ∀ line, r.lookup line = r.snapshot.lookup line := by
  intro s r t
  have htable : r.table = t := Session.table_run actions
  refine ⟨fun line index => ?_, ?_, fun text fault h => s.act_load_of_error h,
    fun text cs h => ?_, ⟨Session.length_taken_run actions, ?_⟩, fun line => rfl⟩
  · rw [← htable]
    exact ⟨rfl, rfl, rfl, rfl⟩
  · rw [← htable]
    exact ⟨rfl, rfl, rfl, rfl⟩
  · rw [s.act_load_of_ok h, CommandTable.size_ofList]
  · rintro before after rfl
    exact Session.getElem?_taken_run before after

/-! ## A registry that is loaded, shared and loaded again -/

/-- A library is put in, a table is taken, a text that is no library is refused, and another library
takes the place of the first one. -/
def reloading : List RegistryAction :=
  [.set [scaleWrite, scaleQuery], .snapshot, .load "[[", .load "[[\"*CLS\"]]"]

/-- The second library has one command. -/
theorem parse_reloading :
    ∃ c, Library.parse "[[\"*CLS\"]]" = .ok [c] ∧ c.scpi = "*CLS" ∧ c.header = "*CLS" := by
  have hnames : (Library.parse "[[\"*CLS\"]]").toOption.map (·.map (·.scpi)) = some ["*CLS"] := by
    decide +kernel
  cases hparse : Library.parse "[[\"*CLS\"]]" with
  | error fault =>
    rw [hparse] at hnames
    cases hnames
  | ok cs =>
    rw [hparse] at hnames
    obtain ⟨c, rfl, hscpi⟩ := List.map_eq_singleton_iff.1 (Option.some.inj hnames)
    refine ⟨c, rfl, hscpi, ?_⟩
    rw [Command.header, hscpi]
    decide +kernel

/-- The registry answers from the second library and the table from the first one. -/
theorem registry_answers_after_reloading :
    let s := Session.run reloading
    (s.registry.lookup "*cls").map (·.scpi) = some "*CLS" ∧
      s.registry.lookup "horizontal:scale" = none ∧ s.registry.size = 1 ∧
      s.act (.load "[[") = (s, .failed (.notLoaded .malformed)) ∧
      (s.act (.load "[[\"*CLS\"]]")).2 = .loaded 1 ∧
      s.taken.length = 1 ∧
      s.taken[0]?.bind (·.lookup "horizontal:scale") = some scaleQuery := by
  intro s
  obtain ⟨c, hparse, hscpi, hheader⟩ := parse_reloading
  have hmalformed : Library.parse "[[" = .error .malformed := rfl
  have hsplit : reloading = [.set [scaleWrite, scaleQuery], .snapshot, .load "[["] ++
      [.load "[[\"*CLS\"]]"] := rfl
  have hlast : lastLibrary reloading = [c] := by
    rw [hsplit, lastLibrary_concat, RegistryAction.library?, hparse, Except.toOption,
      Option.getD_some]
  obtain ⟨hanswers, ⟨hsize, -⟩, hfailed, hloaded, ⟨hlength, htaken⟩, -⟩ :=
    registry_answers_as_last_library reloading
  have hfirst : s.taken[0]? =
      some (Session.run [.set [scaleWrite, scaleQuery]]).registry.snapshot :=
    htaken [.set [scaleWrite, scaleQuery]] [.load "[[", .load "[[\"*CLS\"]]"] rfl
  have hshared : (Session.run [.set [scaleWrite, scaleQuery]]).registry.snapshot =
      CommandTable.ofList [scaleWrite, scaleQuery] :=
    Session.table_run _
  have hclear : lastWithHeader [c] (normalizeHeader "*cls") = some c :=
    lastWithHeader_eq_some_iff.2
      ⟨[], [], rfl, hheader.trans (by decide +kernel), by simp⟩
  have hscale : lastWithHeader [c] (normalizeHeader "horizontal:scale") = none := by
    rw [lastWithHeader_eq_none_iff, List.forall_mem_singleton, hheader]
    decide +kernel
  have hquery : lastWithHeader [scaleWrite, scaleQuery] (normalizeHeader "horizontal:scale") =
      some scaleQuery :=
    lastWithHeader_eq_some_iff.2 ⟨[scaleWrite], [], rfl, by decide +kernel, by simp⟩
  rw [hlast] at hanswers hsize
  refine ⟨?_, ?_, ?_, hfailed _ _ hmalformed, ?_, hlength.trans (by decide), ?_⟩
  · rw [(hanswers "*cls" 0).1, CommandTable.lookup_ofList, hclear, Option.map_some, hscpi]
  · rw [(hanswers "horizontal:scale" 0).1, CommandTable.lookup_ofList, hscale]
  · rw [hsize, CommandTable.size_ofList]
    rfl
  · rw [hloaded _ _ hparse]
    rfl
  · rw [hfirst, hshared, Option.bind_some, CommandTable.lookup_ofList, hquery]

end BenchScript
