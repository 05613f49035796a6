import BenchScript.Proofs.CommandTables
import BenchScript.Proofs.LibraryEntries
import BenchScript.Proofs.ObjectMembers
import Mathlib.Data.List.Sort

/-!
# Layouts of command libraries

The same commands may be listed in named groups, in one object or in a bare array. All three
documents are read as these commands in the same order, and a group gives its name as category to
those that have none (`library_layouts_agree`). Tables do not look at categories, so they answer
alike (`CommandTable.ofList_congr`).
-/

namespace BenchScript

open BenchScript.Json

/-! ## Tables and categories -/

/-- Whether two commands are called and used alike. -/
def Command.SameUse (c d : Command) : Prop := c.scpi = d.scpi ∧ c.params = d.params

variable {cs ds : List Command}

theorem lastWithHeader_congr (h : List.Forall₂ Command.SameUse cs ds) (header : String) :
    (lastWithHeader cs header).bind (·.params) = (lastWithHeader ds header).bind (·.params) := by
  have hreverse := List.rel_reverse h
  unfold lastWithHeader
  generalize cs.reverse = cs at hreverse
  generalize ds.reverse = ds at hreverse
  clear h
  induction hreverse with
  | nil => rfl
  | @cons c d cs ds hcd _ ih =>
    have hheader : c.header = d.header := congrArg normalizeHeader hcd.1
    rw [List.find?_cons, List.find?_cons, hheader]
    split
    · exact hcd.2
    · exact ih

/-- Tables of commands that are used alike answer alike. -/
theorem CommandTable.ofList_congr (h : List.Forall₂ Command.SameUse cs ds) :
    let t := ofList cs
    let u := ofList ds
    t.headers = u.headers ∧ t.size = u.size ∧ t.collapsed = u.collapsed ∧
      (∀ line, t.params line = u.params line) ∧
      ∀ line index, t.options line index = u.options line index := by
  intro t u
  have hmap : cs.map (·.header) = ds.map (·.header) := by
    induction h with
    | nil => rfl
    | cons hcd _ ih => exact congrArg₂ List.cons (congrArg normalizeHeader hcd.1) ih
  have hheaders : t.headers = u.headers := by
    refine t.pairwise_headers_lt.eq_of_mem_iff u.pairwise_headers_lt fun header => ?_
    rw [mem_headers_ofList, mem_headers_ofList, ← List.mem_map, hmap, List.mem_map]
  have hsize : t.size = u.size := by
    rw [← length_headers, hheaders, length_headers]
  have hcollapsed : t.collapsed = u.collapsed := by
    have ht : t.size + t.collapsed = cs.length := size_add_collapsed_ofList cs
    have hu : u.size + u.collapsed = ds.length := size_add_collapsed_ofList ds
    have hlength := h.length_eq
    omega
  have hparams (line : String) : t.params line = u.params line := by
    rw [params_eq, params_eq, lookup_ofList, lookup_ofList, lastWithHeader_congr h]
  refine ⟨hheaders, hsize, hcollapsed, hparams, fun line index => ?_⟩
  rw [options_eq, options_eq, hparams]

namespace Library

/-! ## What libraries say -/

/-- Whether a part of a document is an array of objects that are read as these commands. -/
def IsCommandList (cs : List Command) : Node → Prop :=
  IsListOf (fun c n => commandShape.read n = .ok c) cs

/-- What the object of a group says, and a library in one object. -/
def commandsClauses (cs : List Command) : List Clause :=
  [⟨"commands", IsCommandList cs, False⟩]

/-- Whether a part of a document is an object of these groups by their names, in order. -/
def IsGroupObject (gs : List (String × List Command)) (n : Node) : Prop :=
  ∃ ms, n = .object ms true ∧
    List.Forall₂ (fun g m => Spells m.1 g.1.toList ∧ m.2.Says (commandsClauses g.2)) gs ms

/-- What a library with these groups says. -/
def groupedClauses (gs : List (String × List Command)) : List Clause :=
  [⟨"groups", IsGroupObject gs, False⟩]

/-! ## One list of commands -/

variable {n : Node}

theorem readList_of_isCommandList (hn : n.wellFormed) (h : IsCommandList cs n) :
    readList commandShape.read n = .ok cs :=
  readList_of_isListOf (fun _ _ _ hread => hread) hn h

theorem read_group (hn : n.wellFormed) (h : n.Says (commandsClauses cs)) :
    groupShape.read n = .ok ⟨cs⟩ :=
  Shape.read_of_says (List.nodup_singleton _) rfl (List.pairwise_singleton _ _)
    (.of (fun _ => readList_of_isCommandList) nofun (.nil _)) hn h

theorem read_flat (hn : n.wellFormed) (h : n.Says (commandsClauses cs)) :
    flatShape.read n = .ok ⟨cs⟩ :=
  Shape.read_of_says (List.nodup_singleton _) rfl (List.pairwise_singleton _ _)
    (.of (fun _ => readList_of_isCommandList) nofun (.nil _)) hn h

theorem ofNode?_bare (hn : n.wellFormed) (h : IsCommandList cs n) : ofNode? n = some cs := by
  have hread := readList_of_isCommandList hn h
  obtain ⟨ns, rfl, -⟩ := h
  rw [ofNode?, hread]
  rfl

theorem ofNode?_flat (hn : n.wellFormed) (h : n.Says (commandsClauses cs)) :
    ofNode? n = some cs := by
  have hread := read_flat hn h
  obtain ⟨ms, -, -, rfl, -⟩ := h
  rw [ofNode?, hread]

/-! ## Groups -/

variable {gs : List (String × List Command)}

theorem putGroup_of_notMem {name : String} {group : CommandGroup}
    {groups : List (String × CommandGroup)} (h : name ∉ groups.map (·.1)) :
    putGroup name group groups = groups ++ [(name, group)] := by
  induction groups with
  | nil => rfl
  | cons x groups ih =>
    obtain ⟨hne, h⟩ := not_or.1 (mt List.mem_cons.2 h)
    rw [putGroup, if_neg (Ne.symm hne), ih h, List.cons_append]

/-- Groups with new names are listed after the others. -/
theorem readGroups_of_forall₂ {ms : List (List Piece × Node)}
    (h : List.Forall₂ (fun g m => Spells m.1 g.1.toList ∧ m.2.Says (commandsClauses g.2)) gs ms)
    (hms : membersWellFormed ms) {groups : List (String × CommandGroup)}
    (hnames : (groups.map (·.1) ++ gs.map (·.1)).Nodup) :
    readGroups groups ms = .ok (groups ++ gs.map fun g => (g.1, ⟨g.2⟩)) := by
  induction h generalizing groups with
  | nil => rw [List.map_nil, List.append_nil, readGroups]
  | @cons g m gs ms hm _ ih =>
    obtain ⟨hkey, hsays⟩ := hm
    obtain ⟨hn, hms⟩ := List.forall_mem_cons.1 (membersWellFormed_iff.1 hms)
    have hfresh : g.1 ∉ groups.map (·.1) := fun h =>
      (List.nodup_append.1 hnames).2.2 _ h _ List.mem_cons_self rfl
    have hnames' :
        ((groups ++ [(g.1, (⟨g.2⟩ : CommandGroup))]).map (·.1) ++ gs.map (·.1)).Nodup := by
      simpa using hnames
    have hrest := ih (membersWellFormed_iff.2 hms) hnames'
    rw [List.append_assoc, List.singleton_append] at hrest
    simp only [readGroups, hkey.text?_eq, read_group hn hsays]
    show readGroups (putGroup g.1 ⟨g.2⟩ groups) ms = _
    rw [putGroup_of_notMem hfresh]
    exact hrest

theorem read_grouped (hnames : (gs.map (·.1)).Nodup) (hn : n.wellFormed)
    (h : n.Says (groupedClauses gs)) :
    groupedShape.read n = .ok (gs.map fun g => (g.1, ⟨g.2⟩)) := by
  have hgroups (m : Node) (hm : m.wellFormed) (hgs : IsGroupObject gs m) :
      readGroupObject m = .ok (gs.map fun g => (g.1, ⟨g.2⟩)) := by
    obtain ⟨ms, rfl, hms⟩ := hgs
    have hwell : membersWellFormed ms := by simpa [Node.wellFormed] using hm
    have hread : readGroups [] ms = .ok ([] ++ gs.map fun g => (g.1, ⟨g.2⟩)) :=
      readGroups_of_forall₂ hms hwell hnames
    exact hread
  exact Shape.read_of_says (List.nodup_singleton _) rfl (List.pairwise_singleton _ _)
    (.of hgroups nofun (.nil _)) hn h

/-- A library that has no list of commands of its own is read by its groups. -/
theorem ofNode?_grouped {ms : List (List Piece × Node)} (hnames : (gs.map (·.1)).Nodup)
    (hn : (Node.object ms true).wellFormed) (h : (Node.object ms true).Says (groupedClauses gs))
    (hcommands : ∀ m ∈ ms, ¬ Spells m.1 "commands".toList) :
    ofNode? (.object ms true) = some (gs.flatMap fun g => g.2.map (withCategory g.1)) := by
  have hflat : ∀ group, flatShape.read (.object ms true) ≠ .ok group := by
    intro group hread
    obtain ⟨m, hm, htext⟩ := Shape.exists_member_of_read hread List.mem_cons_self rfl
    obtain ⟨key, hkey⟩ := h.exists_key m hm
    obtain rfl : key = "commands" := Option.some.inj (hkey.text?_eq.symm.trans htext)
    exact hcommands m hm hkey
  rw [ofNode?]
  split
  next group hread => exact absurd hread (hflat group)
  · rw [read_grouped hnames hn h]
    exact congrArg some (List.flatMap_map ..)

/-- A group changes nothing but a category that is missing. -/
theorem withCategory_eq (name : String) : withCategory name = fun c =>
    { c with category := if c.category = "" then name else c.category } := by
  funext c
  unfold withCategory
  simp only [String.isEmpty_iff]
  split_ifs <;> rfl

theorem sameUse_grouped (gs : List (String × List Command)) :
    List.Forall₂ Command.SameUse (gs.flatMap fun g => g.2.map (withCategory g.1))
      (gs.flatMap (·.2)) := by
  induction gs with
  | nil => exact .nil
  | cons g gs ih =>
    have hgroup : List.Forall₂ Command.SameUse (g.2.map (withCategory g.1)) g.2 := by
      rw [List.forall₂_map_left_iff, List.forall₂_same, withCategory_eq]
      exact fun c _ => ⟨rfl, rfl⟩
    exact List.rel_append hgroup ih

/-! ## Texts -/

/-- Whether a text is a document with this tree, within the depth that a library may have. -/
structure IsLibraryText (n : Node) (text : String) : Prop where
  isWrittenAs : n.IsWrittenAs text
  fits : n.Fits depthLimit

theorem IsLibraryText.parse_eq {text : String} (h : IsLibraryText n text)
    (hcs : n.wellFormed → ofNode? n = some cs) : parse text = .ok cs := by
  rw [parse_eq_ok_iff, readDocument_of_isWrittenAs h.isWrittenAs]
  exact ⟨h.fits, hcs h.isWrittenAs.wellFormed, rfl⟩

theorem isLibraryText_prettyText {v : Value} (hnumbers : ∀ x ∈ v.numbers, x.IsWord)
    (hdepth : v.depth ≤ depthLimit) : IsLibraryText v.toNode v.prettyText :=
  ⟨Value.isWrittenAs_prettyText hnumbers, v, v.value?_toNode depthLimit hnumbers hdepth⟩

end Library

open Library

/-- **The layouts agree.** A library that lists commands in groups with distinct names, among any
other members but a list of commands of its own, is read as all these commands in order, and a group
gives its name to the commands without a category. One object or a bare array with the same commands
is read as they are written there. So the tables of all three are the same but for categories. -/
theorem library_layouts_agree {gs : List (String × List Command)} {ms : List (List Piece × Node)}
    {list object : Node} {grouped bare flat : String} (hnames : (gs.map (·.1)).Nodup)
    (hgroups : (Node.object ms true).Says (groupedClauses gs))
    (hcommands : ∀ m ∈ ms, ¬ Spells m.1 "commands".toList)
    (hlist : IsCommandList (gs.flatMap (·.2)) list)
    (hobject : object.Says (commandsClauses (gs.flatMap (·.2))))
    (hgrouped : IsLibraryText (.object ms true) grouped)
    (hbare : IsLibraryText list bare) (hflat : IsLibraryText object flat) :
    let cs := gs.flatMap fun g => g.2.map fun c =>
      { c with category := if c.category = "" then g.1 else c.category }
    let ds := gs.flatMap (·.2)
    let t := CommandTable.ofList cs
    let u := CommandTable.ofList ds
    (parse grouped = .ok cs ∧ parse bare = .ok ds ∧ parse flat = .ok ds) ∧
      t.headers = u.headers ∧ t.size = u.size ∧ t.collapsed = u.collapsed ∧
      (∀ line, t.params line = u.params line) ∧
      ∀ line index, t.options line index = u.options line index := by
  intro cs ds
  have hcs : cs = gs.flatMap fun g => g.2.map (withCategory g.1) := by
    simp only [cs, withCategory_eq]
  have huse : List.Forall₂ Command.SameUse cs ds := hcs ▸ sameUse_grouped gs
  refine ⟨⟨?_, ?_, ?_⟩, CommandTable.ofList_congr huse⟩
  · rw [hcs]
    exact hgrouped.parse_eq fun hn => ofNode?_grouped hnames hn hgroups hcommands
  · exact hbare.parse_eq fun hn => ofNode?_bare hn hlist
  · exact hflat.parse_eq fun hn => ofNode?_flat hn hobject

/-! ## Two groups with a common header -/

/-- The form of a command that sets the horizontal scale, without a category. -/
def scaleSetting : Command where
  scpi := "HORizontal:SCAle {scale}"
  params := some [{ name := "scale", kind := .enumeration, options := some ["FAST", "SLOW"] }]

def groupNote : String × Value := ("note", .array [.null])

/-- The object of a group with one command, and a note on it. -/
def notedGroup (c : Command) : Value :=
  .object [groupNote, ("commands", .array [c.toValue])]

def libraryVersion : String × Value := ("version", .number (.integer 1))

def groupsMember : String × Value :=
  ("groups", .object [("Queries", notedGroup scaleQuery), ("Settings", notedGroup scaleSetting)])

/-- Both forms by their groups, with a version at the end. -/
def groupedScale : Value := .object [groupsMember, libraryVersion]

/-- Both forms in a bare array. -/
def bareScale : Value := .array [scaleQuery.toValue, scaleSetting.toValue]

/-- Both forms in one object. -/
def flatScale : Value := .object [("commands", bareScale)]

theorem isCommandList_bareScale : IsCommandList [scaleQuery, scaleSetting] bareScale.toNode :=
  ⟨_, rfl, .cons rfl (.cons rfl .nil)⟩

theorem says_flatScale : flatScale.toNode.Says (commandsClauses [scaleQuery, scaleSetting]) :=
  says_toNode [] .rfl (.given (spells_literalPieces _) isCommandList_bareScale .nil) nofun

theorem says_notedGroup {c : Command} (hread : commandShape.read c.toValue.toNode = .ok c) :
    (notedGroup c).toNode.Says (commandsClauses [c]) := by
  have hlist : SayInOrder (commandsClauses [c]) (memberNodes [("commands", .array [c.toValue])]) :=
    .given (spells_literalPieces _) ⟨_, rfl, .cons hread .nil⟩ .nil
  exact says_toNode [groupNote] .rfl hlist (by simp [commandsClauses, groupNote])

theorem says_groupedScale : groupedScale.toNode.Says
    (groupedClauses [("Queries", [scaleQuery]), ("Settings", [scaleSetting])]) := by
  have hgroups : SayInOrder
      (groupedClauses [("Queries", [scaleQuery]), ("Settings", [scaleSetting])])
      (memberNodes [groupsMember]) :=
    .given (spells_literalPieces _)
      ⟨_, rfl, .cons ⟨spells_literalPieces _, says_notedGroup rfl⟩
        (.cons ⟨spells_literalPieces _, says_notedGroup rfl⟩ .nil)⟩ .nil
  exact says_toNode [libraryVersion] (.swap _ _ _) hgroups
    (by simp [groupedClauses, libraryVersion])

/-- The setting form takes the place of the query form, and its parameter has the same values
whichever document is loaded. -/
theorem library_layouts_agree_scale :
    let cs := [scaleQuery, { scaleSetting with category := "Settings" }]
    let ds := [scaleQuery, scaleSetting]
    let t := CommandTable.ofList cs
    let u := CommandTable.ofList ds
    (parse groupedScale.prettyText = .ok cs ∧ parse bareScale.prettyText = .ok ds ∧
        parse flatScale.prettyText = .ok ds) ∧
      t.headers = u.headers ∧ u.headers = ["HORIZONTAL:SCALE"] ∧
      t.collapsed = u.collapsed ∧ u.collapsed = 1 ∧
      t.params "horizontal:scale 2" = u.params "horizontal:scale 2" ∧
      t.options "horizontal:scale 2" 0 = u.options "horizontal:scale 2" 0 ∧
      u.options "horizontal:scale 2" 0 = ["FAST", "SLOW"] := by
  have hcommands : ∀ m ∈ memberNodes [groupsMember, libraryVersion],
      ¬ Spells m.1 "commands".toList := by
    have hnames : ∀ m ∈ [groupsMember, libraryVersion], m.1 ≠ "commands" := by decide
    intro m hm hspells
    rw [memberNodes_eq_map] at hm
    obtain ⟨m', hm', rfl⟩ := List.mem_map.1 hm
    exact hnames m' hm' (Option.some.inj ((text?_literalPieces m'.1).symm.trans hspells.text?_eq))
  have hgrouped : IsLibraryText groupedScale.toNode groupedScale.prettyText :=
    isLibraryText_prettyText (by decide) (by decide)
  have hbare : IsLibraryText bareScale.toNode bareScale.prettyText :=
    isLibraryText_prettyText (by decide) (by decide)
  have hflat : IsLibraryText flatScale.toNode flatScale.prettyText :=
    isLibraryText_prettyText (by decide) (by decide)
  have hnames : ([("Queries", [scaleQuery]), ("Settings", [scaleSetting])].map (·.1)).Nodup := by
    decide
  obtain ⟨hparse, hheaders, -, hcollapsed, hparams, hoptions⟩ := library_layouts_agree hnames
    says_groupedScale hcommands isCommandList_bareScale says_flatScale hgrouped hbare hflat
  exact ⟨hparse, hheaders, by decide +kernel, hcollapsed, by decide +kernel, hparams _,
    hoptions _ 0, by decide +kernel⟩

end BenchScript
