import BenchScript.Command.Library
import BenchScript.Command.Printer
import BenchScript.Proofs.CanonicalValues
import BenchScript.Proofs.Records

/-!
# Entries of command libraries

Where the commands of a library come from: each was read from a part of its document
(`Library.wasRead_of_mem_parse`). So the default of a parameter is what reading a value gives
(`Param.IsSettled`): it is not `null`, its members are sorted, and it is no deeper than a document
with one command allows.
-/

namespace BenchScript

open BenchScript.Json

variable {n : Node} {room : Nat}

/-! ## What is read -/

/-- Whether the default of a parameter, if it has one, is what reading a value gives. -/
def Param.IsSettled (room : Nat) (p : Param) : Prop :=
  ∀ v ∈ p.default, v ≠ .null ∧ v.canonical = v ∧ v.depth ≤ room

theorem Param.IsSettled.mono {p : Param} {room' : Nat} (h : p.IsSettled room)
    (hroom : room ≤ room') : p.IsSettled room' :=
  fun v hv => ⟨(h v hv).1, (h v hv).2.1, Nat.le_trans (h v hv).2.2 hroom⟩

namespace Library

theorem readValue_spec {v : Value} (hn : n ≠ .null) (hfits : n.Fits room)
    (h : readValue n = .ok v) : v ≠ .null ∧ v.canonical = v ∧ v.depth ≤ room := by
  unfold readValue at h
  split at h
  next w hw =>
    obtain rfl := Except.ok.inj h
    obtain ⟨w', hw'⟩ := hfits
    obtain ⟨rfl, hdepth⟩ := (Node.value?_eq_some_iff hw).1 hw'
    refine ⟨?_, w'.canonical_canonical, Nat.le_trans w'.depth_canonical_le ?_⟩
    · rw [Ne, Value.canonical_eq_null_iff]
      exact Node.value?_ne_null hn hw
    · exact (Node.fits_of_value? n room w' hw').1
  · cases h

/-- A field of a parameter other than its default leaves that as it is. -/
theorem default_of_read_field {f : Field Unit Param} (hf : f ∈ paramShape.fields) {p q : Param}
    (h : f.read n p = .ok q) :
    q.default = p.default ∨ readOption readValue n = .ok q.default := by
  simp only [paramShape, List.mem_cons, List.not_mem_nil, or_false] at hf
  rcases hf with rfl | rfl | rfl | rfl | rfl | rfl | rfl | rfl | rfl <;>
    obtain ⟨x, hx, rfl⟩ := map_eq_ok_iff.1 h
  -- the default is the third field
  case inr.inr.inl => exact .inr hx
  all_goals exact .inl rfl

/-- The default of a parameter that is read. -/
theorem isSettled_of_read {p : Param} (h : paramShape.read n = .ok p) (hn : n.Fits (room + 1)) :
    p.IsSettled room := by
  have hblank : paramShape.blank.IsSettled room := by
    intro v hv
    cases hv
  refine Shape.read_induction (Q := Node.Fits room) hblank ?_ h fun m hm => hn.child hm
  intro f hf m q r hm hq hr v hv
  rcases default_of_read_field hf hr with hkept | hread
  · exact hq v (hkept ▸ hv)
  · rw [show r.default = some v from hv] at hread
    obtain ⟨hnull, hvalue⟩ := ne_null_of_readOption hread
    exact readValue_spec hnull hm hvalue

/-- A field of a command other than its parameters leaves these as they are. -/
theorem params_of_read_field {f : Field Unit Command} (hf : f ∈ commandShape.fields)
    {c d : Command} (h : f.read n c = .ok d) :
    d.params = c.params ∨ readOption (readList paramShape.read) n = .ok d.params := by
  simp only [commandShape, List.mem_cons, List.not_mem_nil, or_false] at hf
  rcases hf with rfl | rfl | rfl | rfl | rfl <;> obtain ⟨x, hx, rfl⟩ := map_eq_ok_iff.1 h
  -- the parameters are the last field
  case inr.inr.inr.inr => exact .inr hx
  all_goals exact .inl rfl

/-- The defaults of a command that is read. They lie within its parameters, their list and the
command itself. -/
theorem isSettled_of_read_command {c : Command} (h : commandShape.read n = .ok c)
    (hn : n.Fits (room + 3)) : ∀ p ∈ c.paramList, p.IsSettled room := by
  refine Shape.read_induction (P := fun c => ∀ p ∈ c.paramList, p.IsSettled room)
    (Q := Node.Fits (room + 2)) (List.forall_mem_nil _) ?_ h fun m hm => hn.child hm
  intro f hf m c d hm hc hd p hp
  rcases params_of_read_field hf hd with hkept | hread
  · exact hc p (by simpa [Command.paramList, hkept] using hp)
  · cases hparams : d.params with
    | none =>
      rw [Command.paramList, hparams] at hp
      exact absurd hp List.not_mem_nil
    | some ps =>
      rw [Command.paramList, hparams] at hp
      rw [hparams] at hread
      obtain ⟨m', hm', hread⟩ := mem_of_readList (ne_null_of_readOption hread).2 hp
      exact isSettled_of_read hread (hm.child hm')

/-- Whether a command was read from a part of a document that fits into this room. -/
def WasRead (room : Nat) (c : Command) : Prop :=
  ∃ n : Node, n.Fits room ∧ commandShape.read n = .ok c

theorem wasRead_of_readList {cs : List Command} (h : readList commandShape.read n = .ok cs)
    (hn : n.Fits (room + 1)) : ∀ c ∈ cs, WasRead room c := by
  intro c hc
  obtain ⟨m, hm, hread⟩ := mem_of_readList h hc
  exact ⟨m, hn.child hm, hread⟩

theorem wasRead_of_read_group {s : Shape Unit CommandGroup} (hs : s = groupShape ∨ s = flatShape)
    {g : CommandGroup} (h : s.read n = .ok g) (hn : n.Fits (room + 2)) :
    ∀ c ∈ g.commands, WasRead room c := by
  have hfields : ∀ f ∈ s.fields, ∀ m g g', f.read m g = .ok g' →
      readList commandShape.read m = .ok g'.commands := by
    intro f hf m g g' hread
    rcases hs with rfl | rfl <;> obtain rfl := List.mem_singleton.1 hf <;>
      obtain ⟨cs, hcs, rfl⟩ := map_eq_ok_iff.1 hread <;> exact hcs
  have hblank : s.blank.commands = [] := by
    rcases hs with rfl | rfl <;> rfl
  refine Shape.read_induction (P := fun g => ∀ c ∈ g.commands, WasRead room c)
    (Q := Node.Fits (room + 1)) ?_ ?_ h fun m hm => hn.child hm
  · rw [hblank]
    exact List.forall_mem_nil _
  · intro f hf m g g' hm _ hread
    exact wasRead_of_readList (hfields f hf m g g' hread) hm

theorem mem_putGroup {name : String} {g : CommandGroup} {gs : List (String × CommandGroup)}
    {x : String × CommandGroup} (h : x ∈ putGroup name g gs) : x.2 = g ∨ x ∈ gs := by
  induction gs with
  | nil => exact .inl (by rw [List.mem_singleton.1 h])
  | cons y gs ih =>
    rw [putGroup] at h
    split_ifs at h
    · rcases List.mem_cons.1 h with rfl | h
      · exact .inl rfl
      · exact .inr (List.mem_cons_of_mem y h)
    · rcases List.mem_cons.1 h with rfl | h
      · exact .inr List.mem_cons_self
      · exact (ih h).imp_right (List.mem_cons_of_mem y)

theorem wasRead_of_readGroups {gs gs' : List (String × CommandGroup)}
    {ms : List (List Piece × Node)} (h : readGroups gs ms = .ok gs')
    (hms : ∀ m ∈ ms.map (·.2), m.Fits (room + 2))
    (hgs : ∀ g ∈ gs, ∀ c ∈ g.2.commands, WasRead room c) :
    ∀ g ∈ gs', ∀ c ∈ g.2.commands, WasRead room c := by
  induction ms generalizing gs with
  | nil =>
    obtain rfl := Except.ok.inj h
    exact hgs
  | cons m ms ih =>
    obtain ⟨hm, hms⟩ := List.forall_mem_cons.1 hms
    rw [readGroups] at h
    split at h
    · cases h
    next name _ =>
      obtain ⟨g, hg, h⟩ := bind_eq_ok_iff.1 h
      refine ih h hms fun x hx => ?_
      rcases mem_putGroup hx with heq | hx
      · rw [heq]
        exact wasRead_of_read_group (.inl rfl) hg hm
      · exact hgs x hx

theorem wasRead_of_read_grouped {gs : List (String × CommandGroup)}
    (h : groupedShape.read n = .ok gs) (hn : n.Fits (room + 4)) :
    ∀ g ∈ gs, ∀ c ∈ g.2.commands, WasRead room c := by
  refine Shape.read_induction (P := fun gs => ∀ g ∈ gs, ∀ c ∈ g.2.commands, WasRead room c)
    (Q := Node.Fits (room + 3)) (List.forall_mem_nil _) ?_ h fun m hm => hn.child hm
  intro f hf m gs gs' hm _ hread
  obtain rfl := List.mem_singleton.1 hf
  obtain ⟨gs', hgs', rfl⟩ := map_eq_ok_iff.1 hread
  cases m with
  | object ms closed =>
    exact wasRead_of_readGroups hgs' (fun m' => hm.child) (List.forall_mem_nil _)
  | _ => cases hgs'

theorem wasRead_of_ofNode? {cs : List Command} (h : ofNode? n = some cs)
    (hn : n.Fits (room + 1)) {c : Command} (hc : c ∈ cs) :
    ∃ d, WasRead room d ∧ (c = d ∨ ∃ name, c = withCategory name d) := by
  cases n with
  | array items closed =>
    rw [ofNode?, toOption_eq_some_iff] at h
    exact ⟨c, wasRead_of_readList h hn c hc, .inl rfl⟩
  | object ms closed =>
    rw [ofNode?] at h
    split at h
    -- in the other layouts the commands lie deeper, so they fit all the more
    next g hg =>
      obtain rfl := Option.some.inj h
      exact ⟨c, wasRead_of_read_group (.inr rfl) hg (hn.mono (by omega)) c hc, .inl rfl⟩
    · obtain ⟨gs, hgs, rfl⟩ := Option.map_eq_some_iff.1 h
      obtain ⟨⟨name, g⟩, hg, hc⟩ := List.mem_flatMap.1 hc
      obtain ⟨d, hd, rfl⟩ := List.mem_map.1 hc
      have hread : ∀ g ∈ gs, ∀ c ∈ g.2.commands, WasRead room c :=
        wasRead_of_read_grouped (toOption_eq_some_iff.1 hgs) (hn.mono (by omega))
      exact ⟨d, hread (name, g) hg d hd, .inr ⟨name, rfl⟩⟩
  | _ => cases h

theorem parse_eq_ok_iff {text : String} {cs : List Command} :
    parse text = .ok cs ↔ (readDocument text).root.Fits depthLimit ∧
      ofNode? (readDocument text).root = some cs ∧ (readDocument text).ended := by
  unfold parse
  dsimp only
  split
  next hnone => exact ⟨nofun, fun ⟨⟨v, hv⟩, _⟩ => by rw [hnone] at hv; cases hv⟩
  next v hv =>
    split
    next hnone => exact ⟨nofun, fun ⟨_, h, _⟩ => by rw [hnone] at h; cases h⟩
    next cs' hcs' =>
      rw [hcs']
      split_ifs with hended <;> simp [hended, Node.Fits, hv]

/-- **Where the commands of a library come from**: each was read from a part of the document below
its root, in any layout, and a group may have given it a category. -/
theorem wasRead_of_mem_parse {text : String} {cs : List Command} (h : parse text = .ok cs)
    {c : Command} (hc : c ∈ cs) :
    ∃ d, WasRead (depthLimit - 1) d ∧ (c = d ∨ ∃ name, c = withCategory name d) := by
  obtain ⟨hfits, hcs, -⟩ := parse_eq_ok_iff.1 h
  exact wasRead_of_ofNode? hcs hfits hc

/-- How deep the default of a parameter may be: in a document with one command it lies within the
list of commands, a command, the list of its parameters and a parameter. -/
def defaultDepth : Nat := depthLimit - 4

theorem isSettled_of_mem_parse {text : String} {cs : List Command} (h : parse text = .ok cs)
    {c : Command} (hc : c ∈ cs) : ∀ p ∈ c.paramList, p.IsSettled defaultDepth := by
  obtain ⟨d, ⟨n, hfits, hread⟩, rfl | ⟨name, rfl⟩⟩ := wasRead_of_mem_parse h hc
  · exact isSettled_of_read_command hread hfits
  · have hparams : (withCategory name d).paramList = d.paramList := by
      unfold withCategory
      split_ifs <;> rfl
    rw [hparams]
    exact isSettled_of_read_command hread hfits

end Library

end BenchScript
