import GrammarBots.Proofs.File.Views

/-!
# Replacing a file

A file is replaced by another one that is written beside it and then moved over it.  Until it is
moved, nothing changes at the path of the file (`FileTree.view_put_beside`); once it is moved, the
path holds what was written and nothing is left beside it (`FileTree.view_rename`).
-/

namespace GrammarBots

namespace FileTree

open GrammarBots.Path

variable {t t' : FileTree} {path temporary : Path} {last name : Text}

/-- The path leads to a name in a directory, and a file has this name. -/
structure HasFile (t : FileTree) (path : Path) (directory : Place) (name : Text) (content : Bytes)
    (mode : Nat) : Prop where
  /-- The path leads to the name. -/
  aim_eq : t.aim path = .ok (.name directory name false)
  /-- The name can be looked up. -/
  size_le : name.str.utf8ByteSize ≤ 255
  /-- The name is that of a file. -/
  node?_eq : t.node? (directory ++ [name]) = some (.file content mode)

theorem HasFile.find_eq {directory : Place} {content : Bytes} {mode : Nat}
    (h : t.HasFile path directory name content mode) :
    t.find path = .ok (directory ++ [name], .file content mode) := by
  rw [find_of_aim h.aim_eq, entry?_of_size_le h.size_le, h.node?_eq]
  rfl

theorem HasFile.view_eq {directory : Place} {content : Bytes} {mode : Nat}
    (h : t.HasFile path directory name content mode) : t.view path = some (.file content mode) := by
  rw [view_of_aim h.aim_eq, if_pos h.size_le, h.node?_eq]
  rfl

/-- A name is no directory of its own. -/
theorem not_isTop_append {place : Place} (h : '/' ∉ name) : ¬ IsTop (place ++ [name]) := by
  rintro (htop | htop)
  · exact absurd htop (List.append_ne_nil_of_right_ne_nil _ (List.cons_ne_nil _ _))
  · obtain ⟨-, hname⟩ := List.append_inj' (htop.trans (List.nil_append [rootName]).symm) rfl
    rw [(List.cons.inj hname).1] at h
    exact h (List.mem_singleton_self '/')

theorem notMem_of_aim {directory : Place} {slash : Bool}
    (h : t.aim path = .ok (.name directory name slash)) : '/' ∉ name :=
  (proper_of_mem_stepsOf (List.mem_of_getLast? (aim_eq_name h).1)).2

/-- A file that is put at a name is there. -/
theorem hasFile_put {directory : Place} (haim : t.aim path = .ok (.name directory name false))
    (hsize : name.str.utf8ByteSize ≤ 255) (hnode : t.node? (directory ++ [name]) ≠ some .directory)
    (content : Bytes) (mode : Nat) :
    (t.put (directory ++ [name]) (.file content mode)).HasFile path directory name content mode := by
  refine ⟨(keepsDirectories_put (Or.inl hnode)).aim haim, hsize, ?_⟩
  rw [node?_put t _ _ (not_isTop_append (notMem_of_aim haim)), if_pos rfl]

theorem write_eq_ok {content : Bytes} (h : t.write path content = .ok t') :
    ∃ directory name mode, t.aim path = .ok (.name directory name false) ∧
      name.str.utf8ByteSize ≤ 255 ∧ t.node? (directory ++ [name]) ≠ some .directory ∧
      t' = t.put (directory ++ [name]) (.file content mode) := by
  obtain ⟨aim, haim, h⟩ := exists_of_bind_eq_ok h
  rcases aim with place | ⟨directory, name, slash⟩
  · cases h
  cases slash with
  | true => cases h
  | false =>
    obtain ⟨node?, hentry, h⟩ := exists_of_bind_eq_ok h
    obtain ⟨hsize, hnode⟩ := entry?_eq_ok hentry
    rcases node? with _ | _ | ⟨old, mode⟩
    · exact ⟨directory, name, _, haim, hsize, by rw [hnode]; nofun, (Except.ok.inj h).symm⟩
    · cases h
    · exact ⟨directory, name, mode, haim, hsize, by rw [hnode]; nofun, (Except.ok.inj h).symm⟩

theorem setMode_of_hasFile {directory : Place} {content : Bytes} {mode : Nat}
    (h : t.HasFile path directory name content mode) (new : Nat) :
    t.setMode path new = .ok (t.put (directory ++ [name]) (.file content new)) := by
  rw [setMode, h.find_eq]
  rfl

/-- A file is moved to a name that no directory has. -/
theorem rename_eq_ok {source target : Path} {directory : Place} {content : Bytes} {mode : Nat}
    (hfile : t.HasFile source directory name content mode) (h : t.rename source target = .ok t') :
    ∃ goal last, t.aim target = .ok (.name goal last false) ∧ last.str.utf8ByteSize ≤ 255 ∧
      t.node? (goal ++ [last]) ≠ some .directory ∧
      t' = (t.remove (directory ++ [name])).put (goal ++ [last]) (.file content mode) := by
  obtain ⟨_, hsource, h⟩ := exists_of_bind_eq_ok h
  obtain rfl := Except.ok.inj (hfile.aim_eq.symm.trans hsource)
  obtain ⟨aim, haim, h⟩ := exists_of_bind_eq_ok h
  rcases aim with place | ⟨goal, last, slash⟩
  · cases h
  obtain ⟨_, hentry, h⟩ := exists_of_bind_eq_ok h
  obtain rfl := hfile.node?_eq.symm.trans (entry?_eq_ok hentry).2
  obtain ⟨there, hentry, h⟩ := exists_of_bind_eq_ok h
  obtain ⟨hsize, hthere⟩ := entry?_eq_ok hentry
  have hne : FileNode.file content mode ≠ .directory := nofun
  split at h
  next => cases h
  next hslash =>
    split at h
    next => cases h
    next hdirectory =>
      have hfalse : slash = false := by simpa [hne] using hslash
      exact ⟨goal, last, hfalse ▸ haim, hsize, fun hnode => hdirectory ⟨hne, hthere ▸ hnode⟩,
        (Except.ok.inj h).symm⟩

/-! ### Beside a path -/

/-- Two paths beside each other lead to names in one directory. -/
theorem aim_of_beside (hbeside : Beside path temporary last name)
    {directory : Place} {name' : Text} {slash : Bool}
    (haim : t.aim temporary = .ok (.name directory name' slash)) :
    name' = name ∧ ((∃ e, ∀ t : FileTree, t.aim path = .error e) ∨
      t.aim path = .ok (.name directory last (endsInSlash path))) := by
  obtain ⟨hname, -, -, hwalk, -⟩ := aim_eq_name haim
  rw [hbeside.steps_eq, List.getLast?_concat, Option.some.injEq] at hname
  have hstart : start temporary = start path := by rw [start, start, hbeside.isAbsolute_eq]
  rw [hstart, hbeside.steps_eq, List.dropLast_concat] at hwalk
  refine ⟨hname.symm, (aim_eq hbeside.last_eq hbeside.ne_dot hbeside.ne_up).imp_right fun haims => ?_⟩
  rw [haims, hwalk]
  rfl

/-- **A file that is put beside a path** leaves everything as it is that is seen at the path. -/
theorem view_put_beside (hbeside : Beside path temporary last name)
    {directory : Place} {name' : Text} {slash : Bool}
    (haim : t.aim temporary = .ok (.name directory name' slash))
    (hnode : t.node? (directory ++ [name']) ≠ some .directory) (node : FileNode) :
    (t.put (directory ++ [name']) node).view path = t.view path := by
  obtain ⟨rfl, ⟨e, he⟩ | hpath⟩ := aim_of_beside hbeside haim
  · rw [view_of_aim_error (he _), view_of_aim_error (he _)]
  · have hne : directory ++ [last] ≠ directory ++ [name'] := by
      intro h
      exact hbeside.ne (List.cons.inj (List.append_cancel_left h)).1.symm
    have htop : ¬ IsTop (directory ++ [last]) := not_isTop_append (notMem_of_aim hpath)
    rw [view_of_aim ((keepsDirectories_put (Or.inl hnode)).aim hpath), view_of_aim hpath,
      node?_put t _ _ htop, if_neg hne]

/-- **A file that is moved from beside a path** is then at the path, and nothing is where it was. -/
theorem view_rename (hbeside : Beside path temporary last name)
    {directory : Place} {name' : Text} {content : Bytes} {mode : Nat}
    (hfile : t.HasFile temporary directory name' content mode)
    (h : t.rename temporary path = .ok t') :
    t'.view path = some (.file content mode) ∧ t'.view temporary = none := by
  obtain ⟨goal, goalLast, haim, hsize, hnode, rfl⟩ := rename_eq_ok hfile h
  obtain ⟨rfl, ⟨e, he⟩ | hpath⟩ := aim_of_beside hbeside hfile.aim_eq
  · rw [he] at haim
    cases haim
  obtain ⟨rfl, rfl, -⟩ := PathEnd.name.inj (Except.ok.inj (hpath.symm.trans haim))
  have hne : directory ++ [last] ≠ directory ++ [name'] := by
    intro h
    exact hbeside.ne (List.cons.inj (List.append_cancel_left h)).1.symm
  have htop : ¬ IsTop (directory ++ [last]) := not_isTop_append (notMem_of_aim haim)
  have htop' : ¬ IsTop (directory ++ [name']) := not_isTop_append (notMem_of_aim hfile.aim_eq)
  have hremoved : KeepsDirectories t (t.remove (directory ++ [name'])) :=
    keepsDirectories_remove (by rw [hfile.node?_eq]; nofun)
  have hnode' : (t.remove (directory ++ [name'])).node? (directory ++ [last])
      ≠ some .directory := by
    rwa [node?_remove t _ htop, if_neg hne]
  constructor
  · exact (hasFile_put (hremoved.aim haim) hsize hnode' content mode).view_eq
  · have hput : KeepsDirectories (t.remove (directory ++ [name']))
        ((t.remove (directory ++ [name'])).put (directory ++ [last]) (.file content mode)) :=
      keepsDirectories_put (Or.inl hnode')
    rw [view_of_aim (hput.aim (hremoved.aim hfile.aim_eq)), if_pos hfile.size_le, node?_put _ _ _ htop',
      if_neg hne.symm, node?_remove t _ htop', if_pos rfl]
    rfl

end FileTree

end GrammarBots
