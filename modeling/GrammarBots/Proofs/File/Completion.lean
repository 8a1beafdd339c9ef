import GrammarBots.Proofs.File.Interruption

/-!
# Scripts that are carried out

`FileTree.Runs` says that the steps of a script can be done one after the other on a tree, and
`FileAccess.attempt_runScript_of_runs` that an access which does every step that the tree can do
carries such a script out.  If a script ends well, each of its steps was done
(`FileTree.Leads.exists_apply`); if it fails, one of its steps failed, and the failure names it
(`FileAccess.exists_of_runScript_eq_error`).
-/

namespace GrammarBots

namespace FileTree

variable {t t' : FileTree} {path : Path} {directory : Place} {name : Text}

/-! ### Steps that can be done -/

/-- The path leads to a name in a directory that a file can have. -/
def TakesFile (t : FileTree) (path : Path) : Prop :=
  ∃ directory name, t.aim path = .ok (.name directory name false) ∧ name.str.utf8ByteSize ≤ 255 ∧
    t.node? (directory ++ [name]) ≠ some .directory

theorem settle_of_eq_ok {result : Except FileError FileTree} (h : result = .ok t') :
    apply.settle t result = (t', .ok ()) := by
  rw [h]
  rfl

theorem write_of_aim (haim : t.aim path = .ok (.name directory name false))
    (hsize : name.str.utf8ByteSize ≤ 255) (hnode : t.node? (directory ++ [name]) ≠ some .directory)
    (content : Bytes) :
    ∃ mode, t.write path content = .ok (t.put (directory ++ [name]) (.file content mode)) := by
  have hentry : t.entry? directory name = .ok (t.node? (directory ++ [name])) :=
    entry?_of_size_le hsize
  rcases hthere : t.node? (directory ++ [name]) with _ | _ | ⟨old, mode⟩
  · rw [hthere] at hentry
    exact ⟨0o644, by simp [write, haim, hentry, bind, Except.bind]⟩
  · exact absurd hthere hnode
  · rw [hthere] at hentry
    exact ⟨mode, by simp [write, haim, hentry, bind, Except.bind]⟩

theorem mode_of_hasFile {content : Bytes} {mode : Nat}
    (h : t.HasFile path directory name content mode) : t.mode path = .ok mode := by
  rw [FileTree.mode, h.find_eq]
  rfl

theorem rename_of_hasFile {source target : Path} {content : Bytes} {mode : Nat}
    (hfile : t.HasFile source directory name content mode) {goal : Place} {last : Text}
    (haim : t.aim target = .ok (.name goal last false)) (hsize : last.str.utf8ByteSize ≤ 255)
    (hnode : t.node? (goal ++ [last]) ≠ some .directory) :
    t.rename source target
      = .ok ((t.remove (directory ++ [name])).put (goal ++ [last]) (.file content mode)) := by
  have hsource : t.entry? directory name = .ok (t.node? (directory ++ [name])) :=
    entry?_of_size_le hfile.size_le
  rw [hfile.node?_eq] at hsource
  simp [rename, hfile.aim_eq, haim, hsource, entry?_of_size_le hsize, hnode, bind, Except.bind]

/-! ### Scripts -/

/-- The steps of a script can be done one after the other, and lead to a tree. -/
def Runs (t : FileTree) : FileScript → FileTree → Prop
  | [], t' => t' = t
  | (step, _) :: rest, t' => ∃ next : FileTree, t.apply step = (next, .ok ()) ∧ next.Runs rest t'

/-- Each step of a script that ends well was done on some tree. -/
theorem Leads.exists_apply {script : FileScript} {step : FileStep} {context : String}
    (h : t.Leads script (some (.ok ())) t') (hmem : (step, context) ∈ script) :
    ∃ u u' : FileTree, u.apply step = (u', .ok ()) := by
  induction script generalizing t with
  | nil => exact absurd hmem List.not_mem_nil
  | cons first rest ih =>
    obtain ⟨head, headContext⟩ := first
    rcases h.of_cons with ⟨hresult, -⟩ | ⟨next, happly, hrest⟩
    · exact absurd rfl hresult
    · rcases List.mem_cons.mp hmem with heq | hmem
      · obtain ⟨rfl, -⟩ := Prod.mk.inj heq
        exact ⟨t, next, happly⟩
      · exact ih hrest hmem

end FileTree

namespace FileAccess

variable {σ : Type} {files : FileAccess (OptionT (StateM σ))} {tree : σ → FileTree}

/-- The access shows the tree as it is. -/
structure Shows (files : FileAccess (OptionT (StateM σ))) (tree : σ → FileTree) : Prop where
  /-- What is at a path is seen. -/
  contains : ∀ path s, attempt (files.contains path) s = (some ((tree s).contains path), s)
  /-- A file is read as it is. -/
  read : ∀ path s, attempt (files.read path) s = (some ((tree s).text path), s)

/-- The access does every step that the tree can do. -/
def Completes (files : FileAccess (OptionT (StateM σ))) (tree : σ → FileTree) : Prop :=
  ∀ step s t', (tree s).apply step = (t', .ok ()) →
    ∃ s', attempt (files.change step) s = (some (.ok ()), s') ∧ tree s' = t'

/-- **A script that can be run** is carried out. -/
theorem attempt_runScript_of_runs (hfiles : files.Completes tree) {script : FileScript} {s : σ}
    {t' : FileTree} (h : (tree s).Runs script t') :
    ∃ s', attempt (files.runScript script) s = (some (.ok ()), s') ∧ tree s' = t' := by
  induction script generalizing s with
  | nil => exact ⟨s, rfl, h.symm⟩
  | cons first rest ih =>
    obtain ⟨step, context⟩ := first
    obtain ⟨next, happly, hrest⟩ := h
    obtain ⟨s₁, hstep, hnext⟩ := hfiles step s next happly
    subst hnext
    obtain ⟨s', hrun, htree⟩ := ih hrest
    refine ⟨s', ?_, htree⟩
    rw [runScript, attempt_bind, hstep]
    exact hrun

/-- **A script fails** only if one of its steps does. -/
theorem exists_of_runScript_eq_error {script : FileScript} {s s' : σ} {e : Failure}
    (h : attempt (files.runScript script) s = (some (.error e), s')) :
    ∃ step context cause, (step, context) ∈ script ∧
      e = (Failure.ofCause (.file cause)).within context := by
  induction script generalizing s with
  | nil => cases h
  | cons first rest ih =>
    obtain ⟨step, context⟩ := first
    rw [runScript, attempt_bind] at h
    rcases hstep : attempt (files.change step) s with ⟨_ | cause | ⟨⟩, s₁⟩
    · rw [hstep] at h
      cases h
    · rw [hstep] at h
      obtain rfl := Except.error.inj (Option.some.inj (Prod.mk.inj h).1)
      exact ⟨step, context, cause, List.mem_cons_self, rfl⟩
    · rw [hstep] at h
      obtain ⟨step', context', cause, hmem, he⟩ := ih h
      exact ⟨step', context', cause, List.mem_cons_of_mem _ hmem, he⟩

/-! ### A process that is not stopped -/

/-- Access to a tree of files for a process that is never stopped. -/
def whole : FileAccess (OptionT (StateM FileTree)) where
  contains path := return (← get).contains path
  read path := return (← get).text path
  change step := modifyGet fun t =>
    let (t, result) := t.apply step
    (result, t)

theorem attempt_whole_change (step : FileStep) (t : FileTree) :
    attempt (whole.change step) t = (some (t.apply step).2, (t.apply step).1) := rfl

theorem actsOn_whole : whole.ActsOn id := by
  refine ⟨fun step t t' h => ?_, fun step t e t' h => ?_, fun step t t' h => ?_⟩ <;>
    rw [attempt_whole_change] at h
  · obtain ⟨hresult, rfl⟩ := Prod.mk.inj h
    exact Prod.ext rfl (Option.some.inj hresult)
  · obtain ⟨hresult, rfl⟩ := Prod.mk.inj h
    exact FileTree.begun_of_apply (Prod.ext rfl (Option.some.inj hresult))
  · cases (Prod.mk.inj h).1

theorem shows_whole : whole.Shows id := ⟨fun _ _ => rfl, fun _ _ => rfl⟩

theorem completes_whole : whole.Completes id := by
  intro step t t' h
  refine ⟨t', ?_, rfl⟩
  rw [attempt_whole_change, show t.apply step = (t', .ok ()) from h]

end FileAccess

end GrammarBots
