import GrammarBots.File.Script
import GrammarBots.Proofs.File.Replacement

/-!
# Scripts that are interrupted

A step on files can fail or be stopped at any moment, and may then have done some of its work:
directories above a path may have been made, and a file may hold anything that was written to it so
far (`FileTree.Begun`).  `FileTree.Leads` says what may become of a tree on which a script is run.
It holds of every access to files that is true to the tree in this sense
(`FileAccess.leads_runScript`), whatever the access fails at and wherever the process is stopped.
-/

namespace GrammarBots

namespace FileTree

open GrammarBots.Path

/-- Some of the directories have been made that are met on the way up from a path. -/
inductive Made (path : Path) : FileTree → FileTree → Prop where
  /-- None was made. -/
  | none (t : FileTree) : Made path t t
  /-- One was made, and then others. -/
  | one {t t' t'' : FileTree} {p : Path} (hp : Above path p) (h : t.createDirectory p = .ok t')
      (others : Made path t' t'') : Made path t t''

/-- What may have become of a tree while a step is under way, or when it has failed. -/
def Begun (t : FileTree) : FileStep → FileTree → Prop
  | .createDirectories path, t' => Made path t t'
  | .write path _, t' => t' = t ∨ ∃ content, t.write path content = .ok t'
  | .readMode _, t' => t' = t
  | .setMode _ _, t' => t' = t
  | .rename _ _, t' => t' = t

variable {t t' : FileTree} {step : FileStep}

theorem Made.trans {path : Path} {t'' : FileTree} (h : Made path t t') (h' : Made path t' t'') :
    Made path t t'' := by
  induction h with
  | none => exact h'
  | one hp hmade _ ih => exact .one hp hmade (ih h')

theorem made_of_createDirectory {path p : Path} (hp : Above path p)
    (h : t.createDirectory p = .ok t') : Made path t t' := .one hp h (.none t')

/-- Making a directory and those above it makes some of them, even if it fails. -/
theorem made_createDirectories {path p : Path} (hp : Above path p) (bound : Nat) (t : FileTree) :
    Made path t (createDirectories bound t p).1 := by
  fun_induction createDirectories bound t p
  case case1 t _ => exact .none t
  case case2 hmade => exact made_of_createDirectory hp hmade
  case case3 t _ _ _ _ => exact .none t
  case case4 t _ _ _ _ _ => exact .none t
  case case5 hparent _ _ hresult ih =>
    have habove := ih (hp.up hparent)
    rwa [hresult] at habove
  case case6 hparent _ hresult _ hmade ih =>
    have habove := ih (hp.up hparent)
    rw [hresult] at habove
    exact habove.trans (made_of_createDirectory hp hmade)
  case case7 hparent _ hresult _ _ ih =>
    have habove := ih (hp.up hparent)
    rwa [hresult] at habove

theorem made_of_apply {path : Path} {made : Except FileError Unit}
    (h : t.apply (.createDirectories path) = (t', made)) : Made path t t' := by
  rw [apply] at h
  split_ifs at h with hempty
  · obtain rfl := (Prod.mk.inj h).1
    exact .none t
  · have hmade : Made path t (createDirectories (path.length + 1) t path).1 :=
      made_createDirectories .here _ t
    rwa [h] at hmade

theorem settle_eq_error {result : Except FileError FileTree} {e : FileError}
    (h : apply.settle t result = (t', .error e)) : t' = t := by
  cases result with
  | ok => cases h
  | error e => exact (Prod.mk.inj h).1.symm

theorem settle_eq_ok {result : Except FileError FileTree}
    (h : apply.settle t result = (t', .ok ())) : result = .ok t' := by
  cases result with
  | ok => rw [(Prod.mk.inj h).1]
  | error e => cases h

/-- A step that fails by itself has done no more than one that is interrupted. -/
theorem begun_of_apply {e : FileError} (h : t.apply step = (t', .error e)) : t.Begun step t' := by
  cases step with
  | createDirectories path => exact made_of_apply h
  | write path content => exact Or.inl (settle_eq_error h)
  | readMode path => exact (Prod.mk.inj h).1.symm
  | setMode path mode => exact settle_eq_error h
  | rename source target => exact settle_eq_error h

theorem begun_refl (t : FileTree) (step : FileStep) : t.Begun step t := by
  cases step with
  | createDirectories path => exact .none t
  | write path content => exact Or.inl rfl
  | readMode path => rfl
  | setMode path mode => rfl
  | rename source target => rfl

/-! ### Scripts -/

/-- What may become of a tree on which a script is run, and how the script may end.  There is no
result if the process is stopped. -/
inductive Leads : FileTree → FileScript → Option (Except Failure Unit) → FileTree → Prop where
  /-- All steps are done. -/
  | done (t : FileTree) : Leads t [] (some (.ok ())) t
  /-- The process is stopped between two steps. -/
  | stopped (t : FileTree) (script : FileScript) : Leads t script none t
  /-- A step fails or is stopped. -/
  | interrupted {t t' : FileTree} {step : FileStep} {result : Option (Except Failure Unit)}
      (context : String) (rest : FileScript) (h : t.Begun step t')
      (hresult : result ≠ some (.ok ())) : Leads t ((step, context) :: rest) result t'
  /-- A step is done, and then others. -/
  | next {t t' t'' : FileTree} {step : FileStep} {rest : FileScript}
      {result : Option (Except Failure Unit)} (context : String)
      (h : t.apply step = (t', .ok ())) (hrest : Leads t' rest result t'') :
      Leads t ((step, context) :: rest) result t''

variable {result : Option (Except Failure Unit)}

/-- A script without steps does not fail. -/
theorem Leads.of_nil (h : Leads t [] result t') : t' = t ∧ ∀ e, result ≠ some (.error e) := by
  cases h <;> exact ⟨rfl, nofun⟩

/-- A script ends with its first step, or the step is done and the others go on. -/
theorem Leads.of_cons {context : String} {rest : FileScript}
    (h : Leads t ((step, context) :: rest) result t') :
    (result ≠ some (.ok ()) ∧ t.Begun step t') ∨
      ∃ next, t.apply step = (next, .ok ()) ∧ Leads next rest result t' := by
  cases h with
  | stopped => exact Or.inl ⟨nofun, begun_refl t step⟩
  | interrupted _ _ hbegun hresult => exact Or.inl ⟨hresult, hbegun⟩
  | next _ happly hrest => exact Or.inr ⟨_, happly, hrest⟩

end FileTree

/-- What becomes of an action that may be stopped: its result, unless it was stopped, and the state
after it. -/
def attempt {σ α : Type} (x : OptionT (StateM σ) α) (s : σ) : Option α × σ := x.run.run s

/-- An action that is stopped does not go on. -/
theorem attempt_bind {σ α β : Type} (x : OptionT (StateM σ) α) (f : α → OptionT (StateM σ) β)
    (s : σ) : attempt (x >>= f) s = match attempt x s with
      | (none, s') => (none, s')
      | (some a, s') => attempt (f a) s' := by
  rw [attempt, OptionT.run_bind, Option.elimM, StateT.run_bind, attempt]
  rcases x.run.run s with ⟨_ | a, s'⟩ <;> rfl

namespace FileAccess

variable {σ : Type}

/-- The access is true to a tree: a step that succeeds does what the tree would do, and one that
fails or is stopped leaves off at some moment. -/
structure ActsOn (files : FileAccess (OptionT (StateM σ))) (tree : σ → FileTree) : Prop where
  /-- A step that succeeds. -/
  done : ∀ step s s', attempt (files.change step) s = (some (.ok ()), s') →
    (tree s).apply step = (tree s', .ok ())
  /-- A step that fails. -/
  failed : ∀ step s e s', attempt (files.change step) s = (some (.error e), s') →
    (tree s).Begun step (tree s')
  /-- A step in which the process is stopped, before or after it is done. -/
  stopped : ∀ step s s', attempt (files.change step) s = (none, s') →
    (tree s).Begun step (tree s') ∨ (tree s).apply step = (tree s', .ok ())

variable {files : FileAccess (OptionT (StateM σ))} {tree : σ → FileTree}

/-- **A script that is run** leads to what it may lead to. -/
theorem leads_runScript (hfiles : files.ActsOn tree) (script : FileScript) (s : σ) :
    (tree s).Leads script (attempt (files.runScript script) s).1
      (tree (attempt (files.runScript script) s).2) := by
  induction script generalizing s with
  | nil => exact .done (tree s)
  | cons first rest ih =>
    obtain ⟨step, context⟩ := first
    rw [runScript, attempt_bind]
    rcases hstep : attempt (files.change step) s with ⟨_ | e | ⟨⟩, s'⟩
    · rcases hfiles.stopped step s s' hstep with hbegun | hdone
      · exact .interrupted context rest hbegun nofun
      · exact .next context hdone (.stopped _ rest)
    · exact .interrupted context rest (hfiles.failed step s e s' hstep) nofun
    · exact .next context (hfiles.done step s s' hstep) (ih s')

/-! ### A process that is stopped -/

end FileAccess

end GrammarBots
