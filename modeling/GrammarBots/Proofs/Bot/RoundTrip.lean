import GrammarBots.Proofs.Bot.Saving
import GrammarBots.Proofs.Bot.StoreText
import GrammarBots.Proofs.File.Completion

/-!
# A store is loaded as it was saved

`BotStore.load_of_save` says that a store that was saved is loaded with the same bots in the same
order.  Saving itself fails only where a step on the files fails, and it does not fail where the
directory of the store can be made and no directory has the name of the store or of the second file
(`HasRoom`).

The text of the store is read back by `StoreText.decode?_encode`; the file that is read is the one
that was written by `leads_replacement`, since the new store was moved into place.
-/

namespace GrammarBots.BotStore

open FileTree GrammarBots.Path

variable {t t' : FileTree} {path : Path} {bots : List BotRecord}

/-! ### A store that was saved -/

/-- A path to which something was moved ends with a name. -/
theorem exists_beside_of_rename {source : Path} (h : t.rename source path = .ok t') :
    ∃ last name, Beside path (temporaryPath path) last name := by
  obtain ⟨aim, -, h⟩ := exists_of_bind_eq_ok h
  obtain ⟨goal, hgoal, h⟩ := exists_of_bind_eq_ok h
  rcases aim with place | ⟨directory, name, slash⟩
  · cases h
  rcases goal with place | ⟨goal, last, slash⟩
  · cases h
  obtain ⟨hlast, hdot, hup, -⟩ := aim_eq_name hgoal
  exact ⟨last, exists_beside_temporaryPath hlast hdot hup⟩

/-- **After saving**, the file of the store holds the text of the bots. -/
theorem view_of_leads_saveScript (h : t.Leads (saveScript path bots) (some (.ok ())) t') :
    t'.view path = some (fileOf bots) := by
  have hmoved : (FileStep.rename (temporaryPath path) path, "Failed to replace bot store " ++ path)
      ∈ saveScript path bots := by
    simp [saveScript]
  obtain ⟨u, u', happly⟩ := h.exists_apply hmoved
  obtain ⟨last, name, hbeside⟩ := exists_beside_of_rename (settle_eq_ok happly)
  have hreplaced {made : FileTree} {writing reading setting moving : String}
      (h : made.Leads [(.write (temporaryPath path) (StoreText.encode bots), writing),
        (.readMode (temporaryPath path), reading), (.setMode (temporaryPath path) 0o600, setting),
        (.rename (temporaryPath path) path, moving)] (some (.ok ())) t') :
      t'.view path = some (fileOf bots) := by
    rcases leads_replacement hbeside h with ⟨hresult, -⟩ | ⟨-, hview, -⟩
    · exact absurd rfl hresult
    · exact hview
  rw [saveScript] at h
  cases hdirectory : directory? path with
  | none =>
    rw [hdirectory] at h
    exact hreplaced h
  | some directory =>
    rw [hdirectory] at h
    rcases h.of_cons with ⟨hresult, -⟩ | ⟨made, -, h⟩
    · exact absurd rfl hresult
    · exact hreplaced h

/-- The bots are read from the file that they were saved in. -/
theorem loadFrom_of_view_fileOf (hschedules : ∀ bot ∈ bots, bot.schedule < UInt64.size)
    (hinstants : ∀ bot ∈ bots, StoreText.HasReadableInstants bot)
    (h : t.view path = some (fileOf bots)) : loadFrom t path = .ok bots := by
  rw [loadFrom_of_view h, ofText, StoreText.decode?_encode hschedules hinstants]

/-! ### Saving where there is room -/

/-- There is room for a store at a path: its directory can be made, and then no directory has the
name of the store or of the second file. -/
def HasRoom (t : FileTree) (path : Path) : Prop :=
  ∃ made : FileTree,
    (match directory? path with
      | none => made = t
      | some directory => t.apply (.createDirectories directory) = (made, .ok ())) ∧
    made.TakesFile path ∧ made.TakesFile (temporaryPath path)

/-- A path and that of its second file lead to two names in one directory that files can have. -/
structure TakesPair (t : FileTree) (path : Path) (directory : Place) (last name : Text) : Prop where
  /-- The names are different. -/
  ne : last ≠ name
  /-- The path leads to the one. -/
  aim_path : t.aim path = .ok (.name directory last false)
  /-- The path of the second file leads to the other. -/
  aim_temporary : t.aim (temporaryPath path) = .ok (.name directory name false)
  /-- Neither is too long. -/
  size_le : last.str.utf8ByteSize ≤ 255 ∧ name.str.utf8ByteSize ≤ 255
  /-- No directory has the one. -/
  node_path : t.node? (directory ++ [last]) ≠ some .directory
  /-- No directory has the other. -/
  node_temporary : t.node? (directory ++ [name]) ≠ some .directory

theorem exists_takesPair (hstore : t.TakesFile path)
    (htemporary : t.TakesFile (temporaryPath path)) :
    ∃ directory last name, TakesPair t path directory last name := by
  obtain ⟨place, last, haim, hsize, hnode⟩ := hstore
  obtain ⟨place', name, haim', hsize', hnode'⟩ := htemporary
  obtain ⟨hlast, hdot, hup, -⟩ := aim_eq_name haim
  obtain ⟨name', hbeside⟩ := exists_beside_temporaryPath hlast hdot hup
  obtain ⟨rfl, ⟨e, he⟩ | hpath⟩ := aim_of_beside hbeside haim'
  · rw [he] at haim
    cases haim
  · obtain ⟨rfl, -, -⟩ := PathEnd.name.inj (Except.ok.inj (hpath.symm.trans haim))
    exact ⟨place', last, name, hbeside.ne.symm, haim, haim', ⟨hsize, hsize'⟩, hnode, hnode'⟩

namespace TakesPair

variable {directory : Place} {last name : Text}

/-- A second file that is put there is there. -/
theorem hasFile_put (h : TakesPair t path directory last name) (content : Bytes) (mode : Nat) :
    (t.put (directory ++ [name]) (.file content mode)).HasFile (temporaryPath path) directory name
      content mode :=
  FileTree.hasFile_put h.aim_temporary h.size_le.2 h.node_temporary content mode

/-- A second file that is put there changes nothing about the names. -/
theorem put (h : TakesPair t path directory last name) (content : Bytes) (mode : Nat) :
    TakesPair (t.put (directory ++ [name]) (.file content mode)) path directory last name := by
  have hne : directory ++ [last] ≠ directory ++ [name] := fun heq =>
    h.ne (List.cons.inj (List.append_cancel_left heq)).1
  have htop : ¬ FileTree.IsTop (directory ++ [last]) := not_isTop_append (notMem_of_aim h.aim_path)
  refine ⟨h.ne, (keepsDirectories_put (Or.inl h.node_temporary)).aim h.aim_path,
    (h.hasFile_put content mode).aim_eq, h.size_le, ?_, ?_⟩
  · rw [node?_put t _ _ htop, if_neg hne]
    exact h.node_path
  · rw [(h.hasFile_put content mode).node?_eq]
    nofun

end TakesPair

/-- A second file can be written and moved over a file. -/
theorem exists_runs_replacement (hstore : t.TakesFile path)
    (htemporary : t.TakesFile (temporaryPath path)) (text : String) (mode : Nat)
    (writing reading setting moving : String) :
    ∃ t', t.Runs [(.write (temporaryPath path) text, writing),
      (.readMode (temporaryPath path), reading), (.setMode (temporaryPath path) mode, setting),
      (.rename (temporaryPath path) path, moving)] t' := by
  obtain ⟨directory, last, name, hpair⟩ := exists_takesPair hstore htemporary
  obtain ⟨old, hwrite⟩ := write_of_aim hpair.aim_temporary hpair.size_le.2 hpair.node_temporary
    (Utf8.encode text)
  have hwritten := hpair.hasFile_put (Utf8.encode text) old
  have hnamed := (hpair.put (Utf8.encode text) old).put (Utf8.encode text) mode
  have hset := (hpair.put (Utf8.encode text) old).hasFile_put (Utf8.encode text) mode
  have hmove := rename_of_hasFile hset hnamed.aim_path hnamed.size_le.1 hnamed.node_path
  refine ⟨_, _, settle_of_eq_ok hwrite, _, ?_, _,
    settle_of_eq_ok (setMode_of_hasFile hwritten mode), _, settle_of_eq_ok hmove, rfl⟩
  rw [apply, mode_of_hasFile hwritten]
  rfl

/-- **Where there is room**, all steps of saving can be done. -/
theorem exists_runs_saveScript (h : HasRoom t path) (bots : List BotRecord) :
    ∃ t', t.Runs (saveScript path bots) t' := by
  obtain ⟨made, hmade, hstore, htemporary⟩ := h
  obtain ⟨t', hruns⟩ := exists_runs_replacement hstore htemporary
    (StoreText.encode bots) 0o600 ("Failed to write temp file: " ++ temporaryPath path)
    ("Failed to read permissions for " ++ temporaryPath path)
    ("Failed to set secure permissions on " ++ temporaryPath path)
    ("Failed to replace bot store " ++ path)
  refine ⟨t', ?_⟩
  rw [saveScript]
  cases hdirectory : directory? path with
  | none =>
    rw [hdirectory] at hmade
    exact hmade ▸ hruns
  | some directory =>
    rw [hdirectory] at hmade
    exact ⟨made, hmade, hruns⟩

/-! ### Loading what was saved -/

variable {σ : Type} {files : FileAccess (OptionT (StateM σ))} {tree : σ → FileTree}

/-- A load returns what the tree shows. -/
theorem attempt_load (hshows : files.Shows tree) (path : Path) (s : σ) :
    attempt (ofFile files path).load s = (some (loadFrom (tree s) path), s) := by
  rw [loadFrom_eq_text, ofFile, attempt_bind, hshows.contains]
  dsimp only
  cases (tree s).contains path with
  | false => rfl
  | true =>
    rw [if_pos rfl, if_pos rfl, attempt_bind, hshows.read]
    dsimp only
    cases (tree s).text path <;> rfl

/-- **A store is loaded as it was saved.**  Once the bots are saved, loading gives the same bots in
the same order.  If saving fails, it is because a step on the files failed; and it is carried out by
an access that does what can be done, wherever there is room for the store. -/
theorem load_of_save (hacts : files.ActsOn tree) (hshows : files.Shows tree)
    (hschedules : ∀ bot ∈ bots, bot.schedule < UInt64.size)
    (hinstants : ∀ bot ∈ bots, StoreText.HasReadableInstants bot) :
    (∀ s s', attempt ((ofFile files path).save bots) s = (some (.ok ()), s') →
        attempt (ofFile files path).load s' = (some (.ok bots), s')) ∧
      (∀ s e s', attempt ((ofFile files path).save bots) s = (some (.error e), s') →
        ∃ step context cause, (step, context) ∈ saveScript path bots ∧
          e = (Failure.ofCause (.file cause)).within context) ∧
      (files.Completes tree → ∀ s, HasRoom (tree s) path →
        ∃ s', attempt ((ofFile files path).save bots) s = (some (.ok ()), s') ∧
          attempt (ofFile files path).load s' = (some (.ok bots), s')) := by
  have hload (s s' : σ) (hsave : attempt ((ofFile files path).save bots) s = (some (.ok ()), s')) :
      attempt (ofFile files path).load s' = (some (.ok bots), s') := by
    have hrun : attempt (files.runScript (saveScript path bots)) s = (some (.ok ()), s') := hsave
    have hleads := FileAccess.leads_runScript hacts (saveScript path bots) s
    rw [hrun] at hleads
    rw [attempt_load hshows, loadFrom_of_view_fileOf hschedules hinstants
      (view_of_leads_saveScript hleads)]
  refine ⟨hload, fun s e s' hsave => FileAccess.exists_of_runScript_eq_error hsave,
    fun hcompletes s hroom => ?_⟩
  obtain ⟨t', hruns⟩ := exists_runs_saveScript hroom bots
  obtain ⟨s', hsave, -⟩ := FileAccess.attempt_runScript_of_runs hcompletes hruns
  exact ⟨s', hsave, hload s s' hsave⟩

/-- A bot with all of its fields set, to texts that are written in all ways, whose next run is as
late as a run can be. -/
def owl : BotRecord where
  id := "owl"
  name := "The \"Night\" Owl's\tname \\ \r\x07"
  disabled := true
  schedule := 18446744073709551615
  nextRun := some Instant.last
  lastRun := some ⟨-1, 5, by decide, by decide, by decide⟩
  lastError := some "'''\nline \"\"\" two\\"
  script := "\x7b\"origin\": [\"hoo #n#\"],\n \"n\": [\"\u00e9\"]\x7d"
  credentials := { accessToken := "", apiBase := some "https://owl.test/v2" }

/-- A bot with no optional field set. -/
def wren : BotRecord where
  id := "wren"
  name := ""
  schedule := 0
  script := "\n"

/-- The tree in which the store of both was saved. -/
def savedTree : FileTree :=
  ⟨[(["nested".toList], .directory),
    (["nested".toList, "bots.toml".toList], fileOf [owl, wren])]⟩

theorem load_of_save_nested :
    FileAccess.whole.ActsOn id ∧ FileAccess.whole.Shows id ∧ FileAccess.whole.Completes id ∧
      (∀ bot ∈ [owl, wren], bot.schedule < UInt64.size) ∧
      (∀ bot ∈ [owl, wren], StoreText.HasReadableInstants bot) ∧
      attempt ((ofFile FileAccess.whole "nested/bots.toml").save [owl, wren]) (⟨[]⟩ : FileTree)
        = (some (.ok ()), savedTree) ∧
      attempt (ofFile FileAccess.whole "nested/bots.toml").load savedTree
        = (some (.ok [owl, wren]), savedTree) ∧
      HasRoom savedTree "nested/bots.toml" ∧
      ∃ t, attempt ((ofFile FileAccess.whole "nested/bots.toml").save [owl, wren]) savedTree
          = (some (.ok ()), t) ∧
        attempt (ofFile FileAccess.whole "nested/bots.toml").load t
          = (some (.ok [owl, wren]), t) := by
  have hschedules : ∀ bot ∈ [owl, wren], bot.schedule < UInt64.size := by decide
  have hinstants : ∀ bot ∈ [owl, wren], StoreText.HasReadableInstants bot := by
    simp only [StoreText.HasReadableInstants, owl, wren, Instant.read?_text_eq_some_iff,
      List.forall_mem_cons, List.not_mem_nil, Option.some.injEq]
    refine ⟨?_, ?_, fun _ h => h.elim⟩
    · rintro t (rfl | rfl) <;> exact Or.inl (by decide)
    · rintro t (h | h) <;> cases h
  have hsave : attempt ((ofFile FileAccess.whole "nested/bots.toml").save [owl, wren])
      (⟨[]⟩ : FileTree) = (some (.ok ()), savedTree) := rfl
  have hroom : HasRoom savedTree "nested/bots.toml" := by
    refine ⟨savedTree, rfl, ⟨_, _, rfl, by decide, ?_⟩, ⟨_, _, rfl, by decide, ?_⟩⟩
    · intro h
      cases h
    · intro h
      cases h
  refine ⟨FileAccess.actsOn_whole, FileAccess.shows_whole, FileAccess.completes_whole, hschedules,
    hinstants, hsave, ?_, hroom, ?_⟩
  · obtain ⟨hload, -⟩ :=
      load_of_save FileAccess.actsOn_whole FileAccess.shows_whole hschedules hinstants
    exact hload _ _ hsave
  · obtain ⟨-, -, hload⟩ :=
      load_of_save FileAccess.actsOn_whole FileAccess.shows_whole hschedules hinstants
    exact hload FileAccess.completes_whole savedTree hroom

end GrammarBots.BotStore
