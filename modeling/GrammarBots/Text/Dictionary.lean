import GrammarBots.Text.Basic

/-!
# Dictionaries in code point order

A dictionary from texts to values, as the list of its entries in strictly ascending order of keys.
Code point order is also the order of the UTF-8 octets.  The order is part of the type, so two
dictionaries with the same entries are equal and what is listed from one comes out sorted.
-/

namespace GrammarBots

/-- Entries in strictly ascending order of keys. -/
structure Dictionary (α : Type) where
  /-- The entries, least key first. -/
  entries : List (Text × α)
  /-- The keys ascend. -/
  ascending : entries.Pairwise fun a b => a.1 < b.1

namespace Dictionary

variable {α β : Type}

/-- The dictionary without entries. -/
def empty : Dictionary α := ⟨[], List.Pairwise.nil⟩

/-- Entries with one more, which replaces the one of the same key. -/
def insertEntry (key : Text) (value : α) : List (Text × α) → List (Text × α)
  | [] => [(key, value)]
  | (k, v) :: rest =>
    if key < k then (key, value) :: (k, v) :: rest
    else if key = k then (key, value) :: rest
    else (k, v) :: insertEntry key value rest

theorem mem_insertEntry {key : Text} {value : α} {entries : List (Text × α)} {e : Text × α}
    (h : e ∈ insertEntry key value entries) : e = (key, value) ∨ e ∈ entries := by
  fun_induction insertEntry key value entries <;> grind

theorem ascending_insertEntry (key : Text) (value : α) {entries : List (Text × α)}
    (h : entries.Pairwise fun a b => a.1 < b.1) :
    (insertEntry key value entries).Pairwise fun a b => a.1 < b.1 := by
  induction entries with
  | nil => simp [insertEntry]
  | cons e rest ih =>
    obtain ⟨k, v⟩ := e
    obtain ⟨hk, hrest⟩ := List.pairwise_cons.1 h
    unfold insertEntry
    split
    next hlt =>
      refine List.pairwise_cons.2 ⟨fun b hb => ?_, h⟩
      rcases List.mem_cons.1 hb with rfl | hb
      · exact hlt
      · exact List.lt_trans hlt (hk b hb)
    next hnlt =>
      split
      next heq => subst heq; exact List.pairwise_cons.2 ⟨hk, hrest⟩
      next hne =>
        refine List.pairwise_cons.2 ⟨fun b hb => ?_, ih hrest⟩
        rcases mem_insertEntry hb with rfl | hb
        · exact (List.le_iff_lt_or_eq.1 (List.not_lt.1 hnlt)).resolve_right (Ne.symm hne)
        · exact hk b hb

/-- The dictionary with one more entry, which replaces the one of the same key. -/
def insert (d : Dictionary α) (key : Text) (value : α) : Dictionary α :=
  ⟨insertEntry key value d.entries, ascending_insertEntry key value d.ascending⟩

/-- The dictionary of the entries listed; of two with one key, the later one stays. -/
def ofList (entries : List (Text × α)) : Dictionary α :=
  entries.foldl (fun d e => d.insert e.1 e.2) empty

/-- The value of a key. -/
def get? (d : Dictionary α) (key : Text) : Option α := d.entries.lookup key

/-- Whether a key has a value. -/
def contains (d : Dictionary α) (key : Text) : Bool := (d.get? key).isSome

/-- The keys, least first. -/
def keys (d : Dictionary α) : List Text := d.entries.map (·.1)

/-- The dictionary with every value replaced by a function of it. -/
def mapValues (f : α → β) (d : Dictionary α) : Dictionary β :=
  ⟨d.entries.map fun e => (e.1, f e.2), List.pairwise_map.2 d.ascending⟩

/-- The distinct texts of a list, least first. -/
def distinct (texts : List Text) : List Text := (ofList (texts.map fun t => (t, ()))).keys

end Dictionary

end GrammarBots
