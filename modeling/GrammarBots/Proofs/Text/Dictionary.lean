import GrammarBots.Text.Dictionary
import Mathlib.Data.List.Induction

/-!
# What a dictionary holds

A dictionary holds a value for a key exactly if it lists the entry (`Dictionary.get?_eq_some_iff`),
and its keys are listed in strictly ascending order (`Dictionary.pairwise_keys`).  In the dictionary
of several entries, the last entry of a key counts (`Dictionary.get?_ofList`), which `Counts` says
of the list of entries alone.
-/

namespace GrammarBots.Dictionary

variable {α β : Type} {d : Dictionary α} {entries : List (Text × α)} {key k : Text} {value v : α}

/-! ### Keys -/

theorem mem_keys_insertEntry :
    k ∈ (insertEntry key value entries).map Prod.fst ↔ k = key ∨ k ∈ entries.map Prod.fst := by
  fun_induction insertEntry key value entries <;> grind

theorem mem_keys_ofList : k ∈ (ofList entries).keys ↔ k ∈ entries.map Prod.fst := by
  have hfold : ∀ (d : Dictionary α), k ∈ (entries.foldl (fun d e => d.insert e.1 e.2) d).keys ↔
      k ∈ d.keys ∨ k ∈ entries.map Prod.fst := by
    induction entries with
    | nil => intro d; simp
    | cons e entries ih =>
      intro d
      rw [List.foldl_cons, ih, List.map_cons, List.mem_cons, ← or_assoc]
      refine or_congr_left ?_
      rw [or_comm]
      exact mem_keys_insertEntry
  rw [ofList, hfold]
  simp [empty, keys]

theorem mem_distinct {texts : List Text} {t : Text} : t ∈ distinct texts ↔ t ∈ texts := by
  rw [distinct, mem_keys_ofList, List.map_map]
  simp

/-- The keys are listed in ascending order, and none of them twice. -/
theorem pairwise_keys (d : Dictionary α) : d.keys.Pairwise (· < ·) :=
  List.pairwise_map.mpr d.ascending

/-! ### Values -/

theorem mem_entries_of_get? (h : d.get? key = some value) : (key, value) ∈ d.entries := by
  obtain ⟨before, after, hentries, _⟩ := List.lookup_eq_some_iff.mp h
  rw [hentries]
  exact List.mem_append_right _ List.mem_cons_self

theorem get?_eq_some_iff : d.get? key = some value ↔ (key, value) ∈ d.entries := by
  constructor
  · exact mem_entries_of_get?
  · intro h
    obtain ⟨before, after, hentries⟩ := List.append_of_mem h
    refine List.lookup_eq_some_iff.mpr ⟨before, after, hentries, ?_⟩
    -- What stands before the entry has a lesser key, so another one.
    have hascending := d.ascending
    rw [hentries, List.pairwise_append] at hascending
    intro e he
    have hlt : e.1 < key := hascending.2.2 e he _ List.mem_cons_self
    rw [bne_iff_ne]
    rintro rfl
    exact List.lt_irrefl _ hlt

theorem mem_keys_iff : key ∈ d.keys ↔ ∃ value, d.get? key = some value := by
  simp only [keys, List.mem_map, Prod.exists, exists_and_right, exists_eq_right,
    get?_eq_some_iff]

theorem contains_iff : d.contains key = true ↔ ∃ value, d.get? key = some value :=
  Option.isSome_iff_exists

theorem get?_mapValues (f : α → β) : (d.mapValues f).get? key = (d.get? key).map f := by
  cases h : d.get? key with
  | none =>
    rw [Option.map_none]
    refine List.lookup_eq_none_iff.mpr ?_
    intro e he
    obtain ⟨e', he', rfl⟩ := List.mem_map.mp he
    exact List.lookup_eq_none_iff.mp h e' he'
  | some value =>
    rw [Option.map_some, get?_eq_some_iff]
    exact List.mem_map.mpr ⟨(key, value), mem_entries_of_get? h, rfl⟩

/-! ### Dictionaries of entries -/

/-- Of the entries with the key, the last one has the value. -/
def Counts (entries : List (Text × α)) (key : Text) (value : α) : Prop :=
  ∃ before after, entries = before ++ (key, value) :: after ∧ key ∉ after.map Prod.fst

theorem counts_snoc :
    Counts (entries ++ [(k, v)]) key value ↔
      (key = k ∧ value = v) ∨ (key ≠ k ∧ Counts entries key value) := by
  constructor
  · rintro ⟨before, after, hentries, hlast⟩
    rcases List.eq_nil_or_concat after with rfl | ⟨others, e, rfl⟩
    · obtain ⟨-, he⟩ := List.append_inj' hentries rfl
      cases he
      exact Or.inl ⟨rfl, rfl⟩
    · rw [List.concat_eq_append, ← List.cons_append, ← List.append_assoc] at hentries
      obtain ⟨rfl, he⟩ := List.append_inj' hentries rfl
      cases he
      rw [List.concat_eq_append, List.map_append, List.mem_append, not_or] at hlast
      exact Or.inr ⟨by simpa using hlast.2, before, others, rfl, hlast.1⟩
  · rintro (⟨rfl, rfl⟩ | ⟨hne, before, after, rfl, hlast⟩)
    · exact ⟨entries, [], rfl, by simp⟩
    · refine ⟨before, after ++ [(k, v)], by simp, ?_⟩
      simpa [hne] using hlast

theorem get?_insert : (d.insert key value).get? k = if k = key then some value else d.get? k := by
  have hlookup (entries : List (Text × α)) : (insertEntry key value entries).lookup k
      = if k = key then some value else entries.lookup k := by
    fun_induction insertEntry key value entries <;> grind
  exact hlookup d.entries

/-- **The last entry of a key counts.** -/
theorem get?_ofList : (ofList entries).get? key = some value ↔ Counts entries key value := by
  induction entries using List.reverseRecOn with
  | nil =>
    constructor
    · intro h
      cases h
    · rintro ⟨before, after, h, -⟩
      simp at h
  | append_singleton entries e ih =>
    obtain ⟨k, v⟩ := e
    have hsnoc : ofList (entries ++ [(k, v)]) = (ofList entries).insert k v := by
      rw [ofList, List.foldl_append]
      rfl
    rw [hsnoc, get?_insert, counts_snoc, ← ih]
    by_cases h : key = k
    · simp [h, eq_comm]
    · simp [h]

theorem mem_entries_ofList : (key, value) ∈ (ofList entries).entries ↔ Counts entries key value :=
  get?_eq_some_iff.symm.trans get?_ofList

/-! ### Search -/

/-- A search through the entries finds, of the values with the property, that of the least key. -/
theorem find?_entries_eq_some_iff {p : α → Bool} :
    d.entries.find? (fun e => p e.2) = some (key, value) ↔
      d.get? key = some value ∧ p value = true ∧
        ∀ k v, d.get? k = some v → p v = true → ¬ k < key := by
  have hascending := d.ascending
  simp only [List.find?_eq_some_iff_append, get?_eq_some_iff]
  constructor
  · rintro ⟨hp, before, after, hentries, hbefore⟩
    rw [hentries, List.pairwise_append, List.pairwise_cons] at hascending
    obtain ⟨-, ⟨hafter, -⟩, -⟩ := hascending
    rw [hentries]
    refine ⟨List.mem_append_right _ List.mem_cons_self, hp, ?_⟩
    intro k v hk hv
    rcases List.mem_append.mp hk with hk | hk
    · have hfalse := hbefore _ hk
      simp [hv] at hfalse
    · rcases List.mem_cons.mp hk with hk | hk
      · cases hk
        exact List.lt_irrefl key
      · exact List.lt_asymm (hafter _ hk)
  · rintro ⟨hmem, hp, hleast⟩
    obtain ⟨before, after, hentries⟩ := List.append_of_mem hmem
    refine ⟨hp, before, after, hentries, ?_⟩
    intro e he
    rw [hentries, List.pairwise_append] at hascending
    have hlt : e.1 < key := hascending.2.2 e he _ List.mem_cons_self
    rw [Bool.not_eq_true']
    by_contra hpe
    have hmem' : (e.1, e.2) ∈ d.entries := by
      rw [hentries]
      exact List.mem_append_left _ he
    exact hleast e.1 e.2 hmem' (by simpa using hpe) hlt

end GrammarBots.Dictionary
