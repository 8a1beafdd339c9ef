import GrammarBots.Proofs.Grammar.CheckedExpansion
import GrammarBots.Proofs.Grammar.Faults
import GrammarBots.Proofs.Grammar.Lint
import GrammarBots.Proofs.Text.Shortlist
import Mathlib.Data.List.Lex

/-!
# What is suggested instead of a symbol

The symbols suggested instead of another are the shortlist of the defined symbols within reach, by
their distances from it (`Grammar.isShortlist_similarSymbols`).  The symbols are sorted before those
out of reach are dropped, but sorting and dropping can change places.

An expansion suggests something only for a symbol that is not defined, if every defined symbol has
rules (`Grammar.eq_similarSymbols_of_expand`).  The error is raised by some call that the expansion
leads to, and what is pushed when the call is made is no empty list; so nothing was pushed on the
symbol, and the grammar has no rules for it either.
-/

namespace GrammarBots.Grammar

variable {g : Grammar} {symbol target : Text} {suggestions : List Text}

/-- The symbols are ranked first; those out of reach are dropped afterwards. -/
theorem similarSymbols_eq (g : Grammar) (target : Text) :
    g.similarSymbols target
      = ((g.symbols.mergeSort fun a b =>
            Text.editDistance target a ≤ Text.editDistance target b).filter fun name =>
          Text.editDistance target name ≤ suggestionReach target).take 3 := by
  have hsort : (g.symbols.map fun name => (name, Text.editDistance target name)).mergeSort
        (fun a b => a.2 ≤ b.2)
      = (g.symbols.mergeSort fun a b => Text.editDistance target a ≤ Text.editDistance target b).map
        fun name => (name, Text.editDistance target name) := by
    rw [List.map_mergeSort]
    intro a _ b _
    rfl
  unfold similarSymbols
  simp only [hsort, List.filter_map, ← List.map_take, List.map_map]
  exact List.map_id _

/-- **The suggestions are the closest symbols within reach.** -/
theorem isShortlist_similarSymbols (g : Grammar) (target : Text) :
    IsShortlist 3
      (fun name => g.defines name = true ∧
        Text.editDistance target name ≤ Text.utf8Size target / 2)
      (Text.editDistance target) (g.similarSymbols target) := by
  have hreach : suggestionReach target = Text.utf8Size target / 2 := by
    unfold suggestionReach
    omega
  have hascending : g.symbols.Pairwise (· < ·) := g.dictionary.pairwise_keys
  have hranked := pairwise_mergeSort_of_ascending (Text.editDistance target) hascending
  rw [similarSymbols_eq]
  refine isShortlist_take (hranked.sublist List.filter_sublist) ?_ 3
  intro name
  have hdefines : g.defines name = true ↔ name ∈ g.symbols :=
    Dictionary.contains_iff.trans Dictionary.mem_keys_iff.symm
  simp only [List.mem_filter, List.mem_mergeSort, decide_eq_true_eq, hreach, hdefines]

/-- What is suggested is defined, and nothing is suggested twice. -/
theorem nodup_similarSymbols (g : Grammar) (target : Text) :
    (g.similarSymbols target).Nodup ∧ ∀ name ∈ g.similarSymbols target, g.defines name = true := by
  have hlist := g.isShortlist_similarSymbols target
  exact ⟨nodup_of_ranksBefore hlist.ascending, fun name hname => (hlist.candidates name hname).1⟩

open Expansion in
/-- **An expansion misses only symbols that are not defined**, and suggests the closest instead. -/
theorem eq_similarSymbols_of_expand (hrules : ∀ name, g.rules? name ≠ some []) {start : Text}
    {γ : Type} [Chooser γ] {chance : γ}
    (h : (g.expand start chance).1 = .error (.unknownSymbol symbol suggestions)) :
    g.defines symbol = false ∧ suggestions = g.similarSymbols symbol := by
  have hfail : (Frame.start start chance).outcome g
      = (.error (.unknownSymbol symbol suggestions),
        ((Frame.start start chance).outcome g).2) := Prod.ext h rfl
  obtain ⟨F, hreaches, hraises, -⟩ := Frame.outcome_error_iff.mp hfail
  have hstocked := hreaches.stocked (stocked_nil chance)
  generalize herror : GrammarError.unknownSymbol symbol suggestions = e at hraises
  cases hraises with
  | limit | rule | tag | action => cases herror
  | @unknown depth name s hdepth hempty =>
    obtain ⟨rfl, rfl⟩ := GrammarError.unknownSymbol.inj herror
    refine ⟨?_, rfl⟩
    unfold rulesFor at hempty
    cases hlookup : s.pushed.lookup symbol with
    | some rules =>
      rw [hlookup] at hempty
      obtain ⟨before, after, hpushed, -⟩ := List.lookup_eq_some_iff.mp hlookup
      have hentry : (symbol, rules) ∈ s.pushed := by
        rw [hpushed]
        exact List.mem_append_right _ List.mem_cons_self
      exact absurd hempty (stocked_iff.mp hstocked _ hentry)
    | none =>
      rw [hlookup] at hempty
      cases hown : g.rules? symbol with
      | none =>
        show (g.rules? symbol).isSome = false
        rw [hown]
        rfl
      | some rules =>
        rw [hown] at hempty
        obtain rfl : rules = [] := hempty
        exact absurd hown (hrules symbol)

end GrammarBots.Grammar
