import GrammarBots.Proofs.Bot.Lookup
import GrammarBots.Proofs.Grammar.Suggestions
import GrammarBots.Proofs.Text.EditDistance
import Mathlib.Data.String.Basic

/-!
# What is suggested instead of a bot

The ids and names suggested for a bot that is not found are a shortlist as well
(`BotRecord.isShortlist_similarNames`), but it is made in another order than that of a symbol: what
is out of reach is dropped first, then the rest is sorted by distance and name, and repetitions are
dropped last.  Repetitions stand side by side by then, so that the first occurrences are in strictly
ascending order (`BotRecord.pairwise_firstOccurrences`).

`suggestions_exact` puts the suggestions for bots and for symbols together.
-/

namespace GrammarBots

namespace BotRecord

variable {bots : List BotRecord} {query : String}

/-! ### First occurrences -/

theorem mem_firstOccurrences {l : List String} {s : String} : s ∈ firstOccurrences l ↔ s ∈ l := by
  induction l with
  | nil => simp [firstOccurrences]
  | cons first l ih =>
    simp only [firstOccurrences, List.mem_cons, List.mem_filter, bne_iff_ne, ih]
    by_cases h : s = first
    · simp [h]
    · simp [h]

theorem firstOccurrences_sublist (l : List String) : (firstOccurrences l).Sublist l := by
  induction l with
  | nil => exact List.Sublist.refl []
  | cons first l ih => exact (List.filter_sublist.trans ih).cons_cons first

/-- Where what comes later is equal or comes after in the order, the first occurrences are in
order. -/
theorem pairwise_firstOccurrences {rank : String → Nat} {l : List String}
    (h : l.Pairwise fun a b => a = b ∨ RanksBefore rank a b) :
    (firstOccurrences l).Pairwise (RanksBefore rank) := by
  induction l with
  | nil => exact List.Pairwise.nil
  | cons first l ih =>
    obtain ⟨hfirst, hl⟩ := List.pairwise_cons.mp h
    rw [firstOccurrences, List.pairwise_cons]
    refine ⟨?_, (ih hl).sublist List.filter_sublist⟩
    intro s hs
    simp only [List.mem_filter, bne_iff_ne] at hs
    exact (hfirst s ((firstOccurrences_sublist l).subset hs.1)).resolve_left hs.2.symm

/-! ### The order of scored names -/

/-- Scored names stand in the order of ranks and values, but equal ones may stand in either. -/
theorem comesBefore_iff {rank : String → Nat} {a b : String} :
    comesBefore (rank a, a) (rank b, b) = true ↔ a = b ∨ RanksBefore rank a b := by
  have hscores : comesBefore (rank a, a) (rank b, b) = true ↔
      rank a < rank b ∨ rank a = rank b ∧ a ≤ b := by
    simp [comesBefore]
  rw [hscores, le_iff_lt_or_eq]
  constructor
  · rintro (h | ⟨h, h' | h'⟩)
    · exact Or.inr (Or.inl h)
    · exact Or.inr (Or.inr ⟨h, h'⟩)
    · exact Or.inl h'
  · rintro (rfl | h | ⟨h, h'⟩)
    · exact Or.inr ⟨rfl, Or.inr rfl⟩
    · exact Or.inl h
    · exact Or.inr ⟨h, Or.inl h'⟩

theorem comesBefore_trans (rank : String → Nat) (a b c : String)
    (hab : comesBefore (rank a, a) (rank b, b) = true)
    (hbc : comesBefore (rank b, b) (rank c, c) = true) :
    comesBefore (rank a, a) (rank c, c) = true := by
  rw [comesBefore_iff] at *
  rcases hab with rfl | hab
  · exact hbc
  · rcases hbc with rfl | hbc
    · exact Or.inr hab
    · exact Or.inr (hab.trans hbc)

theorem comesBefore_total (rank : String → Nat) (a b : String) :
    (comesBefore (rank a, a) (rank b, b) || comesBefore (rank b, b) (rank a, a)) = true := by
  rw [Bool.or_eq_true, comesBefore_iff, comesBefore_iff]
  rcases ranksBefore_trichotomy rank a b with h | h | h
  · exact Or.inl (Or.inr h)
  · exact Or.inl (Or.inl h)
  · exact Or.inr (Or.inr h)

/-! ### The suggestions -/

/-- The string is the id or the name of some bot. -/
def IsNamed (bots : List BotRecord) (s : String) : Prop := ∃ bot ∈ bots, s = bot.id ∨ s = bot.name

/-- The names out of reach are dropped first; the rest is ranked, and repetitions are dropped
last. -/
theorem similarNames_eq (bots : List BotRecord) (query : String) :
    similarNames bots query
      = (firstOccurrences
          (((bots.flatMap fun bot => [bot.id, bot.name]).filter fun name =>
            nameDistance query name ≤ suggestionReach query).mergeSort fun a b =>
              comesBefore (nameDistance query a, a) (nameDistance query b, b))).take 3 := by
  have hsort (l : List String) :
      ((l.map fun name => (nameDistance query name, name)).mergeSort comesBefore).map (·.2)
        = l.mergeSort fun a b =>
          comesBefore (nameDistance query a, a) (nameDistance query b, b) := by
    rw [← List.map_mergeSort (f := fun name => (nameDistance query name, name))
      (fun a _ b _ => rfl), List.map_map]
    exact List.map_id _
  unfold similarNames
  simp only [List.filter_map, hsort]
  rfl

/-- **The suggestions are the closest ids and names within reach**, when case does not count. -/
theorem isShortlist_similarNames (bots : List BotRecord) (query : String) :
    IsShortlist 3
      (fun name => IsNamed bots name ∧ nameDistance query name ≤ max query.utf8ByteSize 2 / 2)
      (nameDistance query) (similarNames bots query) := by
  rw [similarNames_eq]
  refine isShortlist_take (pairwise_firstOccurrences ?_) ?_ 3
  · have hsorted := List.pairwise_mergeSort (comesBefore_trans (nameDistance query))
      (comesBefore_total (nameDistance query))
      ((bots.flatMap fun bot => [bot.id, bot.name]).filter fun name =>
        nameDistance query name ≤ suggestionReach query)
    exact hsorted.imp comesBefore_iff.mp
  · intro name
    simp only [mem_firstOccurrences, List.mem_mergeSort, List.mem_filter, List.mem_flatMap,
      List.mem_pair]
    exact and_congr Iff.rfl decide_eq_true_iff

end BotRecord

/-! ### Suggestions -/

/-- **Suggestions are the best matches, and nothing else.**  Matches are compared by the fewest
edits that lead from what was asked for to them, and equal ones by code points.  For a symbol they
are the closest three of the defined symbols within half of its octets; an expansion in the grammar
of a script suggests them only for a symbol that is not defined, so never that symbol.  For a bot
that is not found they are the closest three of all ids and names, compared in lower case, within
half of the octets of what was asked for, or within one. -/
theorem suggestions_exact :
    (∀ s t : Text, IsLeast {n | Text.Edits n s t} (Text.editDistance s t)) ∧
    (∀ (g : Grammar) (target : Text) (best : List Text), best = g.similarSymbols target ↔
      IsShortlist 3
        (fun name => g.defines name = true ∧
          Text.editDistance target name ≤ Text.utf8Size target / 2)
        (Text.editDistance target) best) ∧
    (∀ (script : String) (g : Grammar), Grammar.ofScript script = .ok g →
      ∀ (start : Text) (γ : Type) [Chooser γ] (chance : γ) (symbol : Text)
        (suggestions : List Text),
        (g.expand start chance).1 = .error (.unknownSymbol symbol suggestions) →
          suggestions = g.similarSymbols symbol ∧ suggestions.Nodup ∧
            ∀ name ∈ suggestions, g.defines name = true ∧ name ≠ symbol) ∧
    ∀ (bots : List BotRecord) (query : String) (e : AppError),
      BotRecord.findIndex bots query = .error e → ∀ best : List String,
        e = .botNotFound query best ↔
          IsShortlist 3
            (fun name => BotRecord.IsNamed bots name ∧
              Text.editDistance (Text.lower query.toList) (Text.lower name.toList)
                ≤ max query.utf8ByteSize 2 / 2)
            (fun name => Text.editDistance (Text.lower query.toList) (Text.lower name.toList))
            best := by
  refine ⟨Text.isLeast_editDistance, ?_, ?_, ?_⟩
  · intro g target best
    have hlist := g.isShortlist_similarSymbols target
    constructor
    · rintro rfl
      exact hlist
    · intro hbest
      exact hbest.unique hlist
  · intro script g hg start γ _ chance symbol suggestions hfail
    have hrules : ∀ name, g.rules? name ≠ some [] :=
      fun name hnil => Grammar.ne_nil_of_ofScript hg hnil rfl
    obtain ⟨hundefined, rfl⟩ := Grammar.eq_similarSymbols_of_expand hrules hfail
    obtain ⟨hnodup, hdefined⟩ := g.nodup_similarSymbols symbol
    refine ⟨rfl, hnodup, ?_⟩
    intro name hname
    refine ⟨hdefined name hname, ?_⟩
    rintro rfl
    rw [hdefined name hname] at hundefined
    cases hundefined
  · intro bots query e hfail best
    obtain ⟨-, rfl⟩ := BotRecord.findIndex_eq_error_iff.mp hfail
    have hlist := BotRecord.isShortlist_similarNames bots query
    rw [AppError.botNotFound.injEq]
    constructor
    · rintro ⟨-, rfl⟩
      exact hlist
    · intro hbest
      exact ⟨rfl, hlist.unique hbest⟩

/-- A bot whose script defines a symbol, but misspells the one that an expansion starts from. -/
def misspeller : BotRecord where
  id := "owl-facts"
  name := "Owl Facts"
  schedule := 60
  script := "\x7b\"orign\": \"x\"\x7d"

/-- The grammar of the script. -/
def misspelled : Grammar := Grammar.ofRules [("orign".toList, ["x".toList])]

/-- The expansion of the misspelled script suggests the symbol that is defined; asked for by a
misspelled name, the bot is suggested by its name and by its id, in this order. -/
theorem suggestions_misspelled :
    (∀ seed, (misspelled.expand startSymbol (Generator.ofSeed seed)).1
        = .error (.unknownSymbol startSymbol ["orign".toList])) ∧
      ["orign".toList].Nodup ∧ "orign".toList ≠ startSymbol ∧
      BotRecord.findIndex [misspeller] "owl facs"
        = .error (.botNotFound "owl facs" ["Owl Facts", "owl-facts"]) ∧
      IsShortlist 3
        (fun name => BotRecord.IsNamed [misspeller] name ∧
          Text.editDistance (Text.lower "owl facs".toList) (Text.lower name.toList)
            ≤ max "owl facs".utf8ByteSize 2 / 2)
        (fun name => Text.editDistance (Text.lower "owl facs".toList) (Text.lower name.toList))
        ["Owl Facts", "owl-facts"] := by
  obtain ⟨-, -, hexpand, hfind⟩ := suggestions_exact
  have hscript : Grammar.ofScript misspeller.script = .ok misspelled := by
    show Grammar.ofScript "\x7b\"orign\": \"x\"\x7d" = _
    cbv
  have hfail : ∀ seed, (misspelled.expand startSymbol (Generator.ofSeed seed)).1
      = .error (.unknownSymbol startSymbol ["orign".toList]) := by
    intro seed
    have hrules : Expansion.rulesFor misspelled [] startSymbol = [] := rfl
    have hsimilar : misspelled.similarSymbols startSymbol = ["orign".toList] := by cbv
    rw [Grammar.expand_fst, Expansion.run_expandSymbol_unknown (Nat.zero_le _) hrules,
      Grammar.unknownSymbol, hsimilar]
  have hsimilar : BotRecord.similarNames [misspeller] "owl facs" = ["Owl Facts", "owl-facts"] := by
    cbv
  have hnone : BotRecord.findIndex [misspeller] "owl facs"
      = .error (.botNotFound "owl facs" ["Owl Facts", "owl-facts"]) := by
    rw [← hsimilar]
    rfl
  obtain ⟨-, hnodup, hname⟩ := hexpand _ _ hscript _ _ _ _ _ (hfail 0)
  exact ⟨hfail, hnodup, (hname _ List.mem_cons_self).2, hnone, (hfind _ _ _ hnone _).mp rfl⟩

end GrammarBots
