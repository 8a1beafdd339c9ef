import GrammarBots.Proofs.Bot.Suggestions
import GrammarBots.Proofs.Text.Casing

/-!
# Letter case in lookups

Names are looked up up to the case of the letters of ASCII, but suggestions are made by comparing
lower cases.  So a name may be suggested that differs from what was asked for in letter case only
(`BotRecord.findIndex_misses_accent`).  By `BotRecord.findIndex_casing` this takes a letter beyond
ASCII: a lookup finds the names of the same lower case that have the same characters beyond ASCII,
and so all names of the same lower case if both are in lower case there.
-/

namespace GrammarBots.BotRecord

variable {bots : List BotRecord} {bot : BotRecord} {query : String}

theorem hasName_iff : hasName query bot = true ↔
    Text.lower bot.name.toList = Text.lower query.toList ∧
      Text.SameBeyondAscii bot.name.toList query.toList :=
  Text.eqIgnoringAsciiCase_iff

theorem exists_findIndex_iff :
    (∃ i, findIndex bots query = .ok i) ↔
      ∃ bot ∈ bots, bot.id = query ∨ hasName query bot = true := by
  constructor
  · rintro ⟨i, hi⟩
    rcases findIndex_eq_ok_iff.mp hi with ⟨bot, hbot, hid, -⟩ | ⟨-, bot, hbot, hname, -⟩
    · exact ⟨bot, List.mem_of_getElem? hbot, Or.inl (beq_iff_eq.mp hid)⟩
    · exact ⟨bot, List.mem_of_getElem? hbot, Or.inr hname⟩
  · rintro ⟨bot, hbot, hfits⟩
    cases hfind : findIndex bots query with
    | ok i => exact ⟨i, rfl⟩
    | error e =>
      obtain ⟨hnone, -⟩ := findIndex_eq_error_iff.mp hfind
      obtain ⟨hid, hname⟩ := hnone bot hbot
      rcases hfits with h | h
      · exact absurd h hid
      · rw [hname] at h
        cases h

/-- **Names are found whatever the case of their letters of ASCII.**  What is asked for is found
exactly if it is an id, or if some name has the same lower case and the same characters beyond
ASCII.  For that it is enough that the lower case is the same and that the name and what is asked
for are in lower case beyond ASCII.  So a name that is suggested instead, and differs in letter case
only, differs in a letter beyond ASCII. -/
theorem findIndex_casing (bots : List BotRecord) (query : String) :
    ((∃ i, findIndex bots query = .ok i) ↔ ∃ bot ∈ bots, bot.id = query ∨
      Text.lower bot.name.toList = Text.lower query.toList ∧
        Text.SameBeyondAscii bot.name.toList query.toList) ∧
    (∀ bot ∈ bots, Text.lower bot.name.toList = Text.lower query.toList →
      Text.IsLowerBeyondAscii bot.name.toList → Text.IsLowerBeyondAscii query.toList →
        ∃ i, findIndex bots query = .ok i) ∧
    ∀ best, findIndex bots query = .error (.botNotFound query best) →
      ∀ bot ∈ bots, bot.name ∈ best → Text.lower bot.name.toList = Text.lower query.toList →
        ¬ Text.SameBeyondAscii bot.name.toList query.toList ∧
          ¬ (Text.IsLowerBeyondAscii bot.name.toList ∧ Text.IsLowerBeyondAscii query.toList) := by
  have hfound (bot : BotRecord) (hbot : bot ∈ bots) (hname : hasName query bot = true) :
      ∃ i, findIndex bots query = .ok i :=
    exists_findIndex_iff.mpr ⟨bot, hbot, Or.inr hname⟩
  refine ⟨?_, ?_, ?_⟩
  · simp only [exists_findIndex_iff, hasName_iff]
  · intro bot hbot hlower hname hquery
    exact hfound bot hbot (Text.eqIgnoringAsciiCase_of_lower_eq hname hquery hlower)
  · intro best hfail bot hbot _ hlower
    obtain ⟨hnone, -⟩ := findIndex_eq_error_iff.mp hfail
    have hmisses : hasName query bot ≠ true := by
      rw [(hnone bot hbot).2]
      exact Bool.false_ne_true
    constructor
    · intro hsame
      exact hmisses (hasName_iff.mpr ⟨hlower, hsame⟩)
    · rintro ⟨hname, hquery⟩
      exact hmisses (Text.eqIgnoringAsciiCase_of_lower_eq hname hquery hlower)

/-- A name with an accented capital is found by the same capital, whatever the case of the other
letters, and one with an accented small letter by the same small letter. -/
theorem findIndex_casing_accent :
    (∃ i, findIndex [named "e" "Éclair"] "ÉCLAIR" = .ok i) ∧
      ∃ i, findIndex [named "e" "éclair"] "éCLAIR" = .ok i := by
  constructor
  · apply (findIndex_casing [named "e" "Éclair"] "ÉCLAIR").1.mpr
    exact ⟨_, List.mem_singleton_self _, Or.inr ⟨by decide, by decide⟩⟩
  · apply (findIndex_casing [named "e" "éclair"] "éCLAIR").2.1 _ (List.mem_singleton_self _)
    · decide
    · decide
    · decide

/-- The accented capital is not found by its small letter.  The name is suggested instead, as its
lower case is the same. -/
theorem findIndex_misses_accent :
    Text.lower "Éclair".toList = Text.lower "éclair".toList ∧
      findIndex [named "e" "Éclair"] "éclair" = .error (.botNotFound "éclair" ["Éclair"]) := by
  have hclose : (([named "e" "Éclair"].flatMap fun bot => [bot.id, bot.name]).filter fun name =>
      nameDistance "éclair" name ≤ suggestionReach "éclair") = ["Éclair"] := by decide
  have hsimilar : similarNames [named "e" "Éclair"] "éclair" = ["Éclair"] := by
    rw [similarNames_eq, hclose, List.mergeSort_singleton]
    rfl
  refine ⟨by decide, ?_⟩
  rw [← hsimilar]
  rfl

end GrammarBots.BotRecord
