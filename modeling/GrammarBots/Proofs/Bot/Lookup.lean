import GrammarBots.Bot.Lookup
import Mathlib.Logic.Basic

/-!
# Which bot is found

`BotRecord.findIndex_eq_ok_iff` says which bot is found: the first with the id asked for, and the
first with the name only if there is none with the id.  `BotRecord.findIndex_eq_error_iff` says when
none is found, and that the error then names what was asked for and the names closest to it.
-/

namespace GrammarBots.BotRecord

variable {bots : List BotRecord} {query : String} {i : Nat}

/-- The bot at the position has the property, and no bot before it has. -/
def IsFirst (p : BotRecord → Bool) (bots : List BotRecord) (i : Nat) : Prop :=
  ∃ bot, bots[i]? = some bot ∧ p bot = true ∧
    ∀ j < i, ∀ earlier, bots[j]? = some earlier → p earlier = false

theorem findIdx?_eq_some_iff_isFirst {p : BotRecord → Bool} :
    bots.findIdx? p = some i ↔ IsFirst p bots i := by
  rw [List.findIdx?_eq_some_iff_getElem]
  constructor
  · rintro ⟨hlt, hp, hbefore⟩
    refine ⟨bots[i], List.getElem?_eq_getElem hlt, hp, ?_⟩
    intro j hj earlier hearlier
    obtain ⟨_, rfl⟩ := List.getElem?_eq_some_iff.mp hearlier
    simpa using hbefore j hj
  · rintro ⟨bot, hbot, hp, hbefore⟩
    obtain ⟨hlt, rfl⟩ := List.getElem?_eq_some_iff.mp hbot
    refine ⟨hlt, hp, ?_⟩
    intro j hj
    have := hbefore j hj _ (List.getElem?_eq_getElem (by omega))
    simpa using this

/-- **Ids come first**, and of several bots with the id, or else with the name, the first is
found. -/
theorem findIndex_eq_ok_iff :
    findIndex bots query = .ok i ↔ IsFirst (·.id == query) bots i ∨
      (∀ bot ∈ bots, bot.id ≠ query) ∧ IsFirst (hasName query) bots i := by
  unfold findIndex
  rw [← findIdx?_eq_some_iff_isFirst, ← findIdx?_eq_some_iff_isFirst]
  have hnone : (∀ bot ∈ bots, bot.id ≠ query) ↔ bots.findIdx? (·.id == query) = none := by
    rw [List.findIdx?_eq_none_iff]
    simp only [beq_eq_false_iff_ne]
  rw [hnone]
  cases bots.findIdx? (·.id == query) with
  | some j => simp
  | none =>
    cases bots.findIdx? (hasName query) with
    | some j => simp
    | none => simp

/-- **None is found** if no bot has the id or the name. -/
theorem findIndex_eq_error_iff {e : AppError} :
    findIndex bots query = .error e ↔
      (∀ bot ∈ bots, bot.id ≠ query ∧ hasName query bot = false) ∧
        e = .botNotFound query (similarNames bots query) := by
  have hnone : (∀ bot ∈ bots, bot.id ≠ query ∧ hasName query bot = false) ↔
      bots.findIdx? (·.id == query) = none ∧ bots.findIdx? (hasName query) = none := by
    rw [List.findIdx?_eq_none_iff, List.findIdx?_eq_none_iff]
    simp only [beq_eq_false_iff_ne]
    exact forall₂_and
  unfold findIndex
  rw [hnone]
  cases bots.findIdx? (·.id == query) with
  | some j => simp
  | none =>
    cases bots.findIdx? (hasName query) with
    | some j => simp
    | none => simp [eq_comm]

/-- A bot with the given id and name. -/
def named (id name : String) : BotRecord where
  id := id
  name := name
  schedule := 60
  script := ""

end GrammarBots.BotRecord
