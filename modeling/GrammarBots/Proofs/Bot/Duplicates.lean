import GrammarBots.Proofs.Bot.Check
import GrammarBots.Proofs.Bot.Lookup

/-!
# Which bots are out of reach

A bot is out of reach if asking for its id finds another bot.  Ids come before names, so only an
earlier bot of the same id can be in the way (`BotRecord.findIndex_id_iff`), and this is what the
check reports as a duplicate: `BotReport.duplicate_iff_unreachable`.

The check reports errors in words, so a duplicate has to be told from other errors by its words.
Its first letter is enough for that: no other error begins with it (`BotReport.head?_message`).
-/

namespace GrammarBots

namespace BotRecord

variable {bots : List BotRecord} {bot : BotRecord} {i : Nat}

/-- An earlier bot has the id of the bot at the position. -/
def IsRepeated (bots : List BotRecord) (i : Nat) : Prop :=
  ∃ j < i, ∃ earlier bot, bots[j]? = some earlier ∧ bots[i]? = some bot ∧ earlier.id = bot.id

theorem mem_ids_take_iff (hbot : bots[i]? = some bot) :
    bot.id ∈ (bots.take i).map (·.id) ↔ IsRepeated bots i := by
  rw [List.mem_map]
  constructor
  · rintro ⟨earlier, hmem, hid⟩
    obtain ⟨j, hj⟩ := List.mem_iff_getElem?.mp hmem
    rw [List.getElem?_take] at hj
    split_ifs at hj with hlt
    exact ⟨j, hlt, earlier, bot, hj, hbot, hid⟩
  · rintro ⟨j, hlt, earlier, found, hearlier, hfound, hid⟩
    obtain rfl := Option.some.inj (hbot.symm.trans hfound)
    refine ⟨earlier, List.mem_iff_getElem?.mpr ⟨j, ?_⟩, hid⟩
    rw [List.getElem?_take_of_lt hlt, hearlier]

/-- **A bot is found by its own id** unless an earlier one has the id, whatever the names are. -/
theorem findIndex_id_iff (hbot : bots[i]? = some bot) :
    findIndex bots bot.id = .ok i ↔ ¬ IsRepeated bots i := by
  have hmem : bot ∈ bots := List.mem_of_getElem? hbot
  rw [findIndex_eq_ok_iff]
  constructor
  · rintro (⟨-, -, -, hbefore⟩ | ⟨hnone, -⟩)
    · rintro ⟨j, hlt, earlier, found, hearlier, hfound, hid⟩
      obtain rfl := Option.some.inj (hbot.symm.trans hfound)
      have hne := hbefore j hlt earlier hearlier
      rw [beq_eq_false_iff_ne] at hne
      exact hne hid
    · exact absurd rfl (hnone bot hmem)
  · intro hnot
    refine Or.inl ⟨bot, hbot, beq_self_eq_true _, ?_⟩
    intro j hlt earlier hearlier
    rw [beq_eq_false_iff_ne]
    intro hid
    exact hnot ⟨j, hlt, earlier, bot, hearlier, hbot, hid⟩

end BotRecord

namespace BotReport

variable {bots : List BotRecord} {bot : BotRecord} {id : String} {i : Nat}

/-! ### The words of a duplicate -/

theorem head?_append_of_head? {s : String} {c : Char} (h : s.toList.head? = some c) (t : String) :
    (s ++ t).toList.head? = some c := by
  rw [String.toList_append, List.head?_append, h]
  rfl

theorem head?_duplicateError (id : String) : (duplicateError id).toList.head? = some 'd' := by
  unfold duplicateError
  rw [String.append_assoc]
  exact head?_append_of_head? rfl _

theorem duplicateError_injective {id' : String} (h : duplicateError id = duplicateError id') :
    id = id' := by
  unfold duplicateError at h
  exact (String.append_right_inj _).mp ((String.append_left_inj _).mp h)

theorem head?_message (e : GrammarError) : ∃ c, e.message.toList.head? = some c ∧ c ≠ 'd' := by
  unfold GrammarError.message
  cases e with
  | invalidSource => exact ⟨'i', head?_append_of_head? rfl _, by decide⟩
  | unknownSymbol =>
    simp only [String.append_assoc]
    exact ⟨'u', head?_append_of_head? rfl _, by decide⟩
  | malformedRule =>
    simp only [String.append_assoc]
    exact ⟨'s', head?_append_of_head? rfl _, by decide⟩
  | recursionLimit =>
    simp only [String.append_assoc]
    exact ⟨'e', head?_append_of_head? rfl _, by decide⟩

theorem message_ne_duplicateError (e : GrammarError) (id : String) :
    e.message ≠ duplicateError id := by
  intro h
  obtain ⟨c, hc, hne⟩ := head?_message e
  rw [h, head?_duplicateError] at hc
  exact hne (Option.some.inj hc).symm

/-- On its own, a bot is no duplicate. -/
theorem duplicateError_notMem_ofBot (bot : BotRecord) (id : String) :
    duplicateError id ∉ (ofBot bot).errors := by
  have hschedule : duplicateError id ∉
      if bot.schedule = 0 then ["schedule must be greater than zero"] else [] := by
    split_ifs
    · rw [List.mem_singleton]
      intro h
      have hhead := head?_duplicateError id
      rw [h] at hhead
      exact absurd hhead (by decide)
    · exact List.not_mem_nil
  intro h
  cases hg : bot.grammar with
  | error e =>
    rw [ofBot, hg] at h
    rcases List.mem_append.mp h with h | h
    · exact hschedule h
    · exact message_ne_duplicateError e id (List.mem_singleton.mp h).symm
  | ok g =>
    rw [errors_ofBot hg] at h
    rcases List.mem_append.mp h with h | h
    · exact hschedule h
    · obtain ⟨e, -, he⟩ := List.mem_map.mp h
      exact message_ne_duplicateError e id he

theorem duplicateError_mem_ofBotAmong {repeated : Bool} :
    duplicateError id ∈ (ofBotAmong repeated bot).errors ↔ repeated = true ∧ id = bot.id := by
  have herrors : (ofBotAmong repeated bot).errors
      = (ofBot bot).errors ++ if repeated then [duplicateError bot.id] else [] := rfl
  rw [herrors, List.mem_append, or_iff_right (duplicateError_notMem_ofBot bot id)]
  cases repeated with
  | false => simp
  | true =>
    rw [if_pos rfl, List.mem_singleton]
    constructor
    · intro h
      exact ⟨rfl, duplicateError_injective h⟩
    · rintro ⟨-, rfl⟩
      rfl

/-! ### The reports -/

@[simp]
theorem id_ofBotAmong {repeated : Bool} : (ofBotAmong repeated bot).id = bot.id := by
  show (ofBot bot).id = bot.id
  unfold ofBot
  cases bot.grammar with
  | error e => rfl
  | ok g => rfl

/-- The report of each bot, and whether it says that the bot is a duplicate. -/
theorem exists_report (hbot : bots[i]? = some bot) :
    ∃ report, (ofBots bots)[i]? = some report ∧ report.id = bot.id ∧
      ∀ id, duplicateError id ∈ report.errors ↔ BotRecord.IsRepeated bots i ∧ id = bot.id := by
  unfold ofBots
  rw [getElem?_ofBotsAfter, hbot]
  refine ⟨_, rfl, id_ofBotAmong, ?_⟩
  intro id
  rw [duplicateError_mem_ofBotAmong, decide_eq_true_iff, or_iff_right List.not_mem_nil,
    BotRecord.mem_ids_take_iff hbot]

theorem map_id_ofBots (bots : List BotRecord) : (ofBots bots).map (·.id) = bots.map (·.id) := by
  apply List.ext_getElem?
  intro i
  unfold ofBots
  rw [List.getElem?_map, List.getElem?_map, getElem?_ofBotsAfter, Option.map_map]
  simp only [Function.comp_def, id_ofBotAmong]

/-- **A duplicate is reported exactly where a bot is out of reach.**  There is one report for each
bot, in order and with its id.  The report says that the bot is a duplicate, and of its own id only,
exactly if an earlier bot has the id, and exactly if asking for the id does not find the bot.  So
without a duplicate every bot is found by its id, even by one that is the name of another bot. -/
theorem duplicate_iff_unreachable (bots : List BotRecord) :
    (ofBots bots).map (·.id) = bots.map (·.id) ∧
    (∀ i bot, bots[i]? = some bot →
      ∃ report, (ofBots bots)[i]? = some report ∧ report.id = bot.id ∧
        (duplicateError bot.id ∈ report.errors ↔ BotRecord.IsRepeated bots i) ∧
        (duplicateError bot.id ∈ report.errors ↔ BotRecord.findIndex bots bot.id ≠ .ok i) ∧
        ∀ id, duplicateError id ∈ report.errors → id = bot.id) ∧
    ((∀ report ∈ ofBots bots, ∀ id, duplicateError id ∉ report.errors) →
      ∀ i bot, bots[i]? = some bot → BotRecord.findIndex bots bot.id = .ok i) := by
  refine ⟨map_id_ofBots bots, ?_, ?_⟩
  · intro i bot hbot
    obtain ⟨report, hreport, hid, hduplicate⟩ := exists_report hbot
    -- The id is the one that a duplicate of this bot would name.
    have hrepeated : duplicateError bot.id ∈ report.errors ↔ BotRecord.IsRepeated bots i := by
      rw [hduplicate, and_iff_left rfl]
    refine ⟨report, hreport, hid, hrepeated, ?_, fun id h => ((hduplicate id).mp h).2⟩
    rw [hrepeated, Ne, BotRecord.findIndex_id_iff hbot, not_not]
  · intro hclean i bot hbot
    obtain ⟨report, hreport, -, hduplicate⟩ := exists_report hbot
    rw [BotRecord.findIndex_id_iff hbot]
    intro hrepeated
    have hmem : duplicateError bot.id ∈ report.errors := (hduplicate bot.id).mpr ⟨hrepeated, rfl⟩
    exact hclean report (List.mem_of_getElem? hreport) bot.id hmem

open BotRecord (named) in
/-- Of three bots, the second has the id of the first for its name, and only the third has it for
its id as well: the third is a duplicate, and the first two are found by their ids. -/
theorem unreachable_namesake :
    (∃ report, (ofBots [named "owl" "Owl", named "crow" "owl", named "owl" "Crow"])[2]? = some report
        ∧ "duplicate bot id 'owl'" ∈ report.errors) ∧
      ∀ i bot, [named "owl" "Owl", named "crow" "owl"][i]? = some bot →
        BotRecord.findIndex [named "owl" "Owl", named "crow" "owl"] bot.id = .ok i := by
  constructor
  · obtain ⟨-, hreports, -⟩ :=
      duplicate_iff_unreachable [named "owl" "Owl", named "crow" "owl", named "owl" "Crow"]
    obtain ⟨report, hreport, -, -, hunreachable, -⟩ := hreports 2 _ rfl
    exact ⟨report, hreport, hunreachable.mpr (by decide)⟩
  · apply (duplicate_iff_unreachable [named "owl" "Owl", named "crow" "owl"]).2.2
    have hreports : ofBots [named "owl" "Owl", named "crow" "owl"]
        = [ofBot (named "owl" "Owl"), ofBot (named "crow" "owl")] := rfl
    intro report hreport id
    rw [hreports, List.mem_pair] at hreport
    rcases hreport with rfl | rfl
    · exact duplicateError_notMem_ofBot _ id
    · exact duplicateError_notMem_ofBot _ id

end BotReport

end GrammarBots
