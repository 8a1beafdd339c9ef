import GrammarBots.Bot.Check
import GrammarBots.Proofs.Grammar.Safety
import GrammarBots.Schedule.Run
import Mathlib.Data.List.Permutation

/-!
# What a clean report promises

A report without errors means that the script of the bot is a grammar and that the check of this
grammar found nothing (`BotReport.exists_grammar_of_clean`), so no run of the bot ends for want of a
grammar.  If the grammar is tame as well, its expansion does not go wrong either
(`BotReport.expand_of_clean`).  The check does not look into actions, so the second half does not
hold of every grammar: `BotReport.clean_but_malformed` is a bot that never posts, and its report is
clean.
-/

namespace GrammarBots.BotReport

variable {bot : BotRecord} {bots : List BotRecord} {report : BotReport} {i : Nat}

/-- The report of a bot among others, where `repeated` says whether one before it has its id. -/
def ofBotAmong (repeated : Bool) (bot : BotRecord) : BotReport :=
  let own := ofBot bot
  { own with errors := own.errors ++ if repeated then [duplicateError bot.id] else [] }

/-- The report of a bot depends on what comes before it only by the ids. -/
theorem getElem?_ofBotsAfter (seen : List String) (bots : List BotRecord) (i : Nat) :
    (ofBotsAfter seen bots)[i]? = bots[i]?.map fun bot =>
      ofBotAmong (decide (bot.id ∈ seen ∨ bot.id ∈ (bots.take i).map (·.id))) bot := by
  induction bots generalizing seen i with
  | nil => rfl
  | cons first bots ih =>
    rw [ofBotsAfter]
    cases i with
    | zero =>
      simp only [List.getElem?_cons_zero, Option.map_some, List.take_zero, List.map_nil,
        List.not_mem_nil, or_false, List.contains_eq_mem, ofBotAmong]
      split
      · rfl
      · rw [List.append_nil]
    | succ i =>
      simp only [List.getElem?_cons_succ, ih, List.take_succ_cons, List.map_cons, List.mem_cons]
      -- The id of the first bot is one of those seen here, and one of those listed before there.
      simp only [or_assoc, or_left_comm]

theorem eq_ofBotAmong_of_ofBotsAfter {seen : List String} (hbot : bots[i]? = some bot)
    (hreport : (ofBotsAfter seen bots)[i]? = some report) :
    ∃ repeated, report = ofBotAmong repeated bot := by
  rw [getElem?_ofBotsAfter, hbot] at hreport
  exact ⟨_, (Option.some.inj hreport).symm⟩

/-- The report of a bot among others says what the bot's own report says, and perhaps more. -/
theorem exists_errors_ofBotsAfter {seen : List String} (hbot : bots[i]? = some bot)
    (hreport : (ofBotsAfter seen bots)[i]? = some report) :
    ∃ more, report.errors = (ofBot bot).errors ++ more := by
  obtain ⟨repeated, rfl⟩ := eq_ofBotAmong_of_ofBotsAfter hbot hreport
  exact ⟨_, rfl⟩

theorem errors_ofBot {g : Grammar} (hg : bot.grammar = .ok g) :
    (ofBot bot).errors
      = (if bot.schedule = 0 then ["schedule must be greater than zero"] else [])
        ++ (g.lint startSymbol).map (·.message) := by
  rw [ofBot, hg]

theorem exists_grammar_of_clean (hclean : (ofBot bot).errors = []) :
    ∃ g, bot.grammar = .ok g ∧ g.lint startSymbol = [] := by
  cases hg : bot.grammar with
  | error e =>
    rw [ofBot, hg] at hclean
    exact absurd (List.append_eq_nil_iff.mp hclean).2 (List.cons_ne_nil _ _)
  | ok g =>
    rw [errors_ofBot hg] at hclean
    exact ⟨g, rfl, List.map_eq_nil_iff.mp (List.append_eq_nil_iff.mp hclean).2⟩

/-- **A bot with a clean report** has a grammar in which the check found nothing.  None of its runs
ends for want of a grammar, and if the grammar is tame, as any without actions is, its expansion
gives a text or goes over the limit of nesting, whatever chance chooses. -/
theorem expand_of_clean (hbot : bots[i]? = some bot) (hreport : (ofBots bots)[i]? = some report)
    (hclean : report.errors = []) :
    ∃ g, bot.grammar = .ok g ∧ g.lint startSymbol = [] ∧
      (∀ posting, bot.runEnd posting ≠ .invalidScript) ∧
      (g.ActionFree → g.Tame fun _ => True) ∧
      ∀ P, g.Tame P → ∀ (γ : Type) [Chooser γ] (chance : γ),
        (∃ text, (g.expand startSymbol chance).1 = .ok text ∧ P text) ∨
          ∃ symbol, (g.expand startSymbol chance).1
            = .error (.recursionLimit symbol maxNesting) := by
  obtain ⟨more, herrors⟩ := exists_errors_ofBotsAfter hbot hreport
  rw [hclean] at herrors
  obtain ⟨g, hg, hlint⟩ := exists_grammar_of_clean (List.append_eq_nil_iff.mp herrors.symm).1
  refine ⟨g, hg, hlint, ?_, Grammar.tame_of_actionFree, ?_⟩
  · intro posting
    rw [BotRecord.runEnd, hg]
    cases posting <;> exact RunEnd.noConfusion
  · intro P htame γ _ chance
    refine Grammar.expand_of_tame htame hlint (fun symbol hnil => ?_) chance
    exact Grammar.ne_nil_of_ofScript hg hnil rfl

/-! ### Two bots with actions -/

/-- A bot with the given script that is fine otherwise. -/
def scripted (script : String) : BotRecord where
  id := "x"
  name := "x"
  schedule := 3600
  script := script
  credentials := ⟨"token", none⟩

theorem errors_scripted {script : String} {g : Grammar} (hg : Grammar.ofScript script = .ok g)
    (hlint : g.lint startSymbol = []) : (ofBot (scripted script)).errors = [] := by
  have hgrammar : (scripted script).grammar = .ok g := hg
  rw [errors_ofBot hgrammar, hlint]
  rfl

/-- A bot whose grammar pushes a rule onto a symbol. -/
def pusher : BotRecord := scripted "\x7b\"origin\": [\"[x:a]#x#\"], \"x\": [\"b\"]\x7d"

theorem expand_of_clean_pusher :
    (ofBots [pusher]).map (·.errors) = [[]] ∧ ∃ g, pusher.grammar = .ok g ∧
      ∀ seed, (∃ text, (g.expand startSymbol (Generator.ofSeed seed)).1 = .ok text ∧
          Section.IsPlain text) ∨
        ∃ symbol, (g.expand startSymbol (Generator.ofSeed seed)).1
          = .error (.recursionLimit symbol maxNesting) := by
  have hg : pusher.grammar = .ok Grammar.pushing := by
    show Grammar.ofScript "\x7b\"origin\": [\"[x:a]#x#\"], \"x\": [\"b\"]\x7d" = _
    cbv
  have hclean : (ofBot pusher).errors = [] := errors_scripted hg Grammar.lint_pushing
  have hbot : [pusher][0]? = some pusher := rfl
  have hreport : (ofBots [pusher])[0]? = some (ofBot pusher) := rfl
  obtain ⟨g, hgrammar, -, -, -, hexpand⟩ := expand_of_clean hbot hreport hclean
  obtain rfl : Grammar.pushing = g := Except.ok.inj (hg.symm.trans hgrammar)
  exact ⟨congrArg (fun errors => [errors]) hclean, Grammar.pushing, hgrammar,
    fun seed => hexpand _ Grammar.tame_pushing _ (Generator.ofSeed seed)⟩

/-- A grammar with an action whose rule cannot be read. -/
def malformed : Grammar := Grammar.ofRules [(startSymbol, ["[x:#y]a".toList])]

theorem ofRule_malformed : Section.ofRule "[x:#y]a".toList
    = .ok [.action "x:#y".toList, .text "a".toList] := rfl

theorem ofBody_malformed :
    Action.ofBody "x:#y".toList = .ok (.push "x".toList ["#y".toList]) := rfl

theorem ofRule_malformed_push : Section.ofRule "#y".toList = .error .unterminatedTag := rfl

theorem lint_malformed : malformed.lint startSymbol = [] := by
  have hrules : malformed.allRules = ["[x:#y]a".toList] := rfl
  rw [Grammar.lint_eq_nil_iff, hrules]
  refine ⟨rfl, List.forall_mem_singleton.mpr ⟨_, ofRule_malformed⟩, ?_⟩
  simp only [References.ofRules, References.ofRule_eq ofRule_malformed,
    References.ofRule_error ofRule_malformed_push, References.ofSections_cons,
    References.ofSection, References.ofAction_push ofBody_malformed, References.ofSections]
  exact List.forall_mem_nil _

/-- A bot whose grammar has an action with a rule that cannot be read. -/
def mute : BotRecord := scripted "\x7b\"origin\": [\"[x:#y]a\"]\x7d"

/-- Its report is clean, but whatever chance chooses, it does not post: a tag in the rule of the
action is not closed. -/
theorem clean_but_malformed :
    (ofBots [mute]).map (·.errors) = [[]] ∧ ∃ g, mute.grammar = .ok g ∧
      ∀ seed, (g.expand startSymbol (Generator.ofSeed seed)).1
        = .error (.malformedRule "#y".toList .unterminatedTag) := by
  have hg : mute.grammar = .ok malformed := by
    show Grammar.ofScript "\x7b\"origin\": [\"[x:#y]a\"]\x7d" = _
    cbv
  have hclean : (ofBot mute).errors = [] := errors_scripted hg lint_malformed
  refine ⟨congrArg (fun errors => [errors]) hclean, malformed, hg, fun seed => ?_⟩
  have hrulesFor : Expansion.rulesFor malformed [] startSymbol = ["[x:#y]a".toList] := rfl
  have hchosen : ["[x:#y]a".toList].get (Chooser.choose (Generator.ofSeed seed) 0).1
      = "[x:#y]a".toList := List.mem_singleton.mp (List.get_mem _ _)
  rw [Grammar.expand_fst, Expansion.run_expandSymbol malformed (Nat.zero_le _) hrulesFor]
  simp only [List.length_nil, hchosen]
  rw [Expansion.expandRule_eq ofRule_malformed, Expansion.expandSections_action,
    Expansion.runAction_push ofBody_malformed, Expansion.expandRules,
    Expansion.expandRule_error ofRule_malformed_push]
  rfl

end GrammarBots.BotReport
