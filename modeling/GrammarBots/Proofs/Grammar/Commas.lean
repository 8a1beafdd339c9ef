import GrammarBots.Proofs.Grammar.Calls
import GrammarBots.Proofs.Grammar.CheckedReaders
import GrammarBots.Proofs.Grammar.Reading
import Mathlib.Data.List.Forall2

/-!
# The rules of a push

A push has its rules cut at the commas that stand neither in a tag nor in a nested action.
`Action.rulesOf_exact` says that nothing is lost and that no tag or action is cut in two: the rules
with commas between them are the text that was cut, and if that text can be read as one rule, each
of the rules can be read, and their sections with literal commas between them are its sections.

The text is cut by a reader of its own, which counts brackets and tells tags as the reader of rules
does (`Action.splitCommas_piece`).  So both can be followed together along a rule that can be read
(`Action.exists_parts_of_reads`): whenever a comma is reached at which the text is cut, the reader
of rules is in literal text.  A text that cannot be read is cut as well, and then the two may well
disagree.

So expanding the text as one rule does what expanding the rules one after the other does, and gives
their expansions with commas between them (`Expansion.expandRule_eq_join`).
-/

namespace GrammarBots

/-! ### Sections in a row -/

namespace Section

/-- The sections with texts that are side by side as one text, and without empty texts. -/
def merged : List Section → List Section
  | [] => []
  | .text t :: sections => prependText t (merged sections)
  | .tag body :: sections => .tag body :: merged sections
  | .action body :: sections => .action body :: merged sections

theorem merged_ofBody (inTag : Bool) (body : Text) (sections : List Section) :
    merged (ofBody inTag body :: sections) = ofBody inTag body :: merged sections := by
  cases inTag <;> rfl

/-- Text in front of the first of several lists of sections is in front of them all. -/
theorem merged_prependText_append (t : Text) (first more : List Section) :
    merged (prependText t first ++ more) = prependText t (merged (first ++ more)) := by
  by_cases ht : t = []
  · rw [ht, prependText_nil, prependText_nil]
  · unfold prependText
    split
    next u sections =>
      exact prependText_append t u _
    next sections _ =>
      rw [if_neg ht]
      rfl

/-- Of lists with a separator between them, each but the first stands behind a separator. -/
theorem intercalate_cons (sep first : List Section) (lists : List (List Section)) :
    sep.intercalate (first :: lists) = first ++ lists.flatMap (sep ++ ·) := by
  induction lists generalizing first with
  | nil => rw [List.intercalate_singleton, List.flatMap_nil, List.append_nil]
  | cons next lists ih =>
    rw [List.intercalate_cons_cons, ih, List.flatMap_cons, List.append_assoc, List.append_assoc]

end Section

namespace Action

open Section (Mode Reads IsBody depthAfter depthAfterChar)

/-! ### Cutting at commas -/

/-- **The rules with commas between them** are the text that was cut. -/
theorem join_splitCommas (inTag : Bool) (depth : Nat) (collected t : Text) :
    Text.join [','] (splitCommas inTag depth collected t) = collected.reverse ++ t := by
  fun_induction splitCommas inTag depth collected t
  case case7 collected rest ih =>
    rw [Text.join, ih]
    · simp
    · exact splitCommas_ne_nil _ _ _ _
  all_goals simp_all [Text.join]

variable {inTag : Bool} {depth depth' : Nat}

/-- Inside a tag or action, a character that does not end it is no place to cut. -/
theorem splitCommas_inBody_cons {c : Char} (hc : c ≠ '\\')
    (h : depthAfterChar inTag depth c = some depth') (collected rest : Text) :
    splitCommas inTag (Mode.inBody inTag depth).depth collected (c :: rest)
      = splitCommas inTag (Mode.inBody inTag depth').depth (c :: collected) rest := by
  unfold depthAfterChar at h
  split_ifs at h with hopen hclose hdepth hhash
  · obtain rfl := Option.some.inj h
    subst hopen
    cases inTag <;> simp only [Mode.inBody, Mode.depth, splitCommas]
  · obtain ⟨inner, rfl⟩ := Nat.exists_eq_succ_of_ne_zero hdepth
    obtain rfl := Option.some.inj h
    subst hclose
    cases inTag <;> simp only [Mode.inBody, Mode.depth, splitCommas, Nat.succ_sub_one]
  · obtain rfl := Option.some.inj h
    cases inTag with
    | true =>
      have hend : depth = 0 → c ≠ '#' := fun hdepth hc => hhash ⟨hc, rfl, hdepth⟩
      rw [Mode.inBody, Mode.depth, splitCommas] <;> simp_all
    | false => rw [Mode.inBody, Mode.depth, splitCommas] <;> simp_all

/-- **Inside a tag or action**, a piece of the body is not cut, and then as many brackets are open
as the piece leads to. -/
theorem splitCommas_piece {piece : Text} (h : depthAfter inTag depth piece = some depth')
    (collected rest : Text) :
    splitCommas inTag (Mode.inBody inTag depth).depth collected (piece ++ rest)
      = splitCommas inTag (Mode.inBody inTag depth').depth (piece.reverse ++ collected) rest := by
  fun_induction depthAfter inTag depth piece generalizing collected
  case case1 => rw [Option.some.inj h]; rfl
  case case2 => cases h
  case case3 depth c piece ih =>
    rw [List.cons_append, List.cons_append, splitCommas, ih h]
    simp
  case case4 depth c piece hc ih =>
    obtain ⟨next, hnext, h⟩ := Option.bind_eq_some_iff.mp h
    rw [List.cons_append, splitCommas_inBody_cons hc hnext, ih next h]
    simp

/-- A tag or action is not cut. -/
theorem splitCommas_print_ofBody {body : Text} (h : IsBody inTag body) (collected rest : Text) :
    splitCommas false 0 collected (Section.print (Section.ofBody inTag body) ++ rest)
      = splitCommas false 0 ((Section.print (Section.ofBody inTag body)).reverse ++ collected)
          rest := by
  rw [Section.print_ofBody]
  cases inTag with
  | true =>
    have hbody := splitCommas_piece h ('#' :: collected) ('#' :: rest)
    simp only [Mode.inBody, Mode.depth] at hbody
    simp only [Section.opener, Section.closer, List.cons_append, List.append_assoc,
      List.nil_append]
    rw [splitCommas, Bool.not_false, hbody, splitCommas]
    simp
  | false =>
    have hbody := splitCommas_piece h ('[' :: collected) (']' :: rest)
    simp only [Mode.inBody, Mode.depth] at hbody
    simp only [Section.opener, Section.closer, List.cons_append, List.append_assoc,
      List.nil_append]
    rw [splitCommas, hbody, splitCommas]
    simp

/-- **Cutting and reading go together.**  Of a rule that can be read, each of the parts can be read,
and literal commas between their sections give the sections of the rule.  The first part is apart
from the others because what was collected before stands in front of it. -/
theorem exists_parts_of_reads {t : Text} {sections : List Section} (h : Reads t sections) :
    ∃ front others first lists,
      (∀ collected, splitCommas false 0 collected t = (collected.reverse ++ front) :: others) ∧
      Reads front first ∧ List.Forall₂ Reads others lists ∧
      sections = Section.merged (first ++ lists.flatMap ([.text [',']] ++ ·)) := by
  induction h with
  | nil => exact ⟨[], [], [], [], fun collected => by simp [splitCommas], .nil, .nil, rfl⟩
  | backslash =>
    exact ⟨['\\'], [], _, [], fun collected => by simp [splitCommas], .backslash, .nil, rfl⟩
  | escape c h ih =>
    obtain ⟨front, others, first, lists, hsplit, hfront, hothers, rfl⟩ := ih
    refine ⟨'\\' :: c :: front, others, _, lists, fun collected => ?_, .escape c hfront, hothers,
      (Section.merged_prependText_append _ first _).symm⟩
    rw [splitCommas, hsplit]
    simp
  | @plain c rest sections hc h ih =>
    obtain ⟨front, others, first, lists, hsplit, hfront, hothers, rfl⟩ := ih
    by_cases hcomma : c = ','
    · -- The text is cut here, and what was the first part of the rest is now one of the others.
      subst hcomma
      refine ⟨[], front :: others, [], first :: lists, fun collected => ?_, .nil,
        .cons hfront hothers, rfl⟩
      rw [splitCommas, hsplit]
      simp
    · refine ⟨c :: front, others, _, lists, fun collected => ?_, .plain hc hfront, hothers,
        (Section.merged_prependText_append _ first _).symm⟩
      have hne : c ≠ '[' ∧ c ≠ ']' ∧ c ≠ '#' ∧ c ≠ '\\' := by
        refine ⟨?_, ?_, ?_, ?_⟩ <;> rintro rfl <;> cases hc
      rw [splitCommas, hsplit] <;> simp_all
  | @body inTag body rest sections hbody h ih =>
    obtain ⟨front, others, first, lists, hsplit, hfront, hothers, rfl⟩ := ih
    refine ⟨_, others, _, lists, fun collected => ?_, .body hbody hfront, hothers,
      (Section.merged_ofBody inTag body _).symm⟩
    rw [splitCommas_print_ofBody hbody, hsplit]
    simp

/-- The parts of a text that can be read as one rule can be read, and literal commas between their
sections give the sections of the whole. -/
theorem exists_parts_of_ofRule {t : Text} {sections : List Section}
    (h : Section.ofRule t = .ok sections) :
    ∃ parts, List.Forall₂ (fun rule part => Section.ofRule rule = .ok part) (rulesOf t) parts ∧
      sections = Section.merged ([.text [',']].intercalate parts) := by
  obtain ⟨front, others, first, lists, hsplit, hfront, hothers, rfl⟩ :=
    exists_parts_of_reads (Section.ofRule_eq_ok_iff.mp h)
  refine ⟨first :: lists, ?_, by rw [Section.intercalate_cons]⟩
  rw [rulesOf, hsplit, List.reverse_nil, List.nil_append]
  exact (List.Forall₂.cons hfront hothers).imp fun rule part => Section.ofRule_eq_ok_iff.mpr

/-- The rules of a push are those of the text behind the first colon. -/
theorem rules_eq_of_push {body target name t : Text} {rules : List Text}
    (h : ofBody body = .ok (.push target rules)) (ht : Text.splitOnce? ':' body = some (name, t)) :
    rules = rulesOf t := by
  rw [ofBody, ht] at h
  dsimp only at h
  split_ifs at h
  · cases h
  · exact (Action.push.inj (Except.ok.inj h)).2.symm

end Action

/-! ### Expanding the rules of a push -/

namespace Expansion

variable {γ : Type} [Chooser γ]

theorem expandSections_append (g : Grammar) (depth : Nat) (sections more : List Section) :
    (expandSections g depth (sections ++ more) : Step γ Text) = do
      let first ← expandSections g depth sections
      let others ← expandSections g depth more
      return first ++ others := by
  simp only [expandSections_eq_mapM, List.mapM_append, map_eq_pure_bind, bind_assoc, pure_bind,
    List.flatten_append]

theorem expandSections_prependText (g : Grammar) (depth : Nat) (t : Text)
    (sections : List Section) :
    (expandSections g depth (Section.prependText t sections) : Step γ Text)
      = (t ++ ·) <$> expandSections g depth sections := by
  by_cases ht : t = []
  · rw [ht, Section.prependText_nil]
    exact (id_map _).symm
  · unfold Section.prependText
    split
    next u rest => simp [expandSections_text]
    next => rw [if_neg ht, expandSections_text]

/-- Texts side by side expand as one text. -/
theorem expandSections_merged (g : Grammar) (depth : Nat) (sections : List Section) :
    (expandSections g depth (Section.merged sections) : Step γ Text)
      = expandSections g depth sections := by
  induction sections with
  | nil => rfl
  | cons s sections ih =>
    cases s with
    | text t => rw [Section.merged, expandSections_prependText, expandSections_text, ih]
    | tag body => rw [Section.merged, expandSections_tag, expandSections_tag, ih]
    | action body => rw [Section.merged, expandSections_action, expandSections_action, ih]

/-- Rules that can be read expand by their sections. -/
theorem expandRules_eq_mapM_parts (g : Grammar) (depth : Nat) {rules : List Text}
    {parts : List (List Section)}
    (h : List.Forall₂ (fun rule part => Section.ofRule rule = .ok part) rules parts) :
    (expandRules g depth rules : Step γ (List Text)) = parts.mapM (expandSections g depth) := by
  induction h with
  | nil => rw [expandRules, List.mapM_nil]
  | cons hread h ih => rw [expandRules, expandRule_eq hread, ih, List.mapM_cons]

/-- Rules that can be read expand one after the other as their sections do in a row. -/
theorem expandSections_flatMap (g : Grammar) (depth : Nat) {rules : List Text}
    {parts : List (List Section)}
    (h : List.Forall₂ (fun rule part => Section.ofRule rule = .ok part) rules parts) :
    (expandSections g depth (parts.flatMap ([.text [',']] ++ ·)) : Step γ Text)
      = (·.flatMap ([','] ++ ·)) <$> expandRules g depth rules := by
  induction h with
  | nil =>
    rw [List.flatMap_nil, expandSections, expandRules]
    simp
  | cons hread h ih =>
    rw [List.flatMap_cons, List.append_assoc, List.singleton_append, expandSections_text,
      expandSections_append, ih, expandRules, expandRule_eq hread]
    simp

/-- **Expanding a text as one rule** is expanding the rules that it is cut into, one after the
other, with commas between them. -/
theorem expandRule_eq_join (g : Grammar) (depth : Nat) {t : Text} {sections : List Section}
    (h : Section.ofRule t = .ok sections) :
    (expandRule g depth t : Step γ Text)
      = Text.join [','] <$> expandRules g depth (Action.rulesOf t) := by
  obtain ⟨parts, hparts, rfl⟩ := Action.exists_parts_of_ofRule h
  obtain ⟨rule, others, hrules⟩ :=
    List.exists_cons_of_ne_nil (Action.splitCommas_ne_nil false 0 [] t)
  rw [Action.rulesOf, hrules] at hparts ⊢
  obtain _ | ⟨hread, hothers⟩ := hparts
  rw [expandRule_eq h, expandSections_merged, Section.intercalate_cons, expandSections_append,
    expandSections_flatMap g depth hothers, expandRules, expandRule_eq hread]
  simp [Text.join_cons]

end Expansion

namespace Action

open Expansion (Step expandSections runAction)

/-- **No tag or action is cut in two.**  The rules of a push with commas between them are the text
that was cut.  If that text can be read as one rule, then so can each of the rules, and literal
commas between their sections give its sections.  So a push whose text is one well-formed rule
pushes well-formed rules only: each of them can be read, and to run the action is to expand their
sections in order. -/
theorem rulesOf_exact :
    (∀ t, Text.join [','] (rulesOf t) = t) ∧
      (∀ t sections, Section.ofRule t = .ok sections →
        ∃ parts, List.Forall₂ (fun rule part => Section.ofRule rule = .ok part) (rulesOf t) parts ∧
          sections = Section.merged ([.text [',']].intercalate parts)) ∧
      ∀ body target rules name t sections, ofBody body = .ok (.push target rules) →
        Text.splitOnce? ':' body = some (name, t) → Section.ofRule t = .ok sections →
          ∃ parts, List.Forall₂ (fun rule part => Section.ofRule rule = .ok part) rules parts ∧
            ∀ {γ : Type} [Chooser γ] (g : Grammar) (depth : Nat),
              (runAction g depth body : Step γ (Option Text)) = do
                let texts ← parts.mapM (expandSections g (depth + 1))
                Expansion.push target texts
                return some target := by
  refine ⟨fun t => join_splitCommas false 0 [] t, fun t sections h => exists_parts_of_ofRule h, ?_⟩
  intro body target rules name t sections hpush hcolon hread
  obtain ⟨parts, hparts, -⟩ := exists_parts_of_ofRule hread
  rw [← rules_eq_of_push hpush hcolon] at hparts
  refine ⟨parts, hparts, fun g depth => ?_⟩
  rw [Expansion.runAction_push hpush, Expansion.expandRules_eq_mapM_parts g _ hparts]

/-- Commas in a tag, behind a backslash and in an action: the text is cut at one of four. -/
theorem rulesOf_exact_nested :
    Section.ofRule "#[x:a,b]y#,\\,[w:#u,v#]".toList
        = .ok [.tag "[x:a,b]y".toList, .text ",\\,".toList, .action "w:#u,v#".toList] ∧
      ofBody "p:#[x:a,b]y#,\\,[w:#u,v#]".toList
        = .ok (.push "p".toList ["#[x:a,b]y#".toList, "\\,[w:#u,v#]".toList]) ∧
      Text.splitOnce? ':' "p:#[x:a,b]y#,\\,[w:#u,v#]".toList
        = some ("p".toList, "#[x:a,b]y#,\\,[w:#u,v#]".toList) ∧
      (∃ parts, List.Forall₂ (fun rule part => Section.ofRule rule = .ok part)
          (rulesOf "#[x:a,b]y#,\\,[w:#u,v#]".toList) parts ∧
        [.tag "[x:a,b]y".toList, .text ",\\,".toList, .action "w:#u,v#".toList]
          = Section.merged ([.text [',']].intercalate parts)) ∧
      ∃ parts, List.Forall₂ (fun rule part => Section.ofRule rule = .ok part)
          ["#[x:a,b]y#".toList, "\\,[w:#u,v#]".toList] parts ∧
        ∀ {γ : Type} [Chooser γ] (g : Grammar) (depth : Nat),
          (runAction g depth "p:#[x:a,b]y#,\\,[w:#u,v#]".toList : Step γ (Option Text)) = do
            let texts ← parts.mapM (expandSections g (depth + 1))
            Expansion.push "p".toList texts
            return some "p".toList := by
  have hread : Section.ofRule "#[x:a,b]y#,\\,[w:#u,v#]".toList
      = .ok [.tag "[x:a,b]y".toList, .text ",\\,".toList, .action "w:#u,v#".toList] := rfl
  have hpush : ofBody "p:#[x:a,b]y#,\\,[w:#u,v#]".toList
      = .ok (.push "p".toList ["#[x:a,b]y#".toList, "\\,[w:#u,v#]".toList]) := rfl
  have hcolon : Text.splitOnce? ':' "p:#[x:a,b]y#,\\,[w:#u,v#]".toList
      = some ("p".toList, "#[x:a,b]y#,\\,[w:#u,v#]".toList) := rfl
  exact ⟨hread, hpush, hcolon, rulesOf_exact.2.1 _ _ hread,
    rulesOf_exact.2.2 _ _ _ _ _ _ hpush hcolon hread⟩

end Action

end GrammarBots
