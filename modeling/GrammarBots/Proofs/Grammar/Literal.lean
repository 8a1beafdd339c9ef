import GrammarBots.Post.Draft

/-!
# Rules that are literal text

`Section.escape` writes any text as a rule without tags and actions.  Reading such a rule gives the
text back as its only section (`ofRule_escape`), so a symbol whose only rule it is expands to the
text, whatever chance chooses (`expand_escape`).
-/

namespace GrammarBots

namespace Section

theorem escape_cons (c : Char) (t : Text) :
    escape (c :: t) = (if isSpecial c then ['\\', c] else [c]) ++ escape t := by
  rw [escape, List.flatMap_cons]
  rfl

/-- The reader collects a character that is not special. -/
theorem read_text_plain {c : Char} (hc : isSpecial c = false) (collected rest : Text) :
    read .text collected (c :: rest) = read .text (c :: collected) rest := by
  rw [read] <;> simp_all [isSpecial]

/-- The reader collects the text that was escaped, and reads on. -/
theorem read_escape (t collected rest : Text) :
    read .text collected (escape t ++ rest) = read .text (t.reverse ++ collected) rest := by
  induction t generalizing collected with
  | nil => rfl
  | cons c t ih =>
    rw [escape_cons, List.reverse_cons, List.append_assoc, List.append_assoc]
    by_cases hc : isSpecial c
    · rw [if_pos hc, List.cons_append, List.cons_append, read, if_pos hc]
      exact ih (c :: collected)
    · rw [if_neg hc, List.singleton_append, read_text_plain (Bool.not_eq_true _ ▸ hc)]
      exact ih (c :: collected)

/-- **Escaped text is read back** as one section, or as none if there is no text. -/
theorem ofRule_escape (t : Text) :
    ofRule (escape t) = .ok (if t = [] then [] else [.text t]) := by
  rw [ofRule, ← List.append_nil (escape t), read_escape, List.append_nil, read, consText]
  cases t with
  | nil => rfl
  | cons c t => simp

end Section

namespace Expansion

variable {γ : Type} [Chooser γ]

theorem expandSections_literal (g : Grammar) (depth : Nat) (t : Text) :
    (expandSections g depth (if t = [] then [] else [.text t]) : Step γ Text) = pure t := by
  cases t with
  | nil => rw [if_pos rfl, expandSections]
  | cons c t =>
    rw [if_neg (List.cons_ne_nil c t), expandSections, expandSections]
    simp

theorem expandRule_escape (g : Grammar) (depth : Nat) (t : Text) :
    (expandRule g depth (Section.escape t) : Step γ Text) = pure t := by
  rw [expandRule]
  split
  next fault h => rw [Section.ofRule_escape] at h; cases h
  next sections h =>
    rw [Section.ofRule_escape] at h
    rw [← Except.ok.inj h, expandSections_literal]

/-- Within the limit of nesting, a symbol expands to one of its rules, whose index is chosen. -/
theorem run_expandSymbol (g : Grammar) {depth : Nat} (hdepth : depth ≤ maxNesting)
    {symbol rule : Text} {others : List Text} {s : State γ}
    (hrules : rulesFor g s.pushed symbol = rule :: others) :
    (expandSymbol g depth symbol).run s
      = (expandRule g (depth + 1)
          ((rule :: others).get (Chooser.choose s.chance others.length).1)).run
          { s with chance := (Chooser.choose s.chance others.length).2 } := by
  rw [expandSymbol, dif_neg (Nat.not_lt_of_le hdepth)]
  have hget (f : State γ → Step γ Text) : ExceptT.run (get >>= f) s = ExceptT.run (f s) s := rfl
  rw [hget, hrules]
  rfl

/-- Nothing but the state of chance depends on the choice of a sole rule. -/
theorem run_expandSymbol_of_single (g : Grammar) {depth : Nat} (hdepth : depth ≤ maxNesting)
    {symbol rule : Text} {s : State γ} (hrules : rulesFor g s.pushed symbol = [rule]) :
    (expandSymbol g depth symbol).run s
      = (expandRule g (depth + 1) rule).run
          { s with chance := (Chooser.choose s.chance 0).2 } := by
  have hchosen : [rule].get (Chooser.choose s.chance 0).1 = rule :=
    List.mem_singleton.mp (List.get_mem _ _)
  rw [run_expandSymbol g hdepth hrules]
  simp only [List.length_nil, hchosen]

end Expansion

/-- **A symbol with one literal rule expands to its text**, whatever chance chooses. -/
theorem Grammar.expand_escape {γ : Type} [Chooser γ] {g : Grammar} {start t : Text}
    (hrules : g.rules? start = some [Section.escape t]) (chance : γ) :
    (g.expand start chance).1 = .ok t := by
  have hrulesFor : Expansion.rulesFor g [] start = [Section.escape t] := by
    rw [Expansion.rulesFor, List.lookup_nil, hrules]
    rfl
  rw [Grammar.expand, Expansion.run_expandSymbol_of_single g (Nat.zero_le _) hrulesFor,
    Expansion.expandRule_escape]
  rfl

/-- The draft of a grammar that starts with one literal rule is that of its text. -/
theorem Grammar.draft_escape {γ : Type} [Chooser γ] {g : Grammar} {t : Text}
    (hrules : g.rules? startSymbol = some [Section.escape t]) (chance : γ) :
    (g.draft chance).1 = .ok (Draft.ofExpanded t) := by
  rw [Grammar.draft]
  exact congrArg (Except.map Draft.ofExpanded) (Grammar.expand_escape hrules chance)

end GrammarBots
