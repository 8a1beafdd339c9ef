import GrammarBots.Grammar.Error
import GrammarBots.Text.Blank

/-!
# Tags

The body of a tag reads `[action]...[action]symbol.modifier...modifier`.  The leading actions end at
their matching bracket, a backslash guarding the character after it; the rest is cut at the dots
outside parentheses.  The leading actions together are shorter than the body
(`sizes_leadingActions_le`).
-/

namespace GrammarBots

/-- The parts of the body of a tag. -/
structure Tag where
  /-- The bodies of the leading actions, in order. -/
  actions : List Text
  /-- The symbol to expand, trimmed; it may be empty. -/
  symbol : Text
  /-- The modifiers to apply to the expansion, in order. -/
  modifiers : List Text
  deriving DecidableEq

namespace Tag

/-- The body of an action up to its closing bracket, and the text after the bracket.  The text is
read from behind the opening bracket, inside `depth` brackets besides that one. -/
def takeAction : (depth : Nat) → Text → Option (Text × Text)
  | _, [] => none
  | _, ['\\'] => none
  | depth, '\\' :: c :: rest =>
    (takeAction depth rest).map fun (body, after) => ('\\' :: c :: body, after)
  | depth, '[' :: rest =>
    (takeAction (depth + 1) rest).map fun (body, after) => ('[' :: body, after)
  | 0, ']' :: rest => some ([], rest)
  | depth + 1, ']' :: rest =>
    (takeAction depth rest).map fun (body, after) => (']' :: body, after)
  | depth, c :: rest => (takeAction depth rest).map fun (body, after) => (c :: body, after)

/-- Body, bracket and the text after them make up what was read. -/
theorem eq_of_takeAction {depth : Nat} {t body after : Text}
    (h : takeAction depth t = some (body, after)) : t = body ++ ']' :: after := by
  fun_induction takeAction depth t generalizing body after
  all_goals try simp at h
  case case5 => obtain ⟨rfl, rfl⟩ := h; rfl
  all_goals
    rename_i ih
    obtain ⟨b, hb, rfl⟩ := h
    simp [ih hb]

/-- The bodies of the leading actions, and the text after them. -/
def leadingActions (t : Text) : Except RuleFault (List Text × Text) :=
  match t with
  | '[' :: rest =>
    -- The body and its bracket are gone from the rest, which is what makes the recursion end.
    match h : takeAction 0 rest with
    | none => .error .unterminatedTagAction
    | some (body, after) =>
      have : after.length < rest.length + 1 := by
        have := congrArg List.length (eq_of_takeAction h)
        simp only [List.length_append, List.length_cons] at this
        omega
      (leadingActions after).map fun (bodies, after) => (body :: bodies, after)
  | t => .ok ([], t)
  termination_by t.length

/-- The parts between the dots outside parentheses.  `collected` holds the characters of the part
being read, last character first, and `depth` counts the open parentheses. -/
def splitDots : (depth : Nat) → (collected : Text) → Text → List Text
  | _, collected, [] => [collected.reverse]
  | depth, collected, '(' :: rest => splitDots (depth + 1) ('(' :: collected) rest
  | depth, collected, ')' :: rest => splitDots (depth - 1) (')' :: collected) rest
  | 0, collected, '.' :: rest => collected.reverse :: splitDots 0 [] rest
  | depth, collected, c :: rest => splitDots depth (c :: collected) rest

/-- The parts of the body of a tag. -/
def ofBody (body : Text) : Except RuleFault Tag :=
  (leadingActions body).map fun (actions, rest) =>
    match splitDots 0 [] rest with
    | [] => ⟨actions, [], []⟩
    | symbol :: modifiers => ⟨actions, Text.trim symbol, modifiers⟩

/-! ### Size -/

/-- The leading actions, each with a bracket, are no longer than the text they lead. -/
theorem sizes_leadingActions_le {t after : Text} {bodies : List Text}
    (h : leadingActions t = .ok (bodies, after)) :
    Text.sizes bodies + after.length ≤ t.length := by
  fun_induction leadingActions t generalizing bodies after
  case case1 => cases h
  case case2 rest body rest' htake hlt ih =>
    cases hr : leadingActions rest' with
    | error e => rw [hr] at h; cases h
    | ok p =>
      obtain ⟨inner, tail⟩ := p
      have hlen := congrArg List.length (eq_of_takeAction htake)
      have := ih hr
      rw [hr] at h
      simp only [Except.map, Except.ok.injEq, Prod.mk.injEq] at h
      obtain ⟨rfl, rfl⟩ := h
      simp only [List.length_append, List.length_cons, Text.sizes] at hlen ⊢
      omega
  case case3 => cases h; simp [Text.sizes]

theorem length_le_of_mem_splitDots {depth : Nat} {collected t part : Text}
    (h : part ∈ splitDots depth collected t) : part.length ≤ collected.length + t.length := by
  fun_induction splitDots depth collected t
  case case1 =>
    rw [List.mem_singleton] at h
    subst h
    simp
  case case4 ih =>
    rcases List.mem_cons.1 h with rfl | h
    · simp
    · have := ih h
      simp only [List.length_cons, List.length_nil] at this ⊢
      omega
  all_goals
    rename_i ih
    have := ih h
    simp only [List.length_cons] at this ⊢
    omega

/-- The leading actions and the symbol of a tag fit into its body. -/
theorem sizes_of_ofBody {body : Text} {tag : Tag} (h : ofBody body = .ok tag) :
    Text.sizes tag.actions + tag.symbol.length ≤ body.length := by
  unfold ofBody at h
  cases hl : leadingActions body with
  | error e => rw [hl] at h; cases h
  | ok p =>
    obtain ⟨actions, rest⟩ := p
    have hsize := sizes_leadingActions_le hl
    rw [hl] at h
    simp only [Except.map, Except.ok.injEq] at h
    split at h
    next => subst h; simp only [List.length_nil]; omega
    next symbol modifiers hs =>
      subst h
      have hmem : symbol ∈ splitDots 0 [] rest := hs ▸ List.mem_cons_self
      have hlen := length_le_of_mem_splitDots hmem
      have htrim := Text.length_trimBoth_le Text.isBlank symbol
      simp only [Text.trim, List.length_nil] at *
      omega

end Tag

end GrammarBots
