import GrammarBots.Grammar.Error

/-!
# The sections of a rule

A rule is literal text with tags `#...#` and actions `[...]` in it.  `Section.ofRule` reads it in
one pass from the left; `Section.print` writes a section so that the reader takes it back.  The
bodies of tags and actions keep their text, escapes included, because they are read again when the
tag or action is carried out; literal text has its escapes resolved.

The body of a tag or action is always shorter than the rule it was read from
(`weights_le_of_ofRule`): this is what lets references be collected, and rules be expanded, by
recursion on the length of the text.
-/

namespace GrammarBots

/-- One piece of a rule. -/
inductive Section where
  /-- Literal text, escapes resolved. -/
  | text (t : Text)
  /-- The body of a tag. -/
  | tag (body : Text)
  /-- The body of an action outside tags. -/
  | action (body : Text)
  deriving DecidableEq

namespace Section

/-- The characters that stand for themselves in literal text only after a backslash. -/
def isSpecial (c : Char) : Bool := c == '#' || c == '[' || c == ']' || c == '\\'

/-- Where the reader of a rule stands. -/
inductive Mode where
  /-- In literal text. -/
  | text
  /-- In a tag, inside `depth` open brackets. -/
  | tag (depth : Nat)
  /-- In an action, inside `depth` brackets besides its own. -/
  | action (depth : Nat)
  deriving DecidableEq

/-- A section of the literal text collected, last character first, unless there is none. -/
def consText (collected : Text) (sections : List Section) : List Section :=
  if collected.isEmpty then sections else .text collected.reverse :: sections

/-- The sections of the rest of a rule, where `collected` holds the characters of the section that
is being read, last character first. -/
def read : Mode → (collected : Text) → Text → Except RuleFault (List Section)
  | .text, collected, [] => .ok (consText collected [])
  | .tag _, _, [] => .error .unterminatedTag
  | .action _, _, [] => .error .unterminatedAction
  -- A backslash at the very end guards nothing and stands for itself.
  | .text, collected, ['\\'] => .ok (consText ('\\' :: collected) [])
  | .tag _, _, ['\\'] => .error .unterminatedTag
  | .action _, _, ['\\'] => .error .unterminatedAction
  -- Only literal text resolves escapes; a body keeps both characters.
  | .text, collected, '\\' :: c :: rest =>
    read .text (if isSpecial c then c :: collected else c :: '\\' :: collected) rest
  | .tag depth, collected, '\\' :: c :: rest => read (.tag depth) (c :: '\\' :: collected) rest
  | .action depth, collected, '\\' :: c :: rest =>
    read (.action depth) (c :: '\\' :: collected) rest
  | .text, collected, '[' :: rest => (read (.action 0) [] rest).map (consText collected)
  | .tag depth, collected, '[' :: rest => read (.tag (depth + 1)) ('[' :: collected) rest
  | .action depth, collected, '[' :: rest => read (.action (depth + 1)) ('[' :: collected) rest
  -- A bracket closes the innermost one that is open in the same tag or action.
  | .text, _, ']' :: _ => .error .unmatchedBracket
  | .tag 0, _, ']' :: _ => .error .unmatchedBracket
  | .tag (depth + 1), collected, ']' :: rest => read (.tag depth) (']' :: collected) rest
  | .action 0, collected, ']' :: rest =>
    (read .text [] rest).map (.action collected.reverse :: ·)
  | .action (depth + 1), collected, ']' :: rest => read (.action depth) (']' :: collected) rest
  -- Inside brackets a hash is a character like any other.
  | .text, collected, '#' :: rest => (read (.tag 0) [] rest).map (consText collected)
  | .tag 0, collected, '#' :: rest => (read .text [] rest).map (.tag collected.reverse :: ·)
  | mode, collected, c :: rest => read mode (c :: collected) rest

/-- The sections of a rule. -/
def ofRule (rule : Text) : Except RuleFault (List Section) := read .text [] rule

/-! ### Printing -/

/-- Literal text with a backslash before every special character. -/
def escape (t : Text) : Text := t.flatMap fun c => if isSpecial c then ['\\', c] else [c]

/-- A section as it stands in a rule. -/
def print : Section → Text
  | .text t => escape t
  | .tag body => '#' :: body ++ ['#']
  | .action body => '[' :: body ++ [']']

/-- The rule that consists of the given sections. -/
def printAll (sections : List Section) : Text := sections.flatMap print

/-! ### Size -/

/-- A length that a section is sure to have in its rule: its characters and its delimiters. -/
def weight : Section → Nat
  | .text t => max 1 t.length
  | .tag body => body.length + 2
  | .action body => body.length + 2

/-- Every section takes up some of its rule. -/
theorem weight_pos (s : Section) : 0 < s.weight := by
  cases s <;> simp only [weight] <;> omega

/-- The sum of the weights. -/
def weights : List Section → Nat
  | [] => 0
  | s :: rest => s.weight + weights rest

/-- The length of the delimiter already passed when the reader stands in the given mode. -/
def Mode.opened : Mode → Nat
  | .text => 0
  | .tag _ => 1
  | .action _ => 1

theorem weights_consText (collected : Text) (sections : List Section) :
    weights (consText collected sections) = collected.length + weights sections := by
  unfold consText
  cases collected with
  | nil => simp
  | cons c rest => simp [weights, weight]

theorem exists_of_map_eq_ok {ε α β : Type} {f : α → β} {x : Except ε α} {y : β}
    (h : x.map f = .ok y) : ∃ z, x = .ok z ∧ f z = y := by
  cases x with
  | error e => simp [Except.map] at h
  | ok z => exact ⟨z, rfl, by simpa [Except.map] using h⟩

/-- What is read weighs no more than what was collected and what is still to be read. -/
theorem weights_le_of_read {mode : Mode} {collected rest : Text} {sections : List Section}
    (h : read mode collected rest = .ok sections) :
    weights sections ≤ mode.opened + collected.length + rest.length := by
  fun_induction read mode collected rest generalizing sections
  case case1 => cases h; simp [weights_consText, weights]
  case case4 => cases h; simp [weights_consText, weights, Mode.opened]
  case case7 collected c rest ih =>
    have := ih h
    split at this <;> simp only [List.length_cons] at this ⊢ <;> omega
  case case10 ih =>
    obtain ⟨inner, hr, rfl⟩ := exists_of_map_eq_ok h
    have := ih hr
    simp only [weights_consText, Mode.opened, List.length_cons, List.length_nil] at this ⊢
    omega
  case case16 ih =>
    obtain ⟨inner, hr, rfl⟩ := exists_of_map_eq_ok h
    have := ih hr
    simp only [weights, weight, Mode.opened, List.length_cons, List.length_nil,
      List.length_reverse] at this ⊢
    omega
  case case18 ih =>
    obtain ⟨inner, hr, rfl⟩ := exists_of_map_eq_ok h
    have := ih hr
    simp only [weights_consText, Mode.opened, List.length_cons, List.length_nil] at this ⊢
    omega
  case case19 ih =>
    obtain ⟨inner, hr, rfl⟩ := exists_of_map_eq_ok h
    have := ih hr
    simp only [weights, weight, Mode.opened, List.length_cons, List.length_nil,
      List.length_reverse] at this ⊢
    omega
  all_goals first
    | contradiction
    | (rename_i ih
       have := ih h
       simp only [Mode.opened, List.length_cons] at this ⊢
       omega)

/-- The sections of a rule weigh no more than the rule is long. -/
theorem weights_le_of_ofRule {rule : Text} {sections : List Section}
    (h : ofRule rule = .ok sections) : weights sections ≤ rule.length := by
  simpa [Mode.opened] using weights_le_of_read h

end Section

end GrammarBots
