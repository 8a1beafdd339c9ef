import GrammarBots.Grammar.Error
import GrammarBots.Text.Blank

/-!
# Actions

An action `name:rule,...,rule` pushes rules onto the stack of a symbol, and `name:POP` pops them
off again.  The rules are cut at the commas that stand neither in a tag nor in a nested action, so
together they are shorter than the action (`sizes_of_ofBody`).
-/

namespace GrammarBots

/-- What an action asks for. -/
inductive Action where
  /-- Put rules on top of the stack of a symbol. -/
  | push (target : Text) (rules : List Text)
  /-- Take the top off the stack of a symbol. -/
  | pop (target : Text)
  deriving DecidableEq

namespace Action

/-- The parts between the commas that stand neither in a tag nor inside brackets.  `collected` holds
the characters of the part being read, last character first; `inTag` tells whether a tag is open and
`depth` how many brackets are. -/
def splitCommas : (inTag : Bool) → (depth : Nat) → (collected : Text) → Text → List Text
  | _, _, collected, [] => [collected.reverse]
  | _, _, collected, ['\\'] => [('\\' :: collected).reverse]
  | inTag, depth, collected, '\\' :: c :: rest =>
    splitCommas inTag depth (c :: '\\' :: collected) rest
  | inTag, depth, collected, '[' :: rest => splitCommas inTag (depth + 1) ('[' :: collected) rest
  | inTag, depth, collected, ']' :: rest => splitCommas inTag (depth - 1) (']' :: collected) rest
  | inTag, 0, collected, '#' :: rest => splitCommas (!inTag) 0 ('#' :: collected) rest
  | false, 0, collected, ',' :: rest => collected.reverse :: splitCommas false 0 [] rest
  | inTag, depth, collected, c :: rest => splitCommas inTag depth (c :: collected) rest

/-- The rules of a push, cut at its top-level commas. -/
def rulesOf (t : Text) : List Text := splitCommas false 0 [] t

/-- What the body of an action asks for. -/
def ofBody (body : Text) : Except RuleFault Action :=
  match Text.splitOnce? ':' body with
  | none => .error .actionWithoutColon
  | some (before, after) =>
    let target := Text.trim before
    if target = [] then .error .actionWithoutTarget
    else if after = "POP".toList then .ok (.pop target)
    else .ok (.push target (rulesOf after))

/-! ### Size -/

/-- Cutting at commas loses one character a comma. -/
theorem sizes_splitCommas (inTag : Bool) (depth : Nat) (collected t : Text) :
    Text.sizes (splitCommas inTag depth collected t) = collected.length + t.length + 1 := by
  fun_induction splitCommas inTag depth collected t
  all_goals simp_all only [Text.sizes, List.length_reverse, List.length_cons, List.length_nil]
  all_goals omega

/-- The rules of a push fit into the body of the action. -/
theorem sizes_of_ofBody {body target : Text} {rules : List Text}
    (h : ofBody body = .ok (.push target rules)) : Text.sizes rules ≤ body.length := by
  unfold ofBody at h
  split at h
  next => cases h
  next before after hsplit =>
    have hlen := congrArg List.length (Text.eq_of_splitOnce? hsplit)
    simp only [List.length_append, List.length_cons] at hlen
    dsimp only at h
    split at h
    · cases h
    · split at h
      · cases h
      · cases h
        have := sizes_splitCommas false 0 [] after
        simp only [rulesOf, List.length_nil] at *
        omega

end Action

end GrammarBots
