import GrammarBots.Grammar.Modifier
import GrammarBots.Grammar.Section
import GrammarBots.Grammar.Tag
import GrammarBots.Proofs.Text.Slices
import Mathlib.Data.List.Induction

/-!
# Readers that check their counters and slices

The readers of rules and tags count brackets up and down, and those of tags and modifiers cut texts
at octets.  Here they are again, as loops over such counters and octets, and `none` wherever a
counter would go below zero or a slice would not begin and end between characters.

None of this ever happens: each of these readers succeeds on every text, with what the reader
without checks gives (`Section.ofRule?_eq`, `Tag.ofBody?_eq`, `Modifier.appliedAll?_eq`).  For rules
the reason is that a bracket is open wherever one is closed: `Section.Mode.depth` counts them, and
it is positive in every mode in which a closing bracket is taken.  For tags it is that the brackets
of an action are counted from its opening one, and that a slice ends where a bracket stands, which
takes up one octet.
-/

namespace GrammarBots

/-- A counter that goes down by one, unless it is zero. -/
def decrement? : Nat → Option Nat
  | 0 => none
  | n + 1 => some n

/-! ### Rules -/

namespace Section

/-- How many brackets are open. -/
def Mode.depth : Mode → Nat
  | .text => 0
  | .tag depth => depth
  | .action depth => depth + 1

/-- Whether a tag is open. -/
def Mode.inTag : Mode → Bool
  | .tag _ => true
  | _ => false

/-- The sections of the rest of a rule, read by one loop that counts the open brackets and remembers
whether a tag is open. -/
def read? (depth : Nat) (inTag : Bool) (collected : Text) :
    Text → Option (Except RuleFault (List Section))
  | [] => some (if inTag then .error .unterminatedTag
      else if 0 < depth then .error .unterminatedAction else .ok (consText collected []))
  | ['\\'] => read? depth inTag ('\\' :: collected) []
  | '\\' :: c :: rest =>
    if depth = 0 ∧ inTag = false ∧ isSpecial c then read? depth inTag (c :: collected) rest
    else read? depth inTag (c :: '\\' :: collected) rest
  | '[' :: rest =>
    if depth = 0 ∧ inTag = false then
      (read? (depth + 1) inTag [] rest).map (·.map (consText collected))
    else read? (depth + 1) inTag ('[' :: collected) rest
  | ']' :: rest =>
    if depth = 0 then some (.error .unmatchedBracket)
    else do
      let depth ← decrement? depth
      if depth = 0 ∧ inTag = false then
        (read? depth inTag [] rest).map (·.map (.action collected.reverse :: ·))
      else read? depth inTag (']' :: collected) rest
  | '#' :: rest =>
    if depth = 0 then
      (read? depth (!inTag) [] rest).map (·.map
        (if inTag then (.tag collected.reverse :: ·) else consText collected))
    else read? depth inTag ('#' :: collected) rest
  | c :: rest => read? depth inTag (c :: collected) rest

/-- The sections of a rule, with the brackets counted. -/
def ofRule? (rule : Text) : Option (Except RuleFault (List Section)) := read? 0 false [] rule

/-- The counter and the flag stand for the mode. -/
theorem read?_eq (mode : Mode) (collected rest : Text) :
    read? mode.depth mode.inTag collected rest = some (read mode collected rest) := by
  fun_induction read mode collected rest
  case case7 collected c rest ih =>
    by_cases hc : isSpecial c <;> simp_all [read?, Mode.depth, Mode.inTag]
  case case20 mode collected c rest _ _ _ _ _ _ _ _ _ _ _ _ _ _ _ _ ih =>
    have hslash : c ≠ '\\' := by
      rintro rfl
      cases mode <;> cases rest <;> simp_all
    have hopen : c ≠ '[' := by cases mode <;> simp_all
    have hclose : c ≠ ']' := by rcases mode with _ | (_ | depth) | (_ | depth) <;> simp_all
    by_cases hhash : c = '#'
    · -- A hash stands for itself inside brackets only.
      obtain ⟨n, hn⟩ : ∃ n, mode.depth = n + 1 := by
        rcases mode with _ | (_ | depth) | depth <;> simp_all [Mode.depth]
      rw [hn, hhash] at ih ⊢
      rw [read?, if_neg (Nat.succ_ne_zero n), ih]
    · rw [read?, ih]
      · exact fun h _ => hslash h
      · exact fun _ _ h _ => hslash h
      · exact hopen
      · exact hclose
      · exact hhash
  all_goals simp_all [read?, Mode.depth, Mode.inTag, decrement?]

/-- **The counter of a rule never goes below zero.** -/
theorem ofRule?_eq (rule : Text) : ofRule? rule = some (ofRule rule) := read?_eq .text [] rule

end Section

/-! ### Tags -/

namespace Tag

/-- The octets before the bracket that closes the last open one, if there is such a bracket.  The
text stands behind `offset` octets, inside `depth` brackets, and maybe behind a backslash that
guards its first character. -/
def closing? (depth : Nat) (escaped : Bool) (offset : Nat) : Text → Option (Option Nat)
  | [] => some none
  | c :: rest =>
    if escaped then closing? depth false (offset + c.utf8Size) rest
    else if c = '\\' then closing? depth true (offset + c.utf8Size) rest
    else if c = '[' then closing? (depth + 1) false (offset + c.utf8Size) rest
    else if c = ']' then do
      let depth ← decrement? depth
      if depth = 0 then some (some offset) else closing? depth false (offset + c.utf8Size) rest
    else closing? depth false (offset + c.utf8Size) rest

/-- The bodies of the leading actions, and the text after them, cut at octets. -/
def leadingActions? (t : Text) : Option (Except RuleFault (List Text × Text)) :=
  if t.head? = some '[' then do
    match ← closing? 0 false 0 t with
    | none => some (.error .unterminatedTagAction)
    | some stop =>
      let body ← Text.slice? t 1 stop
      match _h : Text.dropOctets? (stop + 1) t with
      | none => none
      | some after =>
        (leadingActions? after).map (·.map fun (bodies, rest) => (body :: bodies, rest))
  else some (.ok ([], t))
  termination_by t.length
  decreasing_by exact Text.length_lt_of_dropOctets? _h

/-- The parts of the body of a tag, cut at octets. -/
def ofBody? (body : Text) : Option (Except RuleFault Tag) :=
  (leadingActions? body).map (·.map fun (actions, rest) =>
    match splitDots 0 [] rest with
    | [] => ⟨actions, [], []⟩
    | symbol :: modifiers => ⟨actions, Text.trim symbol, modifiers⟩)

/-- The closing bracket is where the body of the action ends. -/
theorem closing?_eq (depth offset : Nat) (t : Text) :
    closing? (depth + 1) false offset t
      = some ((takeAction depth t).map fun (body, _) => offset + Text.utf8Size body) := by
  fun_induction takeAction depth t generalizing offset
  case case7 depth c rest _ _ _ _ _ ih =>
    have hslash : c ≠ '\\' := by
      rintro rfl
      cases rest <;> simp_all
    have hclose : c ≠ ']' := by cases depth <;> simp_all
    simp_all [closing?, Text.utf8Size, Function.comp_def, Nat.add_assoc]
  all_goals
    simp_all [closing?, decrement?, Text.utf8Size, Function.comp_def, Nat.add_assoc]

theorem leadingActions?_eq (t : Text) : leadingActions? t = some (leadingActions t) := by
  fun_induction leadingActions t with
  | case1 rest htake =>
    have hstop : closing? 0 false 0 ('[' :: rest) = some none := by
      rw [closing?]
      simp [closing?_eq, htake]
    rw [leadingActions?, if_pos List.head?_cons, hstop]
    rfl
  | case2 rest body after htake hlt ih =>
    have hstop : closing? 0 false 0 ('[' :: rest) = some (some (1 + Text.utf8Size body)) := by
      rw [closing?]
      simp [closing?_eq, htake]
      rfl
    have htext : '[' :: rest = '[' :: body ++ ']' :: after := by
      rw [eq_of_takeAction htake, List.cons_append]
    have hbody : Text.slice? ('[' :: rest) 1 (1 + Text.utf8Size body) = some body :=
      Text.slice?_eq_some_iff.mpr ⟨['['], ']' :: after, htext, rfl, rfl⟩
    have hafter : Text.dropOctets? (1 + Text.utf8Size body + 1) ('[' :: rest) = some after := by
      refine Text.dropOctets?_eq_some_iff.mpr ⟨'[' :: body ++ [']'], ?_, ?_⟩
      · rw [htext, List.append_assoc, List.singleton_append]
      · rw [Text.utf8Size_append]
        rfl
    rw [leadingActions?, if_pos List.head?_cons, hstop]
    simp only [Option.bind_eq_bind, Option.bind_some, hbody]
    split
    next hnone => rw [hafter] at hnone; cases hnone
    next hsome =>
      rw [hafter] at hsome
      cases hsome
      rw [ih, Option.map_some]
  | case3 t ht =>
    rw [leadingActions?, if_neg]
    intro hhead
    obtain ⟨rest, rfl⟩ := List.head?_eq_some_iff.mp hhead
    exact ht rest rfl

/-- **The counter of a tag never goes below zero, and its slices are cut between characters.** -/
theorem ofBody?_eq (body : Text) : ofBody? body = some (ofBody body) := by
  rw [ofBody?, leadingActions?_eq, ofBody]
  rfl

end Tag

/-! ### Modifiers -/

namespace Modifier

/-- A text without its last character, cut at the octets before that character. -/
def dropLast? (t : Text) : Option Text :=
  match (Text.charIndices 0 t).getLast? with
  | none => some t
  | some (stop, _) => Text.slice? t 0 stop

/-- The plural of a word, with its last character cut off at octets. -/
def pluralized? (t : Text) : Option Text :=
  if t.getLast?.any fun c => c == 's' || c == 'h' || c == 'x' then some (t ++ ['e', 's'])
  else if endsInSoftY t then (dropLast? t).map (· ++ ['i', 'e', 's'])
  else some (t ++ ['s'])

/-- The past tense of a word, with its last character cut off at octets. -/
def pastTense? (t : Text) : Option Text :=
  if t.getLast? = some 'e' then some (t ++ ['d'])
  else if endsInSoftY t then (dropLast? t).map (· ++ ['i', 'e', 'd'])
  else some (t ++ ['e', 'd'])

/-- The text with its first word in the plural, cut at octets. -/
def firstPluralized? (t : Text) : Option Text :=
  match Text.splitOnce? ' ' t with
  | some (first, rest) => (pluralized? first).map (· ++ ' ' :: rest)
  | none => pluralized? t

/-- The text after the modifier, cut at octets where the modifier cuts it. -/
def applied? : Modifier → Text → Option Text
  | .plural, t => pluralized? t
  | .past, t => pastTense? t
  | .firstPlural, t => firstPluralized? t
  | modifier, t => some (modifier.apply t)

/-- The text after the modifiers that a tag names, in order. -/
def appliedAll? (modifiers : List Text) (t : Text) : Option Text :=
  modifiers.foldlM (fun t modifier => (ofText modifier).applied? t) t

theorem dropLast?_eq (t : Text) : dropLast? t = some t.dropLast := by
  rw [dropLast?]
  cases t using List.reverseRecOn with
  | nil => rfl
  | append_singleton t c =>
    rw [Text.charIndices_append, List.getLast?_append, Text.charIndices, Text.charIndices,
      Nat.zero_add, List.dropLast_concat]
    exact Text.slice?_eq_some_iff.mpr ⟨[], [c], rfl, rfl, rfl⟩

theorem pluralized?_eq (t : Text) : pluralized? t = some (pluralized t) := by
  rw [pluralized?, pluralized, dropLast?_eq]
  split_ifs <;> rfl

theorem pastTense?_eq (t : Text) : pastTense? t = some (pastTense t) := by
  rw [pastTense?, pastTense, dropLast?_eq]
  split_ifs <;> rfl

theorem firstPluralized?_eq (t : Text) : firstPluralized? t = some (firstPluralized t) := by
  rw [firstPluralized?, firstPluralized]
  cases Text.splitOnce? ' ' t with
  | none => exact pluralized?_eq t
  | some parts =>
    show (pluralized? parts.1).map _ = _
    rw [pluralized?_eq]
    rfl

/-- **The slices of modifiers are cut between characters.** -/
theorem applied?_eq (modifier : Modifier) (t : Text) :
    modifier.applied? t = some (modifier.apply t) := by
  cases modifier with
  | plural => exact pluralized?_eq t
  | past => exact pastTense?_eq t
  | firstPlural => exact firstPluralized?_eq t
  | capitalize | capitalizeAll | article | replace | unknown => rfl

theorem appliedAll?_eq (modifiers : List Text) (t : Text) :
    appliedAll? modifiers t = some (applyAll modifiers t) := by
  induction modifiers generalizing t with
  | nil => rfl
  | cons modifier modifiers ih =>
    rw [appliedAll?, List.foldlM_cons, applied?_eq]
    exact ih _

end Modifier

end GrammarBots
