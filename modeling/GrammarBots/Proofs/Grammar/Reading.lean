import GrammarBots.Proofs.Grammar.Literal
import Mathlib.Data.Nat.Init
import Mathlib.Tactic.SplitIfs

/-!
# The rules that can be read

`Section.Reads` says of a rule, from left to right, what its sections are: literal characters,
characters behind a backslash, tags and actions, each of them in front of a rule that is read
likewise.  The reader gives these sections and no others (`Section.ofRule_eq_ok_iff`), so what is to
be proved of every rule that can be read is proved by induction on this relation, one case for each
thing that a rule can begin with.

The bodies of tags and actions end where their own delimiter stands: `depthAfter` counts the
brackets that are open after a piece of a body, and `read_piece` says that this is the depth at
which the reader stands.  The other way around, a text that can be read inside a tag or action
begins with the rest of the body and the character that ends it (`exists_body_of_read`).

What the reader has collected of a text ends up in front of the sections of the rest
(`Section.Reads.read`), and it never succeeds on a text that the relation does not hold of
(`Section.exists_reads_of_read`).
-/

namespace GrammarBots

namespace Section

/-! ### Bodies of tags and actions -/

/-- The number of brackets that are open after a character that no backslash guards, where `depth`
are open before it.  There is none if the character closes a bracket that is not open, or if it is
the hash that ends a tag. -/
def depthAfterChar (inTag : Bool) (depth : Nat) (c : Char) : Option Nat :=
  if c = '[' then some (depth + 1)
  else if c = ']' then (if depth = 0 then none else some (depth - 1))
  else if c = '#' ∧ inTag ∧ depth = 0 then none
  else some depth

/-- The number of brackets that are open after a piece of the body of a tag or action.  There is
none either if the piece ends in a backslash that guards nothing. -/
def depthAfter (inTag : Bool) : (depth : Nat) → Text → Option Nat
  | depth, [] => some depth
  | depth, c :: rest =>
    if c = '\\' then
      match rest with
      | [] => none
      | _ :: rest => depthAfter inTag depth rest
    else (depthAfterChar inTag depth c).bind fun depth => depthAfter inTag depth rest

/-- The text is the whole body of a tag or action: every bracket in it is closed. -/
def IsBody (inTag : Bool) (body : Text) : Prop := depthAfter inTag 0 body = some 0

instance (inTag : Bool) (body : Text) : Decidable (IsBody inTag body) :=
  inferInstanceAs (Decidable (depthAfter inTag 0 body = some 0))

variable {inTag : Bool} {depth depth' : Nat}

theorem depthAfter_cons {c : Char} (hc : c ≠ '\\') (rest : Text) :
    depthAfter inTag depth (c :: rest)
      = (depthAfterChar inTag depth c).bind fun depth => depthAfter inTag depth rest := by
  rw [depthAfter.eq_def]
  exact if_neg hc

/-- The reader is inside a tag or action, at the given depth of brackets. -/
def Mode.inBody : (inTag : Bool) → (depth : Nat) → Mode
  | true, depth => .tag depth
  | false, depth => .action depth

/-- Inside a tag or action, a backslash is collected together with the character that it guards. -/
theorem read_inBody_escape (c : Char) (collected rest : Text) :
    read (.inBody inTag depth) collected ('\\' :: c :: rest)
      = read (.inBody inTag depth) (c :: '\\' :: collected) rest := by
  cases inTag <;> simp only [Mode.inBody, read]

/-- Inside a tag or action, a character that no backslash guards is collected. -/
theorem read_inBody_cons {c : Char} (hc : c ≠ '\\')
    (h : depthAfterChar inTag depth c = some depth') (collected rest : Text) :
    read (.inBody inTag depth) collected (c :: rest)
      = read (.inBody inTag depth') (c :: collected) rest := by
  unfold depthAfterChar at h
  split_ifs at h with hopen hclose hdepth hhash
  · obtain rfl := Option.some.inj h
    subst hopen
    cases inTag <;> simp only [Mode.inBody, read]
  · obtain ⟨inner, rfl⟩ := Nat.exists_eq_succ_of_ne_zero hdepth
    obtain rfl := Option.some.inj h
    subst hclose
    cases inTag <;> simp only [Mode.inBody, read, Nat.succ_sub_one]
  · obtain rfl := Option.some.inj h
    cases inTag with
    | true =>
      have hend : depth = 0 → c ≠ '#' := fun hdepth hc => hhash ⟨hc, rfl, hdepth⟩
      rw [Mode.inBody, read] <;> simp_all
    | false => rw [Mode.inBody, read] <;> simp_all

/-- **Inside a tag or action**, the reader collects a piece of the body and is then at the depth
that the piece leads to. -/
theorem read_piece {piece : Text} (h : depthAfter inTag depth piece = some depth')
    (collected rest : Text) :
    read (.inBody inTag depth) collected (piece ++ rest)
      = read (.inBody inTag depth') (piece.reverse ++ collected) rest := by
  fun_induction depthAfter inTag depth piece generalizing collected
  case case1 => rw [Option.some.inj h]; rfl
  case case2 => cases h
  case case3 depth c piece ih =>
    rw [List.cons_append, List.cons_append, read_inBody_escape, ih h]
    simp
  case case4 depth c piece hc ih =>
    obtain ⟨next, hnext, h⟩ := Option.bind_eq_some_iff.mp h
    rw [List.cons_append, read_inBody_cons hc hnext, ih next h]
    simp

/-- A tag is read as it was printed. -/
theorem read_print_tag {body : Text} (h : IsBody true body) (collected rest : Text) :
    read .text collected (print (.tag body) ++ rest)
      = ((read .text [] rest).map (.tag body :: ·)).map (consText collected) := by
  have hbody := read_piece h [] ('#' :: rest)
  simp only [Mode.inBody, List.append_nil] at hbody
  simp only [print, List.cons_append, List.append_assoc, List.nil_append]
  rw [read, hbody, read, List.reverse_reverse]

/-- An action is read as it was printed. -/
theorem read_print_action {body : Text} (h : IsBody false body) (collected rest : Text) :
    read .text collected (print (.action body) ++ rest)
      = ((read .text [] rest).map (.action body :: ·)).map (consText collected) := by
  have hbody := read_piece h [] (']' :: rest)
  simp only [Mode.inBody, List.append_nil] at hbody
  simp only [print, List.cons_append, List.append_assoc, List.nil_append]
  rw [read, hbody, read, List.reverse_reverse]

/-- The character that ends a tag or action. -/
def closer : (inTag : Bool) → Char
  | true => '#'
  | false => ']'

/-- The tag or action with the given body. -/
def ofBody : (inTag : Bool) → (body : Text) → Section
  | true, body => .tag body
  | false, body => .action body

/-- Whether the section is literal text. -/
def isText : Section → Bool
  | .text _ => true
  | .tag _ => false
  | .action _ => false

theorem isText_ofBody (body : Text) : (ofBody inTag body).isText = false := by
  cases inTag <;> rfl

/-- Where a character leads to no depth, the tag or action ends or nothing is read at all. -/
theorem read_inBody_of_none {c : Char} {collected rest : Text} {sections : List Section}
    (h : depthAfterChar inTag depth c = none)
    (hread : read (.inBody inTag depth) collected (c :: rest) = .ok sections) :
    depth = 0 ∧ c = closer inTag ∧
      ∃ inner, read .text [] rest = .ok inner ∧
        ofBody inTag collected.reverse :: inner = sections := by
  unfold depthAfterChar at h
  split_ifs at h with hopen hclose hdepth hhash
  · subst hclose hdepth
    cases inTag with
    | true => cases hread
    | false => exact ⟨rfl, rfl, exists_of_map_eq_ok hread⟩
  · obtain ⟨rfl, htag, rfl⟩ := hhash
    subst htag
    exact ⟨rfl, rfl, exists_of_map_eq_ok hread⟩

/-- **Inside a tag or action**, a text that can be read begins with the rest of the body and the
character that ends it. -/
theorem exists_body_of_read {collected t : Text} {sections : List Section}
    (h : read (.inBody inTag depth) collected t = .ok sections) :
    ∃ body rest inner, t = body ++ closer inTag :: rest ∧ depthAfter inTag depth body = some 0 ∧
      read .text [] rest = .ok inner ∧
      sections = ofBody inTag (collected.reverse ++ body) :: inner := by
  fun_induction depthAfter inTag depth t generalizing collected
  case case1 => cases inTag <;> cases h
  case case2 => cases inTag <;> cases h
  case case3 depth c rest ih =>
    rw [read_inBody_escape] at h
    obtain ⟨body, after, inner, rfl, hbody, hinner, rfl⟩ := ih h
    exact ⟨'\\' :: c :: body, after, inner, rfl, hbody, hinner, by simp⟩
  case case4 depth c rest hc ih =>
    cases hchar : depthAfterChar inTag depth c with
    | none =>
      obtain ⟨rfl, rfl, inner, hinner, rfl⟩ := read_inBody_of_none hchar h
      exact ⟨[], rest, inner, rfl, rfl, hinner, by rw [List.append_nil]⟩
    | some next =>
      rw [read_inBody_cons hc hchar] at h
      obtain ⟨body, after, inner, rfl, hbody, hinner, rfl⟩ := ih next h
      refine ⟨c :: body, after, inner, rfl, ?_, hinner, by simp⟩
      rw [depthAfter_cons hc, hchar]
      exact hbody

/-! ### Text in front of sections -/

/-- The sections with text in front of them, which is one text with the first section if that is
text as well. -/
def prependText (t : Text) : List Section → List Section
  | .text u :: sections => .text (t ++ u) :: sections
  | sections => if t = [] then sections else .text t :: sections

/-- Text in front of sections that do not begin with text. -/
theorem prependText_of_isText (t : Text) {sections : List Section}
    (h : ∀ next ∈ sections.head?, next.isText = false) :
    prependText t sections = if t = [] then sections else .text t :: sections := by
  rw [prependText]
  rintro u rest rfl
  cases h (.text u) rfl

theorem prependText_nil (sections : List Section) : prependText [] sections = sections := by
  unfold prependText
  split <;> simp

theorem prependText_append (t u : Text) (sections : List Section) :
    prependText (t ++ u) sections = prependText t (prependText u sections) := by
  by_cases hu : u = []
  · rw [hu, List.append_nil, prependText_nil]
  · unfold prependText
    split
    · rw [List.append_assoc]
    · simp [hu]

theorem consText_eq_prependText (collected : Text) {sections : List Section}
    (h : ∀ next ∈ sections.head?, next.isText = false) :
    consText collected sections = prependText collected.reverse sections := by
  rw [prependText_of_isText _ h, consText]
  simp only [List.isEmpty_iff, List.reverse_eq_nil_iff]

/-! ### Rules and their sections -/

/-- The rule has the given sections. -/
inductive Reads : Text → List Section → Prop
  /-- The empty rule has no sections. -/
  | nil : Reads [] []
  /-- A backslash at the very end stands for itself. -/
  | backslash : Reads ['\\'] [.text ['\\']]
  /-- A backslash makes a special character literal, and stands for itself before others. -/
  | escape {rest : Text} {sections : List Section} (c : Char) (h : Reads rest sections) :
    Reads ('\\' :: c :: rest) (prependText (if isSpecial c then [c] else ['\\', c]) sections)
  /-- A character that is not special is literal text. -/
  | plain {c : Char} {rest : Text} {sections : List Section} (hc : isSpecial c = false)
    (h : Reads rest sections) : Reads (c :: rest) (prependText [c] sections)
  /-- The body of a tag or action stands between its delimiters. -/
  | body {inTag : Bool} {body rest : Text} {sections : List Section} (hbody : IsBody inTag body)
    (h : Reads rest sections) :
    Reads (print (ofBody inTag body) ++ rest) (ofBody inTag body :: sections)

/-- A tag or action is read as it was printed. -/
theorem read_print_ofBody {inTag : Bool} {body : Text} (h : IsBody inTag body)
    (collected rest : Text) :
    read .text collected (print (ofBody inTag body) ++ rest)
      = ((read .text [] rest).map (ofBody inTag body :: ·)).map (consText collected) := by
  cases inTag with
  | true => exact read_print_tag h collected rest
  | false => exact read_print_action h collected rest

/-- The sections of a rule are read, behind the text that was collected before. -/
theorem Reads.read {t : Text} {sections : List Section} (h : Reads t sections)
    (collected : Text) :
    Section.read .text collected t = .ok (prependText collected.reverse sections) := by
  induction h generalizing collected with
  | nil =>
    rw [Section.read, consText_eq_prependText _ (by simp)]
  | backslash =>
    rw [Section.read, consText_eq_prependText _ (by simp), List.reverse_cons, prependText_append]
    rfl
  | escape c h ih =>
    rw [Section.read, ih, ← prependText_append]
    by_cases hc : isSpecial c <;> simp [hc]
  | plain hc h ih =>
    rw [read_text_plain hc, ih, ← prependText_append, List.reverse_cons]
  | body hbody h ih =>
    rw [read_print_ofBody hbody, ih, List.reverse_nil, prependText_nil]
    refine congrArg Except.ok (consText_eq_prependText _ ?_)
    simp [isText_ofBody]

/-- The character that begins a tag or action. -/
def opener : (inTag : Bool) → Char
  | true => '#'
  | false => '['

theorem print_ofBody (inTag : Bool) (body : Text) :
    print (ofBody inTag body) = opener inTag :: body ++ [closer inTag] := by
  cases inTag <;> rfl

/-- Behind the character that begins it, a text that can be read begins with the rest of a tag or
action. -/
theorem exists_print_ofBody {inTag : Bool} {rest : Text} {sections : List Section}
    (h : read (.inBody inTag 0) [] rest = .ok sections) :
    ∃ body after inner, opener inTag :: rest = print (ofBody inTag body) ++ after ∧
      IsBody inTag body ∧ read .text [] after = .ok inner ∧
      sections = ofBody inTag body :: inner := by
  obtain ⟨body, after, inner, rfl, hbody, hinner, rfl⟩ := exists_body_of_read h
  refine ⟨body, after, inner, ?_, hbody, hinner, rfl⟩
  rw [print_ofBody, List.append_assoc, List.cons_append, List.singleton_append]

/-- What can be read is a rule, whatever was collected before.  The induction is on the length of
the text: what follows a tag or action is shorter. -/
theorem exists_reads_of_read {collected t : Text} {sections : List Section}
    (h : read .text collected t = .ok sections) : ∃ inner, Reads t inner := by
  induction hlen : t.length using Nat.strong_induction_on generalizing t collected sections with
  | _ n ih =>
  have hbody : ∀ inTag {rest}, t = opener inTag :: rest →
      (read (.inBody inTag 0) [] rest).map (consText collected) = .ok sections →
        ∃ inner, Reads t inner := by
    intro inTag rest ht hread
    obtain ⟨inner, hinner, rfl⟩ := exists_of_map_eq_ok hread
    obtain ⟨body, after, inner, heq, hbody, hafter, rfl⟩ := exists_print_ofBody hinner
    have hshorter : after.length < n := by
      rw [← hlen, ht, heq, print_ofBody, List.length_append]
      simp
    obtain ⟨inner, hreads⟩ := ih after.length hshorter hafter rfl
    rw [ht, heq]
    exact ⟨_, .body hbody hreads⟩
  subst hlen
  cases t with
  | nil => exact ⟨[], .nil⟩
  | cons c rest =>
    by_cases hbackslash : c = '\\'
    · subst hbackslash
      cases rest with
      | nil => exact ⟨_, .backslash⟩
      | cons next rest =>
        rw [read] at h
        obtain ⟨inner, hreads⟩ := ih rest.length (by simp only [List.length_cons]; omega) h rfl
        exact ⟨_, .escape next hreads⟩
    by_cases hopen : c = '['
    · subst hopen
      rw [read] at h
      exact hbody false rfl h
    by_cases hclose : c = ']'
    · subst hclose
      cases h
    by_cases hhash : c = '#'
    · subst hhash
      rw [read] at h
      exact hbody true rfl h
    have hc : isSpecial c = false := by simp [isSpecial, hbackslash, hopen, hclose, hhash]
    rw [read_text_plain hc] at h
    obtain ⟨inner, hreads⟩ := ih rest.length (Nat.lt_succ_self _) h rfl
    exact ⟨_, .plain hc hreads⟩

/-- **The reader gives the sections of a rule** and succeeds on no other text. -/
theorem ofRule_eq_ok_iff {rule : Text} {sections : List Section} :
    ofRule rule = .ok sections ↔ Reads rule sections := by
  have hsound : ∀ {sections}, Reads rule sections → ofRule rule = .ok sections := by
    intro sections h
    have hread := h.read []
    rwa [List.reverse_nil, prependText_nil] at hread
  refine ⟨fun h => ?_, hsound⟩
  -- The reader gives one list of sections only, so it is the one that the relation gives.
  obtain ⟨inner, hreads⟩ := exists_reads_of_read h
  obtain rfl := Except.ok.inj (h.symm.trans (hsound hreads))
  exact hreads

end Section

end GrammarBots
