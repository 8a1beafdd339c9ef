/-!
# Text as a list of characters

Grammar rules, directives and post texts are read character by character, so inside the library a
piece of text is a list of characters.  This file holds the measures and cuts that every reader
shares: the size in UTF-8 octets, cutting at a separator, trimming by a character class, and
replacing occurrences of a pattern.  Joining what `splitOn` cuts gives the text back
(`join_splitOn`), and every cut is strictly shorter where a reader needs that to terminate.
-/

namespace GrammarBots

/-- A piece of text, as its characters in order. -/
abbrev Text := List Char

namespace Text

/-- The text as a string. -/
def str (t : Text) : String := String.ofList t

/-- The size of a text in UTF-8 octets. -/
def utf8Size : Text → Nat
  | [] => 0
  | c :: rest => c.utf8Size + utf8Size rest

/-- The octets add up over a concatenation. -/
theorem utf8Size_append (s t : Text) : utf8Size (s ++ t) = utf8Size s + utf8Size t := by
  induction s with
  | nil => simp [utf8Size]
  | cons c rest ih => simp [utf8Size, ih, Nat.add_assoc]

/-! ### Cutting at a separator -/

/-- The text before and after the first `sep`, if there is one. -/
def splitOnce? (sep : Char) : Text → Option (Text × Text)
  | [] => none
  | c :: rest =>
    if c = sep then some ([], rest)
    else (splitOnce? sep rest).map fun (before, after) => (c :: before, after)

/-- A cut loses exactly the separator. -/
theorem eq_of_splitOnce? {sep : Char} {t before after : Text}
    (h : splitOnce? sep t = some (before, after)) : t = before ++ sep :: after := by
  induction t generalizing before with
  | nil => simp [splitOnce?] at h
  | cons c rest ih =>
    unfold splitOnce? at h
    split at h
    next hc => simp_all
    next =>
      obtain ⟨⟨b, a⟩, hb, heq⟩ := Option.map_eq_some_iff.1 h
      simp only [Prod.mk.injEq] at heq
      obtain ⟨rfl, rfl⟩ := heq
      simp [ih hb]

/-- The parts between the occurrences of `sep`; there is always at least one. -/
def splitOn (sep : Char) : Text → List Text
  | [] => [[]]
  | c :: rest =>
    if c = sep then [] :: splitOn sep rest
    else match splitOn sep rest with
      | [] => [[c]]
      | part :: parts => (c :: part) :: parts

/-- The parts with `sep` between them. -/
def join (sep : Text) : List Text → Text
  | [] => []
  | [part] => part
  | part :: parts => part ++ sep ++ join sep parts

theorem join_cons (sep part : Text) (parts : List Text) :
    join sep (part :: parts) = part ++ parts.flatMap (sep ++ ·) := by
  induction parts generalizing part with
  | nil => rw [join, List.flatMap_nil, List.append_nil]
  | cons next parts ih =>
    rw [join, ih, List.flatMap_cons, List.append_assoc, List.append_assoc]
    exact List.cons_ne_nil _ _

theorem splitOn_ne_nil (sep : Char) (t : Text) : splitOn sep t ≠ [] := by
  cases t with
  | nil => simp [splitOn]
  | cons c rest =>
    unfold splitOn
    split
    · simp
    · split <;> simp

theorem splitOn_of_notMem {sep : Char} {t : Text} (h : sep ∉ t) : splitOn sep t = [t] := by
  induction t with
  | nil => rfl
  | cons c t ih =>
    rw [List.mem_cons, not_or] at h
    rw [splitOn, if_neg (Ne.symm h.1), ih h.2]

/-- Joining the parts with the separator they were cut at gives the text back. -/
theorem join_splitOn (sep : Char) (t : Text) : join [sep] (splitOn sep t) = t := by
  induction t with
  | nil => rfl
  | cons c rest ih =>
    have hne := splitOn_ne_nil sep rest
    unfold splitOn
    cases hparts : splitOn sep rest with
    | nil => exact absurd hparts hne
    | cons part parts =>
      rw [hparts] at ih
      split
      next hc => subst hc; simp [join, ih]
      next =>
        cases parts with
        | nil => simp_all [join]
        | cons q qs => simp_all [join]

/-- The characters of several texts together, and one more for each text. -/
def sizes : List Text → Nat
  | [] => 0
  | t :: rest => t.length + 1 + sizes rest

/-! ### Trimming -/

/-- The text without the longest final run of characters in the class. -/
def dropTrailing (p : Char → Bool) (t : Text) : Text :=
  (t.reverse.dropWhile p).reverse

/-- The text without the runs of characters in the class at both ends. -/
def trimBoth (p : Char → Bool) (t : Text) : Text :=
  dropTrailing p (t.dropWhile p)

/-- Trimming never makes a text longer. -/
theorem length_trimBoth_le (p : Char → Bool) (t : Text) : (trimBoth p t).length ≤ t.length := by
  have h₁ := (@List.dropWhile_sublist _ t p).length_le
  have h₂ := (@List.dropWhile_sublist _ (t.dropWhile p).reverse p).length_le
  simp only [trimBoth, dropTrailing, List.length_reverse] at *
  omega

/-! ### Replacing -/

/-- The rest of the text after `pat`, if the text starts with it. -/
def afterPattern? : (pat t : Text) → Option Text
  | [], t => some t
  | _ :: _, [] => none
  | p :: pat, c :: t => if p = c then afterPattern? pat t else none

theorem length_le_of_afterPattern? {pat t rest : Text} (h : afterPattern? pat t = some rest) :
    rest.length + pat.length = t.length := by
  induction pat generalizing t with
  | nil => simp_all [afterPattern?]
  | cons p pat ih =>
    cases t with
    | nil => simp [afterPattern?] at h
    | cons c t =>
      unfold afterPattern? at h
      split at h
      · have := ih h
        simp only [List.length_cons]
        omega
      · simp at h

/-- Every occurrence of `pat`, taken from the left and without overlap, becomes `new`.  An empty
pattern occurs once before every character and once at the end. -/
def replaceAll (pat new : Text) : Text → Text
  | [] => if pat = [] then new else []
  | c :: rest =>
    if pat = [] then new ++ c :: replaceAll pat new rest
    else match _h : afterPattern? pat (c :: rest) with
      | some after => new ++ replaceAll pat new after
      | none => c :: replaceAll pat new rest
  termination_by t => t.length
  decreasing_by
    · simp
    · have hlen := length_le_of_afterPattern? _h
      have : pat.length ≠ 0 := by simpa using ‹¬ pat = []›
      simp only [List.length_cons] at hlen ⊢
      omega
    · simp

/-- Whether the text starts with `pat`. -/
def startsWith (pat t : Text) : Bool := (afterPattern? pat t).isSome

end Text

end GrammarBots
