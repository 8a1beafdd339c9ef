import GrammarBots.Text.Basic

/-!
# MIME types

A MIME type is two names with a slash between them, and parameters after semicolons.  Only what has
this form can be announced with an upload.  The second name may be missing where no parameters
follow, a parameter may be missing after a semicolon, and the last value may be empty.
-/

namespace GrammarBots.MimeType

/-- Whether a character may stand in a name. -/
def isNameChar (c : Char) : Bool := c.isAlphanum || "!#$%&'*+-.^_\x60|~".toList.contains c

/-- Whether a character may stand between quotes. -/
def isQuotable (c : Char) : Bool := 0x20 ≤ c.toNat && c.toNat != 0x7F

/-- The name at the front of a text, which may be empty, and the text after it. -/
def cutName (t : Text) : Text × Text := (t.takeWhile isNameChar, t.dropWhile isNameChar)

/-- The text after a quoted value, read from behind its opening quote.  The value is not empty, so
its first character is never the closing quote. -/
def afterQuoted? : Text → Option Text
  | [] => none
  | c :: rest => do
    let (value, after) ← Text.splitOnce? '"' rest
    if (c :: value).all isQuotable then some after else none

theorem length_afterQuoted?_le {t rest : Text} (h : afterQuoted? t = some rest) :
    rest.length ≤ t.length := by
  cases t with
  | nil => simp [afterQuoted?] at h
  | cons c t =>
    obtain ⟨⟨value, after⟩, hcut, h⟩ := Option.bind_eq_some_iff.1 h
    have hlen := congrArg List.length (Text.eq_of_splitOnce? hcut)
    simp only [List.length_append, List.length_cons] at hlen ⊢
    grind

/-- The text after the value of a parameter; only the last value may be empty. -/
def afterValue? (t : Text) : Option Text :=
  match t with
  | '"' :: rest => (afterQuoted? rest).map (·.dropWhile (· == ' '))
  | _ =>
    match cutName t with
    | ([], _ :: _) => none
    | (_, rest) => some rest

theorem length_afterValue?_le {t rest : Text} (h : afterValue? t = some rest) :
    rest.length ≤ t.length := by
  unfold afterValue? at h
  split at h
  · next u =>
    obtain ⟨v, hv, rfl⟩ := Option.map_eq_some_iff.1 h
    have h₁ := (List.dropWhile_sublist (l := v) (· == ' ')).length_le
    have h₂ := length_afterQuoted?_le hv
    simp only [List.length_cons]
    omega
  · have h₁ := (List.dropWhile_sublist (l := t) isNameChar).length_le
    simp only [cutName] at h
    split at h
    · cases h
    · next heq =>
      cases h
      rw [← (Prod.mk.inj heq).2]
      exact h₁

/-- Whether a text, read from behind a semicolon, is a sequence of parameters. -/
def areParameters (t : Text) : Bool :=
  match _h : t.dropWhile (· == ' ') with
  | [] => true
  | c :: more =>
    match _h₁ : cutName (c :: more) with
    | (_ :: _, '=' :: value) =>
      match _h₂ : afterValue? value with
      | some [] => true
      | some (';' :: rest) => areParameters rest
      | _ => false
    | _ => false
  termination_by t.length
  decreasing_by
    have h₁ := (List.dropWhile_sublist (l := t) (· == ' ')).length_le
    have h₂ := (List.dropWhile_sublist (l := c :: more) isNameChar).length_le
    have h₃ := length_afterValue?_le _h₂
    have h₄ := congrArg List.length (Prod.mk.inj _h₁).2
    rw [_h] at h₁
    simp only [List.length_cons] at h₁ h₂ h₃ h₄
    omega

/-- Whether a text is a MIME type. -/
def isValid (t : Text) : Bool :=
  match cutName t with
  | (_ :: _, '/' :: rest) =>
    match cutName rest with
    | (_, []) => true
    | (_ :: _, ';' :: parameters) => areParameters parameters
    | _ => false
  | _ => false

end GrammarBots.MimeType
