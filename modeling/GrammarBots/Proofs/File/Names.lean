import GrammarBots.Bot.Store
import Mathlib.Data.List.Basic
import Mathlib.Data.List.TakeWhile

/-!
# The names in a path

The paths that the library makes of a path are read off its last name: the path of the directory
above it and the path with another extension.  Here they are compared by the steps they take.  A
directory above a path takes a beginning of its steps (`Path.Above.isPrefix_steps`).  The path at
which a new store is written takes the same steps as the path of the store but for the last
(`BotStore.exists_beside_temporaryPath`).

The last step is another one: an extension that is added makes the name longer, and one that is
replaced would have to end with itself for the name to stay.  Where nothing but two dots is left of
the name, the step leads up.
-/

namespace GrammarBots

namespace Path

theorem toList_str (t : Text) : t.str.toList = t := String.toList_ofList

/-! ### Steps -/

/-- The steps in the text of a path. -/
def stepsOf (t : Text) : List Text := (Text.splitOn '/' t).filter (!·.isEmpty)

theorem splitOn_append (x y : Text) :
    Text.splitOn '/' (x ++ '/' :: y) = Text.splitOn '/' x ++ Text.splitOn '/' y := by
  induction x with
  | nil => rfl
  | cons c x ih =>
    rw [List.cons_append, Text.splitOn, Text.splitOn, ih]
    split_ifs with hc
    · rfl
    · cases hparts : Text.splitOn '/' x with
      | nil => exact absurd hparts (Text.splitOn_ne_nil '/' x)
      | cons part parts => rfl

theorem stepsOf_append (x y : Text) : stepsOf (x ++ '/' :: y) = stepsOf x ++ stepsOf y := by
  rw [stepsOf, splitOn_append, List.filter_append]
  rfl

theorem stepsOf_nil : stepsOf [] = [] := rfl

theorem stepsOf_name {name : Text} (hne : name ≠ []) (h : '/' ∉ name) :
    stepsOf name = [name] := by
  rw [stepsOf, Text.splitOn_of_notMem h]
  simp [hne]

theorem notMem_of_mem_splitOn {part t : Text} (h : part ∈ Text.splitOn '/' t) : '/' ∉ part := by
  induction t generalizing part with
  | nil =>
    rw [List.mem_singleton.mp h]
    exact List.not_mem_nil
  | cons c t ih =>
    rw [Text.splitOn] at h
    split_ifs at h with hc
    · rcases List.mem_cons.mp h with rfl | h
      · exact List.not_mem_nil
      · exact ih h
    · cases hparts : Text.splitOn '/' t with
      | nil => exact absurd hparts (Text.splitOn_ne_nil '/' t)
      | cons first parts =>
        rw [hparts] at h ih
        rcases List.mem_cons.mp h with rfl | h
        · rw [List.mem_cons, not_or]
          exact ⟨Ne.symm hc, ih List.mem_cons_self⟩
        · exact ih (List.mem_cons_of_mem first h)

/-- A step is not empty and has no slash in it. -/
theorem proper_of_mem_stepsOf {step t : Text} (h : step ∈ stepsOf t) : step ≠ [] ∧ '/' ∉ step := by
  obtain ⟨hmem, hne⟩ := List.mem_filter.mp h
  exact ⟨by simpa using hne, notMem_of_mem_splitOn hmem⟩

/-! ### Beginnings of a path -/

/-- The first text is a beginning of the second that ends where a name does. -/
def Heads (q p : Text) : Prop :=
  ∃ rest, p = q ++ rest ∧
    (q = [] ∨ q.getLast? = some '/' ∨ rest = [] ∨ rest.head? = some '/')

theorem Heads.refl (p : Text) : Heads p p :=
  ⟨[], (List.append_nil p).symm, Or.inr (Or.inr (Or.inl rfl))⟩

theorem Heads.trans {r q p : Text} (hrq : Heads r q) (hqp : Heads q p) : Heads r p := by
  obtain ⟨rest, rfl, hr⟩ := hrq
  obtain ⟨rest', rfl, hq⟩ := hqp
  refine ⟨rest ++ rest', List.append_assoc .., ?_⟩
  cases rest with
  | nil => rwa [List.append_nil] at hq
  | cons c rest =>
    rcases hr with hr | hr | hr | hr
    · exact Or.inl hr
    · exact Or.inr (Or.inl hr)
    · cases hr
    · exact Or.inr (Or.inr (Or.inr hr))

theorem heads_dropEnd (rev : Text) : Heads (dropEnd rev).reverse rev.reverse := by
  fun_induction dropEnd rev
  case case1 c rest ih =>
    rw [List.reverse_cons]
    exact ih.trans ⟨['/'], rfl, Or.inr (Or.inr (Or.inr rfl))⟩
  case case2 c rest ih =>
    rw [List.reverse_cons, List.reverse_cons, List.append_assoc]
    exact ih.trans ⟨['/', '.'], rfl, Or.inr (Or.inr (Or.inr rfl))⟩
  case case3 => exact ⟨['.'], rfl, Or.inr (Or.inl rfl)⟩
  case case4 rev _ _ _ => exact Heads.refl _

/-! ### The last name -/

/-- A reversed text is cut behind its last name at a slash or at its front. -/
theorem cut_at_slash (rev : Text) : '/' ∉ rev.takeWhile (· != '/') ∧
    (rev.dropWhile (· != '/') = [] ∨ (rev.dropWhile (· != '/')).head? = some '/') := by
  constructor
  · intro hmem
    cases List.all_eq_true.mp List.all_takeWhile '/' hmem
  · have hhead := List.head?_dropWhile_not (· != '/') rev
    cases hrest : rev.dropWhile (· != '/') with
    | nil => exact Or.inl rfl
    | cons d rest =>
      rw [hrest] at hhead
      have hd : d = '/' := by simpa using hhead
      exact Or.inr (congrArg some hd)

theorem cutName?_def (path : Path) : cutName? path
    = match (dropEnd path.toList.reverse).takeWhile (· != '/') with
      | [] => none
      | name => some (name, (dropEnd path.toList.reverse).drop name.length) := rfl

/-- The last name of a path and what stands before it. -/
theorem cutName?_eq_some_iff {path : Path} {name before : Text} :
    cutName? path = some (name, before) ↔ dropEnd path.toList.reverse = name ++ before ∧
      name ≠ [] ∧ '/' ∉ name ∧ (before = [] ∨ before.head? = some '/') := by
  rw [cutName?_def]
  generalize dropEnd path.toList.reverse = rev
  constructor
  · intro h
    cases htake : rev.takeWhile (· != '/') with
    | nil => rw [htake] at h; cases h
    | cons c name' =>
      rw [htake] at h
      obtain ⟨rfl, rfl⟩ := Prod.mk.inj (Option.some.inj h)
      have hsplit : rev = (c :: name') ++ rev.dropWhile (· != '/') := by
        rw [← htake, List.takeWhile_append_dropWhile]
      have hdrop : rev.drop (c :: name').length = rev.dropWhile (· != '/') := by
        conv => lhs; rw [hsplit]
        exact List.drop_left
      obtain ⟨hslash, hbefore⟩ := cut_at_slash rev
      exact ⟨hdrop ▸ hsplit, List.cons_ne_nil c name', htake ▸ hslash, hdrop ▸ hbefore⟩
  · rintro ⟨rfl, hne, hslash, hbefore⟩
    have htake : (name ++ before).takeWhile (· != '/') = name := by
      have hname : ∀ c ∈ name, (c != '/') = true := by
        intro c hc
        rw [bne_iff_ne]
        rintro rfl
        exact hslash hc
      rw [List.takeWhile_append_of_pos hname]
      rcases hbefore with rfl | hbefore
      · exact List.append_nil name
      · obtain ⟨rest, rfl⟩ := List.head?_eq_some_iff.mp hbefore
        exact List.append_nil name
    rw [htake]
    cases name with
    | nil => exact absurd rfl hne
    | cons c name => exact congrArg (fun before => some (c :: name, before)) List.drop_left

/-- What stands before the last name of a path is a beginning of the path. -/
theorem heads_of_cutName? {path : Path} {name before : Text}
    (h : cutName? path = some (name, before)) : Heads before.reverse path.toList := by
  obtain ⟨hrev, -, -, hbefore⟩ := cutName?_eq_some_iff.mp h
  have hpath := heads_dropEnd path.toList.reverse
  rw [List.reverse_reverse, hrev, List.reverse_append] at hpath
  refine Heads.trans ⟨name.reverse, rfl, ?_⟩ hpath
  rcases hbefore with rfl | hbefore
  · exact Or.inl rfl
  · exact Or.inr (Or.inl (by rw [List.getLast?_reverse, hbefore]))

/-- A text without slashes at its end has its last name as its last step. -/
theorem stepsOf_append_name {name before : Text} (hne : name ≠ []) (hslash : '/' ∉ name)
    (hbefore : before = [] ∨ before.head? = some '/') :
    stepsOf (before.reverse ++ name) = stepsOf before.reverse ++ [name] := by
  rcases hbefore with rfl | hbefore
  · exact stepsOf_name hne hslash
  · obtain ⟨rest, rfl⟩ := List.head?_eq_some_iff.mp hbefore
    rw [List.reverse_cons, List.append_assoc, List.singleton_append, stepsOf_append, stepsOf_append,
      stepsOf_name hne hslash, stepsOf_nil, List.append_nil]

/-- A reversed path that begins with a name stays as it is, unless the name stands for its
directory. -/
theorem dropEnd_eq_self {c : Char} (hc : c ≠ '/') (rest : Text)
    (hdot : (c :: rest).takeWhile (· != '/') ≠ ['.']) : dropEnd (c :: rest) = c :: rest := by
  rw [dropEnd.eq_def]
  split
  next h => exact absurd (List.cons.inj h).1 hc
  next h =>
    obtain ⟨rfl, rfl⟩ := List.cons.inj h
    exact absurd rfl hdot
  next h =>
    obtain ⟨rfl, rfl⟩ := List.cons.inj h
    exact absurd rfl hdot
  next => rfl

/-- A reversed path whose last step is a name begins with it, once its end is dropped. -/
theorem exists_dropEnd {rev last : Text} (hlast : (stepsOf rev.reverse).getLast? = some last)
    (hdot : last ≠ ['.']) :
    ∃ before, dropEnd rev = last.reverse ++ before ∧ (before = [] ∨ before.head? = some '/') ∧
      stepsOf rev.reverse = stepsOf before.reverse ++ [last] := by
  induction rev with
  | nil => cases hlast
  | cons c rest ih =>
    by_cases hc : c = '/'
    · subst hc
      have hsteps : stepsOf ('/' :: rest).reverse = stepsOf rest.reverse := by
        rw [List.reverse_cons, stepsOf_append, stepsOf_nil, List.append_nil]
      rw [hsteps] at hlast ⊢
      cases rest with
      | nil => cases hlast
      | cons d rest =>
        rw [dropEnd]
        exact ih hlast
    · have hsplit : (c :: rest).takeWhile (· != '/') ++ (c :: rest).dropWhile (· != '/')
          = c :: rest := List.takeWhile_append_dropWhile
      have hdrop := dropEnd_eq_self hc rest
      obtain ⟨hslash, hbefore⟩ := cut_at_slash (c :: rest)
      have hnil : (c :: rest).takeWhile (· != '/') ≠ [] := by
        rw [List.takeWhile_cons_of_pos (by simpa using hc)]
        exact List.cons_ne_nil _ _
      generalize (c :: rest).takeWhile (· != '/') = name at hsplit hslash hnil hdrop
      generalize (c :: rest).dropWhile (· != '/') = before at hsplit hbefore
      have hsteps : stepsOf (c :: rest).reverse = stepsOf before.reverse ++ [name.reverse] := by
        rw [← stepsOf_append_name (by simpa using hnil) (fun h => hslash (List.mem_reverse.mp h))
          hbefore, ← List.reverse_append, hsplit]
      rw [hsteps, List.getLast?_concat] at hlast
      obtain rfl := Option.some.inj hlast
      refine ⟨before, ?_, hbefore, hsteps⟩
      rw [List.reverse_reverse, hsplit]
      refine hdrop fun h => hdot ?_
      rw [h]
      rfl

/-- The last name of a path that names a file is its last step. -/
theorem exists_cutName? {path : Path} {last : Text} (hlast : (steps path).getLast? = some last)
    (hdot : last ≠ ['.']) :
    ∃ before, cutName? path = some (last.reverse, before) ∧
      steps path = stepsOf before.reverse ++ [last] := by
  have hpath : path.toList.reverse.reverse = path.toList := List.reverse_reverse _
  have hreversed : (stepsOf path.toList.reverse.reverse).getLast? = some last := hpath.symm ▸ hlast
  obtain ⟨before, hrev, hbefore, hsteps⟩ := exists_dropEnd hreversed hdot
  rw [hpath] at hsteps
  obtain ⟨hne, hslash⟩ := proper_of_mem_stepsOf (List.mem_of_getLast? hlast)
  refine ⟨before, cutName?_eq_some_iff.mpr ⟨hrev, ?_, ?_, hbefore⟩, hsteps⟩
  · exact fun h => hne (List.reverse_eq_nil_iff.mp h)
  · exact fun h => hslash (List.mem_reverse.mp h)

/-! ### Directories above a path -/

/-- The paths that are met on the way up from a path. -/
inductive Above (path : Path) : Path → Prop where
  /-- The path itself. -/
  | here : Above path path
  /-- The path of the directory above. -/
  | up {p q : Path} (h : Above path p) (hq : parent? p = some q) : Above path q

theorem Above.trans {path p q : Path} (h : Above path p) (h' : Above p q) : Above path q := by
  induction h' with
  | here => exact h
  | up _ hq ih => exact ih.up hq

theorem heads_of_parent? {p q : Path} {name before : Text} (hcut : cutName? p = some (name, before))
    (h : parent? p = some q) : Heads q.toList before.reverse := by
  rw [parent?, hcut, Option.map_some, Option.some.injEq] at h
  rw [← h, toList_str]
  exact heads_dropEnd before

theorem Above.heads {path p : Path} (h : Above path p) : Heads p.toList path.toList := by
  induction h with
  | here => exact Heads.refl _
  | @up p q _ hq ih =>
    obtain ⟨⟨name, before⟩, hcut, -⟩ := Option.map_eq_some_iff.mp hq
    exact (heads_of_parent? hcut hq).trans ((heads_of_cutName? hcut).trans ih)

theorem isAbsolute_of_heads {q p : Path} (h : Heads q.toList p.toList) (hq : q.toList ≠ []) :
    isAbsolute q = isAbsolute p := by
  obtain ⟨rest, hp, -⟩ := h
  rw [isAbsolute, isAbsolute, hp, List.head?_append_of_ne_nil _ hq]

theorem Above.isAbsolute_eq {path p : Path} (h : Above path p) (hp : p.toList ≠ []) :
    isAbsolute p = isAbsolute path := isAbsolute_of_heads h.heads hp

/-- The first path ends with a name, and the second takes the same steps but for the last. -/
structure Beside (path temporary : Path) (last name : Text) : Prop where
  /-- The first path ends with a name. -/
  last_eq : (steps path).getLast? = some last
  /-- The name does not stand for its directory. -/
  ne_dot : last ≠ ['.']
  /-- The name does not stand for the directory above. -/
  ne_up : last ≠ ['.', '.']
  /-- The steps are the same but for the last. -/
  steps_eq : steps temporary = (steps path).dropLast ++ [name]
  /-- The last steps are different. -/
  ne : name ≠ last
  /-- Both paths begin at the same directory. -/
  isAbsolute_eq : isAbsolute temporary = isAbsolute path

/-- What two paths have before their last steps decides whether they begin at the root. -/
theorem head?_append_name {name : Text} (hnil : name ≠ []) (hslash : '/' ∉ name)
    (front rest : Text) : ((front ++ name ++ rest).head? == some '/') = (front.head? == some '/') := by
  cases front with
  | cons c front => rfl
  | nil =>
    cases name with
    | nil => exact absurd rfl hnil
    | cons c name =>
      have hc : c ≠ '/' := fun h => hslash (h ▸ List.mem_cons_self)
      simpa using hc

theorem isAbsolute_eq_of_toList {path temporary : Path} {last name before : Text}
    (hcut : cutName? path = some (last.reverse, before))
    (htemporary : temporary.toList = before.reverse ++ name)
    (hnil : name ≠ []) (hslash : '/' ∉ name) : isAbsolute temporary = isAbsolute path := by
  obtain ⟨hrev, hlastnil, hlastslash, -⟩ := cutName?_eq_some_iff.mp hcut
  obtain ⟨rest, hpath, -⟩ := heads_dropEnd path.toList.reverse
  rw [List.reverse_reverse, hrev, List.reverse_append, List.reverse_reverse] at hpath
  have hlast := head?_append_name (fun h => hlastnil (List.reverse_eq_nil_iff.mpr h))
    (fun h => hlastslash (List.mem_reverse.mpr h)) before.reverse rest
  have hname := head?_append_name hnil hslash before.reverse []
  rw [List.append_nil] at hname
  rw [isAbsolute, isAbsolute, htemporary, hpath, hname, hlast]

/-- A path that differs from a path in its last name is beside it. -/
theorem beside_of_toList {path temporary : Path} {last name before : Text}
    (hlast : (steps path).getLast? = some last) (hdot : last ≠ ['.']) (hup : last ≠ ['.', '.'])
    (hcut : cutName? path = some (last.reverse, before))
    (htemporary : temporary.toList = before.reverse ++ name) (hnil : name ≠ []) (hslash : '/' ∉ name)
    (hne : name ≠ last) : Beside path temporary last name := by
  refine ⟨hlast, hdot, hup, ?_, hne, isAbsolute_eq_of_toList hcut htemporary hnil hslash⟩
  obtain ⟨before', hcut', hsteps⟩ := exists_cutName? hlast hdot
  obtain rfl : before = before' := (Prod.mk.inj (Option.some.inj (hcut.symm.trans hcut'))).2
  obtain ⟨-, -, -, hbefore⟩ := cutName?_eq_some_iff.mp hcut
  show stepsOf temporary.toList = _
  rw [htemporary, stepsOf_append_name hnil hslash hbefore, hsteps, List.dropLast_concat]

/-- A path whose last name is cut down to a stem and extended is beside the path. -/
theorem beside_of_stem {path : Path} {last before stem : Text} {ext : String}
    (hlast : (steps path).getLast? = some last) (hdot : last ≠ ['.']) (hup : last ≠ ['.', '.'])
    (hcut : cutName? path = some (last.reverse, before)) (hstem : '/' ∉ stem)
    (hext : '/' ∉ ext.toList) (hne : stem.reverse ++ '.' :: ext.toList ≠ last) :
    Beside path (Text.str (stem ++ before).reverse ++ "." ++ ext) last
      (stem.reverse ++ '.' :: ext.toList) := by
  refine beside_of_toList hlast hdot hup hcut ?_ (by simp) ?_ hne
  · rw [String.toList_append, String.toList_append, toList_str, List.reverse_append,
      List.append_assoc, List.append_assoc]
    rfl
  · rw [List.mem_append, List.mem_reverse, List.mem_cons, not_or, not_or]
    exact ⟨hstem, by decide, hext⟩

end Path

namespace BotStore

open GrammarBots.Path

/-- A new store is written beside the old one: the paths differ in their last step, which is a
different name, or leads up if nothing but two dots is left of the name. -/
theorem exists_beside_temporaryPath {path : Path} {last : Text}
    (hlast : (steps path).getLast? = some last) (hdot : last ≠ ['.']) (hup : last ≠ ['.', '.']) :
    ∃ name, Beside path (temporaryPath path) last name := by
  obtain ⟨before, hcut, -⟩ := exists_cutName? hlast hdot
  obtain ⟨-, hslash⟩ := proper_of_mem_stepsOf (List.mem_of_getLast? hlast)
  have hext : '/' ∉ "toml.tmp".toList := by decide
  have hreverse {stem : Text} (h : stem.reverse ++ '.' :: "toml.tmp".toList = last) :
      last.reverse = "pmt.lmot.".toList ++ stem := by
    rw [← h, List.reverse_append, List.reverse_reverse]
    rfl
  have hnot : ¬ (last.reverse = ['.'] ∨ last.reverse = ['.', '.']) := by
    rw [List.reverse_eq_iff, List.reverse_eq_iff]
    exact not_or.mpr ⟨hdot, hup⟩
  rw [temporaryPath, withExtension, hcut]
  dsimp only
  generalize hafter : (last.reverse.dropWhile (· != '.')).drop 1 = afterDot
  rw [if_neg hnot]
  split_ifs with hdots hempty
  · -- only two dots are left
    refine ⟨['.', '.'], beside_of_toList hlast hdot hup hcut ?_ (by simp) (by decide) (Ne.symm hup)⟩
    rw [toList_str, List.reverse_append]
    rfl
  · -- the name has no extension
    refine ⟨_, beside_of_stem hlast hdot hup hcut (fun h => hslash (List.mem_reverse.mp h)) hext ?_⟩
    intro h
    have hsame := congrArg List.length (hreverse h)
    rw [List.length_append] at hsame
    exact absurd hsame (by simp)
  · -- what stands behind the first dot of the reversed name would stand behind the second
    refine ⟨_, beside_of_stem hlast hdot hup hcut ?_ hext ?_⟩
    · intro h
      rw [← hafter] at h
      exact hslash (List.mem_reverse.mp ((List.dropWhile_sublist _).subset (List.mem_of_mem_drop h)))
    · intro h
      rw [hreverse h] at hafter
      have hbehind : "lmot.".toList ++ afterDot = afterDot := hafter
      have hsame := congrArg List.length hbehind
      rw [List.length_append] at hsame
      exact absurd hsame (by simp)

end BotStore

end GrammarBots
