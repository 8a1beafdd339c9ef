import GrammarBots.Media.Cap
import Mathlib.Data.List.Induction

/-!
# Which media of a post stay

The handles are put in reverse order, and then the last of them is evicted again and again, as long
as there are more than the limit.  `capMedia_exact` says that this ends, and in nothing but what
`capMedia` gives, which handles are kept and evicted and in which order, and that a second limit on
what was kept does what the smaller of the two limits does at once.

Two facts carry the proof.  A round moves one handle from the end of those kept to the end of those
evicted, so the evicted handles followed by the kept ones in reverse are always the same list
(`evicted_append_evictLast`).  And the rounds stop at the first length within the limit
(`EvictsTo.length_kept`).  The list and the length leave no choice (`eq_of_length`).
-/

namespace GrammarBots

namespace CappedMedia

variable {s t : CappedMedia} {max : Nat}

/-! ### Rounds of eviction -/

/-- Evicts the last of the handles that are kept.  If there is none, nothing changes. -/
def evictLast (s : CappedMedia) : CappedMedia :=
  match s.kept.getLast? with
  | none => s
  | some handle => ⟨s.kept.dropLast, s.evicted ++ [handle]⟩

/-- Evicting the last handle again and again, as long as more than `max` are kept, comes to an end,
and in the given state. -/
inductive EvictsTo (max : Nat) : CappedMedia → CappedMedia → Prop
  /-- There are no more handles than allowed. -/
  | done {s : CappedMedia} (hle : s.kept.length ≤ max) : EvictsTo max s s
  /-- There are more, and another round is made. -/
  | round {s t : CappedMedia} (hlt : max < s.kept.length) (rest : EvictsTo max s.evictLast t) :
    EvictsTo max s t

theorem evictLast_concat (kept evicted : List Handle) (handle : Handle) :
    evictLast ⟨kept ++ [handle], evicted⟩ = ⟨kept, evicted ++ [handle]⟩ := by
  simp [evictLast]

/-- **A round loses no handle** and keeps their order. -/
theorem evicted_append_evictLast (s : CappedMedia) :
    s.evictLast.evicted ++ s.evictLast.kept.reverse = s.evicted ++ s.kept.reverse := by
  obtain ⟨kept, evicted⟩ := s
  cases kept using List.reverseRecOn with
  | nil => rfl
  | append_singleton kept handle => simp [evictLast_concat]

/-- Where a handle is kept, a round leaves one less. -/
theorem length_kept_evictLast (s : CappedMedia) :
    s.evictLast.kept.length = s.kept.length - 1 := by
  obtain ⟨kept, evicted⟩ := s
  cases kept using List.reverseRecOn with
  | nil => rfl
  | append_singleton kept handle => simp [evictLast_concat]

theorem EvictsTo.evicted_append (h : EvictsTo max s t) :
    t.evicted ++ t.kept.reverse = s.evicted ++ s.kept.reverse := by
  induction h with
  | done => rfl
  | round hlt rest ih => rw [ih, evicted_append_evictLast]

/-- The rounds stop as soon as there are no more handles than allowed. -/
theorem EvictsTo.length_kept (h : EvictsTo max s t) : t.kept.length = min max s.kept.length := by
  induction h with
  | done hle => rw [Nat.min_eq_right hle]
  | round hlt rest ih =>
    rw [ih, length_kept_evictLast]
    omega

/-- The rounds come to an end.  More than `max` handles are more than none, so each round finds a
handle to evict. -/
theorem exists_evictsTo (max : Nat) (s : CappedMedia) : ∃ t, EvictsTo max s t := by
  induction hlen : s.kept.length generalizing s with
  | zero => exact ⟨s, .done (by omega)⟩
  | succ n ih =>
    by_cases hle : s.kept.length ≤ max
    · exact ⟨s, .done hle⟩
    · have hround : s.evictLast.kept.length = n := by
        rw [length_kept_evictLast, hlen, Nat.succ_sub_one]
      obtain ⟨t, ht⟩ := ih s.evictLast hround
      exact ⟨t, .round (Nat.lt_of_not_le hle) ht⟩

/-! ### What the limit keeps -/

/-- The number of handles kept says where the handles are cut. -/
theorem eq_of_length {handles : List Handle} {n : Nat} (hn : s.kept.length = n)
    (happend : s.evicted ++ s.kept.reverse = handles) :
    s = ⟨(handles.drop (handles.length - n)).reverse, handles.take (handles.length - n)⟩ := by
  obtain ⟨kept, evicted⟩ := s
  subst hn happend
  have hcut : (evicted ++ kept.reverse).length - kept.length = evicted.length := by simp
  rw [hcut, List.drop_left, List.take_left, List.reverse_reverse]

end CappedMedia

open CappedMedia

theorem length_kept_capMedia (handles : List Handle) (max : Nat) :
    (capMedia handles max).kept.length = min max handles.length := by
  rw [capMedia, List.length_take, List.length_reverse]

theorem evicted_append_capMedia (handles : List Handle) (max : Nat) :
    (capMedia handles max).evicted ++ (capMedia handles max).kept.reverse = handles := by
  rw [capMedia, ← List.reverse_append, List.take_append_drop, List.reverse_reverse]

/-- **The limit is applied by rounds of eviction.** -/
theorem evictsTo_capMedia (handles : List Handle) (max : Nat) (t : CappedMedia) :
    EvictsTo max ⟨handles.reverse, []⟩ t ↔ t = capMedia handles max := by
  have hunique : ∀ t, EvictsTo max ⟨handles.reverse, []⟩ t → t = capMedia handles max := by
    intro t ht
    have happend : t.evicted ++ t.kept.reverse = handles := by
      rw [ht.evicted_append, List.nil_append, List.reverse_reverse]
    have hlength : t.kept.length = min max handles.length := by
      rw [ht.length_kept, List.length_reverse]
    rw [eq_of_length hlength happend,
      ← eq_of_length (length_kept_capMedia handles max) (evicted_append_capMedia handles max)]
  refine ⟨hunique t, ?_⟩
  rintro rfl
  obtain ⟨t, ht⟩ := exists_evictsTo max ⟨handles.reverse, []⟩
  exact hunique t ht ▸ ht

/-- **The limit on the media of a post**, for any handles and any limit.  Evicting handles ends, and
only in what is given here.  As many handles are kept as there are within the limit; the evicted
ones, followed by the kept ones in reverse, are the handles that there were.  So the last ones are
kept, latest first, and the others are evicted as they stand.  To limit what was kept once more is
to apply the smaller limit. -/
theorem capMedia_exact (handles : List Handle) (max : Nat) :
    (∀ t, EvictsTo max ⟨handles.reverse, []⟩ t ↔ t = capMedia handles max) ∧
      (capMedia handles max).kept.length = min max handles.length ∧
      (capMedia handles max).evicted ++ (capMedia handles max).kept.reverse = handles ∧
      (capMedia handles max).kept
        = (handles.drop (handles.length - min max handles.length)).reverse ∧
      (capMedia handles max).evicted
        = handles.take (handles.length - min max handles.length) ∧
      ∀ max', (capMedia (capMedia handles max).kept.reverse max').kept
        = (capMedia handles (min max max')).kept := by
  have hlength := length_kept_capMedia handles max
  have happend := evicted_append_capMedia handles max
  have hcut := eq_of_length hlength happend
  refine ⟨evictsTo_capMedia handles max, hlength, happend, congrArg kept hcut,
    congrArg evicted hcut, fun max' => ?_⟩
  simp only [capMedia]
  rw [List.reverse_reverse, List.take_take, Nat.min_comm]

example : capMedia ["h1", "h2", "h3", "h4", "h5", "h6"] 4
    = ⟨["h6", "h5", "h4", "h3"], ["h1", "h2"]⟩ := rfl

end GrammarBots
