import Mathlib
import SchemaGo.Text.Cut

/-!
Where texts are cut. A separator is found at its first place, for which it must not stand in front
of that place, and must not begin in front of it and reach into it: no end of it is a beginning of
it.
-/

namespace SchemaGo.Text

variable {sep l r cs : List Char} {c : Char}

lemma after?_append (sep r : List Char) : after? sep (sep ++ r) = some r := by
  induction sep with
  | nil => rw [List.nil_append, after?]
  | cons s sep ih => rw [List.cons_append, after?, if_pos rfl, ih]

lemma after?_eq_none (h : ¬ sep <+: cs) : after? sep cs = none := by
  rcases hc : after? sep cs with _ | r
  · rfl
  · exact absurd (after?_eq_some hc ▸ List.prefix_append sep r) h

/-! ### The first place -/

/-- No end of the separator is a beginning of it, but the whole of it. -/
def Unbordered (sep : List Char) : Prop := ∀ t ∈ sep.tails, t ≠ [] → t <+: sep → t = sep

lemma unbordered_singleton (c : Char) : Unbordered [c] := by
  intro t ht hne hp
  exact hp.eq_of_length_le (List.length_pos_iff.mpr hne)

/-- A separator that begins in front of its place ends in front of it too. -/
lemma Unbordered.prefix_of_append (hs : Unbordered sep) (hne : l ≠ [])
    (h : sep <+: l ++ (sep ++ r)) : sep <+: l := by
  by_contra hn
  -- otherwise it is longer than `l`, and what is left of it is both an end and a beginning of it
  have hlen : ¬ sep.length ≤ l.length := fun hle =>
    hn (List.prefix_of_prefix_length_le h (List.prefix_append l _) hle)
  obtain ⟨t, ht⟩ := List.prefix_of_prefix_length_le (List.prefix_append l (sep ++ r)) h (by omega)
  have hpre : t <+: sep := by
    have hr : t <+: sep ++ r := (List.prefix_append_right_inj l).mp (ht.symm ▸ h)
    refine List.prefix_of_prefix_length_le hr (List.prefix_append sep r) ?_
    rw [← ht, List.length_append]
    omega
  have hnil : t ≠ [] := by
    rintro rfl
    rw [List.append_nil] at ht
    exact hlen (ht ▸ le_refl _)
  have htail := hs t ((List.mem_tails t sep).mpr ⟨l, ht⟩) hnil hpre
  exact hne (List.append_left_eq_self.mp (htail ▸ ht))

lemma cut?_self (sep r : List Char) : cut? sep (sep ++ r) = some ([], r) := by
  rcases hc : sep ++ r with _ | ⟨c, cs⟩
  · obtain ⟨rfl, rfl⟩ := List.append_eq_nil_iff.mp hc
    rfl
  · have ha := after?_append sep r
    rw [hc] at ha
    rw [cut?, ha]

/-- **A text is cut at the first place of its separator.** -/
theorem cut?_append (hs : Unbordered sep) (h : ¬ sep <:+: l) (r : List Char) :
    cut? sep (l ++ (sep ++ r)) = some (l, r) := by
  induction l with
  | nil => exact cut?_self sep r
  | cons c l ih =>
    have hfirst : after? sep (c :: (l ++ (sep ++ r))) = none :=
      after?_eq_none fun hp =>
        h (hs.prefix_of_append (List.cons_ne_nil c l) hp).isInfix
    rw [List.cons_append, cut?, hfirst, ih fun hi => h (List.infix_cons hi)]
    rfl

lemma cut?_singleton (h : c ∉ l) (r : List Char) : cut? [c] (l ++ c :: r) = some (l, r) :=
  cut?_append (unbordered_singleton c) (fun hi => h (hi.mem (List.mem_singleton_self c))) r

/-! ### The last place -/

/-- The text behind the last place of a character, or all of it. -/
def afterLast (c : Char) (cs : List Char) : List Char :=
  (cs.reverse.takeWhile (· != c)).reverse

lemma cutLast?_append (h : c ∉ r) (l : List Char) : cutLast? c (l ++ c :: r) = some (l, r) := by
  induction l with
  | nil => rw [List.nil_append, cutLast?, cutLast?_eq_none.mpr h, if_pos rfl]
  | cons d l ih => rw [List.cons_append, cutLast?, ih]

lemma afterLast_of_notMem (h : c ∉ cs) : afterLast c cs = cs := by
  have hall : ∀ d ∈ cs.reverse, (d != c) = true := fun d hd =>
    bne_iff_ne.mpr (ne_of_mem_of_not_mem (List.mem_reverse.mp hd) h)
  rw [afterLast, List.takeWhile_eq_self_iff.mpr hall, List.reverse_reverse]

lemma afterLast_append (h : c ∉ r) (l : List Char) : afterLast c (l ++ c :: r) = r := by
  have hall : ∀ d ∈ r.reverse, (d != c) = true := fun d hd =>
    bne_iff_ne.mpr (ne_of_mem_of_not_mem (List.mem_reverse.mp hd) h)
  rw [afterLast, List.reverse_append, List.reverse_cons, List.append_assoc,
    List.takeWhile_append_of_pos hall]
  simp

/-- Behind a character, the last part of a text is that part of the text alone. -/
lemma cutLast?_cons (c : Char) (l cs : List Char) :
    ∃ m, cutLast? c (l ++ c :: cs) = some (l ++ m, afterLast c cs) := by
  rcases hc : cutLast? c cs with _ | ⟨m, r⟩
  · have hn := cutLast?_eq_none.mp hc
    exact ⟨[], by rw [afterLast_of_notMem hn, List.append_nil, cutLast?_append hn]⟩
  · obtain ⟨rfl, hn⟩ := cutLast?_eq_some hc
    refine ⟨c :: m, ?_⟩
    rw [afterLast_append hn, ← List.cons_append, ← List.append_assoc, cutLast?_append hn]

end SchemaGo.Text
