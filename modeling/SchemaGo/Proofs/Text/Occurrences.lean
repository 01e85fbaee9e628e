import Mathlib
import SchemaGo.Proofs.Text.Trim

/-!
How often a text stands in another one, counted as a search from the left does that goes on behind
what it has found. No choice of places that do not overlap has more of them, so what stands in the
parts of a text stands in the whole.
-/

namespace SchemaGo.Text

variable {t a b cs : List Char} {m n : ℕ}

/-- How often `t` stands in the characters behind the first `skip`. -/
def occurrencesFrom (t : List Char) : ℕ → List Char → ℕ
  | _, [] => 0
  | skip + 1, _ :: cs => occurrencesFrom t skip cs
  | 0, c :: cs =>
    if t.isPrefixOf (c :: cs) then occurrencesFrom t (t.length - 1) cs + 1
    else occurrencesFrom t 0 cs

/-- How often the text `t` stands in `s`. -/
def occurrences (t s : String) : ℕ := occurrencesFrom t.toList 0 s.toList

lemma occurrencesFrom_eq_drop (t : List Char) (skip : ℕ) (cs : List Char) :
    occurrencesFrom t skip cs = occurrencesFrom t 0 (cs.drop skip) := by
  induction cs generalizing skip with
  | nil => cases skip <;> rfl
  | cons c cs ih =>
    cases skip with
    | zero => rfl
    | succ skip => exact ih skip

/-- Places in `cs` at which `t` stands, `n` of them, that do not overlap. -/
inductive Packed (t : List Char) : List Char → ℕ → Prop
  | zero (cs : List Char) : Packed t cs 0
  | next {cs : List Char} {n : ℕ} (front : List Char) :
      Packed t cs n → Packed t (front ++ (t ++ cs)) (n + 1)

namespace Packed

lemma prepend (h : Packed t cs n) (front : List Char) : Packed t (front ++ cs) n := by
  cases h with
  | zero => exact .zero _
  | next front' h => simpa using h.next (front ++ front')

lemma append (ha : Packed t a m) (hb : Packed t b n) : Packed t (a ++ b) (m + n) := by
  induction ha with
  | zero cs => simpa using hb.prepend cs
  | next front _ ih => simpa [Nat.add_right_comm] using ih.next front

/-- A cut no longer than `t` runs into one place at most. -/
lemma drop (h : Packed t cs (n + 1)) {k : ℕ} (hk : k ≤ t.length) : Packed t (cs.drop k) n := by
  cases h with
  | @next cs _ front h =>
    have hle : k ≤ (front ++ t).length := by simp only [List.length_append]; omega
    rw [← List.append_assoc, List.drop_append_of_le_length hle]
    exact h.prepend _

lemma tail {c : Char} (h : Packed t (c :: cs) n) (hc : ¬ t <+: c :: cs) : Packed t cs n := by
  generalize hd : c :: cs = ds at h hc
  cases h with
  | zero => exact .zero _
  | @next cs' n front h =>
    rcases front with _ | ⟨d, front⟩
    · exact absurd ⟨cs', rfl⟩ hc
    · obtain ⟨-, rfl⟩ := List.cons_eq_cons.mp hd
      exact h.next front

lemma eq_zero_of_nil (ht : t ≠ []) (h : Packed t [] n) : n = 0 := by
  generalize hd : ([] : List Char) = ds at h
  cases h with
  | zero => rfl
  | next front h => simp [ht] at hd

/-- The search from the left finds as many as there are. -/
lemma le_occurrencesFrom (ht : t ≠ []) (h : Packed t cs n) : n ≤ occurrencesFrom t 0 cs := by
  induction hl : cs.length using Nat.strong_induction_on generalizing cs n with
  | _ l ih =>
    rcases cs with _ | ⟨c, cs⟩
    · simp [h.eq_zero_of_nil ht]
    rw [List.length_cons] at hl
    unfold occurrencesFrom
    split
    · rcases n with _ | n
      · exact Nat.zero_le _
      have hpos := List.length_pos_iff.mpr ht
      have hd := h.drop le_rfl
      obtain ⟨k, hk⟩ : ∃ k, t.length = k + 1 := ⟨t.length - 1, by omega⟩
      rw [hk, List.drop_succ_cons] at hd
      rw [hk, Nat.add_sub_cancel, occurrencesFrom_eq_drop]
      exact Nat.succ_le_succ (ih _ (by simp only [List.length_drop]; omega) hd rfl)
    · next hc => exact ih _ (by omega) (h.tail (by simpa using hc)) rfl

end Packed

lemma packed_occurrencesFrom (ht : t ≠ []) (cs : List Char) :
    Packed t cs (occurrencesFrom t 0 cs) := by
  induction hl : cs.length using Nat.strong_induction_on generalizing cs with
  | _ l ih =>
    rcases cs with _ | ⟨c, cs⟩
    · exact .zero _
    rw [List.length_cons] at hl
    unfold occurrencesFrom
    split
    · next hc =>
      obtain ⟨rest, hrest⟩ := List.isPrefixOf_iff_prefix.mp hc
      obtain ⟨d, t', rfl⟩ := List.exists_cons_of_ne_nil ht
      obtain ⟨rfl, rfl⟩ : d = c ∧ t' ++ rest = cs := by simpa using hrest
      rw [List.length_cons, Nat.add_sub_cancel, occurrencesFrom_eq_drop, List.drop_left]
      exact (ih _ (by simp at hl; omega) rest rfl).next []
    · exact (ih _ (by omega) cs rfl).prepend [c]

/-! ### Parts -/

lemma occurrencesFrom_append_le (ht : t ≠ []) (a b : List Char) :
    occurrencesFrom t 0 a + occurrencesFrom t 0 b ≤ occurrencesFrom t 0 (a ++ b) :=
  ((packed_occurrencesFrom ht a).append (packed_occurrencesFrom ht b)).le_occurrencesFrom ht

lemma occurrencesFrom_le_of_infix (ht : t ≠ []) (h : a <:+: b) :
    occurrencesFrom t 0 a ≤ occurrencesFrom t 0 b := by
  obtain ⟨front, rest, rfl⟩ := h
  have h₁ := occurrencesFrom_append_le ht (front ++ a) rest
  have h₂ := occurrencesFrom_append_le ht front a
  omega

lemma occurrencesFrom_self (ht : t ≠ []) : 1 ≤ occurrencesFrom t 0 t := by
  have h : Packed t t 1 := by simpa using (Packed.zero (t := t) []).next []
  exact h.le_occurrencesFrom ht

variable {s u v : String}

lemma toList_ne_nil (hs : s ≠ "") : s.toList ≠ [] := by simpa using hs

@[simp] lemma occurrences_empty (s : String) : occurrences s "" = 0 := by
  simp [occurrences, occurrencesFrom]

/-- **What stands in two texts stands in the text put together from them.** -/
theorem occurrences_append_le (hs : s ≠ "") (u v : String) :
    occurrences s u + occurrences s v ≤ occurrences s (u ++ v) := by
  simpa [occurrences] using occurrencesFrom_append_le (toList_ne_nil hs) u.toList v.toList

lemma occurrences_le_append_left (hs : s ≠ "") (u v : String) :
    occurrences s u ≤ occurrences s (u ++ v) :=
  (Nat.le_add_right _ _).trans (occurrences_append_le hs u v)

lemma occurrences_le_append_right (hs : s ≠ "") (u v : String) :
    occurrences s v ≤ occurrences s (u ++ v) :=
  (Nat.le_add_left _ _).trans (occurrences_append_le hs u v)

lemma occurrences_self (hs : s ≠ "") : 1 ≤ occurrences s s :=
  occurrencesFrom_self (toList_ne_nil hs)

lemma count_le_sum_occurrences (hs : s ≠ "") (texts : List String) :
    texts.count s ≤ (texts.map (occurrences s)).sum := by
  induction texts with
  | nil => simp
  | cons u texts ih =>
    rw [List.map_cons, List.sum_cons, List.count_cons]
    split
    · next hu =>
      have := occurrences_self hs
      rw [beq_iff_eq.mp hu]
      omega
    · omega

lemma sum_occurrences_le_join (hs : s ≠ "") (texts : List String) :
    (texts.map (occurrences s)).sum ≤ occurrences s (String.join texts) := by
  induction texts with
  | nil => simp
  | cons u texts ih =>
    rw [List.map_cons, List.sum_cons, String.join_cons]
    have := occurrences_append_le hs u (String.join texts)
    omega

/-! ### Trimming -/

lemma occurrencesFrom_trim_append_le (ht : t ≠ []) (a b : List Char) :
    occurrencesFrom t 0 (trim a) + occurrencesFrom t 0 (trim b) ≤
      occurrencesFrom t 0 (trim (a ++ b)) := by
  by_cases ha : trimStart a = []
  · simp [trim, trimStart_append, ha, trimEnd, occurrencesFrom]
  have htrim : trim (a ++ b) = trimEnd (trimStart a ++ b) := by
    rw [trim, trimStart_append, if_neg ha]
  rw [htrim, trimEnd_append]
  by_cases hb : trimEnd b = []
  · have hempty : trim b = [] := by simpa [hb] using trimEnd_trimStart_suffix b
    rw [if_pos hb, hempty, trim]
    rfl
  · have h₁ := occurrencesFrom_append_le ht (trimStart a) (trimEnd b)
    have h₂ := occurrencesFrom_le_of_infix ht (trimEnd_isPrefix (trimStart a)).isInfix
    have h₃ := occurrencesFrom_le_of_infix ht (trimEnd_trimStart_suffix b).isInfix
    rw [if_neg hb, trim]
    omega

end SchemaGo.Text
