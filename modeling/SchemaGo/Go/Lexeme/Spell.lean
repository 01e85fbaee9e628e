import SchemaGo.Go.Lexeme.Scan

/-!
The lexemes of a source spell the source: scanning loses nothing.
-/

namespace SchemaGo.Go.Lexeme

theorem toList_spell (ts : List Lexeme) : (spell ts).toList = ts.flatMap (·.text.toList) := by
  induction ts with
  | nil => rfl
  | cons t ts ih => simpa [spell, String.join_cons] using ih

/-! ### One lexeme -/

/-- A lexeme and what is left of `c :: cs` behind it. -/
def Cuts (c : Char) (cs : List Char) (p : Lexeme × List Char) : Prop :=
  p.1.text.toList ++ p.2 = c :: cs ∧ p.2.length ≤ cs.length

theorem cuts_mark (c : Char) (cs : List Char) : Cuts c cs (mark c, cs) := by simp [Cuts, text]

theorem cuts_split {make : String → Lexeme} (hm : ∀ s, (make s).text = s) (n : Nat) (c : Char)
    (cs : List Char) : Cuts c cs (split make (n + 1) (c :: cs)) := by
  simp [Cuts, split, hm]

theorem cuts_splitOrMark {make : String → Lexeme} (hm : ∀ s, (make s).text = s)
    (len : Option Nat) (c : Char) (cs : List Char) : Cuts c cs (splitOrMark make len c cs) := by
  cases len with
  | some n => exact cuts_split hm n c cs
  | none => exact cuts_mark c cs

theorem cuts_scanOne (c : Char) (cs : List Char) : Cuts c cs (scanOne c cs) := by
  unfold scanOne
  split
  · next h => simp_all [Cuts, text]
  split
  · exact cuts_split (fun _ => rfl) _ _ _
  split
  · exact cuts_split (fun _ => rfl) _ _ _
  split
  · exact cuts_splitOrMark (fun _ => rfl) _ _ _
  · exact cuts_splitOrMark (fun _ => rfl) _ _ _
  · exact cuts_splitOrMark (fun _ => rfl) _ _ _
  · exact cuts_split (fun _ => rfl) _ _ _
  · exact cuts_splitOrMark (fun _ => rfl) _ _ _
  · split
    · exact cuts_mark c cs
    · exact cuts_split (fun _ => rfl) _ _ _

/-! ### All lexemes -/

theorem toList_spell_scanUpTo (n : Nat) (cs : List Char) (h : cs.length ≤ n) :
    (spell (scanUpTo n cs)).toList = cs := by
  rw [toList_spell]
  induction n generalizing cs with
  | zero => simp [List.length_eq_zero_iff.1 (Nat.le_zero.1 h), scanUpTo]
  | succ n ih =>
    cases cs with
    | nil => simp [scanUpTo]
    | cons c cs =>
      have hc := cuts_scanOne c cs
      simp only [List.length_cons] at h
      simp only [scanUpTo, List.flatMap_cons]
      rw [ih _ (by have := hc.2; omega), hc.1]

theorem spell_scan (source : String) : spell (scan source) = source := by
  apply String.toList_injective
  unfold scan
  split
  · next h => simp [h, spell]
  · next c cs h =>
    split
    · next hc =>
      have := toList_spell_scanUpTo cs.length cs (Nat.le_refl _)
      rw [toList_spell] at this
      rw [h, toList_spell, List.flatMap_cons, this, beq_iff_eq.1 hc]
      rfl
    · rw [h, toList_spell_scanUpTo _ _ (by simp)]

end SchemaGo.Go.Lexeme
