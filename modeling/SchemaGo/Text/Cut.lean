/-!
Cutting a text in two where a separator stands, which belongs to neither part.
-/

namespace SchemaGo.Text

/-- What follows a beginning of the text. -/
def after? : List Char → List Char → Option (List Char)
  | [], cs => some cs
  | _ :: _, [] => none
  | s :: sep, c :: cs => if s = c then after? sep cs else none

/-- Cuts where the separator stands first. -/
def cut? (sep : List Char) : List Char → Option (List Char × List Char)
  | [] => (after? sep []).map ([], ·)
  | c :: cs =>
    match after? sep (c :: cs) with
    | some rest => some ([], rest)
    | none => (cut? sep cs).map fun (l, r) => (c :: l, r)

/-- Cuts where the character stands last. -/
def cutLast? (sep : Char) : List Char → Option (List Char × List Char)
  | [] => none
  | c :: cs =>
    match cutLast? sep cs with
    | some (l, r) => some (c :: l, r)
    | none => if c = sep then some ([], cs) else none

theorem after?_eq_some {sep cs r : List Char} (h : after? sep cs = some r) : cs = sep ++ r := by
  fun_induction after? sep cs with
  | case1 => simpa using h
  | case2 => simp at h
  | case3 s sep cs ih => simp [ih h]
  | case4 => simp at h

theorem cut?_eq_some {sep cs l r : List Char} (h : cut? sep cs = some (l, r)) :
    cs = l ++ sep ++ r := by
  induction cs generalizing l with
  | nil =>
    obtain ⟨x, hx, he⟩ := Option.map_eq_some_iff.1 h
    cases he
    simpa using after?_eq_some hx
  | cons c cs ih =>
    unfold cut? at h
    split at h
    · next rest hr => cases h; simpa using after?_eq_some hr
    · obtain ⟨⟨l', r'⟩, hx, he⟩ := Option.map_eq_some_iff.1 h
      cases he
      simp [ih hx]

theorem cutLast?_eq_none {sep : Char} {cs : List Char} : cutLast? sep cs = none ↔ sep ∉ cs := by
  induction cs with
  | nil => simp [cutLast?]
  | cons c cs ih =>
    unfold cutLast?
    cases h : cutLast? sep cs with
    | some p =>
      have : sep ∈ cs := by
        apply Classical.byContradiction
        intro hn
        simp [ih.2 hn] at h
      simp [this]
    | none =>
      have hn := ih.1 h
      by_cases hc : c = sep
      · simp [hc]
      · simp [hc, hn, Ne.symm hc]

theorem cutLast?_eq_some {sep : Char} {cs l r : List Char} (h : cutLast? sep cs = some (l, r)) :
    cs = l ++ sep :: r ∧ sep ∉ r := by
  induction cs generalizing l with
  | nil => simp [cutLast?] at h
  | cons c cs ih =>
    unfold cutLast? at h
    split at h
    · next l' r' hr =>
      cases h
      obtain ⟨rfl, hn⟩ := ih hr
      exact ⟨rfl, hn⟩
    · next hr =>
      split at h
      · next hc => cases h; exact ⟨by simp [hc], cutLast?_eq_none.1 hr⟩
      · simp at h

end SchemaGo.Text
