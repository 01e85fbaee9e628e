import Mathlib
import SchemaGo.Go.File

/-!
What the edits of a file do to its declarations, read off the list itself: a declaration that
has been found splits the list in two, and every edit happens at such a split.
-/

namespace SchemaGo.Go

lemma exists_split_of_findIdx? {α : Type} {p : α → Bool} {l : List α} {i : ℕ}
    (h : l.findIdx? p = some i) :
    ∃ l₁ a l₂, l = l₁ ++ a :: l₂ ∧ l₁.length = i ∧ p a ∧ ∀ b ∈ l₁, p b = false := by
  obtain ⟨hi, ha, hb⟩ := List.findIdx?_eq_some_iff_getElem.mp h
  refine ⟨l.take i, l[i], l.drop (i + 1), ?_, ?_, ha, ?_⟩
  · rw [← List.drop_eq_getElem_cons hi, List.take_append_drop]
  · rw [List.length_take]; omega
  · intro b hb'
    obtain ⟨j, hj, rfl⟩ := List.mem_take_iff_getElem.mp hb'
    simpa using hb j (by omega)

lemma findIdx?_split {α : Type} {p : α → Bool} {l₁ l₂ : List α} {a : α}
    (h₁ : ∀ b ∈ l₁, p b = false) (ha : p a) : (l₁ ++ a :: l₂).findIdx? p = some l₁.length := by
  have h : l₁.findIdx? p = none := List.findIdx?_eq_none_iff.mpr h₁
  rw [List.findIdx?_append, h]
  simp [List.findIdx?_cons, ha]

lemma insertIdx_length {α : Type} (l₁ l₂ : List α) (a : α) :
    (l₁ ++ l₂).insertIdx l₁.length a = l₁ ++ a :: l₂ := by
  induction l₁ with
  | nil => simp
  | cons b l₁ ih => simpa using ih

lemma modify_length {α : Type} (l₁ l₂ : List α) (a : α) (f : α → α) :
    (l₁ ++ a :: l₂).modify l₁.length f = l₁ ++ f a :: l₂ := by
  induction l₁ with
  | nil => rfl
  | cons b l₁ ih => simpa using ih

lemma mem_of_mem_modify {α : Type} {l : List α} {i : ℕ} {h : α → α} {a : α}
    (ha : a ∈ l.modify i h) : a ∈ l ∨ ∃ b ∈ l, a = h b := by
  obtain ⟨j, hj⟩ := List.mem_iff_getElem?.mp ha
  rw [List.getElem?_modify] at hj
  obtain ⟨b, hb, rfl⟩ := Option.map_eq_some_iff.mp hj
  have hb' := List.mem_of_getElem? hb
  split
  · exact .inr ⟨b, hb', rfl⟩
  · exact .inl hb'

namespace File

variable {f : File}

/-! ### Finding -/

lemma find?_eq_some {name : String} {i : ℕ} {d : Decl} (h : f.find? name = some (i, d)) :
    ∃ l₁ l₂, f.decls = l₁ ++ d :: l₂ ∧ l₁.length = i ∧ d.shape.declares name ∧
      ∀ e ∈ l₁, e.shape.declares name = false := by
  unfold find? at h
  simp only [bind, Option.bind_eq_some_iff, pure, Option.some.injEq, Prod.mk.injEq] at h
  obtain ⟨j, hj, e, he, rfl, rfl⟩ := h
  obtain ⟨l₁, a, l₂, hl, rfl, ha, hb⟩ := exists_split_of_findIdx? hj
  rw [hl] at he
  obtain rfl : a = e := by simpa using he
  exact ⟨l₁, l₂, hl, rfl, ha, hb⟩

lemma find?_split {name : String} {l₁ l₂ : List Decl} {d : Decl} (hf : f.decls = l₁ ++ d :: l₂)
    (h₁ : ∀ e ∈ l₁, e.shape.declares name = false) (hd : d.shape.declares name) :
    f.find? name = some (l₁.length, d) := by
  have h : f.indexOf? name = some l₁.length := by
    rw [indexOf?, hf]
    exact findIdx?_split h₁ hd
  simp [find?, h, hf]

lemma find?_eq_none {name : String} :
    f.find? name = none ↔ ∀ d ∈ f.decls, d.shape.declares name = false := by
  constructor
  · intro h
    by_contra hc
    push Not at hc
    obtain ⟨d, hd, hn⟩ := hc
    rcases hi : f.indexOf? name with _ | i
    · exact hn (List.findIdx?_eq_none_iff.mp hi d hd)
    · obtain ⟨l₁, a, l₂, hl, rfl, -, -⟩ := exists_split_of_findIdx? hi
      simp [find?, hi, hl] at h
  · intro h
    have hi : f.indexOf? name = none := List.findIdx?_eq_none_iff.mpr h
    simp [find?, hi]

/-! ### Editing -/

lemma anchor_le (f : File) : f.anchor ≤ f.decls.length := by
  unfold anchor
  split <;> omega

@[simp] lemma place_anchor (f : File) : f.place f.anchor = f.anchor :=
  Nat.min_eq_left f.anchor_le

/-- A declaration is inserted where a first part of the list ends. -/
lemma insert_decls {i : ℕ} (hi : i ≤ f.decls.length) (d : Decl) :
    ∃ l₁ l₂, f.decls = l₁ ++ l₂ ∧ l₁.length = i ∧ (f.insert i d).decls = l₁ ++ d :: l₂ := by
  refine ⟨f.decls.take i, f.decls.drop i, (List.take_append_drop _ _).symm, ?_, ?_⟩
  · rw [List.length_take]; omega
  · have hp : f.place i = (f.decls.take i).length := by
      rw [place, List.length_take]
    have h := insertIdx_length (f.decls.take i) (f.decls.drop i) d
    rw [List.take_append_drop] at h
    rw [insert, hp]
    exact h

lemma insert_split {l₁ l₂ : List Decl} (hf : f.decls = l₁ ++ l₂) (d : Decl) :
    (f.insert l₁.length d).decls = l₁ ++ d :: l₂ := by
  have hp : f.place l₁.length = l₁.length := by
    rw [place, hf, List.length_append]; omega
  rw [insert, hp, hf]
  exact insertIdx_length l₁ l₂ d

lemma replace_split {l₁ l₂ : List Decl} {d : Decl} (hf : f.decls = l₁ ++ d :: l₂) (body : String)
    (shape : Shape) :
    (f.replace l₁.length body shape).decls =
      l₁ ++ { d with body, shape, managed := true } :: l₂ := by
  rw [replace, hf]
  exact modify_length l₁ l₂ d _

lemma setManaged_split {l₁ l₂ : List Decl} {d : Decl} (hf : f.decls = l₁ ++ d :: l₂)
    (managed : Bool) :
    (f.setManaged l₁.length managed).decls = l₁ ++ { d with managed } :: l₂ := by
  rw [setManaged, hf]
  exact modify_length l₁ l₂ d _

lemma remove_split {l₁ l₂ : List Decl} {d : Decl} (hf : f.decls = l₁ ++ d :: l₂) :
    (f.remove l₁.length).decls = l₁ ++ l₂ := by
  rw [remove, hf, List.eraseIdx_append_of_length_le (Nat.le_refl _)]
  simp

end File

end SchemaGo.Go
