import Mathlib
import SchemaGo.Proofs.Go.Consumes
import SchemaGo.Proofs.Go.Outline

/-!
The pieces of an outline are the lexemes of the source, one after the other: an item has those that
it has been read from, and every other lexeme is a piece of its own.
-/

namespace SchemaGo.Go

open Grammar Lexeme

variable {inner : Inner} {due : Due} {ts us : List Lexeme} {ps qs : List Piece} {source : String}

/-- The pieces of the lexemes. -/
inductive Pieces (inner : Inner) : List Lexeme → List Piece → Prop
  | nil : Pieces inner [] []
  | trivia {t : Lexeme} {ts : List Lexeme} {ps : List Piece} :
      isTrivia t = true → Pieces inner ts ps → Pieces inner (t :: ts) (piece t :: ps)
  | terminator {t : Lexeme} {ts : List Lexeme} {ps : List Piece} :
      isTerminator t = true → Pieces inner ts ps → Pieces inner (t :: ts) (piece t :: ps)
  | item {its us : List Lexeme} {i : Item} {last : Bool} {ps : List Piece} :
      item inner (its ++ us) = some ((i, last), us) → Pieces inner us ps →
        Pieces inner (its ++ us) (.item (spell its) i :: ps)

lemma pieces_of_outlineFrom [∀ g, Consumes (inner g)] {n : ℕ}
    (h : outlineFrom inner n due ts = some ps) : Pieces inner ts ps := by
  induction n generalizing due ts ps with
  | zero =>
    cases ts with
    | nil =>
      obtain ⟨-, rfl⟩ : _ ∧ [] = ps := by simpa [outlineFrom] using h
      exact .nil
    | cons t ts => simp [outlineFrom] at h
  | succ n ih =>
    cases ts with
    | nil =>
      obtain ⟨-, rfl⟩ : _ ∧ [] = ps := by simpa [outlineFrom] using h
      exact .nil
    | cons t ts =>
      unfold outlineFrom at h
      split at h
      · obtain ⟨qs, hq, rfl⟩ : ∃ qs, outlineFrom inner n due ts = some qs ∧ _ = ps := by
          simpa [Option.bind_eq_some_iff] using h
        exact .trivia rfl (ih hq)
      · obtain ⟨qs, hq, rfl⟩ : ∃ qs, outlineFrom inner n due ts = some qs ∧ _ = ps := by
          simpa [Option.bind_eq_some_iff] using h
        exact .trivia rfl (ih hq)
      · obtain ⟨qs, hq, rfl⟩ : ∃ qs, outlineFrom inner n .item ts = some qs ∧ _ = ps := by
          simpa [Option.bind_eq_some_iff] using h
        exact .trivia rfl (ih hq)
      · split at h
        · obtain ⟨⟨⟨i, last⟩, rest⟩, hi, h⟩ := Option.bind_eq_some_iff.mp h
          obtain ⟨qs, hq, h⟩ := Option.bind_eq_some_iff.mp h
          cases h
          obtain ⟨its, hits⟩ := Consumes.suffix hi
          have htake : (t :: ts).take ((t :: ts).length - rest.length) = its := by
            rw [← hits, List.take_left' (by simp)]
          rw [htake, ← hits]
          rw [← hits] at hi
          exact .item hi (ih hq)
        · split at h
          · next ht =>
            obtain ⟨qs, hq, rfl⟩ : ∃ qs, outlineFrom inner n .item ts = some qs ∧ _ = ps := by
              simpa [Option.bind_eq_some_iff] using h
            rcases ht with rfl | rfl
            · exact .terminator rfl (ih hq)
            · exact .terminator rfl (ih hq)
          · cases h

/-- **An outline is made of the lexemes of its source.** -/
theorem pieces_of_outline (h : outline source = some ps) :
    Pieces (upTo ((scan source).length + 1)) (scan source) ps :=
  pieces_of_outlineFrom h

namespace Pieces

/-- Pieces are parted where the lexemes are. -/
lemma split (h : Pieces inner ts (ps ++ qs)) :
    ∃ us vs, ts = us ++ vs ∧ Pieces inner vs qs := by
  induction ps generalizing ts with
  | nil => exact ⟨[], ts, rfl, h⟩
  | cons p ps ih =>
    cases h with
    | trivia ht h =>
      obtain ⟨us, vs, rfl, hv⟩ := ih h
      exact ⟨_ :: us, vs, rfl, hv⟩
    | terminator ht h =>
      obtain ⟨us, vs, rfl, hv⟩ := ih h
      exact ⟨_ :: us, vs, rfl, hv⟩
    | @item its _ _ _ _ hi h =>
      obtain ⟨us, vs, rfl, hv⟩ := ih h
      exact ⟨its ++ us, vs, by simp, hv⟩

/-- The lexemes of an item of an outline. -/
lemma exists_item {text : String} {i : Item} (h : Pieces inner ts (ps ++ .item text i :: qs)) :
    ∃ before its us last, ts = before ++ (its ++ us) ∧ text = spell its ∧
      Go.item inner (its ++ us) = some ((i, last), us) := by
  obtain ⟨before, vs, rfl, hv⟩ := h.split
  generalize hp : Piece.item text i :: qs = rs at hv
  cases hv with
  | nil => cases hp
  | @trivia t _ _ ht hv => cases t <;> cases hp
  | @terminator t _ _ ht hv => cases t <;> cases hp
  | item hi hv =>
    cases hp
    exact ⟨before, _, _, _, rfl, rfl, hi⟩

end Pieces

/-! ### Declarations -/

/-- The declarations have one shape, and the body of the second begins with that of the first. -/
def Decl.Extends (d e : Decl) : Prop := e.shape = d.shape ∧ ∃ more, e.body = d.body ++ more

namespace Decl.Extends

lemma refl (d : Decl) : d.Extends d := ⟨rfl, "", by simp⟩

lemma trans {a b c : Decl} (hab : a.Extends b) (hbc : b.Extends c) : a.Extends c := by
  obtain ⟨hs, more, hb⟩ := hab
  obtain ⟨hs', more', hc⟩ := hbc
  exact ⟨hs'.trans hs, more ++ more', by rw [hc, hb, String.append_assoc]⟩

end Decl.Extends

namespace ReadState

variable {s : ReadState} {d : Decl}

lemma mem_attach {text : String} (h : d ∈ (s.attach text).file.decls) :
    ∃ e ∈ s.file.decls, e.Extends d := by
  unfold attach at h
  rcases hl : s.last with _ | _ | _ | _ <;> simp only [hl] at h
  · exact ⟨d, h, .refl d⟩
  · exact ⟨d, h, .refl d⟩
  · exact ⟨d, h, .refl d⟩
  · obtain ⟨i, hi⟩ := List.mem_iff_getElem?.mp h
    rw [List.getElem?_modify] at hi
    obtain ⟨e, he, rfl⟩ := Option.map_eq_some_iff.mp hi
    refine ⟨e, List.mem_of_getElem? he, ?_⟩
    split
    · exact ⟨rfl, _, rfl⟩
    · exact .refl e

/-- A piece adds no declaration but that of its item. -/
lemma mem_step {p : Piece} (h : d ∈ (s.step p).file.decls) :
    (∃ e ∈ s.file.decls, e.Extends d) ∨
      ∃ qualifiers, p = .item d.body (.decl d.shape qualifiers) := by
  cases p with
  | gap text =>
    refine .inl ⟨d, ?_, .refl d⟩
    simp only [step, pass] at h
    split at h <;> exact h
  | comment text =>
    left
    simp only [step] at h
    split at h
    · exact mem_attach h
    · exact ⟨d, h, .refl d⟩
  | item text i =>
    cases i with
    | package => exact .inl ⟨d, h, .refl d⟩
    | importOne e => exact .inl ⟨d, h, .refl d⟩
    | importGroup parts => exact .inl ⟨d, h, .refl d⟩
    | decl shape qualifiers =>
      rcases List.mem_append.mp h with h | h
      · exact .inl ⟨d, h, .refl d⟩
      · obtain rfl := List.mem_singleton.mp h
        exact .inr ⟨qualifiers, rfl⟩

lemma mem_foldl_step {ps : List Piece} (h : d ∈ (ps.foldl step s).file.decls) :
    (∃ e ∈ s.file.decls, e.Extends d) ∨
      ∃ qs text qualifiers rs more, ps = qs ++ .item text (.decl d.shape qualifiers) :: rs ∧
        d.body = text ++ more := by
  induction ps generalizing s with
  | nil => exact .inl ⟨d, h, .refl d⟩
  | cons p ps ih =>
    rcases ih h with ⟨e, he, hd⟩ | ⟨qs, text, qualifiers, rs, more, rfl, hb⟩
    · rcases mem_step he with ⟨e', he', hd'⟩ | ⟨qualifiers, rfl⟩
      · exact .inl ⟨e', he', hd'.trans hd⟩
      · obtain ⟨hs, more, hb⟩ := hd
        exact .inr ⟨[], e.body, qualifiers, ps, more, by rw [hs]; rfl, hb⟩
    · exact .inr ⟨p :: qs, text, qualifiers, rs, more, rfl, hb⟩

end ReadState

/-- **Every declaration of a file that has been read stands in the source**, with the shape of what
stands there. -/
theorem exists_item_of_read {f : File} {d : Decl} (h : File.read source = .ok f)
    (hd : d ∈ f.decls) :
    ∃ before its us more qualifiers last, scan source = before ++ (its ++ us) ∧
      d.body = spell its ++ more ∧
        item (upTo ((scan source).length + 1)) (its ++ us) =
          some ((.decl d.shape qualifiers, last), us) := by
  unfold File.read at h
  rcases ho : outline source with _ | ps <;> simp only [ho] at h
  · cases h
  dsimp only [File.ofPieces] at h
  split at h <;> cases h
  rcases ReadState.mem_foldl_step hd with ⟨e, he, -⟩ | ⟨qs, text, qualifiers, rs, more, rfl, hb⟩
  · simp [ReadState.start] at he
  · obtain ⟨before, its, us, last, hscan, rfl, hi⟩ := (pieces_of_outline ho).exists_item
    exact ⟨before, its, us, more, qualifiers, last, hscan, hb, hi⟩

end SchemaGo.Go
