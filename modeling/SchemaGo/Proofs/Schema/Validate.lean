import Mathlib
import SchemaGo.Schema.Load

/-!
Which queries are without fault: those whose aggregates name a table, and whose parameters have
positions of their own, from one on. A schema that has been loaded has no others.
-/

namespace SchemaGo

/-- The positions count from one, and no two parameters share one. -/
structure Numbered (ps : List Parameter) : Prop where
  positive : ∀ p ∈ ps, 0 < p.position
  distinct : (ps.map (·.position)).Nodup

/-- To be without repetition and apart from what has been seen, member by member. -/
lemma nodup_and_disjoint_cons {α : Type} {x : α} {xs seen : List α} :
    (x :: xs).Nodup ∧ (x :: xs).Disjoint seen ↔
      x ∉ seen ∧ xs.Nodup ∧ xs.Disjoint (x :: seen) := by
  rw [List.nodup_cons, List.disjoint_cons_left, List.disjoint_cons_right]
  tauto

lemma misplaced?_eq_none_iff {ps : List Parameter} {seen : List ℕ} :
    misplaced? seen ps = none ↔ (∀ p ∈ ps, 0 < p.position) ∧ (ps.map (·.position)).Nodup ∧
      (ps.map (·.position)).Disjoint seen := by
  induction ps generalizing seen with
  | nil => simp [misplaced?]
  | cons p ps ih =>
    rw [List.map_cons, nodup_and_disjoint_cons, List.forall_mem_cons]
    simp only [misplaced?, Bool.or_eq_true, decide_eq_true_eq, List.contains_iff_mem]
    split
    · next h =>
      simp only [reduceCtorEq, false_iff]
      rintro ⟨⟨hpos, -⟩, hseen, -⟩
      exact h.elim hpos.ne' hseen
    · next h =>
      rw [not_or] at h
      rw [ih, and_iff_right (Nat.pos_of_ne_zero h.1), and_iff_right h.2]

/-- No parameter is misplaced exactly if the positions are in order. -/
lemma misplaced?_nil_eq_none_iff {ps : List Parameter} : misplaced? [] ps = none ↔ Numbered ps := by
  rw [misplaced?_eq_none_iff]
  exact ⟨fun h => ⟨h.1, h.2.1⟩, fun h => ⟨h.positive, h.distinct, List.disjoint_nil_right _⟩⟩

/-- **Which queries are without fault.** -/
theorem Query.fault?_eq_none_iff {q : Query} :
    q.fault? = none ↔
      (∀ c ∈ q.columns, c.isJsonAggregate = true → c.elementTable.isSome = true) ∧
        Numbered q.parameters := by
  unfold fault?
  split
  · next c hc =>
    have hmem := List.mem_of_find?_eq_some hc
    have hbad : c.isJsonAggregate = true ∧ c.elementTable = none := by
      simpa using List.find?_some hc
    simp only [reduceCtorEq, false_iff, not_and]
    intro hall
    have := hall c hmem hbad.1
    simp [hbad.2] at this
  · next hnone =>
    rw [Option.map_eq_none_iff, misplaced?_nil_eq_none_iff]
    refine (and_iff_right fun c hc ha => ?_).symm
    have := List.find?_eq_none.mp hnone c hc
    simpa [ha, Option.isSome_iff_ne_none] using this

/-- A schema that has been loaded has no fault. -/
lemma Schema.fault?_of_ofJson {text : String} {s : Schema} (h : Schema.ofJson text = .ok s) :
    s.fault? = none := by
  unfold ofJson at h
  split at h
  · simp at h
  · split at h
    · simp at h
    · next hnone =>
      obtain rfl := Except.ok.inj h
      exact hnone

/-- The parameters of the queries of a loaded schema have positions of their own. -/
theorem Schema.numbered_of_ofJson {text : String} {s : Schema} (h : Schema.ofJson text = .ok s)
    {q : Query} (hq : q ∈ s.queries) : Numbered q.parameters :=
  (Query.fault?_eq_none_iff.mp
    (List.findSome?_eq_none_iff.mp (Schema.fault?_of_ofJson h) q hq)).2

end SchemaGo
