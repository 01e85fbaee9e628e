import Mathlib
import SchemaGo.Proofs.Schema.Validate

/-!
What is wrong with a schema that is refused: the first fault of its first query with one. In a query
the aggregates come before the parameters, whatever stands first in the document.
-/

namespace SchemaGo

variable {q : Query} {ps : List Parameter} {p : Parameter} {seen : List ℕ} {fault : QueryFault}

/-! ### One query -/

namespace Query

/-- The aggregates name a table, and the parameters have positions of their own. -/
def IsSound (q : Query) : Prop :=
  (∀ c ∈ q.columns, c.isJsonAggregate = true → c.elementTable.isSome = true) ∧
    Numbered q.parameters

/-- The fault is the first aggregate without a table, or where there is none, the first parameter
with a position that is zero or that of an earlier one. -/
inductive FirstFault (q : Query) : QueryFault → Prop
  | aggregate {before after : List ResultColumn} {c : ResultColumn}
      (split : q.columns = before ++ c :: after)
      (first : ∀ d ∈ before, d.isJsonAggregate = true → d.elementTable.isSome = true)
      (lacks : c.isJsonAggregate = true ∧ c.elementTable = none) :
      FirstFault q (.aggregateWithoutTable q.name c.name)
  | position {before after : List Parameter} {p : Parameter}
      (aggregates : ∀ c ∈ q.columns, c.isJsonAggregate = true → c.elementTable.isSome = true)
      (split : q.parameters = before ++ p :: after)
      (first : Numbered before)
      (misplaced : p.position = 0 ∨ ∃ r ∈ before, r.position = p.position) :
      FirstFault q (.badPosition q.name p.name p.position)

end Query

/-- The misplaced parameter that is found is the first one. -/
lemma misplaced?_eq_some_iff : misplaced? seen ps = some p ↔
    ∃ before after, ps = before ++ p :: after ∧ misplaced? seen before = none ∧
      (p.position = 0 ∨ p.position ∈ seen ∨ ∃ r ∈ before, r.position = p.position) := by
  induction ps generalizing seen with
  | nil => simp [misplaced?]
  | cons r ps ih =>
    by_cases hr : r.position = 0 ∨ r.position ∈ seen
    · -- the search ends here, and nothing stands in front
      have hfound : ∀ qs, misplaced? seen (r :: qs) = some r := fun qs => by
        rw [misplaced?, if_pos (by simpa using hr)]
      rw [hfound, Option.some_inj]
      constructor
      · rintro rfl
        exact ⟨[], ps, rfl, rfl, hr.imp_right .inl⟩
      · rintro ⟨_ | ⟨x, before⟩, after, hsplit, hnone, -⟩
        · exact (List.cons.inj hsplit).1
        · obtain ⟨rfl, -⟩ := List.cons.inj hsplit
          rw [hfound] at hnone
          cases hnone
    · have hnext : ∀ qs, misplaced? seen (r :: qs) = misplaced? (r.position :: seen) qs :=
        fun qs => by rw [misplaced?, if_neg (by simpa using hr)]
      rw [hnext, ih]
      constructor
      · rintro ⟨before, after, rfl, hnone, hp⟩
        refine ⟨r :: before, after, rfl, (hnext before).trans hnone, hp.imp_right fun hp => ?_⟩
        rw [List.mem_cons, or_assoc] at hp
        rcases hp with hp | hp | ⟨x, hx, hp⟩
        · exact .inr ⟨r, List.mem_cons_self, hp.symm⟩
        · exact .inl hp
        · exact .inr ⟨x, List.mem_cons_of_mem r hx, hp⟩
      · rintro ⟨_ | ⟨x, before⟩, after, hsplit, hnone, hp⟩
        · obtain ⟨rfl, -⟩ := List.cons.inj hsplit
          exact absurd (hp.imp_right fun hp => hp.resolve_right (by simp)) hr
        · obtain ⟨rfl, rfl⟩ := List.cons.inj hsplit
          refine ⟨before, after, rfl, (hnext before).symm.trans hnone, hp.imp_right ?_⟩
          rintro (hseen | ⟨y, hy, heq⟩)
          · exact .inl (List.mem_cons_of_mem _ hseen)
          · rcases List.mem_cons.mp hy with rfl | hy
            · exact .inl (heq ▸ List.mem_cons_self)
            · exact .inr ⟨y, hy, heq⟩

namespace Query

/-- The aggregate without a table that is found is the first one. -/
lemma find?_aggregate_eq_some_iff {columns : List ResultColumn} {c : ResultColumn} :
    columns.find? (fun c => c.isJsonAggregate && c.elementTable.isNone) = some c ↔
      ∃ before after, columns = before ++ c :: after ∧
        (∀ d ∈ before, d.isJsonAggregate = true → d.elementTable.isSome = true) ∧
        c.isJsonAggregate = true ∧ c.elementTable = none := by
  rw [List.find?_eq_some_iff_append]
  simp only [Bool.and_eq_true, Bool.not_eq_true', Bool.and_eq_false_imp, Option.isNone_eq_false_iff,
    Option.isNone_iff_eq_none]
  constructor
  · rintro ⟨hlacks, before, after, hsplit, hfirst⟩
    exact ⟨before, after, hsplit, hfirst, hlacks⟩
  · rintro ⟨before, after, hsplit, hfirst, hlacks⟩
    exact ⟨hlacks, before, after, hsplit, hfirst⟩

lemma find?_aggregate_eq_none_iff {columns : List ResultColumn} :
    columns.find? (fun c => c.isJsonAggregate && c.elementTable.isNone) = none ↔
      ∀ c ∈ columns, c.isJsonAggregate = true → c.elementTable.isSome = true := by
  simp [List.find?_eq_none, Option.isSome_iff_ne_none]

/-- **The fault of a query is its first one.** -/
lemma fault?_eq_some_iff : q.fault? = some fault ↔ q.FirstFault fault := by
  constructor
  · intro h
    unfold fault? at h
    split at h
    · next c hc =>
      obtain ⟨before, after, hsplit, hfirst, hlacks⟩ := find?_aggregate_eq_some_iff.mp hc
      obtain rfl := Option.some.inj h
      exact .aggregate hsplit hfirst hlacks
    · next hnone =>
      obtain ⟨p, hp, rfl⟩ := Option.map_eq_some_iff.mp h
      obtain ⟨before, after, hsplit, hfirst, hmisplaced⟩ := misplaced?_eq_some_iff.mp hp
      exact .position (find?_aggregate_eq_none_iff.mp hnone) hsplit
        (misplaced?_nil_eq_none_iff.mp hfirst) (by simpa using hmisplaced)
  · rintro (⟨hsplit, hfirst, hlacks⟩ | ⟨haggregates, hsplit, hfirst, hmisplaced⟩)
    · rw [fault?, find?_aggregate_eq_some_iff.mpr ⟨_, _, hsplit, hfirst, hlacks⟩]
    · have hp := misplaced?_eq_some_iff.mpr ⟨_, _, hsplit, misplaced?_nil_eq_none_iff.mpr hfirst,
        hmisplaced.imp_right .inr⟩
      rw [fault?, find?_aggregate_eq_none_iff.mpr haggregates]
      simp only [hp, Option.map_some]

end Query

/-! ### Schemas -/

namespace Schema

variable {s : Schema}

lemma fault?_eq_none_iff : s.fault? = none ↔ ∀ q ∈ s.queries, q.IsSound := by
  rw [fault?, List.findSome?_eq_none_iff]
  exact forall₂_congr fun q _ => Query.fault?_eq_none_iff

/-- The fault of a schema is that of its first query with one. -/
lemma fault?_eq_some_iff : s.fault? = some fault ↔
    ∃ before q after, s.queries = before ++ q :: after ∧ (∀ p ∈ before, p.IsSound) ∧
      q.FirstFault fault := by
  rw [fault?, List.findSome?_eq_some_iff]
  constructor
  · rintro ⟨before, q, after, hsplit, hq, hbefore⟩
    exact ⟨before, q, after, hsplit, fun p hp => Query.fault?_eq_none_iff.mp (hbefore p hp),
      Query.fault?_eq_some_iff.mp hq⟩
  · rintro ⟨before, q, after, hsplit, hbefore, hq⟩
    exact ⟨before, q, after, hsplit, Query.fault?_eq_some_iff.mpr hq,
      fun p hp => Query.fault?_eq_none_iff.mpr (hbefore p hp)⟩

/-- **A document with the form of a schema is loaded if its queries are sound**, and is refused for
the first fault of the first one that is not. -/
theorem ofJson_of_decode {text : String} (h : Json.decode schemaForm.decoder text = .ok s) :
    (∀ loaded, ofJson text = .ok loaded ↔ loaded = s ∧ ∀ q ∈ s.queries, q.IsSound) ∧
    ∀ e, ofJson text = .error e ↔
      ∃ before q after fault, s.queries = before ++ q :: after ∧ (∀ p ∈ before, p.IsSound) ∧
        q.FirstFault fault ∧ e = .query fault := by
  have hok : ∀ loaded, ofJson text = .ok loaded ↔ loaded = s ∧ s.fault? = none := by
    intro loaded
    unfold ofJson
    rw [h]
    rcases hs : s.fault? <;> simp [hs, eq_comm]
  have herror : ∀ e, ofJson text = .error e ↔
      ∃ fault, s.fault? = some fault ∧ e = .query fault := by
    intro e
    unfold ofJson
    rw [h]
    rcases hs : s.fault? <;> simp [hs, eq_comm]
  refine ⟨fun loaded => by rw [hok, fault?_eq_none_iff], fun e => ?_⟩
  rw [herror]
  constructor
  · rintro ⟨fault, hs, rfl⟩
    obtain ⟨before, q, after, hsplit, hbefore, hq⟩ := fault?_eq_some_iff.mp hs
    exact ⟨before, q, after, fault, hsplit, hbefore, hq, rfl⟩
  · rintro ⟨before, q, after, fault, hsplit, hbefore, hq, rfl⟩
    exact ⟨fault, fault?_eq_some_iff.mpr ⟨before, q, after, hsplit, hbefore, hq⟩, rfl⟩

end Schema

/-- Placeholders that are not in the order of the parameters. -/
def renameOrder : Query where
  name := "rename"
  parameters := [⟨"name", { name := "text" }, 2⟩, ⟨"id", { name := "int" }, 1⟩]
  shape := .exec
  sql := "CALL rename($2, $1)"

/-- Two parameters have a position that they cannot have. -/
def moveOrder : Query where
  name := "move"
  parameters := [⟨"from", { name := "int" }, 2⟩, ⟨"id", { name := "int" }, 1⟩,
    ⟨"to", { name := "int" }, 2⟩, ⟨"by", { name := "int" }, 0⟩]
  shape := .exec
  sql := "CALL move($1, $2)"

/-- An aggregate of nothing. -/
def listOrders : Query where
  name := "list"
  shape := .rows
  columns := [⟨"items", { name := "json" }, true, none⟩]
  sql := "TABLE orders"

/-- The schema of these queries. Its records are written as arrays. -/
def ordersJson : String :=
  r#"["public",[],[],[],[
    ["rename",[["name",["text"],2],["id",["int"],1]],"exec",[],"CALL rename($2, $1)"],
    ["move",[["from",["int"],2],["id",["int"],1],["to",["int"],2],["by",["int"],0]],"exec",[],
      "CALL move($1, $2)"],
    ["list",[],"rows",[["items",["json"],true]],"TABLE orders"]]]"#

set_option maxRecDepth 2000 in
lemma decode_ordersJson : Json.decode schemaForm.decoder ordersJson =
    .ok { queries := [renameOrder, moveOrder, listOrders] } := by
  -- The text is opened at once, for the kernel is slow to take a string apart.
  have htext : ordersJson.toList = _ := String.toList_ofList
  unfold Json.decode
  rw [htext]
  decide +kernel

/-- The second query is the first one with a fault, and its third parameter the first fault. -/
theorem Schema.ofJson_of_decode_ordersJson :
    Json.decode schemaForm.decoder ordersJson =
      .ok { queries := [renameOrder, moveOrder, listOrders] } ∧
    ofJson ordersJson = .error (.query (.badPosition "move" "to" 2)) ∧
    (QueryFault.badPosition "move" "to" 2).message =
      "query 'move': parameter 'to' has invalid position 2" := by
  have hsound : ∀ p ∈ [renameOrder], p.IsSound := by
    intro p hp
    obtain rfl := List.mem_singleton.mp hp
    exact Query.fault?_eq_none_iff.mp (by decide)
  have haggregates : ∀ c ∈ moveOrder.columns, c.isJsonAggregate = true →
      c.elementTable.isSome = true := by decide
  have hnumbered : Numbered (moveOrder.parameters.take 2) :=
    misplaced?_nil_eq_none_iff.mp (by decide)
  have hfirst : moveOrder.FirstFault (.badPosition "move" "to" 2) :=
    .position haggregates (List.take_append_drop 2 moveOrder.parameters).symm hnumbered
      (.inr ⟨_, List.mem_cons_self, rfl⟩)
  exact ⟨decode_ordersJson, ((ofJson_of_decode decode_ordersJson).2 _).mpr
    ⟨[renameOrder], moveOrder, [listOrders], _, rfl, hsound, hfirst, rfl⟩, by decide⟩

end SchemaGo
