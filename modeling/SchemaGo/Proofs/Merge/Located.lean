import Mathlib
import SchemaGo.Proofs.Merge.History

/-!
Where the type and the block of an enum are after a merge. The next merge finds them there, and
leaves all else as it is, unless the enum has lost its values and one more of its blocks is left.
-/

namespace SchemaGo.Merge

open Go

variable {f g : File} {e : EnumType} {type : String} {members : List Member} {ds : List Decl}
  {cs : List Change}

/-! ### Places -/

lemma EnumSettled.exists_type (h : EnumSettled type members ds) :
    ∃ l₁ d l₂, ds = l₁ ++ d :: l₂ ∧ d.shape = .named type "string" ∧
      ∀ e ∈ l₁, e.shape.declares type = false := by
  cases h with
  | typeOnly l₁ l₂ d shape _ first => exact ⟨l₁, d, l₂, rfl, shape, first⟩
  | blockBehind l₁ l₂ l₃ d b shape _ first =>
    exact ⟨l₁, d, l₂ ++ b :: l₃, by simp, shape, first⟩
  | blockBefore l₁ l₂ l₃ b d shape _ first => exact ⟨l₁ ++ b :: l₂, d, l₃, rfl, shape, first⟩

lemma EnumSettled.exists_block (h : EnumSettled type members ds) (hne : members ≠ []) :
    ∃ l₁ b l₂, ds = l₁ ++ b :: l₂ ∧ b.body = renderConsts type members ∧
      b.shape = constsShape type members ∧ ∀ e ∈ l₁, isEnumBlock type e.shape = false := by
  cases h with
  | typeOnly _ _ _ _ _ _ _ empty => exact absurd empty hne
  | blockBehind l₁ l₂ l₃ d b _ _ _ body block _ _ first =>
    exact ⟨l₁ ++ d :: l₂, b, l₃, rfl, body, block, first⟩
  | blockBefore l₁ l₂ l₃ b d _ _ _ body block _ _ first =>
    exact ⟨l₁, b, l₂ ++ d :: l₃, by simp, body, block, first⟩

/-- How many declarations look like the block of the enum. -/
def blockCount (type : String) (f : File) : ℕ := f.decls.countP (isEnumBlock type ·.shape)

lemma blockCount_eq_zero : blockCount type f = 0 ↔ locateEnumBlock f type = none := by
  rw [locateEnumBlock_eq_none, blockCount, List.countP_eq_zero]
  simp

/-- Without values, the first of the blocks is dropped, and the others stay. -/
lemma EnumChanges.blockCount_eq (h : EnumChanges type [] cs) (hr : Rewrites cs f g) :
    blockCount type g = blockCount type f - 1 := by
  rw [blockCount, blockCount, ← hr.before, ← hr.after]
  cases h with
  | noBlock l₁ l₂ c typed first absent =>
    have hnone : (l₁ ++ l₂).countP (isEnumBlock type ·.shape) = 0 :=
      List.countP_eq_zero.mpr fun x hx => by simp [absent x hx]
    rw [List.countP_append] at hnone
    cases typed with
    | kept d shape =>
      simp [newBlock, shape]
      omega
    | inserted =>
      simp [newBlock, enumTypeDecl, Decl.generated]
      omega
  | insertedType l₁ l₂ b block first absent =>
    simp [filterMap_before_cons, filterMap_after_cons, blockChange, block, enumTypeDecl,
      Decl.generated]
  | blockBehind l₁ l₂ l₃ d b shape first block first' =>
    simp [filterMap_after_cons, blockChange, block, shape]
    omega
  | blockBefore l₁ l₂ l₃ b d shape first block first' =>
    simp [filterMap_after_cons, blockChange, block, shape]

/-- The changes for an enum without values. -/
lemma mergeEnum_dropped (h : mergeEnum e f = .ok g) (hv : e.values = []) :
    ∃ cs, Rewrites cs f g ∧ EnumChanges e.typeName [] cs := by
  obtain ⟨cs, members, hr, hm, hchanges⟩ := mergeEnum_changes h
  rw [hv] at hm
  obtain rfl : [] = members := Except.ok.inj hm
  exact ⟨cs, hr, hchanges⟩

lemma locateEnumBlock_dropped (h : mergeEnum e f = .ok g) (hv : e.values = []) :
    locateEnumBlock g e.typeName = none ↔ blockCount e.typeName f ≤ 1 := by
  obtain ⟨cs, hr, hchanges⟩ := mergeEnum_dropped h hv
  rw [← blockCount_eq_zero, hchanges.blockCount_eq hr]
  omega

lemma mergeEnum_values (h : mergeEnum e f = .ok g) (hun : ∀ d ∈ f.decls, d.managed = false)
    (hv : e.values ≠ []) :
    ∃ members, enumMembers e.typeName e.values = .ok members ∧ members ≠ [] ∧
      EnumSettled e.typeName members g.decls := by
  obtain ⟨members, f₂, hm, -, hs⟩ := mergeEnum_settled h hun fun he => absurd he hv
  refine ⟨members, hm, ?_, hs⟩
  rintro rfl
  exact hv (values_eq_nil hm)

lemma locateEnumType_merged (h : mergeEnum e f = .ok g) (hun : ∀ d ∈ f.decls, d.managed = false) :
    ∃ i d, locateEnumType g e.typeName = .ok (some i) ∧ g.decls[i]? = some d ∧
      d.shape = .named e.typeName "string" := by
  obtain ⟨l₁, d, l₂, hg, hd, hfirst⟩ : ∃ l₁ d l₂, g.decls = l₁ ++ d :: l₂ ∧
      d.shape = .named e.typeName "string" ∧
        ∀ x ∈ l₁, x.shape.declares e.typeName = false := by
    by_cases hv : e.values = []
    · obtain ⟨cs, hr, hchanges⟩ := mergeEnum_dropped h hv
      exact hchanges.exists_type hr
    · obtain ⟨members, -, -, hs⟩ := mergeEnum_values h hun hv
      exact hs.exists_type
  exact ⟨l₁.length, d, locateEnumType_split hg hd hfirst, by simp [hg], hd⟩

lemma locateEnumBlock_merged (h : mergeEnum e f = .ok g) (hun : ∀ d ∈ f.decls, d.managed = false)
    (hv : e.values ≠ []) :
    ∃ i b members, locateEnumBlock g e.typeName = some i ∧ g.decls[i]? = some b ∧
      enumMembers e.typeName e.values = .ok members ∧
      b.body = renderConsts e.typeName members ∧ b.shape = constsShape e.typeName members := by
  obtain ⟨members, hm, hne, hs⟩ := mergeEnum_values h hun hv
  obtain ⟨l₁, b, l₂, hg, hbody, hshape, hfirst⟩ := hs.exists_block hne
  have hb : isEnumBlock e.typeName b.shape = true := by
    rw [hshape]
    exact isEnumBlock_constsShape hm hne
  exact ⟨l₁.length, b, members, locateEnumBlock_split hg hb hfirst, by simp [hg], hm, hbody, hshape⟩

/-! ### The next merge -/

lemma disowned_decls (f : File) : List.Forall₂ Disowned f.decls (disowned f).decls :=
  List.forall₂_map_right_iff.mpr (List.forall₂_same.mpr fun _ _ => ⟨rfl, rfl, rfl⟩)

lemma reown_disowned (f : File) :
    { disowned f with decls := reown f.decls (disowned f).decls } = f := by
  have h : ∀ ds : List Decl, reown ds (ds.map fun d => { d with managed := false }) = ds := by
    intro ds
    induction ds with
    | nil => rfl
    | cons d ds ih => exact congrArg (d :: ·) ih
  rw [disowned, h]

/-- Where no block is left over, a second merge changes nothing. -/
lemma mergeEnum_idem (h : mergeEnum e f = .ok g) (hun : ∀ d ∈ f.decls, d.managed = false)
    (hb : ¬ (Model.enum e).LeavesBlock g) : mergeEnum e (disowned g) = .ok g := by
  have hempty : e.values = [] → ∀ d ∈ g.decls, isEnumBlock e.typeName d.shape = false := by
    intro hv d hd
    by_contra hc
    exact hb ⟨hv, d, hd, by simpa using hc⟩
  rw [mergeEnum_disowned h hun hempty (disowned_decls g), reown_disowned]
  obtain ⟨members, f₂, -, rfl, -⟩ := mergeEnum_settled h hun hempty
  rw [syncImports_idem]

/-- A second merge changes nothing, or it drops one more block. -/
lemma mergeEnum_idem_iff (h : mergeEnum e f = .ok g) (hun : ∀ d ∈ f.decls, d.managed = false) :
    mergeEnum e (disowned g) = .ok g ↔ ¬ (Model.enum e).LeavesBlock g := by
  refine ⟨fun hagain hleft => ?_, mergeEnum_idem h hun⟩
  obtain ⟨k, hk, hlen⟩ := mergeEnum_drops h hleft (disowned_decls g)
  obtain rfl : g = k := Except.ok.inj (hagain.symm.trans hk)
  exact absurd hlen (Nat.lt_irrefl _)

lemma leavesBlock_iff (h : mergeEnum e f = .ok g) :
    (Model.enum e).LeavesBlock g ↔ ¬ (e.values = [] → blockCount e.typeName f ≤ 1) := by
  rw [Classical.not_imp]
  refine and_congr_right fun hv => ?_
  rw [← locateEnumBlock_dropped h hv, locateEnumBlock_eq_none]
  simp

/-- **What the merge of an enum has put in its place is found there.** The type is found, and so is
the block with the members. Of an enum without values no block is found if and only if the old file
had at most one; then, and for an enum with values, a second merge changes nothing. -/
theorem mergeEnum_located {existing : Option String} {package : String}
    (hf : current existing package = .ok f) (hg : mergeEnum e f = .ok g) :
    (∃ i d, locateEnumType g e.typeName = .ok (some i) ∧ g.decls[i]? = some d ∧
        d.shape = .named e.typeName "string") ∧
      (e.values ≠ [] → ∃ i b members, locateEnumBlock g e.typeName = some i ∧
        g.decls[i]? = some b ∧ enumMembers e.typeName e.values = .ok members ∧
        b.body = renderConsts e.typeName members ∧ b.shape = constsShape e.typeName members) ∧
      (e.values = [] → (locateEnumBlock g e.typeName = none ↔ blockCount e.typeName f ≤ 1)) ∧
      (mergeEnum e (disowned g) = .ok g ↔ (e.values = [] → blockCount e.typeName f ≤ 1)) := by
  have hun := current_unmanaged hf
  refine ⟨locateEnumType_merged hg hun, locateEnumBlock_merged hg hun,
    locateEnumBlock_dropped hg, ?_⟩
  rw [mergeEnum_idem_iff hg hun, leavesBlock_iff hg, not_not]

/-- An enum that has lost its values. -/
def formerMood : EnumType := { name := "mood", values := [] }

/-- Two blocks of constants, of which the generator has written one. -/
def twoBlocks : String :=
  "package models\n\ntype Mood string\n\nconst (\n\tMoodHappy Mood = \"happy\"\n)\n\n" ++
    "const (\n\tMoodSad Mood = \"sad\"\n)\n"

lemma mergeSource_twoBlocks : mergeSource (.enum formerMood) (some twoBlocks) "models" =
    .ok ("package models\n\ntype Mood string\n\nconst (\n\tMoodSad Mood = \"sad\"\n)\n") := by
  decide +kernel

theorem mergeEnum_located_twoBlocks :
    ∃ f g, current (some twoBlocks) "models" = .ok f ∧ mergeEnum formerMood f = .ok g ∧
      (∃ i d, locateEnumType g formerMood.typeName = .ok (some i) ∧ g.decls[i]? = some d ∧
        d.shape = .named formerMood.typeName "string") ∧
      (locateEnumBlock g formerMood.typeName = none ↔ blockCount formerMood.typeName f ≤ 1) ∧
      (mergeEnum formerMood (disowned g) = .ok g ↔ blockCount formerMood.typeName f ≤ 1) := by
  obtain ⟨f, g, hf, hg, -⟩ := mergeSource_eq_ok_iff.mp mergeSource_twoBlocks
  obtain ⟨htype, -, hblock, hagain⟩ := mergeEnum_located hf hg
  exact ⟨f, g, hf, hg, htype, hblock rfl, by simpa [formerMood] using hagain⟩

/-- The block that is written by hand is found after the merge, and dropped by the next. -/
theorem mergeEnum_twoBlocks :
    ∃ f g k, current (some twoBlocks) "models" = .ok f ∧ mergeEnum formerMood f = .ok g ∧
      formerMood.values = [] ∧ locateEnumBlock g formerMood.typeName ≠ none ∧
      mergeEnum formerMood (disowned g) = .ok k ∧ k.decls.length < g.decls.length := by
  have hcount : (current (some twoBlocks) "models").map (blockCount formerMood.typeName) =
      .ok 2 := by
    decide +kernel
  obtain ⟨f, g, hf, hg, -⟩ := mergeSource_eq_ok_iff.mp mergeSource_twoBlocks
  rw [hf] at hcount
  have htwo : blockCount formerMood.typeName f = 2 := Except.ok.inj hcount
  have hleft : (Model.enum formerMood).LeavesBlock g := by
    rw [leavesBlock_iff hg, htwo]
    simp [formerMood]
  obtain ⟨k, hk, hlen⟩ := mergeEnum_drops hg hleft (disowned_decls g)
  refine ⟨f, g, k, hf, hg, rfl, ?_, hk, hlen⟩
  rw [Ne, locateEnumBlock_dropped hg rfl, htwo]
  omega

end SchemaGo.Merge
