import Mathlib
import SchemaGo.Proofs.Merge.Fields
import SchemaGo.Proofs.Merge.Frame
import SchemaGo.Proofs.Merge.Imports

/-!
A merge settles a file. When what it leaves is printed and read back, a second merge finds each of
its declarations where the first has left it, and gives it the text that it has already.
-/

namespace SchemaGo.Merge

open Go

variable {f g g' : File} {ds es : List Decl}

/-! ### Declarations that are read back -/

/-- A declaration as a later run has it, which knows nothing to be the generator's. -/
structure Disowned (d e : Decl) : Prop where
  body : e.body = d.body
  shape : e.shape = d.shape
  managed : e.managed = false

lemma disowned_of_readBack (h : List.Forall₂ Decl.ReadBack ds es) : List.Forall₂ Disowned ds es :=
  h.imp fun _ _ h => ⟨h.body, h.shape, h.managed⟩

/-- The declarations `es`, owned as `ds` are. -/
def reown (ds es : List Decl) : List Decl :=
  List.zipWith (fun d e => { e with managed := d.managed }) ds es

lemma forall₂_split {R : Decl → Decl → Prop} {l₁ l₂ : List Decl} {d : Decl}
    (h : List.Forall₂ R (l₁ ++ d :: l₂) es) :
    ∃ k₁ e k₂, es = k₁ ++ e :: k₂ ∧ List.Forall₂ R l₁ k₁ ∧ R d e ∧ List.Forall₂ R l₂ k₂ := by
  induction l₁ generalizing es with
  | nil =>
    obtain ⟨e, k₂, hd, h₂, rfl⟩ := List.forall₂_cons_left_iff.mp h
    exact ⟨[], e, k₂, rfl, .nil, hd, h₂⟩
  | cons x l₁ ih =>
    obtain ⟨y, ks, hx, hks, rfl⟩ := List.forall₂_cons_left_iff.mp h
    obtain ⟨k₁, e, k₂, rfl, h₁, hd, h₂⟩ := ih hks
    exact ⟨y :: k₁, e, k₂, rfl, .cons hx h₁, hd, h₂⟩

lemma reown_split {l₁ l₂ k₁ k₂ : List Decl} {d e : Decl} (h : l₁.length = k₁.length) :
    reown (l₁ ++ d :: l₂) (k₁ ++ e :: k₂) =
      reown l₁ k₁ ++ { e with managed := d.managed } :: reown l₂ k₂ := by
  rw [reown, List.zipWith_append h]
  rfl

lemma reown_unmanaged (h : List.Forall₂ Disowned ds es)
    (hd : ∀ d ∈ ds, d.managed = false) : reown ds es = es := by
  induction h with
  | nil => rfl
  | @cons d e ds es hde _ ih =>
    rw [reown, List.zipWith_cons_cons, hd d (by simp), ← hde.managed]
    exact congrArg _ (ih fun x hx => hd x (by simp [hx]))

lemma shapes_of_disowned (h : List.Forall₂ Disowned ds es) {p : Shape → Prop}
    (hd : ∀ d ∈ ds, p d.shape) : ∀ e ∈ es, p e.shape := by
  induction h with
  | nil => simp
  | @cons d e ds es hde _ ih =>
    intro x hx
    rcases List.mem_cons.mp hx with rfl | hx
    · rw [hde.shape]
      exact hd d (by simp)
    · exact ih (fun y hy => hd y (by simp [hy])) x hx

lemma preservedQualifiers_reown (h : List.Forall₂ Decl.ReadBack ds es) :
    ((reown ds es).filter (!·.managed)).flatMap (·.qualifiers) =
      (ds.filter (!·.managed)).flatMap (·.qualifiers) := by
  induction h with
  | nil => rfl
  | @cons d e ds es hde _ ih =>
    rw [reown] at ih
    cases hm : d.managed with
    | true => simpa [reown, hm] using ih
    | false => simp [reown, hm, ih, hde.qualifiers hm]

/-- Who owns a declaration does not show in the print. -/
lemma print_reown (h : List.Forall₂ Decl.ReadBack ds g'.decls) :
    File.print { g' with decls := reown ds g'.decls } = g'.print := by
  have hlooks : List.Forall₂ Decl.Looks g'.decls (reown ds g'.decls) ∧
      (reown ds g'.decls).map (·.blankBefore) = g'.decls.map (·.blankBefore) := by
    generalize g'.decls = es at h
    induction h with
    | nil => exact ⟨.nil, rfl⟩
    | cons hde _ ih => exact ⟨.cons ⟨rfl, rfl⟩ ih.1, by simpa [reown] using ih.2⟩
  have hds := printDecls_of_looks hlooks.1 (by rw [List.map_tail, List.map_tail, hlooks.2])
  simp only [File.print, hds]
  rfl

/-- The last step of a second merge. -/
lemma syncImports_reown {needed : List String} (hr : (syncImports f needed).ReadBack g') :
    syncImports { g' with decls := reown (syncImports f needed).decls g'.decls } needed =
      { g' with decls := reown (syncImports f needed).decls g'.decls } := by
  refine syncImports_again (f := f) ?_ ?_
  · have hn : SameNames (syncImports f needed) g' := sameNames_of_readBack hr.imports
    exact hn
  · rw [File.preservedQualifiers, preservedQualifiers_reown hr.decls.decls, syncImports_decls]
    rfl

/-! ### Structs -/

/-- The struct stands generated among `ds`, and nothing else is the generator's. -/
def StructSettled (name : String) (fields : List Field) (ds : List Decl) : Prop :=
  ∃ l₁ d l₂, ds = l₁ ++ d :: l₂ ∧ d.body = renderStruct name fields ∧
    d.shape = structShape name fields ∧ d.managed = true ∧
    (∀ e ∈ l₁, e.shape.declares name = false) ∧ ∀ e ∈ l₁ ++ l₂, e.managed = false

lemma StructSettled.again {name : String} {fields : List Field}
    (hs : StructSettled name fields ds) (hr : List.Forall₂ Disowned ds g'.decls) :
    ∃ i, locateStruct g' name = .ok (some i) ∧
      g'.replace i (renderStruct name fields) (structShape name fields) =
        { g' with decls := reown ds g'.decls } := by
  obtain ⟨l₁, d, l₂, rfl, hbody, hshape, hm, hfirst, hun⟩ := hs
  obtain ⟨k₁, e, k₂, hk, h₁, hde, h₂⟩ := forall₂_split hr
  have hshape' : e.shape = structShape name fields := hde.shape.trans hshape
  have hfirst' : ∀ x ∈ k₁, x.shape.declares name = false :=
    shapes_of_disowned (p := fun s => s.declares name = false) h₁ hfirst
  refine ⟨k₁.length, locateStruct_split hk hshape' hfirst', ?_⟩
  have hdecls : (g'.replace k₁.length (renderStruct name fields) (structShape name fields)).decls =
      reown (l₁ ++ d :: l₂) g'.decls := by
    rw [File.replace_split hk, hk, reown_split h₁.length_eq,
      reown_unmanaged h₁ fun x hx => hun x (by simp [hx]),
      reown_unmanaged h₂ fun x hx => hun x (by simp [hx]), hm, ← hbody, ← hde.body, ← hshape']
  rw [← hdecls]
  rfl

lemma structSettled_replace {name : String} {l₁ l₂ : List Decl} {d : Decl} {i : ℕ}
    (fields : List Field) (hf : f.decls = l₁ ++ d :: l₂) (hi : l₁.length = i)
    (hfirst : ∀ e ∈ l₁, e.shape.declares name = false) (hun : ∀ e ∈ f.decls, e.managed = false) :
    StructSettled name fields
      (f.replace i (renderStruct name fields) (structShape name fields)).decls := by
  subst hi
  refine ⟨l₁, _, l₂, File.replace_split hf _ _, rfl, rfl, rfl, hfirst, fun e he => hun e ?_⟩
  rw [hf]
  simp only [List.mem_append, List.mem_cons] at he ⊢
  tauto

lemma structSettled_insert {name : String} {l₁ l₂ : List Decl} {i : ℕ} (fields : List Field)
    (hf : f.decls = l₁ ++ l₂) (hi : l₁.length = i)
    (hfirst : ∀ e ∈ l₁, e.shape.declares name = false) (hun : ∀ e ∈ f.decls, e.managed = false) :
    StructSettled name fields
      (f.insert i (.generated (renderStruct name fields) (structShape name fields))).decls := by
  subst hi
  exact ⟨l₁, _, l₂, File.insert_split hf _, rfl, rfl, rfl, hfirst, fun e he => hun e (hf ▸ he)⟩

/-! ### Composite types -/

lemma mergeComposite_settled {c : CompositeType} (h : mergeComposite c f = .ok g)
    (hun : ∀ d ∈ f.decls, d.managed = false) :
    ∃ fs f₂, columnFields c.columns = .ok fs ∧ g = syncImports f₂ fs.imports ∧
      StructSettled c.typeName fs.fields g.decls := by
  obtain ⟨fs, f₂, hfs, rfl, hf₂⟩ := mergeComposite_steps h
  refine ⟨fs, f₂, hfs, rfl, ?_⟩
  rw [syncImports_decls]
  rcases hf₂ with ⟨i, hl, rfl⟩ | ⟨hl, rfl⟩
  · obtain ⟨l₁, d, l₂, old, hf, hi, -, hb⟩ := locateStruct_eq_some hl
    exact structSettled_replace fs.fields hf hi hb hun
  · obtain ⟨l₁, l₂, hf, hi, -⟩ := File.insert_decls f.anchor_le (default : Decl)
    refine structSettled_insert fs.fields hf hi (fun e he => ?_) hun
    exact locateStruct_eq_none hl e (by rw [hf]; exact List.mem_append_left _ he)

lemma mergeComposite_again {c : CompositeType} (h : mergeComposite c f = .ok g)
    (hun : ∀ d ∈ f.decls, d.managed = false) (hr : g.ReadBack g') :
    mergeComposite c g' = .ok { g' with decls := reown g.decls g'.decls } := by
  obtain ⟨fs, f₂, hfs, rfl, hs⟩ := mergeComposite_settled h hun
  obtain ⟨i, hl, hg⟩ := hs.again (disowned_of_readBack hr.decls.decls)
  simp only [mergeComposite, bind, Except.bind, pure, Except.pure, hfs, hl]
  rw [hg, syncImports_reown hr]

/-! ### Tables -/

/-- The container stands among `ds`, and the columns without a field in it have those of `fs`. -/
def ContainerSettled (t : Table) (fs : Fields) (ds : List Decl) : Prop :=
  ∃ l₁ box l₂ declared, ds = l₁ ++ box :: l₂ ∧ box.shape = .struct t.extensionName declared ∧
    (∀ e ∈ l₁, e.shape.declares t.extensionName = false) ∧ mainFields t declared = .ok fs

lemma fieldsAt_split {l₁ l₂ : List Decl} {d : Decl} {name : String} {fields : List String}
    (hf : f.decls = l₁ ++ d :: l₂) (hd : d.shape = .struct name fields) :
    fieldsAt f l₁.length = fields := by
  obtain ⟨leading, body, blankBefore, shape, qualifiers, managed⟩ := d
  obtain rfl : shape = .struct name fields := hd
  simp [fieldsAt, hf]

/-- With the container in it, the file has the container at the place that is told, where a new one
stands between what there was. -/
lemma withContainer_located {t : Table} {i : ℕ} (h : withContainer t f = .ok (g, i)) :
    ∃ l₁ box l₂ declared, g.decls = l₁ ++ box :: l₂ ∧ l₁.length = i ∧
      box.shape = .struct t.extensionName declared ∧
      (∀ e ∈ l₁, e.shape.declares t.extensionName = false) ∧
      (f.decls = l₁ ++ box :: l₂ ∨ f.decls = l₁ ++ l₂ ∧ box = container t ∧
        ∀ e ∈ l₂, e.shape.declares t.extensionName = false) := by
  rcases withContainer_cases h with ⟨rfl, hl⟩ | ⟨hl, rfl, rfl⟩
  · obtain ⟨l₁, box, l₂, declared, hf, hi, hshape, hfirst⟩ := locateStruct_eq_some hl
    exact ⟨l₁, box, l₂, declared, hf, hi, hshape, hfirst, .inl hf⟩
  · obtain ⟨l₁, l₂, hf, hi, hg⟩ := File.insert_decls f.anchor_le (container t)
    have hn := locateStruct_eq_none hl
    rw [hf] at hn
    exact ⟨l₁, container t, l₂, [], hg, hi, rfl, fun e he => hn e (by simp [he]),
      .inr ⟨hf, rfl, fun e he => hn e (by simp [he])⟩⟩

lemma withContainer_found {t : Table} {i : ℕ} (h : withContainer t f = .ok (g, i))
    (hun : ∀ d ∈ f.decls, d.managed = false) :
    (∀ d ∈ g.decls, d.managed = false) ∧
      ∃ l₁ box l₂ declared, g.decls = l₁ ++ box :: l₂ ∧ l₁.length = i ∧
        box.shape = .struct t.extensionName declared ∧
        ∀ e ∈ l₁, e.shape.declares t.extensionName = false := by
  obtain ⟨l₁, box, l₂, declared, hg, hi, hshape, hfirst, hf⟩ := withContainer_located h
  refine ⟨fun d hd => ?_, l₁, box, l₂, declared, hg, hi, hshape, hfirst⟩
  rcases hf with hf | ⟨hf, rfl, -⟩
  · exact hun d (by rwa [hf, ← hg])
  · rw [hf] at hun
    rw [hg] at hd
    rcases List.mem_append.mp hd with hd | hd
    · exact hun d (by simp [hd])
    · rcases List.mem_cons.mp hd with rfl | hd
      · rfl
      · exact hun d (by simp [hd])

/-- The first declaration with a property is still the first when another one changes. -/
lemma split_of_change {P : Decl → Prop} {k₁ k₂ l₁ l₂ : List Decl} {b d c : Decl}
    (h : k₁ ++ b :: k₂ = l₁ ++ d :: l₂) (hk : ∀ e ∈ k₁, ¬ P e) (hb : P b) (hd : ¬ P d)
    (hc : ¬ P c) : ∃ m₁ m₂, l₁ ++ c :: l₂ = m₁ ++ b :: m₂ ∧ ∀ e ∈ m₁, ¬ P e := by
  rcases List.append_eq_append_iff.mp h with ⟨m, rfl, hm⟩ | ⟨m, rfl, hm⟩
  · -- the one that changes stands behind
    rcases m with _ | ⟨x, m⟩
    · obtain ⟨rfl, -⟩ := List.cons.inj hm
      exact absurd hb hd
    · obtain ⟨rfl, rfl⟩ : b = x ∧ k₂ = m ++ d :: l₂ := by simpa using hm
      exact ⟨k₁, m ++ c :: l₂, by simp, hk⟩
  · rcases m with _ | ⟨x, m⟩
    · obtain ⟨rfl, -⟩ := List.cons.inj hm
      exact absurd hb hd
    · obtain ⟨rfl, rfl⟩ : d = x ∧ l₂ = m ++ b :: k₂ := by simpa using hm
      refine ⟨l₁ ++ c :: m, k₂, by simp, fun e he => ?_⟩
      rcases List.mem_append.mp he with he | he
      · exact hk e (by simp [he])
      · rcases List.mem_cons.mp he with rfl | he
        · exact hc
        · exact hk e (by simp [he])

lemma mergeTable_settled {t : Table} (h : mergeTable t f = .ok g)
    (hun : ∀ d ∈ f.decls, d.managed = false) :
    ∃ fs f₂, g = syncImports f₂ fs.imports ∧ ContainerSettled t fs g.decls ∧
      StructSettled t.typeName fs.fields g.decls := by
  obtain ⟨f₁, i, fs, f₂, hc, hm, hp, rfl⟩ := mergeTable_steps h
  refine ⟨fs, f₂, rfl, ?_⟩
  rw [syncImports_decls]
  obtain ⟨hun₁, k₁, box, k₂, declared, hf, rfl, hshape, hfirst⟩ := withContainer_found hc hun
  rw [fieldsAt_split hf hshape] at hm
  rcases placeMain_cases hp with ⟨j, hl, rfl⟩ | ⟨hl, i?, hi?, rfl⟩
  · obtain ⟨l₁, d, l₂, old, hf', hj, hd, hb⟩ := locateStruct_eq_some hl
    refine ⟨?_, structSettled_replace fs.fields hf' hj hb hun₁⟩
    subst hj
    -- the main struct does not declare the name of the container, neither before nor after
    have hne : ∀ fields, (Shape.struct t.typeName fields).declares t.extensionName = false := by
      intro fields
      simp [Shape.declares, Shape.names, extensionName_ne_typeName]
    obtain ⟨m₁, m₂, hsplit, hm₁⟩ := split_of_change
      (P := fun e => e.shape.declares t.extensionName = true) (hf.symm.trans hf')
      (fun e he => by simp [hfirst e he]) (by simp [hshape, Shape.declares, Shape.names])
      (by simp [hd, hne]) (c := { d with
        body := renderStruct t.typeName fs.fields
        shape := structShape t.typeName fs.fields
        managed := true }) (by simp [structShape, hne])
    refine ⟨m₁, box, m₂, declared, ?_, hshape, fun e he => by simpa using hm₁ e he, hm⟩
    rw [File.replace_split hf', hsplit]
  · have hbox : locateStruct f₁ t.extensionName = .ok (some k₁.length) :=
      locateStruct_split hf hshape hfirst
    obtain rfl : i? = some k₁.length := by simpa [hbox, eq_comm] using hi?
    have hf' : f₁.decls = (k₁ ++ [box]) ++ k₂ := by simp [hf]
    have hn := locateStruct_eq_none hl
    rw [hf'] at hn
    have hlen : (k₁ ++ [box]).length = k₁.length + 1 := by simp
    refine ⟨?_, structSettled_insert fs.fields hf' hlen
      (fun e he => hn e (List.mem_append_left _ he)) hun₁⟩
    have hg := File.insert_split hf'
      (.generated (renderStruct t.typeName fs.fields) (structShape t.typeName fs.fields))
    rw [hlen] at hg
    exact ⟨k₁, box, _, declared, by rw [Option.elim, hg, List.append_assoc]; rfl, hshape, hfirst,
      hm⟩

lemma mergeTable_again {t : Table} (h : mergeTable t f = .ok g)
    (hun : ∀ d ∈ f.decls, d.managed = false) (hr : g.ReadBack g') :
    mergeTable t g' = .ok { g' with decls := reown g.decls g'.decls } := by
  obtain ⟨fs, f₂, rfl, hc, hs⟩ := mergeTable_settled h hun
  obtain ⟨i, hl, hg⟩ := hs.again (disowned_of_readBack hr.decls.decls)
  obtain ⟨l₁, box, l₂, declared, hds, hshape, hfirst, hm⟩ := hc
  have hds' := disowned_of_readBack hr.decls.decls
  rw [hds] at hds'
  obtain ⟨k₁, e, k₂, hk, h₁, hbox, -⟩ := forall₂_split hds'
  have hshape' : e.shape = .struct t.extensionName declared := hbox.shape.trans hshape
  have hfirst' : ∀ x ∈ k₁, x.shape.declares t.extensionName = false :=
    shapes_of_disowned (p := fun s => s.declares t.extensionName = false) h₁ hfirst
  have hx : locateStruct g' t.extensionName = .ok (some k₁.length) :=
    locateStruct_split hk hshape' hfirst'
  simp only [mergeTable, withContainer, placeMain, bind, Except.bind, pure, Except.pure, hx, hl,
    fieldsAt_split hk hshape', hm]
  rw [hg, syncImports_reown hr]

/-! ### Enums -/

section Enums

variable {type : String} {members : List Member}

lemma exists_suffix_of_enumMembers {values : List String}
    (h : enumMembers type values = .ok members) :
    ∀ m ∈ members, ∃ suffix, suffix ≠ "" ∧ m.name = type ++ suffix := by
  obtain ⟨-, rfl⟩ := enumMembers_eq_ok_iff.mp h
  intro m hm
  obtain ⟨i, hi, rfl⟩ := List.mem_mapIdx.mp hm
  simp only [memberName]
  split
  · refine ⟨"Value" ++ i.repr, fun he => ?_, rfl⟩
    simpa using congrArg String.toList he
  · next hne => exact ⟨_, by simpa using hne, rfl⟩

lemma ne_of_enumMembers {values : List String} (h : enumMembers type values = .ok members)
    {m : Member} (hm : m ∈ members) : m.name ≠ type := by
  obtain ⟨suffix, hne, hs⟩ := exists_suffix_of_enumMembers h m hm
  intro he
  have hl := congrArg String.length (hs.symm.trans he)
  rw [String.length_append] at hl
  exact hne (by simpa using hl)

/-- A generated block is recognised as the block of its enum. -/
lemma isEnumBlock_constsShape {values : List String} (h : enumMembers type values = .ok members)
    (hne : members ≠ []) : isEnumBlock type (constsShape type members) = true := by
  obtain ⟨m, ms, rfl⟩ := List.exists_cons_of_ne_nil hne
  have hall : ∀ x ∈ m :: ms, type.toList.isPrefixOf x.name.toList = true := by
    intro x hx
    obtain ⟨suffix, -, hs⟩ := exists_suffix_of_enumMembers h x hx
    rw [hs, String.toList_append]
    exact List.isPrefixOf_iff_prefix.mpr ⟨_, rfl⟩
  simp only [isEnumBlock, constsShape, List.map_cons, List.head?_cons, Option.bind_some,
    Bool.and_eq_true, beq_self_eq_true, true_and, List.all_eq_true]
  intro n hn
  simp only [List.flatMap_cons, List.flatMap_map, List.mem_append, List.mem_flatMap,
    List.mem_singleton] at hn
  rcases hn with rfl | ⟨x, hx, rfl⟩
  · exact hall m (by simp)
  · exact hall x (by simp [hx])

/-! #### Members that are free -/

lemma checkMembers_eq_ok {block : Option ℕ} :
    checkMembers f block members = .ok () ↔
      ∀ m ∈ members, ∀ i d, f.find? m.name = some (i, d) → block = some i := by
  induction members with
  | nil => simp [checkMembers]
  | cons m ms ih =>
    unfold checkMembers
    rcases hf : f.find? m.name with _ | ⟨i, d⟩
    · simp [ih, hf]
    · by_cases hb : block = some i
      · subst hb
        simpa [hf] using ih
      · simp [hb, hf]

/-- Nothing in front of the block declares a member. -/
lemma free_of_checkMembers {l₁ l₂ : List Decl} {b : Decl} (hf : f.decls = l₁ ++ b :: l₂)
    (h : checkMembers f (some l₁.length) members = .ok ()) :
    ∀ m ∈ members, ∀ e ∈ l₁, e.shape.declares m.name = false := by
  intro m hm e he
  by_contra hd
  rcases hfind : f.find? m.name with _ | ⟨i, d⟩
  · exact hd (File.find?_eq_none.mp hfind e (by rw [hf]; exact List.mem_append_left _ he))
  · have hi := checkMembers_eq_ok.mp h m hm i d hfind
    obtain ⟨k₁, k₂, hk, hlen, -, hfirst⟩ := File.find?_eq_some hfind
    obtain rfl : l₁ = k₁ := List.append_inj_left (hf.symm.trans hk) (by simp_all)
    exact hd (hfirst e he)

lemma free_of_checkMembers_none (h : checkMembers f none members = .ok ()) :
    ∀ m ∈ members, ∀ e ∈ f.decls, e.shape.declares m.name = false := by
  intro m hm
  apply File.find?_eq_none.mp
  rcases hfind : f.find? m.name with _ | ⟨i, d⟩
  · rfl
  · exact absurd (checkMembers_eq_ok.mp h m hm i d hfind) (by simp)

/-! #### Places -/

/-- The type and the block stand among `ds`, and nothing else is the generator's. An enum
without values has no block. -/
inductive EnumSettled (type : String) (members : List Member) : List Decl → Prop
  | typeOnly (l₁ l₂ : List Decl) (d : Decl) (shape : d.shape = .named type "string")
      (managed : d.managed = true) (first : ∀ e ∈ l₁, e.shape.declares type = false)
      (unmanaged : ∀ e ∈ l₁ ++ l₂, e.managed = false) (empty : members = [])
      (absent : ∀ e ∈ l₁ ++ d :: l₂, isEnumBlock type e.shape = false) :
      EnumSettled type members (l₁ ++ d :: l₂)
  | blockBehind (l₁ l₂ l₃ : List Decl) (d b : Decl) (shape : d.shape = .named type "string")
      (managed : d.managed = true) (first : ∀ e ∈ l₁, e.shape.declares type = false)
      (body : b.body = renderConsts type members) (block : b.shape = constsShape type members)
      (managed' : b.managed = true)
      (unmanaged : ∀ e ∈ l₁ ++ l₂ ++ l₃, e.managed = false)
      (first' : ∀ e ∈ l₁ ++ d :: l₂, isEnumBlock type e.shape = false)
      (free : ∀ m ∈ members, ∀ e ∈ l₁ ++ d :: l₂, e.shape.declares m.name = false)
      (nonempty : members ≠ []) :
      EnumSettled type members ((l₁ ++ d :: l₂) ++ b :: l₃)
  | blockBefore (l₁ l₂ l₃ : List Decl) (b d : Decl) (shape : d.shape = .named type "string")
      (managed : d.managed = true) (first : ∀ e ∈ l₁ ++ b :: l₂, e.shape.declares type = false)
      (body : b.body = renderConsts type members) (block : b.shape = constsShape type members)
      (managed' : b.managed = true)
      (unmanaged : ∀ e ∈ l₁ ++ l₂ ++ l₃, e.managed = false)
      (first' : ∀ e ∈ l₁, isEnumBlock type e.shape = false)
      (free : ∀ m ∈ members, ∀ e ∈ l₁, e.shape.declares m.name = false)
      (nonempty : members ≠ []) :
      EnumSettled type members ((l₁ ++ b :: l₂) ++ d :: l₃)

lemma locateEnumType_split {l₁ l₂ : List Decl} {d : Decl} (hf : f.decls = l₁ ++ d :: l₂)
    (hd : d.shape = .named type "string") (h₁ : ∀ e ∈ l₁, e.shape.declares type = false) :
    locateEnumType f type = .ok (some l₁.length) := by
  have h := File.find?_split hf h₁ (by simp [hd, Shape.declares, Shape.names])
  simp [locateEnumType, h, hd]

lemma declares_constsShape {m : Member} (hm : m ∈ members) :
    (constsShape type members).declares m.name = true := by
  simp only [Shape.declares, constsShape, Shape.names, List.contains_iff_mem, List.mem_flatMap,
    List.mem_map]
  exact ⟨_, ⟨m, hm, rfl⟩, by simp⟩

/-- Members that nothing in front of the block declares are no collision. -/
lemma checkMembers_split {l₁ l₂ : List Decl} {b : Decl} (hf : f.decls = l₁ ++ b :: l₂)
    (hb : b.shape = constsShape type members)
    (h₁ : ∀ m ∈ members, ∀ e ∈ l₁, e.shape.declares m.name = false) :
    checkMembers f (some l₁.length) members = .ok () := by
  refine checkMembers_eq_ok.mpr fun m hm i d hfind => ?_
  have hd : b.shape.declares m.name = true := by
    rw [hb]
    exact declares_constsShape hm
  rw [File.find?_split hf (h₁ m hm) hd] at hfind
  simp_all

/-- A block with its text already is put where it stands. -/
lemma placeBlock_same {l₁ l₂ : List Decl} {b : Decl} (hf : f.decls = l₁ ++ b :: l₂)
    (hb : b.body = renderConsts type members) (hs : b.shape = constsShape type members)
    (hne : members ≠ []) (hblock : isEnumBlock type (constsShape type members) = true)
    (h₁ : ∀ e ∈ l₁, isEnumBlock type e.shape = false) (i : ℕ) :
    placeBlock type members i f =
      { f with decls := l₁ ++ { b with managed := true } :: l₂ } := by
  have h : (placeBlock type members i f).decls =
      l₁ ++ (blockChange type members b).after.toList ++ l₂ :=
    placeBlock_old hf (by rw [hs]; exact hblock) h₁ i
  rw [placeBlock_decls_only, h, blockChange, if_neg (by simpa using hne), ← hb, ← hs]
  simp

/-- A second merge records the owners, and changes nothing else. -/
lemma EnumSettled.again {values : List String} (hs : EnumSettled type members ds)
    (hv : enumMembers type values = .ok members) (hr : List.Forall₂ Disowned ds g'.decls) :
    ∃ i, locateEnumType g' type = .ok (some i) ∧
      checkMembers g' (locateEnumBlock g' type) members = .ok () ∧
      placeBlock type members i (g'.setManaged i true) =
        { g' with decls := reown ds g'.decls } := by
  have hblocks : ∀ {xs ys : List Decl}, List.Forall₂ Disowned xs ys →
      (∀ e ∈ xs, isEnumBlock type e.shape = false) → ∀ e ∈ ys, isEnumBlock type e.shape = false :=
    fun h => shapes_of_disowned (p := fun s => isEnumBlock type s = false) h
  have hdeclares : ∀ {xs ys : List Decl} {name : String}, List.Forall₂ Disowned xs ys →
      (∀ e ∈ xs, e.shape.declares name = false) → ∀ e ∈ ys, e.shape.declares name = false :=
    fun h => shapes_of_disowned (p := fun s => s.declares _ = false) h
  have hblock := isEnumBlock_constsShape hv
  cases hs with
  | typeOnly l₁ l₂ d shape managed first unmanaged empty absent =>
    subst empty
    have habsent := hblocks hr absent
    obtain ⟨k₁, e, k₂, hk, h₁, hde, h₂⟩ := forall₂_split hr
    have hno : locateEnumBlock g' type = none := locateEnumBlock_eq_none.mpr habsent
    refine ⟨k₁.length, locateEnumType_split hk (hde.shape.trans shape) (hdeclares h₁ first), by
      simp [checkMembers], ?_⟩
    have hm := File.setManaged_split hk true
    have hno' : locateEnumBlock (g'.setManaged k₁.length true) type = none := by
      refine locateEnumBlock_eq_none.mpr fun x hx => ?_
      rw [hm] at hx
      rw [hk] at habsent
      rcases List.mem_append.mp hx with hx | hx
      · exact habsent x (by simp [hx])
      · rcases List.mem_cons.mp hx with rfl | hx
        · exact habsent e (by simp)
        · exact habsent x (by simp [hx])
    have hdecls : (g'.setManaged k₁.length true).decls = reown (l₁ ++ d :: l₂) g'.decls := by
      rw [hm, hk, reown_split h₁.length_eq,
        reown_unmanaged h₁ fun x hx => unmanaged x (by simp [hx]),
        reown_unmanaged h₂ fun x hx => unmanaged x (by simp [hx]), managed]
    rw [placeBlock, hno', ← hdecls]
    rfl
  | blockBehind l₁ l₂ l₃ d b shape managed first body block managed' unmanaged first' free
      nonempty =>
    obtain ⟨k, b', k₃, hk, h₁₂, hb, h₃⟩ := forall₂_split hr
    have hbehind := hblocks h₁₂ first'
    have hfree := fun m hm => hdeclares h₁₂ (free m hm)
    obtain ⟨k₁, e, k₂, rfl, h₁, hde, h₂⟩ := forall₂_split h₁₂
    have hshape : b'.shape = constsShape type members := hb.shape.trans block
    have hk' : g'.decls = k₁ ++ e :: (k₂ ++ b' :: k₃) := by simp [hk]
    have hm : (g'.setManaged k₁.length true).decls =
        (k₁ ++ { e with managed := true } :: k₂) ++ b' :: k₃ := by
      rw [File.setManaged_split hk' true]
      simp
    refine ⟨k₁.length, locateEnumType_split hk' (hde.shape.trans shape) (hdeclares h₁ first), ?_,
      ?_⟩
    · rw [locateEnumBlock_split hk (by rw [hshape]; exact hblock nonempty) hbehind]
      exact checkMembers_split hk hshape hfree
    · rw [placeBlock_same hm (hb.body.trans body) hshape nonempty (hblock nonempty) ?_, hk,
        reown_split h₁₂.length_eq, reown_split h₁.length_eq, managed, managed',
        reown_unmanaged h₁ fun x hx => unmanaged x (by simp [hx]),
        reown_unmanaged h₂ fun x hx => unmanaged x (by simp [hx]),
        reown_unmanaged h₃ fun x hx => unmanaged x (by simp [hx])]
      · rfl
      · intro x hx
        rcases List.mem_append.mp hx with hx | hx
        · exact hbehind x (by simp [hx])
        · rcases List.mem_cons.mp hx with rfl | hx
          · exact hbehind e (by simp)
          · exact hbehind x (by simp [hx])
  | blockBefore l₁ l₂ l₃ b d shape managed first body block managed' unmanaged first' free
      nonempty =>
    obtain ⟨k, e, k₃, hk, h₁₂, hde, h₃⟩ := forall₂_split hr
    have hfirst := hdeclares h₁₂ first
    obtain ⟨k₁, b', k₂, rfl, h₁, hb, h₂⟩ := forall₂_split h₁₂
    have hshape : b'.shape = constsShape type members := hb.shape.trans block
    have hk' : g'.decls = k₁ ++ b' :: (k₂ ++ e :: k₃) := by simp [hk]
    have hm : (g'.setManaged (k₁ ++ b' :: k₂).length true).decls =
        k₁ ++ b' :: (k₂ ++ { e with managed := true } :: k₃) := by
      rw [File.setManaged_split hk true]
      simp
    refine ⟨(k₁ ++ b' :: k₂).length, locateEnumType_split hk (hde.shape.trans shape) hfirst, ?_, ?_⟩
    · rw [locateEnumBlock_split hk' (by rw [hshape]; exact hblock nonempty) (hblocks h₁ first')]
      exact checkMembers_split hk' hshape fun m hm => hdeclares h₁ (free m hm)
    · rw [placeBlock_same hm (hb.body.trans body) hshape nonempty (hblock nonempty)
          (hblocks h₁ first'), hk, reown_split h₁₂.length_eq, reown_split h₁.length_eq, managed,
        managed', reown_unmanaged h₁ fun x hx => unmanaged x (by simp [hx]),
        reown_unmanaged h₂ fun x hx => unmanaged x (by simp [hx]),
        reown_unmanaged h₃ fun x hx => unmanaged x (by simp [hx])]
      simp [File.setManaged]

/-! #### After the first merge -/

lemma values_eq_nil {values : List String} (h : enumMembers type values = .ok []) :
    values = [] := by
  cases values with
  | nil => rfl
  | cons v vs =>
    simp only [enumMembers, membersFrom, bind, Except.bind, pure, Except.pure] at h
    split at h
    · simp at h
    · split at h <;> simp at h

lemma TypeChange.exists_after {c : Change} (h : TypeChange type c) :
    ∃ d, c.after = some d ∧ d.shape = .named type "string" ∧ d.managed = true := by
  cases h with
  | kept d shape => exact ⟨_, rfl, shape, rfl⟩
  | inserted => exact ⟨_, rfl, rfl, rfl⟩

lemma TypeChange.not_block_before {c : Change} (h : TypeChange type c) :
    ∀ d ∈ c.before, isEnumBlock type d.shape = false := by
  cases h with
  | kept d shape => simp [shape]
  | inserted => simp [Change.before]

/-- The old block with its new text. -/
def renewed (type : String) (members : List Member) (b : Decl) : Decl :=
  { b with body := renderConsts type members, shape := constsShape type members, managed := true }

lemma blockChange_after (hne : members ≠ []) (b : Decl) :
    (blockChange type members b).after = some (renewed type members b) := by
  rw [blockChange, if_neg (by simpa using hne)]
  rfl

lemma newBlock_after (hne : members ≠ []) :
    (newBlock type members).filterMap Change.after =
      [.generated (renderConsts type members) (constsShape type members)] := by
  rw [newBlock, if_neg (by simpa using hne)]
  rfl

lemma filterMap_before_cons (c : Change) (cs : List Change) :
    (c :: cs).filterMap Change.before = c.before.toList ++ cs.filterMap Change.before := by
  rcases h : c.before with _ | d <;> simp [h]

section Changes

variable {values : List String} {l₁ l₂ l₃ : List Decl} {b d : Decl}

/-- No member has the name of the type. -/
lemma not_declares_of_named (hv : enumMembers type values = .ok members)
    (hd : d.shape = .named type "string") :
    ∀ m ∈ members, d.shape.declares m.name = false := by
  intro m hm
  simp [hd, Shape.declares, Shape.names, ne_of_enumMembers hv hm]

lemma not_declares_constsShape (hv : enumMembers type values = .ok members) :
    (constsShape type members).declares type = false := by
  by_contra hd
  simp only [Shape.declares, constsShape, Shape.names, Bool.not_eq_false, List.contains_iff_mem,
    List.mem_flatMap, List.mem_map] at hd
  obtain ⟨_, ⟨m, hm, rfl⟩, hd⟩ := hd
  exact ne_of_enumMembers hv hm (by simpa [eq_comm] using hd)

lemma isEnumBlock_of_named (hd : d.shape = .named type "string") :
    isEnumBlock type d.shape = false := by
  rw [hd, isEnumBlock_named]

/-! Between a file `f` and the file `g` that the merge of an enum leaves. -/

variable (l₁ l₂ l₃) (hcheck : checkMembers f (locateEnumBlock f type) members = .ok ())
  (hun : ∀ d ∈ f.decls, d.managed = false)
  (hempty : members = [] → ∀ d ∈ g.decls, isEnumBlock type d.shape = false)

include hcheck hun hempty

lemma settled_noBlock {c : Change} (hv : enumMembers type values = .ok members)
    (hf : l₁ ++ c.before.toList ++ l₂ = f.decls)
    (hg : l₁ ++ c.after.toList ++ (newBlock type members).filterMap Change.after ++ l₂ = g.decls)
    (typed : TypeChange type c) (first : ∀ e ∈ l₁, e.shape.declares type = false)
    (absent : ∀ e ∈ l₁ ++ l₂, isEnumBlock type e.shape = false) :
    EnumSettled type members g.decls := by
  obtain ⟨d, hd, shape, managed⟩ := typed.exists_after
  have hnone : locateEnumBlock f type = none := by
    rw [locateEnumBlock_eq_none, ← hf]
    simp only [List.forall_mem_append] at absent ⊢
    exact ⟨⟨absent.1, fun x hx => typed.not_block_before x (Option.mem_toList.mp hx)⟩, absent.2⟩
  rw [hnone] at hcheck
  have hfree := free_of_checkMembers_none hcheck
  rw [hd] at hg
  rw [← hf] at hun hfree
  rw [← hg] at hempty ⊢
  simp only [List.forall_mem_append] at hun hfree absent
  by_cases hne : members = []
  · have hg' : l₁ ++ (some d).toList ++ (newBlock type members).filterMap Change.after ++ l₂ =
        l₁ ++ d :: l₂ := by
      simp [newBlock, hne]
    rw [hg'] at hempty ⊢
    exact .typeOnly l₁ l₂ d shape managed first
      (List.forall_mem_append.mpr ⟨hun.1.1, hun.2⟩) hne (hempty hne)
  · have hg' : l₁ ++ (some d).toList ++ (newBlock type members).filterMap Change.after ++ l₂ =
        (l₁ ++ d :: []) ++
          .generated (renderConsts type members) (constsShape type members) :: l₂ := by
      simp [newBlock_after hne]
    rw [hg']
    refine .blockBehind l₁ [] l₂ d _ shape managed first rfl rfl rfl ?_ ?_ ?_ hne
    · rw [List.append_nil]
      exact List.forall_mem_append.mpr ⟨hun.1.1, hun.2⟩
    · exact List.forall_mem_append.mpr
        ⟨absent.1, List.forall_mem_singleton.mpr (isEnumBlock_of_named shape)⟩
    · exact fun m hm => List.forall_mem_append.mpr ⟨(hfree m hm).1.1,
        List.forall_mem_singleton.mpr (not_declares_of_named hv shape m hm)⟩

lemma settled_insertedType (hv : enumMembers type values = .ok members)
    (hf : l₁ ++ b :: l₂ = f.decls)
    (hg : l₁ ++ enumTypeDecl type :: (blockChange type members b).after.toList ++ l₂ = g.decls)
    (block : isEnumBlock type b.shape) (first : ∀ e ∈ l₁, isEnumBlock type e.shape = false)
    (absent : ∀ e ∈ l₁ ++ b :: l₂, e.shape.declares type = false) :
    EnumSettled type members g.decls := by
  rw [locateEnumBlock_split hf.symm block first] at hcheck
  have hfree := free_of_checkMembers hf.symm hcheck
  rw [← hf] at hun
  rw [← hg] at hempty ⊢
  simp only [List.forall_mem_append, List.forall_mem_cons] at hun absent
  have hun' := List.forall_mem_append.mpr ⟨hun.1, hun.2.2⟩
  by_cases hne : members = []
  · have hg' : l₁ ++ enumTypeDecl type :: (blockChange type members b).after.toList ++ l₂ =
        l₁ ++ enumTypeDecl type :: l₂ := by
      simp [blockChange, hne]
    rw [hg'] at hempty ⊢
    exact .typeOnly l₁ l₂ _ rfl rfl absent.1 hun' hne (hempty hne)
  · have hg' : l₁ ++ enumTypeDecl type :: (blockChange type members b).after.toList ++ l₂ =
        (l₁ ++ enumTypeDecl type :: []) ++ renewed type members b :: l₂ := by
      simp [blockChange_after hne]
    rw [hg']
    refine .blockBehind l₁ [] l₂ _ _ rfl rfl absent.1 rfl rfl rfl ?_ ?_ ?_ hne
    · rwa [List.append_nil]
    · exact List.forall_mem_append.mpr ⟨first, List.forall_mem_singleton.mpr rfl⟩
    · exact fun m hm => List.forall_mem_append.mpr ⟨hfree m hm,
        List.forall_mem_singleton.mpr (not_declares_of_named hv rfl m hm)⟩

lemma settled_blockBehind (hf : (l₁ ++ d :: l₂) ++ b :: l₃ = f.decls)
    (hg : (l₁ ++ { d with managed := true } :: l₂) ++
      (blockChange type members b).after.toList ++ l₃ = g.decls)
    (shape : d.shape = .named type "string")
    (first : ∀ e ∈ l₁, e.shape.declares type = false) (block : isEnumBlock type b.shape)
    (first' : ∀ e ∈ l₁ ++ d :: l₂, isEnumBlock type e.shape = false) :
    EnumSettled type members g.decls := by
  rw [locateEnumBlock_split hf.symm block first'] at hcheck
  have hfree := free_of_checkMembers hf.symm hcheck
  rw [← hf] at hun
  rw [← hg] at hempty ⊢
  simp only [List.forall_mem_append, List.forall_mem_cons] at hun first' hfree
  obtain ⟨⟨hun₁, -, hun₂⟩, -, hun₃⟩ := hun
  by_cases hne : members = []
  · have hg' : (l₁ ++ { d with managed := true } :: l₂) ++
        (blockChange type members b).after.toList ++ l₃ =
        l₁ ++ { d with managed := true } :: (l₂ ++ l₃) := by
      simp [blockChange, hne]
    rw [hg'] at hempty ⊢
    refine .typeOnly l₁ (l₂ ++ l₃) _ shape rfl first ?_ hne (hempty hne)
    simp only [List.forall_mem_append]
    exact ⟨hun₁, hun₂, hun₃⟩
  · have hg' : (l₁ ++ { d with managed := true } :: l₂) ++
        (blockChange type members b).after.toList ++ l₃ =
        (l₁ ++ { d with managed := true } :: l₂) ++ renewed type members b :: l₃ := by
      simp [blockChange_after hne]
    rw [hg']
    refine .blockBehind l₁ l₂ l₃ _ _ shape rfl first rfl rfl rfl ?_ ?_ ?_ hne
    · simp only [List.forall_mem_append]
      exact ⟨⟨hun₁, hun₂⟩, hun₃⟩
    · simp only [List.forall_mem_append, List.forall_mem_cons]
      exact first'
    · simp only [List.forall_mem_append, List.forall_mem_cons]
      exact hfree

lemma settled_blockBefore (hv : enumMembers type values = .ok members)
    (hf : l₁ ++ b :: (l₂ ++ d :: l₃) = f.decls)
    (hg : l₁ ++ (blockChange type members b).after.toList ++ l₂ ++
      { d with managed := true } :: l₃ = g.decls)
    (shape : d.shape = .named type "string")
    (first : ∀ e ∈ l₁ ++ b :: l₂, e.shape.declares type = false)
    (block : isEnumBlock type b.shape) (first' : ∀ e ∈ l₁, isEnumBlock type e.shape = false) :
    EnumSettled type members g.decls := by
  rw [locateEnumBlock_split hf.symm block first'] at hcheck
  have hfree := free_of_checkMembers hf.symm hcheck
  rw [← hf] at hun
  rw [← hg] at hempty ⊢
  simp only [List.forall_mem_append, List.forall_mem_cons] at hun first
  obtain ⟨hun₁, -, hun₂, -, hun₃⟩ := hun
  by_cases hne : members = []
  · have hg' : l₁ ++ (blockChange type members b).after.toList ++ l₂ ++
        { d with managed := true } :: l₃ = (l₁ ++ l₂) ++ { d with managed := true } :: l₃ := by
      simp [blockChange, hne]
    rw [hg'] at hempty ⊢
    refine .typeOnly (l₁ ++ l₂) l₃ _ shape rfl ?_ ?_ hne (hempty hne)
    · exact List.forall_mem_append.mpr ⟨first.1, first.2.2⟩
    · simp only [List.forall_mem_append]
      exact ⟨⟨hun₁, hun₂⟩, hun₃⟩
  · have hg' : l₁ ++ (blockChange type members b).after.toList ++ l₂ ++
        { d with managed := true } :: l₃ =
        (l₁ ++ renewed type members b :: l₂) ++ { d with managed := true } :: l₃ := by
      simp [blockChange_after hne]
    rw [hg']
    refine .blockBefore l₁ l₂ l₃ _ _ shape rfl ?_ rfl rfl rfl ?_ first' hfree hne
    · simp only [List.forall_mem_append, List.forall_mem_cons]
      exact ⟨first.1, not_declares_constsShape hv, first.2.2⟩
    · simp only [List.forall_mem_append]
      exact ⟨⟨hun₁, hun₂⟩, hun₃⟩

/-- However the type and the block got where they are, they are settled there. -/
lemma enumSettled_of_changes {cs : List Change}
    (hv : enumMembers type values = .ok members) (hr : Rewrites cs f g)
    (hcs : EnumChanges type members cs) : EnumSettled type members g.decls := by
  have hf := hr.before
  have hg := hr.after
  cases hcs with
  | noBlock l₁ l₂ c typed first absent =>
    refine settled_noBlock l₁ l₂ hcheck hun hempty hv ?_ ?_ typed first absent
    · simpa [filterMap_before_cons, newBlock_before] using hf
    · simpa [filterMap_after_cons] using hg
  | insertedType l₁ l₂ b block first absent =>
    refine settled_insertedType l₁ l₂ hcheck hun hempty hv ?_ ?_ block first absent
    · simpa [filterMap_before_cons] using hf
    · simpa [filterMap_after_cons] using hg
  | blockBehind l₁ l₂ l₃ d b shape first block first' =>
    refine settled_blockBehind l₁ l₂ l₃ hcheck hun hempty ?_ ?_ shape first block first'
    · simpa [filterMap_before_cons] using hf
    · simpa [filterMap_after_cons] using hg
  | blockBefore l₁ l₂ l₃ b d shape first block first' =>
    refine settled_blockBefore l₁ l₂ l₃ hcheck hun hempty hv ?_ ?_ shape first block first'
    · simpa [filterMap_before_cons] using hf
    · simpa [filterMap_after_cons] using hg

end Changes

lemma mergeEnum_settled {e : EnumType} (h : mergeEnum e f = .ok g)
    (hun : ∀ d ∈ f.decls, d.managed = false)
    (hempty : e.values = [] → ∀ d ∈ g.decls, isEnumBlock e.typeName d.shape = false) :
    ∃ members f₂, enumMembers e.typeName e.values = .ok members ∧ g = syncImports f₂ [] ∧
      EnumSettled e.typeName members g.decls := by
  obtain ⟨cs, members, hr, hv, hcs⟩ := mergeEnum_changes h
  obtain ⟨members', located, hv', -, hcheck, hg⟩ := mergeEnum_steps h
  obtain rfl : members = members' := by simpa [hv] using hv'
  refine ⟨members, _, hv, hg, enumSettled_of_changes hcheck hun ?_ hv hr hcs⟩
  exact fun hm => hempty (values_eq_nil (hm ▸ hv))

/-- The second merge, up to the imports. -/
lemma mergeEnum_disowned {e : EnumType} (h : mergeEnum e f = .ok g)
    (hun : ∀ d ∈ f.decls, d.managed = false)
    (hempty : e.values = [] → ∀ d ∈ g.decls, isEnumBlock e.typeName d.shape = false)
    (hr : List.Forall₂ Disowned g.decls g'.decls) :
    mergeEnum e g' = .ok (syncImports { g' with decls := reown g.decls g'.decls } []) := by
  obtain ⟨members, f₂, hv, -, hs⟩ := mergeEnum_settled h hun hempty
  obtain ⟨i, hl, hcheck, hg⟩ := hs.again hv hr
  simp only [mergeEnum, bind, Except.bind, pure, Except.pure, hv, hl, hcheck, withEnumType, hg]

lemma mergeEnum_again {e : EnumType} (h : mergeEnum e f = .ok g)
    (hun : ∀ d ∈ f.decls, d.managed = false)
    (hempty : e.values = [] → ∀ d ∈ g.decls, isEnumBlock e.typeName d.shape = false)
    (hr : g.ReadBack g') :
    mergeEnum e g' = .ok { g' with decls := reown g.decls g'.decls } := by
  rw [mergeEnum_disowned h hun hempty (disowned_of_readBack hr.decls.decls)]
  obtain ⟨members, f₂, -, rfl, -⟩ := mergeEnum_settled h hun hempty
  rw [syncImports_reown hr]

end Enums

/-! ### All models -/

/-- What is left of the enum without values is a block of its constants, as when there have been
two of them. -/
def Model.LeavesBlock (m : Model) (g : File) : Prop :=
  match m with
  | .enum e => e.values = [] ∧ ∃ d ∈ g.decls, isEnumBlock e.typeName d.shape = true
  | _ => False

/-- **A merge settles a file.** On what it leaves, printed and read back, a second merge changes
nothing but the record of the owners, unless it finds one more block to drop. -/
theorem merge_again {m : Model} (h : m.merge f = .ok g) (hun : ∀ d ∈ f.decls, d.managed = false)
    (hb : ¬ m.LeavesBlock g) (hr : g.ReadBack g') :
    m.merge g' = .ok { g' with decls := reown g.decls g'.decls } := by
  cases m with
  | table t => exact mergeTable_again h hun hr
  | enum e =>
    refine mergeEnum_again h hun (fun he d hd => ?_) hr
    by_contra hc
    exact hb ⟨he, d, hd, by simpa using hc⟩
  | composite c => exact mergeComposite_again h hun hr

end SchemaGo.Merge
