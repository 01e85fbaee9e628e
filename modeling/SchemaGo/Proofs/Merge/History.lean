import Mathlib
import SchemaGo.Proofs.Merge.Fixpoint

/-!
What a merge remembers. The place of a generated struct, and the fields that are written by hand
beside it, are for the file to say and not for the columns. So of several versions of a table that
have been merged one after another, only the last one shows in the declarations.
-/

namespace SchemaGo.Merge

open Go

variable {f g k : File} {m v : Model} {t : Table}

/-! ### Versions -/

def Model.typeName : Model → String
  | .table t => t.typeName
  | .enum e => e.typeName
  | .composite c => c.typeName

/-- The fields of the generated struct, where `declared` are those of the container. -/
def Model.structFields (declared : List String) : Model → Except Collision Fields
  | .table t => mainFields t declared
  | .composite c => columnFields c.columns
  | .enum _ => .ok ⟨[], []⟩

/-- Two versions of one table, or of one composite type. -/
inductive SameStruct : Model → Model → Prop
  | table {t u : Table} (name : u.name = t.name) : SameStruct (.table t) (.table u)
  | composite {c d : CompositeType} (name : d.name = c.name) :
      SameStruct (.composite c) (.composite d)

namespace SameStruct

lemma typeName (h : SameStruct m v) : v.typeName = m.typeName := by
  cases h with
  | table name => exact congrArg Naming.pascalCase name
  | composite name => exact congrArg Naming.pascalCase name

lemma symm (h : SameStruct m v) : SameStruct v m := by
  cases h with
  | table name => exact .table name.symm
  | composite name => exact .composite name.symm

lemma trans {w : Model} (h : SameStruct m v) (h' : SameStruct v w) : SameStruct m w := by
  cases h with
  | table name =>
    cases h' with
    | table name' => exact .table (name'.trans name)
  | composite name =>
    cases h' with
    | composite name' => exact .composite (name'.trans name)

end SameStruct

/-- The file as the next run reads it, where nothing is known to be the generator's. -/
def disowned (f : File) : File :=
  { f with decls := f.decls.map fun d => { d with managed := false } }

lemma map_disowned {ds : List Decl} (h : ∀ d ∈ ds, d.managed = false) :
    ds.map (fun d => { d with managed := false }) = ds := by
  conv_rhs => rw [← List.map_id ds]
  refine List.map_congr_left fun d hd => ?_
  rw [← h d hd, id]

/-! ### Containers -/

/-- `box` is the container of the table among `ds`: the first to declare its name. -/
def IsContainer (t : Table) (box : Decl) (declared : List String) (ds : List Decl) : Prop :=
  ∃ l₁ l₂, ds = l₁ ++ box :: l₂ ∧ box.shape = .struct t.extensionName declared ∧
    ∀ e ∈ l₁, e.shape.declares t.extensionName = false

lemma declares_extensionName_of_shape {d : Decl} {fields : List String}
    (hd : d.shape = .struct t.typeName fields) : d.shape.declares t.extensionName = false := by
  simp [hd, Shape.declares, Shape.names, extensionName_ne_typeName t]

/-- The container stays what it is when another declaration changes. -/
lemma IsContainer.change {box d c : Decl} {declared : List String} {l₁ l₂ : List Decl}
    (h : IsContainer t box declared (l₁ ++ d :: l₂))
    (hd : d.shape.declares t.extensionName = false)
    (hc : c.shape.declares t.extensionName = false) :
    IsContainer t box declared (l₁ ++ c :: l₂) := by
  obtain ⟨k₁, k₂, hk, hshape, hfirst⟩ := h
  obtain ⟨m₁, m₂, hm, hm₁⟩ := split_of_change
    (P := fun e => e.shape.declares t.extensionName = true) hk.symm
    (fun e he => by simp [hfirst e he]) (by simp [hshape, Shape.declares, Shape.names])
    (by simp [hd]) (c := c) (by simp [hc])
  exact ⟨m₁, m₂, hm, hshape, fun e he => by simpa using hm₁ e he⟩

lemma IsContainer.located {box : Decl} {declared : List String}
    (h : IsContainer t box declared f.decls) :
    ∃ i, locateStruct f t.extensionName = .ok (some i) ∧ fieldsAt f i = declared := by
  obtain ⟨l₁, l₂, hl, hshape, hfirst⟩ := h
  exact ⟨l₁.length, locateStruct_split hl hshape hfirst, fieldsAt_split hl hshape⟩

/-! ### Slots -/

/-- A place among declarations. -/
structure Slot where
  above : List Decl
  decl : Decl
  below : List Decl

namespace Slot

/-- The declarations with a generated struct in the slot. -/
def fill (s : Slot) (name : String) (fields : List Field) : List Decl :=
  s.above ++ { s.decl with
    body := renderStruct name fields
    shape := structShape name fields
    managed := true } :: s.below

/-- `box` is the container, whatever else than a container is put into the slot. -/
def IsBeside (s : Slot) (t : Table) (box : Decl) (declared : List String) : Prop :=
  ∀ d : Decl, d.shape.declares t.extensionName = false →
    IsContainer t box declared (s.above ++ d :: s.below)

/-- The slot is where a merge of the model looks for its struct, beside a container with the
fields `declared`. -/
structure Fits (s : Slot) (m : Model) (declared : List String) : Prop where
  first : ∀ e ∈ s.above, e.shape.declares m.typeName = false
  unmanaged : ∀ e ∈ s.above ++ s.below, e.managed = false
  container : ∀ t, m = .table t → ∃ box, s.IsBeside t box declared

end Slot

/-- Every version of the model goes into the slot `s`, and finds the fields `declared` in the
container. -/
def Placed (m : Model) (s : Slot) (declared : List String) (f : File) : Prop :=
  ∀ v, SameStruct m v → v.merge f = (v.structFields declared).map fun fs =>
    syncImports { f with decls := s.fill v.typeName fs.fields } fs.imports

variable {s : Slot} {declared : List String}

/-- The struct that stands in the slot is the one that is found. -/
lemma locateStruct_slot {name : String} {old : List String}
    (hf : f.decls = s.above ++ s.decl :: s.below) (hd : s.decl.shape = .struct name old)
    (hfirst : ∀ e ∈ s.above, e.shape.declares name = false) (fields : List Field) :
    ∃ i, locateStruct f name = .ok (some i) ∧
      f.replace i (renderStruct name fields) (structShape name fields) =
        { f with decls := s.fill name fields } := by
  refine ⟨s.above.length, locateStruct_split hf hd hfirst, ?_⟩
  have hds := File.replace_split hf (renderStruct name fields) (structShape name fields)
  calc f.replace s.above.length (renderStruct name fields) (structShape name fields)
      = { f with
          decls := (f.replace s.above.length (renderStruct name fields)
            (structShape name fields)).decls } := rfl
    _ = { f with decls := s.fill name fields } := by rw [hds]; rfl

/-- A new struct makes a slot of its own. -/
def Slot.between (l₁ l₂ : List Decl) : Slot := ⟨l₁, .generated "" (.struct "" []), l₂⟩

lemma insert_slot {l₁ l₂ : List Decl} (hf : f.decls = l₁ ++ l₂) (name : String)
    (fields : List Field) :
    f.insert l₁.length (.generated (renderStruct name fields) (structShape name fields)) =
      { f with decls := (Slot.between l₁ l₂).fill name fields } := by
  have hds := File.insert_split hf (.generated (renderStruct name fields) (structShape name fields))
  calc f.insert l₁.length (.generated (renderStruct name fields) (structShape name fields))
      = { f with
          decls := (f.insert l₁.length (.generated (renderStruct name fields)
            (structShape name fields))).decls } := rfl
    _ = { f with decls := (Slot.between l₁ l₂).fill name fields } := by rw [hds]; rfl

lemma placed_table {box : Decl} {old : List String}
    (hf : f.decls = s.above ++ s.decl :: s.below) (hd : s.decl.shape = .struct t.typeName old)
    (hfirst : ∀ e ∈ s.above, e.shape.declares t.typeName = false)
    (hbox : IsContainer t box declared f.decls) : Placed (.table t) s declared f := by
  rintro _ (@⟨_, u, hname⟩ | _)
  have htype : u.typeName = t.typeName := congrArg Naming.pascalCase hname
  have hext : u.extensionName = t.extensionName := congrArg (· ++ "Extension") htype
  obtain ⟨i, hi, hfields⟩ := hbox.located
  simp only [Model.merge, mergeTable, withContainer, hext, hi, hfields, bind, Except.bind, pure,
    Except.pure, Model.structFields]
  rcases mainFields u declared with e | fs
  · rfl
  · obtain ⟨j, hj, hg⟩ := locateStruct_slot hf hd hfirst fs.fields
    simp only [placeMain, htype, hj, hg, bind, Except.bind, pure, Except.pure, Except.map,
      Model.typeName]

lemma placed_composite {c : CompositeType} {old : List String}
    (hf : f.decls = s.above ++ s.decl :: s.below) (hd : s.decl.shape = .struct c.typeName old)
    (hfirst : ∀ e ∈ s.above, e.shape.declares c.typeName = false) :
    Placed (.composite c) s declared f := by
  rintro _ (_ | @⟨_, d, hname⟩)
  have htype : d.typeName = c.typeName := congrArg Naming.pascalCase hname
  simp only [Model.merge, mergeComposite, bind, Except.bind, pure, Except.pure, Model.structFields]
  rcases columnFields d.columns with e | fs
  · rfl
  · obtain ⟨j, hj, hg⟩ := locateStruct_slot hf hd hfirst fs.fields
    simp only [htype, hj, hg, Except.map, Model.typeName]

/-- A struct that is in its slot stays there. -/
lemma Slot.Fits.placed {old : List String} (hs : s.Fits m declared) (hv : SameStruct m v)
    (hf : f.decls = s.above ++ s.decl :: s.below) (hd : s.decl.shape = .struct m.typeName old) :
    Placed m s declared f := by
  cases hv with
  | table =>
    obtain ⟨box, hbox⟩ := hs.container _ rfl
    exact placed_table hf hd hs.first (hf ▸ hbox s.decl (declares_extensionName_of_shape hd))
  | composite => exact placed_composite hf hd hs.first

/-! ### The first merge -/

lemma withContainer_congr {u : Table} (h : u.name = t.name) :
    withContainer u f = withContainer t f := by
  simp only [withContainer, container, Table.extensionName, Table.typeName, h]

lemma placeMain_congr {u : Table} {fields : List Field} (h : u.name = t.name) :
    placeMain u fields f = placeMain t fields f := by
  simp only [placeMain, Table.extensionName, Table.typeName, h]

/-- The slot of the main struct, in a file with the container. -/
lemma placeMain_slot {fields : List Field} {box : Decl} (h : placeMain t fields f = .ok g)
    (hun : ∀ d ∈ f.decls, d.managed = false) (hbox : IsContainer t box declared f.decls) :
    ∃ s : Slot, s.Fits (.table t) declared ∧ s.IsBeside t box declared ∧ ∀ fields',
      placeMain t fields' f = .ok { f with decls := s.fill t.typeName fields' } := by
  rcases placeMain_cases h with ⟨i, hl, -⟩ | ⟨hl, -, -, -⟩
  · obtain ⟨l₁, d, l₂, old, hf, -, hd, hfirst⟩ := locateStruct_eq_some hl
    have hbeside : Slot.IsBeside ⟨l₁, d, l₂⟩ t box declared := fun c hc =>
      (hf ▸ hbox).change (declares_extensionName_of_shape hd) hc
    refine ⟨⟨l₁, d, l₂⟩, ⟨hfirst, fun e he => hun e ?_, ?_⟩, hbeside, fun fields' => ?_⟩
    · rw [hf]
      simp only [List.mem_append, List.mem_cons] at he ⊢
      tauto
    · rintro _ ⟨⟩
      exact ⟨box, hbeside⟩
    · obtain ⟨j, hj, hg⟩ := locateStruct_slot (s := ⟨l₁, d, l₂⟩) hf hd hfirst fields'
      simp only [placeMain, hj, hg, bind, Except.bind, pure, Except.pure]
  · -- behind the container
    obtain ⟨k₁, k₂, hf, hshape, hfirst⟩ := hbox
    have hx := locateStruct_split hf hshape hfirst
    have hf' : f.decls = (k₁ ++ [box]) ++ k₂ := by simp [hf]
    have hn := locateStruct_eq_none hl
    rw [hf'] at hn hun
    have hbeside : (Slot.between (k₁ ++ [box]) k₂).IsBeside t box declared := fun c _ =>
      ⟨k₁, c :: k₂, by simp [Slot.between], hshape, hfirst⟩
    refine ⟨_, ⟨fun e he => hn e (List.mem_append_left _ he), hun, ?_⟩, hbeside, fun fields' => ?_⟩
    · rintro _ ⟨⟩
      exact ⟨box, hbeside⟩
    · have hg := insert_slot hf' t.typeName fields'
      rw [List.length_append, List.length_singleton] at hg
      simp only [placeMain, hl, hx, hg, bind, Except.bind, pure, Except.pure]

/-- The container of the merged file: the one of the old file as it was, or a new one. -/
def Keeps (t : Table) (box : Decl) (declared : List String) (ds : List Decl) : Prop :=
  IsContainer t box declared ds ∨
    (∀ d ∈ ds, d.shape.declares t.extensionName = false) ∧ box = container t ∧ declared = []

lemma withContainer_keeps {i : ℕ} (h : withContainer t f = .ok (g, i))
    (hun : ∀ d ∈ f.decls, d.managed = false) :
    ∃ box, Keeps t box (fieldsAt g i) f.decls ∧ IsContainer t box (fieldsAt g i) g.decls ∧
      (∀ d ∈ g.decls, d.managed = false) ∧ g = { f with decls := g.decls } := by
  obtain ⟨hun', l₁, box, l₂, declared, hg, rfl, hshape, hfirst⟩ := withContainer_found h hun
  rw [fieldsAt_split hg hshape]
  have hbox : IsContainer t box declared g.decls := ⟨l₁, l₂, hg, hshape, hfirst⟩
  rcases withContainer_cases h with ⟨rfl, -⟩ | ⟨hl, rfl, hi⟩
  · exact ⟨box, .inl hbox, hbox, hun', rfl⟩
  · refine ⟨box, .inr ⟨locateStruct_eq_none hl, ?_⟩, hbox, hun', rfl⟩
    obtain ⟨k₁, k₂, -, hk, hg'⟩ := File.insert_decls f.anchor_le (container t)
    obtain ⟨rfl, hrest⟩ := List.append_inj (hg.symm.trans hg') (hi.trans hk.symm)
    obtain ⟨rfl, -⟩ := List.cons.inj hrest
    exact ⟨rfl, by simpa [eq_comm] using hshape⟩

lemma mergeTable_placed (h : mergeTable t f = .ok g) (hun : ∀ d ∈ f.decls, d.managed = false) :
    ∃ s box declared, Keeps t box declared f.decls ∧ s.Fits (.table t) declared ∧
      s.IsBeside t box declared ∧ Placed (.table t) s declared f := by
  obtain ⟨f₁, i, fs, f₂, hc, -, hp, -⟩ := mergeTable_steps h
  obtain ⟨box, hkeeps, hbox, hun₁, hf₁⟩ := withContainer_keeps hc hun
  obtain ⟨s, hs, hbeside, hplace⟩ := placeMain_slot hp hun₁ hbox
  refine ⟨s, box, _, hkeeps, hs, hbeside, ?_⟩
  rintro _ (@⟨_, u, hname⟩ | _)
  have htype : u.typeName = t.typeName := congrArg Naming.pascalCase hname
  simp only [Model.merge, mergeTable, withContainer_congr hname, hc, bind, Except.bind, pure,
    Except.pure, Model.structFields]
  rcases mainFields u (fieldsAt f₁ i) with e | fs'
  · rfl
  · simp only [placeMain_congr hname, hplace, Except.map, Model.typeName, htype]
    rw [hf₁]

lemma mergeComposite_placed {c : CompositeType} (h : mergeComposite c f = .ok g)
    (hun : ∀ d ∈ f.decls, d.managed = false) (declared : List String) :
    ∃ s, s.Fits (.composite c) declared ∧ Placed (.composite c) s declared f := by
  obtain ⟨-, -, -, -, ⟨i, hl, -⟩ | ⟨hl, -⟩⟩ := mergeComposite_steps h
  · obtain ⟨l₁, d, l₂, old, hf, -, hd, hfirst⟩ := locateStruct_eq_some hl
    refine ⟨⟨l₁, d, l₂⟩, ⟨hfirst, fun e he => hun e ?_, by simp⟩, placed_composite hf hd hfirst⟩
    rw [hf]
    simp only [List.mem_append, List.mem_cons] at he ⊢
    tauto
  · obtain ⟨l₁, l₂, hf, hi, -⟩ := File.insert_decls f.anchor_le (default : Decl)
    have hn := locateStruct_eq_none hl
    rw [hf] at hn hun
    refine ⟨.between l₁ l₂, ⟨fun e he => hn e (List.mem_append_left _ he), hun, by simp⟩, ?_⟩
    rintro _ (_ | @⟨_, d, hname⟩)
    have htype : d.typeName = c.typeName := congrArg Naming.pascalCase hname
    simp only [Model.merge, mergeComposite, bind, Except.bind, pure, Except.pure,
      Model.structFields]
    rcases columnFields d.columns with e | fs
    · rfl
    · have hg := insert_slot hf c.typeName fs.fields
      rw [hi] at hg
      simp only [htype, hl, hg, Except.map, Model.typeName]

lemma merge_placed (h : m.merge f = .ok g) (hun : ∀ d ∈ f.decls, d.managed = false)
    (hv : SameStruct m v) : ∃ s declared, s.Fits m declared ∧ Placed m s declared f := by
  cases hv with
  | table =>
    obtain ⟨s, -, declared, -, hs, -, hp⟩ := mergeTable_placed h hun
    exact ⟨s, declared, hs, hp⟩
  | composite =>
    obtain ⟨s, hs, hp⟩ := mergeComposite_placed h hun []
    exact ⟨s, [], hs, hp⟩

/-! ### Later merges -/

lemma Placed.merge_eq {fs : Fields} (h : Placed m s declared f) (hv : SameStruct m v)
    (hfs : v.structFields declared = .ok fs) :
    v.merge f = .ok (syncImports { f with decls := s.fill v.typeName fs.fields } fs.imports) := by
  rw [h v hv, hfs]
  rfl

lemma Placed.merge_decls (h : Placed m s declared f) (hv : SameStruct m v) :
    (v.merge f).map (·.decls) =
      (v.structFields declared).map fun fs => s.fill v.typeName fs.fields := by
  rw [h v hv]
  cases v.structFields declared with
  | error e => rfl
  | ok fs => exact congrArg Except.ok (syncImports_decls _ _)

/-- A merge leaves the slot where it is, also for the next run. -/
lemma Placed.again (h : Placed m s declared f) (hs : s.Fits m declared) (hv : SameStruct m v)
    (hg : v.merge f = .ok g) : Placed m s declared (disowned g) := by
  have hds := h.merge_decls hv
  rw [hg] at hds
  rcases hfs : v.structFields declared with e | fs
  · simp [hfs, Except.map] at hds
  replace hds : g.decls = s.fill v.typeName fs.fields := by simpa [hfs, Except.map] using hds
  -- the slot that holds the struct which has just been generated
  let s' : Slot :=
    { s with decl := { s.decl with
        body := renderStruct v.typeName fs.fields
        shape := structShape v.typeName fs.fields
        managed := false } }
  have hs' : s'.Fits m declared := ⟨hs.first, hs.unmanaged, hs.container⟩
  have hf : (disowned g).decls = s'.above ++ s'.decl :: s'.below := by
    rw [disowned, hds, Slot.fill, List.map_append, List.map_cons,
      map_disowned fun e he => hs.unmanaged e (List.mem_append_left _ he),
      map_disowned fun e he => hs.unmanaged e (List.mem_append_right _ he)]
  have hd : s'.decl.shape = .struct m.typeName (fs.fields.map Field.address) := by
    rw [← hv.typeName]
    rfl
  exact hs'.placed hv hf hd

/-- **Merges are idempotent on trees.** -/
lemma Placed.idem (h : Placed m s declared f) (hs : s.Fits m declared) (hv : SameStruct m v)
    (hg : v.merge f = .ok g) : v.merge (disowned g) = .ok g := by
  rcases hfs : v.structFields declared with e | fs
  · simp [h v hv, hfs, Except.map] at hg
  obtain rfl := Except.ok.inj (hg.symm.trans (h.merge_eq hv hfs))
  rw [(h.again hs hv hg).merge_eq hv hfs]
  -- only the imports are left
  set f₂ : File := { f with decls := s.fill v.typeName fs.fields } with hf₂
  have hds : (syncImports f₂ fs.imports).decls = s.fill v.typeName fs.fields :=
    syncImports_decls _ _
  have hsame : { disowned (syncImports f₂ fs.imports) with decls := s.fill v.typeName fs.fields } =
      syncImports f₂ fs.imports := by
    rw [← hds]
    rfl
  rw [hsame, syncImports_idem]

/-- The versions merged one after another, each into what the one before has left. -/
def mergeAll : List Model → File → Except Collision File
  | [], f => .ok f
  | v :: vs, f => do mergeAll vs (disowned (← v.merge f))

lemma Placed.mergeAll {vs : List Model} (h : Placed m s declared f) (hs : s.Fits m declared)
    (hvs : ∀ v ∈ vs, SameStruct m v) (hk : mergeAll vs f = .ok k) : Placed m s declared k := by
  induction vs generalizing f with
  | nil =>
    obtain rfl : f = k := by simpa [Merge.mergeAll] using hk
    exact h
  | cons v vs ih =>
    rcases hg : v.merge f with e | g
    · simp [Merge.mergeAll, hg, bind, Except.bind] at hk
    have hk' : Merge.mergeAll vs (disowned g) = .ok k := by
      simpa [Merge.mergeAll, hg, bind, Except.bind] using hk
    have hv := hvs v (by simp)
    exact ih (h.again hs hv hg) (fun w hw => hvs w (by simp [hw])) hk'

/-- **Only the last version shows.** Whatever versions have been merged before, the declarations
are those of a merge into the file as it was in the beginning. -/
theorem mergeAll_forgets {vs : List Model} (hun : ∀ d ∈ f.decls, d.managed = false)
    (hvs : ∀ w ∈ vs, SameStruct m w) (hk : mergeAll vs f = .ok k) :
    (m.merge k).map (·.decls) = (m.merge f).map (·.decls) := by
  rcases vs with _ | ⟨w, ws⟩
  · obtain rfl : f = k := by simpa [mergeAll] using hk
    rfl
  rcases hg : w.merge f with e | g
  · simp [mergeAll, hg, bind, Except.bind] at hk
  have hw := hvs w (by simp)
  obtain ⟨s, declared, hs, hp⟩ := merge_placed hg hun hw.symm
  have hpk := hp.mergeAll hs (fun x hx => hw.symm.trans (hvs x hx)) hk
  rw [hpk.merge_decls hw.symm, hp.merge_decls hw.symm]

/-- **A merge forgets the versions before it**, and the same version again changes nothing, neither
in the declarations nor in the imports or the comments. -/
theorem merge_forgets {existing : Option String} {package : String}
    (hf : current existing package = .ok f) (hg : m.merge f = .ok g) (hv : SameStruct m v) :
    (v.merge (disowned g)).map (·.decls) = (v.merge f).map (·.decls) ∧
      m.merge (disowned g) = .ok g := by
  obtain ⟨s, declared, hs, hp⟩ := merge_placed hg (current_unmanaged hf) hv
  have hm : SameStruct m m := hv.trans hv.symm
  exact ⟨by rw [(hp.again hs hm hg).merge_decls hv, hp.merge_decls hv], hp.idem hs hm hg⟩

/-- A container with a field that is written by hand. -/
def handWritten : String :=
  "package models\n\nimport t \"time\"\n\n// by hand\ntype UsersExtension struct \x7b\n" ++
    "\tEmail string\n\x7d\n"

/-- Other columns for the same table, of which one has a field that is written by hand. -/
def usersLater : Table :=
  { name := "users", columns := [⟨"email", { name := "text" }⟩, ⟨"born", { name := "date" }⟩] }

theorem merge_forgets_users :
    ∃ f g, current (some handWritten) "models" = .ok f ∧ (Model.table users).merge f = .ok g ∧
      SameStruct (.table users) (.table usersLater) ∧
      (mergeTable usersLater (disowned g)).map (·.decls) =
        (mergeTable usersLater f).map (·.decls) ∧
      mergeTable users (disowned g) = .ok g := by
  have h : mergeSource (.table users) (some handWritten) "models" =
      .ok ("package models\n\n// by hand\ntype UsersExtension struct \x7b\n\tEmail string\n\x7d\n" ++
        "\ntype Users struct \x7b\n\tId int32\n\tUsersExtension\n\x7d\n") := by
    decide +kernel
  obtain ⟨f, g, hf, hg, -⟩ := mergeSource_eq_ok_iff.mp h
  have hv : SameStruct (.table users) (.table usersLater) := .table rfl
  exact ⟨f, g, hf, hg, hv, merge_forgets hf hg hv⟩

end SchemaGo.Merge
