import Mathlib
import SchemaGo.Go.File

/-!
The order of the import block. The entries are sorted by path and alias, and of those that repeat
each other only the first is printed, so the block is the same for any two files that agree in
these: whatever the order of a list without repeats, and in whatever order imports are added.
-/

namespace SchemaGo.Go

/-- What an entry is sorted by: its path, and of one path its alias, where none comes first. -/
def ImportSpec.key (s : ImportSpec) : String ×ₗ WithBot String := toLex (s.path, s.name?)

namespace File

variable {f g : File} {s t u : ImportSpec}

/-! ### Sorted entries -/

lemma importLE_iff : importLE s t = true ↔ s.key ≤ t.key := by
  rw [ImportSpec.key, ImportSpec.key, Prod.Lex.toLex_le_toLex]
  unfold importLE
  split
  · next h =>
    rcases s.name? with _ | x <;> rcases t.name? with _ | y
    · exact iff_of_true rfl (.inr ⟨h, le_refl ⊥⟩)
    · exact iff_of_true rfl (.inr ⟨h, bot_le⟩)
    · refine iff_of_false Bool.false_ne_true ?_
      rintro (hlt | ⟨-, hle⟩)
      · exact hlt.ne h
      · exact WithBot.not_coe_le_bot x hle
    · simp only [h, lt_irrefl, decide_eq_true_eq, true_and, false_or]
      exact WithBot.coe_le_coe.symm
  · next h => simp [h]

lemma importLE_trans (hst : importLE s t = true) (htu : importLE t u = true) :
    importLE s u = true := by
  rw [importLE_iff] at hst htu ⊢
  exact hst.trans htu

lemma importLE_total (s t : ImportSpec) : (importLE s t || importLE t s) = true := by
  rw [Bool.or_eq_true, importLE_iff, importLE_iff]
  exact le_total s.key t.key

lemma pairwise_mergeSort_importLE (ss : List ImportSpec) :
    (ss.mergeSort importLE).Pairwise fun a b => importLE a b = true :=
  List.pairwise_mergeSort (fun a b c => importLE_trans (s := a) (t := b) (u := c))
    importLE_total ss

/-! ### Repeated entries -/

/-- The two entries bind the same package to the same name. -/
def Repeats (a b : ImportSpec) : Prop := a.path = b.path ∧ a.name? = b.name?

instance (s t : ImportSpec) : Decidable (Repeats s t) := inferInstanceAs (Decidable (_ ∧ _))

lemma repeats_iff : Repeats s t ↔ s.key = t.key := by
  rw [ImportSpec.key, ImportSpec.key, toLex_inj]
  constructor
  · rintro ⟨hp, hn⟩
    rw [hp, hn]
  · exact fun h => ⟨congrArg Prod.fst h, congrArg Prod.snd h⟩

lemma Repeats.symm (h : Repeats s t) : Repeats t s := ⟨h.1.symm, h.2.symm⟩

lemma Repeats.trans (h : Repeats s t) (h' : Repeats t u) : Repeats s u :=
  ⟨h.1.trans h'.1, h.2.trans h'.2⟩

lemma repeats_of_importLE (hst : importLE s t = true) (hts : importLE t s = true) :
    Repeats s t := by
  rw [importLE_iff] at hst hts
  exact repeats_iff.mpr (hst.antisymm hts)

lemma importLE_of_repeats (h : Repeats s t) : importLE s t = true :=
  importLE_iff.mpr (repeats_iff.mp h).le

lemma dropRepeats_go_sublist (s : ImportSpec) (ss : List ImportSpec) :
    (dropRepeats.go s ss).Sublist (s :: ss) := by
  induction ss generalizing s with
  | nil => exact .refl _
  | cons t ss ih =>
    unfold dropRepeats.go
    split
    · exact (ih s).trans (.cons_cons s (List.sublist_cons_self t ss))
    · exact (ih t).cons_cons s

lemma dropRepeats_sublist (ss : List ImportSpec) : (dropRepeats ss).Sublist ss := by
  cases ss with
  | nil => exact .refl _
  | cons s ss => exact dropRepeats_go_sublist s ss

/-- What is left has no repeats among neighbours, and begins as before. -/
lemma dropRepeats_go_isChain (s : ImportSpec) (ss : List ImportSpec) :
    ∃ ts, dropRepeats.go s ss = s :: ts ∧ (s :: ts).IsChain fun a b => ¬ Repeats a b := by
  induction ss generalizing s with
  | nil => exact ⟨[], rfl, .singleton s⟩
  | cons t ss ih =>
    unfold dropRepeats.go
    split
    · exact ih s
    · next h =>
      obtain ⟨ts, hts, hc⟩ := ih t
      rw [hts]
      exact ⟨t :: ts, rfl, .cons_cons h hc⟩

lemma dropRepeats_ne_nil {ss : List ImportSpec} (h : ss ≠ []) : dropRepeats ss ≠ [] := by
  obtain ⟨s, ss, rfl⟩ := List.exists_cons_of_ne_nil h
  obtain ⟨ts, hts, -⟩ := dropRepeats_go_isChain s ss
  simp [dropRepeats, hts]

lemma dropRepeats_go_of_isChain {s : ImportSpec} {ss : List ImportSpec}
    (h : (s :: ss).IsChain fun a b => ¬ Repeats a b) : dropRepeats.go s ss = s :: ss := by
  induction ss generalizing s with
  | nil => rfl
  | cons t ss ih =>
    obtain ⟨hst, ht⟩ := List.isChain_cons_cons.mp h
    have hst' : ¬ (s.path = t.path ∧ s.name? = t.name?) := hst
    rw [dropRepeats.go, if_neg hst', ih ht]

lemma dropRepeats_dropRepeats (ss : List ImportSpec) :
    dropRepeats (dropRepeats ss) = dropRepeats ss := by
  cases ss with
  | nil => rfl
  | cons s ss =>
    obtain ⟨ts, hts, hc⟩ := dropRepeats_go_isChain s ss
    rw [dropRepeats, hts, dropRepeats]
    exact dropRepeats_go_of_isChain hc

/-! ### The printed entries -/

/-- The entry comes before the other, and does not repeat it. -/
def ImportLT (a b : ImportSpec) : Prop := importLE a b = true ∧ ¬ Repeats a b

lemma importLT_iff : ImportLT s t ↔ s.key < t.key := by
  rw [ImportLT, importLE_iff, repeats_iff, lt_iff_le_and_ne]

lemma ImportLT.trans (hst : ImportLT s t) (htu : ImportLT t u) : ImportLT s u := by
  rw [importLT_iff] at hst htu ⊢
  exact lt_trans hst htu

/-- The printed entries are in strict order, so none of them repeats another. -/
lemma pairwise_sortedImports (f : File) : f.sortedImports.Pairwise ImportLT := by
  have hsorted := (pairwise_mergeSort_importLE f.imports).sublist (dropRepeats_sublist _)
  rcases hs : f.imports.mergeSort importLE with _ | ⟨s, ss⟩
  · simp [sortedImports, hs, dropRepeats]
  obtain ⟨ts, hts, hchain⟩ := dropRepeats_go_isChain s ss
  have heq : f.sortedImports = s :: ts := by rw [sortedImports, hs, dropRepeats, hts]
  rw [hs, dropRepeats, hts] at hsorted
  rw [heq]
  have : Trans ImportLT ImportLT ImportLT := ⟨ImportLT.trans⟩
  have hsorted' := hsorted.isChain
  rw [List.isChain_iff_getElem] at hsorted' hchain
  refine List.isChain_iff_pairwise.mp (List.isChain_iff_getElem.mpr fun i hi => ?_)
  exact ⟨hsorted' i hi, hchain i hi⟩

/-- The entries that are printed, sorted once more, are the same. -/
lemma sortedImports_idem (h : g.imports = f.sortedImports) : g.sortedImports = f.sortedImports := by
  have hp := (pairwise_mergeSort_importLE f.imports).sublist (dropRepeats_sublist _)
  rw [sortedImports, h, sortedImports, List.mergeSort_of_pairwise hp, dropRepeats_dropRepeats]

/-! ### The first of repeated entries -/

/-- The first of the entries that repeats `s`. -/
def first? (ss : List ImportSpec) (s : ImportSpec) : Option ImportSpec :=
  ss.find? fun t => decide (Repeats s t)

lemma mem_of_first? {ss : List ImportSpec} (h : first? ss s = some t) : t ∈ ss ∧ Repeats s t :=
  ⟨List.mem_of_find?_eq_some h, by simpa using List.find?_some h⟩

lemma exists_first? {ss : List ImportSpec} (ht : t ∈ ss) (h : Repeats s t) :
    ∃ u, first? ss s = some u :=
  Option.isSome_iff_exists.mp (List.find?_isSome.mpr ⟨t, ht, by simpa using h⟩)

/-- Where no entry repeats another, those that do are the same. -/
lemma eq_of_repeats {ss : List ImportSpec} (hss : ss.Pairwise fun a b => ¬ Repeats a b)
    (hs : s ∈ ss) (ht : t ∈ ss) (h : Repeats s t) : s = t := by
  have : Std.Symm fun a b : ImportSpec => ¬ Repeats a b := ⟨fun a b h hr => h hr.symm⟩
  by_contra hne
  exact hss.forall hs ht hne h

lemma eq_singleton_of_repeats {ss : List ImportSpec}
    (hss : ss.Pairwise fun a b => ¬ Repeats a b) (hs : s ∈ ss) (h : ∀ t ∈ ss, Repeats s t) :
    ss = [s] := by
  match ss with
  | [] => simp at hs
  | [t] => rw [List.mem_singleton.mp hs]
  | t :: u :: _ =>
    have hne : ¬ Repeats t u := List.rel_of_pairwise_cons hss (by simp)
    exact absurd ((h t (by simp)).symm.trans (h u (by simp))) hne

/-- Sorting keeps entries that repeat each other in their order. -/
lemma filter_mergeSort (ss : List ImportSpec) (s : ImportSpec) :
    (ss.mergeSort importLE).filter (fun t => decide (Repeats s t)) =
      ss.filter fun t => decide (Repeats s t) := by
  have hall : (ss.filter fun t => decide (Repeats s t)).Pairwise
      fun a b => importLE a b = true := by
    refine List.pairwise_of_forall_mem_list fun a ha b hb => importLE_of_repeats ?_
    simp only [List.mem_filter, decide_eq_true_eq] at ha hb
    exact ha.2.symm.trans hb.2
  have hsub : (ss.filter fun t => decide (Repeats s t)).Sublist
      ((ss.mergeSort importLE).filter fun t => decide (Repeats s t)) := by
    have h := (List.sublist_mergeSort (fun a b c => importLE_trans (s := a) (t := b) (u := c))
      importLE_total hall List.filter_sublist).filter fun t => decide (Repeats s t)
    simpa using h
  exact (hsub.eq_of_length ((List.mergeSort_perm ss importLE).filter _).length_eq.symm).symm

lemma first?_mergeSort (ss : List ImportSpec) (s : ImportSpec) :
    first? (ss.mergeSort importLE) s = first? ss s := by
  rw [first?, first?, ← List.head?_filter, ← List.head?_filter, filter_mergeSort]

lemma first?_dropRepeats (ss : List ImportSpec) (s : ImportSpec) :
    first? (dropRepeats ss) s = first? ss s := by
  have key : ∀ (ss : List ImportSpec) t, first? (dropRepeats.go t ss) s = first? (t :: ss) s := by
    intro ss
    induction ss with
    | nil => exact fun t => rfl
    | cons u ss ih =>
      intro t
      unfold dropRepeats.go
      split
      · next h =>
        -- what repeats the second entry repeats the first
        have hu : Repeats s u → Repeats s t := fun hs => hs.trans (Repeats.symm h)
        rw [ih t]
        by_cases ht : Repeats s t
        · simp [first?, ht]
        · have hu' : ¬ Repeats s u := fun hs => ht (hu hs)
          simp [first?, ht, hu']
      · simp only [first?, List.find?_cons]
        split
        · rfl
        · exact ih u
  cases ss with
  | nil => rfl
  | cons t ss => exact key ss t

/-- Every entry is left, or one that it repeats. -/
lemma exists_mem_dropRepeats {ss : List ImportSpec} (h : s ∈ ss) :
    ∃ t ∈ dropRepeats ss, Repeats t s := by
  obtain ⟨t, ht⟩ := exists_first? h ⟨rfl, rfl⟩
  rw [← first?_dropRepeats] at ht
  obtain ⟨hmem, hr⟩ := mem_of_first? ht
  exact ⟨t, hmem, hr.symm⟩

/-- **Of the entries that repeat each other the first is printed.** -/
theorem first?_sortedImports (f : File) (s : ImportSpec) :
    first? f.sortedImports s = first? f.imports s := by
  rw [sortedImports, first?_dropRepeats, first?_mergeSort]

lemma mem_sortedImports_iff : s ∈ f.sortedImports ↔ first? f.imports s = some s := by
  rw [← first?_sortedImports]
  constructor
  · intro hs
    obtain ⟨t, ht⟩ := exists_first? hs ⟨rfl, rfl⟩
    obtain ⟨hmem, hr⟩ := mem_of_first? ht
    rw [ht, eq_of_repeats ((pairwise_sortedImports f).imp fun hab => hab.2) hs hmem hr]
  · exact fun h => (mem_of_first? h).1

lemma first?_append (ss ts : List ImportSpec) (s : ImportSpec) :
    first? (ss ++ ts) s = (first? ss s).or (first? ts s) :=
  List.find?_append

/-- Where no entry repeats another, their order does not matter. -/
lemma first?_perm {ss ts : List ImportSpec} (h : ss.Perm ts)
    (hss : ss.Pairwise fun a b => ¬ Repeats a b) (s : ImportSpec) :
    first? ss s = first? ts s := by
  rcases ht : first? ts s with _ | t
  · exact List.find?_eq_none.mpr fun t hs => List.find?_eq_none.mp ht t (h.mem_iff.mp hs)
  · obtain ⟨hmem, hr⟩ := mem_of_first? ht
    have hmem' : t ∈ ss := h.mem_iff.mpr hmem
    obtain ⟨u, hu⟩ := exists_first? hmem' hr
    obtain ⟨humem, hur⟩ := mem_of_first? hu
    rw [hu, eq_of_repeats hss humem hmem' (hur.symm.trans hr)]

/-- The import block depends on the first entries alone. -/
lemma sortedImports_congr (h : ∀ s, first? f.imports s = first? g.imports s) :
    f.sortedImports = g.sortedImports := by
  have hnodup : ∀ k : File, k.sortedImports.Nodup := fun k =>
    (pairwise_sortedImports k).imp fun hab => by
      rintro rfl
      exact hab.2 ⟨rfl, rfl⟩
  have hperm : f.sortedImports.Perm g.sortedImports :=
    (List.perm_ext_iff_of_nodup (hnodup f) (hnodup g)).mpr fun s => by
      rw [mem_sortedImports_iff, mem_sortedImports_iff, h]
  refine hperm.eq_of_pairwise ?_ (pairwise_sortedImports f) (pairwise_sortedImports g)
  exact fun a b _ _ hab hba => absurd (repeats_of_importLE hab.1 hba.1) hab.2

/-- Of the entries with a key one is printed, the first in the list. -/
lemma filter_sortedImports (f : File) (k : String ×ₗ WithBot String) :
    f.sortedImports.filter (·.key = k) = (f.imports.filter (·.key = k)).take 1 := by
  obtain ⟨s, rfl⟩ : ∃ s : ImportSpec, s.key = k :=
    ⟨⟨[], "", (ofLex k).2, (ofLex k).1⟩, rfl⟩
  have hfirst : ∀ ss : List ImportSpec, (ss.filter (·.key = s.key)).head? = first? ss s := by
    intro ss
    rw [List.head?_filter, first?]
    exact List.find?_congr fun t _ => by rw [decide_eq_decide, repeats_iff, eq_comm]
  have hone : f.sortedImports.filter (·.key = s.key) =
      (f.sortedImports.filter (·.key = s.key)).head?.toList := by
    have hno := ((pairwise_sortedImports f).imp fun hab => hab.2).filter (·.key = s.key)
    have hkey : ∀ t ∈ f.sortedImports.filter (·.key = s.key), t.key = s.key := fun t ht => by
      simpa using (List.mem_filter.mp ht).2
    generalize f.sortedImports.filter (·.key = s.key) = ts at hno hkey
    cases ts with
    | nil => rfl
    | cons t ts =>
      refine eq_singleton_of_repeats hno List.mem_cons_self fun u hu => repeats_iff.mpr ?_
      rw [hkey t List.mem_cons_self, hkey u hu]
  rw [hone, hfirst, first?_sortedImports, ← hfirst, List.take_one]

/-! ### Added imports -/

lemma hasImport_addImport (f : File) (p q : String) :
    (f.addImport p).hasImport q = (f.hasImport q || p == q) := by
  unfold addImport
  split
  · next h =>
    by_cases hpq : p = q
    · simp [← hpq, h]
    · simp [hpq]
  · simp [hasImport, ImportSpec.plain]

lemma first?_plain (p : String) (s : ImportSpec) :
    first? [.plain p] s = if s.path = p ∧ s.name? = none then some (.plain p) else none := by
  rw [first?, List.find?_singleton]
  exact if_congr decide_eq_true_iff rfl rfl

/-- An added entry repeats none that was there. -/
lemma first?_addImport (f : File) (p : String) (s : ImportSpec) :
    first? (f.addImport p).imports s = (first? f.imports s).or
      (if s.name? = none ∧ s.path = p ∧ f.hasImport p = false then some (.plain p) else none) := by
  unfold addImport
  split
  · next h => simp [h]
  · next h =>
    rw [first?_append, first?_plain]
    simp [h, and_comm]

lemma first?_foldl_addImport (ps : List String) (f : File) (s : ImportSpec) :
    first? (ps.foldl addImport f).imports s = (first? f.imports s).or
      (if s.name? = none ∧ s.path ∈ ps ∧ f.hasImport s.path = false then some (.plain s.path)
        else none) := by
  induction ps generalizing f with
  | nil => simp
  | cons p ps ih =>
    rw [List.foldl_cons, ih, first?_addImport, hasImport_addImport, Option.or_assoc]
    congr 1
    by_cases hp : s.path = p
    · subst hp
      by_cases hs : s.name? = none <;> by_cases hf : f.hasImport s.path = true <;> simp [hs, hf]
    · simp [hp, Ne.symm hp]

/-- Nothing but the imports is changed. -/
lemma exists_foldl_addImport (ps : List String) (f : File) :
    ∃ is, ps.foldl addImport f = { f with imports := is } := by
  induction ps generalizing f with
  | nil => exact ⟨f.imports, rfl⟩
  | cons p ps ih =>
    obtain ⟨is, his⟩ := ih (f.addImport p)
    refine ⟨is, ?_⟩
    rw [List.foldl_cons, his]
    unfold addImport
    split <;> rfl

/-! ### The printed block -/

/-- The text of entries in the order in which they stand: a line for a single one without comments,
and a group for others. -/
def importText (specs : List ImportSpec) (tail : List String) : String :=
  match specs, tail with
  | [], [] => ""
  | [s], [] => if s.leading = [] then "import " ++ s.text else importBlock [s] []
  | specs, tail => importBlock specs tail

lemma renderImports_eq (f : File) :
    f.renderImports = importText f.sortedImports f.importTail := by
  unfold renderImports importText
  rcases f.sortedImports with _ | ⟨s, _ | ⟨t, ss⟩⟩ <;> rcases f.importTail with _ | ⟨c, cs⟩
  · rfl
  · rfl
  · simp
  · simp
  · rfl
  · rfl

lemma print_of_sortedImports {is js : List ImportSpec}
    (h : sortedImports { f with imports := is } = sortedImports { f with imports := js }) :
    renderImports { f with imports := is } = renderImports { f with imports := js } ∧
      print { f with imports := is } = print { f with imports := js } := by
  have hr : renderImports { f with imports := is } = renderImports { f with imports := js } := by
    rw [renderImports_eq, renderImports_eq, h]
  exact ⟨hr, by simp only [print, importSection, hr]⟩

/-- **The import block is a set in canonical form.** Its entries are those of the list in strict
order by path and alias, of each pair the first one alone. So neither the order of a list without
repeats shows in the print, nor the one in which imports are added. -/
theorem renderImports_canonical (f : File) :
    (f.renderImports = importText f.sortedImports f.importTail ∧
      (f.sortedImports.Pairwise fun s t => s.key < t.key) ∧
      ∀ k, f.sortedImports.filter (·.key = k) = (f.imports.filter (·.key = k)).take 1) ∧
    (∀ is : List ImportSpec, is.Perm f.imports → (f.imports.map ImportSpec.key).Nodup →
      renderImports { f with imports := is } = f.renderImports ∧
        print { f with imports := is } = f.print) ∧
    ∀ ps qs : List String, (∀ p, p ∈ ps ↔ p ∈ qs) →
      (ps.foldl addImport f).print = (qs.foldl addImport f).print := by
  refine ⟨⟨renderImports_eq f, (pairwise_sortedImports f).imp importLT_iff.mp,
    filter_sortedImports f⟩, fun is hperm hn => ?_, fun ps qs hpq => ?_⟩
  · have hno : f.imports.Pairwise fun a b => ¬ Repeats a b :=
      (List.pairwise_map.mp hn).imp fun hne hr => hne (repeats_iff.mp hr)
    exact print_of_sortedImports (sortedImports_congr fun s => (first?_perm hperm.symm hno s).symm)
  · obtain ⟨is, his⟩ := exists_foldl_addImport ps f
    obtain ⟨js, hjs⟩ := exists_foldl_addImport qs f
    have hsorted : (ps.foldl addImport f).sortedImports = (qs.foldl addImport f).sortedImports :=
      sortedImports_congr fun s => by simp only [first?_foldl_addImport, hpq]
    rw [his, hjs] at hsorted ⊢
    exact (print_of_sortedImports hsorted).2

/-- Entries of one path that differ in their aliases, in no order. -/
def mixedImports : File :=
  { File.empty "models" with
    imports := [.plain "time", ⟨[], "t \"time\"", some "t", "time"⟩, .plain "fmt"] }

/-- An entry that repeats another, with a comment of its own. -/
def doubledImports : File :=
  { File.empty "models" with
    imports := [.plain "time", .plain "fmt", ⟨["// again"], "\"time\"", none, "time"⟩] }

theorem renderImports_canonical_mixed :
    (doubledImports.sortedImports.filter (·.key = (ImportSpec.plain "time").key) =
      [.plain "time"]) ∧
    (print { mixedImports with imports := mixedImports.imports.reverse } = mixedImports.print) ∧
    (["os", "fmt", "io"].foldl addImport mixedImports).print =
      (["io", "os", "fmt", "os"].foldl addImport mixedImports).print := by
  obtain ⟨⟨-, -, hfirst⟩, -, -⟩ := renderImports_canonical doubledImports
  obtain ⟨-, hperm, hadd⟩ := renderImports_canonical mixedImports
  refine ⟨?_, (hperm _ (List.reverse_perm _) (by decide)).2, hadd _ _ fun p => ?_⟩
  · rw [hfirst]
    decide
  · simp only [List.mem_cons, List.not_mem_nil, or_false]
    tauto

end File

end SchemaGo.Go
