import Mathlib
import SchemaGo.Proofs.Text.Trim
import SchemaGo.Proofs.Unicode.CaseMap
import SchemaGo.Schema.DataType

/-!
The raw name of a type in all its spellings. Array markers come off the end one by one, and of the
rest neither case counts nor blanks at the ends nor what stands in parentheses, so a type of the
catalog is found whichever way its name is written.
-/

namespace SchemaGo.Schema.DataType

open Text Naming Unicode

variable {cs ds g m part w : List Char} {c : Char} {n k : ℕ}

/-! ### Array markers -/

/-- Brackets, or the word behind a blank. -/
def isMarker (m : List Char) : Bool :=
  m.map Char.toLower == "[]".toList || m.map Char.toLower == " array".toList

lemma isMarker_nil : isMarker [] = false := rfl

lemma isMarker_lower (m : List Char) : isMarker (m.map Char.toLower) = isMarker m := by
  have h : (m.map Char.toLower).map Char.toLower = m.map Char.toLower := by
    rw [List.map_map]
    exact List.map_congr_left fun c _ => lower_lower c
  rw [isMarker, h, isMarker]

lemma isMarker_cases (hm : isMarker m = true) :
    m = "[]".toList ∨ m.map Char.toLower = " array".toList := by
  rw [isMarker, Bool.or_eq_true, beq_iff_eq, beq_iff_eq] at hm
  refine hm.imp_left fun h => ?_
  have hself : ∀ c ∈ m, c.toLower = c := fun c hc => by
    have hmem : c.toLower ∈ "[]".toList := h ▸ List.mem_map_of_mem hc
    have hmarks : "[]".toList.all (fun d => !isNameChar d) = true := by decide
    exact eq_of_lower_mark (by simpa using List.all_eq_true.mp hmarks _ hmem)
  rw [← h, List.map_congr_left hself, List.map_id']

lemma dropMarkers_marker (hm : isMarker m = true) (n : ℕ) (rev : List Char) :
    dropMarkers (n + 1) (m.reverse ++ rev) =
      ((dropMarkers n (rev.dropWhile isBlank)).1, true) := by
  rcases isMarker_cases hm with rfl | hm
  · rfl
  · have hlen : m.reverse.length = 6 := by
      rw [List.length_reverse, ← List.length_map (f := Char.toLower), hm]
      rfl
    have htake : (m.reverse ++ rev).take 6 = m.reverse := List.take_left' hlen
    have hdrop : (m.reverse ++ rev).drop 6 = rev := List.drop_left' hlen
    have hrev : m.reverse.map Char.toLower = " array".toList.reverse := by
      rw [List.map_reverse, hm]
    rw [dropMarkers, htake, hdrop, if_pos hrev]
    -- the word does not end in a bracket
    intro rest hrest
    obtain ⟨c, xs, hx⟩ := List.exists_cons_of_ne_nil (l := m.reverse) (by
      intro h
      simp [h] at hlen)
    rw [hx, List.cons_append, List.cons.injEq] at hrest
    rw [hx, hrest.1] at hrev
    exact absurd hrev (by simp)

lemma dropMarkers_other {rev : List Char} (h : ∀ m, isMarker m = true → ¬ m.reverse <+: rev)
    (n : ℕ) : dropMarkers n rev = (rev, false) := by
  rcases n with _ | n
  · rfl
  rw [dropMarkers, if_neg]
  · intro hword
    have hm : (rev.take 6).reverse.map Char.toLower = " array".toList := by
      rw [List.map_reverse, hword, List.reverse_reverse]
    refine h (rev.take 6).reverse (by rw [isMarker, hm]; rfl) ?_
    rw [List.reverse_reverse]
    exact List.take_prefix 6 rev
  · rintro rest rfl
    exact h "[]".toList (by decide) ⟨rest, rfl⟩

/-- The number of markers is not limited by the length of a text that holds them. -/
lemma dropMarkers_congr {rev : List Char} (hn : rev.length ≤ n) (hk : rev.length ≤ k) :
    dropMarkers n rev = dropMarkers k rev := by
  induction n generalizing k rev with
  | zero =>
    obtain rfl := List.length_eq_zero_iff.mp (Nat.le_zero.mp hn)
    cases k <;> rfl
  | succ n ih =>
    by_cases h : ∃ m, isMarker m = true ∧ m.reverse <+: rev
    · obtain ⟨m, hm, rest, rfl⟩ := h
      have hlen : 2 ≤ m.length := by
        rcases isMarker_cases hm with rfl | hm
        · decide
        · have := congrArg List.length hm
          simp at this
          omega
      have hdrop := (List.dropWhile_suffix (p := isBlank) (l := rest)).length_le
      simp only [List.length_append, List.length_reverse] at hn hk
      obtain ⟨k, rfl⟩ : ∃ j, k = j + 1 := ⟨k - 1, by omega⟩
      rw [dropMarkers_marker hm, dropMarkers_marker hm, ih (k := k) (by omega) (by omega)]
    · rw [dropMarkers_other (by simpa using h), dropMarkers_other (by simpa using h)]

/-- A marker at the end comes off, with the blanks before it. -/
lemma stripArrayMarkers_append (hm : isMarker m = true) (cs : List Char) :
    stripArrayMarkers (cs ++ m) = ((stripArrayMarkers (trimEnd cs)).1, true) := by
  have hpos : 1 ≤ m.length := by
    rcases m with _ | ⟨c, m⟩
    · simp [isMarker] at hm
    · simp
  obtain ⟨n, hn⟩ : ∃ n, (cs ++ m).length = n + 1 :=
    ⟨(cs ++ m).length - 1, by simp only [List.length_append]; omega⟩
  have hle : (cs.reverse.dropWhile isBlank).length ≤ cs.length := by
    simpa using (List.dropWhile_suffix (p := isBlank) (l := cs.reverse)).length_le
  have hfuel : dropMarkers n (cs.reverse.dropWhile isBlank) =
      dropMarkers (trimEnd cs).length (cs.reverse.dropWhile isBlank) :=
    dropMarkers_congr (by simp only [List.length_append] at hn; omega) (by simp [trimEnd])
  simp only [stripArrayMarkers, hn, List.reverse_append, dropMarkers_marker hm, hfuel]
  rw [show (trimEnd cs).reverse = cs.reverse.dropWhile isBlank from List.reverse_reverse _]

lemma stripArrayMarkers_other (h : ∀ m, isMarker m = true → ¬ m <:+ cs) :
    stripArrayMarkers cs = (cs, false) := by
  have h' : ∀ m, isMarker m = true → ¬ m.reverse <+: cs.reverse := fun m hm hp =>
    h m hm (List.reverse_prefix.mp hp)
  simp [stripArrayMarkers, dropMarkers_other h']

/-- **A name is marked as an array by what stands at its end.** -/
lemma stripArrayMarkers_snd_iff :
    (stripArrayMarkers cs).2 = true ↔ ∃ m, isMarker m = true ∧ m <:+ cs := by
  constructor
  · intro h
    by_contra hn
    rw [stripArrayMarkers_other (by simpa using hn)] at h
    simp at h
  · rintro ⟨m, hm, ds, rfl⟩
    rw [stripArrayMarkers_append hm]

lemma stripArrayMarkers_of_snd (h : (stripArrayMarkers cs).2 = false) :
    stripArrayMarkers cs = (cs, false) := by
  refine stripArrayMarkers_other fun m hm hs => ?_
  rw [stripArrayMarkers_snd_iff.mpr ⟨m, hm, hs⟩] at h
  simp at h

lemma trimEnd_lower (cs : List Char) :
    trimEnd (cs.map Char.toLower) = (trimEnd cs).map Char.toLower := trimEnd_map isBlank_lower cs

/-- Markers are told without regard to case. -/
lemma stripArrayMarkers_lower (cs : List Char) : stripArrayMarkers (cs.map Char.toLower) =
    ((stripArrayMarkers cs).1.map Char.toLower, (stripArrayMarkers cs).2) := by
  induction hl : cs.length using Nat.strong_induction_on generalizing cs with
  | _ l ih =>
    by_cases h : ∃ m, isMarker m = true ∧ m <:+ cs
    · obtain ⟨m, hm, ds, rfl⟩ := h
      have hm' : isMarker (m.map Char.toLower) = true := by rw [isMarker_lower, hm]
      have hlt : (trimEnd ds).length < l := by
        have hle := (trimEnd_isPrefix ds).length_le
        have hpos : m ≠ [] := by
          rintro rfl
          simp [isMarker_nil] at hm
        have := List.length_pos_iff.mpr hpos
        simp only [List.length_append] at hl
        omega
      rw [List.map_append, stripArrayMarkers_append hm', trimEnd_lower, ih _ hlt _ rfl,
        stripArrayMarkers_append hm]
    · have hlower : ∀ m, isMarker m = true → ¬ m <:+ cs.map Char.toLower := by
        rintro m hm ⟨front, hfront⟩
        obtain ⟨a, b, rfl, -, rfl⟩ := List.append_eq_map_iff.mp hfront
        exact h ⟨b, by rwa [isMarker_lower] at hm, a, rfl⟩
      rw [stripArrayMarkers_other hlower, stripArrayMarkers_other (by simpa using h)]

/-! ### Normalised names -/

/-- Normalised names have no case. -/
lemma normalized_lower (cs : List Char) : normalized (cs.map Char.toLower) = normalized cs := by
  rw [normalized, normalized, flatMap_toLower_lower]

lemma dropFront_congr (hp : part ≠ []) (hn : cs.length ≤ n) (hk : cs.length ≤ k) :
    dropFront part n cs = dropFront part k cs := by
  induction n generalizing k cs with
  | zero =>
    obtain rfl := List.length_eq_zero_iff.mp (Nat.le_zero.mp hn)
    cases k <;> simp [dropFront, hp]
  | succ n ih =>
    rcases k with _ | k
    · obtain rfl := List.length_eq_zero_iff.mp (Nat.le_zero.mp hk)
      simp [dropFront, hp]
    rw [dropFront, dropFront]
    split
    · have := List.length_pos_iff.mpr hp
      exact ih (by simp only [List.length_drop]; omega) (by simp only [List.length_drop]; omega)
    · rfl

/-- What begins with a character that is not in `part` is no place for `part` to end. -/
lemma isPrefixOf_append_cons (hc : c ∉ part) (cs ds : List Char) :
    part.isPrefixOf (cs ++ c :: ds) = part.isPrefixOf cs := by
  rw [Bool.eq_iff_iff, List.isPrefixOf_iff_prefix, List.isPrefixOf_iff_prefix]
  refine ⟨fun h => ?_, fun h => h.trans (List.prefix_append _ _)⟩
  obtain ⟨rest, hrest⟩ := h
  rcases List.append_eq_append_iff.mp hrest with ⟨t, ht, -⟩ | ⟨t, ht, hd⟩
  · exact ⟨t, ht.symm⟩
  · rcases t with _ | ⟨d, t⟩
    · simp [ht]
    · obtain ⟨rfl, -⟩ := List.cons.inj hd
      simp [ht] at hc

lemma dropFront_append_cons (hc : c ∉ part) (n : ℕ) (cs ds : List Char) :
    dropFront part n (cs ++ c :: ds) = dropFront part n cs ++ c :: ds := by
  induction n generalizing cs with
  | zero => rfl
  | succ n ih =>
    rw [dropFront, dropFront, isPrefixOf_append_cons hc]
    split
    · next h =>
      have hle := (List.isPrefixOf_iff_prefix.mp h).length_le
      rw [List.drop_append_of_le_length hle, ih]
    · rfl

lemma dropFront_append (hp : part ≠ []) (hds : ∀ c ∈ ds.head?, c ∉ part) (cs : List Char) :
    dropFront part (cs ++ ds).length (cs ++ ds) = dropFront part cs.length cs ++ ds := by
  cases ds with
  | nil => simp
  | cons c ds =>
    have hfuel : dropFront part (cs ++ c :: ds).length cs = dropFront part cs.length cs :=
      dropFront_congr hp (by simp) le_rfl
    rw [dropFront_append_cons (hds c rfl), hfuel]

/-- Behind any text some number of parentheses is open. -/
lemma exists_outsideParens_append (depth : ℕ) (cs : List Char) :
    ∃ e, ∀ ds, outsideParens depth (cs ++ ds) = outsideParens depth cs ++ outsideParens e ds := by
  fun_induction outsideParens depth cs with
  | case1 depth => exact ⟨depth, fun _ => rfl⟩
  | case2 depth cs ih => simpa [outsideParens] using ih
  | case3 depth cs ih => simpa [outsideParens] using ih
  | case4 cs c hopen hclose ih => simpa [outsideParens, hopen, hclose] using ih
  | case5 depth c cs hopen hclose hdepth ih =>
    simpa [outsideParens, hopen, hclose, hdepth] using ih

lemma outsideParens_of_free (ho : '(' ∉ cs) (hc : ')' ∉ cs) (depth : ℕ) :
    outsideParens depth cs = if depth = 0 then cs else [] := by
  induction cs with
  | nil => simp [outsideParens]
  | cons c cs ih =>
    rw [List.mem_cons, not_or] at ho hc
    rw [outsideParens, ih ho.2 hc.2]
    · split <;> rfl
    · exact fun h => ho.1 h.symm
    · exact fun h => hc.1 h.symm

lemma outsideParens_group (ho : '(' ∉ g) (hc : ')' ∉ g) (depth : ℕ) :
    outsideParens depth ('(' :: g ++ [')']) = [] := by
  obtain ⟨e, he⟩ := exists_outsideParens_append (depth + 1) g
  rw [List.cons_append, outsideParens, he, outsideParens_of_free ho hc]
  simp [outsideParens]

/-- Of a group behind some blanks nothing is left but, if no parenthesis is open, the blanks. -/
lemma exists_outsideParens_group (hw : ∀ c ∈ w, isBlank c = true) (ho : '(' ∉ g) (hc : ')' ∉ g)
    (cs : List Char) : ∃ v, (∀ c ∈ v, isBlank c = true) ∧
      outsideParens 0 (cs ++ (w ++ ('(' :: g ++ [')']))) = outsideParens 0 cs ++ v := by
  have hfree : ∀ p, isBlank p = false → p ∉ w := fun p hp hm => by simp [hw p hm] at hp
  obtain ⟨e, he⟩ := exists_outsideParens_append 0 cs
  obtain ⟨e', he'⟩ := exists_outsideParens_append e w
  refine ⟨if e = 0 then w else [], fun c hc => ?_, ?_⟩
  · split at hc
    · exact hw c hc
    · simp at hc
  · rw [he, he', outsideParens_group ho hc, List.append_nil,
      outsideParens_of_free (hfree _ (by decide)) (hfree _ (by decide))]

lemma singleSpaced_append_of_blank (hw : ∀ c ∈ w, isBlank c = true) (cs : List Char) :
    singleSpaced (cs ++ w) = singleSpaced cs := by
  induction w generalizing cs with
  | nil => rw [List.append_nil]
  | cons c w ih =>
    have hc := hw c (by simp)
    have hstep : singleSpaced (cs ++ [c]) = singleSpaced cs := by
      rw [singleSpaced, List.splitOnP_append_cons _ _ hc]
      simp [singleSpaced]
    rw [← List.singleton_append, ← List.append_assoc, ih (fun d hd => hw d (by simp [hd])), hstep]

lemma singleSpaced_eq_self (h : ∀ c ∈ cs, isBlank c = false) : singleSpaced cs = cs := by
  rw [singleSpaced, List.splitOnP_eq_singleton h]
  cases cs <;> simp

lemma mark_not_mem_toLower (hm : isNameChar c = false) (hg : c ∉ g) : c ∉ g.flatMap toLower := by
  intro h
  obtain ⟨d, hd, hc⟩ := List.mem_flatMap.mp h
  exact hg (eq_of_mem_toLower hc hm ▸ hd)

/-- A modifier behind the name does not count, nor do blanks before it. -/
lemma normalized_append_group (hw : ∀ c ∈ w, isBlank c = true) (ho : '(' ∉ g) (hc : ')' ∉ g)
    (cs : List Char) : normalized (cs ++ w ++ ('(' :: g ++ [')'])) = normalized cs := by
  have hlower : (cs ++ w ++ ('(' :: g ++ [')'])).flatMap toLower =
      cs.flatMap toLower ++ (w ++ ('(' :: g.flatMap toLower ++ [')'])) := by
    have hparens : toLower '(' = ['('] ∧ toLower ')' = [')'] := by decide
    simp [flatMap_toLower_of_blank hw, hparens]
  have hhead : ∀ c ∈ (w ++ ('(' :: g.flatMap toLower ++ [')'])).head?,
      c ∉ "pg_catalog.".toList := by
    have hall : "pg_catalog.".toList.all (fun d => !isBlank d) = true := by decide
    rcases w with _ | ⟨d, w⟩
    · simp
    · rintro c hd hmem
      obtain rfl : d = c := by simpa using hd
      simpa [hw d (by simp)] using List.all_eq_true.mp hall d hmem
  obtain ⟨v, hv, houtside⟩ := exists_outsideParens_group hw
    (mark_not_mem_toLower (by decide) ho) (mark_not_mem_toLower (by decide) hc)
    (dropFront "pg_catalog.".toList (cs.flatMap toLower).length (cs.flatMap toLower))
  simp only [normalized, hlower]
  rw [dropFront_append (by decide) hhead, houtside, singleSpaced_append_of_blank hv]

/-! ### Types of the catalog -/

/-- The type is one of the catalog. -/
def isBuiltin : DataType → Bool
  | custom _ => false
  | _ => true

lemma isBuiltin_of_builtin? {t : DataType} (h : builtin? cs = some t) : t.isBuiltin = true := by
  simp only [builtin?] at h
  split at h
  · obtain rfl := Option.some.inj h
    split <;> rfl
  split at h
  · obtain rfl := Option.some.inj h
    split <;> rfl
  split at h
  · obtain rfl := Option.some.inj h
    rfl
  · obtain ⟨e, he, rfl⟩ := Option.map_eq_some_iff.mp h
    have hall : exactNames.all (fun e => e.1.isBuiltin) = true := by decide
    exact List.all_eq_true.mp hall e (List.mem_of_find?_eq_some he)

/-- The type with a normalised name, and whether the name is that of its arrays. -/
def recognized? (name : List Char) : Option (DataType × Bool) :=
  match builtin? name with
  | some t => some (t, false)
  | none =>
    match name with
    | '_' :: rest => (builtin? rest).map (·, true)
    | _ => none

/-- A raw name without the blanks at its ends and its array markers, and whether it had any. -/
def stripped (raw : String) : List Char × Bool := stripArrayMarkers (trim raw.toList)

lemma ofName_eq (raw : String) : ofName raw =
    match recognized? (normalized (stripped raw).1) with
    | some (t, element) => (t, (stripped raw).2 || element)
    | none => (custom (customName (stripped raw).1), (stripped raw).2) := by
  unfold ofName recognized? stripped
  dsimp only
  rcases builtin? (normalized (stripArrayMarkers (trim raw.toList)).1) with _ | t
  · generalize normalized (stripArrayMarkers (trim raw.toList)).1 = name
    rcases name with _ | ⟨c, rest⟩
    · rfl
    · by_cases hc : c = '_'
      · subst hc
        rcases h : builtin? rest <;> simp [h]
      · simp [hc]
  · simp

lemma ofName_eq_iff {raw : String} {t : DataType} {isArray : Bool} (ht : t.isBuiltin = true) :
    ofName raw = (t, isArray) ↔
      ∃ element, recognized? (normalized (stripped raw).1) = some (t, element) ∧
        isArray = ((stripped raw).2 || element) := by
  rw [ofName_eq]
  rcases h : recognized? (normalized (stripped raw).1) with _ | ⟨t', element⟩
  · simp only [Prod.mk.injEq, reduceCtorEq, false_and, exists_false, iff_false, not_and]
    rintro rfl
    simp [isBuiltin] at ht
  · simp only [Option.some.injEq, Prod.mk.injEq]
    constructor
    · rintro ⟨rfl, rfl⟩
      exact ⟨element, ⟨rfl, rfl⟩, rfl⟩
    · rintro ⟨e, ⟨rfl, rfl⟩, rfl⟩
      exact ⟨rfl, rfl⟩

/-! ### Spellings -/

variable {raw s : String}

/-- The texts differ in the case of ASCII letters alone. -/
def SameLetters (s t : String) : Prop := s.toList.map Char.toLower = t.toList.map Char.toLower

instance (s t : String) : Decidable (SameLetters s t) := inferInstanceAs (Decidable (_ = _))

lemma stripped_sameLetters (h : SameLetters s raw) :
    normalized (stripped s).1 = normalized (stripped raw).1 ∧
      (stripped s).2 = (stripped raw).2 := by
  have hlower : ∀ u : String, stripArrayMarkers (trim (u.toList.map Char.toLower)) =
      ((stripped u).1.map Char.toLower, (stripped u).2) := fun u => by
    rw [trim_map isBlank_lower, stripArrayMarkers_lower, stripped]
  have heq := hlower s
  rw [h, hlower raw, Prod.mk.injEq] at heq
  rw [← normalized_lower, ← normalized_lower (stripped raw).1]
  exact ⟨congrArg normalized heq.1.symm, heq.2.symm⟩

lemma stripped_blank {front back : String} (hf : ∀ c ∈ front.toList, isBlank c = true)
    (hb : ∀ c ∈ back.toList, isBlank c = true) :
    stripped (front ++ raw ++ back) = stripped raw := by
  rw [stripped, String.toList_append, String.toList_append, trim_append_of_blank hb,
    trim_blank_append hf, stripped]

lemma trimEnd_marker (hm : isMarker m = true) : trimEnd m = m := by
  rcases isMarker_cases hm with rfl | hw
  · rfl
  · refine (trimEnd_isPrefix m).eq_of_length ?_
    have hlen := congrArg List.length hw
    have h := congrArg List.length (trimEnd_lower m)
    rw [List.length_map] at hlen
    rw [hw, List.length_map] at h
    rw [← h, hlen]
    rfl

lemma stripped_append_marker {m : String} (hm : isMarker m.toList = true)
    (hraw : trimStart raw.toList ≠ []) : stripped (raw ++ m) = ((stripped raw).1, true) := by
  have hne : trimEnd m.toList ≠ [] := by
    rw [trimEnd_marker hm]
    intro h
    simp [h, isMarker] at hm
  rw [stripped, String.toList_append, trim_append_of_ne_nil hraw hne, trimEnd_marker hm,
    stripArrayMarkers_append hm, stripped, trim]

/-- Brackets are a marker even where there is nothing else. -/
lemma stripped_append_brackets (raw : String) :
    stripped (raw ++ "[]") = ((stripped raw).1, true) := by
  by_cases hraw : trimStart raw.toList = []
  · rw [stripped, String.toList_append, trim_blank_append (trimStart_eq_nil_iff.mp hraw), stripped,
      trim_eq_nil_iff.mpr hraw]
    decide
  · exact stripped_append_marker (by decide) hraw

/-- However many markers are added, they all come off again. -/
lemma stripped_append_markers {ms : List String} (hms : ∀ m ∈ ms, isMarker m.toList = true)
    (hne : ms ≠ []) (hraw : trimStart raw.toList ≠ []) :
    stripped (raw ++ String.join ms) = ((stripped raw).1, true) := by
  induction ms generalizing raw with
  | nil => exact absurd rfl hne
  | cons m ms ih =>
    have hm := stripped_append_marker (hms m (by simp)) hraw
    rw [String.join_cons, ← String.append_assoc]
    by_cases hnil : ms = []
    · rw [hnil, String.join_nil, String.append_empty, hm]
    · rw [ih (fun x hx => hms x (by simp [hx])) hnil ?_, hm]
      rw [String.toList_append, trimStart_append, if_neg hraw]
      exact List.append_ne_nil_of_left_ne_nil hraw _

/-- No marker ends in a parenthesis. -/
lemma not_marker_suffix (hm : isMarker m = true) (cs : List Char) : ¬ m <:+ cs ++ [')'] := by
  rintro ⟨front, hfront⟩
  have hne : m ≠ [] := by
    rintro rfl
    simp [isMarker_nil] at hm
  have hlast := congrArg List.getLast? hfront
  rw [List.getLast?_append_of_ne_nil _ hne, List.getLast?_concat] at hlast
  have hlower : ')' ∈ m.map Char.toLower :=
    List.mem_map.mpr ⟨')', List.mem_of_getLast? hlast, rfl⟩
  rcases isMarker_cases hm with rfl | hw
  · simp at hlower
  · rw [hw] at hlower
    simp at hlower

/-- A name that carries no marker carries none behind a group. -/
lemma stripped_append_group {group : String} (hraw : trimStart raw.toList ≠ [])
    (hmark : (stripped raw).2 = false) (ho : '(' ∉ group.toList) (hc : ')' ∉ group.toList) :
    normalized (stripped (raw ++ "(" ++ group ++ ")")).1 = normalized (stripped raw).1 ∧
      (stripped (raw ++ "(" ++ group ++ ")")).2 = false := by
  have hgroup : (raw ++ "(" ++ group ++ ")").toList =
      raw.toList ++ ('(' :: group.toList ++ [')']) := by simp
  have hend : trimEnd ('(' :: group.toList ++ [')']) = '(' :: group.toList ++ [')'] :=
    trimEnd_eq_self fun c h => by
      rw [List.getLast?_concat, Option.mem_some_iff] at h
      exact h ▸ rfl
  have htrim : trim (raw ++ "(" ++ group ++ ")").toList =
      trimStart raw.toList ++ ('(' :: group.toList ++ [')']) := by
    rw [hgroup, trim_append_of_ne_nil hraw (by rw [hend]; simp), hend]
  have hother : stripped (raw ++ "(" ++ group ++ ")") =
      (trimStart raw.toList ++ ('(' :: group.toList ++ [')']), false) := by
    rw [stripped, htrim]
    refine stripArrayMarkers_other fun m hm hs => ?_
    rw [← List.append_assoc] at hs
    exact not_marker_suffix hm _ hs
  obtain ⟨w, hsplit, hw⟩ := trimEnd_blank (trimStart raw.toList)
  have hbare : (stripped raw).1 = trimEnd (trimStart raw.toList) := by
    rw [stripped, stripArrayMarkers_of_snd hmark, trim]
  rw [hother, hbare]
  refine ⟨?_, rfl⟩
  nth_rewrite 1 [hsplit]
  exact normalized_append_group hw ho hc _

/-- **Brackets make an array of any type**, of the catalog or not. -/
lemma ofName_append_brackets (raw : String) : ofName (raw ++ "[]") = ((ofName raw).1, true) := by
  rw [ofName_eq, ofName_eq, stripped_append_brackets]
  rcases recognized? (normalized (stripped raw).1) with _ | p <;> rfl

/-- Blanks aside, the name ends in a marker of arrays. -/
def CarriesMarker (raw : String) : Prop := ∃ m, isMarker m = true ∧ m <:+ trim raw.toList

lemma carriesMarker_iff : CarriesMarker raw ↔ (stripped raw).2 = true :=
  stripArrayMarkers_snd_iff.symm

instance (raw : String) : Decidable (CarriesMarker raw) :=
  decidable_of_iff _ carriesMarker_iff.symm

lemma trimStart_ne_nil_of_recognized {p : DataType × Bool}
    (h : recognized? (normalized (stripped raw).1) = some p) : trimStart raw.toList ≠ [] := by
  intro hraw
  have hnone : recognized? (normalized (stripArrayMarkers []).1) = none := by decide
  rw [stripped, trim_eq_nil_iff.mpr hraw, hnone] at h
  simp at h

/-- **A type of the catalog is found however its name is spelled.** Neither the case of letters nor
blanks around the name change what is found, nor a modifier behind a name without markers, and
markers make arrays of it. -/
theorem ofName_respelled {t : DataType} {isArray : Bool} (h : ofName raw = (t, isArray))
    (ht : t.isBuiltin = true) :
    (∀ s, SameLetters s raw → ofName s = (t, isArray)) ∧
      (∀ front back : String, (∀ c ∈ front.toList, isBlank c = true) →
        (∀ c ∈ back.toList, isBlank c = true) → ofName (front ++ raw ++ back) = (t, isArray)) ∧
      (¬ CarriesMarker raw → ∀ group : String, '(' ∉ group.toList → ')' ∉ group.toList →
        ofName (raw ++ "(" ++ group ++ ")") = (t, isArray)) ∧
      ∀ ms : List String, ms ≠ [] → (∀ m ∈ ms, isMarker m.toList = true) →
        ofName (raw ++ String.join ms) = (t, true) := by
  obtain ⟨element, hname, rfl⟩ := (ofName_eq_iff ht).mp h
  have hraw := trimStart_ne_nil_of_recognized hname
  refine ⟨fun s hs => ?_, fun front back hf hb => ?_, fun hmark group ho hc => ?_,
    fun ms hne hms => ?_⟩ <;> refine (ofName_eq_iff ht).mpr ⟨element, ?_⟩
  · obtain ⟨hn, hm⟩ := stripped_sameLetters hs
    rw [hn, hm]
    exact ⟨hname, rfl⟩
  · rw [stripped_blank hf hb]
    exact ⟨hname, rfl⟩
  · rw [carriesMarker_iff, Bool.not_eq_true] at hmark
    obtain ⟨hn, hm⟩ := stripped_append_group hraw hmark ho hc
    rw [hn, hm, hmark]
    exact ⟨hname, rfl⟩
  · rw [stripped_append_markers hms hne hraw]
    exact ⟨hname, rfl⟩

theorem ofName_respelled_timestamp :
    ofName "pg_catalog.timestamp(3) with time zone" = (timestampTz, false) ∧
      ofName "PG_catalog.TIMESTAMP(3) With Time Zone" = (timestampTz, false) ∧
      ofName "\t pg_catalog.timestamp(3) with time zone\u00A0\n" = (timestampTz, false) ∧
      ofName "pg_catalog.timestamp(3) with time zone(6, [])" = (timestampTz, false) ∧
      ofName "pg_catalog.timestamp(3) with time zone[] ARRAY[]" = (timestampTz, true) := by
  have h : ofName "pg_catalog.timestamp(3) with time zone" = (timestampTz, false) := by
    decide
  obtain ⟨hcase, hblank, hgroup, hmarkers⟩ := ofName_respelled h rfl
  exact ⟨h, hcase _ (by decide),
    hblank "\t " "\u00A0\n" (List.all_eq_true.mp (by decide))
      (List.all_eq_true.mp (by decide)),
    hgroup (by decide) "6, []" (by decide) (by decide),
    hmarkers ["[]", " ARRAY", "[]"] (by decide) (by decide)⟩

end SchemaGo.Schema.DataType
