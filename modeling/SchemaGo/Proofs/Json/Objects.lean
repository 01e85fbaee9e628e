import Mathlib
import SchemaGo.Proofs.Json.Tokens

/-!
Lists and records are read back from their texts. The members of a record may come in any order:
after some of them, the parts that have been collected depend on their keys only.
-/

namespace SchemaGo.Json

open Decoder

variable {α β σ : Type} {c : Char} {cs ws t rest : List Char} {ts : List (List Char)} {n : ℕ}

/-! ### Ends -/

lemma Ends.of_follows {closing : Char} (hc : closing = ']' ∨ closing = '}')
    (h : Follows closing ts cs) (rest : List Char) : Ends (cs ++ rest) := by
  have hblanks : ∀ {ws : List Char}, IsBlanks ws → ∀ {c : Char},
      c = ',' ∨ c = ']' ∨ c = '}' → ∀ cs, Ends (ws ++ c :: cs) := by
    intro ws hws c hc cs d hd
    rcases ws with _ | ⟨w, ws⟩
    · obtain rfl : c = d := Option.some.inj hd
      exact .inr hc
    · obtain rfl : w = d := Option.some.inj hd
      exact .inl (hws w List.mem_cons_self)
  cases h with
  | done blanks =>
    rw [List.append_assoc]
    exact hblanks blanks (.inr hc) _
  | item blanks _ _ =>
    rw [List.append_assoc]
    exact hblanks blanks (.inl rfl) _

lemma Follows.length_lt {closing : Char} (h : Follows closing ts cs) : ts.length < cs.length := by
  induction h with
  | done => simp
  | item _ _ _ ih =>
    simp only [List.length_append, List.length_cons]
    omega

/-! ### Lists -/

lemma moreItems_first (hws : IsBlanks ws) (ht : Begins t) (rest : List Char) :
    moreItems true (ws ++ (t ++ rest)) = .ok (true, t ++ rest) := by
  obtain ⟨c, cs, rfl, hc, hend⟩ := ht
  rw [List.cons_append, moreItems, bind_ok (peekOr_ok hws hc .list _)]
  split
  · exact absurd rfl hend
  · rfl

lemma moreItems_next {ws' : List Char} (hws : IsBlanks ws) (hws' : IsBlanks ws') (ht : Begins t)
    (rest : List Char) :
    moreItems false (ws ++ ',' :: (ws' ++ (t ++ rest))) = .ok (true, t ++ rest) := by
  obtain ⟨c, cs, rfl, hc, hend⟩ := ht
  rw [List.cons_append, moreItems, bind_ok (peekOr_ok hws (by decide) .list _)]
  have htake : take (',' :: (ws' ++ c :: (cs ++ rest))) = .ok ((), ws' ++ c :: (cs ++ rest)) := rfl
  change (take >>= _) _ = _
  rw [bind_ok htake, bind_ok (peekOr_ok hws' hc .value _), if_neg hend]
  rfl

lemma moreItems_done (hws : IsBlanks ws) (first : Bool) (rest : List Char) :
    moreItems first (ws ++ ']' :: rest) = .ok (false, ']' :: rest) := by
  rw [moreItems, bind_ok (peekOr_ok hws (by decide) .list _)]
  rfl

variable {d : Decoder α} {S : Spelling α} {as : List α}

/-- A value is read where it begins. -/
lemma Reads.here {a : α} (hd : Reads d S a) (ht : S.texts a t) (hrest : Ends rest) :
    d (t ++ rest) = .ok (a, rest) :=
  hd isBlanks_nil ht hrest

lemma itemsUpTo_item {first : Bool} {a : α} {begin behind : List Char}
    (hmore : moreItems first begin = .ok (true, t)) (ha : d t = .ok (a, behind))
    (has : itemsUpTo d n false behind = .ok (as, rest)) :
    itemsUpTo d (n + 1) first begin = .ok (a :: as, rest) := by
  rw [itemsUpTo, bind_ok hmore]
  exact (bind_ok ha).trans (bind_ok has)

lemma itemsUpTo_done {first : Bool} (hws : IsBlanks ws) (rest : List Char) :
    itemsUpTo d (n + 1) first (ws ++ ']' :: rest) = .ok ([], rest) := by
  rw [itemsUpTo, bind_ok (moreItems_done hws first rest)]
  rfl

/-- What stands behind an item is read to the end of the list. -/
lemma itemsUpTo_follows (hd : ∀ a ∈ as, Reads d S a) (hts : List.Forall₂ S.texts as ts)
    (h : Follows ']' ts cs) (hn : ts.length < n) (rest : List Char) :
    itemsUpTo d n false (cs ++ rest) = .ok (as, rest) := by
  obtain ⟨n, rfl⟩ : ∃ k, n = k + 1 := ⟨n - 1, by omega⟩
  induction hts generalizing cs n with
  | nil =>
    cases h with
    | done blanks =>
      rw [List.append_assoc]
      exact itemsUpTo_done blanks rest
  | cons ht hts ih =>
    cases h with
    | item blanks blanks' others =>
      rw [List.forall_mem_cons] at hd
      obtain ⟨n, rfl⟩ : ∃ k, n = k + 1 := ⟨n - 1, by simp at hn; omega⟩
      simp only [List.append_assoc, List.cons_append]
      exact itemsUpTo_item (moreItems_next blanks blanks' (S.begins ht) _)
        (hd.1.here ht (.of_follows (.inl rfl) others rest)) (ih hd.2 others n (by simpa using hn))

lemma reads_list (hd : ∀ a ∈ as, Reads d S a) : Reads (list d) S.list as := by
  rintro ws t rest hws ⟨ts, hts, ht⟩ _
  cases ht with
  | empty blanks =>
    obtain rfl : as = [] := by cases hts; rfl
    rw [List.cons_append, list, bind_ok (peekOr_ok hws (by decide) .value _)]
    change itemsUpTo d _ true _ = _
    rw [List.tail_cons, List.append_assoc]
    exact itemsUpTo_done blanks rest
  | @items ws' t cs ts blanks others =>
    obtain ⟨a, as, ha, has, rfl⟩ : ∃ a as', S.texts a t ∧ List.Forall₂ S.texts as' ts ∧
        as = a :: as' := by
      cases hts with
      | cons ha has => exact ⟨_, _, ha, has, rfl⟩
    rw [List.forall_mem_cons] at hd
    rw [List.cons_append, list, bind_ok (peekOr_ok hws (by decide) .value _)]
    change itemsUpTo d _ true _ = _
    simp only [List.tail_cons, List.append_assoc]
    refine itemsUpTo_item (moreItems_first blanks (S.begins ha) _)
      (hd.1.here ha (.of_follows (.inl rfl) others rest))
      (itemsUpTo_follows hd.2 has others ?_ rest)
    have hlen := others.length_lt
    simp only [List.length_append]
    omega

/-! ### Records -/

/-- What has been read of a member, if its key is one of those that have been. -/
def seen (ks : List String) (key : String) (x : β) : Option β := if key ∈ ks then some x else none

@[simp] lemma seen_cons (k : String) (ks : List String) (key : String) (x : β) :
    seen (k :: ks) key x = if key = k then some x else seen ks key x := by
  by_cases h : key = k <;> simp [seen, h]

lemma isSome_seen (ks : List String) (key : String) (x : β) :
    (seen ks key x).isSome = decide (key ∈ ks) := by
  by_cases h : key ∈ ks <;> simp [seen, h]

/-- What may be missing is the default. -/
lemma getD_seen {ks : List String} {key : String} {x default : β} (h : key ∈ ks ∨ x = default) :
    (seen ks key x).getD default = x := by
  by_cases hk : key ∈ ks
  · simp [seen, hk]
  · simp [seen, hk, h.resolve_left hk]

/-- The field reads the member of a value. -/
structure RecordField.Collects (f : RecordField σ) (m : Member α) (a : α)
    (parts : List String → σ) : Prop where
  name : f.name = m.key
  given : ∀ ks, f.given (parts ks) = decide (m.key ∈ ks)
  lacks : f.required = true → ¬ m.mayLack a
  read : ∀ {ws t rest : List Char}, IsBlanks ws → m.spelling.texts a t → Ends rest → ∀ ks,
    f.read (parts ks) (ws ++ (t ++ rest)) = .ok (parts (m.key :: ks), rest)

/-- The record reads the members of a value. Behind those with the keys `ks` it has collected
`parts ks`. -/
structure Record.Collects (r : Record σ α) (ms : List (Member α)) (a : α)
    (parts : List String → σ) : Prop where
  start : r.start = parts []
  fields : List.Forall₂ (fun f m => f.Collects m a parts) r.fields ms
  nodup : (ms.map (·.key)).Nodup
  build : ∀ ks, (∀ m ∈ ms, m.key ∈ ks ∨ m.mayLack a) → r.build (parts ks) = a

/-- The field of a member is found by its key. -/
lemma exists_find?_of_forall₂ {fs : List (RecordField σ)} {ms : List (Member α)} {a : α}
    {parts : List String → σ} (h : List.Forall₂ (fun f m => f.Collects m a parts) fs ms)
    (hnodup : (ms.map (·.key)).Nodup) {m : Member α} (hm : m ∈ ms) :
    ∃ f, fs.find? (·.name == m.key) = some f ∧ f.Collects m a parts := by
  induction h with
  | nil => exact absurd hm List.not_mem_nil
  | @cons f m' fs ms hf _ ih =>
    rw [List.map_cons, List.nodup_cons] at hnodup
    rcases List.mem_cons.mp hm with rfl | hm
    · exact ⟨f, List.find?_cons_of_pos (by simp [hf.name]), hf⟩
    · have hne : f.name ≠ m.key := by
        rw [hf.name]
        exact (ne_of_mem_of_not_mem (List.mem_map_of_mem hm) hnodup.1).symm
      obtain ⟨g, hg, hcollects⟩ := ih hnodup.2 hm
      exact ⟨g, (List.find?_cons_of_neg (by simpa using hne)).trans hg, hcollects⟩

lemma exists_member_of_forall₂ {fs : List (RecordField σ)} {ms : List (Member α)} {a : α}
    {parts : List String → σ} (h : List.Forall₂ (fun f m => f.Collects m a parts) fs ms)
    {f : RecordField σ} (hf : f ∈ fs) : ∃ m ∈ ms, f.Collects m a parts := by
  induction h with
  | nil => exact absurd hf List.not_mem_nil
  | @cons _ m _ _ hcollects _ ih =>
    rcases List.mem_cons.mp hf with rfl | hf
    · exact ⟨m, List.mem_cons_self, hcollects⟩
    · obtain ⟨m', hm', hcollects⟩ := ih hf
      exact ⟨m', List.mem_cons_of_mem m hm', hcollects⟩

namespace Record

variable {r : Record σ α} {ms given : List (Member α)} {m : Member α} {a : α}
  {parts : List String → σ} {ks : List String}

lemma Collects.finish (h : r.Collects ms a parts)
    (hks : ∀ m ∈ ms, m.key ∈ ks ∨ m.mayLack a) : r.finish (parts ks) = .ok a := by
  have hnone : r.fields.find? (fun f => f.required && !f.given (parts ks)) = none := by
    rw [List.find?_eq_none]
    intro f hf
    obtain ⟨m, hm, hcollects⟩ := exists_member_of_forall₂ h.fields hf
    rw [hcollects.given]
    intro hbad
    obtain ⟨hrequired, hlacks⟩ := Bool.and_eq_true_iff.mp hbad
    have hkey := (hks m hm).resolve_right (hcollects.lacks hrequired)
    simp [hkey] at hlacks
  rw [Record.finish, hnone]
  exact congrArg Except.ok (h.build ks hks)

/-! ### Members -/

lemma colon_ok (hws : IsBlanks ws) (cs : List Char) : colon (ws ++ ':' :: cs) = .ok ((), cs) := by
  rw [colon, bind_ok (peekOr_ok hws (by decide) .object _), if_pos rfl]
  rfl

lemma Collects.member_ok (h : r.Collects ms a parts) (hm : m ∈ ms) (hks : m.key ∉ ks)
    (ht : m.Spelled a t) (hrest : Ends rest) :
    r.member (parts ks) (t ++ rest) = .ok (parts (m.key :: ks), rest) := by
  obtain ⟨f, hf, hcollects⟩ := exists_find?_of_forall₂ h.fields h.nodup hm
  obtain ⟨key, ws, ws', v, hkey, hws, hws', hv, rfl⟩ := ht
  have hgiven : f.given (parts ks) = false := by simp [hcollects.given, hks]
  simp only [List.append_assoc, List.cons_append]
  rw [Record.member, bind_ok (readString_ok hkey _)]
  simp only [hf, hgiven]
  exact (bind_ok (colon_ok hws _)).trans (hcollects.read hws' hv hrest ks)

lemma moreMembers_first (hws : IsBlanks ws) (cs : List Char) :
    moreMembers true (ws ++ '"' :: cs) = .ok (true, '"' :: cs) := by
  rw [moreMembers, bind_ok (peekOr_ok hws (by decide) .object _)]
  rfl

lemma moreMembers_next {ws' : List Char} (hws : IsBlanks ws) (hws' : IsBlanks ws')
    (cs : List Char) :
    moreMembers false (ws ++ ',' :: (ws' ++ '"' :: cs)) = .ok (true, '"' :: cs) := by
  have htake : take (',' :: (ws' ++ '"' :: cs)) = .ok ((), ws' ++ '"' :: cs) := rfl
  rw [moreMembers, bind_ok (peekOr_ok hws (by decide) .object _)]
  change (take >>= _) _ = _
  rw [bind_ok htake, bind_ok (peekOr_ok hws' (by decide) .value cs)]
  rfl

lemma moreMembers_done (hws : IsBlanks ws) (first : Bool) (rest : List Char) :
    moreMembers first (ws ++ '}' :: rest) = .ok (false, '}' :: rest) := by
  rw [moreMembers, bind_ok (peekOr_ok hws (by decide) .object _)]
  rfl

lemma membersUpTo_member {first : Bool} {s s' s'' : σ} {begin behind : List Char}
    (hmore : moreMembers first begin = .ok (true, t)) (hs : r.member s t = .ok (s', behind))
    (hs' : r.membersUpTo n false s' behind = .ok (s'', rest)) :
    r.membersUpTo (n + 1) first s begin = .ok (s'', rest) := by
  rw [membersUpTo, bind_ok hmore]
  exact (bind_ok hs).trans hs'

lemma membersUpTo_done {first : Bool} (hws : IsBlanks ws) (s : σ) (rest : List Char) :
    r.membersUpTo (n + 1) first s (ws ++ '}' :: rest) = .ok (s, rest) := by
  rw [membersUpTo, bind_ok (moreMembers_done hws first rest)]
  rfl

lemma head_of_spelled (ht : m.Spelled a t) : ∃ cs, t = '"' :: cs := by
  obtain ⟨key, ws, ws', v, hkey, -, -, -, rfl⟩ := ht
  obtain ⟨cs, rfl⟩ := head_of_string hkey
  exact ⟨_, rfl⟩

/-- What stands behind a member is read to the end of the object. -/
lemma Collects.membersUpTo_follows (h : r.Collects ms a parts) (hgiven : ∀ m ∈ given, m ∈ ms)
    (hnodup : (given.map (·.key)).Nodup) (hks : ∀ m ∈ given, m.key ∉ ks)
    (hts : List.Forall₂ (fun m t => m.Spelled a t) given ts) (hcs : Follows '}' ts cs)
    (hn : ts.length < n) (rest : List Char) :
    r.membersUpTo n false (parts ks) (cs ++ rest) =
      .ok (parts ((given.map (·.key)).reverse ++ ks), rest) := by
  obtain ⟨n, rfl⟩ : ∃ k, n = k + 1 := ⟨n - 1, by omega⟩
  -- The members to come have other keys than those that have been read, so that none is given twice.
  induction hts generalizing cs n ks with
  | nil =>
    cases hcs with
    | done blanks =>
      rw [List.append_assoc]
      exact membersUpTo_done blanks _ rest
  | @cons m t given ts ht hts ih =>
    cases hcs with
    | item blanks blanks' others =>
      obtain ⟨n, rfl⟩ : ∃ k, n = k + 1 := ⟨n - 1, by simp at hn; omega⟩
      rw [List.forall_mem_cons] at hgiven hks
      rw [List.map_cons, List.nodup_cons] at hnodup
      have hread := h.member_ok hgiven.1 hks.1 ht (.of_follows (.inr rfl) others rest)
      have hkeys : ∀ m' ∈ given, m'.key ∉ m.key :: ks := by
        intro m' hm'
        rw [List.mem_cons, not_or]
        exact ⟨ne_of_mem_of_not_mem (List.mem_map_of_mem hm') hnodup.1, hks.2 m' hm'⟩
      have hnext := ih hgiven.2 hnodup.2 hkeys others n (by simpa using hn)
      obtain ⟨begin, rfl⟩ := head_of_spelled ht
      simp only [List.append_assoc, List.cons_append, List.map_cons, List.reverse_cons] at hread ⊢
      exact membersUpTo_member (moreMembers_next blanks blanks' _) hread hnext

lemma decoder_ok (hws : IsBlanks ws) {s : σ}
    (hs : r.membersUpTo (cs.length + 1) true r.start cs = .ok (s, rest))
    (hfinish : r.finish s = .ok a) : r.decoder (ws ++ '{' :: cs) = .ok (a, rest) := by
  rw [decoder, bind_ok (peekOr_ok hws (by decide) .value _)]
  have hmembers := bind_ok (d := fun cs => r.membersUpTo (cs.length + 1) true r.start cs)
    (f := fun s cs => do return (← r.finish s, cs)) hs
  rw [hfinish] at hmembers
  exact hmembers

/-- **A record is read from each of its texts.** -/
theorem Collects.reads (parts : List String → σ) (h : r.Collects ms a parts) :
    Reads r.decoder (.object ms) a := by
  rintro ws t rest hws ⟨given, ts, hsub, hlack, hts, ht⟩ _
  have hgiven : ∀ m ∈ given, m ∈ ms := fun m hm => hsub.subset hm
  have hnodup : (given.map (·.key)).Nodup := by
    obtain ⟨kept, hperm, hkept⟩ := hsub
    exact (hperm.map _).nodup_iff.mp (h.nodup.sublist (hkept.map _))
  have hfinish : r.finish (parts ((given.map (·.key)).reverse ++ [])) = .ok a := by
    refine h.finish fun m hm => (hlack m hm).imp_left fun hm => ?_
    simpa using ⟨m, hm, rfl⟩
  cases ht with
  | empty blanks =>
    obtain rfl : given = [] := by cases hts; rfl
    rw [List.cons_append, List.append_assoc]
    refine decoder_ok hws ?_ hfinish
    rw [h.start]
    exact membersUpTo_done blanks _ rest
  | @items ws' t cs ts blanks others =>
    obtain ⟨m, given, hm, htail, rfl⟩ : ∃ m given', m.Spelled a t ∧
        List.Forall₂ (fun m t => m.Spelled a t) given' ts ∧ given = m :: given' := by
      cases hts with
      | cons hm htail => exact ⟨_, _, hm, htail, rfl⟩
    rw [List.forall_mem_cons] at hgiven
    rw [List.map_cons, List.nodup_cons] at hnodup
    have hlen : ts.length < (ws' ++ (t ++ (cs ++ rest))).length := by
      have hlen := others.length_lt
      simp only [List.length_append]
      omega
    have hread : r.member (parts []) (t ++ (cs ++ rest)) = .ok (parts [m.key], cs ++ rest) :=
      h.member_ok hgiven.1 List.not_mem_nil hm (.of_follows (.inr rfl) others rest)
    have hkeys : ∀ m' ∈ given, m'.key ∉ [m.key] := fun m' hm' hk =>
      hnodup.1 (List.mem_singleton.mp hk ▸ List.mem_map_of_mem hm')
    have hnext := h.membersUpTo_follows hgiven.2 hnodup.2 hkeys htail others hlen rest
    obtain ⟨begin, rfl⟩ := head_of_spelled hm
    simp only [List.append_assoc, List.cons_append, List.map_cons, List.reverse_cons,
      List.append_nil] at hread hnext hfinish ⊢
    refine decoder_ok hws ?_ hfinish
    rw [h.start]
    exact membersUpTo_member (moreMembers_first blanks _) hread hnext

end Record

/-! ### Choices -/

/-- One of several values is read by its name. -/
lemma reads_choice {variants : List (String × α)} {name : α → String} {a : α}
    (ha : variants.lookup (name a) = some a) :
    Reads (choice variants) (Spelling.string.comap name) a := by
  intro ws t rest hws ht hrest
  have hread : stringOf "a string" (t ++ rest) = .ok (name a, rest) :=
    (reads_string (name a)).here ht hrest
  obtain ⟨cs, rfl⟩ := head_of_string ht
  rw [List.cons_append] at hread ⊢
  rw [choice, bind_ok (peekOr_ok hws (by decide) .value _)]
  change choice.variant variants "a string" _ = _
  rw [choice.variant, bind_ok hread]
  simp only [ha]
  rfl

end SchemaGo.Json
