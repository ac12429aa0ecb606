/-
  Entries of distinct names.

  Settings, schemes and the members of an object are all lists of entries with a name each.

  1. **Finding** — nothing is found under a name that does not stand in the list, and among distinct
     names what is found is what stands there (`findNamed_eq_none_iff`, `findNamed_eq_some_iff`).
  2. **Setting** — as long as no name comes twice, setting a member is adding it at the end, so the
     list that is built member by member is the list that was given (`ofList_of_nodup`).
  3. **Sorting** — entries by name are kept in the order of the names.  What one insertion keeps
     (`insert_sorted`) holds of the whole list, and no entry of a new name is lost or changed
     (`ofList_sorted`, `ofList_perm`).
  4. **What a sorted list holds** — setting an entry changes what is found under its name alone, and
     a list in order is told by what is found in it (`find?_insert`, `Sorted.ext`); so it does not
     matter in which order entries of distinct names are set (`ofList_eq_of_perm`), nor when an
     entry of its own name is (`ofList_append_cons`).
-/
import Mathlib.Data.List.Sort
import Handover.Host.Snapshot

namespace Handover

/-! ## Finding -/

variable {α : Type} {entries : List (String × α)} {name : String}

/-- Nothing is found under a name that does not stand there. -/
theorem findNamed_eq_none_iff :
    (entries.find? fun e => e.1 == name).map Prod.snd = none ↔ name ∉ entries.map Prod.fst := by
  rw [Option.map_eq_none_iff, List.find?_eq_none, List.mem_map]
  constructor
  · rintro h ⟨e, he, hn⟩
    exact h e he (beq_iff_eq.mpr hn)
  · intro h e he hn
    exact h ⟨e, he, beq_iff_eq.mp hn⟩

/-- Among distinct names, what is found is what stands there. -/
theorem findNamed_eq_some_iff (h : (entries.map Prod.fst).Nodup) {value : α} :
    (entries.find? fun e => e.1 == name).map Prod.snd = some value ↔ (name, value) ∈ entries := by
  induction entries with
  | nil => exact ⟨fun h => (by cases h), fun h => absurd h List.not_mem_nil⟩
  | cons e rest ih =>
    obtain ⟨n, v⟩ := e
    rw [List.map_cons, List.nodup_cons] at h
    by_cases hn : n = name
    · subst hn
      rw [List.find?_cons_of_pos (by simp), Option.map_some, Option.some.injEq, List.mem_cons]
      constructor
      · rintro rfl
        exact Or.inl rfl
      · rintro (h' | h')
        · cases h'
          rfl
        · exact absurd (List.mem_map_of_mem h') h.1
    · rw [List.find?_cons_of_neg (by simp [hn]), ih h.2, List.mem_cons]
      constructor
      · exact Or.inr
      · rintro (h' | h')
        · cases h'
          exact absurd rfl hn
        · exact h'

/-! ## Setting -/

namespace Json.Members

/-- A new name goes to the end. -/
theorem put_of_notMem {name : String} {value : Json} {members : Members}
    (h : name ∉ members.map Prod.fst) : put name value members = members ++ [(name, value)] := by
  induction members with
  | nil => rfl
  | cons m rest ih =>
    obtain ⟨n, v⟩ := m
    rw [List.map_cons, List.mem_cons, not_or] at h
    rw [put, if_neg (Ne.symm h.1), ih h.2, List.cons_append]

/-- Setting members of new and distinct names is appending them. -/
theorem foldl_put_of_nodup {members pairs : Members}
    (h : ((members ++ pairs).map Prod.fst).Nodup) :
    pairs.foldl (fun ms pair => put pair.1 pair.2 ms) members = members ++ pairs := by
  induction pairs generalizing members with
  | nil => exact (List.append_nil members).symm
  | cons pair rest ih =>
    have hnew : pair.1 ∉ members.map Prod.fst := by
      rw [List.map_append, List.nodup_append] at h
      intro hmem
      exact h.2.2 pair.1 hmem pair.1 List.mem_cons_self rfl
    have happend : members ++ pair :: rest = members ++ [pair] ++ rest := by
      rw [List.append_assoc, List.singleton_append]
    rw [List.foldl_cons, put_of_notMem hnew, happend]
    rw [happend] at h
    exact ih h

/-- Members of distinct names are kept as they are. -/
theorem ofList_of_nodup {pairs : Members} (h : (pairs.map Prod.fst).Nodup) :
    ofList pairs = pairs :=
  foldl_put_of_nodup h

end Json.Members

/-! ## Sorting -/

namespace Host.ByName

variable {α β : Type} {name : String} {value : α} {d : ByName α}

/-- Entries in the order of their names, no name twice. -/
def Sorted (d : ByName α) : Prop := d.Pairwise fun e e' => e.1 < e'.1

theorem mem_of_mem_insert {e : String × α} (h : e ∈ insert name value d) :
    e = (name, value) ∨ e ∈ d := by
  induction d with
  | nil => exact Or.inl (List.mem_singleton.mp h)
  | cons e' rest ih =>
    obtain ⟨n, v⟩ := e'
    unfold insert at h
    split at h
    · exact List.mem_cons.mp h
    · split at h
      · rcases List.mem_cons.mp h with h | h
        · exact Or.inl h
        · exact Or.inr (List.mem_cons_of_mem _ h)
      · rcases List.mem_cons.mp h with h | h
        · exact Or.inr (h ▸ List.mem_cons_self)
        · exact (ih h).imp_right (List.mem_cons_of_mem _)

/-- Setting an entry keeps the order. -/
theorem insert_sorted (h : Sorted d) : Sorted (insert name value d) := by
  induction d with
  | nil => exact List.pairwise_singleton _ _
  | cons e rest ih =>
    obtain ⟨n, v⟩ := e
    obtain ⟨hfirst, hrest⟩ := List.pairwise_cons.mp h
    unfold insert
    split
    case isTrue hlt =>
      refine List.pairwise_cons.mpr ⟨?_, h⟩
      intro e he
      rcases List.mem_cons.mp he with rfl | he
      · exact hlt
      · exact String.lt_trans hlt (hfirst e he)
    case isFalse hge =>
      split
      case isTrue heq =>
        -- The entry takes the place of one of the same name.
        subst heq
        exact List.pairwise_cons.mpr ⟨hfirst, hrest⟩
      case isFalse hne =>
        have hlt : n < name := Std.lt_of_le_of_ne (String.not_lt.mp hge) hne
        refine List.pairwise_cons.mpr ⟨?_, ih hrest⟩
        intro e he
        rcases mem_of_mem_insert he with rfl | he
        · exact hlt
        · exact hfirst e he

/-- Under a new name an entry is added. -/
theorem insert_perm (h : name ∉ d.map Prod.fst) :
    (insert name value d).Perm ((name, value) :: d) := by
  induction d with
  | nil => exact List.Perm.refl _
  | cons e rest ih =>
    obtain ⟨n, v⟩ := e
    rw [List.map_cons, List.mem_cons, not_or] at h
    unfold insert
    split
    · exact List.Perm.refl _
    · rw [if_neg (Ne.symm h.1)]
      exact ((ih h.2).cons _).trans (List.Perm.swap _ _ _)

theorem insert_map (f : α → β) (name : String) (value : α) (d : ByName α) :
    insert name (f value) (d.map fun e => (e.1, f e.2))
      = (insert name value d).map fun e => (e.1, f e.2) := by
  induction d with
  | nil => rfl
  | cons e rest ih =>
    obtain ⟨n, v⟩ := e
    rw [List.map_cons, insert, insert]
    split
    · rfl
    · split
      · rfl
      · rw [ih, List.map_cons]

/-- The list is in order, whatever order the entries came in. -/
theorem ofList_sorted (entries : List (String × α)) : Sorted (ofList entries) := by
  have hfold : ∀ d : ByName α, Sorted d →
      Sorted (entries.foldl (fun d e => insert e.1 e.2 d) d) := by
    induction entries with
    | nil => exact fun d hd => hd
    | cons e rest ih => exact fun d hd => ih _ (insert_sorted hd)
  exact hfold [] List.Pairwise.nil

/-- Entries of distinct names are all in the list. -/
theorem ofList_perm {entries : List (String × α)} (h : (entries.map Prod.fst).Nodup) :
    (ofList entries).Perm entries := by
  -- The entries to come and those that are there already have distinct names between them.
  have hfold : ∀ d : ByName α, ((entries ++ d).map Prod.fst).Nodup →
      (entries.foldl (fun d e => insert e.1 e.2 d) d).Perm (entries ++ d) := by
    clear h
    induction entries with
    | nil => exact fun d _ => List.Perm.refl d
    | cons e rest ih =>
      intro d hd
      have hnew : e.1 ∉ d.map Prod.fst := by
        intro hmem
        rw [List.cons_append, List.map_cons, List.nodup_cons, List.map_append] at hd
        exact hd.1 (List.mem_append_right _ hmem)
      have hperm : (rest ++ insert e.1 e.2 d).Perm (e :: rest ++ d) :=
        ((insert_perm hnew).append_left rest).trans List.perm_middle
      exact (ih _ ((hperm.map Prod.fst).nodup_iff.mpr hd)).trans hperm
  have hall := hfold []
  rw [List.append_nil] at hall
  exact hall h

/-- Only the names decide where an entry goes. -/
theorem ofList_map (f : α → β) (entries : List (String × α)) :
    ofList (entries.map fun e => (e.1, f e.2)) = (ofList entries).map fun e => (e.1, f e.2) := by
  have hfold : ∀ d : ByName α,
      (entries.map fun e => (e.1, f e.2)).foldl (fun d e => insert e.1 e.2 d)
        (d.map fun e => (e.1, f e.2))
      = (entries.foldl (fun d e => insert e.1 e.2 d) d).map fun e => (e.1, f e.2) := by
    induction entries with
    | nil => exact fun d => rfl
    | cons e rest ih =>
      intro d
      rw [List.map_cons, List.foldl_cons, List.foldl_cons, insert_map f e.1 e.2 d, ih]
  exact hfold []

/-! ## What a sorted list holds -/

variable {key : String}

/-- An entry that is set is found under its name, and nothing else has changed. -/
theorem find?_insert : find? (insert name value d) key
    = if name = key then some value else find? d key := by
  unfold find?
  induction d with
  | nil =>
    rw [insert]
    by_cases h : name = key
    · rw [List.find?_cons_of_pos (by simpa using h), if_pos h]
      rfl
    · rw [List.find?_cons_of_neg (by simpa using h), if_neg h]
  | cons e rest ih =>
    obtain ⟨n, v⟩ := e
    rw [insert]
    split
    case isTrue =>
      by_cases h : name = key
      · rw [List.find?_cons_of_pos (by simpa using h), if_pos h]
        rfl
      · rw [List.find?_cons_of_neg (by simpa using h), if_neg h]
    case isFalse =>
      split
      case isTrue heq =>
        subst heq
        by_cases h : n = key
        · rw [List.find?_cons_of_pos (by simpa using h), if_pos h]
          rfl
        · rw [List.find?_cons_of_neg (by simpa using h), List.find?_cons_of_neg (by simpa using h),
            if_neg h]
      case isFalse hne =>
        by_cases h : n = key
        · -- The name that is looked for stands first, and is not the one that was set.
          rw [List.find?_cons_of_pos (by simpa using h), List.find?_cons_of_pos (by simpa using h),
            if_neg fun hk => hne (h.trans hk.symm)]
        · rw [List.find?_cons_of_neg (by simpa using h), List.find?_cons_of_neg (by simpa using h),
            ih]

theorem Sorted.nodup (h : Sorted d) : (d.map Prod.fst).Nodup := by
  refine List.pairwise_map.mpr (h.imp ?_)
  intro e e' hlt heq
  exact String.lt_irrefl _ (heq ▸ hlt)

/-- A list in order is told by what is found in it. -/
theorem Sorted.ext {d' : ByName α} (h : Sorted d) (h' : Sorted d')
    (hfind : ∀ n, find? d n = find? d' n) : d = d' := by
  have hanti : Std.Antisymm fun e e' : String × α => e.1 < e'.1 :=
    ⟨fun e e' hlt hgt => absurd hgt (String.lt_asymm hlt)⟩
  have hirrefl : Std.Irrefl fun e e' : String × α => e.1 < e'.1 := ⟨fun e => String.lt_irrefl e.1⟩
  refine List.Pairwise.eq_of_mem_iff h h' ?_
  rintro ⟨n, v⟩
  exact (findNamed_eq_some_iff h.nodup).symm.trans
    ((iff_of_eq (congrArg (· = some v) (hfind n))).trans (findNamed_eq_some_iff h'.nodup))

/-- **Entries of distinct names may come in any order.** -/
theorem ofList_eq_of_perm {xs ys : List (String × α)} (hperm : xs.Perm ys)
    (h : (xs.map Prod.fst).Nodup) : ofList xs = ofList ys := by
  have h' : (ys.map Prod.fst).Nodup := (hperm.map Prod.fst).nodup_iff.mp h
  have hsame : (ofList xs).Perm (ofList ys) :=
    (ofList_perm h).trans (hperm.trans (ofList_perm h').symm)
  refine (ofList_sorted xs).ext (ofList_sorted ys) fun n => Option.ext fun v => ?_
  calc find? (ofList xs) n = some v
      ↔ (n, v) ∈ ofList xs := findNamed_eq_some_iff (ofList_sorted xs).nodup
    _ ↔ (n, v) ∈ ofList ys := hsame.mem_iff
    _ ↔ find? (ofList ys) n = some v := (findNamed_eq_some_iff (ofList_sorted ys).nodup).symm

/-- Entries of other names do not bring a name in. -/
theorem find?_ofList_of_notMem {entries : List (String × α)} (h : key ∉ entries.map Prod.fst) :
    find? (ofList entries) key = none := by
  have hfold : ∀ d : ByName α, find? d key = none →
      find? (entries.foldl (fun d e => insert e.1 e.2 d) d) key = none := by
    induction entries with
    | nil => exact fun d hd => hd
    | cons e rest ih =>
      rw [List.map_cons, List.mem_cons, not_or] at h
      intro d hd
      exact ih h.2 _ (by rw [find?_insert, if_neg (Ne.symm h.1), hd])
  exact hfold [] rfl

/-- An entry whose name stands nowhere else may as well be set last. -/
theorem ofList_append_cons {before after : List (String × α)}
    (h : name ∉ (before ++ after).map Prod.fst) :
    ofList (before ++ (name, value) :: after) = insert name value (ofList (before ++ after)) := by
  rw [List.map_append, List.mem_append, not_or] at h
  -- What the later entries set is the same whether the entry is there already or not.
  have hfold : ∀ d d' : ByName α,
      (∀ n, find? d n = if name = n then some value else find? d' n) → ∀ n,
      find? (after.foldl (fun d e => insert e.1 e.2 d) d) n =
        if name = n then some value
        else find? (after.foldl (fun d e => insert e.1 e.2 d) d') n := by
    have hafter := h.2
    clear h
    induction after with
    | nil => exact fun d d' hd => hd
    | cons e rest ih =>
      rw [List.map_cons, List.mem_cons, not_or] at hafter
      intro d d' hd
      refine ih hafter.2 _ _ fun n => ?_
      rw [find?_insert, find?_insert, hd n]
      by_cases hn : name = n
      · rw [if_pos hn, if_pos hn, if_neg fun he => hafter.1 (hn.trans he.symm)]
      · rw [if_neg hn, if_neg hn]
  refine (ofList_sorted _).ext (insert_sorted (ofList_sorted _)) fun n => ?_
  rw [find?_insert]
  unfold ofList
  rw [List.foldl_append, List.foldl_append, List.foldl_cons]
  exact hfold _ _ (fun n => find?_insert) n

end Host.ByName

end Handover
