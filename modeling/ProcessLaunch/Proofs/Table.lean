import Mathlib.Data.List.Induction
import Mathlib.Data.List.Nodup
import ProcessLaunch.Table

/-!
# Tables filled from lists

A table filled from a list of entries holds for each key what the last entry of that key says.
-/

namespace ProcessLaunch.Table

variable {α : Type}

/-- Of the entries that are put into a table the last one of a key wins, and a key that none of them
has keeps what it had. -/
theorem get?_foldl_insert (base : Table α) (entries : List (String × α)) (key : String) :
    (entries.foldl (fun table entry => table.insert entry.1 entry.2) base).get? key =
      (entries.reverse.lookup key).or (base.get? key) := by
  induction entries using List.reverseRecOn with
  | nil => rfl
  | append_singleton entries entry ih =>
      obtain ⟨k, v⟩ := entry
      rw [List.foldl_append, List.foldl_cons, List.foldl_nil, get?_insert, ih, List.reverse_append,
        List.reverse_singleton, List.singleton_append, List.lookup_cons]
      by_cases hk : k = key
      · simp [hk]
      · have hk' : (key == k) = false := by simpa using Ne.symm hk
        rw [if_neg hk, hk']

/-- The last entry of a key wins. -/
theorem get?_ofList (entries : List (String × α)) (key : String) :
    (ofList entries).get? key = entries.reverse.lookup key := by
  rw [ofList, get?_foldl_insert, get?_empty, Option.or_none]

theorem contains_ofList (entries : List (String × α)) (key : String) :
    (ofList entries).contains key = true ↔ key ∈ entries.map Prod.fst := by
  rw [contains, get?_ofList, List.lookup_isSome_iff]
  simp

/-- A table filled from a list holds nothing that does not stand in the list. -/
theorem mem_of_get?_ofList {entries : List (String × α)} {key : String} {value : α}
    (h : (ofList entries).get? key = some value) : (key, value) ∈ entries := by
  rw [get?_ofList, List.lookup_eq_some_iff] at h
  obtain ⟨behind, before, hentries, -⟩ := h
  rw [← List.mem_reverse, hentries]
  simp

/-- The entries of a table are what can be looked up in it. -/
theorem lookupKey?_eq_some_iff {entries : List (String × α)}
    (hsorted : entries.Pairwise (fun a b => a.1 < b.1)) (key : String) (value : α) :
    lookupKey? key entries = some value ↔ (key, value) ∈ entries := by
  induction entries with
  | nil => simp [lookupKey?]
  | cons head rest ih =>
      obtain ⟨k, v⟩ := head
      obtain ⟨hhead, hrest⟩ := List.pairwise_cons.mp hsorted
      rw [lookupKey?, List.mem_cons, Prod.mk.injEq]
      split
      next heq =>
        subst heq
        -- the keys behind the head are greater, so none of them is the head's
        have hnot : (k, value) ∉ rest := fun h => String.lt_irrefl k (hhead _ h)
        simp [hnot, eq_comm]
      next hne => simp [ih hrest, Ne.symm hne]

theorem get?_eq_some_iff (table : Table α) (key : String) (value : α) :
    table.get? key = some value ↔ (key, value) ∈ table.toList :=
  lookupKey?_eq_some_iff table.sorted key value

/-! ## One table over another -/

theorem nodup_keys (table : Table α) : table.keys.Nodup := by
  refine List.pairwise_map.mpr (table.sorted.imp fun {a b} hlt heq => ?_)
  rw [heq] at hlt
  exact String.lt_irrefl _ hlt

theorem nodup_toList (table : Table α) : table.toList.Nodup := table.nodup_keys.of_map _

/-- A table is told by its look-ups. -/
theorem ext_get? {a b : Table α} (h : ∀ key, a.get? key = b.get? key) : a = b := by
  have hmem (entry : String × α) : entry ∈ a.toList ↔ entry ∈ b.toList := by
    rw [← get?_eq_some_iff, ← get?_eq_some_iff, h]
  -- two lists with the same entries, both in ascending order, are the same list
  have hperm : a.toList.Perm b.toList :=
    (List.perm_ext_iff_of_nodup a.nodup_toList b.nodup_toList).mpr hmem
  have hlist : a.toList = b.toList :=
    hperm.eq_of_pairwise (fun x _ _ _ hlt hgt =>
      absurd (String.lt_trans hlt hgt) (String.lt_irrefl x.1)) a.sorted b.sorted
  cases a
  cases b
  cases hlist
  rfl

/-- Entries that are all the same fill a table as one of them does. -/
theorem ofList_of_forall_eq {entries : List (String × α)} {entry : String × α}
    (h : ∀ other ∈ entries, other = entry) (hne : entries ≠ []) :
    ofList entries = ofList [entry] := by
  have hsame : entries = List.replicate entries.length entry := List.eq_replicate_of_mem h
  have hpos : entries.length ≠ 0 := List.length_eq_zero_iff.not.mpr hne
  refine ext_get? fun key => ?_
  have hone : [entry].reverse.lookup key = (List.replicate 1 entry).lookup key := rfl
  rw [get?_ofList, get?_ofList, hone, hsame, List.reverse_replicate, List.lookup_replicate,
    List.lookup_replicate, if_neg hpos, if_neg Nat.one_ne_zero]

/-- The entries of a table, put one after the other, are found where they are in the table. -/
theorem lookup_reverse_toList (table : Table α) (key : String) :
    table.toList.reverse.lookup key = table.get? key := by
  obtain ⟨entries, hsorted⟩ := table
  show entries.reverse.lookup key = lookupKey? key entries
  induction entries with
  | nil => rfl
  | cons head rest ih =>
      obtain ⟨k, v⟩ := head
      obtain ⟨hhead, hrest⟩ := List.pairwise_cons.mp hsorted
      rw [List.reverse_cons, List.lookup_append, ih hrest, lookupKey?, List.lookup_cons]
      by_cases hk : k = key
      · subst hk
        -- every other key comes behind this one
        have hnone : lookupKey? k rest = none := by
          refine Option.eq_none_iff_forall_ne_some.mpr fun value hvalue => ?_
          exact String.lt_irrefl k (hhead _ ((lookupKey?_eq_some_iff hrest k value).mp hvalue))
        simp [hnone]
      · have hk' : (key == k) = false := by simpa using Ne.symm hk
        rw [if_neg hk, hk']
        exact Option.or_none

def override (base upper : Table α) : Table α :=
  upper.toList.foldl (fun table entry => table.insert entry.1 entry.2) base

/-- What stands above hides what stands below, key by key. -/
theorem get?_override (base upper : Table α) (key : String) :
    (base.override upper).get? key = (upper.get? key).or (base.get? key) := by
  rw [override, get?_foldl_insert, lookup_reverse_toList]

/-- Of two tables without a common key either may lie under the other. -/
theorem override_left_comm {first second : Table α}
    (hapart : ∀ key, first.contains key = true → second.contains key = false) (upper : Table α) :
    first.override (second.override upper) = second.override (first.override upper) := by
  refine ext_get? fun key => ?_
  have hkey := hapart key
  rw [contains, contains] at hkey
  simp only [get?_override, Option.or_assoc]
  cases hfirst : first.get? key with
  | none => rw [Option.or_none, Option.none_or]
  | some value =>
      have hsecond : second.get? key = none := by simpa [hfirst] using hkey
      rw [hsecond, Option.none_or, Option.or_none]

/-- Entries that come later may fill a table of their own, put over that of the earlier ones. -/
theorem ofList_append (earlier later : List (String × α)) :
    ofList (earlier ++ later) = (ofList earlier).override (ofList later) := by
  refine ext_get? fun key => ?_
  rw [get?_override, get?_ofList, get?_ofList, get?_ofList, List.reverse_append, List.lookup_append]

end ProcessLaunch.Table
