/-!
# Tables

A finite table from text keys to values, held as a list in strictly ascending code-point order of
the keys.  Two tables with the same look-ups are therefore the same table, and the order in which a
table is listed does not depend on the order in which it was filled.
-/

namespace ProcessLaunch

def insertByKey {α : Type} (key : String) (value : α) : List (String × α) → List (String × α)
  | [] => [(key, value)]
  | (k, v) :: rest =>
      if key < k then (key, value) :: (k, v) :: rest
      else if key = k then (key, value) :: rest
      else (k, v) :: insertByKey key value rest

theorem mem_insertByKey {α : Type} {key : String} {value : α} {entry : String × α}
    {entries : List (String × α)} (h : entry ∈ insertByKey key value entries) :
    entry = (key, value) ∨ entry ∈ entries := by
  induction entries with
  | nil => simpa [insertByKey] using h
  | cons head rest ih =>
      obtain ⟨k, v⟩ := head
      rw [insertByKey] at h
      split at h
      · simpa using h
      · split at h
        · rcases List.mem_cons.mp h with h | h
          · exact .inl h
          · exact .inr (List.mem_cons_of_mem _ h)
        · rcases List.mem_cons.mp h with h | h
          · exact .inr (h ▸ List.mem_cons_self)
          · exact (ih h).imp_right (List.mem_cons_of_mem _)

theorem pairwise_insertByKey {α : Type} (key : String) (value : α) {entries : List (String × α)}
    (h : entries.Pairwise (fun a b => a.1 < b.1)) :
    (insertByKey key value entries).Pairwise (fun a b => a.1 < b.1) := by
  induction entries with
  | nil => simp [insertByKey]
  | cons head rest ih =>
      obtain ⟨k, v⟩ := head
      obtain ⟨hhead, hrest⟩ := List.pairwise_cons.mp h
      rw [insertByKey]
      split
      next hlt =>
        refine h.cons fun entry hentry => ?_
        rcases List.mem_cons.mp hentry with rfl | hentry
        · exact hlt
        · exact String.lt_trans hlt (hhead entry hentry)
      next hnot =>
        split
        next heq => exact hrest.cons (heq ▸ hhead)
        next hne =>
          refine (ih hrest).cons fun entry hentry => ?_
          rcases mem_insertByKey hentry with rfl | hentry
          · exact Decidable.byContradiction fun hn =>
              hne (String.le_antisymm (String.not_lt.mp hn) (String.not_lt.mp hnot))
          · exact hhead entry hentry

def lookupKey? {α : Type} (key : String) : List (String × α) → Option α
  | [] => none
  | (k, v) :: rest => if k = key then some v else lookupKey? key rest

theorem lookupKey?_insertByKey {α : Type} (key other : String) (value : α)
    (entries : List (String × α)) :
    lookupKey? other (insertByKey key value entries) =
      if key = other then some value else lookupKey? other entries := by
  induction entries with
  | nil => simp [insertByKey, lookupKey?]
  | cons head rest ih =>
      obtain ⟨k, v⟩ := head
      rw [insertByKey]
      split
      · simp [lookupKey?]
      · split
        next heq =>
          subst heq
          simp only [lookupKey?]
          split <;> rfl
        next hne =>
          simp only [lookupKey?, ih]
          by_cases hk : k = other
          · subst hk
            simp [hne]
          · simp [hk]

structure Table (α : Type) where
  toList : List (String × α)
  sorted : toList.Pairwise (fun a b => a.1 < b.1)

namespace Table

variable {α : Type}

instance [DecidableEq α] : DecidableEq (Table α) := fun a b =>
  if h : a.toList = b.toList then
    isTrue (by cases a; cases b; simp only at h; subst h; rfl)
  else
    isFalse fun heq => h (heq ▸ rfl)

def empty : Table α := ⟨[], .nil⟩

instance : EmptyCollection (Table α) := ⟨empty⟩

instance : Inhabited (Table α) := ⟨empty⟩

def insert (table : Table α) (key : String) (value : α) : Table α :=
  ⟨insertByKey key value table.toList, pairwise_insertByKey key value table.sorted⟩

def get? (table : Table α) (key : String) : Option α := lookupKey? key table.toList

def contains (table : Table α) (key : String) : Bool := (table.get? key).isSome

def keys (table : Table α) : List String := table.toList.map (·.1)

def values (table : Table α) : List α := table.toList.map (·.2)

/-- The entries in ascending order of the ranks of their keys, those of one rank by their keys. -/
def entriesBy (table : Table α) (rank : String → Nat) : List (String × α) :=
  table.toList.mergeSort fun a b => decide (rank a.1 ≤ rank b.1)

def valuesBy (table : Table α) (rank : String → Nat) : List α := (table.entriesBy rank).map (·.2)

def size (table : Table α) : Nat := table.toList.length

/-- The table filled from a list of entries, in order: a later entry of the same key wins. -/
def ofList (entries : List (String × α)) : Table α :=
  entries.foldl (fun table entry => table.insert entry.1 entry.2) ∅

@[simp] theorem get?_empty (key : String) : (∅ : Table α).get? key = none := rfl

theorem get?_insert (table : Table α) (key other : String) (value : α) :
    (table.insert key value).get? other = if key = other then some value else table.get? other :=
  lookupKey?_insertByKey key other value table.toList

@[simp] theorem get?_insert_self (table : Table α) (key : String) (value : α) :
    (table.insert key value).get? key = some value := by
  simp [get?_insert]

theorem get?_insert_of_ne (table : Table α) {key other : String} (value : α) (h : key ≠ other) :
    (table.insert key value).get? other = table.get? other := by
  simp [get?_insert, h]

end Table

end ProcessLaunch
