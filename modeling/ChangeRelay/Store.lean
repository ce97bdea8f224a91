/-!
# Keyed stores

A store holds at most one value for each key.  What a store holds is what
`get?` finds in it, and each operation is described by what `get?` finds after
it.
-/

namespace ChangeRelay

/-- Values that are looked up by key. -/
structure Store (α : Type) where
  entries : List (String × α)
  distinct : (entries.map Prod.fst).Nodup

namespace Store

variable {α : Type}

/-- The store that holds nothing. -/
def empty : Store α :=
  ⟨[], List.nodup_nil⟩

/-- The value that a store holds for a key. -/
def get? (store : Store α) (key : String) : Option α :=
  store.entries.lookup key

/-- The number of keys that a store holds a value for. -/
def size (store : Store α) : Nat :=
  store.entries.length

/-- Whether a store holds nothing. -/
def isEmpty (store : Store α) : Bool :=
  store.entries.isEmpty

/-- The entries of other keys. -/
def others (key : String) (entries : List (String × α)) : List (String × α) :=
  entries.filter fun entry => entry.1 ≠ key

private theorem key_notMem_others (key : String) (entries : List (String × α)) :
    key ∉ (others key entries).map Prod.fst := by
  simp [others]

private theorem others_distinct (key : String) {entries : List (String × α)}
    (distinct : (entries.map Prod.fst).Nodup) :
    ((others key entries).map Prod.fst).Nodup :=
  distinct.sublist (List.filter_sublist.map Prod.fst)

/-- A store without the value for a key. -/
def erase (key : String) (store : Store α) : Store α :=
  ⟨others key store.entries, others_distinct key store.distinct⟩

/-- A store with a new value for a key. -/
def insert (key : String) (value : α) (store : Store α) : Store α where
  entries := (key, value) :: others key store.entries
  distinct :=
    List.nodup_cons.2 ⟨key_notMem_others key store.entries, others_distinct key store.distinct⟩

/-! ## What a store holds after an operation -/

@[simp]
theorem get?_empty (key : String) : (empty : Store α).get? key = none :=
  rfl

private theorem lookup_others_self (key : String) (entries : List (String × α)) :
    (others key entries).lookup key = none :=
  List.lookup_eq_none_iff.2 fun entry member => by
    have different : entry.1 ≠ key := by simpa using (List.mem_filter.1 member).2
    simpa using different.symm

private theorem lookup_others_of_ne {key other : String} (different : other ≠ key)
    (entries : List (String × α)) :
    (others key entries).lookup other = entries.lookup other := by
  unfold others
  induction entries with
  | nil => rfl
  | cons entry rest ih =>
      obtain ⟨name, held⟩ := entry
      by_cases same : name = key
      · subst same
        have unequal : (other == name) = false := by simpa using different
        simpa [List.lookup_cons, unequal] using ih
      · cases found : other == name <;> simp_all [List.lookup_cons]

@[simp]
theorem get?_erase_self (key : String) (store : Store α) :
    (store.erase key).get? key = none :=
  lookup_others_self key store.entries

theorem get?_erase_of_ne {key other : String} (different : other ≠ key) (store : Store α) :
    (store.erase key).get? other = store.get? other :=
  lookup_others_of_ne different store.entries

@[simp]
theorem get?_insert_self (key : String) (value : α) (store : Store α) :
    (store.insert key value).get? key = some value := by
  simp [get?, insert]

theorem get?_insert_of_ne {key other : String} (different : other ≠ key) (value : α)
    (store : Store α) : (store.insert key value).get? other = store.get? other := by
  have unequal : (other == key) = false := by simpa using different
  simp [get?, insert, List.lookup_cons, unequal, lookup_others_of_ne different]

end Store

end ChangeRelay
