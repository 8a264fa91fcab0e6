/-!
# Tables

A table from texts to values that remembers the order in which its keys arrived.  Writing to a key
that is present replaces its value and moves nothing.
-/
namespace ValidatorAlarm

structure Table (α : Type) where
  entries : List (String × α)
deriving DecidableEq

namespace Table

variable {α : Type}

def empty : Table α := ⟨[]⟩

def get? (t : Table α) (key : String) : Option α := t.entries.lookup key

def putEntry (key : String) (value : α) : List (String × α) → List (String × α)
  | [] => [(key, value)]
  | (k, v) :: rest => if key = k then (key, value) :: rest else (k, v) :: putEntry key value rest

def put (t : Table α) (key : String) (value : α) : Table α := ⟨putEntry key value t.entries⟩

/-- The table of some pairs; of equal keys the last wins. -/
def ofList (pairs : List (String × α)) : Table α :=
  pairs.foldl (fun t pair => t.put pair.1 pair.2) empty

/-- The entries in the order of their keys, character by character. -/
def sorted (t : Table α) : List (String × α) :=
  t.entries.mergeSort fun a b => !decide (b.1 < a.1)

@[simp] theorem get?_empty (key : String) : (empty : Table α).get? key = none := rfl

theorem lookup_putEntry (key key' : String) (value : α) (entries : List (String × α)) :
    (putEntry key value entries).lookup key' =
      if key' = key then some value else entries.lookup key' := by
  induction entries with
  | nil =>
    by_cases h : key' = key
    · simp [putEntry, h]
    · have hb : (key' == key) = false := by simpa using h
      simp [putEntry, List.lookup_cons, h, hb]
  | cons entry rest ih =>
    obtain ⟨k, v⟩ := entry
    by_cases hk : key = k
    · subst hk
      by_cases h : key' = key
      · simp [putEntry, h]
      · have hb : (key' == key) = false := by simpa using h
        simp [putEntry, List.lookup_cons, h, hb]
    · by_cases h : key' = k
      · subst h
        have : ¬ key' = key := fun e => hk e.symm
        simp [putEntry, hk, this]
      · have hb : (key' == k) = false := by simpa using h
        simp [putEntry, hk, List.lookup_cons, hb, ih]

/-- A written value is found again, and no other key notices. -/
theorem get?_put (t : Table α) (key key' : String) (value : α) :
    (t.put key value).get? key' = if key' = key then some value else t.get? key' :=
  lookup_putEntry key key' value t.entries

end Table

end ValidatorAlarm
