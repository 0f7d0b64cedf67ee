/-!
# Named things in order

A `Named` collection holds things under distinct names, in the order in which the names were first
inserted.  Inserting under a name that is there already puts the new thing in the place of the old
one.
-/

namespace Rowwise

structure Named (α : Type) where
  entries : List (String × α) := []
  deriving Inhabited

namespace Named

variable {α β : Type}

def empty : Named α := {}

/-- The entries with a thing under a name: in the place of the one that has the name, or at the
end. -/
def insertEntry (name : String) (a : α) : List (String × α) → List (String × α)
  | [] => [(name, a)]
  | (n, b) :: rest => if n = name then (n, a) :: rest else (n, b) :: insertEntry name a rest

def insert (c : Named α) (name : String) (a : α) : Named α := ⟨insertEntry name a c.entries⟩

/-- The first thing under a name. -/
def get? (c : Named α) (name : String) : Option α := c.entries.lookup name

def contains (c : Named α) (name : String) : Bool := (c.get? name).isSome

def names (c : Named α) : List String := c.entries.map (·.1)

def size (c : Named α) : Nat := c.entries.length

def isEmpty (c : Named α) : Bool := c.entries.isEmpty

/-- Applies a function to every thing. -/
def map (f : α → β) (c : Named α) : Named β := ⟨c.entries.map fun (name, a) => (name, f a)⟩

/-! ## What an insertion changes -/

theorem lookup_cons_of_ne {key n : String} (h : key ≠ n) (b : α) (rest : List (String × α)) :
    ((n, b) :: rest).lookup key = rest.lookup key := by
  rw [List.lookup_cons, beq_eq_false_iff_ne.mpr h]

theorem lookup_insertEntry (name : String) (a : α) (entries : List (String × α)) (key : String) :
    (insertEntry name a entries).lookup key =
      if key = name then some a else entries.lookup key := by
  induction entries with
  | nil =>
    by_cases hk : key = name
    · simp [insertEntry, hk]
    · simp [insertEntry, hk, lookup_cons_of_ne hk]
  | cons entry rest ih =>
    obtain ⟨n, b⟩ := entry
    by_cases h : n = name
    · by_cases hk : key = name
      · simp [insertEntry, h, hk]
      · simp [insertEntry, h, hk, lookup_cons_of_ne hk]
    · by_cases hk : key = n
      · simp [insertEntry, h, hk]
      · simp [insertEntry, h, lookup_cons_of_ne hk, ih]

@[simp] theorem get?_insert (c : Named α) (name : String) (a : α) (key : String) :
    (c.insert name a).get? key = if key = name then some a else c.get? key :=
  lookup_insertEntry name a c.entries key

/-- A new name goes to the end, and a known one stays in its place. -/
theorem names_insert (c : Named α) (name : String) (a : α) :
    (c.insert name a).names = if name ∈ c.names then c.names else c.names ++ [name] := by
  obtain ⟨entries⟩ := c
  simp only [insert, names]
  induction entries with
  | nil => simp [insertEntry]
  | cons entry rest ih =>
    obtain ⟨n, b⟩ := entry
    by_cases h : n = name
    · simp [insertEntry, h]
    · have h' : ¬ name = n := fun e => h e.symm
      simp only [insertEntry, if_neg h, List.map_cons, List.mem_cons, h', false_or, ih]
      split <;> simp_all

@[simp] theorem names_map (f : α → β) (c : Named α) : (c.map f).names = c.names := by
  simp [names, map]

end Named

end Rowwise
