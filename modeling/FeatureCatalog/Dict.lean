/-! Dictionaries with string keys, kept as entries in code point order of the keys. The operations
work on plain entry lists, so that a JSON object can use them; `Dict` is an entry list whose order
is part of the type, so that two dictionaries with the same entries are equal. -/

namespace FeatureCatalog

namespace Entries

variable {α β : Type}

/-- The value of the first entry with key `k`. -/
def get? (k : String) : List (String × α) → Option α
  | [] => none
  | (j, v) :: rest => if k = j then some v else get? k rest

/-- Some entry has key `k`. -/
def contains (k : String) (entries : List (String × α)) : Bool :=
  (get? k entries).isSome

/-- Replaces the value at `k`, or adds an entry where the order of keys places it. -/
def insert (k : String) (v : α) : List (String × α) → List (String × α)
  | [] => [(k, v)]
  | (j, w) :: rest =>
    if k = j then (k, v) :: rest
    else if k < j then (k, v) :: (j, w) :: rest
    else (j, w) :: insert k v rest

/-- Drops the entries with key `k`. -/
def erase (k : String) (entries : List (String × α)) : List (String × α) :=
  entries.filter fun e => e.1 ≠ k

/-- Inserts the given entries in turn, so that of equal keys the last one stays. -/
def ofList (entries : List (String × α)) : List (String × α) :=
  entries.foldl (fun acc e => insert e.1 e.2 acc) []

/-- The keys rise strictly, so no key occurs twice. -/
def Ordered (entries : List (String × α)) : Prop :=
  entries.Pairwise fun a b => a.1 < b.1

@[simp] theorem get?_nil (k : String) : get? k ([] : List (String × α)) = none := rfl

@[simp] theorem get?_insert_self (k : String) (v : α) (entries : List (String × α)) :
    get? k (insert k v entries) = some v := by
  induction entries with
  | nil => simp [insert, get?]
  | cons e rest ih =>
    simp only [insert]
    split
    · simp [get?]
    · split
      · simp [get?]
      · rename_i hne _
        simp [get?, hne, ih]

theorem get?_insert_ne {j k : String} (h : j ≠ k) (v : α) (entries : List (String × α)) :
    get? j (insert k v entries) = get? j entries := by
  induction entries with
  | nil => simp [insert, get?, h]
  | cons e rest ih =>
    simp only [insert]
    split
    · rename_i hk
      subst hk
      simp [get?, h]
    · split
      · simp [get?, h]
      · simp [get?, ih]

theorem mem_insert {e : String × α} {k : String} {v : α} {entries : List (String × α)}
    (h : e ∈ insert k v entries) : e = (k, v) ∨ e ∈ entries := by
  induction entries with
  | nil => simpa [insert] using h
  | cons head rest ih =>
    simp only [insert] at h
    split at h
    · rcases List.mem_cons.1 h with h | h
      · exact .inl h
      · exact .inr (List.mem_cons_of_mem _ h)
    · split at h
      · rcases List.mem_cons.1 h with h | h
        · exact .inl h
        · exact .inr h
      · rcases List.mem_cons.1 h with h | h
        · exact .inr (h ▸ List.mem_cons_self)
        · exact (ih h).imp_right (List.mem_cons_of_mem _)

theorem Ordered.nil : Ordered ([] : List (String × α)) := List.Pairwise.nil

theorem Ordered.insert {entries : List (String × α)} (h : Ordered entries) (k : String) (v : α) :
    Ordered (insert k v entries) := by
  induction entries with
  | nil => simp [Entries.insert, Ordered]
  | cons head rest ih =>
    obtain ⟨hhead, hrest⟩ := List.pairwise_cons.1 h
    simp only [Entries.insert]
    split
    · rename_i hk
      exact List.pairwise_cons.2 ⟨fun e he => hk ▸ hhead e he, hrest⟩
    · rename_i hne
      split
      · rename_i hlt
        refine List.pairwise_cons.2 ⟨fun e he => ?_, h⟩
        rcases List.mem_cons.1 he with rfl | he
        · exact hlt
        · exact String.lt_trans hlt (hhead e he)
      · rename_i hnlt
        refine List.pairwise_cons.2 ⟨fun e he => ?_, ih hrest⟩
        rcases mem_insert he with rfl | he
        · exact Std.lt_of_le_of_ne (String.not_lt.1 hnlt) (Ne.symm hne)
        · exact hhead e he

theorem Ordered.erase {entries : List (String × α)} (h : Ordered entries) (k : String) :
    Ordered (erase k entries) :=
  List.Pairwise.filter _ h

theorem Ordered.filter {entries : List (String × α)} (h : Ordered entries)
    (p : String × α → Bool) : Ordered (entries.filter p) :=
  List.Pairwise.filter _ h

theorem Ordered.foldl_insert {acc : List (String × α)} (h : Ordered acc)
    (entries : List (String × α)) :
    Ordered (entries.foldl (fun acc e => Entries.insert e.1 e.2 acc) acc) := by
  induction entries generalizing acc with
  | nil => exact h
  | cons e rest ih => exact ih (h.insert e.1 e.2)

theorem ordered_ofList (entries : List (String × α)) : Ordered (ofList entries) :=
  Ordered.nil.foldl_insert entries

theorem Ordered.map {entries : List (String × α)} (h : Ordered entries) (f : String → α → β) :
    Ordered (entries.map fun e => (e.1, f e.1 e.2)) :=
  List.pairwise_map.2 h

end Entries

/-- A dictionary: entries whose keys rise strictly. -/
structure Dict (α : Type) where
  entries : List (String × α)
  ordered : Entries.Ordered entries

namespace Dict

variable {α β : Type}

@[ext] theorem ext {a b : Dict α} (h : a.entries = b.entries) : a = b := by
  cases a; cases b; cases h; rfl

instance [DecidableEq α] : DecidableEq (Dict α) := fun a b =>
  if h : a.entries = b.entries then isTrue (ext h) else isFalse fun e => h (e ▸ rfl)

/-- The dictionary without entries. -/
def empty : Dict α := ⟨[], Entries.Ordered.nil⟩

instance : Inhabited (Dict α) := ⟨empty⟩

/-- The value at `k`. -/
def get? (d : Dict α) (k : String) : Option α := Entries.get? k d.entries

/-- There is a value at `k`. -/
def contains (d : Dict α) (k : String) : Bool := (d.get? k).isSome

/-- Sets the value at `k`. -/
def insert (d : Dict α) (k : String) (v : α) : Dict α :=
  ⟨Entries.insert k v d.entries, d.ordered.insert k v⟩

/-- Removes the entry at `k`. -/
def erase (d : Dict α) (k : String) : Dict α :=
  ⟨Entries.erase k d.entries, d.ordered.erase k⟩

/-- The dictionary that holds the given entries, the last one of each key. -/
def ofList (entries : List (String × α)) : Dict α :=
  ⟨Entries.ofList entries, Entries.ordered_ofList entries⟩

/-- Applies `f` to every value, leaving the keys. -/
def mapValues (d : Dict α) (f : α → β) : Dict β :=
  ⟨d.entries.map fun e => (e.1, f e.2), d.ordered.map fun _ => f⟩

/-- The entries that satisfy `p`. -/
def filter (d : Dict α) (p : String → α → Bool) : Dict α :=
  ⟨d.entries.filter fun e => p e.1 e.2, d.ordered.filter _⟩

/-- Applies `f` to the value at `k`, if there is one. -/
def modify (d : Dict α) (k : String) (f : α → α) : Dict α :=
  match d.get? k with
  | some v => d.insert k (f v)
  | none => d

/-- The values in order of their keys. -/
def values (d : Dict α) : List α := d.entries.map (·.2)

/-- The number of entries. -/
def size (d : Dict α) : Nat := d.entries.length

@[simp] theorem get?_insert_self (d : Dict α) (k : String) (v : α) :
    (d.insert k v).get? k = some v :=
  Entries.get?_insert_self k v d.entries

theorem get?_insert_ne (d : Dict α) {j k : String} (h : j ≠ k) (v : α) :
    (d.insert k v).get? j = d.get? j :=
  Entries.get?_insert_ne h v d.entries

end Dict

end FeatureCatalog
