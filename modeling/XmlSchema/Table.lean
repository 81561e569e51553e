set_option autoImplicit false

namespace XmlSchema

/-- Entries in the order in which their keys first came. -/
@[ext] structure Table (κ α : Type) where
  entries : List (κ × α)
  nodup : (entries.map (·.1)).Nodup
  deriving Repr

namespace Table

variable {κ α : Type}

def empty : Table κ α := ⟨[], List.nodup_nil⟩

instance : Inhabited (Table κ α) := ⟨empty⟩

def keys (table : Table κ α) : List κ := table.entries.map (·.1)

theorem nodup_keys (table : Table κ α) : table.keys.Nodup := table.nodup

variable [DecidableEq κ]

instance [DecidableEq α] : DecidableEq (Table κ α) := fun a b =>
  decidable_of_iff (a.entries = b.entries) ⟨Table.ext, congrArg entries⟩

def find (key : κ) : List (κ × α) -> Option α
  | [] => none
  | entry :: rest => if entry.1 = key then some entry.2 else find key rest

def get? (table : Table κ α) (key : κ) : Option α := find key table.entries

def contains (table : Table κ α) (key : κ) : Bool := (table.get? key).isSome

def size (table : Table κ α) : Nat := table.entries.length

def isEmpty (table : Table κ α) : Bool := table.entries.isEmpty

def putInto (key : κ) (change : Option α -> α) : List (κ × α) -> List (κ × α)
  | [] => [(key, change none)]
  | entry :: rest =>
      if entry.1 = key then (key, change (some entry.2)) :: rest
      else entry :: putInto key change rest

theorem find_eq_none_iff (key : κ) (entries : List (κ × α)) :
    find key entries = none ↔ key ∉ entries.map (·.1) := by
  induction entries with
  | nil => simp [find]
  | cons entry rest ih =>
      by_cases same : entry.1 = key
      · simp [find, same]
      · simp [find, same, ih, Ne.symm same]

theorem keys_putInto (key : κ) (change : Option α -> α) (entries : List (κ × α)) :
    (putInto key change entries).map (·.1) =
      if (find key entries).isSome then entries.map (·.1) else entries.map (·.1) ++ [key] := by
  induction entries with
  | nil => simp [putInto, find]
  | cons entry rest ih =>
      by_cases same : entry.1 = key
      · simp [putInto, find, same]
      · simp only [putInto, find, same, ↓reduceIte, List.map_cons, ih]
        split <;> simp

theorem nodup_putInto {entries : List (κ × α)} (nodup : (entries.map (·.1)).Nodup) (key : κ)
    (change : Option α -> α) : ((putInto key change entries).map (·.1)).Nodup := by
  rw [keys_putInto]
  split
  next => exact nodup
  next absent =>
    rw [Bool.not_eq_true, Option.isSome_eq_false_iff, Option.isNone_iff_eq_none,
      find_eq_none_iff] at absent
    exact List.nodup_append.mpr ⟨nodup, by simp, fun held member _ single same =>
      absent (List.mem_singleton.mp single ▸ same ▸ member)⟩

def put (table : Table κ α) (key : κ) (change : Option α -> α) : Table κ α :=
  ⟨putInto key change table.entries, nodup_putInto table.nodup key change⟩

def insert (table : Table κ α) (key : κ) (value : α) : Table κ α :=
  table.put key fun _ => value

def insertNew (table : Table κ α) (key : κ) (value : α) : Table κ α :=
  table.put key fun there => there.getD value

theorem find_putInto_self (key : κ) (change : Option α -> α) (entries : List (κ × α)) :
    find key (putInto key change entries) = some (change (find key entries)) := by
  induction entries with
  | nil => simp [putInto, find]
  | cons entry rest ih =>
      by_cases same : entry.1 = key <;> simp [putInto, find, same, ih]

theorem find_putInto_of_ne {key other : κ} (change : Option α -> α) (entries : List (κ × α))
    (apart : other ≠ key) : find other (putInto key change entries) = find other entries := by
  induction entries with
  | nil => simp [putInto, find, Ne.symm apart]
  | cons entry rest ih =>
      by_cases same : entry.1 = key
      · subst same
        simp [putInto, find, Ne.symm apart]
      · by_cases hit : entry.1 = other <;> simp [putInto, find, same, hit, ih, apart]

@[simp] theorem get?_put_self (table : Table κ α) (key : κ) (change : Option α -> α) :
    (table.put key change).get? key = some (change (table.get? key)) :=
  find_putInto_self key change table.entries

theorem get?_put_of_ne (table : Table κ α) {key other : κ} (change : Option α -> α)
    (apart : other ≠ key) : (table.put key change).get? other = table.get? other :=
  find_putInto_of_ne change table.entries apart

theorem get?_insertNew (table : Table κ α) (key other : κ) (value : α) :
    (table.insertNew key value).get? other =
      if other = key then some ((table.get? other).getD value) else table.get? other := by
  split
  next same => rw [same, insertNew, get?_put_self]
  next apart => exact get?_put_of_ne table _ apart

theorem of_get?_insertNew {table : Table κ α} {key other : κ} {value found : α}
    (get : (table.insertNew key value).get? other = some found) :
    found = value ∨ table.get? other = some found := by
  rw [get?_insertNew] at get
  split at get
  next =>
    cases there : table.get? other with
    | none => exact Or.inl (by simpa [there] using get.symm)
    | some old => exact Or.inr (by simpa [there] using get)
  next => exact Or.inr get

theorem keys_put (table : Table κ α) (key : κ) (change : Option α -> α) :
    (table.put key change).keys =
      if table.contains key then table.keys else table.keys ++ [key] :=
  keys_putInto key change table.entries

theorem contains_iff (table : Table κ α) (key : κ) : table.contains key = true ↔ key ∈ table.keys := by
  have absent := find_eq_none_iff key table.entries
  simp only [contains, get?, Option.isSome_iff_ne_none, ne_eq, absent, keys, Decidable.not_not]

theorem mem_of_find {key : κ} {value : α} {entries : List (κ × α)}
    (found : find key entries = some value) : (key, value) ∈ entries := by
  induction entries with
  | nil => cases found
  | cons first rest ih =>
      unfold find at found
      split at found
      next same =>
        cases found
        exact same ▸ List.mem_cons_self
      next => exact List.mem_cons_of_mem _ (ih found)

theorem find_of_mem {entries : List (κ × α)} (nodup : (entries.map (·.1)).Nodup)
    {entry : κ × α} (member : entry ∈ entries) : find entry.1 entries = some entry.2 := by
  induction entries with
  | nil => cases member
  | cons first rest ih =>
      obtain ⟨absent, nodup⟩ := List.nodup_cons.mp nodup
      rcases List.mem_cons.mp member with rfl | later
      · simp [find]
      · have apart : first.1 ≠ entry.1 := by
          intro same
          refine absent ?_
          simp only [same]
          exact List.mem_map_of_mem later
        simp [find, apart, ih nodup later]

theorem get?_of_mem (table : Table κ α) {entry : κ × α} (member : entry ∈ table.entries) :
    table.get? entry.1 = some entry.2 :=
  find_of_mem table.nodup member

end Table

end XmlSchema
