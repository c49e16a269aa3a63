/-!
# Entries in written order

A list of named entries in the order they were written: the members of a document object, or the
rows of a `Table`. Writing a name that is already there keeps its place, a new name goes to the end.

The view of a list of entries is `find?`; each operation has a lemma that says what it does to that
view (`find?_put`, `find?_erase`) and to the list of names (`names_put`, `names_erase`). A `Table`
is a list of entries whose names are distinct, and every operation on it keeps them so.
-/

namespace FormGraph

namespace Entries

variable {α β : Type}

/-- The names, in written order. -/
def names (es : List (String × α)) : List String := es.map Prod.fst

/-- The values, in written order. -/
def values (es : List (String × α)) : List α := es.map Prod.snd

/-- The value of the first entry of that name. -/
def find? : List (String × α) → String → Option α
  | [], _ => none
  | (n, v) :: es, name => if n = name then some v else find? es name

/-- Whether there is an entry of that name. -/
def has (es : List (String × α)) (name : String) : Bool := (find? es name).isSome

/-- Replace the value of a name in its place, or add a new entry at the end. -/
def put : List (String × α) → String → α → List (String × α)
  | [], name, value => [(name, value)]
  | (n, v) :: es, name, value => if n = name then (n, value) :: es else (n, v) :: put es name value

/-- Remove the entry of that name. -/
def erase (es : List (String × α)) (name : String) : List (String × α) :=
  es.filter fun e => e.1 ≠ name

/-- Add an entry only where the name is still free. -/
def putNew (es : List (String × α)) (name : String) (value : α) : List (String × α) :=
  if has es name then es else es ++ [(name, value)]

/-- Write all entries of `more` over `es`, in order. -/
def putAll (es more : List (String × α)) : List (String × α) :=
  more.foldl (fun es e => put es e.1 e.2) es

/-- Apply a function to every value. -/
def mapValues (f : α → β) (es : List (String × α)) : List (String × β) :=
  es.map fun e => (e.1, f e.2)

@[simp] theorem find?_nil (name : String) : find? ([] : List (String × α)) name = none := rfl

theorem find?_put (es : List (String × α)) (name : String) (value : α) (other : String) :
    find? (put es name value) other = if name = other then some value else find? es other := by
  induction es with
  | nil => simp [put, find?]
  | cons e es ih =>
    obtain ⟨n, v⟩ := e
    by_cases h : n = name
    · subst h
      by_cases h' : n = other <;> simp [put, find?, h']
    · by_cases h' : n = other
      · subst h'
        simp [put, find?, h, Ne.symm h]
      · simp [put, find?, h, h', ih]

theorem find?_erase (es : List (String × α)) (name other : String) :
    find? (erase es name) other = if name = other then none else find? es other := by
  induction es with
  | nil => simp [erase]
  | cons e es ih =>
    obtain ⟨n, v⟩ := e
    simp only [erase] at ih
    by_cases h : n = name
    · subst h
      by_cases h' : n = other <;> simp_all [erase, find?]
    · by_cases h' : n = other
      · subst h'
        simp [erase, find?, h, Ne.symm h]
      · simp_all [erase, find?]

theorem mem_names_iff {es : List (String × α)} {name : String} :
    name ∈ names es ↔ (find? es name).isSome := by
  induction es with
  | nil => simp [names]
  | cons e es ih =>
    obtain ⟨n, v⟩ := e
    simp only [names] at ih
    by_cases h : n = name
    · simp [names, find?, h]
    · simpa [names, find?, h, Ne.symm h] using ih

theorem names_put (es : List (String × α)) (name : String) (value : α) :
    names (put es name value) = if name ∈ names es then names es else names es ++ [name] := by
  induction es with
  | nil => simp [put, names]
  | cons e es ih =>
    obtain ⟨n, v⟩ := e
    simp only [names] at ih
    by_cases h : n = name
    · simp [put, names, h]
    · simp only [put, h, if_false, names, List.map_cons, ih, List.mem_cons, Ne.symm h, false_or]
      split <;> simp_all

theorem mem_names_put {es : List (String × α)} {name other : String} {value : α} :
    other ∈ names (put es name value) ↔ other ∈ names es ∨ other = name := by
  rw [names_put]
  split
  next h => exact (or_iff_left_of_imp fun heq => heq ▸ h).symm
  next => rw [List.mem_append, List.mem_singleton]

theorem names_erase (es : List (String × α)) (name : String) :
    names (erase es name) = (names es).filter fun n => n ≠ name := by
  simp [names, erase, List.filter_map, Function.comp_def]

theorem names_mapValues (f : α → β) (es : List (String × α)) :
    names (mapValues f es) = names es := by
  simp [names, mapValues, Function.comp_def]

theorem find?_mapValues (f : α → β) (es : List (String × α)) (name : String) :
    find? (mapValues f es) name = (find? es name).map f := by
  induction es with
  | nil => rfl
  | cons e es ih =>
    obtain ⟨n, v⟩ := e
    simp only [mapValues] at ih
    by_cases h : n = name <;> simp [mapValues, find?, h, ih]

theorem nodup_names_put {es : List (String × α)} (h : (names es).Nodup) (name : String)
    (value : α) : (names (put es name value)).Nodup := by
  rw [names_put]
  split
  · exact h
  · next hn =>
    exact List.nodup_append.2 ⟨h, by simp, fun a ha b hb => by
      simp only [List.mem_singleton] at hb
      subst hb
      exact fun hab => hn (hab ▸ ha)⟩

theorem nodup_names_erase {es : List (String × α)} (h : (names es).Nodup) (name : String) :
    (names (erase es name)).Nodup := by
  rw [names_erase]
  exact h.sublist List.filter_sublist

end Entries

/-- Rows named by text, in the order they were added. -/
structure Table (α : Type) where
  /-- The rows in order. -/
  entries : List (String × α)
  /-- No two rows have the same name. -/
  nodup : (Entries.names entries).Nodup

namespace Table

variable {α : Type}

instance [DecidableEq α] : DecidableEq (Table α) := fun a b =>
  match a, b with
  | ⟨ea, ha⟩, ⟨eb, hb⟩ =>
    if h : ea = eb then isTrue (by subst h; rfl)
    else isFalse fun hab => h (congrArg Table.entries hab)

theorem ext {a b : Table α} (h : a.entries = b.entries) : a = b := by
  cases a; cases b; cases h; rfl

/-- The table without rows. -/
def empty : Table α := ⟨[], List.nodup_nil⟩

instance : Inhabited (Table α) := ⟨empty⟩

/-- The names, in order. -/
def names (t : Table α) : List String := Entries.names t.entries

/-- The values, in order. -/
def values (t : Table α) : List α := Entries.values t.entries

/-- How many rows there are. -/
def size (t : Table α) : Nat := t.entries.length

/-- The value of a name. -/
def find? (t : Table α) (name : String) : Option α := Entries.find? t.entries name

/-- Whether the table has a row of that name. -/
def has (t : Table α) (name : String) : Bool := Entries.has t.entries name

/-- Replace a row in its place, or add it at the end. -/
def put (t : Table α) (name : String) (value : α) : Table α :=
  ⟨Entries.put t.entries name value, Entries.nodup_names_put t.nodup name value⟩

/-- Remove a row. -/
def erase (t : Table α) (name : String) : Table α :=
  ⟨Entries.erase t.entries name, Entries.nodup_names_erase t.nodup name⟩

/-- Remove several rows. -/
def eraseAll (t : Table α) (names : List String) : Table α := names.foldl erase t

/-- The table of the given rows; of two rows of one name the later value stays in the earlier
place. -/
def ofList (rows : List (String × α)) : Table α :=
  rows.foldl (fun t e => t.put e.1 e.2) empty

@[simp] theorem find?_empty (name : String) : (empty : Table α).find? name = none := rfl

theorem find?_put (t : Table α) (name : String) (value : α) (other : String) :
    (t.put name value).find? other = if name = other then some value else t.find? other :=
  Entries.find?_put t.entries name value other

@[simp] theorem find?_put_self (t : Table α) (name : String) (value : α) :
    (t.put name value).find? name = some value := by
  simp [find?_put]

theorem find?_erase (t : Table α) (name other : String) :
    (t.erase name).find? other = if name = other then none else t.find? other :=
  Entries.find?_erase t.entries name other

theorem mem_names_iff {t : Table α} {name : String} :
    name ∈ t.names ↔ (t.find? name).isSome :=
  Entries.mem_names_iff

theorem has_eq (t : Table α) (name : String) : t.has name = (t.find? name).isSome := rfl

theorem names_put (t : Table α) (name : String) (value : α) :
    (t.put name value).names = if name ∈ t.names then t.names else t.names ++ [name] :=
  Entries.names_put t.entries name value

theorem names_erase (t : Table α) (name : String) :
    (t.erase name).names = t.names.filter fun n => n ≠ name :=
  Entries.names_erase t.entries name

end Table

end FormGraph
