import FormGraph.Value.Entries
import Mathlib.Data.List.Nodup
import Mathlib.Tactic.Common

/-!
# More about entries and tables

What `Value.Entries` leaves to say about lists of entries: the look-up in one list after another, the
entries of a list whose names are distinct, their order by name, and the table of a list of rows.
-/

namespace FormGraph

namespace Entries

variable {α β : Type}

@[simp] theorem find?_cons (n : String) (v : α) (es : List (String × α)) (name : String) :
    find? ((n, v) :: es) name = if n = name then some v else find? es name := rfl

theorem find?_append (es fs : List (String × α)) (name : String) :
    find? (es ++ fs) name = (find? es name).or (find? fs name) := by
  induction es with
  | nil => simp
  | cons e es ih =>
    obtain ⟨n, v⟩ := e
    by_cases h : n = name <;> simp [h, ih]

theorem mem_of_find? {es : List (String × α)} {name : String} {v : α}
    (h : find? es name = some v) : (name, v) ∈ es := by
  induction es with
  | nil => simp at h
  | cons e es ih =>
    obtain ⟨n, w⟩ := e
    by_cases hn : n = name
    · subst hn
      simp only [find?_cons, if_true, Option.some.injEq] at h
      subst h
      exact List.mem_cons_self
    · simp only [find?_cons, hn, if_false] at h
      exact List.mem_cons_of_mem _ (ih h)

theorem mem_put {es : List (String × α)} {name : String} {v : α} {e : String × α}
    (h : e ∈ put es name v) : e ∈ es ∨ e = (name, v) := by
  induction es with
  | nil => exact .inr (List.mem_singleton.1 h)
  | cons f es ih =>
    obtain ⟨n, w⟩ := f
    rw [put] at h
    split at h
    · next heq => exact (heq ▸ List.mem_cons.1 h).symm.imp_left (List.mem_cons_of_mem _)
    · rcases List.mem_cons.1 h with rfl | h
      · exact .inl List.mem_cons_self
      · exact (ih h).imp_left (List.mem_cons_of_mem _)

/-- Writing the value that a name has changes nothing. -/
theorem put_of_find? {es : List (String × α)} {name : String} {v : α}
    (h : find? es name = some v) : put es name v = es := by
  induction es with
  | nil => simp at h
  | cons e es ih =>
    obtain ⟨n, w⟩ := e
    rw [find?_cons] at h
    rw [put]
    split_ifs at h ⊢ with hn
    · rw [Option.some.inj h]
    · rw [ih h]

theorem find?_eq_none_iff {es : List (String × α)} {name : String} :
    find? es name = none ↔ name ∉ names es := by
  rw [mem_names_iff, Option.not_isSome_iff_eq_none]

/-- Where names are distinct, an entry is found under its name. -/
theorem find?_of_mem {es : List (String × α)} (hd : (names es).Nodup) {name : String} {v : α}
    (h : (name, v) ∈ es) : find? es name = some v := by
  induction es with
  | nil => simp at h
  | cons e es ih =>
    obtain ⟨n, w⟩ := e
    simp only [names, List.map_cons, List.nodup_cons] at hd
    rcases List.mem_cons.1 h with he | hm
    · obtain ⟨rfl, rfl⟩ := Prod.mk.inj he
      simp
    · have hne : n ≠ name := by
        intro heq
        exact hd.1 (heq ▸ List.mem_map_of_mem (f := Prod.fst) hm)
      rw [find?_cons, if_neg hne]
      exact ih hd.2 hm

theorem mem_iff_find? {es : List (String × α)} (hd : (names es).Nodup) {name : String} {v : α} :
    (name, v) ∈ es ↔ find? es name = some v :=
  ⟨find?_of_mem hd, mem_of_find?⟩

theorem has_eq_true_iff {es : List (String × α)} {name : String} :
    has es name = true ↔ name ∈ names es := by
  rw [has, mem_names_iff]

/-- A new name goes to the end. -/
theorem put_of_not_mem {es : List (String × α)} {name : String} {v : α} (h : name ∉ names es) :
    put es name v = es ++ [(name, v)] := by
  induction es with
  | nil => rfl
  | cons e es ih =>
    obtain ⟨n, w⟩ := e
    simp only [names, List.map_cons, List.mem_cons, not_or] at h
    rw [put, if_neg (Ne.symm h.1), ih h.2, List.cons_append]

theorem find?_putAll (es more : List (String × α)) (name : String) :
    find? (putAll es more) name = (find? more.reverse name).or (find? es name) := by
  induction more generalizing es with
  | nil => simp [putAll]
  | cons e more ih =>
    obtain ⟨n, v⟩ := e
    have hstep : putAll es ((n, v) :: more) = putAll (put es n v) more := rfl
    rw [hstep, ih, find?_put, List.reverse_cons, find?_append]
    by_cases h : n = name <;> cases find? more.reverse name <;> simp [h]

theorem find?_reverse {es : List (String × α)} (hd : (names es).Nodup) (name : String) :
    find? es.reverse name = find? es name := by
  have hdr : (names es.reverse).Nodup := by
    rw [names, List.map_reverse]
    exact List.nodup_reverse.2 hd
  cases h : find? es name with
  | some v => exact find?_of_mem hdr (List.mem_reverse.2 (mem_of_find? h))
  | none =>
    rw [find?_eq_none_iff] at h ⊢
    rwa [names, List.map_reverse, List.mem_reverse]

/-- Writing entries of new and distinct names puts them behind the others. -/
theorem putAll_of_disjoint {es more : List (String × α)}
    (hd : (names (es ++ more)).Nodup) : putAll es more = es ++ more := by
  induction more generalizing es with
  | nil => simp [putAll]
  | cons e more ih =>
    obtain ⟨n, v⟩ := e
    have hn : n ∉ names es := by
      intro hmem
      rw [names, List.map_append, List.nodup_append] at hd
      exact hd.2.2 n hmem n (by simp) rfl
    have hstep : putAll es ((n, v) :: more) = putAll (put es n v) more := rfl
    have happ : es ++ (n, v) :: more = es ++ [(n, v)] ++ more := by simp
    rw [hstep, put_of_not_mem hn, happ]
    exact ih (by rwa [happ] at hd)

/-! ### Names in order -/

theorem pairwise_mergeSort_names (es : List (String × α)) :
    (es.mergeSort fun a b => a.1 ≤ b.1).Pairwise fun a b => a.1 ≤ b.1 := by
  refine (List.pairwise_mergeSort (fun a b c hab hbc => ?_) (fun a b => ?_) es).imp
    fun h => by simpa using h
  · simp only [decide_eq_true_eq] at hab hbc ⊢
    exact String.le_trans hab hbc
  · simpa using String.le_total a.1 b.1

/-- Entries with distinct names have one order by name. -/
theorem mergeSort_names_eq_of_perm {es fs : List (String × α)} (hd : (names fs).Nodup)
    (h : es.Perm fs) : (es.mergeSort fun a b => a.1 ≤ b.1) = fs.mergeSort fun a b => a.1 ≤ b.1 := by
  refine List.Perm.eq_of_pairwise (fun a b ha hb hab hba => ?_) (pairwise_mergeSort_names _)
    (pairwise_mergeSort_names _)
    ((List.mergeSort_perm _ _).trans (h.trans (List.mergeSort_perm _ _).symm))
  have hname := String.le_antisymm hab hba
  have ha' := find?_of_mem hd (h.mem_iff.1 (List.mem_mergeSort.1 ha))
  have hb' := find?_of_mem hd (List.mem_mergeSort.1 hb)
  rw [← hname, ha'] at hb'
  exact Prod.ext hname (Option.some.inj hb')

theorem mergeSort_names_of_pairwise {es : List (String × α)}
    (h : es.Pairwise fun a b => a.1 ≤ b.1) : (es.mergeSort fun a b => a.1 ≤ b.1) = es :=
  List.mergeSort_of_pairwise (h.imp fun h => by simpa using h)

end Entries

namespace Table

variable {α : Type}

theorem mem_entries_iff {t : Table α} {name : String} {v : α} :
    (name, v) ∈ t.entries ↔ t.find? name = some v :=
  Entries.mem_iff_find? t.nodup

theorem has_eq_true_iff {t : Table α} {name : String} :
    t.has name = true ↔ ∃ v, t.find? name = some v := by
  rw [has_eq, Option.isSome_iff_exists]

/-- Apply a function to every value. -/
def map {β : Type} (f : α → β) (t : Table α) : Table β :=
  ⟨Entries.mapValues f t.entries, by
    rw [Entries.names_mapValues]
    exact t.nodup⟩

theorem find?_map {β : Type} (f : α → β) (t : Table α) (name : String) :
    (t.map f).find? name = (t.find? name).map f :=
  Entries.find?_mapValues f t.entries name

theorem size_map {β : Type} (f : α → β) (t : Table α) : (t.map f).size = t.size :=
  List.length_map _

/-- Replacing a row by one that is mapped to the same leaves the mapped table as it is. -/
theorem map_put_of_eq {β : Type} {f : α → β} {t : Table α} {name : String} {v w : α}
    (hv : t.find? name = some v) (h : f w = f v) : (t.put name w).map f = t.map f := by
  refine Table.ext ?_
  have hentries : ∀ es : List (String × α), Entries.find? es name = some v →
      Entries.mapValues f (Entries.put es name w) = Entries.mapValues f es := by
    intro es hes
    induction es with
    | nil => cases hes
    | cons e es ih =>
      obtain ⟨n, u⟩ := e
      rw [Entries.find?_cons] at hes
      rw [Entries.put]
      split_ifs at hes ⊢ with hn
      · obtain rfl := Option.some.inj hes
        exact congrArg (fun x => (n, x) :: Entries.mapValues f es) h
      · exact congrArg ((n, f u) :: ·) (ih hes)
  exact hentries t.entries hv

theorem entries_foldl_put (rows : List (String × α)) (t : Table α) :
    (rows.foldl (fun t e => t.put e.1 e.2) t).entries = Entries.putAll t.entries rows := by
  induction rows generalizing t with
  | nil => rfl
  | cons e rows ih =>
    rw [List.foldl_cons, ih]
    rfl

/-- The table of rows with distinct names has exactly these rows. -/
theorem entries_ofList {rows : List (String × α)} (hd : (Entries.names rows).Nodup) :
    (ofList rows).entries = rows := by
  rw [ofList, entries_foldl_put]
  exact @Entries.putAll_of_disjoint _ [] _ hd

theorem find?_ofList {rows : List (String × α)} (hd : (Entries.names rows).Nodup)
    (name : String) : (ofList rows).find? name = Entries.find? rows name := by
  rw [find?, entries_ofList hd]

end Table

end FormGraph
