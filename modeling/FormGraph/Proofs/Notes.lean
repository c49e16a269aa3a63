import FormGraph.Document.Notes

/-!
# Values and notes of chains

The value of a chain of steps that take notes is that of the chain without notes, and the notes of a
list of steps are put together in order. So every note of a chain is of some kind exactly when every
note of each step is (`Noted.All`).
-/

namespace FormGraph

namespace Noted

variable {ν α β : Type}

@[simp] theorem value_map (f : α → β) (x : Noted ν α) : (f <$> x).value = f x.value := rfl

@[simp] theorem notes_map (f : α → β) (x : Noted ν α) : (f <$> x).notes = x.notes := by
  show x.notes ++ [] = _
  rw [List.append_nil]

@[simp] theorem value_mapM (f : α → Noted ν β) (as : List α) :
    (as.mapM f).value = as.map fun a => (f a).value := by
  induction as with
  | nil => rw [List.mapM_nil, value_pure, List.map_nil]
  | cons a as ih => rw [List.mapM_cons, value_bind, value_bind, value_pure, ih, List.map_cons]

@[simp] theorem notes_mapM (f : α → Noted ν β) (as : List α) :
    (as.mapM f).notes = as.flatMap fun a => (f a).notes := by
  induction as with
  | nil => rw [List.mapM_nil, notes_pure, List.flatMap_nil]
  | cons a as ih =>
    rw [List.mapM_cons, notes_bind, notes_bind, notes_pure, ih, List.append_nil, List.flatMap_cons]

@[simp] theorem value_foldlM (f : β → α → Noted ν β) (b : β) (as : List α) :
    (as.foldlM f b).value = as.foldl (fun b a => (f b a).value) b := by
  induction as generalizing b with
  | nil => rw [List.foldlM_nil, value_pure, List.foldl_nil]
  | cons a as ih => rw [List.foldlM_cons, value_bind, ih, List.foldl_cons]

@[simp] theorem notes_forM (f : α → Noted ν PUnit) (as : List α) :
    (as.forM f).notes = as.flatMap fun a => (f a).notes := by
  induction as with
  | nil => rfl
  | cons a as ih =>
    show (f a).notes ++ (as.forM f).notes = _
    rw [ih, List.flatMap_cons]

/-! ## What all notes are -/

/-- Every note is such a note. -/
def All (p : ν → Prop) (x : Noted ν α) : Prop := ∀ n ∈ x.notes, p n

section All

variable {p : ν → Prop}

@[simp] theorem all_pure (a : α) : All p (pure a : Noted ν α) := fun _ h => by simp at h

@[simp] theorem all_bind_iff {x : Noted ν α} {f : α → Noted ν β} :
    All p (x >>= f) ↔ x.All p ∧ (f x.value).All p := by
  unfold All
  rw [notes_bind]
  exact List.forall_mem_append

@[simp] theorem all_map_iff {x : Noted ν α} {f : α → β} : All p (f <$> x) ↔ x.All p := by
  unfold All
  rw [notes_map]

@[simp] theorem all_tell_iff {n : ν} : All p (tell [n]) ↔ p n := by
  unfold All
  rw [notes_tell]
  exact List.forall_mem_singleton

theorem all_mapM_iff {f : α → Noted ν β} {as : List α} :
    All p (as.mapM f) ↔ ∀ a ∈ as, (f a).All p := by
  unfold All
  rw [notes_mapM]
  simp only [List.mem_flatMap]
  exact ⟨fun h a ha n hn => h n ⟨a, ha, hn⟩, fun h n ⟨a, ha, hn⟩ => h a ha n hn⟩

theorem all_forM_iff {f : α → Noted ν PUnit} {as : List α} :
    All p (as.forM f) ↔ ∀ a ∈ as, (f a).All p := by
  unfold All
  rw [notes_forM]
  simp only [List.mem_flatMap]
  exact ⟨fun h a ha n hn => h n ⟨a, ha, hn⟩, fun h n ⟨a, ha, hn⟩ => h a ha n hn⟩

end All

end Noted

end FormGraph
