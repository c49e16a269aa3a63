import FormGraph.Proofs.Writing.Matching
import Mathlib.Data.Set.Basic

/-!
# Writings that come to the same

`x.Yields a targets` says of a document that is being written that it comes to `a`, and which values
are pointed at on the way: as a set, because neither the order nor the number of the references counts
for what is written in the end. Two writings are alike when they yield the same; so steps that do not
need each other may be done in either order (`Compiling.Alike.comm`).
-/

namespace FormGraph

namespace Compiling

variable {α β γ : Type}

/-- What is pointed at in a writing, in order. -/
def references (x : Compiling α) : List Value := x.run.notes.filterMap CompileNote.reference?

/-- The writing succeeds with a result, and these are the values that it points at. -/
def Yields (x : Compiling α) (a : α) (targets : Set Value) : Prop :=
  x.run.value = .ok a ∧ {t | t ∈ x.references} = targets

/-- What one writing yields, so does the other. -/
def Alike (x y : Compiling α) : Prop := ∀ a targets, x.Yields a targets ↔ y.Yields a targets

section Yields

variable {a : α} {b : β} {targets : Set Value}

theorem yields_of_value {x : Compiling α} (h : x.run.value = .ok a) :
    x.Yields a {t | t ∈ x.references} := ⟨h, rfl⟩

theorem Gives.yields {x : Compiling α} {refs : List Value} (h : x.Gives a refs) :
    x.Yields a {t | t ∈ refs} := ⟨h.1, h.2 ▸ rfl⟩

theorem references_bind {x : Compiling α} {f : α → Compiling β} (h : x.run.value = .ok a) :
    (x >>= f).references = x.references ++ (f a).references := by
  have hrun : (x >>= f).run = x.run >>= fun r => (ExceptT.bindCont f r : Noted CompileNote _) := rfl
  unfold references
  rw [hrun, Noted.notes_bind, h, List.filterMap_append]
  rfl

theorem yields_bind_iff {x : Compiling α} {f : α → Compiling β} :
    (x >>= f).Yields b targets ↔
      ∃ a first later, x.Yields a first ∧ (f a).Yields b later ∧ targets = first ∪ later := by
  constructor
  · rintro ⟨hvalue, rfl⟩
    obtain ⟨a, hx, hf⟩ := value_bind_eq_ok_iff.1 hvalue
    refine ⟨a, _, _, yields_of_value hx, yields_of_value hf, ?_⟩
    rw [references_bind hx]
    exact Set.ext fun t => List.mem_append
  · rintro ⟨a, first, later, ⟨hx, rfl⟩, ⟨hf, rfl⟩, rfl⟩
    refine ⟨value_bind_eq_ok_iff.2 ⟨a, hx, hf⟩, ?_⟩
    rw [references_bind hx]
    exact Set.ext fun t => List.mem_append

end Yields

namespace Alike

variable {x y z : Compiling α}

theorem refl (x : Compiling α) : x.Alike x := fun _ _ => Iff.rfl

theorem symm (h : x.Alike y) : y.Alike x := fun a targets => (h a targets).symm

theorem trans (h : x.Alike y) (h' : y.Alike z) : x.Alike z :=
  fun a targets => (h a targets).trans (h' a targets)

theorem of_gives {a : α} {refs : List Value} (hx : x.Gives a refs) (hy : y.Gives a refs) :
    x.Alike y := by
  have hsame : ∀ a' targets, x.Yields a' targets ↔ a = a' ∧ {t | t ∈ refs} = targets := by
    intro a' targets
    unfold Yields references
    rw [hx.1, hx.2, Except.ok.injEq]
  have hsame' : ∀ a' targets, y.Yields a' targets ↔ a = a' ∧ {t | t ∈ refs} = targets := by
    intro a' targets
    unfold Yields references
    rw [hy.1, hy.2, Except.ok.injEq]
  exact fun a' targets => (hsame a' targets).trans (hsame' a' targets).symm

/-- The same goes on after writings that are alike. -/
theorem bind {f f' : α → Compiling β} (h : x.Alike y) (hf : ∀ a, (f a).Alike (f' a)) :
    (x >>= f).Alike (y >>= f') := by
  intro b targets
  rw [yields_bind_iff, yields_bind_iff]
  constructor
  · rintro ⟨a, first, later, hx, hfa, heq⟩
    exact ⟨a, first, later, (h a first).1 hx, (hf a b later).1 hfa, heq⟩
  · rintro ⟨a, first, later, hx, hfa, heq⟩
    exact ⟨a, first, later, (h a first).2 hx, (hf a b later).2 hfa, heq⟩

/-- Two steps of which neither needs the other may be done in either order. -/
theorem comm (x : Compiling α) (y : Compiling β) (f : α → β → Compiling γ) :
    (x >>= fun a => y >>= fun b => f a b).Alike (y >>= fun b => x >>= fun a => f a b) := by
  intro c targets
  simp only [yields_bind_iff]
  constructor
  · rintro ⟨a, first, _, hx, ⟨b, second, later, hy, hf, rfl⟩, rfl⟩
    exact ⟨b, second, _, hy, ⟨a, first, later, hx, hf, rfl⟩, Set.union_left_comm _ _ _⟩
  · rintro ⟨b, second, _, hy, ⟨a, first, later, hx, hf, rfl⟩, rfl⟩
    exact ⟨a, first, _, hx, ⟨b, second, later, hy, hf, rfl⟩, Set.union_left_comm _ _ _⟩

/-- Lists whose items are written alike are written alike. -/
theorem mapM {f : α → Compiling γ} {f' : β → Compiling γ} {as : List α} {bs : List β}
    (h : List.Forall₂ (fun a b => (f a).Alike (f' b)) as bs) : (as.mapM f).Alike (bs.mapM f') := by
  induction h with
  | nil => exact refl _
  | cons hab _ ih =>
    rw [List.mapM_cons, List.mapM_cons]
    exact hab.bind fun _ => ih.bind fun _ => refl _

/-- Lists are gone through alike when each item of one does what its counterpart does. -/
theorem foldlM {f : γ → α → Compiling γ} {f' : γ → β → Compiling γ} {as : List α} {bs : List β}
    (h : List.Forall₂ (fun a b => ∀ c, (f c a).Alike (f' c b)) as bs) (c : γ) :
    (as.foldlM f c).Alike (bs.foldlM f' c) := by
  induction h generalizing c with
  | nil => exact refl _
  | cons hab _ ih =>
    rw [List.foldlM_cons, List.foldlM_cons]
    exact (hab c).bind ih

end Alike

end Compiling

end FormGraph
