import FormGraph.Proofs.Reading.Steps
import Mathlib.Data.List.Forall2

/-!
# Reading without issues

A reading is calm when nothing worse than a warning was noted in it. A chain is calm exactly when
all of its steps are; the lemmas that say so serve in both directions, to show that a reading
succeeds and to take apart one that did. `x.Yields a` says of a calm reading what was read.
-/

namespace FormGraph

namespace Noted

variable {α β : Type}

/-- Nothing worse than a warning was noted. -/
def Calm (x : Reading α) : Prop := ∀ n ∈ x.notes, ∃ text, n = .warning text

theorem calm_pure (a : α) : Calm (pure a : Reading α) := all_pure a

theorem calm_bind_iff {x : Reading α} {f : α → Reading β} :
    Calm (x >>= f) ↔ x.Calm ∧ (f x.value).Calm := all_bind_iff

theorem calm_map_iff {x : Reading α} {f : α → β} : Calm (f <$> x) ↔ x.Calm := all_map_iff

theorem calm_warn (text : String) : (Reading.warn text).Calm := by
  intro n hn
  rw [Reading.warn, notes_tell, List.mem_singleton] at hn
  exact ⟨text, hn⟩

theorem calm_warnIf (reason : Bool) (text : String) : (Reading.warnIf reason text).Calm := by
  unfold Reading.warnIf
  split
  · exact calm_warn text
  · exact calm_pure ()

theorem not_calm_issue (text : String) : ¬ (Reading.issue text).Calm := by
  intro h
  obtain ⟨t, ht⟩ := h (.issue text) (by rw [Reading.issue, notes_tell]; exact List.mem_singleton_self _)
  cases ht

theorem not_calm_issue_bind (text : String) (f : Unit → Reading α) :
    ¬ Calm (Reading.issue text >>= f) := fun h => not_calm_issue text (calm_bind_iff.1 h).1

theorem not_calm_unusable {a : α} : ¬ Calm (⟨a, [.unusable]⟩ : Reading α) := by
  intro h
  obtain ⟨_, ht⟩ := h .unusable List.mem_cons_self
  cases ht

theorem calm_mapM_iff {f : α → Reading β} {as : List α} :
    Calm (as.mapM f) ↔ ∀ a ∈ as, (f a).Calm := all_mapM_iff

theorem calm_forM_iff {f : α → Reading PUnit} {as : List α} :
    Calm (as.forM f) ↔ ∀ a ∈ as, (f a).Calm := all_forM_iff

/-- What every calm step keeps is kept by a calm chain of steps. -/
theorem foldlM_keeps {f : β → α → Reading β} {P : β → Prop} {as : List α} {b : β}
    (hf : ∀ b, ∀ a ∈ as, P b → (f b a).Calm → P (f b a).value) (hb : P b)
    (hc : (as.foldlM f b).Calm) : P (as.foldlM f b).value := by
  induction as generalizing b with
  | nil => exact hb
  | cons a as ih =>
    rw [List.foldlM_cons, calm_bind_iff] at hc
    rw [List.foldlM_cons, value_bind]
    have hstep := hf b a List.mem_cons_self hb hc.1
    exact ih (fun b' a' ha' => hf b' a' (List.mem_cons_of_mem _ ha')) hstep hc.2

/-- Something is read, and calmly. -/
structure Yields (x : Reading α) (a : α) : Prop where
  /-- What is read. -/
  value_eq : x.value = a
  /-- The reading is calm. -/
  calm : x.Calm

namespace Yields

variable {a : α} {b : β}

theorem pure (a : α) : Yields (Pure.pure a : Reading α) a := ⟨rfl, calm_pure a⟩

theorem bind {x : Reading α} {f : α → Reading β} (hx : x.Yields a) (hf : (f a).Yields b) :
    Yields (x >>= f) b := by
  obtain ⟨rfl, hc⟩ := hx
  exact ⟨hf.value_eq, calm_bind_iff.2 ⟨hc, hf.calm⟩⟩

theorem map {x : Reading α} (f : α → β) (hx : x.Yields a) : Yields (f <$> x) (f a) :=
  ⟨congrArg f hx.value_eq, calm_map_iff.2 hx.calm⟩

theorem warn (text : String) : (Reading.warn text).Yields () := ⟨rfl, calm_warn text⟩

theorem warnIf (reason : Bool) (text : String) : (Reading.warnIf reason text).Yields () :=
  ⟨rfl, calm_warnIf reason text⟩

theorem forM {f : α → Reading PUnit} {as : List α} (h : ∀ a ∈ as, (f a).Calm) :
    (as.forM f).Yields ⟨⟩ := ⟨rfl, calm_forM_iff.2 h⟩

theorem mapM {f : α → Reading β} {as : List α} {bs : List β}
    (h : List.Forall₂ (fun a b => (f a).Yields b) as bs) : Yields (as.mapM f) bs := by
  induction h with
  | nil => exact pure []
  | cons hab _ ih =>
    rw [List.mapM_cons]
    exact hab.bind (ih.bind (pure _))

end Yields

end Noted

end FormGraph
