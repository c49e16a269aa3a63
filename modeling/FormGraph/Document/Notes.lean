import FormGraph.Fault

/-!
# Notes

Writing and reading a document both go on where they meet something worth a remark. `Noted ν` is a
value together with the notes taken on the way to it, in order; doing one thing after another
concatenates the notes. There is no other effect, so what is noted in one part never depends on what
was noted in another.
-/

namespace FormGraph

/-- A value with the notes taken on the way to it. -/
structure Noted (ν α : Type) where
  /-- The value. -/
  value : α
  /-- The notes, in order. -/
  notes : List ν := []

namespace Noted

variable {ν α β : Type}

instance : Monad (Noted ν) where
  pure a := ⟨a, []⟩
  bind x f := ⟨(f x.value).value, x.notes ++ (f x.value).notes⟩

@[simp] theorem value_pure (a : α) : (pure a : Noted ν α).value = a := rfl

@[simp] theorem notes_pure (a : α) : (pure a : Noted ν α).notes = [] := rfl

@[simp] theorem value_bind (x : Noted ν α) (f : α → Noted ν β) :
    (x >>= f).value = (f x.value).value := rfl

@[simp] theorem notes_bind (x : Noted ν α) (f : α → Noted ν β) :
    (x >>= f).notes = x.notes ++ (f x.value).notes := rfl

@[ext] theorem ext {x y : Noted ν α} (hv : x.value = y.value) (hn : x.notes = y.notes) : x = y := by
  cases x; cases y; cases hv; cases hn; rfl

instance : LawfulMonad (Noted ν) :=
  LawfulMonad.mk' _
    (fun x => by apply ext <;> simp [Functor.map])
    (fun a f => by apply ext <;> simp)
    (fun x f g => by apply ext <;> simp)

/-- Take notes. -/
def tell (notes : List ν) : Noted ν Unit := ⟨(), notes⟩

@[simp] theorem notes_tell (notes : List ν) : (tell notes).notes = notes := rfl

end Noted

end FormGraph
