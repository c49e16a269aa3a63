import FormGraph.Graph.Wiring
import Mathlib.Data.List.Forall2

/-!
# What it takes for an edit to succeed

An edit is a chain of steps each of which may be refused. The lemmas here take a successful chain
apart: it succeeded exactly when every step did, and no refusal was met. Every later statement of the
form "if the edit succeeds, then ..." begins with them.
-/

namespace FormGraph

variable {α β : Type}

/-! ## Steps without a supply of names -/

theorem bind_eq_ok_iff {x : Except Fault α} {f : α → Except Fault β} {b : β} :
    (x >>= f) = .ok b ↔ ∃ a, x = .ok a ∧ f a = .ok b := by
  cases x with
  | error e => simp [bind, Except.bind]
  | ok a => simp [bind, Except.bind]

theorem pure_eq_ok_iff {a b : α} : (pure a : Except Fault α) = .ok b ↔ a = b := by
  simp [pure, Except.pure]

theorem refuse_bind (r : Refusal) (f : α → Except Fault β) : (refuse r >>= f) = refuse r := rfl

theorem refuse_eq_ok_iff (r : Refusal) (a : α) : (refuse r : Except Fault α) = .ok a ↔ False := by
  simp [refuse]

theorem orBreakDown_eq_ok_iff {o : Option α} {b : Breakdown} {a : α} :
    orBreakDown o b = .ok a ↔ o = some a := by
  cases o <;> simp [orBreakDown, breakDown]

/-- A check that refuses lets the chain go on exactly when there is no reason to refuse. -/
theorem ite_refuse_eq_ok_iff {c : Prop} [Decidable c] {r : Refusal} {x : Except Fault α} {a : α} :
    (if c then refuse r else x) = .ok a ↔ ¬ c ∧ x = .ok a := by
  by_cases h : c <;> simp [h, refuse]

/-- A check that lets pass or refuses. -/
theorem ite_else_refuse_eq_ok_iff {c : Prop} [Decidable c] {r : Refusal} {x : Except Fault α}
    {a : α} : (if c then x else refuse r) = .ok a ↔ c ∧ x = .ok a := by
  by_cases h : c <;> simp [h, refuse]

/-- What maps over a list succeeds exactly when it succeeds on every item. -/
theorem mapM_eq_ok_iff {f : α → Except Fault β} {as : List α} {bs : List β} :
    as.mapM f = .ok bs ↔ List.Forall₂ (fun a b => f a = .ok b) as bs := by
  induction as generalizing bs with
  | nil => rw [List.mapM_nil, pure_eq_ok_iff, List.forall₂_nil_left_iff, eq_comm]
  | cons a as ih =>
    simp only [List.mapM_cons, bind_eq_ok_iff, pure_eq_ok_iff, ih, List.forall₂_cons_left_iff]
    constructor
    · rintro ⟨b, hb, bs', hbs, rfl⟩
      exact ⟨b, bs', hb, hbs, rfl⟩
    · rintro ⟨b, bs', hb, hbs, rfl⟩
      exact ⟨b, hb, bs', hbs, rfl⟩

/-- What is related to an item of one list is in the other list. -/
theorem exists_of_forall₂ {R : α → β → Prop} {as : List α} {bs : List β}
    (h : List.Forall₂ R as bs) {a : α} (ha : a ∈ as) : ∃ b ∈ bs, R a b := by
  induction h with
  | nil => exact absurd ha List.not_mem_nil
  | cons hab _ ih =>
    rcases List.mem_cons.1 ha with rfl | ha
    · exact ⟨_, List.mem_cons_self, hab⟩
    · obtain ⟨b, hb, hr⟩ := ih ha
      exact ⟨b, List.mem_cons_of_mem _ hb, hr⟩

/-- Of items that are related, each is in its list. -/
theorem forall₂_with_mem {R : α → β → Prop} {as : List α} {bs : List β}
    (h : List.Forall₂ R as bs) : List.Forall₂ (fun a b => a ∈ as ∧ b ∈ bs ∧ R a b) as bs := by
  induction h with
  | nil => exact .nil
  | cons hab _ ih =>
    exact .cons ⟨List.mem_cons_self, List.mem_cons_self, hab⟩ (ih.imp fun _ _ ⟨ha, hb, h⟩ =>
      ⟨List.mem_cons_of_mem _ ha, List.mem_cons_of_mem _ hb, h⟩)

/-- Items that are related stand at the same positions. -/
theorem rel_getElem? {R : α → β → Prop} {as : List α} {bs : List β} (h : List.Forall₂ R as bs)
    (i : Nat) : Option.Rel R as[i]? bs[i]? := by
  induction h generalizing i with
  | nil => exact .none
  | cons hab _ ih =>
    cases i with
    | zero => exact .some hab
    | succ i => exact ih i

/-- An item of the first list is related to the one at its position in the second. -/
theorem exists_right_of_getElem? {R : α → β → Prop} {as : List α} {bs : List β}
    (h : List.Forall₂ R as bs) {i : Nat} {a : α} (ha : as[i]? = some a) :
    ∃ b, bs[i]? = some b ∧ R a b := by
  have hrel := rel_getElem? h i
  rw [ha] at hrel
  generalize bs[i]? = b at hrel ⊢
  cases hrel with
  | some hab => exact ⟨_, rfl, hab⟩

/-- An item of the second list is related to the one at its position in the first. -/
theorem exists_left_of_getElem? {R : α → β → Prop} {as : List α} {bs : List β}
    (h : List.Forall₂ R as bs) {i : Nat} {b : β} (hb : bs[i]? = some b) :
    ∃ a, as[i]? = some a ∧ R a b := by
  obtain ⟨a, ha, hab⟩ := exists_right_of_getElem? h.flip hb
  exact ⟨a, ha, hab⟩

/-- What maps over a list depends only on what it does on the items. -/
theorem mapM_congr_of_mem {f f' : α → Except Fault β} {as : List α} (h : ∀ a ∈ as, f a = f' a) :
    as.mapM f = as.mapM f' := by
  induction as with
  | nil => rfl
  | cons a as ih =>
    rw [List.mapM_cons, List.mapM_cons, h a List.mem_cons_self,
      ih fun b hb => h b (List.mem_cons_of_mem _ hb)]

/-! ## Whether a chain succeeds -/

/-- A chain whose rest succeeds or not whatever its first step gives. -/
theorem isOk_bind_iff {x : Except Fault α} {f : α → Except Fault β} {P : Prop}
    (h : ∀ a, x = .ok a → ((∃ b, f a = .ok b) ↔ P)) :
    (∃ b, (x >>= f) = .ok b) ↔ (∃ a, x = .ok a) ∧ P := by
  simp only [bind_eq_ok_iff]
  constructor
  · rintro ⟨b, a, ha, hb⟩
    exact ⟨⟨a, ha⟩, (h a ha).1 ⟨b, hb⟩⟩
  · rintro ⟨⟨a, ha⟩, hP⟩
    obtain ⟨b, hb⟩ := (h a ha).2 hP
    exact ⟨b, a, ha, hb⟩

/-- A chain whose rest always succeeds. -/
theorem isOk_bind_of_total {x : Except Fault α} {f : α → Except Fault β}
    (h : ∀ a, ∃ b, f a = .ok b) : (∃ b, (x >>= f) = .ok b) ↔ ∃ a, x = .ok a :=
  (isOk_bind_iff fun a _ => iff_of_true (h a) trivial).trans (and_iff_left trivial)

theorem isOk_mapM_iff {f : α → Except Fault β} {as : List α} :
    (∃ bs, as.mapM f = .ok bs) ↔ ∀ a ∈ as, ∃ b, f a = .ok b := by
  constructor
  · rintro ⟨bs, h⟩ a ha
    obtain ⟨b, -, hb⟩ := exists_of_forall₂ (mapM_eq_ok_iff.1 h) ha
    exact ⟨b, hb⟩
  · intro h
    induction as with
    | nil => exact ⟨[], rfl⟩
    | cons a as ih =>
      obtain ⟨b, hb⟩ := h a List.mem_cons_self
      obtain ⟨bs, hbs⟩ := ih fun x hx => h x (List.mem_cons_of_mem _ hx)
      exact ⟨b :: bs, by rw [List.mapM_cons, hb, hbs]; rfl⟩

/-- What succeeds or not on an item, whatever was gathered before, succeeds on a list when it does on
every item. -/
theorem isOk_foldlM_iff {f : β → α → Except Fault β} {P : α → Prop} {as : List α}
    (h : ∀ a ∈ as, ∀ b, (∃ b', f b a = .ok b') ↔ P a) (b : β) :
    (∃ b', as.foldlM f b = .ok b') ↔ ∀ a ∈ as, P a := by
  induction as generalizing b with
  | nil => exact ⟨fun _ a ha => absurd ha List.not_mem_nil, fun _ => ⟨b, rfl⟩⟩
  | cons a as ih =>
    have hrest := fun b' => ih (fun x hx => h x (List.mem_cons_of_mem _ hx)) b'
    rw [List.foldlM_cons, isOk_bind_iff fun b' _ => hrest b', h a List.mem_cons_self b,
      List.forall_mem_cons]

/-! ## Steps that may take names -/

namespace Edit

theorem bind_eq_ok_iff {x : Edit α} {f : α → Edit β} {s : IdSupply} {r : β × IdSupply} :
    (x >>= f).run s = .ok r ↔ ∃ a t, x.run s = .ok (a, t) ∧ (f a).run t = .ok r := by
  rw [StateT.run_bind, FormGraph.bind_eq_ok_iff]
  constructor
  · rintro ⟨⟨a, t⟩, hx, hf⟩
    exact ⟨a, t, hx, hf⟩
  · rintro ⟨a, t, hx, hf⟩
    exact ⟨(a, t), hx, hf⟩

theorem lift_eq_ok_iff {x : Except Fault α} {s : IdSupply} {r : α × IdSupply} :
    (liftM x : Edit α).run s = .ok r ↔ x = .ok r.1 ∧ r.2 = s := by
  obtain ⟨a, t⟩ := r
  cases x with
  | error e => simp [liftM, monadLift, MonadLift.monadLift, StateT.lift, StateT.run, bind,
      Except.bind]
  | ok b => simp [liftM, monadLift, MonadLift.monadLift, StateT.lift, StateT.run, bind, Except.bind,
      pure, Except.pure, eq_comm]

theorem pure_eq_ok_iff {a : α} {s : IdSupply} {r : α × IdSupply} :
    (pure a : Edit α).run s = .ok r ↔ r = (a, s) := by
  rw [StateT.run_pure, FormGraph.pure_eq_ok_iff, eq_comm]

theorem throw_eq_ok_iff {e : Fault} {s : IdSupply} {r : α × IdSupply} :
    (throw e : Edit α).run s = .ok r ↔ False := by
  simp [throw, throwThe, MonadExceptOf.throw, StateT.lift, StateT.run, bind, Except.bind]

/-- A refusal ends an edit. -/
theorem throw_bind (e : Fault) (f : α → Edit β) : ((throw e : Edit α) >>= f) = throw e := rfl

theorem ite_throw_eq_ok_iff {c : Prop} [Decidable c] {e : Fault} {x : Edit α} {s : IdSupply}
    {r : α × IdSupply} :
    (if c then throw e else x : Edit α).run s = .ok r ↔ ¬ c ∧ x.run s = .ok r := by
  by_cases h : c
  · rw [if_pos h, throw_eq_ok_iff]
    simp [h]
  · rw [if_neg h]
    simp [h]

theorem fresh_eq_ok_iff {s : IdSupply} {r : NodeId × IdSupply} :
    IdSupply.fresh.run s = .ok r ↔ r = (IdSupply.nameOf (s.used + 1), ⟨s.used + 1⟩) := by
  simp [IdSupply.fresh, StateT.run, eq_comm]

end Edit

end FormGraph
