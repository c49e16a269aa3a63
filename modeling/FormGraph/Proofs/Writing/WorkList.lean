import FormGraph.Proofs.Writing.Noting
import Mathlib.Logic.Relation

/-!
# The loop over the definitions that wait

The writer takes the definitions that wait one by one, and what a definition points at joins those
that wait. `Turn` is one turn of this loop, without the bound on the number of turns that the writer
is given. Every turn leaves less to do, so the turns come to an end wherever they begin and in whatever
way the definitions point at each other (`wellFounded_turn`), and the writer stops where the turns do
and not at its bound (`gives_definitions_iff`).
-/

namespace FormGraph

namespace Compiling

variable {α β : Type}

/-- What a chain gives is what its steps give. -/
theorem gives_bind_iff {x : Compiling α} {f : α → Compiling β} {b : β} {refs : List Value} :
    (x >>= f).Gives b refs ↔
      ∃ a more, x.run.value = .ok a ∧ (f a).Gives b more ∧ refs = x.references ++ more := by
  constructor
  · rintro ⟨hvalue, rfl⟩
    obtain ⟨a, hx, hf⟩ := value_bind_eq_ok_iff.1 hvalue
    exact ⟨a, _, hx, ⟨hf, rfl⟩, references_bind hx⟩
  · rintro ⟨a, _, hx, ⟨hf, rfl⟩, rfl⟩
    exact ⟨value_bind_eq_ok_iff.2 ⟨a, hx, hf⟩, references_bind hx⟩

theorem gives_pure_iff {a b : α} {refs : List Value} :
    (pure a : Compiling α).Gives b refs ↔ a = b ∧ refs = [] := by
  constructor
  · rintro ⟨hvalue, rfl⟩
    exact ⟨value_pure_eq_ok_iff.1 hvalue, rfl⟩
  · rintro ⟨rfl, rfl⟩
    exact .pure a

end Compiling

namespace Compile

open Graph Compiling

variable {g : Graph} {cfg : DocumentConfig}

/-! ## What is pointed at -/

/-- The texts that references of the graph point at, each once. -/
def targetTexts (g : Graph) : List String :=
  (g.nodes.values.filterMap fun n => n.target?.bind Value.str?).dedup

theorem nodup_targetTexts (g : Graph) : (targetTexts g).Nodup := List.nodup_dedup _

theorem length_targetTexts_le (g : Graph) : (targetTexts g).length ≤ g.nodes.size :=
  ((List.dedup_sublist _).length_le.trans (List.length_filterMap_le _ _)).trans_eq
    (List.length_map _)

/-- What a definition points at is what some reference of the graph points at. -/
theorem mem_targetTexts {name r : String} (h : .str r ∈ (definition g cfg name).references) :
    r ∈ targetTexts g := by
  have hall : (definition g cfg name).run.All fun note =>
      ∀ r, note.reference? = some (.str r) → r ∈ targetTexts g := by
    refine all_definition (fun text _ r hr => by cases hr) (fun id n t hn ht _ r hr => ?_) name
    obtain rfl : t = .str r := Option.some.inj hr
    rw [targetTexts, List.mem_dedup, List.mem_filterMap]
    exact ⟨n, List.mem_map.2 ⟨(id, n), Table.mem_entries_iff.2 hn, rfl⟩, by rw [ht]; rfl⟩
  obtain ⟨note, hnote, heq⟩ := List.mem_filterMap.1 h
  exact hall note hnote r heq

/-- What joins the definitions that wait is what was found and not pointed at or written before. -/
theorem joined {pointedAt found new : List Value} {written : Members}
    (h : sortedTargets (found.filter fun target =>
      !pointedAt.any target.same && !target.str?.any (Entries.has written)) = .ok new) :
    (new.filterMap Value.str?).Nodup ∧ ∀ n, n ∈ new.filterMap Value.str? ↔
      .str n ∈ found ∧ .str n ∉ pointedAt ∧ n ∉ Entries.names written := by
  obtain ⟨hnodup, hmem⟩ := sortedTargets_ok h
  refine ⟨hnodup, fun n => (hmem n).trans ?_⟩
  have hany : pointedAt.any (Value.str n).same = true ↔ .str n ∈ pointedAt := by
    rw [List.any_eq_true]
    constructor
    · rintro ⟨v, hv, hsame⟩
      exact Value.str_same.1 hsame ▸ hv
    · exact fun hv => ⟨_, hv, Value.str_same.2 rfl⟩
  rw [List.mem_filter, Bool.and_eq_true, Bool.not_eq_true', Bool.not_eq_true', ← Bool.not_eq_true,
    ← Bool.not_eq_true, hany, ← Entries.has_eq_true_iff]
  rfl

/-! ## The turns of the loop -/

/-- Where the loop stands. -/
structure WorkList where
  /-- What was pointed at, -/
  pointedAt : List Value
  /-- what is written, -/
  written : Members
  /-- and what waits. -/
  waiting : List String

/-- One turn of the loop. -/
inductive Turn (g : Graph) (cfg : DocumentConfig) : WorkList → WorkList → Prop where
  /-- A definition that is written already need not wait. -/
  | skip {pointedAt : List Value} {written : Members} {name : String} {waiting : List String}
    (again : name ∈ Entries.names written) :
    Turn g cfg ⟨pointedAt, written, name :: waiting⟩ ⟨pointedAt, written, waiting⟩
  /-- Any other is written, and what it points at joins those that wait, sorted, as far as it was not
  pointed at before and is not written. -/
  | write {pointedAt : List Value} {written : Members} {name : String} {waiting : List String}
    {v : Value} {new : List Value} (first : name ∉ Entries.names written)
    (value : (definition g cfg name).run.value = .ok v)
    (joins : sortedTargets ((definition g cfg name).references.filter fun target =>
      !pointedAt.any target.same &&
        !target.str?.any (Entries.has (Entries.put written name v))) = .ok new) :
    Turn g cfg ⟨pointedAt, written, name :: waiting⟩
      ⟨pointedAt ++ (definition g cfg name).references, Entries.put written name v,
        waiting ++ new.filterMap Value.str?⟩

/-- What is left to do at most: to take what waits, and what can still be pointed at. -/
def WorkList.budget (g : Graph) (w : WorkList) : Nat :=
  w.waiting.length + ((targetTexts g).filter fun n => .str n ∉ w.pointedAt).length

/-- Every turn leaves less to do. -/
theorem Turn.budget_lt {w w' : WorkList} (h : Turn g cfg w w') : w'.budget g < w.budget g := by
  cases h with
  | skip again =>
    simp only [WorkList.budget, List.length_cons]
    omega
  | @write pointedAt written name waiting v new first value joins =>
    obtain ⟨hnodup, hmem⟩ := joined joins
    -- what joins was not pointed at before, so there is less left to point at
    have hbudget := length_add_filter_le (fun n => .str n ∉ pointedAt)
      (fun n => .str n ∉ pointedAt ++ (definition g cfg name).references)
      (nodup_targetTexts g) hnodup
      (fun n hn => by
        obtain ⟨hfound, hold, -⟩ := (hmem n).1 hn
        exact ⟨mem_targetTexts hfound, hold, fun h => h (List.mem_append_right _ hfound)⟩)
      fun n hn h => hn (List.mem_append_left _ h)
    simp only [WorkList.budget, List.length_cons, List.length_append]
    omega

/-- The turns come to an end, wherever they begin. -/
theorem wellFounded_turn (g : Graph) (cfg : DocumentConfig) :
    WellFounded fun w' w => Turn g cfg w w' :=
  Subrelation.wf Turn.budget_lt (measure (WorkList.budget g)).wf

/-- What was pointed at stays in front of what is pointed at in the end. -/
theorem pointedAt_prefix {w w' : WorkList} (h : Relation.ReflTransGen (Turn g cfg) w w') :
    ∃ more, w'.pointedAt = w.pointedAt ++ more := by
  induction h with
  | refl => exact ⟨[], (List.append_nil _).symm⟩
  | tail _ hw ih =>
    obtain ⟨more, hmore⟩ := ih
    cases hw with
    | skip => exact ⟨more, hmore⟩
    | write =>
      exact ⟨_, (congrArg (· ++ (definition g cfg _).references) hmore).trans
        (List.append_assoc _ _ _)⟩

/-- A writer that is given enough turns gives what the turns lead to when nothing waits any more. -/
theorem gives_definitions_iff (steps : Nat) : ∀ {w : WorkList} {result : Members}
    {refs : List Value}, w.budget g < steps →
      ((definitions g cfg steps w.pointedAt w.written w.waiting).Gives result refs ↔
        Relation.ReflTransGen (Turn g cfg) w ⟨w.pointedAt ++ refs, result, []⟩) := by
  induction steps with
  | zero => exact fun h => absurd h (Nat.not_lt_zero _)
  | succ steps ih =>
    rintro ⟨pointedAt, written, waiting⟩ result refs hsteps
    cases waiting with
    | nil =>
      refine gives_pure_iff.trans ⟨?_, fun h => ?_⟩
      · rintro ⟨rfl, rfl⟩
        rw [List.append_nil]
      · rcases Relation.ReflTransGen.cases_head h with heq | ⟨w, hw, -⟩
        · obtain ⟨hrefs, hresult, -⟩ := WorkList.mk.inj heq
          exact ⟨hresult, List.append_right_eq_self.1 hrefs.symm⟩
        · cases hw
    | cons name waiting =>
      dsimp only
      unfold definitions
      by_cases hhas : Entries.has written name = true
      · have hagain := Entries.has_eq_true_iff.1 hhas
        have hturn : Turn g cfg ⟨pointedAt, written, name :: waiting⟩
            ⟨pointedAt, written, waiting⟩ := .skip hagain
        have hless := hturn.budget_lt
        rw [if_pos hhas]
        refine (ih (w := ⟨pointedAt, written, waiting⟩)
          (Nat.lt_of_lt_of_le hless (Nat.le_of_lt_succ hsteps))).trans ⟨.head hturn, fun h => ?_⟩
        rcases Relation.ReflTransGen.cases_head h with heq | ⟨w, hw, h⟩
        · exact absurd (congrArg WorkList.waiting heq) (List.cons_ne_nil _ _)
        · cases hw with
          | skip => exact h
          | write first => exact absurd hagain first
      · have hfirst : name ∉ Entries.names written := fun h => hhas (Entries.has_eq_true_iff.2 h)
        rw [if_neg hhas, gives_bind_iff]
        constructor
        · rintro ⟨⟨v, notes⟩, _, hlisten, hrest, rfl⟩
          obtain ⟨hv, rfl⟩ := value_listen_eq_ok_iff.1 hlisten
          obtain ⟨new, more, hnew, hrest, rfl⟩ := gives_bind_iff.1 hrest
          have hturn : Turn g cfg ⟨pointedAt, written, name :: waiting⟩
              ⟨pointedAt ++ (definition g cfg name).references, Entries.put written name v,
                waiting ++ new.filterMap Value.str?⟩ := .write hfirst hv hnew
          have hless := hturn.budget_lt
          have hrun := (ih (Nat.lt_of_lt_of_le hless (Nat.le_of_lt_succ hsteps))).1 hrest
          rw [List.append_assoc] at hrun
          exact .head hturn hrun
        · intro h
          rcases Relation.ReflTransGen.cases_head h with heq | ⟨w, hw, h⟩
          · exact absurd (congrArg WorkList.waiting heq) (List.cons_ne_nil _ _)
          · have hless := hw.budget_lt
            cases hw with
            | skip again => exact absurd again hfirst
            | @write _ _ _ _ v new first value joins =>
              -- what is pointed at from here on is the rest of what is pointed at
              obtain ⟨more, hmore⟩ := pointedAt_prefix h
              rw [List.append_assoc] at hmore
              obtain rfl := List.append_cancel_left hmore
              rw [← List.append_assoc] at h
              have hrest := (ih (Nat.lt_of_lt_of_le hless (Nat.le_of_lt_succ hsteps))).2 h
              exact ⟨(v, (definition g cfg name).run.notes), _,
                value_listen_eq_ok_iff.2 ⟨value, rfl⟩,
                gives_bind_iff.2 ⟨new, more, joins, hrest, rfl⟩, rfl⟩

end Compile

end FormGraph
