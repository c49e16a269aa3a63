import FormGraph.Proofs.Writing.Shown
import Mathlib.Data.List.Perm.Subperm
import Mathlib.Data.List.Dedup

/-!
# Writing a whole document

The definitions that are written are those that are wanted: all of them where all are to be written,
and otherwise those that can be reached from the root along references. The loop over the waiting
names finds exactly these (`Compile.gives_definitions`): each turn takes a name off those that wait,
and every name that joins them was not pointed at before, so the budget lasts.
-/

namespace FormGraph

/-! ## The order of targets -/

namespace Value

theorem str_same {v : Value} {s : String} : (Value.str s).same v = true ↔ v = .str s := by
  cases v with
  | str t =>
    rw [str.injEq]
    exact ⟨fun h => Option.some.inj (eq_of_beq h), fun h => beq_of_eq (congrArg some h)⟩
  | null | bool _ | int _ | float _ | list _ | obj _ => simp [same, str?]

/-- Of texts, each once. -/
theorem distinct_strings (texts : List String) :
    ∃ once : List String, distinct (texts.map .str) = once.map .str ∧ once.Nodup ∧
      ∀ s, s ∈ once ↔ s ∈ texts := by
  suffices h : ∀ seen : List String, seen.Nodup →
      ∃ once : List String,
        (texts.map Value.str).foldl (fun seen v => if seen.any v.same then seen else seen ++ [v])
          (seen.map .str) = once.map .str ∧ once.Nodup ∧ ∀ s, s ∈ once ↔ s ∈ seen ∨ s ∈ texts by
    obtain ⟨once, h₁, h₂, h₃⟩ := h [] List.nodup_nil
    exact ⟨once, h₁, h₂, fun s => by simpa using h₃ s⟩
  induction texts with
  | nil => exact fun seen hn => ⟨seen, rfl, hn, by simp⟩
  | cons t texts ih =>
    intro seen hn
    rw [List.map_cons, List.foldl_cons]
    have hany : (seen.map Value.str).any (Value.str t).same = true ↔ t ∈ seen := by
      simp [List.any_map, str_same]
    by_cases ht : t ∈ seen
    · rw [if_pos (hany.2 ht)]
      obtain ⟨once, h₁, h₂, h₃⟩ := ih seen hn
      refine ⟨once, h₁, h₂, fun s => (h₃ s).trans ?_⟩
      rw [List.mem_cons]
      constructor
      · tauto
      · rintro (h | rfl | h)
        · exact Or.inl h
        · exact Or.inl ht
        · exact Or.inr h
    · rw [if_neg (fun h => ht (hany.1 h))]
      have hn' : (seen ++ [t]).Nodup := List.nodup_append.2 ⟨hn, List.nodup_singleton t,
        fun a ha b hb hab => ht (by rw [List.mem_singleton] at hb; exact hb ▸ hab ▸ ha)⟩
      obtain ⟨once, h₁, h₂, h₃⟩ := ih (seen ++ [t]) hn'
      refine ⟨once, by rw [← h₁, List.map_append]; rfl, h₂, fun s => (h₃ s).trans ?_⟩
      simp [or_assoc]

/-- Texts can be sorted. -/
theorem ascending?_strings (texts : List String) :
    ∃ sorted : List String, ascending? (texts.map .str) = some (sorted.map .str) ∧ sorted.Nodup ∧
      ∀ s, s ∈ sorted ↔ s ∈ texts := by
  obtain ⟨once, h₁, h₂, h₃⟩ := distinct_strings texts
  have hcomparable : ∀ ts : List String, areComparable (ts.map Value.str) = true := by
    intro ts
    induction ts with
    | nil => rfl
    | cons t ts ih =>
      rw [List.map_cons, areComparable, ih, Bool.and_true, List.all_map]
      exact List.all_eq_true.2 fun _ _ => rfl
  refine ⟨once.mergeSort fun a b => ((Value.str a).le? (.str b)).getD false, ?_, ?_, ?_⟩
  · unfold ascending?
    rw [h₁, if_pos (hcomparable once), List.map_mergeSort]
    intro a _ b _
    rfl
  · exact (List.mergeSort_perm _ _).nodup_iff.2 h₂
  · intro s
    rw [List.mem_mergeSort, h₃]

end Value

namespace Compile

variable {g : Graph} {cfg : DocumentConfig}

/-! ## Definitions -/

/-- What is written of the definitions, and what they point at. -/
structure Contents (g : Graph) (cfg : DocumentConfig) where
  /-- The names of the definitions. -/
  table : List String
  /-- What a definition is written as. -/
  fragment : String → Value
  /-- The definitions that a definition points at. -/
  references : String → List String
  /-- No two definitions have one name. -/
  nodup : table.Nodup
  /-- Definitions point at definitions. -/
  closed : ∀ name ∈ table, ∀ r ∈ references name, r ∈ table
  /-- So they are written. -/
  gives : ∀ name ∈ table,
    (definition g cfg name).Gives (fragment name) ((references name).map .str)

/-- Where the loop over the waiting definitions stands: what was pointed at is written or waits, and
what is written points at what was pointed at. -/
structure Contents.Stands (c : Contents g cfg) (pointedAt : List String) (written : Members)
    (waiting : List String) : Prop where
  /-- What waits are definitions. -/
  waiting_mem : ∀ n ∈ waiting, n ∈ c.table
  /-- What was pointed at is written or waits. -/
  pointed : ∀ n ∈ pointedAt, n ∈ Entries.names written ∨ n ∈ waiting
  /-- What is written is written as it should be. -/
  fragment_eq : ∀ n v, Entries.find? written n = some v → v = c.fragment n
  /-- What is written points at what was pointed at. -/
  followed : ∀ n ∈ Entries.names written, ∀ r ∈ c.references n, r ∈ pointedAt

/-- What the loop leads to from where it stands: the least extension that follows references. -/
structure Contents.Leads (c : Contents g cfg) (written : Members) (waiting : List String)
    (result : Members) : Prop where
  /-- What is written is written as it should be. -/
  fragment_eq : ∀ n v, Entries.find? result n = some v → v = c.fragment n
  /-- What was written or waited is written. -/
  includes : ∀ n, n ∈ Entries.names written ∨ n ∈ waiting → n ∈ Entries.names result
  /-- What is written points at what is written. -/
  followed : ∀ n ∈ Entries.names result, ∀ r ∈ c.references n, r ∈ Entries.names result
  /-- Nothing else is written. -/
  least : ∀ P : String → Prop, (∀ n, n ∈ Entries.names written ∨ n ∈ waiting → P n) →
    (∀ n ∈ c.table, P n → ∀ r ∈ c.references n, P r) → ∀ n ∈ Entries.names result, P n

/-- What joins those that wait when a definition has been written. -/
theorem joining (pointedAt : List String) (written : Members) (found : List String) :
    ∃ new : List String,
      sortedTargets ((found.map Value.str).filter fun target =>
        !(pointedAt.map Value.str).any target.same && !target.str?.any (Entries.has written)) =
        .ok (new.map .str) ∧ new.Nodup ∧
      ∀ n, n ∈ new ↔ n ∈ found ∧ n ∉ pointedAt ∧ n ∉ Entries.names written := by
  have hfilter : ((found.map Value.str).filter fun target =>
      !(pointedAt.map Value.str).any target.same && !target.str?.any (Entries.has written)) =
      (found.filter fun n => !pointedAt.contains n && !Entries.has written n).map .str := by
    rw [List.filter_map]
    congr 2
    funext n
    have hany : (pointedAt.map Value.str).any (Value.str n).same = pointedAt.contains n := by
      rw [Bool.eq_iff_iff, List.any_map, List.any_eq_true, List.contains_iff_mem]
      simp [Value.str_same]
    rw [Function.comp_apply, hany]
    rfl
  obtain ⟨new, h₁, h₂, h₃⟩ := Value.ascending?_strings
    (found.filter fun n => !pointedAt.contains n && !Entries.has written n)
  refine ⟨new, ?_, h₂, fun n => (h₃ n).trans ?_⟩
  · rw [hfilter, sortedTargets, h₁]
    rfl
  · rw [List.mem_filter]
    simp [← Entries.has_eq_true_iff]

theorem filterMap_str (texts : List String) : (texts.map Value.str).filterMap Value.str? = texts := by
  rw [List.filterMap_map]
  exact List.filterMap_some

/-- Targets that are texts are those of their texts. -/
theorem map_filterMap_str {targets : List Value} (h : ∀ t ∈ targets, ∃ s, t = .str s) :
    (targets.filterMap Value.str?).map .str = targets := by
  induction targets with
  | nil => rfl
  | cons t targets ih =>
    obtain ⟨s, rfl⟩ := h t List.mem_cons_self
    rw [List.filterMap_cons]
    exact congrArg (Value.str s :: ·) (ih fun t ht => h t (List.mem_cons_of_mem _ ht))

/-- What joins a list of names takes the place of names that are left out from now on. -/
theorem length_add_filter_le {names new : List String} (before after : String → Prop)
    [DecidablePred before] [DecidablePred after] (hnames : names.Nodup) (hnodup : new.Nodup)
    (hnew : ∀ n ∈ new, n ∈ names ∧ before n ∧ ¬ after n) (hsub : ∀ n, after n → before n) :
    new.length + (names.filter fun n => after n).length ≤
      (names.filter fun n => before n).length := by
  rw [← List.length_append]
  refine (List.Nodup.subperm ?_ ?_).length_le
  · refine List.nodup_append.2 ⟨hnodup, hnames.filter _, fun a ha b hb hab => ?_⟩
    rw [List.mem_filter, decide_eq_true_eq] at hb
    exact (hnew a ha).2.2 (hab ▸ hb.2)
  · intro n hn
    rw [List.mem_filter, decide_eq_true_eq]
    rcases List.mem_append.1 hn with hn | hn
    · exact ⟨(hnew n hn).1, (hnew n hn).2.1⟩
    · rw [List.mem_filter, decide_eq_true_eq] at hn
      exact ⟨hn.1, hsub n hn.2⟩

/-- A turn of the loop leaves less than before: what joins those that wait had not been pointed
at. -/
theorem Contents.budget (c : Contents g cfg) {pointedAt found new : List String}
    (hfound : ∀ n ∈ found, n ∈ c.table) (hnodup : new.Nodup)
    (hnew : ∀ n ∈ new, n ∈ found ∧ n ∉ pointedAt) :
    new.length + (c.table.filter fun n => n ∉ pointedAt ++ found).length ≤
      (c.table.filter fun n => n ∉ pointedAt).length := by
  refine length_add_filter_le _ _ c.nodup hnodup (fun n hn => ?_) fun n hn h =>
    hn (List.mem_append_left _ h)
  obtain ⟨hmem, hnot⟩ := hnew n hn
  exact ⟨hfound n hmem, hnot, fun h => h (List.mem_append_right _ hmem)⟩

/-! ### One turn of the loop -/

namespace Contents

variable {c : Contents g cfg} {pointedAt new waiting : List String} {written result : Members}
  {name : String}

/-- A definition that waits and is written already is left out. -/
theorem Stands.skip (hs : c.Stands pointedAt written (name :: waiting))
    (hname : name ∈ Entries.names written) : c.Stands pointedAt written waiting where
  waiting_mem n hn := hs.waiting_mem n (List.mem_cons_of_mem _ hn)
  pointed n hn := by
    rcases hs.pointed n hn with h | h
    · exact Or.inl h
    · rcases List.mem_cons.1 h with rfl | h
      · exact Or.inl hname
      · exact Or.inr h
  fragment_eq := hs.fragment_eq
  followed := hs.followed

theorem Leads.skip (hl : c.Leads written waiting result) (hname : name ∈ Entries.names written) :
    c.Leads written (name :: waiting) result where
  fragment_eq := hl.fragment_eq
  includes n hn := by
    refine hl.includes n ?_
    rcases hn with h | h
    · exact Or.inl h
    · rcases List.mem_cons.1 h with rfl | h
      · exact Or.inl hname
      · exact Or.inr h
  followed := hl.followed
  least P hP := hl.least P fun n hn => hP n (hn.imp_right (List.mem_cons_of_mem _))

theorem mem_names_write (hname : name ∉ Entries.names written) {v : Value} {n : String} :
    n ∈ Entries.names (Entries.put written name v) ↔ n ∈ Entries.names written ∨ n = name := by
  rw [Entries.names_put, if_neg hname, List.mem_append, List.mem_singleton]

/-- One that is not is written, and what it points at joins those that wait. -/
theorem Stands.write (hs : c.Stands pointedAt written (name :: waiting))
    (hname : name ∉ Entries.names written)
    (hnew : ∀ n, n ∈ new ↔ n ∈ c.references name ∧ n ∉ pointedAt ∧
      n ∉ Entries.names (Entries.put written name (c.fragment name))) :
    c.Stands (pointedAt ++ c.references name) (Entries.put written name (c.fragment name))
      (waiting ++ new) where
  waiting_mem n hn := by
    rcases List.mem_append.1 hn with hn | hn
    · exact hs.waiting_mem n (List.mem_cons_of_mem _ hn)
    · exact c.closed name (hs.waiting_mem name List.mem_cons_self) n ((hnew n).1 hn).1
  pointed n hn := by
    have hold := hs.pointed n
    rw [List.mem_cons] at hold
    rw [List.mem_append] at hn
    rw [List.mem_append, hnew, mem_names_write hname]
    tauto
  fragment_eq n v hv := by
    rw [Entries.find?_put] at hv
    split_ifs at hv with heq
    · rw [← Option.some.inj hv, heq]
    · exact hs.fragment_eq n v hv
  followed n hn r hr := by
    rw [List.mem_append]
    rcases (mem_names_write hname).1 hn with h | rfl
    · exact Or.inl (hs.followed n h r hr)
    · exact Or.inr hr

theorem Leads.write (hs : c.Stands pointedAt written (name :: waiting))
    (hname : name ∉ Entries.names written) (hnew : ∀ n ∈ new, n ∈ c.references name)
    (hl : c.Leads (Entries.put written name (c.fragment name)) (waiting ++ new) result) :
    c.Leads written (name :: waiting) result where
  fragment_eq := hl.fragment_eq
  includes n hn := by
    refine hl.includes n ?_
    rw [mem_names_write hname, List.mem_append]
    rw [List.mem_cons] at hn
    tauto
  followed := hl.followed
  least P hP hstep := by
    have hbase : ∀ n, n ∈ Entries.names written ∨ n = name ∨ n ∈ waiting → P n :=
      fun n hn => hP n (hn.imp_right List.mem_cons.2)
    refine hl.least P ?_ hstep
    rintro n (hn | hn)
    · exact hbase n (((mem_names_write hname).1 hn).imp_right Or.inl)
    · rcases List.mem_append.1 hn with hn | hn
      · exact hbase n (Or.inr (Or.inr hn))
      · have hmem := hs.waiting_mem name List.mem_cons_self
        exact hstep name hmem (hbase name (Or.inr (Or.inl rfl))) n (hnew n hn)

/-- When nothing waits, what is written is all there is to write. -/
theorem Stands.leads (hs : c.Stands pointedAt written []) : c.Leads written [] written where
  fragment_eq := hs.fragment_eq
  includes n hn := by simpa using hn
  followed n hn r hr := by simpa using hs.pointed r (hs.followed n hn r hr)
  least _ hP _ n hn := hP n (Or.inl hn)

end Contents

/-- The loop over the waiting definitions ends when it has enough steps, by induction on them. -/
theorem gives_definitions (c : Contents g cfg) (steps : Nat) :
    ∀ (pointedAt : List String) (written : Members) (waiting : List String),
      c.Stands pointedAt written waiting →
      waiting.length + (c.table.filter fun n => n ∉ pointedAt).length < steps →
      ∃ (result : Members) (refs : List String),
        (definitions g cfg steps (pointedAt.map .str) written waiting).Gives result (refs.map .str) ∧
          (∀ r ∈ refs, r ∈ c.table) ∧ c.Leads written waiting result := by
  induction steps with
  | zero => exact fun _ _ _ _ h => absurd h (Nat.not_lt_zero _)
  | succ steps ih =>
    intro pointedAt written waiting hs hsteps
    cases waiting with
    | nil => exact ⟨written, [], .pure written, by simp, hs.leads⟩
    | cons name waiting =>
      unfold definitions
      rw [List.length_cons] at hsteps
      by_cases hhas : Entries.has written name = true
      · have hmem := Entries.has_eq_true_iff.1 hhas
        obtain ⟨result, refs, h₁, h₂, h₃⟩ := ih pointedAt written waiting (hs.skip hmem) (by omega)
        rw [if_pos hhas]
        exact ⟨result, refs, h₁, h₂, h₃.skip hmem⟩
      · have hnot : name ∉ Entries.names written := fun h => hhas (Entries.has_eq_true_iff.2 h)
        have hname : name ∈ c.table := hs.waiting_mem name List.mem_cons_self
        obtain ⟨new, hnew, hnodup, hmem⟩ := joining pointedAt
          (Entries.put written name (c.fragment name)) (c.references name)
        have hbudget := c.budget (c.closed name hname) hnodup fun n hn =>
          ⟨((hmem n).1 hn).1, ((hmem n).1 hn).2.1⟩
        obtain ⟨result, refs, h₁, h₂, h₃⟩ := ih _ _ _ (hs.write hnot hmem) (by
          rw [List.length_append]
          omega)
        have hgives := c.gives name hname
        refine ⟨result, c.references name ++ refs, ?_, fun r hr => ?_,
          .write hs hnot (fun n hn => ((hmem n).1 hn).1) h₃⟩
        · rw [if_neg hhas, List.map_append]
          refine hgives.listen.bind ?_
          dsimp only
          rw [hgives.2, hnew]
          refine (Compiling.Gives.ofExcept rfl).after ?_
          rw [filterMap_str, ← List.map_append]
          exact h₁
        · exact (List.mem_append.1 hr).elim (c.closed name hname r) (h₂ r)

end Compile

/-! ## What a document outline is written as -/

namespace DefinitionOutline

/-- What a definition is written as: its content, or an empty object when it has none. -/
def written (cfg : DocumentConfig) (e : DefinitionOutline) : Value :=
  match e.content with
  | none => .obj []
  | some o => o.written cfg

/-- What the pointers in a definition point at. -/
def references (e : DefinitionOutline) : List Value :=
  match e.content with
  | none => []
  | some o => o.references

end DefinitionOutline

namespace DocumentOutline

/-- The definitions that are written: all where that is asked for, and otherwise those that can be
reached from the root. -/
inductive Wanted (cfg : DocumentConfig) (d : DocumentOutline) : String → Prop where
  | all {e : DefinitionOutline} (emit : cfg.emitUnreferenced = true) (mem : e ∈ d.definitions) :
    Wanted cfg d e.name
  | root {name : String} (h : .str name ∈ d.root.references) : Wanted cfg d name
  | definition {e : DefinitionOutline} {name : String} (mem : e ∈ d.definitions)
    (wanted : Wanted cfg d e.name) (h : .str name ∈ e.references) : Wanted cfg d name

/-- The table of the definitions to keep, as it is written. -/
def table (cfg : DocumentConfig) (keep : String → Bool) (d : DocumentOutline) : Members :=
  (d.definitions.filter fun e => keep e.name).map fun e => (e.name, e.written cfg)

/-- What a document outline is written as, with the definitions to keep. -/
def written (cfg : DocumentConfig) (keep : String → Bool) (d : DocumentOutline) : Value :=
  let members := (d.root.written cfg).obj?.getD []
  .obj (if (d.table cfg keep).isEmpty then members
    else Entries.put members Compile.definitionsKeyword (.obj (d.table cfg keep)))

/-- The outline can be written: its parts can, no name is that of two definitions, and pointers point
at definitions. -/
structure Writable (d : DocumentOutline) : Prop where
  /-- The root can be written. -/
  root : d.root.Writable
  /-- The contents of the definitions can be written. -/
  content : ∀ e ∈ d.definitions, ∀ o, e.content = some o → o.Writable
  /-- No two definitions have one name. -/
  names : (d.definitions.map (·.name)).Nodup
  /-- The pointers in the root point at definitions. -/
  root_targets : ∀ t ∈ d.root.references, ∃ e ∈ d.definitions, t = .str e.name
  /-- So do those in the definitions. -/
  targets : ∀ e ∈ d.definitions, ∀ t ∈ e.references, ∃ e' ∈ d.definitions, t = .str e'.name

end DocumentOutline

namespace DocumentOutline

/-- The definition of a name. -/
def definition? (d : DocumentOutline) (name : String) : Option DefinitionOutline :=
  d.definitions.find? fun e => e.name = name

theorem Writable.definition?_of_mem {d : DocumentOutline} (hw : d.Writable) {e : DefinitionOutline}
    (he : e ∈ d.definitions) : d.definition? e.name = some e := by
  unfold definition?
  cases h : d.definitions.find? fun e' => decide (e'.name = e.name) with
  | none => simpa using List.find?_eq_none.1 h e he
  | some e' =>
    have hname : e'.name = e.name := by simpa using List.find?_some h
    rw [List.inj_on_of_nodup_map hw.names (List.mem_of_find?_eq_some h) he hname]

/-- What is wanted is a definition. -/
theorem Writable.mem_of_wanted {d : DocumentOutline} (hw : d.Writable) {cfg : DocumentConfig}
    {name : String} (h : d.Wanted cfg name) : ∃ e ∈ d.definitions, e.name = name := by
  cases h with
  | all _ mem => exact ⟨_, mem, rfl⟩
  | root h =>
    obtain ⟨e, he, heq⟩ := hw.root_targets _ h
    exact ⟨e, he, (Value.str.inj heq).symm⟩
  | definition mem _ h =>
    obtain ⟨e, he, heq⟩ := hw.targets _ mem _ h
    exact ⟨e, he, (Value.str.inj heq).symm⟩

end DocumentOutline

namespace Graph

/-- The node is a definition with the given content, not deeper than the graph is large. -/
def ShowsContent (g : Graph) (id : NodeId) : Option Outline → Prop
  | none => g.childIds id = []
  | some o => ∃ c, (g.childIds id).head? = some c ∧ g.Shows c o ∧ o.height ≤ Compile.depth g

/-- The graph shows the document: its root, and its definitions in order with their contents. -/
structure ShowsDocument (g : Graph) (d : DocumentOutline) : Prop where
  /-- The root is shown. -/
  root : g.Shows g.rootId d.root
  /-- It is not deeper than the graph is large. -/
  root_height : d.root.height ≤ Compile.depth g
  /-- The table of definitions has their names, in order. -/
  names : g.definitions.names = d.definitions.map (·.name)
  /-- The definitions have their contents. -/
  content : ∀ e ∈ d.definitions, ∀ id, g.definitions.find? e.name = some id →
    g.ShowsContent id e.content

end Graph

namespace Compile

open Graph

variable {g : Graph} {d : DocumentOutline} {cfg : DocumentConfig}

theorem gives_definition (hs : g.ShowsDocument d) (hw : d.Writable) {e : DefinitionOutline}
    (he : e ∈ d.definitions) : (definition g cfg e.name).Gives (e.written cfg) e.references := by
  obtain ⟨id, hid⟩ : ∃ id, g.definitions.find? e.name = some id := by
    rw [← Option.isSome_iff_exists, ← Table.mem_names_iff, hs.names]
    exact List.mem_map_of_mem he
  have hshows := hs.content e he id hid
  have hcontent : g.contentId? e.name = (g.childIds id).head? := by
    unfold contentId?
    rw [hid]
    rfl
  unfold definition content
  rw [hcontent]
  unfold DefinitionOutline.written DefinitionOutline.references
  cases hc : e.content with
  | none =>
    rw [hc] at hshows
    have hnone : g.childIds id = [] := hshows
    rw [hnone]
    exact (Compiling.Gives.ofExcept rfl).after (.pure _)
  | some o =>
    rw [hc] at hshows
    obtain ⟨c, hhead, hshow, hheight⟩ := hshows
    obtain ⟨f, hn⟩ := hshow.node?
    rw [hhead]
    have hread : ((some c).mapM fun id => return (id, ← g.pointedAt id)) =
        .ok (some (c, o.node.mapClauses (Clause.bindTargets f))) := by
      rw [Option.mapM_some, pointedAt_eq_ok_iff.2 hn]
      rfl
    exact (Compiling.Gives.ofExcept hread).after
      (hshow.writes (hw.content e he o hc) _ hheight _ hn)

/-- What the definitions of a document that is shown are written as. -/
def contentsOf (cfg : DocumentConfig) (hs : g.ShowsDocument d) (hw : d.Writable) : Contents g cfg where
  table := d.definitions.map (·.name)
  fragment name := (d.definition? name).elim .null (·.written cfg)
  references name := ((d.definition? name).elim [] (·.references)).filterMap Value.str?
  nodup := hw.names
  closed := by
    intro name hname r hr
    obtain ⟨e, he, rfl⟩ := List.mem_map.1 hname
    rw [hw.definition?_of_mem he, Option.elim_some, List.mem_filterMap] at hr
    obtain ⟨t, ht, hstr⟩ := hr
    obtain ⟨e', he', rfl⟩ := hw.targets e he t ht
    obtain rfl : e'.name = r := Option.some.inj hstr
    exact List.mem_map_of_mem he'
  gives := by
    intro name hname
    obtain ⟨e, he, rfl⟩ := List.mem_map.1 hname
    rw [hw.definition?_of_mem he, Option.elim_some, Option.elim_some,
      map_filterMap_str fun t ht => (hw.targets e he t ht).elim fun e' h => ⟨e'.name, h.2⟩]
    exact gives_definition hs hw he

theorem Contents.start (c : Contents g cfg) {names roots : List String}
    (hnames : ∀ n ∈ names, n ∈ c.table) (hroots : ∀ n ∈ roots, n ∈ names) :
    c.Stands roots [] names :=
  ⟨hnames, fun n hn => Or.inr (hroots n hn), fun _ _ h => by simp at h, fun _ h => by
    simp [Entries.names] at h⟩

/-- The definitions that the loop writes are those that are wanted. -/
theorem wanted_iff (hs : g.ShowsDocument d) (hw : d.Writable) {written : Members}
    (h : (contentsOf cfg hs hw).Leads []
      ((d.definitions.map (·.name)).filter fun n =>
        cfg.emitUnreferenced || d.root.references.contains (.str n)) written) (name : String) :
    name ∈ Entries.names written ↔ d.Wanted cfg name := by
  have hstart : ∀ n, n ∈ (d.definitions.map (·.name)).filter (fun n =>
      cfg.emitUnreferenced || d.root.references.contains (.str n)) ↔
      n ∈ d.definitions.map (·.name) ∧
        (cfg.emitUnreferenced = true ∨ .str n ∈ d.root.references) := by
    intro n
    rw [List.mem_filter, Bool.or_eq_true, List.contains_iff_mem]
  constructor
  · refine h.least (d.Wanted cfg) (fun n hn => ?_) (fun n hn hwanted r hr => ?_) name
    · rcases hn with hn | hn
      · simp [Entries.names] at hn
      · obtain ⟨hmem, hemit | hroot⟩ := (hstart n).1 hn
        · obtain ⟨e, he, rfl⟩ := List.mem_map.1 hmem
          exact .all hemit he
        · exact .root hroot
    · obtain ⟨e, he, rfl⟩ := List.mem_map.1 hn
      have hr' : r ∈ ((d.definition? e.name).elim [] (·.references)).filterMap Value.str? := hr
      rw [hw.definition?_of_mem he, Option.elim_some, List.mem_filterMap] at hr'
      obtain ⟨t, ht, hstr⟩ := hr'
      obtain ⟨e', _, rfl⟩ := hw.targets e he t ht
      obtain rfl : e'.name = r := Option.some.inj hstr
      exact .definition he hwanted ht
  · intro hwanted
    induction hwanted with
    | all hemit he =>
      exact h.includes _ (Or.inr ((hstart _).2 ⟨List.mem_map_of_mem he, Or.inl hemit⟩))
    | root hroot =>
      obtain ⟨e, he, heq⟩ := hw.root_targets _ hroot
      obtain rfl := Value.str.inj heq
      exact h.includes _ (Or.inr ((hstart _).2 ⟨List.mem_map_of_mem he, Or.inr hroot⟩))
    | @definition e r he _ hr ih =>
      refine h.followed e.name ih r ?_
      show r ∈ ((d.definition? e.name).elim [] (·.references)).filterMap Value.str?
      rw [hw.definition?_of_mem he, Option.elim_some]
      exact List.mem_filterMap.2 ⟨_, hr, rfl⟩

/-- The table in the document is that of the definitions that were written. -/
theorem table_eq (hs : g.ShowsDocument d) (hw : d.Writable) {written : Members}
    (h : ∀ n v, Entries.find? written n = some v → v = (contentsOf cfg hs hw).fragment n) :
    (g.definitions.names.filterMap fun n =>
      (Entries.find? written n).map fun fragment => (n, fragment)) =
      d.table cfg (Entries.has written) := by
  rw [hs.names, List.filterMap_map, DocumentOutline.table]
  suffices hall : ∀ es : List DefinitionOutline, (∀ e ∈ es, e ∈ d.definitions) →
      es.filterMap ((fun n => (Entries.find? written n).map fun fragment => (n, fragment)) ∘
        fun e => e.name) =
      (es.filter fun e => Entries.has written e.name).map fun e => (e.name, e.written cfg) from
    hall _ fun _ he => he
  intro es hes
  induction es with
  | nil => rfl
  | cons e es ih =>
    have hrest := ih fun e he => hes e (List.mem_cons_of_mem _ he)
    rw [List.filterMap_cons, List.filter_cons, hrest, Function.comp_apply, Entries.has]
    cases hfind : Entries.find? written e.name with
    | none => rfl
    | some v =>
      have hv : v = ((d.definition? e.name).elim .null (·.written cfg)) := h _ _ hfind
      rw [hw.definition?_of_mem (hes e List.mem_cons_self), Option.elim_some] at hv
      rw [hv]
      rfl

/-- What is written of a document that is shown: all but the definitions that nobody wants. -/
theorem gives_document (cfg : DocumentConfig) (hs : g.ShowsDocument d) (hw : d.Writable)
    (hfew : g.definitions.size ≤ g.nodes.size) :
    ∃ (keep : String → Bool) (refs : List Value), (∀ name, keep name = true ↔ d.Wanted cfg name) ∧
      (∀ t ∈ refs, ∃ e ∈ d.definitions, t = .str e.name) ∧
      (document g cfg).Gives (d.written cfg keep) refs := by
  obtain ⟨f, hn⟩ := hs.root.node?
  have hroot : (node g cfg (depth g) g.rootId _).Gives (d.root.written cfg) d.root.references :=
    hs.root.writes hw.root _ hs.root_height _ hn
  have htexts : (d.root.references.filterMap Value.str?).map .str = d.root.references :=
    map_filterMap_str fun t ht => (hw.root_targets t ht).elim fun e h => ⟨e.name, h.2⟩
  have hlength : (d.definitions.map (·.name)).length = g.definitions.size := by
    rw [← hs.names, Table.names, Entries.names, List.length_map, Table.size]
  obtain ⟨written, refs, hgives, hrefs, hleads⟩ := gives_definitions
    (contentsOf cfg hs hw) (g.definitions.size + g.nodes.size + 1)
    (d.root.references.filterMap Value.str?) []
    ((d.definitions.map (·.name)).filter fun n =>
      cfg.emitUnreferenced || d.root.references.contains (.str n))
    ((contentsOf cfg hs hw).start
      (fun n hn => show n ∈ d.definitions.map (·.name) from (List.mem_filter.1 hn).1) fun n hn => by
      obtain ⟨t, ht, hstr⟩ := List.mem_filterMap.1 hn
      obtain ⟨e, he, rfl⟩ := hw.root_targets t ht
      obtain rfl : e.name = n := Option.some.inj hstr
      rw [List.mem_filter, Bool.or_eq_true, List.contains_iff_mem]
      exact ⟨List.mem_map_of_mem he, Or.inr ht⟩)
    (by
      have h₁ := List.length_filter_le (fun n =>
        cfg.emitUnreferenced || d.root.references.contains (.str n)) (d.definitions.map (·.name))
      have h₂ := List.length_filter_le
        (fun n => decide (n ∉ d.root.references.filterMap Value.str?))
        (contentsOf cfg hs hw).table
      have h₃ : (contentsOf cfg hs hw).table.length = g.definitions.size := hlength
      omega)
  have hwanted := wanted_iff hs hw hleads
  refine ⟨Entries.has written, d.root.references ++ refs.map .str, fun name => ?_, ?_, ?_⟩
  · rw [Entries.has_eq_true_iff, hwanted]
  · intro t ht
    rcases List.mem_append.1 ht with ht | ht
    · exact hw.root_targets t ht
    · obtain ⟨r, hr, rfl⟩ := List.mem_map.1 ht
      obtain ⟨e, he, rfl⟩ := List.mem_map.1 (hrefs r hr)
      exact ⟨e, he, rfl⟩
  · unfold document
    refine (Compiling.Gives.ofExcept (pointedAt_eq_ok_iff.2 hn)).after (hroot.listen.bind ?_)
    dsimp only
    rw [hroot.2, hs.names]
    rw [htexts] at hgives
    refine hgives.andThen ((Compiling.Gives.pure _).congr ?_ rfl)
    rw [← hs.names, table_eq hs hw hleads.fragment_eq]
    have hempty : written.isEmpty = (d.table cfg (Entries.has written)).isEmpty := by
      rw [Bool.eq_iff_iff, List.isEmpty_iff, List.isEmpty_iff, DocumentOutline.table,
        List.map_eq_nil_iff, List.filter_eq_nil_iff]
      constructor
      · rintro rfl e _ h
        simp [Entries.has] at h
      · intro h
        refine List.eq_nil_iff_forall_not_mem.2 fun m hm => ?_
        have hmem : m.1 ∈ Entries.names written := List.mem_map_of_mem hm
        obtain ⟨e, he, hname⟩ := hw.mem_of_wanted ((hwanted m.1).1 hmem)
        exact h e he (hname ▸ Entries.has_eq_true_iff.2 hmem)
    rw [hempty]
    rfl

end Compile

namespace Graph

variable {g : Graph} {d : DocumentOutline}

/-- Writing a graph that shows a document succeeds, and writes what the document is written as. -/
theorem ShowsDocument.compile (hs : g.ShowsDocument d) (hw : d.Writable)
    (hfew : g.definitions.size ≤ g.nodes.size) (cfg : DocumentConfig) :
    ∃ (keep : String → Bool) (r : Compile.Result), (∀ name, keep name = true ↔ d.Wanted cfg name) ∧
      g.compile cfg = .ok r ∧ r.document = d.written cfg keep := by
  obtain ⟨keep, refs, hkeep, hrefs, hvalue, hnotes⟩ := Compile.gives_document cfg hs hw hfew
  have hmissing : refs.filter (fun target => !target.str?.any g.definitions.has) = [] := by
    rw [List.filter_eq_nil_iff]
    intro t ht
    obtain ⟨e, he, rfl⟩ := hrefs t ht
    have hmem : e.name ∈ g.definitions.names := by
      rw [hs.names]
      exact List.mem_map_of_mem he
    rw [Table.mem_names_iff, ← Table.has_eq] at hmem
    simp [Value.str?, hmem]
  unfold Graph.compile
  dsimp only
  rw [hvalue, hnotes]
  dsimp only [bind, Except.bind]
  rw [hmissing]
  exact ⟨keep, _, hkeep, rfl, rfl⟩

end Graph

end FormGraph
