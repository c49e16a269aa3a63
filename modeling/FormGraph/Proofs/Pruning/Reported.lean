import FormGraph.Proofs.Pruning.Trimmed
import FormGraph.Proofs.SharedBranches
import FormGraph.Proofs.Writing.Members
import FormGraph.Proofs.Writing.Noting

/-!
# What is said of spare branches

The writer warns of the spare branches of a group before it writes the group, and the check of the graph
warns of them too (`Reported`). Of an `if` block the writer looks at the first clause only, which has the
branches of all of them. All other branches of the group stand in what is written of it
(`standsAsBranch_of_fragment`).
-/

namespace FormGraph

namespace Compiling

variable {α β : Type}

theorem run_bind_of_ok {x : Compiling α} {a : α} {notes : List CompileNote}
    (h : x.run = ⟨.ok a, notes⟩) (f : α → Compiling β) :
    (x >>= f).run = ⟨(f a).run.value, notes ++ (f a).run.notes⟩ := by
  have hrun : (x >>= f).run = x.run >>= fun r => (ExceptT.bindCont f r : Noted CompileNote _) := rfl
  rw [hrun, h]
  rfl

/-- A loop whose steps only take notes takes them one after the other. -/
theorem run_forIn {f : α → PUnit → Compiling (ForInStep PUnit)} {as : List α}
    (w : α → CompileNote) (h : ∀ a ∈ as, (f a ⟨⟩).run = ⟨.ok (.yield ⟨⟩), [w a]⟩) :
    (forIn as PUnit.unit f).run = ⟨.ok ⟨⟩, as.map w⟩ := by
  induction as with
  | nil =>
    rw [List.forIn_nil]
    rfl
  | cons a as ih =>
    rw [List.forIn_cons, run_bind_of_ok (h a List.mem_cons_self)]
    dsimp only
    rw [ih fun x hx => h x (List.mem_cons_of_mem _ hx)]
    rfl

theorem value_mapM (f : α → Compiling β) (as : List α) :
    (as.mapM f).run.value = as.mapM fun a => (f a).run.value := by
  induction as with
  | nil => rfl
  | cons a as ih =>
    rw [List.mapM_cons, List.mapM_cons, value_bind]
    simp only [value_bind, ih]
    rfl

end Compiling

/-! ## Where branches stand in what is written -/

/-- The value stands under the keyword of a branch where a clause of a group is written: in an entry of
its list, or, for an `if` block, in what is written itself. -/
def StandsAsBranch (kind : GroupKind) (written w : Value) : Prop :=
  ∃ clause : Members, (∃ keyword ∈ ["then", "else"], Entries.find? clause keyword = some w) ∧
    if kind = .ifBlock then written = .obj clause
    else ∃ members entries, written = .obj members ∧
      Entries.find? members kind.name = some (.list entries) ∧ .obj clause ∈ entries

namespace Compile

open Graph Compiling

variable {g : Graph} {cfg : DocumentConfig} {below : NodeId → Node NodeId → Compiling Value}

theorem branchUnder_ok {keyword : String} {target : Option NodeId} {ms : Members}
    (h : (branchUnder g below keyword target).run.value = .ok ms) :
    target = none ∧ ms = [] ∨
      ∃ t w, target = some t ∧ (branch g below t).run.value = .ok w ∧ ms = [(keyword, w)] := by
  cases target with
  | none => exact Or.inl ⟨rfl, (value_pure_eq_ok_iff.1 h).symm⟩
  | some t =>
    obtain ⟨w, hw, hms⟩ := value_bind_eq_ok_iff.1 h
    exact Or.inr ⟨t, w, rfl, hw, (value_pure_eq_ok_iff.1 hms).symm⟩

/-- A branch of a clause stands under its keyword among what is written of the clause, where no keyword
stands twice. -/
theorem find?_branches {c : Clause NodeId} {onTrue onFalse : Members} {k : EdgeKind} {t : NodeId}
    (ht : c.target k = some t)
    (htrue : (branchUnder g below "then" c.onTrue).run.value = .ok onTrue)
    (hfalse : (branchUnder g below "else" c.onFalse).run.value = .ok onFalse) (test : Value) :
    (Entries.names ([("if", test)] ++ onTrue ++ onFalse)).Nodup ∧
      ∃ w, (branch g below t).run.value = .ok w ∧ ∃ keyword ∈ ["then", "else"],
        Entries.find? ([("if", test)] ++ onTrue ++ onFalse) keyword = some w := by
  have htrue := branchUnder_ok htrue
  have hfalse := branchUnder_ok hfalse
  constructor
  · rcases htrue with ⟨_, rfl⟩ | ⟨_, _, _, _, rfl⟩ <;>
      rcases hfalse with ⟨_, rfl⟩ | ⟨_, _, _, _, rfl⟩ <;> simp [Entries.names]
  · cases k with
    | child => cases ht
    | thenBranch =>
      rcases htrue with ⟨hnone, _⟩ | ⟨u, w, hu, hw, rfl⟩
      · cases hnone.symm.trans ht
      · obtain rfl : u = t := Option.some.inj (hu.symm.trans ht)
        refine ⟨w, hw, "then", List.mem_cons_self, ?_⟩
        simp
    | elseBranch =>
      rcases hfalse with ⟨hnone, _⟩ | ⟨u, w, hu, hw, rfl⟩
      · cases hnone.symm.trans ht
      · obtain rfl : u = t := Option.some.inj (hu.symm.trans ht)
        refine ⟨w, hw, "else", List.mem_cons_of_mem _ List.mem_cons_self, ?_⟩
        rcases htrue with ⟨_, rfl⟩ | ⟨_, _, _, _, rfl⟩ <;> simp

theorem standsAsBranch_of_clause {kind : GroupKind} {c : Clause NodeId} {k : EdgeKind} {t : NodeId}
    {v : Value} (ht : c.target k = some t) (h : (clause g cfg below kind c).run.value = .ok v) :
    ∃ w, (branch g below t).run.value = .ok w ∧ ∃ clause, v = .obj clause ∧
      ∃ keyword ∈ ["then", "else"], Entries.find? clause keyword = some w := by
  unfold clause at h
  obtain ⟨test, _, h⟩ := value_bind_eq_ok_iff.1 h
  obtain ⟨onTrue, htrue, h⟩ := value_bind_eq_ok_iff.1 h
  obtain ⟨onFalse, hfalse, h⟩ := value_bind_eq_ok_iff.1 h
  obtain rfl := value_pure_eq_ok_iff.1 h
  obtain ⟨-, w, hw, keyword, hkeyword, hfind⟩ := find?_branches ht htrue hfalse (.obj test)
  exact ⟨w, hw, _, rfl, keyword, hkeyword, by rw [Entries.find?_append, hfind]; rfl⟩

/-- What a group has below a keyword that its body has is what the body has there. -/
theorem find?_group {n : Node NodeId} {body : Members} (hd : (Entries.names body).Nodup)
    {keyword : String} {w : Value} (h : Entries.find? body keyword = some w) :
    Entries.find? (withExtras n (Entries.putAll (annotations n) body)) keyword = some w := by
  rw [find?_withExtras, Entries.find?_putAll, Entries.find?_reverse hd, h]
  rfl

/-- What a group is written as. -/
theorem group_ok {id : NodeId} {n : Node NodeId} {kind : GroupKind} {cs : List (Clause NodeId)}
    {v : Value} (h : (group g cfg below id n kind cs).run.value = .ok v) :
    ∃ body, v = .obj (withExtras n (Entries.putAll (annotations n) body)) ∧
      (kind = .ifBlock ∧ (ifBlock g below cs).run.value = .ok body ∨
        kind ≠ .ifBlock ∧ ∃ entries, (cs.mapM (clause g cfg below kind)).run.value = .ok entries ∧
          body = [(kind.name, .list entries)]) := by
  unfold group at h
  obtain ⟨_, _, h⟩ := value_bind_eq_ok_iff.1 h
  cases kind with
  | ifBlock =>
    obtain ⟨body, hbody, h⟩ := value_bind_eq_ok_iff.1 h
    exact ⟨body, (value_pure_eq_ok_iff.1 h).symm, Or.inl ⟨rfl, hbody⟩⟩
  | allOf | anyOf | oneOf =>
    obtain ⟨entries, hentries, h⟩ := value_bind_eq_ok_iff.1 h
    exact ⟨_, (value_pure_eq_ok_iff.1 h).symm, Or.inr ⟨by decide, entries, hentries, rfl⟩⟩

/-- A branch that a clause names is written with the group and stands there under its keyword, if the
clauses of an `if` block all have the same branches. -/
theorem standsAsBranch_of_group {id : NodeId} {n : Node NodeId} {kind : GroupKind}
    {cs : List (Clause NodeId)}
    (hshared : kind = .ifBlock → ∀ c ∈ cs, ∀ d ∈ cs, c.branches = d.branches)
    {v : Value} (h : (group g cfg below id n kind cs).run.value = .ok v) {c : Clause NodeId}
    (hc : c ∈ cs) {k : EdgeKind} {t : NodeId} (ht : c.target k = some t) :
    ∃ w, (branch g below t).run.value = .ok w ∧ StandsAsBranch kind v w := by
  obtain ⟨body, rfl, ⟨rfl, hbody⟩ | ⟨hblock, entries, hentries, rfl⟩⟩ := group_ok h
  · obtain ⟨first, rest, rfl⟩ := List.exists_cons_of_ne_nil (List.ne_nil_of_mem hc)
    unfold ifBlock at hbody
    obtain ⟨tests, _, hbody⟩ := value_bind_eq_ok_iff.1 hbody
    obtain ⟨onTrue, htrue, hbody⟩ := value_bind_eq_ok_iff.1 hbody
    obtain ⟨onFalse, hfalse, hbody⟩ := value_bind_eq_ok_iff.1 hbody
    obtain rfl := value_pure_eq_ok_iff.1 hbody
    have hfirst : first.target k = some t := by
      rw [← ht]
      exact Clause.target_congr (hshared rfl first List.mem_cons_self c hc) k
    obtain ⟨hd, w, hw, keyword, hkeyword, hfind⟩ := find?_branches hfirst htrue hfalse _
    refine ⟨w, hw, _, ⟨keyword, hkeyword, find?_group (n := n) hd hfind⟩, ?_⟩
    rw [if_pos rfl]
    rfl
  · rw [value_mapM] at hentries
    obtain ⟨entry, hentry, hwritten⟩ := exists_of_forall₂ (mapM_eq_ok_iff.1 hentries) hc
    obtain ⟨w, hw, clause, rfl, hkeyword⟩ := standsAsBranch_of_clause ht hwritten
    refine ⟨w, hw, clause, hkeyword, ?_⟩
    rw [if_neg hblock]
    exact ⟨_, entries, rfl, find?_group (by simp [Entries.names]) (by simp), hentry⟩

/-! ## What is noted while a group is written -/

section Notes

variable {p : CompileNote → Prop}

theorem all_branchUnder_of_there {keyword : String} {target : Option NodeId}
    (h : ∀ t ∈ target, ∃ m, g.node? t = some m ∧ (below t m).run.All p) :
    (branchUnder g below keyword target).run.All p := by
  cases target with
  | none => exact all_pure _
  | some t =>
    obtain ⟨m, hm, hbelow⟩ := h t rfl
    have hbranch : (branch g below t).run.All p := by
      rw [branch_eq hm, ← bind_pure_comp]
      exact all_bind hbelow fun _ _ => all_pure _
    exact all_bind hbranch fun _ _ => all_pure _

/-- After the warnings about its spare branches, a group notes what its branches note. -/
theorem exists_notes_group {id : NodeId} {n : Node NodeId} {kind : GroupKind}
    {cs : List (Clause NodeId)} {unused : List CompileNote}
    (hunused : (noteUnused g id n).run = ⟨.ok (), unused⟩)
    (h : ∀ c ∈ cs, ∀ k, ∀ t ∈ c.target k, ∃ m, g.node? t = some m ∧ (below t m).run.All p) :
    ∃ rest, (group g cfg below id n kind cs).run.notes = unused ++ rest ∧ ∀ note ∈ rest, p note := by
  have hclause : ∀ kind, ∀ c ∈ cs, (clause g cfg below kind c).run.All p := fun kind c hc =>
    all_bind (all_ofExcept _) fun _ _ =>
      all_bind (all_branchUnder_of_there (h c hc .thenBranch)) fun _ _ =>
        all_bind (all_branchUnder_of_there (h c hc .elseBranch)) fun _ _ => all_pure _
  unfold group
  rw [run_bind_of_ok hunused]
  refine ⟨_, rfl, ?_⟩
  cases kind with
  | ifBlock =>
    refine all_bind ?_ fun _ _ => all_pure _
    cases cs with
    | nil => exact all_pure _
    | cons first rest =>
      have hfirst := h first List.mem_cons_self
      exact all_bind (all_ofExcept _) fun _ _ =>
        all_bind (all_branchUnder_of_there (hfirst .thenBranch)) fun _ _ =>
          all_bind (all_branchUnder_of_there (hfirst .elseBranch)) fun _ _ => all_pure _
  | allOf | anyOf | oneOf =>
    exact all_bind (all_mapM (hclause _)) fun _ _ => all_bind (all_pure _) fun _ _ => all_pure _

end Notes

end Compile

/-! ## The reports -/

namespace Graph

open Compile Compiling

variable {g : Graph} {id : NodeId} {n : Node NodeId} {kind : GroupKind}

/-- What the writer and the check say of the spare branches of a group. -/
structure Reported (g : Graph) (id : NodeId) (n : Node NodeId)
    (spare : List (NodeId × Node NodeId)) : Prop where
  /-- The branches are there. -/
  there : ∀ t ∈ spare, g.node? t.1 = some t.2
  /-- Whenever the group is written, they are warned of, one after the other, and what is noted beyond
  that is noted while the branches are written that clauses name. -/
  noted : ∀ cfg below, ∃ rest, (fragment g cfg below id n).run.notes =
      (spare.map fun t => .warning ("Branch '" ++ t.2.key ++ "' of '" ++ n.key ++
        "' is not used by any clause and is left out of the document")) ++ rest ∧
    ∀ note ∈ rest, ∃ k t m, g.Points id t k ∧ g.node? t = some m ∧ note ∈ (below t m).run.notes
  /-- The check of the group warns of them. -/
  checked : Check.unusedBranches g id n = .ok (spare.map fun t =>
    "Branch '" ++ t.2.key ++ "' of '" ++ n.key ++ "' is not used by any clause")
  /-- These warnings stand among those about the graph. -/
  listed : ∃ front back, Check.unreferencedBranches g = .ok (front ++ (spare.map fun t =>
    "Branch '" ++ t.2.key ++ "' of '" ++ n.key ++ "' is not used by any clause") ++ back)

theorem Node.body_of_isGroup (h : n.kind.isGroup = true) :
    ∃ kind, n.kind = .group kind ∧ n.body = .group kind n.clauses := by
  obtain ⟨_, body, _, _, _, _, _, _, _⟩ := n
  cases body with
  | group k cs => exact ⟨k, rfl, rfl⟩
  | string | number | boolean | enum | object | array | definition | reference => cases h

/-- A branch that a clause of a group names is written with the group and stands there under its
keyword. -/
theorem standsAsBranch_of_fragment (hshared : Shared g) (hn : g.node? id = some n)
    (hk : n.kind = .group kind) {cfg : DocumentConfig}
    {below : NodeId → Node NodeId → Compiling Value} {v : Value}
    (h : (fragment g cfg below id n).run.value = .ok v) {t : NodeId} {k : EdgeKind}
    (hp : g.Points id t k) :
    ∃ w, (branch g below t).run.value = .ok w ∧ StandsAsBranch kind v w := by
  obtain ⟨c, hc, ht⟩ := hp
  rw [clausesAt_of_node? hn] at hc
  obtain ⟨kind', hk', hbody⟩ := Node.body_of_isGroup (hk ▸ rfl : n.kind.isGroup = true)
  obtain rfl : kind' = kind := NodeKind.group.inj (hk'.symm.trans hk)
  unfold fragment at h
  rw [hbody] at h
  refine standsAsBranch_of_group (fun hblock => ?_) h hc ht
  subst hblock
  have heven := hshared (g.kind?_of_node? hn ▸ congrArg some hk)
  have hsame := heven.shared
  rwa [clausesAt_of_node? hn] at hsame

/-- Names of nodes that are there, with the nodes. -/
theorem exists_nodes {ids : List NodeId} (h : ∀ t ∈ ids, (g.node? t).isSome) :
    ∃ ps : List (NodeId × Node NodeId), ps.map Prod.fst = ids ∧ ∀ p ∈ ps, g.node? p.1 = some p.2 := by
  induction ids with
  | nil => exact ⟨[], rfl, fun p hp => absurd hp List.not_mem_nil⟩
  | cons t ids ih =>
    obtain ⟨m, hm⟩ := Option.isSome_iff_exists.1 (h t List.mem_cons_self)
    obtain ⟨ps, hps, hnodes⟩ := ih fun x hx => h x (List.mem_cons_of_mem _ hx)
    refine ⟨(t, m) :: ps, by rw [List.map_cons, hps], fun p hp => ?_⟩
    rcases List.mem_cons.1 hp with rfl | hp
    · exact hm
    · exact hnodes p hp

/-- The first clause of an `if` block names the branches that all of its clauses name. -/
theorem Even.unusedBranches_take (h : g.Even id) (hn : g.node? id = some n) :
    g.unusedBranches id (n.clauses.take 1) = g.unusedBranches id n.clauses := by
  have hsame : ∀ t, t ∈ (n.clauses.take 1).flatMap Clause.targets ↔
      t ∈ n.clauses.flatMap Clause.targets := by
    intro t
    have hshared := h.shared
    rw [clausesAt_of_node? hn] at hshared
    cases hcs : n.clauses with
    | nil => rfl
    | cons first rest =>
      rw [hcs] at hshared
      rw [List.take_succ_cons, List.take_zero, List.flatMap_singleton, List.mem_flatMap]
      refine ⟨fun ht => ⟨first, List.mem_cons_self, ht⟩, fun ⟨c, hc, ht⟩ => ?_⟩
      rw [Clause.mem_targets_iff] at ht ⊢
      obtain ⟨k, ht⟩ := ht
      exact ⟨k, (Clause.target_congr (hshared first List.mem_cons_self c hc) k).trans ht⟩
  unfold unusedBranches
  refine List.filter_congr fun e _ => ?_
  rw [Bool.eq_iff_iff]
  simp only [Bool.and_eq_true, Bool.not_eq_true', ← Bool.not_eq_true, List.contains_iff_mem, hsame]

section Reports

variable {spare : List (NodeId × Node NodeId)} (hids : spare.map Prod.fst = g.spareIds id n)
  (hthere : ∀ t ∈ spare, g.node? t.1 = some t.2)

include hids hthere

/-- What is made of the keys of the spare branches. -/
theorem map_unusedBranches {β : Type} (f : String → β) :
    ((g.unusedBranches id n.clauses).map fun e => f ((g.key? e.target).getD "")) =
      spare.map fun t => f t.2.key := by
  have hspare : ((g.unusedBranches id n.clauses).map fun e => f ((g.key? e.target).getD "")) =
      (g.spareIds id n).map fun t => f ((g.key? t).getD "") := by
    rw [spareIds, List.map_map]
    rfl
  rw [hspare, ← hids, List.map_map]
  refine List.map_congr_left fun t ht => ?_
  rw [Function.comp_apply, key?_of_node? (hthere t ht), Option.getD_some]

/-- The writer warns of the spare branches of a group. -/
theorem run_noteUnused (hf : Forest g) (hshared : Shared g) (hn : g.node? id = some n) :
    (noteUnused g id n).run = ⟨.ok (), spare.map fun t => .warning ("Branch '" ++ t.2.key ++
      "' of '" ++ n.key ++ "' is not used by any clause and is left out of the document")⟩ := by
  have hused : g.unusedBranches id
      (if n.kind = .group .ifBlock then n.clauses.take 1 else n.clauses) =
        g.unusedBranches id n.clauses := by
    split
    · next hk => exact (hshared (g.kind?_of_node? hn ▸ congrArg some hk)).unusedBranches_take hn
    · rfl
  unfold noteUnused
  dsimp only
  rw [hused, run_bind_of_ok (run_forIn (fun e => .warning ("Branch '" ++
    (g.key? e.target).getD "" ++ "' of '" ++ n.key ++
    "' is not used by any clause and is left out of the document")) fun e he => ?_)]
  · rw [map_unusedBranches hids hthere fun key => CompileNote.warning ("Branch '" ++ key ++ "' of '" ++ n.key ++
      "' is not used by any clause and is left out of the document")]
    exact congrArg (Noted.mk _) (List.append_nil _)
  · obtain ⟨m, hm⟩ := Option.isSome_iff_exists.1 (hf.target_present (List.mem_filter.1 he).1)
    rw [pointedAt_eq_ok_iff.2 hm, ofExcept_ok_bind, key?_of_node? hm]
    rfl

/-- The check warns of the spare branches of a group. -/
theorem check_unusedBranches (hf : Forest g) (hk : n.kind.isGroup = true) :
    Check.unusedBranches g id n = .ok (spare.map fun t =>
      "Branch '" ++ t.2.key ++ "' of '" ++ n.key ++ "' is not used by any clause") := by
  unfold Check.unusedBranches
  rw [if_pos hk, ← map_unusedBranches hids hthere fun key =>
    "Branch '" ++ key ++ "' of '" ++ n.key ++ "' is not used by any clause", mapM_eq_ok_iff,
    List.forall₂_map_right_iff, List.forall₂_same]
  intro e he
  obtain ⟨m, hm⟩ := Option.isSome_iff_exists.1 (hf.target_present (List.mem_filter.1 he).1)
  rw [pointedAt_eq_ok_iff.2 hm, key?_of_node? hm]
  rfl

end Reports

/-- The nodes of the spare branches of a group. -/
theorem Forest.exists_spare (hf : Forest g) (id : NodeId) (n : Node NodeId) :
    ∃ spare : List (NodeId × Node NodeId), spare.map Prod.fst = g.spareIds id n ∧
      ∀ t ∈ spare, g.node? t.1 = some t.2 := by
  refine exists_nodes fun t ht => ?_
  obtain ⟨e, he, rfl⟩ := List.mem_map.1 ht
  exact hf.target_present (List.mem_filter.1 he).1

/-- The check of all groups answers, and what it says of one group stands in its answer. -/
theorem Forest.unreferencedBranches_eq (hf : Forest g) (hn : g.node? id = some n)
    {reports : List String} (h : Check.unusedBranches g id n = .ok reports) :
    ∃ front back, Check.unreferencedBranches g = .ok (front ++ reports ++ back) := by
  obtain ⟨found, hfound⟩ : ∃ found, (g.nodes.entries.mapM fun e =>
      Check.unusedBranches g e.1 e.2) = .ok found := by
    refine isOk_mapM_iff.2 fun e _ => ?_
    obtain ⟨spare, hids, hthere⟩ := hf.exists_spare e.1 e.2
    cases hk : e.2.kind.isGroup with
    | true => exact ⟨_, check_unusedBranches hids hthere hf hk⟩
    | false =>
      refine ⟨[], ?_⟩
      unfold Check.unusedBranches
      rw [hk]
      rfl
  obtain ⟨_, hmem, hreports⟩ := exists_of_forall₂ (mapM_eq_ok_iff.1 hfound)
    (Table.mem_entries_iff.2 hn)
  obtain rfl := Except.ok.inj (h.symm.trans hreports)
  obtain ⟨front, back, rfl⟩ := List.append_of_mem hmem
  refine ⟨front.flatten, back.flatten, ?_⟩
  unfold Check.unreferencedBranches
  rw [hfound]
  dsimp only [bind, Except.bind]
  rw [List.flatten_append, List.flatten_cons, ← List.append_assoc]
  rfl

/-- The writer and the check speak of the same branches of a group: of those that no clause names. -/
theorem reported_of_shared {suits : EdgeKind → EdgeKind → Prop} (hs : Sound g)
    (ha : Attached suits g) (hshared : Shared g) (hn : g.node? id = some n)
    (hk : n.kind.isGroup = true) {spare : List (NodeId × Node NodeId)}
    (hids : spare.map Prod.fst = g.spareIds id n) (hthere : ∀ t ∈ spare, g.node? t.1 = some t.2) :
    Reported g id n spare := by
  have hf := hs.toForest
  have hchecked := check_unusedBranches hids hthere hf hk
  refine ⟨hthere, fun cfg below => ?_, hchecked, hf.unreferencedBranches_eq hn hchecked⟩
  obtain ⟨kind, -, hbody⟩ := Node.body_of_isGroup hk
  unfold fragment
  rw [hbody]
  refine exists_notes_group (run_noteUnused hids hthere hf hshared hn) fun c hc k t ht => ?_
  have hp : g.Points id t k := ⟨c, clausesAt_of_node? hn ▸ hc, ht⟩
  obtain ⟨m, hm⟩ := Option.isSome_iff_exists.1 (ha.target_present hf hp)
  exact ⟨m, hm, fun note hnote => ⟨k, t, m, hp, hm, hnote⟩⟩

end Graph

end FormGraph
