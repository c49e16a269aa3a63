import FormGraph.Proofs.Tables
import FormGraph.Widget.Registry

/-!
# The lists of a registry

A registry keeps the names of its widgets a second time, by the kinds that they show. `Consistent` says
that the lists by kind and the table of widgets tell the same, and that no rule asks for a widget that
is not there. Calls that go through and calls that fail keep it so, and a call that fails changes
nothing, with one exception: a widget that names a kind twice is on the list of that kind once, and to
take it off that list for every time the kind is named fails halfway (`strands`). From then on the
lists lack a widget (`consistent_iff_of_reached`). They never list one too many (`Listed`).
-/

namespace FormGraph

namespace Registry

variable {r r' : Registry} {id : String} {k : NodeKind}

/-! ## Calls -/

/-- A call that changes a registry. -/
inductive Call where
  /-- Register a widget, or replace the one of its name. -/
  | register (w : Widget)
  /-- Add a rule. -/
  | addRule (rule : WidgetRule)
  /-- Take nothing more. -/
  | freeze

/-- What comes of a call, and the registry after it, whether or not it went through. -/
def call (r : Registry) : Call → Except Fault Unit × Registry
  | .register w => (register w).run.run r
  | .addRule rule =>
    match r.addRule rule with
    | .ok r' => (.ok (), r')
    | .error e => (.error e, r)
  | .freeze => (.ok (), r.freeze)

/-- The call replaces a widget that names a kind twice by one that does not show that kind. -/
def strands (r : Registry) : Call → Bool
  | .register w => !r.frozen && !decide (r.droppedKinds w).Nodup
  | _ => false

/-- Calls lead from the empty registry to this one; some of them may have failed. -/
inductive Reached (allowed : Registry → Call → Prop) : Registry → Prop where
  /-- The empty registry. -/
  | empty : Reached allowed Registry.empty
  /-- What an allowed call leaves. -/
  | call {r : Registry} {c : Call} (before : Reached allowed r) (permitted : allowed r c) :
    Reached allowed (r.call c).2

/-! ## One list -/

theorem idsFor_setIds (ids : List String) (k' : NodeKind) :
    { r with byKind := setIds r.byKind k ids }.idsFor k' = if k = k' then ids else r.idsFor k' := by
  unfold idsFor setIds
  dsimp only
  split
  · next hany =>
    have hsame : ((fun e : NodeKind × List String => decide (e.1 = k')) ∘
        fun e : NodeKind × List String => if e.1 = k then (k, ids) else e) =
        fun e => decide (e.1 = k') := by
      funext e
      rw [Function.comp_apply]
      split
      · next he => rw [he]
      · rfl
    rw [List.find?_map, hsame, Option.map_map]
    cases hfind : r.byKind.find? fun e => decide (e.1 = k') with
    | none =>
      rw [if_neg]
      · rfl
      · rintro rfl
        obtain ⟨e, he, hk⟩ := List.any_eq_true.1 hany
        exact absurd hk (List.find?_eq_none.1 hfind e he)
    | some e =>
      have he : e.1 = k' := by simpa using List.find?_some hfind
      simp only [Option.map_some, Function.comp_apply, Option.getD_some, he, eq_comm (a := k')]
      split <;> rfl
  · next hnone =>
    rw [List.find?_append]
    by_cases hk : k = k'
    · subst hk
      have hfind : (r.byKind.find? fun e => decide (e.1 = k)) = none :=
        List.find?_eq_none.2 fun e he hek => hnone (List.any_eq_true.2 ⟨e, he, hek⟩)
      rw [hfind, if_pos rfl]
      simp
    · simp [hk]

/-- A widget is taken off one list. -/
def unlist (r : Registry) (id : String) (k : NodeKind) : Registry :=
  { r with byKind := setIds r.byKind k ((r.idsFor k).erase id) }

theorem idsFor_unlist (r : Registry) (id : String) (k k' : NodeKind) :
    (r.unlist id k).idsFor k' = if k = k' then (r.idsFor k').erase id else r.idsFor k' := by
  rw [unlist, idsFor_setIds]
  split
  · next hk => rw [hk]
  · rfl

/-- A widget is put at the end of a list that lacks it. -/
def enter (r : Registry) (id : String) (k : NodeKind) : Registry :=
  if (r.idsFor k).contains id then r
  else { r with byKind := setIds r.byKind k (r.idsFor k ++ [id]) }

theorem idsFor_enter (r : Registry) (id : String) (k k' : NodeKind) : (r.enter id k).idsFor k' =
    if k = k' ∧ id ∉ r.idsFor k' then r.idsFor k' ++ [id] else r.idsFor k' := by
  unfold enter
  by_cases hid : id ∈ r.idsFor k
  · rw [if_pos (List.contains_iff_mem.2 hid), if_neg]
    rintro ⟨rfl, hnot⟩
    exact hnot hid
  · rw [if_neg fun h => hid (List.contains_iff_mem.1 h), idsFor_setIds]
    by_cases hk : k = k'
    · subst hk
      rw [if_pos rfl, if_pos ⟨rfl, hid⟩]
    · rw [if_neg hk, if_neg fun h => hk h.1]

theorem enlist_cons (r : Registry) (id : String) (k : NodeKind) (kinds : List NodeKind) :
    r.enlist id (k :: kinds) = (r.enter id k).enlist id kinds := rfl

/-- A widget comes to the end of the lists of its kinds, where it is not there yet. -/
theorem idsFor_enlist (id : String) (kinds : List NodeKind) (k : NodeKind) : ∀ r : Registry,
    (r.enlist id kinds).idsFor k =
      if k ∈ kinds ∧ id ∉ r.idsFor k then r.idsFor k ++ [id] else r.idsFor k := by
  induction kinds with
  | nil => exact fun r => (if_neg fun h => List.not_mem_nil h.1).symm
  | cons first kinds ih =>
    intro r
    rw [enlist_cons, ih, idsFor_enter]
    by_cases hid : id ∈ r.idsFor k
    · simp [hid]
    · by_cases hk : first = k
      · simp [hk, hid]
      · simp [hk, Ne.symm hk, hid]

theorem enlist_same (id : String) (kinds : List NodeKind) : ∀ r : Registry,
    r.enlist id kinds = { r with byKind := (r.enlist id kinds).byKind } := by
  induction kinds with
  | nil => exact fun _ => rfl
  | cons k kinds ih =>
    intro r
    rw [enlist_cons, ih]
    unfold enter
    split <;> rfl

/-! ## Taking a widget off lists -/

theorem withdraw_cons (id : String) (k : NodeKind) (kinds : List NodeKind) (r : Registry) :
    (withdraw id (k :: kinds)).run.run r =
      if id ∈ r.idsFor k then (withdraw id kinds).run.run (r.unlist id k)
      else (.error .unlistedWidget, r) := by
  show ((ite ((!(r.idsFor k).contains id) = true) _ _ : Registration Unit).run).run r = _
  by_cases hid : id ∈ r.idsFor k
  · rw [if_pos hid, List.contains_iff_mem.2 hid]
    rfl
  · have hcontains : (r.idsFor k).contains id = false := by simpa using hid
    rw [if_neg hid, hcontains]
    rfl

/-- What taking a widget off the lists of some kinds leaves, also where it fails on the way. -/
structure Withdrawn (r r' : Registry) (id : String) (kinds : List NodeKind) : Prop where
  /-- Only lists change. -/
  same : r' = { r with byKind := r'.byKind }
  /-- They lose widgets and keep their order. -/
  sublist : ∀ k, (r'.idsFor k).Sublist (r.idsFor k)
  /-- They lose no other widget. -/
  others : ∀ {k x}, x ≠ id → x ∈ r.idsFor k → x ∈ r'.idsFor k
  /-- The lists of other kinds stay. -/
  kept : ∀ {k}, k ∉ kinds → r'.idsFor k = r.idsFor k

theorem withdrawn_withdraw (id : String) (kinds : List NodeKind) :
    ∀ r : Registry, Withdrawn r ((withdraw id kinds).run.run r).2 id kinds := by
  induction kinds with
  | nil => exact fun r => ⟨rfl, fun _ => List.Sublist.refl _, fun _ hx => hx, fun _ => rfl⟩
  | cons k kinds ih =>
    intro r
    rw [withdraw_cons]
    split
    · obtain ⟨hsame, hsub, hothers, hkept⟩ := ih (r.unlist id k)
      refine ⟨hsame, fun k' => (hsub k').trans ?_, fun {k' x} hx hmem => hothers hx ?_,
        fun {k'} hk' => ?_⟩
      · rw [idsFor_unlist]
        split
        · exact List.erase_sublist
        · exact List.Sublist.refl _
      · rw [idsFor_unlist]
        split
        · exact (List.mem_erase_of_ne hx).2 hmem
        · exact hmem
      · rw [List.mem_cons, not_or] at hk'
        rw [hkept hk'.2, idsFor_unlist, if_neg (Ne.symm hk'.1)]
    · exact ⟨rfl, fun _ => List.Sublist.refl _, fun _ hx => hx, fun _ => rfl⟩

theorem nodup_unlist (hd : ∀ k, (r.idsFor k).Nodup) (id : String) (k k' : NodeKind) :
    ((r.unlist id k).idsFor k').Nodup := by
  rw [idsFor_unlist]
  split
  · exact (hd k').erase id
  · exact hd k'

/-- A widget is taken off the lists of some kinds if no kind is named twice and all of them list it. -/
theorem withdraw_ok_iff (id : String) (kinds : List NodeKind) :
    ∀ {r : Registry}, (∀ k, (r.idsFor k).Nodup) →
      (((withdraw id kinds).run.run r).1 = .ok () ↔
        kinds.Nodup ∧ ∀ k ∈ kinds, id ∈ r.idsFor k) := by
  induction kinds with
  | nil => exact fun _ => iff_of_true rfl ⟨List.nodup_nil, fun _ h => absurd h List.not_mem_nil⟩
  | cons k kinds ih =>
    intro r hd
    rw [withdraw_cons, List.nodup_cons, List.forall_mem_cons]
    by_cases hid : id ∈ r.idsFor k
    · have hrest : ∀ k', id ∈ (r.unlist id k).idsFor k' ↔ k' ≠ k ∧ id ∈ r.idsFor k' := by
        intro k'
        rw [idsFor_unlist]
        by_cases hk : k = k'
        · rw [if_pos hk, (hd k').mem_erase_iff]
          exact iff_of_false (fun h => h.1 rfl) fun h => h.1 hk.symm
        · rw [if_neg hk]
          exact (and_iff_right (Ne.symm hk)).symm
      rw [if_pos hid, ih (nodup_unlist hd id k)]
      simp only [hrest]
      constructor
      · rintro ⟨hn, hl⟩
        exact ⟨⟨fun hk => (hl k hk).1 rfl, hn⟩, hid, fun k' hk' => (hl k' hk').2⟩
      · rintro ⟨⟨hk, hn⟩, -, hl⟩
        exact ⟨hn, fun k' hk' => ⟨fun heq => hk (heq ▸ hk'), hl k' hk'⟩⟩
    · rw [if_neg hid]
      exact iff_of_false (fun h => nomatch h) fun h => hid h.2.1

/-- Where a widget was taken off all lists, none of them has it any more; where that failed, one of
them has not. -/
theorem not_mem_of_withdraw (id : String) (kinds : List NodeKind) :
    ∀ {r : Registry}, (∀ k, (r.idsFor k).Nodup) →
      (((withdraw id kinds).run.run r).1 = .ok () →
        ∀ k ∈ kinds, id ∉ ((withdraw id kinds).run.run r).2.idsFor k) ∧
      (((withdraw id kinds).run.run r).1 ≠ .ok () →
        ∃ k ∈ kinds, id ∉ ((withdraw id kinds).run.run r).2.idsFor k) := by
  induction kinds with
  | nil => exact fun _ => ⟨fun _ _ h => absurd h List.not_mem_nil, fun h => absurd rfl h⟩
  | cons k kinds ih =>
    intro r hd
    obtain ⟨hok, -⟩ := ih (nodup_unlist hd id k)
    have hgone : id ∉ ((withdraw id kinds).run.run (r.unlist id k)).2.idsFor k := by
      intro hmem
      have hmem := ((withdrawn_withdraw id kinds (r.unlist id k)).sublist k).subset hmem
      rw [idsFor_unlist, if_pos rfl, (hd k).mem_erase_iff] at hmem
      exact hmem.1 rfl
    rw [withdraw_cons]
    by_cases hid : id ∈ r.idsFor k
    · rw [if_pos hid]
      exact ⟨fun h => List.forall_mem_cons.2 ⟨hgone, hok h⟩,
        fun _ => ⟨k, List.mem_cons_self, hgone⟩⟩
    · rw [if_neg hid]
      exact ⟨(fun h => nomatch h), fun _ => ⟨k, List.mem_cons_self, hid⟩⟩

/-! ## Registering a widget -/

/-- A widget takes its place in the table and on the lists of its kinds. -/
def settle (r : Registry) (w : Widget) : Registry :=
  { r with widgets := r.widgets.put w.id w }.enlist w.id w.kinds

theorem find?_settle (r : Registry) (w : Widget) (x : String) :
    (r.settle w).find? x = if w.id = x then some w else r.find? x := by
  rw [settle, enlist_same]
  exact Table.find?_put r.widgets w.id w x

theorem idsFor_settle (r : Registry) (w : Widget) (k : NodeKind) : (r.settle w).idsFor k =
    if k ∈ w.kinds ∧ w.id ∉ r.idsFor k then r.idsFor k ++ [w.id] else r.idsFor k :=
  idsFor_enlist w.id w.kinds k _

theorem rules_settle (r : Registry) (w : Widget) : (r.settle w).rules = r.rules := by
  rw [settle, enlist_same]

theorem mem_idsFor_settle {w : Widget} {x : String} :
    x ∈ (r.settle w).idsFor k ↔ x ∈ r.idsFor k ∨ x = w.id ∧ k ∈ w.kinds := by
  rw [idsFor_settle]
  split
  · next h =>
    rw [List.mem_append, List.mem_singleton]
    exact or_congr_right (and_iff_left h.1).symm
  · next h =>
    refine (or_iff_left_of_imp ?_).symm
    rintro ⟨rfl, hk⟩
    by_contra hid
    exact h ⟨hk, hid⟩

theorem mem_droppedKinds {w : Widget} : k ∈ r.droppedKinds w ↔
    ∃ old, r.find? w.id = some old ∧ k ∈ old.kinds ∧ k ∉ w.kinds := by
  unfold droppedKinds find?
  cases r.widgets.find? w.id with
  | none => simp
  | some old => simp

theorem call_register_frozen (w : Widget) (hf : r.frozen = true) :
    r.call (.register w) = (.error (.refused (.frozenWidget w.id)), r) := by
  show ((ite (r.frozen = true) _ _ : Registration Unit).run).run r = _
  rw [hf]
  rfl

/-- A registration that is not refused takes the old widget off lists, and if that goes through puts
the new one in its place. -/
theorem call_register (w : Widget) (hf : r.frozen = false) : r.call (.register w) =
    match (withdraw w.id (r.droppedKinds w)).run.run r with
    | (.ok (), r') => (.ok (), r'.settle w)
    | (.error e, r') => (.error e, r') := by
  show ((ite (r.frozen = true) _ _ : Registration Unit).run).run r = _
  rw [hf, if_neg Bool.false_ne_true, ExceptT.run_bind, StateT.run_bind]
  generalize (withdraw w.id (r.droppedKinds w)).run.run r = result
  obtain ⟨_ | _, r'⟩ := result <;> rfl

theorem call_addRule (rule : WidgetRule) : r.call (.addRule rule) =
    if r.frozen then (.error (.refused (.frozenRule rule.widgetId)), r)
    else if r.widgets.has rule.widgetId then (.ok (), { r with rules := r.rules ++ [rule] })
    else (.error (.refused (.unknownWidget rule.widgetId)), r) := by
  cases hf : r.frozen with
  | true => simp [call, addRule, hf, refuse]
  | false => cases hhas : r.widgets.has rule.widgetId <;> simp [call, addRule, hf, hhas, refuse]

/-! ## What holds after any calls -/

/-- The lists name widgets that are there and show the kind, each once, and rules ask for widgets that
are there. -/
structure Listed (r : Registry) : Prop where
  /-- A widget is found under its name. -/
  named : ∀ {id w}, r.find? id = some w → w.id = id
  /-- A list names a widget once. -/
  distinct : ∀ k, (r.idsFor k).Nodup
  /-- The widgets on a list are there, and show the kind. -/
  shown : ∀ {k id}, id ∈ r.idsFor k → ∃ w, r.find? id = some w ∧ k ∈ w.kinds
  /-- Rules ask for widgets that are there. -/
  rules : ∀ rule ∈ r.rules, ∃ w, r.find? rule.widgetId = some w

theorem listed_empty : Listed empty :=
  ⟨(fun h => nomatch h), fun _ => List.nodup_nil, (fun h => nomatch h), fun _ h => nomatch h⟩

theorem Withdrawn.find?_eq {kinds : List NodeKind} (hw : Withdrawn r r' id kinds) (x : String) :
    r'.find? x = r.find? x := by
  rw [hw.same]
  rfl

theorem Withdrawn.rules_eq {kinds : List NodeKind} (hw : Withdrawn r r' id kinds) :
    r'.rules = r.rules := by
  rw [hw.same]

theorem Listed.withdrawn {kinds : List NodeKind} (hl : Listed r) (hw : Withdrawn r r' id kinds) :
    Listed r' where
  named h := hl.named (hw.find?_eq _ ▸ h)
  distinct k := (hl.distinct k).sublist (hw.sublist k)
  shown {k x} h := by
    rw [hw.find?_eq]
    exact hl.shown ((hw.sublist k).subset h)
  rules rule h := by
    rw [hw.find?_eq]
    exact hl.rules rule (hw.rules_eq ▸ h)

/-- A widget that is on no list that it does not show takes its place. -/
theorem Listed.settle {w : Widget} (hl : Listed r) (hw : ∀ k, w.id ∈ r.idsFor k → k ∈ w.kinds) :
    Listed (r.settle w) where
  named {x v} h := by
    rw [find?_settle] at h
    split at h
    · next hx => rw [← Option.some.inj h, hx]
    · exact hl.named h
  distinct k := by
    rw [idsFor_settle]
    split
    · next h => exact List.nodup_append.2 ⟨hl.distinct k, List.nodup_singleton _, fun a ha b hb heq =>
        h.2 (List.mem_singleton.1 hb ▸ heq ▸ ha)⟩
    · exact hl.distinct k
  shown {k x} h := by
    rw [find?_settle]
    by_cases hx : w.id = x
    · rw [if_pos hx]
      refine ⟨w, rfl, ?_⟩
      rcases mem_idsFor_settle.1 h with h | ⟨-, hk⟩
      · exact hw k (hx ▸ h)
      · exact hk
    · rw [if_neg hx]
      exact hl.shown ((mem_idsFor_settle.1 h).resolve_right fun h => hx h.1.symm)
  rules rule h := by
    rw [rules_settle] at h
    rw [find?_settle]
    split
    · exact ⟨w, rfl⟩
    · exact hl.rules rule h

/-- A widget that was taken off the lists that it is not to be on is on none of them. -/
theorem Listed.settles {w : Widget} (hl : Listed r)
    (hok : ((withdraw w.id (r.droppedKinds w)).run.run r).1 = .ok ()) :
    ∀ k, w.id ∈ ((withdraw w.id (r.droppedKinds w)).run.run r).2.idsFor k → k ∈ w.kinds := by
  intro k hid
  by_contra hk
  obtain ⟨old, hold, hkind⟩ :=
    hl.shown (((withdrawn_withdraw w.id (r.droppedKinds w) r).sublist k).subset hid)
  exact (not_mem_of_withdraw w.id (r.droppedKinds w) hl.distinct).1 hok k
    (mem_droppedKinds.2 ⟨old, hold, hkind, hk⟩) hid

/-- Every call keeps it so, whether or not it goes through. -/
theorem Listed.call (hl : Listed r) (c : Call) : Listed (r.call c).2 := by
  cases c with
  | register w =>
    cases hf : r.frozen with
    | true =>
      rw [call_register_frozen w hf]
      exact hl
    | false =>
      have hw := withdrawn_withdraw w.id (r.droppedKinds w) r
      have hsettles := hl.settles (w := w)
      rw [call_register w hf]
      generalize (withdraw w.id (r.droppedKinds w)).run.run r = result at hw hsettles
      obtain ⟨e | ⟨⟩, r'⟩ := result
      · exact hl.withdrawn hw
      · exact (hl.withdrawn hw).settle (hsettles rfl)
  | addRule rule =>
    rw [call_addRule]
    split_ifs with hf hhas
    · exact hl
    · refine ⟨hl.named, hl.distinct, hl.shown, fun rule' h => ?_⟩
      rcases List.mem_append.1 h with h | h
      · exact hl.rules rule' h
      · obtain rfl := List.mem_singleton.1 h
        exact Table.has_eq_true_iff.1 hhas
    · exact hl
  | freeze => exact ⟨hl.named, hl.distinct, hl.shown, hl.rules⟩

theorem Reached.listed {allowed : Registry → Call → Prop} (h : Reached allowed r) : Listed r := by
  induction h with
  | empty => exact listed_empty
  | call _ _ ih => exact ih.call _

/-! ## What holds after calls that strand no widget -/

/-- The lists name every widget under each of its kinds. -/
def Complete (r : Registry) : Prop := ∀ {id w}, r.find? id = some w → ∀ k ∈ w.kinds, id ∈ r.idsFor k

theorem complete_call (hl : Listed r) (hc : Complete r) {c : Call} (hs : r.strands c = false) :
    Complete (r.call c).2 ∧ ((r.call c).1 ≠ .ok () → (r.call c).2 = r) := by
  cases c with
  | register w =>
    cases hf : r.frozen with
    | true =>
      rw [call_register_frozen w hf]
      exact ⟨hc, fun _ => rfl⟩
    | false =>
      have hnodup : (r.droppedKinds w).Nodup := by simpa [strands, hf] using hs
      have hw := withdrawn_withdraw w.id (r.droppedKinds w) r
      have hok : ((withdraw w.id (r.droppedKinds w)).run.run r).1 = .ok () := by
        refine (withdraw_ok_iff w.id (r.droppedKinds w) hl.distinct).2 ⟨hnodup, fun k hk => ?_⟩
        obtain ⟨old, hold, hkind, -⟩ := mem_droppedKinds.1 hk
        exact hc hold k hkind
      rw [call_register w hf]
      generalize (withdraw w.id (r.droppedKinds w)).run.run r = result at hw hok
      obtain ⟨_, r'⟩ := result
      dsimp only at hok hw
      subst hok
      refine ⟨fun {x v} hx k hk => ?_, fun h => absurd rfl h⟩
      rw [find?_settle] at hx
      rw [mem_idsFor_settle]
      by_cases hid : w.id = x
      · rw [if_pos hid] at hx
        obtain rfl := Option.some.inj hx
        exact Or.inr ⟨hid.symm, hk⟩
      · rw [if_neg hid, hw.find?_eq] at hx
        exact Or.inl (hw.others (Ne.symm hid) (hc hx k hk))
  | addRule rule =>
    rw [call_addRule]
    split_ifs with hf hhas
    · exact ⟨hc, fun _ => rfl⟩
    · exact ⟨hc, fun h => absurd rfl h⟩
    · exact ⟨hc, fun _ => rfl⟩
  | freeze => exact ⟨hc, fun h => absurd rfl h⟩

/-- A call that strands a widget fails, and leaves it off the list of one of its kinds. -/
theorem stranded_of_strands (hl : Listed r) {c : Call} (hs : r.strands c = true) :
    (r.call c).1 ≠ .ok () ∧ ¬ Complete (r.call c).2 := by
  cases c with
  | register w =>
    simp only [strands, Bool.and_eq_true, Bool.not_eq_true', decide_eq_false_iff_not] at hs
    obtain ⟨hf, hdup⟩ := hs
    have hw := withdrawn_withdraw w.id (r.droppedKinds w) r
    have herror : ((withdraw w.id (r.droppedKinds w)).run.run r).1 ≠ .ok () := fun h =>
      hdup ((withdraw_ok_iff w.id (r.droppedKinds w) hl.distinct).1 h).1
    obtain ⟨k, hk, hid⟩ := (not_mem_of_withdraw w.id (r.droppedKinds w) hl.distinct).2 herror
    obtain ⟨old, hold, hkind, -⟩ := mem_droppedKinds.1 hk
    rw [call_register w hf]
    generalize (withdraw w.id (r.droppedKinds w)).run.run r = result at hw herror hid
    obtain ⟨e | ⟨⟩, r'⟩ := result
    · refine ⟨(fun h => nomatch h), fun hcomplete => hid (hcomplete ?_ k hkind)⟩
      rw [hw.find?_eq]
      exact hold
    · exact absurd rfl herror
  | addRule rule => cases hs
  | freeze => cases hs

/-! ## Looking up and choosing -/

/-- The widgets by kind and the table of widgets tell the same, and rules ask for widgets that are
there. -/
structure Consistent (r : Registry) : Prop where
  /-- Every name on the list of a kind gives a widget. -/
  listed : ∀ k, (r.compatible k).map (·.id) = r.idsFor k
  /-- No widget is there twice. -/
  distinct : ∀ k, (r.compatible k).Nodup
  /-- The widgets for a kind are those that show it. -/
  mem_compatible_iff : ∀ {k w}, w ∈ r.compatible k ↔ r.find? w.id = some w ∧ k ∈ w.kinds
  /-- Rules ask for widgets that are there. -/
  rules : ∀ rule ∈ r.rules, ∃ w, r.find? rule.widgetId = some w

/-- Every name on a list gives the widget of that name. -/
theorem Listed.map_compatible (hl : Listed r) (k : NodeKind) :
    (r.compatible k).map (·.id) = r.idsFor k := by
  have hshown : ∀ id ∈ r.idsFor k, ∃ w, r.find? id = some w := fun id hid =>
    (hl.shown hid).imp fun _ h => h.1
  unfold compatible
  generalize r.idsFor k = ids at hshown
  induction ids with
  | nil => rfl
  | cons id ids ih =>
    obtain ⟨⟨w, hw⟩, hrest⟩ := List.forall_mem_cons.1 hshown
    rw [List.filterMap_cons_some hw, List.map_cons, hl.named hw, ih hrest]

theorem Listed.mem_compatible_iff (hl : Listed r) {w : Widget} :
    w ∈ r.compatible k ↔ r.find? w.id = some w ∧ w.id ∈ r.idsFor k := by
  unfold compatible
  rw [List.mem_filterMap]
  constructor
  · rintro ⟨id, hid, hw⟩
    obtain rfl := hl.named hw
    exact ⟨hw, hid⟩
  · rintro ⟨hw, hid⟩
    exact ⟨w.id, hid, hw⟩

theorem Listed.consistent_iff (hl : Listed r) : r.Consistent ↔ Complete r := by
  constructor
  · intro hc id w hw k hk
    obtain rfl := hl.named hw
    exact (hl.mem_compatible_iff.1 (hc.mem_compatible_iff.2 ⟨hw, hk⟩)).2
  · intro hc
    refine ⟨hl.map_compatible, fun k => ?_, fun {k w} => ?_, hl.rules⟩
    · exact List.Nodup.of_map _ ((hl.map_compatible k).symm ▸ hl.distinct k)
    · rw [hl.mem_compatible_iff]
      refine and_congr_right fun hw => ⟨fun hid => ?_, hc hw k⟩
      obtain ⟨v, hv, hk⟩ := hl.shown hid
      rw [hw] at hv
      exact (Option.some.inj hv) ▸ hk

/-- A node gets the widget of the first rule that matches it, and without one the first widget that
shows its kind. -/
structure Chooses {ρ : Type} (r : Registry) (n : Node ρ) : Prop where
  /-- The widget of the first rule that matches. -/
  rule : ∀ {before rule after}, r.rules = before ++ rule :: after →
    (∀ q ∈ before, q.criterion.holds n = .ok false) → rule.criterion.holds n = .ok true →
    ∃ w, r.find? rule.widgetId = some w ∧ r.select n = .ok (some w)
  /-- The first widget for the kind, if no rule matches. -/
  kind : (∀ q ∈ r.rules, q.criterion.holds n = .ok false) →
    r.select n = .ok (r.compatible n.kind).head?

theorem firstRule_of_none {ρ : Type} {n : Node ρ} {rules : List WidgetRule}
    (h : ∀ q ∈ rules, q.criterion.holds n = .ok false) (more : List WidgetRule) :
    firstRule n (rules ++ more) = firstRule n more := by
  induction rules with
  | nil => rfl
  | cons q rules ih =>
    obtain ⟨hq, hrest⟩ := List.forall_mem_cons.1 h
    rw [List.cons_append, firstRule, hq]
    exact ih hrest

theorem Listed.chooses (hl : Listed r) {ρ : Type} (n : Node ρ) : r.Chooses n where
  rule {before rule after} hrules hbefore hrule := by
    obtain ⟨w, hw⟩ := hl.rules rule (hrules ▸ by simp)
    have hfirst : firstRule n r.rules = .ok (some rule) := by
      rw [hrules, firstRule_of_none hbefore, firstRule, hrule]
      rfl
    refine ⟨w, hw, ?_⟩
    unfold select
    rw [hfirst, ← hw]
    rfl
  kind hnone := by
    have hfirst : firstRule n r.rules = .ok none := by
      rw [← List.append_nil r.rules, firstRule_of_none hnone]
      rfl
    have hhead : (r.idsFor n.kind).head?.bind r.find? = (r.compatible n.kind).head? := by
      unfold compatible
      cases hids : r.idsFor n.kind with
      | nil => rfl
      | cons id ids =>
        obtain ⟨w, hw, -⟩ := hl.shown (hids ▸ List.mem_cons_self : id ∈ r.idsFor n.kind)
        rw [List.filterMap_cons_some hw, List.head?_cons, List.head?_cons, Option.bind_some, hw]
    unfold select
    rw [hfirst, ← hhead]
    rfl

/-- Whatever calls were made, the lists by kind name only widgets that show the kind, each once, and
nodes get the widget of the first rule that matches, or else the first on the list of their kind. As
long as no call strands a widget the lists name all of them, and a call that fails changes nothing; the
first call that strands one fails, changes the registry all the same, and ends the agreement. -/
theorem consistent_iff_of_reached (h : Reached (fun _ _ => True) r) :
    Listed r ∧ (∀ {ρ : Type} (n : Node ρ), r.Chooses n) ∧
      (Reached (fun r c => r.strands c = false) r → r.Consistent ∧ ∀ c,
        ((r.call c).2.Consistent ↔ r.strands c = false) ∧
        (((r.call c).1 ≠ .ok () → (r.call c).2 = r) ↔ r.strands c = false)) := by
  have hl := h.listed
  refine ⟨hl, fun n => hl.chooses n, fun hkept => ?_⟩
  have hc : Complete r := by
    clear h hl
    induction hkept with
    | empty => exact fun h => nomatch h
    | call before permitted ih => exact (complete_call before.listed ih permitted).1
  refine ⟨hl.consistent_iff.2 hc, fun c => ?_⟩
  rw [(hl.call c).consistent_iff]
  cases hs : r.strands c with
  | true =>
    obtain ⟨herror, hlost⟩ := stranded_of_strands hl hs
    refine ⟨iff_of_false hlost (by simp), iff_of_false (fun hsame => hlost ?_) (by simp)⟩
    rw [hsame herror]
    exact hc
  | false =>
    obtain ⟨hcomplete, hsame⟩ := complete_call hl hc hs
    exact ⟨iff_of_true hcomplete rfl, iff_of_true hsame rfl⟩

/-- A widget that names a kind twice is replaced by one that shows nothing: the call fails, and the old
widget is still there, but not on the list of its kind. -/
theorem stranded_by_register :
    ∃ (r : Registry) (c : Call), Reached (fun _ _ => True) r ∧ r.Consistent ∧
      (r.call c).1 = .error .unlistedWidget ∧ (r.call c).2 ≠ r ∧ ¬ (r.call c).2.Consistent ∧
      (r.call c).2.find? "a" = some { id := "a", displayName := "A", kinds := [.string, .string] } ∧
      (r.call c).2.compatible .string = [] := by
  have hreached : ∀ allowed : Registry → Call → Prop, (∀ c, allowed empty c) →
      Reached allowed _ := fun allowed hall =>
    .call (c := .register { id := "a", displayName := "A", kinds := [.string, .string] }) .empty
      (hall _)
  obtain ⟨-, -, hkept⟩ := consistent_iff_of_reached (hreached (fun _ _ => True) fun _ => trivial)
  obtain ⟨hconsistent, hcalls⟩ := hkept (hreached _ fun c => by cases c <;> rfl)
  obtain ⟨hagree, hatomic⟩ := hcalls (.register { id := "a", displayName := "A", kinds := [] })
  refine ⟨_, .register { id := "a", displayName := "A", kinds := [] }, hreached _ fun _ => trivial,
    hconsistent, rfl, ?_, ?_, rfl, rfl⟩
  · exact fun hsame => absurd (hatomic.1 fun _ => hsame) (by decide)
  · exact fun h => absurd (hagree.1 h) (by decide)

end Registry

end FormGraph
