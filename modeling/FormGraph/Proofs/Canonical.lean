import FormGraph.Proofs.Alike
import FormGraph.Proofs.Inside
import FormGraph.Proofs.Json.Text
import FormGraph.Proofs.Layout

/-!
# Canonical texts

Two values with one canonical text are alike (`Value.alike_of_canonicalJson`).

The text of a value is one that no other continues: where the texts of two values begin what is left
to read, and separators or closing brackets follow, the values are alike and the same is left after
them (`Value.alike_of_text`). Numbers and the three words are told apart by their characters, texts,
lists and objects by how they begin.
-/

namespace FormGraph

namespace Value

/-! ## Ends of values -/

/-- The character ends a value that is neither a text, a list nor an object. -/
def isEnd (c : Char) : Bool := [',', ']', '\x7d'].contains c

/-- What is left begins with the end of a value. -/
def Ends (rest : List Char) : Prop := ∀ c ∈ rest.head?, isEnd c = true

/-- No character of the word ends it. -/
def IsWord (cs : List Char) : Prop := ∀ c ∈ cs, isEnd c = false

theorem ends_cons {c : Char} {rest : List Char} (h : isEnd c = true) : Ends (c :: rest) := by
  intro d hd
  obtain rfl : c = d := Option.some.inj hd
  exact h

/-- Words that begin what is left to read are one word when ends follow. -/
theorem word_inj {s t rest more : List Char} (hs : IsWord s) (ht : IsWord t) (hrest : Ends rest)
    (hmore : Ends more) (h : s ++ rest = t ++ more) : s = t ∧ rest = more := by
  induction s generalizing t with
  | nil =>
    cases t with
    | nil => exact ⟨rfl, h⟩
    | cons c t =>
      have hend := hrest c (by rw [show rest = _ from h]; rfl)
      exact absurd (hend.symm.trans (ht c List.mem_cons_self)) (by decide)
  | cons c s ih =>
    cases t with
    | nil =>
      have hend := hmore c (by rw [← show _ = more from h]; rfl)
      exact absurd (hend.symm.trans (hs c List.mem_cons_self)) (by decide)
    | cons d t =>
      rw [List.cons_append, List.cons_append] at h
      obtain ⟨rfl, htail⟩ := List.cons.inj h
      obtain ⟨rfl, hrest⟩ := ih (fun c hc => hs c (List.mem_cons_of_mem _ hc))
        (fun c hc => ht c (List.mem_cons_of_mem _ hc)) htail
      exact ⟨rfl, hrest⟩

/-! ## Numbers -/

/-- The characters of a whole number. -/
def isIntChar (c : Char) : Bool := c.isDigit || c = '-'

/-- The characters of a number with a point, those of the numbers that are none included. -/
def isFloatChar (c : Char) : Bool := isIntChar c || "+.eNaInfity".toList.contains c

theorem isIntChar_of_mem_toDigits {n : Nat} {c : Char} (h : c ∈ Nat.toDigits 10 n) :
    isIntChar c = true := by
  rw [isIntChar, Nat.isDigit_of_mem_toDigits (by decide) (by decide) h]
  rfl

theorem isIntChar_of_mem_int {n : Int} {c : Char} (h : c ∈ (toString n).toList) :
    isIntChar c = true := by
  have hnat : ∀ m : Nat, c ∈ m.repr.toList → isIntChar c = true := by
    intro m hm
    rw [Nat.repr_eq_ofList_toDigits, String.toList_ofList] at hm
    exact isIntChar_of_mem_toDigits hm
  rw [Int.toString_eq_repr, Int.repr_eq_if] at h
  split at h
  · exact hnat _ h
  · rw [String.toList_append, List.mem_append] at h
    rcases h with h | h
    · obtain rfl : c = '-' := List.mem_singleton.1 h
      rfl
    · exact hnat _ h

/-- Whole numbers of one text are equal. -/
theorem int_text_inj {n m : Int} (h : toString n = toString m) : n = m := by
  have hnat : ∀ {a b : Nat}, a.repr = b.repr → a = b := by
    intro a b hab
    rw [Nat.repr_eq_ofList_toDigits, Nat.repr_eq_ofList_toDigits] at hab
    have hdigits : Nat.toDigits 10 a = Nat.toDigits 10 b := String.ofList_injective hab
    rw [← Nat.ofDigitChars_ten_toDigits (n := a), hdigits, Nat.ofDigitChars_ten_toDigits]
  have hsign : ∀ {a b : Nat}, a.repr ≠ "-" ++ b.repr := by
    intro a b hab
    have hmem : '-' ∈ a.repr.toList := by
      rw [hab, String.toList_append]
      exact List.mem_cons_self
    rw [Nat.repr_eq_ofList_toDigits, String.toList_ofList] at hmem
    exact absurd (Nat.isDigit_of_mem_toDigits (by decide) (by decide) hmem) (by decide)
  rw [Int.toString_eq_repr, Int.toString_eq_repr, Int.repr_eq_if, Int.repr_eq_if] at h
  split at h <;> split at h
  · have := hnat h
    omega
  · exact absurd h hsign
  · exact absurd h.symm hsign
  · have := hnat (String.append_right_inj _ |>.1 h)
    omega

end Value

namespace Double

/-- Every digit of a decimal is one. -/
def Decimal.IsDigits (d : Decimal) : Prop := ∀ c ∈ d.digits, c.isDigit = true

theorem isDigits_ofGrid (n count : Nat) (point : Int) :
    (Decimal.ofGrid n count point).IsDigits := by
  intro c hc
  have hmem : c ∈ Nat.toDigits 10 n := by
    have h := (List.dropWhile_sublist _).subset (List.mem_reverse.1 hc)
    exact List.mem_reverse.1 h
  exact Nat.isDigit_of_mem_toDigits (by decide) (by decide) hmem

theorem isDigits_of_choice {nearBelow nearAbove : Prop} [Decidable nearBelow] [Decidable nearAbove]
    {below above count : Nat} {point : Int} {d : Decimal}
    (h : (if nearBelow then some (Decimal.ofGrid below count point)
      else if nearAbove then some (Decimal.ofGrid above count point) else none) = some d) :
    d.IsDigits := by
  split at h
  · obtain rfl := Option.some.inj h
    exact isDigits_ofGrid _ _ _
  · split at h
    · obtain rfl := Option.some.inj h
      exact isDigits_ofGrid _ _ _
    · cases h

theorem isDigits_gridDecimal? {x : Double} {count : Nat} {d : Decimal}
    (h : x.gridDecimal? count = some d) : d.IsDigits := isDigits_of_choice h

theorem isDigits_shortest (x : Double) : x.shortest.IsDigits := by
  unfold shortest
  cases h : (List.range 17).findSome? fun d => x.gridDecimal? (d + 1) with
  | none =>
    intro c hc
    obtain rfl : c = '0' := List.mem_singleton.1 hc
    rfl
  | some d =>
    obtain ⟨count, _, hd⟩ := List.exists_of_findSome?_eq_some h
    exact isDigits_gridDecimal? hd

end Double

namespace Value

open Double

/-- The text of a number with a point: characters of numbers, and one that no whole number has. -/
structure IsFloatText (cs : List Char) : Prop where
  /-- The characters are those of numbers. -/
  chars : ∀ c ∈ cs, isFloatChar c = true
  /-- Not all of them are those of whole numbers. -/
  mark : ∃ c ∈ cs, isIntChar c = false

theorem isFloatChar_of_int {c : Char} (h : isIntChar c = true) : isFloatChar c = true := by
  rw [isFloatChar, h]
  rfl

theorem isFloatText_of_decimal {d : Decimal} (h : d.IsDigits) : IsFloatText d.text.toList := by
  have hdigit : ∀ c ∈ d.digits, isFloatChar c = true := fun c hc =>
    isFloatChar_of_int (by rw [isIntChar, h c hc]; rfl)
  have hzeros : ∀ n, ∀ c ∈ List.replicate n '0', isFloatChar c = true := by
    intro n c hc
    obtain rfl := List.eq_of_mem_replicate hc
    rfl
  have hsize : ∀ c ∈ Nat.toDigits 10 (d.point - 1).natAbs, isFloatChar c = true := fun c hc =>
    isFloatChar_of_int (isIntChar_of_mem_toDigits hc)
  have hpower : ∀ size : List Char, (∀ c ∈ size, isFloatChar c = true) →
      ∀ c ∈ 'e' :: (if d.point - 1 < 0 then '-' else '+') ::
        (if size.length < 2 then '0' :: size else size), isFloatChar c = true := by
    intro size hsize
    refine List.forall_mem_cons.2 ⟨rfl, List.forall_mem_cons.2 ⟨by split <;> rfl, ?_⟩⟩
    split
    · exact List.forall_mem_cons.2 ⟨rfl, hsize⟩
    · exact hsize
  unfold Decimal.text
  dsimp only
  split
  · split
    · rw [String.toList_ofList]
      refine ⟨?_, '.', by simp, rfl⟩
      exact List.forall_mem_cons.2 ⟨rfl, List.forall_mem_cons.2 ⟨rfl,
        List.forall_mem_append.2 ⟨hzeros _, hdigit⟩⟩⟩
    · rw [String.toList_ofList]
      refine ⟨List.forall_mem_append.2 ⟨List.forall_mem_append.2 ⟨fun c hc =>
        hdigit c (List.mem_of_mem_take hc), hzeros _⟩, List.forall_mem_cons.2 ⟨rfl, ?_⟩⟩,
        '.', by simp, rfl⟩
      split
      · exact List.forall_mem_cons.2 ⟨rfl, by simp⟩
      · exact fun c hc => hdigit c (List.mem_of_mem_drop hc)
  · cases hd : d.digits with
    | nil =>
      have hzero : IsFloatText "0.0".toList :=
        ⟨List.all_eq_true.1 (by decide), '.', by decide, rfl⟩
      exact hzero
    | cons c rest =>
      rw [hd] at hdigit
      obtain ⟨hc, hrest⟩ := List.forall_mem_cons.1 hdigit
      cases rest with
      | nil =>
        rw [String.toList_ofList]
        exact ⟨List.forall_mem_cons.2 ⟨hc, hpower _ hsize⟩, 'e', by simp, rfl⟩
      | cons c' rest =>
        rw [String.toList_ofList]
        exact ⟨List.forall_mem_cons.2 ⟨hc, List.forall_mem_cons.2 ⟨rfl,
          List.forall_mem_append.2 ⟨hrest, hpower _ hsize⟩⟩⟩, 'e', by simp, rfl⟩

/-- A number with a point is written as one. -/
theorem isFloatText_jsonDouble (x : Double) : IsFloatText (jsonDouble x).toList := by
  have hsigned : ∀ (sign : Bool) (s : String), IsFloatText s.toList →
      IsFloatText ((if sign = true then "-" else "") ++ s).toList := by
    intro sign s hs
    rw [String.toList_append]
    obtain ⟨c, hc, hmark⟩ := hs.mark
    refine ⟨List.forall_mem_append.2 ⟨?_, hs.chars⟩, c, List.mem_append_right _ hc, hmark⟩
    cases sign <;> exact List.all_eq_true.1 (by decide)
  unfold jsonDouble
  by_cases hfinite : x.isFinite = true
  · rw [if_pos hfinite, Double.text, if_neg (by rw [hfinite]; decide)]
    split
    · exact hsigned _ "0.0" ⟨List.all_eq_true.1 (by decide), '.', by decide, rfl⟩
    · exact hsigned _ _ (isFloatText_of_decimal (isDigits_shortest x))
  · rw [if_neg hfinite]
    split
    · exact ⟨List.all_eq_true.1 (by decide), 'N', by decide, rfl⟩
    · split
      · exact ⟨List.all_eq_true.1 (by decide), 'I', by decide, rfl⟩
      · exact ⟨List.all_eq_true.1 (by decide), 'I', by decide, rfl⟩

end Value

/-! ## The text of a value -/

namespace Layout

variable {layout : Layout}

theorem bracket_level (h : layout.indent = none) (a b : Nat) (opening closing : String)
    (parts : List String) :
    layout.bracket a opening closing parts = layout.bracket b opening closing parts := by
  have hbreak : ∀ level, layout.lineBreak level = "" := by
    intro level
    rw [lineBreak, h]
  unfold bracket
  cases parts with
  | nil => rfl
  | cons part parts =>
    dsimp only
    rw [hbreak, hbreak, hbreak, hbreak]

mutual

/-- On one line it does not matter how deep a value stands. -/
theorem write_level (h : layout.indent = none) (a b : Nat) :
    ∀ v : Value, layout.write a v = layout.write b v
  | .null | .bool _ | .int _ | .float _ | .str _ => by rw [write, write]
  | .list items => by
    rw [write, write, writeItems_level h (a + 1) (b + 1) items]
    exact bracket_level h a b _ _ _
  | .obj members => by
    rw [write, write, writeMembers_level h (a + 1) (b + 1) members]
    exact bracket_level h a b _ _ _

theorem writeItems_level (h : layout.indent = none) (a b : Nat) :
    ∀ items : List Value, layout.writeItems a items = layout.writeItems b items
  | [] => rfl
  | v :: items => by
    rw [writeItems, writeItems, write_level h a b v, writeItems_level h a b items]

theorem writeMembers_level (h : layout.indent = none) (a b : Nat) :
    ∀ members : Members, layout.writeMembers a members = layout.writeMembers b members
  | [] => rfl
  | (n, v) :: members => by
    rw [writeMembers, writeMembers, write_level h a b v, writeMembers_level h a b members]

end

end Layout

namespace Value

/-- The layout without blanks. -/
def compact : Layout := { comma := ",", colon := ":" }

/-- The characters of a value without blanks. -/
def chars (v : Value) : List Char := v.compactJson.toList

/-- What follows an item of a list. -/
def afterItem : List Value → List Char
  | [] => [']']
  | v :: items => ',' :: (chars v ++ afterItem items)

/-- The characters of a member. -/
def memberChars (m : String × Value) : List Char := (jsonText m.1).toList ++ ':' :: chars m.2

/-- What follows a member of an object. -/
def afterMember : Members → List Char
  | [] => ['\x7d']
  | m :: members => ',' :: (memberChars m ++ afterMember members)

theorem toList_bracket (opening closing part : String) (parts : List String) :
    (compact.bracket 0 opening closing (part :: parts)).toList = opening.toList ++ (part.toList ++
      (parts.flatMap fun p => ',' :: p.toList) ++ closing.toList) := by
  have hjoined : (",".intercalate (part :: parts)).toList =
      part.toList ++ parts.flatMap fun p => ',' :: p.toList := by
    induction parts generalizing part with
    | nil => simp
    | cons p parts ih =>
      rw [String.intercalate_cons_cons, String.toList_append, String.toList_append, ih,
        List.flatMap_cons, List.append_assoc]
      rfl
  unfold Layout.bracket Layout.lineBreak compact joined
  simp only [String.toList_append, String.append_empty, hjoined, List.append_assoc]

theorem flatMap_writeItems (items : List Value) :
    ((compact.writeItems 1 items).flatMap fun p => ',' :: p.toList) ++ [']'] = afterItem items := by
  induction items with
  | nil => rfl
  | cons v items ih =>
    rw [Layout.writeItems, List.flatMap_cons, List.append_assoc, ih, afterItem,
      Layout.write_level rfl 1 0 v]
    rfl

theorem toList_writeMember (m : String × Value) :
    (jsonText m.1 ++ compact.colon ++ compact.write 1 m.2).toList = memberChars m := by
  rw [String.toList_append, String.toList_append, List.append_assoc, Layout.write_level rfl 1 0 m.2]
  rfl

theorem flatMap_writeMembers (members : Members) :
    ((compact.writeMembers 1 members).flatMap fun p => ',' :: p.toList) ++ ['\x7d'] =
      afterMember members := by
  induction members with
  | nil => rfl
  | cons m members ih =>
    rw [Layout.writeMembers, List.flatMap_cons, List.append_assoc, ih, afterMember,
      toList_writeMember]
    rfl

theorem chars_str (s : String) : chars (.str s) = (jsonText s).toList := by
  rw [chars, compactJson, Layout.write]

theorem chars_list_nil : chars (.list []) = ['[', ']'] := rfl

theorem chars_obj_nil : chars (.obj []) = ['\x7b', '\x7d'] := rfl

theorem chars_list (v : Value) (items : List Value) :
    chars (.list (v :: items)) = '[' :: (chars v ++ afterItem items) := by
  have hbracket : chars (.list (v :: items)) =
      (compact.bracket 0 "[" "]" (compact.write 1 v :: compact.writeItems 1 items)).toList := by
    rw [chars, compactJson, Layout.write, Layout.writeItems]
    rfl
  have hwrite : (compact.write 1 v).toList = chars v :=
    congrArg String.toList (Layout.write_level rfl 1 0 v)
  have hopening : ("[" : String).toList = ['['] := rfl
  have hclosing : ("]" : String).toList = [']'] := rfl
  rw [hbracket, toList_bracket, hwrite, hopening, hclosing, List.append_assoc, flatMap_writeItems,
    List.singleton_append]

theorem chars_obj (m : String × Value) (members : Members) :
    chars (.obj (m :: members)) = '\x7b' :: (memberChars m ++ afterMember members) := by
  have hbracket : chars (.obj (m :: members)) = (compact.bracket 0 "\x7b" "\x7d"
      ((jsonText m.1 ++ compact.colon ++ compact.write 1 m.2) ::
        compact.writeMembers 1 members)).toList := by
    rw [chars, compactJson, Layout.write, Layout.writeMembers]
    rfl
  have hopening : ("\x7b" : String).toList = ['\x7b'] := rfl
  have hclosing : ("\x7d" : String).toList = ['\x7d'] := rfl
  rw [hbracket, toList_bracket, toList_writeMember, hopening, hclosing, List.append_assoc,
    flatMap_writeMembers, List.singleton_append]

/-! ## Telling values apart -/

/-- How the text of a text, a list or an object begins. -/
def opening? : Value → Option Char
  | .str _ => some '"'
  | .list _ => some '['
  | .obj _ => some '\x7b'
  | _ => none

/-- The character neither ends a value nor begins a text, a list or an object. -/
def isPlainChar (c : Char) : Bool := !([',', ']', '\x7d', '"', '[', '\x7b'].contains c)

theorem isPlainChar_of_float {c : Char} (h : isFloatChar c = true) : isPlainChar c = true := by
  have hnone : ∀ d ∈ [',', ']', '\x7d', '"', '[', '\x7b'], (!isFloatChar d) = true :=
    List.all_eq_true.1 (by decide)
  rw [isPlainChar, Bool.not_eq_true', Bool.eq_false_iff, ne_eq, List.contains_iff_mem]
  exact fun hc => absurd (h.symm.trans (Bool.not_eq_true' _ ▸ hnone c hc)) (by decide)

/-- The text of a value that is neither a text, a list nor an object. -/
theorem isPlainChar_chars {v : Value} (h : v.opening? = none) :
    v.chars ≠ [] ∧ ∀ c ∈ v.chars, isPlainChar c = true := by
  cases v with
  | null => exact ⟨by decide, List.all_eq_true.1 (by decide)⟩
  | bool b => cases b <;> exact ⟨by decide, List.all_eq_true.1 (by decide)⟩
  | int n =>
    refine ⟨fun hnil => ?_, fun c hc =>
      isPlainChar_of_float (isFloatChar_of_int (isIntChar_of_mem_int hc))⟩
    have hempty : (toString n).toList = [] := hnil
    rw [Int.toString_eq_repr, Int.repr_eq_if] at hempty
    split at hempty
    · rw [Nat.repr_eq_ofList_toDigits, String.toList_ofList] at hempty
      exact Nat.toDigits_ne_nil hempty
    · rw [String.toList_append] at hempty
      cases hempty
  | float x =>
    have htext := isFloatText_jsonDouble x
    obtain ⟨c, hc, _⟩ := htext.mark
    exact ⟨List.ne_nil_of_mem hc, fun c hc => isPlainChar_of_float (htext.chars c hc)⟩
  | str _ | list _ | obj _ => cases h

theorem isWord_chars {v : Value} (h : v.opening? = none) : IsWord v.chars := by
  intro c hc
  have hplain := (isPlainChar_chars h).2 c hc
  have hnone : ∀ d ∈ [',', ']', '\x7d'], (!isPlainChar d) = true := List.all_eq_true.1 (by decide)
  rw [isEnd, Bool.eq_false_iff, ne_eq, List.contains_iff_mem]
  exact fun hmem => absurd (hplain.symm.trans (Bool.not_eq_true' _ ▸ hnone c hmem)) (by decide)

theorem chars_of_opening {v : Value} {c : Char} (h : v.opening? = some c) :
    ∃ cs, v.chars = c :: cs := by
  cases v with
  | str s =>
    obtain rfl := Option.some.inj h
    exact ⟨_, by rw [chars, compactJson, Layout.write, jsonText, String.toList_ofList]; rfl⟩
  | list items =>
    obtain rfl := Option.some.inj h
    cases items with
    | nil => exact ⟨_, rfl⟩
    | cons v items => exact ⟨_, chars_list v items⟩
  | obj members =>
    obtain rfl := Option.some.inj h
    cases members with
    | nil => exact ⟨_, rfl⟩
    | cons m members => exact ⟨_, chars_obj m members⟩
  | null | bool _ | int _ | float _ => cases h

/-- Texts that begin what is left to read begin alike. -/
theorem opening?_eq {v w : Value} {rest more : List Char} (h : v.chars ++ rest = w.chars ++ more) :
    v.opening? = w.opening? := by
  have hplain : ∀ {u : Value} {cs : List Char}, u.opening? = none → ∃ c, (u.chars ++ cs).head? =
      some c ∧ isPlainChar c = true := by
    intro u cs hu
    obtain ⟨hne, hall⟩ := isPlainChar_chars hu
    obtain ⟨c, l, hl⟩ := List.exists_cons_of_ne_nil hne
    exact ⟨c, by rw [hl]; rfl, hall c (by rw [hl]; exact List.mem_cons_self)⟩
  have hopening : ∀ {u : Value} {cs : List Char} {c : Char}, u.opening? = some c →
      (u.chars ++ cs).head? = some c := by
    intro u cs c hu
    obtain ⟨l, hl⟩ := chars_of_opening hu
    rw [hl]
    rfl
  have hnot : ∀ {u : Value} {c : Char}, u.opening? = some c → isPlainChar c = false := by
    intro u c hu
    cases u with
    | str _ | list _ | obj _ =>
      obtain rfl := Option.some.inj hu
      rfl
    | null | bool _ | int _ | float _ => cases hu
  cases hv : v.opening? with
  | none =>
    cases hw : w.opening? with
    | none => rfl
    | some c =>
      obtain ⟨d, hd, hp⟩ := @hplain v rest hv
      rw [h, hopening hw] at hd
      rw [← Option.some.inj hd, hnot hw] at hp
      cases hp
  | some c =>
    cases hw : w.opening? with
    | none =>
      obtain ⟨d, hd, hp⟩ := @hplain w more hw
      rw [← h, hopening hv] at hd
      rw [← Option.some.inj hd, hnot hv] at hp
      cases hp
    | some d =>
      have hhead := @hopening v rest c hv
      rw [h, hopening hw] at hhead
      rw [Option.some.inj hhead]

/-- The kinds of numbers are told apart by their texts. -/
theorem int_ne_float {n : Int} {x : Double} : chars (.int n) ≠ chars (.float x) := by
  intro h
  obtain ⟨c, hc, hmark⟩ := (isFloatText_jsonDouble x).mark
  have hint : c ∈ chars (.int n) := h ▸ hc
  exact absurd ((isIntChar_of_mem_int hint).symm.trans hmark) (by decide)

/-- A text with a character that no number has is not that of a number. -/
theorem ne_number {cs : List Char} {c : Char} (hc : c ∈ cs) (hnot : isFloatChar c = false) :
    (∀ n, cs ≠ chars (.int n)) ∧ ∀ x, cs ≠ chars (.float x) := by
  refine ⟨fun n h => ?_, fun x h => ?_⟩
  · have hint : c ∈ chars (.int n) := h ▸ hc
    exact absurd ((isFloatChar_of_int (isIntChar_of_mem_int hint)).symm.trans hnot) (by decide)
  · have hfloat : c ∈ chars (.float x) := h ▸ hc
    exact absurd (((isFloatText_jsonDouble x).chars c hfloat).symm.trans hnot) (by decide)

theorem null_ne_number : (∀ n, chars .null ≠ chars (.int n)) ∧ ∀ x, chars .null ≠ chars (.float x) :=
  ne_number (show 'l' ∈ chars .null by decide) (by decide)

theorem bool_ne_number (b : Bool) :
    (∀ n, chars (.bool b) ≠ chars (.int n)) ∧ ∀ x, chars (.bool b) ≠ chars (.float x) := by
  cases b with
  | false => exact ne_number (show 'l' ∈ chars (.bool false) by decide) (by decide)
  | true => exact ne_number (show 'r' ∈ chars (.bool true) by decide) (by decide)

/-- A value that is neither a text, a list nor an object is told by its text. -/
theorem alike_of_word {v w : Value} (hv : v.opening? = none) (hw : w.opening? = none)
    (h : v.chars = w.chars) : Alike v w := by
  cases v with
  | null =>
    cases w with
    | null => exact .null
    | bool b => exact absurd h (by cases b <;> decide)
    | int n => exact absurd h (null_ne_number.1 n)
    | float x => exact absurd h (null_ne_number.2 x)
    | str _ | list _ | obj _ => cases hw
  | bool b =>
    cases w with
    | null => exact absurd h (by cases b <;> decide)
    | bool b' =>
      obtain rfl : b = b' := by
        cases b <;> cases b'
        · rfl
        · exact absurd h (by decide)
        · exact absurd h (by decide)
        · rfl
      exact .bool b
    | int n => exact absurd h ((bool_ne_number b).1 n)
    | float x => exact absurd h ((bool_ne_number b).2 x)
    | str _ | list _ | obj _ => cases hw
  | int n =>
    cases w with
    | null => exact absurd h.symm (null_ne_number.1 n)
    | bool b => exact absurd h.symm ((bool_ne_number b).1 n)
    | int m =>
      obtain rfl : n = m := int_text_inj (String.toList_inj.1 h)
      exact .int n
    | float x => exact absurd h int_ne_float
    | str _ | list _ | obj _ => cases hw
  | float x =>
    cases w with
    | null => exact absurd h.symm (null_ne_number.2 x)
    | bool b => exact absurd h.symm ((bool_ne_number b).2 x)
    | int n => exact absurd h.symm int_ne_float
    | float y => exact .float (String.toList_inj.1 h)
    | str _ | list _ | obj _ => cases hw
  | str _ | list _ | obj _ => cases hv

/-! ## Values with one text -/

/-- Lists of alike members under the same names are alike objects. -/
theorem alike_of_members {as bs : Members}
    (h : List.Forall₂ (fun m m' => m.1 = m'.1 ∧ Alike m.2 m'.2) as bs) :
    Alike (.obj as) (.obj bs) := by
  rw [alike_obj_iff]
  intro name
  induction h with
  | nil => trivial
  | @cons a b as bs hab _ ih =>
    obtain ⟨n, v⟩ := a
    obtain ⟨m, w⟩ := b
    obtain ⟨rfl, halike⟩ := hab
    rw [Entries.find?_cons, Entries.find?_cons]
    split
    · exact halike
    · exact ih

/-- No text of a value begins with the end of one. -/
theorem chars_append_ne {v : Value} {c : Char} {rest more : List Char} (hc : isEnd c = true) :
    v.chars ++ rest ≠ c :: more := by
  intro h
  cases hv : v.opening? with
  | none =>
    obtain ⟨hne, _⟩ := isPlainChar_chars hv
    obtain ⟨d, cs, hcs⟩ := List.exists_cons_of_ne_nil hne
    have hword := isWord_chars hv d (by rw [hcs]; exact List.mem_cons_self)
    rw [hcs] at h
    rw [(List.cons.inj h).1, hc] at hword
    cases hword
  | some d =>
    obtain ⟨cs, hcs⟩ := chars_of_opening hv
    rw [hcs] at h
    obtain rfl := (List.cons.inj h).1
    cases v with
    | str _ | list _ | obj _ =>
      obtain rfl := Option.some.inj hv
      cases hc
    | null | bool _ | int _ | float _ => cases hv

theorem memberChars_append (m : String × Value) (rest : List Char) :
    memberChars m ++ rest = (jsonText m.1).toList ++ ':' :: (chars m.2 ++ rest) := by
  rw [memberChars, List.append_assoc]
  rfl

theorem memberChars_append_ne {m : String × Value} {rest more : List Char} :
    memberChars m ++ rest ≠ '\x7d' :: more := by
  rw [memberChars, jsonText, String.toList_ofList]
  exact fun h => absurd (List.cons.inj h).1 (by decide)

theorem ends_afterItem (items : List Value) (rest : List Char) : Ends (afterItem items ++ rest) := by
  cases items <;> exact ends_cons rfl

theorem ends_afterMember (members : Members) (rest : List Char) :
    Ends (afterMember members ++ rest) := by
  cases members <;> exact ends_cons rfl

-- from here on texts are compared through the lemmas about them only
attribute [irreducible] chars

mutual

/-- Values whose texts begin what is left to read are alike, and the same is left after them. -/
theorem alike_of_chars : ∀ (v w : Value) {rest more : List Char}, Ends rest → Ends more →
    v.chars ++ rest = w.chars ++ more → Alike v w ∧ rest = more
  | .null, w, _, _, hrest, hmore, h | .bool _, w, _, _, hrest, hmore, h
  | .int _, w, _, _, hrest, hmore, h | .float _, w, _, _, hrest, hmore, h => by
    have hw : w.opening? = none := (opening?_eq h).symm
    obtain ⟨hchars, hleft⟩ := word_inj (isWord_chars rfl) (isWord_chars hw) hrest hmore h
    exact ⟨alike_of_word rfl hw hchars, hleft⟩
  | .str s, w, _, _, hrest, hmore, h => by
    have hw := opening?_eq h
    cases w with
    | str t =>
      rw [chars_str, chars_str] at h
      obtain ⟨rfl, hleft⟩ := Json.jsonText_inj h
      exact ⟨.str s, hleft⟩
    | null | bool _ | int _ | float _ | list _ | obj _ => cases hw
  | .list as, w, _, _, hrest, hmore, h => by
    have hw := opening?_eq h
    cases w with
    | list bs =>
      obtain ⟨hitems, hleft⟩ := alike_of_listChars as bs h
      exact ⟨alike_list_iff.2 hitems, hleft⟩
    | null | bool _ | int _ | float _ | str _ | obj _ => cases hw
  | .obj as, w, _, _, hrest, hmore, h => by
    have hw := opening?_eq h
    cases w with
    | obj bs =>
      obtain ⟨hmembers, hleft⟩ := alike_of_objChars as bs h
      exact ⟨alike_of_members hmembers, hleft⟩
    | null | bool _ | int _ | float _ | str _ | list _ => cases hw

theorem alike_of_listChars : ∀ (as bs : List Value) {rest more : List Char},
    chars (.list as) ++ rest = chars (.list bs) ++ more → List.Forall₂ Alike as bs ∧ rest = more
  | [], [], _, _, h => ⟨.nil, List.append_cancel_left h⟩
  | [], b :: bs, _, more, h => by
    rw [chars_list_nil, chars_list, List.cons_append, List.cons_append, List.cons_append,
      List.append_assoc] at h
    exact absurd (List.cons.inj h).2.symm (chars_append_ne rfl)
  | a :: as, [], rest, _, h => by
    rw [chars_list_nil, chars_list, List.cons_append, List.cons_append, List.append_assoc] at h
    exact absurd (List.cons.inj h).2 (chars_append_ne rfl)
  | a :: as, b :: bs, rest, more, h => by
    rw [chars_list, chars_list, List.cons_append, List.cons_append, List.append_assoc,
      List.append_assoc] at h
    obtain ⟨hhead, htail⟩ := alike_of_chars a b (ends_afterItem as rest) (ends_afterItem bs more)
      (List.cons.inj h).2
    obtain ⟨hitems, hleft⟩ := alike_of_afterItem as bs htail
    exact ⟨.cons hhead hitems, hleft⟩

theorem alike_of_afterItem : ∀ (as bs : List Value) {rest more : List Char},
    afterItem as ++ rest = afterItem bs ++ more → List.Forall₂ Alike as bs ∧ rest = more
  | [], [], _, _, h => ⟨.nil, List.append_cancel_left h⟩
  | [], b :: bs, _, _, h => absurd (List.cons.inj h).1 (by decide)
  | a :: as, [], _, _, h => absurd (List.cons.inj h).1 (by decide)
  | a :: as, b :: bs, rest, more, h => by
    rw [afterItem, afterItem, List.cons_append, List.cons_append, List.append_assoc,
      List.append_assoc] at h
    obtain ⟨hhead, htail⟩ := alike_of_chars a b (ends_afterItem as rest) (ends_afterItem bs more)
      (List.cons.inj h).2
    obtain ⟨hitems, hleft⟩ := alike_of_afterItem as bs htail
    exact ⟨.cons hhead hitems, hleft⟩

theorem alike_of_objChars : ∀ (as bs : Members) {rest more : List Char},
    chars (.obj as) ++ rest = chars (.obj bs) ++ more →
      List.Forall₂ (fun m m' => m.1 = m'.1 ∧ Alike m.2 m'.2) as bs ∧ rest = more
  | [], [], _, _, h => ⟨.nil, List.append_cancel_left h⟩
  | [], b :: bs, _, more, h => by
    rw [chars_obj_nil, chars_obj, List.cons_append, List.cons_append, List.cons_append,
      List.append_assoc] at h
    exact absurd (List.cons.inj h).2.symm memberChars_append_ne
  | a :: as, [], rest, _, h => by
    rw [chars_obj_nil, chars_obj, List.cons_append, List.cons_append, List.append_assoc] at h
    exact absurd (List.cons.inj h).2 memberChars_append_ne
  | (m, a) :: as, (n, b) :: bs, rest, more, h => by
    rw [chars_obj, chars_obj, List.cons_append, List.cons_append, List.append_assoc,
      List.append_assoc, memberChars_append, memberChars_append] at h
    obtain ⟨hname, hvalue⟩ := Json.jsonText_inj (List.cons.inj h).2
    obtain ⟨hhead, htail⟩ := alike_of_chars a b (ends_afterMember as rest)
      (ends_afterMember bs more) (List.cons.inj hvalue).2
    obtain ⟨hmembers, hleft⟩ := alike_of_afterMember as bs htail
    exact ⟨.cons ⟨hname, hhead⟩ hmembers, hleft⟩

theorem alike_of_afterMember : ∀ (as bs : Members) {rest more : List Char},
    afterMember as ++ rest = afterMember bs ++ more →
      List.Forall₂ (fun m m' => m.1 = m'.1 ∧ Alike m.2 m'.2) as bs ∧ rest = more
  | [], [], _, _, h => ⟨.nil, List.append_cancel_left h⟩
  | [], b :: bs, _, _, h => absurd (List.cons.inj h).1 (by decide)
  | a :: as, [], _, _, h => absurd (List.cons.inj h).1 (by decide)
  | (m, a) :: as, (n, b) :: bs, rest, more, h => by
    rw [afterMember, afterMember, List.cons_append, List.cons_append, List.append_assoc,
      List.append_assoc, memberChars_append, memberChars_append] at h
    obtain ⟨hname, hvalue⟩ := Json.jsonText_inj (List.cons.inj h).2
    obtain ⟨hhead, htail⟩ := alike_of_chars a b (ends_afterMember as rest)
      (ends_afterMember bs more) (List.cons.inj hvalue).2
    obtain ⟨hmembers, hleft⟩ := alike_of_afterMember as bs htail
    exact ⟨.cons ⟨hname, hhead⟩ hmembers, hleft⟩

end

/-! ## Sorted members -/

theorem sortedItems_eq (items : List Value) : sortedItems items = items.map sorted := by
  induction items with
  | nil => rfl
  | cons v items ih => rw [sortedItems, ih, List.map_cons]

theorem sortedMembers_eq (members : Members) :
    sortedMembers members = Entries.mapValues sorted members := by
  induction members with
  | nil => rfl
  | cons m members ih =>
    obtain ⟨n, v⟩ := m
    rw [sortedMembers, ih]
    rfl

/-- Sorting the members of a value leaves what it says. -/
theorem Proper.alike_sorted {v : Value} (h : v.Proper) : Alike v v.sorted := by
  induction h with
  | null => exact .null
  | bool b => exact .bool b
  | int n => exact .int n
  | float x => exact .float rfl
  | str s => exact .str s
  | @list items _ ih =>
    rw [sorted, sortedItems_eq, alike_list_iff, List.forall₂_map_right_iff, List.forall₂_same]
    exact ih
  | @obj members names_nodup _ ih =>
    have hnames : (Entries.names (Entries.mapValues sorted members)).Nodup := by
      rwa [Entries.names_mapValues]
    rw [sorted, sortedMembers_eq, alike_obj_iff]
    intro name
    rw [← Entries.find?_perm (List.mergeSort_perm _ _).symm hnames, Entries.find?_mapValues]
    cases hv : Entries.find? members name with
    | none => trivial
    | some v => exact ih (name, v) (Entries.mem_of_find? hv)

/-- Values with one canonical text are alike. -/
theorem alike_of_canonicalJson {v w : Value} (hv : v.Proper) (hw : w.Proper)
    (h : v.canonicalJson = w.canonicalJson) : Alike v w := by
  have hchars : v.sorted.chars ++ [] = w.sorted.chars ++ [] := by
    rw [List.append_nil, List.append_nil, chars, chars]
    exact congrArg String.toList h
  have hsorted := (alike_of_chars v.sorted w.sorted (fun _ h => by cases h) (fun _ h => by cases h)
    hchars).1
  exact hv.alike_sorted.trans (hsorted.trans hw.alike_sorted.symm)

end Value

end FormGraph
