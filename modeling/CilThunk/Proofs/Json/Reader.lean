import CilThunk.Proofs.Json.Scalars
/-!
# Reader — the value that a text spells

Lists are read with any reader of their items, whose soundness (`Sound`) and completeness (`Reads`) carry over to them
(`enclosed_sound`, `enclosed_complete`).  So a text is read as a value exactly if it is a text of it
(`parse_eq_some_iff`), and no text is one of two values (`IsTextOf.unique`).
-/
namespace CilThunk
namespace Json

open Toml (Reader)

/-! ## Blanks -/

def skipBlanks (s : List Char) : List Char := s.dropWhile isBlank

theorem skipBlanks_append {before : List Char} (h : AllBlank before) (s : List Char) :
    skipBlanks (before ++ s) = skipBlanks s := List.dropWhile_append_of_pos h

theorem skipBlanks_cons {c : Char} (h : isBlank c = false) (s : List Char) : skipBlanks (c :: s) = c :: s :=
  List.dropWhile_cons_of_neg (by simp [h])

theorem eq_append_of_skipBlanks {s s' : List Char} (h : skipBlanks s = s') :
    ∃ before, AllBlank before ∧ s = before ++ s' := by
  refine ⟨s.takeWhile isBlank, fun c hc => List.mem_takeWhile_imp hc, ?_⟩
  rw [← h]
  exact List.takeWhile_append_dropWhile.symm

theorem isDigit_of_isBlank {c : Char} (h : isBlank c = true) : c.isDigit = false := by
  simp only [isBlank, Bool.or_eq_true, beq_iff_eq] at h
  obtain ((rfl | rfl) | rfl) | rfl := h <;> decide

theorem Ended.behind_blanks {blanks : List Char} (h : AllBlank blanks) {c : Char} (hc : c.isDigit = false)
    (after : List Char) : Ended (blanks ++ c :: after) := by
  cases blanks with
  | nil => exact .cons hc after
  | cons b blanks => exact .cons (isDigit_of_isBlank (h b List.mem_cons_self)) _

/-! ## Lists -/

/-- What a reader takes, behind blanks, spells what it gives out. -/
def Sound {α : Type} (item : Reader α) (P : α → List Char → Prop) : Prop :=
  ∀ {s a rest}, item s = some (a, rest) → ∃ before t, AllBlank before ∧ s = before ++ (t ++ rest) ∧ P a t

/-- A reader passes over blanks in front. -/
def SkipsBlanks {α : Type} (item : Reader α) : Prop :=
  ∀ {before : List Char}, AllBlank before → ∀ s, item (before ++ s) = item s

/-- A reader takes a text for something, if no digit stands behind it.  The text does not start as a list ends. -/
structure Reads {α : Type} (item : Reader α) (a : α) (text : List Char) : Prop where
  takes : ∀ {after : List Char}, Ended after → item (text ++ after) = some (a, after)
  starts : ∃ c rest, text = c :: rest ∧ isBlank c = false ∧ c ≠ ']' ∧ c ≠ '\x7d'

section Lists

variable {α : Type}

/-- Items with commas between them, up to the bracket that closes them.  A comma must be followed by an item. -/
def items (item : Reader α) (closing : Char) : Nat → Reader (List α)
  | 0, _ => none
  | rounds + 1, s =>
    match item s with
    | none => none
    | some (a, s) =>
      match skipBlanks s with
      | [] => none
      | c :: s =>
        if c = closing then some ([a], s)
        else if c = ',' then (items item closing rounds s).map (consTo a)
        else none

/-- Items behind the bracket that opens them, or none. -/
def enclosed (item : Reader α) (closing : Char) (s : List Char) : Option (List α × List Char) :=
  match skipBlanks s with
  | [] => none
  | c :: rest => if c = closing then some ([], rest) else items item closing s.length s

variable {item : Reader α} {P : α → List Char → Prop} {closing : Char} {as : List α}

theorem items_sound (hitem : Sound item P) {rounds : Nat} {s rest : List Char}
    (h : items item closing rounds s = some (as, rest)) : ∃ t, s = t ++ closing :: rest ∧ Listed P as t := by
  induction rounds generalizing s as with
  | zero => cases h
  | succ rounds ih =>
    unfold items at h
    split at h
    · cases h
    · rename_i a after ha
      obtain ⟨before, t, hbefore, rfl, ht⟩ := hitem ha
      split at h
      · cases h
      · rename_i c s hskipped
        obtain ⟨behind, hbehind, rfl⟩ := eq_append_of_skipBlanks hskipped
        split at h
        · rename_i hc
          cases h
          exact ⟨before ++ (t ++ behind), by simp [hc], .last hbefore ht hbehind⟩
        · split at h
          · rename_i hcomma
            obtain ⟨⟨as, _⟩, has, he⟩ := Option.map_eq_some_iff.1 h
            cases he
            obtain ⟨u, rfl, hu⟩ := ih has
            exact ⟨before ++ (t ++ (behind ++ ',' :: u)), by simp [hcomma], .more hbefore ht hbehind hu⟩
          · cases h

theorem enclosed_sound (hitem : Sound item P) {s rest : List Char} (h : enclosed item closing s = some (as, rest)) :
    ∃ t, s = t ++ closing :: rest ∧ Within P as t := by
  unfold enclosed at h
  split at h
  · cases h
  · rename_i c after hskipped
    split at h
    · rename_i hc
      cases h
      obtain ⟨blanks, hblanks, hs⟩ := eq_append_of_skipBlanks hskipped
      exact ⟨blanks, hc ▸ hs, .nothing hblanks⟩
    · obtain ⟨t, hs, ht⟩ := items_sound hitem h
      exact ⟨t, hs, .items ht⟩

/-- A list has at most one item more than characters. -/
theorem Listed.length_le {t : List Char} (h : Listed P as t) : as.length ≤ t.length + 1 := by
  induction h with
  | last => simp
  | more _ _ _ _ ih =>
    simp only [List.length_append, List.length_cons]
    omega

theorem items_complete (hskips : SkipsBlanks item) (hclosing : closing = ']' ∨ closing = '\x7d') {t : List Char}
    (h : Listed P as t) (hreads : ∀ a ∈ as, ∀ u, P a u → u.length ≤ t.length → Reads item a u) {rounds : Nat}
    (hrounds : as.length ≤ rounds) (after : List Char) :
    items item closing rounds (t ++ closing :: after) = some (as, after) := by
  have hblank : isBlank closing = false := by obtain rfl | rfl := hclosing <;> rfl
  have hdigit : closing.isDigit = false := by obtain rfl | rfl := hclosing <;> rfl
  have hcomma : ',' ≠ closing := by obtain rfl | rfl := hclosing <;> decide
  -- An item is no longer than the list that is left, and so than the whole list: `hreads` holds of what is left.
  induction h generalizing rounds with
  | @last a before u behind hbefore ha hbehind =>
    obtain ⟨rounds, rfl⟩ : ∃ k, rounds = k + 1 := Nat.exists_eq_add_of_le' hrounds
    have hread := hreads a List.mem_cons_self u ha (by simp only [List.length_append]; omega)
    rw [List.append_assoc, List.append_assoc, items, hskips hbefore, hread.takes (Ended.behind_blanks hbehind hdigit after)]
    simp only [skipBlanks_append hbehind, skipBlanks_cons hblank, if_true]
  | @more a as before u behind v hbefore ha hbehind hrest ih =>
    obtain ⟨rounds, rfl⟩ := Nat.exists_eq_add_of_le' (Nat.lt_of_lt_of_le (Nat.succ_pos _) hrounds)
    have hread := hreads a List.mem_cons_self u ha (by simp only [List.length_append]; omega)
    have hlist := ih (fun b hb w hw hlength => hreads b (List.mem_cons_of_mem _ hb) w hw
      (by simp only [List.length_append, List.length_cons]; omega)) (Nat.le_of_succ_le_succ hrounds)
    rw [List.append_assoc, List.append_assoc, List.append_assoc, List.cons_append, items, hskips hbefore,
      hread.takes (Ended.behind_blanks hbehind rfl _)]
    simp only [skipBlanks_append hbehind, skipBlanks_cons (show isBlank ',' = false from rfl), if_neg hcomma, if_true,
      hlist]
    rfl

theorem Listed.starts {t : List Char} (h : Listed P as t) :
    ∃ a ∈ as, ∃ before u more, t = before ++ (u ++ more) ∧ AllBlank before ∧ P a u := by
  cases h with
  | last hbefore ha _ => exact ⟨_, List.mem_cons_self, _, _, _, rfl, hbefore, ha⟩
  | more hbefore ha _ _ => exact ⟨_, List.mem_cons_self, _, _, _, rfl, hbefore, ha⟩

theorem enclosed_complete (hskips : SkipsBlanks item) (hclosing : closing = ']' ∨ closing = '\x7d') {t : List Char}
    (h : Within P as t) (hreads : ∀ a ∈ as, ∀ u, P a u → u.length ≤ t.length → Reads item a u) (after : List Char) :
    enclosed item closing (t ++ closing :: after) = some (as, after) := by
  have hblank : isBlank closing = false := by obtain rfl | rfl := hclosing <;> rfl
  cases h with
  | nothing hblanks =>
    unfold enclosed
    rw [skipBlanks_append hblanks, skipBlanks_cons hblank]
    exact if_pos rfl
  | items hlisted =>
    obtain ⟨a, ha, before, u, more, rfl, hbefore, hu⟩ := hlisted.starts
    obtain ⟨c, rest, rfl, hc, hbracket, hbrace⟩ := (hreads a ha u hu (by simp only [List.length_append]; omega)).starts
    have hne : c ≠ closing := by obtain rfl | rfl := hclosing <;> assumption
    have hskipped : skipBlanks (before ++ (c :: rest ++ more) ++ closing :: after) =
        c :: (rest ++ more ++ closing :: after) := by
      rw [List.append_assoc, skipBlanks_append hbefore]
      exact skipBlanks_cons hc _
    have hrounds : as.length ≤ (before ++ (c :: rest ++ more) ++ closing :: after).length := by
      have := hlisted.length_le
      rw [List.length_append, List.length_cons]
      omega
    unfold enclosed
    rw [hskipped]
    simp only [if_neg hne]
    exact items_complete hskips hclosing hlisted hreads hrounds after

end Lists

/-! ## Values -/

/-- A name and its value. -/
def field (item : Reader Json) (s : List Char) : Option ((String × Json) × List Char) :=
  match skipBlanks s with
  | '"' :: s =>
    match characters s with
    | none => none
    | some (name, s) =>
      match skipBlanks s with
      | ':' :: s => (item s).map (fun p => ((String.ofList name, p.1), p.2))
      | _ => none
  | _ => none

/-- A value, in which arrays and objects are nested `depth` levels at most. -/
def value (depth : Nat) (s : List Char) : Option (Json × List Char) :=
  match skipBlanks s with
  | 'n' :: 'u' :: 'l' :: 'l' :: rest => some (null, rest)
  | 't' :: 'r' :: 'u' :: 'e' :: rest => some (bool true, rest)
  | 'f' :: 'a' :: 'l' :: 's' :: 'e' :: rest => some (bool false, rest)
  | '"' :: rest => (characters rest).map (fun p => (str (String.ofList p.1), p.2))
  | '[' :: rest =>
    match depth with
    | 0 => none
    | depth + 1 => (enclosed (value depth) ']' rest).map (fun p => (arr p.1, p.2))
  | '\x7b' :: rest =>
    match depth with
    | 0 => none
    | depth + 1 => (enclosed (field (value depth)) '\x7d' rest).map (fun p => (obj p.1, p.2))
  | s => (number s).map (fun p => (num p.1, p.2))

/-- The value that a text is of, if it is of one: no text nests deeper than it is long. -/
def parse (text : String) : Option Json :=
  match value text.toList.length text.toList with
  | none => none
  | some (j, rest) => if (skipBlanks rest).isEmpty then some j else none

theorem field_sound {item : Reader Json} {P : Json → List Char → Prop} (hitem : Sound item P) :
    Sound (field item) (SpellsField P) := by
  intro s f rest h
  unfold field at h
  split at h
  · rename_i s₁ hquote
    obtain ⟨before, hbefore, rfl⟩ := eq_append_of_skipBlanks hquote
    split at h
    · cases h
    · rename_i name s₂ hname
      obtain ⟨t, rfl, ht⟩ := characters_sound hname
      split at h
      · rename_i s₃ hcolon
        obtain ⟨behind, hbehind, rfl⟩ := eq_append_of_skipBlanks hcolon
        obtain ⟨⟨v, _⟩, hv, he⟩ := Option.map_eq_some_iff.1 h
        cases he
        obtain ⟨gap, u, hgap, rfl, hu⟩ := hitem hv
        have hstring : SpellsString (String.ofList name).toList t := by rwa [String.toList_ofList]
        exact ⟨before, _, hbefore, by simp, .field hstring hbehind hgap hu⟩
      · cases h
  · cases h

theorem value_sound (depth : Nat) : Sound (value depth) Spells := by
  induction depth using Nat.strong_induction_on with
  | _ depth ih =>
    intro s j rest h
    obtain ⟨before, hbefore, hs⟩ := eq_append_of_skipBlanks (s := s) rfl
    rw [value.eq_def] at h
    generalize skipBlanks s = front at h hs
    subst hs
    split at h
    · cases h
      exact ⟨before, _, hbefore, rfl, .null⟩
    · cases h
      exact ⟨before, _, hbefore, rfl, .yes⟩
    · cases h
      exact ⟨before, _, hbefore, rfl, .no⟩
    · obtain ⟨⟨cs, _⟩, hcs, he⟩ := Option.map_eq_some_iff.1 h
      cases he
      obtain ⟨t, rfl, ht⟩ := characters_sound hcs
      have hstring : SpellsString (String.ofList cs).toList t := by rwa [String.toList_ofList]
      exact ⟨before, _, hbefore, by simp, .str hstring⟩
    · split at h
      · cases h
      · rename_i depth
        obtain ⟨⟨items, _⟩, hitems, he⟩ := Option.map_eq_some_iff.1 h
        cases he
        obtain ⟨t, rfl, ht⟩ := enclosed_sound (ih depth (Nat.lt_succ_self depth)) hitems
        exact ⟨before, _, hbefore, by simp, .arr ht⟩
    · split at h
      · cases h
      · rename_i depth
        obtain ⟨⟨fields, _⟩, hfields, he⟩ := Option.map_eq_some_iff.1 h
        cases he
        obtain ⟨t, rfl, ht⟩ := enclosed_sound (field_sound (ih depth (Nat.lt_succ_self depth))) hfields
        exact ⟨before, _, hbefore, by simp, .obj ht⟩
    · obtain ⟨⟨i, _⟩, hi, he⟩ := Option.map_eq_some_iff.1 h
      cases he
      obtain ⟨t, rfl, ht⟩ := number_sound hi
      exact ⟨before, t, hbefore, rfl, .num ht⟩

theorem skipsBlanks_value (depth : Nat) : SkipsBlanks (value depth) := by
  intro before h s
  rw [value.eq_def, value.eq_def depth s, skipBlanks_append h]

theorem skipsBlanks_field (item : Reader Json) : SkipsBlanks (field item) := by
  intro before h s
  rw [field, field, skipBlanks_append h]

theorem reads_field {item : Reader Json} (hskips : SkipsBlanks item) {P : Json → List Char → Prop}
    {f : String × Json} {t : List Char} (h : SpellsField P f t)
    (hreads : ∀ u, P f.2 u → u.length ≤ t.length → Reads item f.2 u) : Reads (field item) f t := by
  cases h with
  | @field name v t behind before u hname hbehind hbefore hv =>
    have hread := hreads u hv (by simp only [List.length_append, List.length_cons]; omega)
    refine ⟨fun {after} hafter => ?_, '"', _, rfl, rfl, by decide, by decide⟩
    have hstring := characters_complete hname (behind ++ ':' :: (before ++ (u ++ after)))
    rw [List.cons_append, field, skipBlanks_cons rfl]
    simp only [List.append_assoc, List.cons_append, hstring, skipBlanks_append hbehind,
      skipBlanks_cons (show isBlank ':' = false from rfl), hskips hbefore, hread.takes hafter, String.ofList_toList]
    rfl

/-- How a numeral starts. -/
def IsNumeric (c : Char) : Prop := c = '-' ∨ c.isDigit = true

theorem IsNumeric.not_isBlank {c : Char} (h : IsNumeric c) : isBlank c = false := by
  rw [Bool.eq_false_iff]
  intro hblank
  obtain rfl | h := h
  · exact absurd hblank (by decide)
  · rw [isDigit_of_isBlank hblank] at h
    cases h

theorem SpellsInteger.starts {i : Int} {t : List Char} (h : SpellsInteger i t) :
    ∃ c rest, t = c :: rest ∧ IsNumeric c := by
  cases h with
  | natural hn =>
    obtain ⟨c, rest, ht, hdigit⟩ := hn.starts
    exact ⟨c, rest, ht, .inr hdigit⟩
  | negative _ => exact ⟨'-', _, rfl, .inl rfl⟩

/-- What starts like a number is read as one. -/
theorem value_of_isNumeric (depth : Nat) {c : Char} (h : IsNumeric c) (s : List Char) :
    value depth (c :: s) = (number (c :: s)).map (fun p => (num p.1, p.2)) := by
  rw [value.eq_def, skipBlanks_cons h.not_isBlank]
  split
  all_goals first
    | rfl
    | (rename_i heq
       cases heq
       exact absurd h (by unfold IsNumeric; decide))

theorem reads_integer (depth : Nat) {i : Int} {t : List Char} (h : SpellsInteger i t) :
    Reads (value depth) (num i) t := by
  obtain ⟨c, rest, rfl, hnumeric⟩ := h.starts
  constructor
  · intro after hafter
    have hnumber := number_complete h hafter
    rw [List.cons_append] at hnumber ⊢
    rw [value_of_isNumeric depth hnumeric, hnumber]
    rfl
  · refine ⟨c, rest, rfl, hnumeric.not_isBlank, ?_, ?_⟩
    · rintro rfl
      exact absurd hnumeric (by unfold IsNumeric; decide)
    · rintro rfl
      exact absurd hnumeric (by unfold IsNumeric; decide)

/-- **What spells a value is read as it**, if levels may be nested as deep as it is long. -/
theorem reads_value {j : Json} {t : List Char} (h : Spells j t) {depth : Nat} (hdepth : t.length ≤ depth) :
    Reads (value depth) j t := by
  induction j using parts_induction generalizing t depth with
  | null =>
    cases h
    exact ⟨fun _ => by rw [value.eq_def]; rfl, 'n', _, rfl, rfl, by decide, by decide⟩
  | bool b =>
    cases h with
    | yes => exact ⟨fun _ => by rw [value.eq_def]; rfl, 't', _, rfl, rfl, by decide, by decide⟩
    | no => exact ⟨fun _ => by rw [value.eq_def]; rfl, 'f', _, rfl, rfl, by decide, by decide⟩
  | num i =>
    cases h with
    | num hi => exact reads_integer depth hi
  | str s =>
    cases h with
    | str hs =>
      refine ⟨fun {after} _ => ?_, '"', _, rfl, rfl, by decide, by decide⟩
      rw [List.cons_append, List.append_assoc, value.eq_def, skipBlanks_cons rfl]
      simp only [List.singleton_append, characters_complete hs, Option.map_some, String.ofList_toList]
  | arr items ih =>
    cases h with
    | @arr _ t hitems =>
      -- The bracket that opens a list pays for the level it adds.
      rw [List.length_cons, List.length_append] at hdepth
      obtain ⟨depth, rfl⟩ : ∃ k, depth = k + 1 := Nat.exists_eq_add_of_le' (Nat.le_of_add_left_le hdepth)
      refine ⟨fun {after} _ => ?_, '[', _, rfl, rfl, by decide, by decide⟩
      have henclosed := enclosed_complete (skipsBlanks_value depth) (.inl rfl) hitems
        (fun j hj u hu hlength => ih j hj hu (by omega)) after
      rw [List.cons_append, List.append_assoc, value.eq_def, skipBlanks_cons rfl]
      simp only [List.singleton_append, henclosed, Option.map_some]
  | obj fields ih =>
    cases h with
    | @obj _ t hfields =>
      rw [List.length_cons, List.length_append] at hdepth
      obtain ⟨depth, rfl⟩ : ∃ k, depth = k + 1 := Nat.exists_eq_add_of_le' (Nat.le_of_add_left_le hdepth)
      refine ⟨fun {after} _ => ?_, '\x7b', _, rfl, rfl, by decide, by decide⟩
      have henclosed := enclosed_complete (skipsBlanks_field (value depth)) (.inr rfl) hfields
        (fun f hf u hu hlength => reads_field (skipsBlanks_value depth) hu fun v hv hshort =>
          ih f hf hv (by omega)) after
      rw [List.cons_append, List.append_assoc, value.eq_def, skipBlanks_cons rfl]
      simp only [List.singleton_append, henclosed, Option.map_some]

/-- **A text is read as a value exactly if it is a text of it.** -/
theorem parse_eq_some_iff {text : String} {j : Json} : parse text = some j ↔ IsTextOf text j := by
  unfold parse
  constructor
  · intro h
    split at h
    · cases h
    · rename_i rest hvalue
      split at h
      · rename_i hblank
        cases h
        obtain ⟨before, t, hbefore, htext, hspells⟩ := value_sound _ hvalue
        exact ⟨before, t, rest, htext, hbefore, List.dropWhile_eq_nil_iff.1 (List.isEmpty_iff.1 hblank), hspells⟩
      · cases h
  · rintro ⟨before, t, behind, htext, hbefore, hbehind, hspells⟩
    have hended : Ended behind := by
      cases behind with
      | nil => exact .nil
      | cons c behind => exact .cons (isDigit_of_isBlank (hbehind c List.mem_cons_self)) _
    have hlength : t.length ≤ text.toList.length := by
      rw [htext]
      simp only [List.length_append]
      omega
    have hvalue : value text.toList.length text.toList = some (j, behind) := by
      conv_lhs => rw [htext]
      rw [skipsBlanks_value _ hbefore, (reads_value hspells (htext ▸ hlength)).takes hended]
    have hskipped : skipBlanks behind = [] := List.dropWhile_eq_nil_iff.2 hbehind
    simp only [hvalue, hskipped, List.isEmpty_nil, if_true]

-- Blanks around every part, and escapes that are not written.
example : parse " [ \"\\u0041\\/\" , -70 ]" = some (arr [str "A/", num (-70)]) := by cbv

-- A needless zero, a comma behind the last item, a surrogate on its own.
example : parse "[07]" = none ∧ parse "[7,]" = none ∧ parse "[\"\\ud83d\"]" = none := by
  refine ⟨?_, ?_, ?_⟩ <;> cbv

/-- A text is of one value. -/
theorem IsTextOf.unique {text : String} {j k : Json} (hj : IsTextOf text j) (hk : IsTextOf text k) : j = k :=
  Option.some.inj ((parse_eq_some_iff.2 hj).symm.trans (parse_eq_some_iff.2 hk))

theorem compact_injective : Function.Injective compact := fun j k h =>
  (isTextOf_compact j).unique (h ▸ isTextOf_compact k)

theorem pretty_injective : Function.Injective pretty := fun j k h =>
  (isTextOf_pretty j).unique (h ▸ isTextOf_pretty k)

end Json
end CilThunk
