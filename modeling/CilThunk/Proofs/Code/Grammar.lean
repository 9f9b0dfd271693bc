import CilThunk.Proofs.Code.Layout
/-!
# Grammar — the code that reads back

An instruction can be written in one way, an argument load in up to three.  Each way is a `Form`, and code reads back
exactly if it is spelled by forms, one behind the other (`decode_eq_ok_iff`).  No form starts another one
(`Form.bytes_append_inj`), so that the forms of some code are found in one way only, and operand bytes are never taken
for instructions.
-/
namespace CilThunk

/-- A way to write an instruction.  A load may be written longer than it has to be. -/
inductive Form
  /-- `02` to `05` -/
  | firstLoad (index : Fin 4)
  /-- `0E n` -/
  | byteLoad (index : UInt8)
  /-- `FE 09 lo hi` -/
  | wordLoad (lo hi : UInt8)
  /-- `FE 14` -/
  | tail
  /-- `29 b₀ b₁ b₂ b₃`, the lowest byte of the token first -/
  | calli (b₀ b₁ b₂ b₃ : UInt8)
  /-- `2A` -/
  | ret
  deriving DecidableEq, Repr

/-- How many bytes an instruction takes whose first byte is `op`: a load is as long as it was written. -/
def Instruction.sizeBehind (op : UInt8) (i : Instruction) : Nat :=
  if op = 0x0E then 2
  else
    match i with
    | .ldarg _ => if op = 0xFE then 4 else i.size
    | i => i.size

namespace Form

open LittleEndian in
def meaning : Form → Instruction
  | firstLoad index => .ldarg (UInt16.ofNat index)
  | byteLoad index => .ldarg index.toUInt16
  | wordLoad lo hi => .ldarg (ofBytes16 lo hi)
  | tail => .tail
  | calli b₀ b₁ b₂ b₃ => .calli ⟨ofBytes32 b₀ b₁ b₂ b₃⟩
  | ret => .ret

def bytes : Form → List UInt8
  | firstLoad index => [0x02 + UInt8.ofNat index]
  | byteLoad index => [0x0E, index]
  | wordLoad lo hi => [0xFE, 0x09, lo, hi]
  | tail => [0xFE, 0x14]
  | calli b₀ b₁ b₂ b₃ => [0x29, b₀, b₁, b₂, b₃]
  | ret => [0x2A]

def spell (forms : List Form) : List UInt8 := forms.flatMap bytes

/-- Where the form at position `i` starts. -/
def start (forms : List Form) (i : Nat) : Nat := (spell (forms.take i)).length

/-- What the forms mean, each with the offset that it starts at, the first at `offset`. -/
def readingFrom (offset : Nat) (forms : List Form) : List (Nat × Instruction) :=
  forms.mapIdx (fun i form => (offset + start forms i, form.meaning))

theorem bytes_ne_nil (form : Form) : form.bytes ≠ [] := by
  cases form <;> exact List.cons_ne_nil _ _

theorem bytes_injective : Function.Injective bytes := by
  have hfirst : ∀ i j : Fin 4, (0x02 + UInt8.ofNat i : UInt8) = 0x02 + UInt8.ofNat j → i = j := by decide
  have hret : ∀ i : Fin 4, (0x02 + UInt8.ofNat i : UInt8) ≠ 0x2A := by decide
  intro x y h
  cases x <;> cases y <;> simp only [bytes, List.cons.injEq, reduceCtorEq, and_true, and_false, true_and] at h
  case firstLoad.firstLoad i j => rw [hfirst i j h]
  case firstLoad.ret i => exact absurd h (hret i)
  case ret.firstLoad i => exact absurd h.symm (hret i)
  all_goals simp_all

/-- **The length of a form follows from its first byte and its meaning.** -/
theorem length_bytes_eq {form : Form} {op : UInt8} (h : form.bytes.head? = some op) :
    form.bytes.length = form.meaning.sizeBehind op := by
  cases form with
  | firstLoad index =>
    have hsize : ∀ i : Fin 4, (firstLoad i).meaning.sizeBehind (0x02 + UInt8.ofNat i) = 1 := by decide
    cases h
    exact (hsize index).symm
  | _ =>
    cases h
    rfl

theorem spell_cons (form : Form) (forms : List Form) : spell (form :: forms) = form.bytes ++ spell forms := by
  rw [spell, List.flatMap_cons, spell]

theorem spell_singleton (form : Form) : spell [form] = form.bytes := List.flatMap_singleton bytes form

theorem spell_append (xs ys : List Form) : spell (xs ++ ys) = spell xs ++ spell ys := by
  rw [spell, List.flatMap_append, spell, spell]

/-! ## Where forms start -/

theorem start_zero (forms : List Form) : start forms 0 = 0 := rfl

theorem start_length (forms : List Form) : start forms forms.length = (spell forms).length := by
  rw [start, List.take_length]

theorem start_cons_succ (form : Form) (forms : List Form) (i : Nat) :
    start (form :: forms) (i + 1) = form.bytes.length + start forms i := by
  rw [start, List.take_succ_cons, spell_cons, List.length_append, start]

/-- **A form ends where the next one starts.** -/
theorem start_succ {forms : List Form} {i : Nat} (h : i < forms.length) :
    start forms (i + 1) = start forms i + forms[i].bytes.length := by
  rw [start, List.take_succ_eq_append_getElem h, spell_append, List.length_append, spell_singleton, start]

theorem drop_start {forms : List Form} {i : Nat} : (spell forms).drop (start forms i) = spell (forms.drop i) := by
  have hsplit : spell forms = spell (forms.take i) ++ spell (forms.drop i) := by
    rw [← spell_append, List.take_append_drop]
  rw [hsplit, start, List.drop_left]

theorem readingFrom_cons (offset : Nat) (form : Form) (forms : List Form) :
    readingFrom offset (form :: forms) = (offset, form.meaning) :: readingFrom (offset + form.bytes.length) forms := by
  simp only [readingFrom, List.mapIdx_cons, start_zero, Nat.add_zero, start_cons_succ, Nat.add_assoc]

end Form

namespace Code

open Form

/-- **The bytes of a form are fetched as what it means**, whatever code is behind them. -/
theorem fetch_form (offset : Nat) (form : Form) (rest : List UInt8) :
    fetch offset (form.bytes ++ rest) = .ok ⟨form.meaning, form.bytes.length, rest⟩ := by
  cases form with
  | firstLoad index =>
    match index with
    | 0 | 1 | 2 | 3 => rfl
  | _ => rfl

theorem firstLoad_cases {op : UInt8} (h : 0x02 ≤ op ∧ op ≤ 0x05) : op = 0x02 ∨ op = 0x03 ∨ op = 0x04 ∨ op = 0x05 := by
  simp only [UInt8.le_iff_toNat_le, ← UInt8.toNat_inj] at h ⊢
  simp only [UInt8.reduceToNat] at h ⊢
  omega

/-- What is fetched was written in some form. -/
theorem exists_form_of_fetch {offset : Nat} {code : List UInt8} {f : Fetched} (h : fetch offset code = .ok f) :
    ∃ form : Form, code = form.bytes ++ f.rest ∧ f = ⟨form.meaning, form.bytes.length, f.rest⟩ := by
  cases code with
  | nil => cases h
  | cons op rest =>
    simp only [fetch] at h
    split at h
    · rename_i hop
      cases h
      rcases firstLoad_cases hop with rfl | rfl | rfl | rfl
      · exact ⟨.firstLoad 0, rfl, rfl⟩
      · exact ⟨.firstLoad 1, rfl, rfl⟩
      · exact ⟨.firstLoad 2, rfl, rfl⟩
      · exact ⟨.firstLoad 3, rfl, rfl⟩
    split at h
    · rename_i hop
      subst hop
      split at h
      · cases h
        exact ⟨.byteLoad _, rfl, rfl⟩
      · cases h
    split at h
    · rename_i hop
      subst hop
      split at h
      · cases h
        exact ⟨.calli _ _ _ _, rfl, rfl⟩
      · cases h
    split at h
    · rename_i hop
      subst hop
      cases h
      exact ⟨.ret, rfl, rfl⟩
    split at h
    · rename_i hop
      subst hop
      split at h
      · cases h
      split at h
      · rename_i hsecond
        subst hsecond
        split at h
        · cases h
          exact ⟨.wordLoad _ _, rfl, rfl⟩
        · cases h
      split at h
      · rename_i hsecond
        subst hsecond
        cases h
        exact ⟨.tail, rfl, rfl⟩
      · cases h
    · cases h

/-- **No form starts another one**: what is spelled has one first form. -/
theorem bytes_append_inj {x y : Form} {r s : List UInt8} (h : x.bytes ++ r = y.bytes ++ s) : x = y ∧ r = s := by
  have hx := fetch_form 0 x r
  rw [h, fetch_form 0 y s] at hx
  have hrest : s = r := congrArg Fetched.rest (Except.ok.inj hx)
  subst hrest
  exact ⟨bytes_injective (List.append_cancel_right h), rfl⟩

theorem spell_injective : Function.Injective spell := by
  intro xs
  induction xs with
  | nil =>
    intro ys h
    cases ys with
    | nil => rfl
    | cons y ys =>
      rw [spell_cons] at h
      exact absurd (List.append_eq_nil_iff.1 h.symm).1 y.bytes_ne_nil
  | cons x xs ih =>
    intro ys h
    cases ys with
    | nil =>
      rw [spell_cons] at h
      exact absurd (List.append_eq_nil_iff.1 h).1 x.bytes_ne_nil
    | cons y ys =>
      rw [spell_cons, spell_cons] at h
      obtain ⟨hform, hforms⟩ := bytes_append_inj h
      rw [hform, ih hforms]

/-! ## Reading -/

/-- Forms are read one by one, and then what is behind them. -/
theorem decodeOnto_spell_append (forms : List Form) (code : List UInt8) :
    ∀ (read : List (Nat × Instruction)) (offset : Nat), decodeOnto read offset (spell forms ++ code) =
      decodeOnto ((readingFrom offset forms).reverse ++ read) (offset + (spell forms).length) code := by
  induction forms with
  | nil => simp [spell, readingFrom]
  | cons form forms ih =>
    intro read offset
    rw [spell_cons, List.append_assoc, decodeOnto_of_fetch (fetch_form offset form _), ih, readingFrom_cons,
      List.reverse_cons, List.append_assoc, List.singleton_append, List.length_append, Nat.add_assoc]

theorem decode_spell (forms : List Form) : decode (spell forms) = .ok (readingFrom 0 forms) := by
  have h := decodeOnto_spell_append forms [] [] 0
  rw [List.append_nil, List.append_nil, decodeOnto, List.reverse_reverse] at h
  exact h

theorem decode_of_fetch_error {forms : List Form} {rest : List UInt8} {e : DecodeError} (hrest : rest ≠ [])
    (h : fetch (spell forms).length rest = .error e) : decode (spell forms ++ rest) = .error e := by
  rw [decode, decodeOnto_spell_append, Nat.zero_add, decodeOnto_of_fetch_error hrest h]

/-- Any code is forms, and behind them what cannot be fetched, if anything. -/
theorem exists_forms (offset : Nat) (code : List UInt8) :
    ∃ forms rest, code = spell forms ++ rest ∧
      (rest ≠ [] → ∃ e, fetch (offset + (spell forms).length) rest = .error e) := by
  induction hn : code.length using Nat.strongRecOn generalizing offset code with
  | ind n ih =>
    cases hf : fetch offset code with
    | error e => exact ⟨[], code, rfl, fun _ => ⟨e, hf⟩⟩
    | ok f =>
      have hshort := fetch_shortens hf
      obtain ⟨form, hform, -⟩ := exists_form_of_fetch hf
      obtain ⟨forms, rest, hforms, hrest⟩ := ih f.rest.length (hn ▸ hshort) (offset + form.bytes.length) f.rest rfl
      refine ⟨form :: forms, rest, by rw [spell_cons, List.append_assoc, ← hforms, hform], ?_⟩
      rw [spell_cons, List.length_append, ← Nat.add_assoc]
      exact hrest

/-- **What code reads back as.** -/
theorem decode_eq_ok_iff (code : List UInt8) (is : List (Nat × Instruction)) :
    decode code = .ok is ↔ ∃ forms, spell forms = code ∧ readingFrom 0 forms = is := by
  constructor
  · intro h
    obtain ⟨forms, rest, rfl, hrest⟩ := exists_forms 0 code
    rw [Nat.zero_add] at hrest
    by_cases hnil : rest = []
    · subst hnil
      rw [List.append_nil, decode_spell] at h
      cases h
      exact ⟨forms, (List.append_nil _).symm, rfl⟩
    · obtain ⟨e, he⟩ := hrest hnil
      rw [decode_of_fetch_error hnil he] at h
      cases h
  · rintro ⟨forms, rfl, rfl⟩
    exact decode_spell forms

/-- **Code reads back exactly if forms spell it.**  The forms are found in one way only, what is read are their meanings
with the offsets they start at, and they cover the code without a gap.  Written instructions read back as they are. -/
theorem decode_iff_spelled :
    (∀ code, (∃ is, decode code = .ok is) ↔ ∃ forms, spell forms = code) ∧ Function.Injective spell ∧
    (∀ forms, decode (spell forms) = .ok (forms.mapIdx fun i form => (start forms i, form.meaning))) ∧
    (∀ forms, start forms 0 = 0 ∧ start forms forms.length = (spell forms).length ∧
      ∀ i (h : i < forms.length),
        (spell forms).drop (start forms i) = forms[i].bytes ++ (spell forms).drop (start forms (i + 1)) ∧
        start forms (i + 1) = start forms i + forms[i].bytes.length ∧
        ∀ op, forms[i].bytes.head? = some op → forms[i].bytes.length = forms[i].meaning.sizeBehind op) ∧
    ∀ is, decode (Instruction.encodeAll is) =
      .ok (is.mapIdx fun i instruction => (((is.take i).map Instruction.size).sum, instruction)) := by
  refine ⟨?_, spell_injective, ?_, ?_, ?_⟩
  · intro code
    constructor
    · rintro ⟨is, h⟩
      obtain ⟨forms, hforms, -⟩ := (decode_eq_ok_iff code is).1 h
      exact ⟨forms, hforms⟩
    · rintro ⟨forms, hforms⟩
      exact ⟨_, (decode_eq_ok_iff code _).2 ⟨forms, hforms, rfl⟩⟩
  · intro forms
    have hread : readingFrom 0 forms = forms.mapIdx fun i form => (start forms i, form.meaning) := by
      simp only [readingFrom, Nat.zero_add]
    exact (decode_eq_ok_iff _ _).2 ⟨forms, rfl, hread⟩
  · intro forms
    refine ⟨start_zero forms, start_length forms, fun i h => ⟨?_, start_succ h, fun op => length_bytes_eq⟩⟩
    rw [drop_start, drop_start, List.drop_eq_getElem_cons h, spell_cons]
  · intro is
    rw [decode_encodeAll, Instruction.layout_eq_mapIdx]
    simp only [Nat.zero_add]

example : decode [0x0E, 0x2A, 0xFE, 0x09, 0x29, 0x00, 0x2A] = .ok [(0, .ldarg 42), (2, .ldarg 41), (6, .ret)] := by
  cbv

end Code
end CilThunk
