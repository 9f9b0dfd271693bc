import CilThunk.Proofs.Code.Grammar
/-!
# BrokenCode — code that stops and code that is none

Any code is forms and then nothing, or one more form that is cut short, or bytes that no form begins with
(`decode_reading`).  A cut form can be completed; behind garbled bytes nothing helps, and the error stays what it is.
These are the two errors of decoding (`decode_error_iff`), and their offsets name the place where the forms end.
-/
namespace CilThunk
namespace Code

open Form

/-- How far behind the start of an instruction its operand is looked for: behind both bytes of a long load's opcode. -/
def operandAt : List UInt8 → Nat
  | 0xFE :: 0x09 :: _ => 2
  | _ => 1

/-- Some bytes, but not all, of a form. -/
def CutShort (bytes : List UInt8) : Prop :=
  bytes ≠ [] ∧ ∃ (form : Form) (more : List UInt8), more ≠ [] ∧ bytes ++ more = form.bytes

/-- Bytes that no form begins with, and the opcode that is to blame: one byte, or `FE` and one more. -/
inductive Garbled : List UInt8 → UInt16 → Prop
  | opcode (op : UInt8) (rest : List UInt8) (hop : ∀ form : Form, ¬ [op] <+: form.bytes) :
    Garbled (op :: rest) op.toUInt16
  | second (op : UInt8) (rest : List UInt8) (hop : ∀ form : Form, ¬ [0xFE, op] <+: form.bytes) :
    Garbled (0xFE :: op :: rest) (0xFE00 + op.toUInt16)

theorem Garbled.append {bytes : List UInt8} {opcode : UInt16} (h : Garbled bytes opcode) (more : List UInt8) :
    Garbled (bytes ++ more) opcode := by
  cases h with
  | opcode op rest hop => exact .opcode op (rest ++ more) hop
  | second op rest hop => exact .second op (rest ++ more) hop

theorem fetch_of_garbled {offset : Nat} {bytes : List UInt8} {opcode : UInt16} (h : Garbled bytes opcode) :
    fetch offset bytes = .error (.invalidOpcode offset opcode) := by
  cases h with
  | opcode op rest hop =>
    have hfirst : ¬ (0x02 ≤ op ∧ op ≤ 0x05) := by
      intro h
      rcases firstLoad_cases h with rfl | rfl | rfl | rfl
      · exact hop (.firstLoad 0) (by decide)
      · exact hop (.firstLoad 1) (by decide)
      · exact hop (.firstLoad 2) (by decide)
      · exact hop (.firstLoad 3) (by decide)
    have hbyte : op ≠ 0x0E := fun h => hop (.byteLoad 0) (by rw [h]; decide)
    have hcalli : op ≠ 0x29 := fun h => hop (.calli 0 0 0 0) (by rw [h]; decide)
    have hret : op ≠ 0x2A := fun h => hop .ret (by rw [h]; decide)
    have hlong : op ≠ 0xFE := fun h => hop .tail (by rw [h]; decide)
    simp only [fetch, if_neg hfirst, if_neg hbyte, if_neg hcalli, if_neg hret, if_neg hlong]
  | second op rest hop =>
    have hword : op ≠ 0x09 := fun h => hop (.wordLoad 0 0) (by rw [h]; decide)
    have htail : op ≠ 0x14 := fun h => hop .tail (by rw [h]; decide)
    simp [fetch, hword, htail]

theorem garbled_opcode {op : UInt8} (rest : List UInt8) (hfirst : ¬ (0x02 ≤ op ∧ op ≤ 0x05)) (hbyte : op ≠ 0x0E)
    (hcalli : op ≠ 0x29) (hret : op ≠ 0x2A) (hlong : op ≠ 0xFE) : Garbled (op :: rest) op.toUInt16 := by
  refine .opcode op rest fun form h => ?_
  cases form with
  | firstLoad index =>
    have hindex : ∀ i : Fin 4, 0x02 ≤ 0x02 + UInt8.ofNat i ∧ 0x02 + UInt8.ofNat i ≤ 0x05 := by decide
    obtain ⟨rfl, -⟩ := List.cons_prefix_cons.1 h
    exact hfirst (hindex index)
  | byteLoad index => exact hbyte (List.cons_prefix_cons.1 h).1
  | wordLoad lo hi => exact hlong (List.cons_prefix_cons.1 h).1
  | tail => exact hlong (List.cons_prefix_cons.1 h).1
  | calli b₀ b₁ b₂ b₃ => exact hcalli (List.cons_prefix_cons.1 h).1
  | ret => exact hret (List.cons_prefix_cons.1 h).1

theorem garbled_second {op : UInt8} (rest : List UInt8) (hword : op ≠ 0x09) (htail : op ≠ 0x14) :
    Garbled (0xFE :: op :: rest) (0xFE00 + op.toUInt16) := by
  refine .second op rest fun form h => ?_
  obtain ⟨hlong, h⟩ : some 0xFE = form.bytes.head? ∧ [op] <+: form.bytes.tail := by
    obtain ⟨more, h⟩ := h
    exact ⟨by rw [← h]; rfl, by rw [← h]; exact ⟨more, rfl⟩⟩
  cases form with
  | firstLoad index =>
    have hindex : ∀ i : Fin 4, some 0xFE ≠ (firstLoad i).bytes.head? := by decide
    exact hindex index hlong
  | wordLoad lo hi => exact hword (List.cons_prefix_cons.1 h).1
  | tail => exact htail (List.cons_prefix_cons.1 h).1
  | _ => cases hlong

theorem cutShort_calli : ∀ {rest : List UInt8}, (∀ b₀ b₁ b₂ b₃ more, rest ≠ b₀ :: b₁ :: b₂ :: b₃ :: more) →
    CutShort (0x29 :: rest)
  | [], _ => ⟨List.cons_ne_nil _ _, .calli 0 0 0 0, [0, 0, 0, 0], by decide, rfl⟩
  | [b₀], _ => ⟨List.cons_ne_nil _ _, .calli b₀ 0 0 0, [0, 0, 0], by decide, rfl⟩
  | [b₀, b₁], _ => ⟨List.cons_ne_nil _ _, .calli b₀ b₁ 0 0, [0, 0], by decide, rfl⟩
  | [b₀, b₁, b₂], _ => ⟨List.cons_ne_nil _ _, .calli b₀ b₁ b₂ 0, [0], by decide, rfl⟩
  | b₀ :: b₁ :: b₂ :: b₃ :: more, h => absurd rfl (h b₀ b₁ b₂ b₃ more)

theorem cutShort_wordLoad : ∀ {rest : List UInt8}, (∀ lo hi more, rest ≠ lo :: hi :: more) →
    CutShort (0xFE :: 0x09 :: rest)
  | [], _ => ⟨List.cons_ne_nil _ _, .wordLoad 0 0, [0, 0], by decide, rfl⟩
  | [lo], _ => ⟨List.cons_ne_nil _ _, .wordLoad lo 0, [0], by decide, rfl⟩
  | lo :: hi :: more, h => absurd rfl (h lo hi more)

/-- **What goes wrong with a fetch**: the bytes are cut short, or they are garbled. -/
theorem fetch_error {offset : Nat} {code : List UInt8} {e : DecodeError} (hcode : code ≠ [])
    (h : fetch offset code = .error e) :
    (CutShort code ∧ e = .unexpectedEnd (offset + operandAt code)) ∨
      ∃ opcode, Garbled code opcode ∧ e = .invalidOpcode offset opcode := by
  cases code with
  | nil => exact absurd rfl hcode
  | cons op rest =>
    simp only [fetch] at h
    split at h
    · cases h
    rename_i hfirst
    split at h
    · rename_i hop
      subst hop
      split at h
      · cases h
      · cases h
        exact .inl ⟨⟨hcode, .byteLoad 0, [0], by decide, rfl⟩, rfl⟩
    rename_i hbyte
    split at h
    · rename_i hop
      subst hop
      split at h
      · cases h
      · rename_i hrest
        cases h
        exact .inl ⟨cutShort_calli hrest, rfl⟩
    rename_i hcalli
    split at h
    · cases h
    rename_i hret
    split at h
    · rename_i hop
      subst hop
      cases rest with
      | nil =>
        cases h
        exact .inl ⟨⟨hcode, .tail, [0x14], by decide, rfl⟩, rfl⟩
      | cons second rest =>
        simp only at h
        split at h
        · rename_i hsecond
          subst hsecond
          split at h
          · cases h
          · rename_i hrest
            cases h
            exact .inl ⟨cutShort_wordLoad hrest, rfl⟩
        rename_i hword
        split at h
        · cases h
        · rename_i htail
          cases h
          exact .inr ⟨_, garbled_second rest hword htail, rfl⟩
    · rename_i hlong
      cases h
      exact .inr ⟨_, garbled_opcode rest hfirst hbyte hcalli hret hlong, rfl⟩

/-! ## Reading -/

/-- How code can read: forms, and behind them nothing, a form cut short, or bytes that no form begins with. -/
inductive Reading : List UInt8 → Except DecodeError (List (Nat × Instruction)) → Prop
  | whole (forms : List Form) : Reading (spell forms) (.ok (readingFrom 0 forms))
  | cutShort (forms : List Form) (rest : List UInt8) (h : CutShort rest) :
    Reading (spell forms ++ rest) (.error (.unexpectedEnd ((spell forms).length + operandAt rest)))
  | garbled (forms : List Form) (rest : List UInt8) (opcode : UInt16) (h : Garbled rest opcode) :
    Reading (spell forms ++ rest) (.error (.invalidOpcode (spell forms).length opcode))

/-- **How code reads**: as far as forms go, and no further. -/
theorem decode_reading (code : List UInt8) : Reading code (decode code) := by
  obtain ⟨forms, rest, rfl, hrest⟩ := exists_forms 0 code
  rw [Nat.zero_add] at hrest
  by_cases hnil : rest = []
  · subst hnil
    rw [List.append_nil, decode_spell]
    exact .whole forms
  · obtain ⟨e, he⟩ := hrest hnil
    rw [decode_of_fetch_error hnil he]
    obtain ⟨hcut, rfl⟩ | ⟨opcode, hgarbled, rfl⟩ := fetch_error hnil he
    · exact .cutShort forms rest hcut
    · exact .garbled forms rest opcode hgarbled

theorem decode_of_garbled (forms : List Form) {rest : List UInt8} {opcode : UInt16} (h : Garbled rest opcode) :
    decode (spell forms ++ rest) = .error (.invalidOpcode (spell forms).length opcode) := by
  have hnil : rest ≠ [] := by cases h <;> exact List.cons_ne_nil _ _
  exact decode_of_fetch_error hnil (fetch_of_garbled h)

theorem operandAt_pos (bytes : List UInt8) : 0 < operandAt bytes := by
  unfold operandAt
  split <;> decide

theorem CutShort.operandAt_le {bytes : List UInt8} (h : CutShort bytes) : operandAt bytes ≤ bytes.length := by
  unfold operandAt
  split
  · simp
  · exact List.length_pos_iff.2 h.1

/-- **Decoding tells code that stops from code that is none.**  It ends unexpectedly exactly if more bytes could make it
whole, and has an invalid opcode exactly if none could, and then it reads the same with any bytes behind it.  The opcode
stands where the forms end, and the end is missed where the operand of one more form would be. -/
theorem decode_error_iff (code : List UInt8) :
    ((∃ offset, decode code = .error (.unexpectedEnd offset)) ↔
      (∀ is, decode code ≠ .ok is) ∧ ∃ more is, decode (code ++ more) = .ok is) ∧
    ((∃ offset opcode, decode code = .error (.invalidOpcode offset opcode)) ↔
      ∀ more is, decode (code ++ more) ≠ .ok is) ∧
    (∀ offset opcode, decode code = .error (.invalidOpcode offset opcode) →
      (∀ more, decode (code ++ more) = .error (.invalidOpcode offset opcode)) ∧
      (∃ is, decode (code.take offset) = .ok is) ∧ Garbled (code.drop offset) opcode) ∧
    ∀ offset, decode code = .error (.unexpectedEnd offset) →
      ∃ start is, decode (code.take start) = .ok is ∧ CutShort (code.drop start) ∧ start < offset ∧
        offset ≤ code.length ∧ offset = start + operandAt (code.drop start) := by
  generalize hr : decode code = result
  cases hr ▸ decode_reading code with
  | whole forms =>
    refine ⟨iff_of_false (by simp) fun h => h.1 _ rfl, iff_of_false (by simp) fun h => ?_, by simp, by simp⟩
    exact h [] _ ((congrArg decode (List.append_nil _)).trans hr)
  | cutShort forms rest hcut =>
    obtain ⟨form, more, -, hform⟩ := hcut.2
    obtain ⟨is, hmore⟩ : ∃ is, decode (spell forms ++ rest ++ more) = .ok is := by
      rw [List.append_assoc, hform, ← spell_singleton, ← spell_append]
      exact ⟨_, decode_spell _⟩
    refine ⟨iff_of_true ⟨_, rfl⟩ ⟨by simp, more, is, hmore⟩, iff_of_false (by simp) fun h => h more is hmore,
      by simp, ?_⟩
    rintro offset ⟨⟩
    have hpos := operandAt_pos rest
    have hle := hcut.operandAt_le
    refine ⟨(spell forms).length, readingFrom 0 forms, ?_, ?_, by omega, by simpa using hle, ?_⟩
    · rw [List.take_left, decode_spell]
    · rw [List.drop_left]
      exact hcut
    · rw [List.drop_left]
  | garbled forms rest opcode hgarbled =>
    have hstays : ∀ more, decode (spell forms ++ rest ++ more) =
        .error (.invalidOpcode (spell forms).length opcode) := by
      intro more
      rw [List.append_assoc]
      exact decode_of_garbled forms (hgarbled.append more)
    refine ⟨iff_of_false (by simp) ?_, iff_of_true ⟨_, _, rfl⟩ fun more is h => ?_, ?_, by simp⟩
    · rintro ⟨-, more, is, h⟩
      rw [hstays] at h
      cases h
    · rw [hstays] at h
      cases h
    · rintro offset opcode' ⟨⟩
      refine ⟨hstays, ?_, ?_⟩
      · rw [List.take_left]
        exact ⟨_, decode_spell forms⟩
      · rw [List.drop_left]
        exact hgarbled

theorem decode_error_iff_cut_and_garbled :
    decode [0x02, 0xFE, 0x09, 0x29] = .error (.unexpectedEnd 3) ∧
      (∃ more is, decode ([0x02, 0xFE, 0x09, 0x29] ++ more) = .ok is) ∧
      (∃ start, start < 3 ∧ 3 = start + operandAt ([0x02, 0xFE, 0x09, 0x29].drop start)) ∧
      ∀ more, decode ([0x0E, 0x2A, 0xFE, 0x01] ++ more) = .error (.invalidOpcode 2 0xFE01) := by
  have hcut : decode [0x02, 0xFE, 0x09, 0x29] = .error (.unexpectedEnd 3) := by cbv
  have hgarbled : decode [0x0E, 0x2A, 0xFE, 0x01] = .error (.invalidOpcode 2 0xFE01) := by cbv
  obtain ⟨hend, -, -, hstart⟩ := decode_error_iff [0x02, 0xFE, 0x09, 0x29]
  obtain ⟨start, -, -, -, hlt, -, heq⟩ := hstart 3 hcut
  exact ⟨hcut, (hend.1 ⟨3, hcut⟩).2, ⟨start, hlt, heq⟩, ((decode_error_iff _).2.2.1 2 0xFE01 hgarbled).1⟩

end Code
end CilThunk
