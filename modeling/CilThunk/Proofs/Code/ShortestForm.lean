import CilThunk.Proofs.Code.Grammar
/-!
# ShortestForm — what is read, written again

Reading takes every form of a load, writing chooses the shortest.  So code that is read and written again keeps its
instructions and loses the bytes that its loads had too many (`encodeAll_cases`): it is the same code exactly if no
load in it is overlong, and writing it once more changes nothing (`encodeAll_of_decode`).
-/
namespace CilThunk

namespace Form

open LittleEndian

/-- A load whose argument has a shorter form. -/
def IsOverlong : Form → Prop
  | byteLoad index => index < 4
  | wordLoad lo hi => ofBytes16 lo hi < 256
  | firstLoad _ | tail | calli _ _ _ _ | ret => False

instance : (form : Form) → Decidable form.IsOverlong
  | byteLoad index => inferInstanceAs (Decidable (index < 4))
  | wordLoad lo hi => inferInstanceAs (Decidable (ofBytes16 lo hi < 256))
  | firstLoad _ | tail | calli _ _ _ _ | ret => inferInstanceAs (Decidable False)

/-- **A form that is written again** stays as it is, or it was overlong and gets shorter. -/
theorem bytes_meaning_cases (form : Form) :
    (¬ form.IsOverlong ∧ form.meaning.bytes = form.bytes) ∨
      (form.IsOverlong ∧ form.meaning.size < form.bytes.length) := by
  cases form with
  | firstLoad index =>
    have hfirst : ∀ i : Fin 4, (firstLoad i).meaning.bytes = (firstLoad i).bytes := by decide
    exact .inl ⟨id, hfirst index⟩
  | byteLoad index =>
    have hfirst : index.toUInt16 ≤ 3 ↔ index < 4 := by
      simp only [UInt16.le_iff_toNat_le, UInt8.lt_iff_toNat_lt, UInt8.toNat_toUInt16, UInt8.reduceToNat,
        UInt16.reduceToNat]
      omega
    have hbyte : index.toUInt16 ≤ 255 := by
      have := index.toNat_lt
      simp only [UInt16.le_iff_toNat_le, UInt8.toNat_toUInt16, UInt16.reduceToNat]
      omega
    by_cases h : index < 4
    · exact .inr ⟨h, by simp [meaning, Instruction.size, bytes, hfirst.2 h]⟩
    · exact .inl ⟨h, by simp [meaning, Instruction.bytes, bytes, hfirst.not.2 h, hbyte]⟩
  | wordLoad lo hi =>
    have hbyte : ofBytes16 lo hi ≤ 255 ↔ ofBytes16 lo hi < 256 := by
      simp only [UInt16.le_iff_toNat_le, UInt16.lt_iff_toNat_lt, UInt16.reduceToNat]
      omega
    by_cases h : ofBytes16 lo hi < 256
    · refine .inr ⟨h, ?_⟩
      simp only [meaning, Instruction.size, hbyte.2 h, if_true, bytes, List.length_cons, List.length_nil]
      split <;> decide
    · have hfirst : ¬ ofBytes16 lo hi ≤ 3 := fun h3 => h (UInt16.lt_of_le_of_lt h3 (by decide))
      refine .inl ⟨h, ?_⟩
      simp only [meaning, Instruction.bytes, if_neg hfirst, if_neg (hbyte.not.2 h), bytes16_ofBytes16, bytes]
  | tail => exact .inl ⟨id, rfl⟩
  | calli b₀ b₁ b₂ b₃ => exact .inl ⟨id, congrArg (0x29 :: ·) (bytes32_ofBytes32 b₀ b₁ b₂ b₃)⟩
  | ret => exact .inl ⟨id, rfl⟩

theorem size_meaning_le (form : Form) : form.meaning.size ≤ form.bytes.length := by
  obtain ⟨-, h⟩ | ⟨-, h⟩ := form.bytes_meaning_cases
  · rw [← h, Instruction.length_bytes]
  · exact Nat.le_of_lt h

theorem map_snd_readingFrom (offset : Nat) (forms : List Form) :
    (readingFrom offset forms).map (·.2) = forms.map meaning := by
  induction forms generalizing offset with
  | nil => rfl
  | cons form forms ih => rw [readingFrom_cons, List.map_cons, ih, List.map_cons]

/-- **Forms that are written again** are the same code, or one of them was overlong and the code gets shorter. -/
theorem encodeAll_cases (forms : List Form) :
    ((∀ form ∈ forms, ¬ form.IsOverlong) ∧ Instruction.encodeAll (forms.map meaning) = spell forms) ∨
      ((∃ form ∈ forms, form.IsOverlong) ∧
        (Instruction.encodeAll (forms.map meaning)).length < (spell forms).length) := by
  induction forms with
  | nil => exact .inl ⟨(fun _ h => by cases h), rfl⟩
  | cons form forms ih =>
    rw [List.map_cons, Instruction.encodeAll_cons, spell_cons, List.length_append, List.length_append,
      Instruction.length_bytes]
    have hle := form.size_meaning_le
    obtain ⟨hshort, hform⟩ | ⟨hlong, hform⟩ := form.bytes_meaning_cases
    · obtain ⟨hall, heq⟩ | ⟨⟨x, hx, hlong⟩, hlt⟩ := ih
      · exact .inl ⟨List.forall_mem_cons.2 ⟨hshort, hall⟩, by rw [hform, heq]⟩
      · exact .inr ⟨⟨x, List.mem_cons_of_mem _ hx, hlong⟩, by omega⟩
    · refine .inr ⟨⟨form, List.mem_cons_self, hlong⟩, ?_⟩
      obtain ⟨-, heq⟩ | ⟨-, hlt⟩ := ih
      · rw [heq]
        omega
      · omega

theorem length_encodeAll_le (forms : List Form) :
    (Instruction.encodeAll (forms.map meaning)).length ≤ (spell forms).length := by
  obtain ⟨-, h⟩ | ⟨-, h⟩ := encodeAll_cases forms
  · rw [h]
  · exact Nat.le_of_lt h

/-- Written again, each instruction stands where it stood or before. -/
theorem layout_le_reading (forms : List Form) : ∀ {near far : Nat}, near ≤ far →
    List.Forall₂ (fun x y => x.2 = y.2 ∧ x.1 ≤ y.1) (Instruction.layout near (forms.map meaning))
      (readingFrom far forms) := by
  induction forms with
  | nil => exact fun _ => .nil
  | cons form forms ih =>
    intro near far h
    rw [readingFrom_cons]
    exact .cons ⟨rfl, h⟩ (ih (Nat.add_le_add h form.size_meaning_le))

end Form

namespace Code

open Form Instruction

/-- **Writing again what was read makes code canonical**: it gets no longer, has the same instructions at the same
places or before, stays as it is exactly if no load in it is overlong, and after that for good.  What an instruction is
written as is therefore the shortest code that reads as it. -/
theorem encodeAll_of_decode :
    (∀ code is, decode code = .ok is →
      (encodeAll (is.map (·.2))).length ≤ code.length ∧
      (∃ is', decode (encodeAll (is.map (·.2))) = .ok is' ∧ List.Forall₂ (fun x y => x.2 = y.2 ∧ x.1 ≤ y.1) is' is ∧
        encodeAll (is'.map (·.2)) = encodeAll (is.map (·.2))) ∧
      ∃ forms, spell forms = code ∧ readingFrom 0 forms = is ∧
        (encodeAll (is.map (·.2)) = code ↔ ∀ form ∈ forms, ¬ form.IsOverlong)) ∧
    ∀ i : Instruction, decode i.bytes = .ok [(0, i)] ∧
      ∀ code offset, decode code = .ok [(offset, i)] → i.bytes.length ≤ code.length := by
  have hsingle : ∀ i : Instruction, encodeAll [i] = i.bytes := fun i => List.flatMap_singleton Instruction.bytes i
  refine ⟨fun code is h => ?_, fun i => ⟨?_, fun code offset h => ?_⟩⟩
  · obtain ⟨forms, rfl, rfl⟩ := (decode_eq_ok_iff code is).1 h
    rw [map_snd_readingFrom]
    refine ⟨length_encodeAll_le forms, ⟨_, decode_encodeAll _, layout_le_reading forms (Nat.le_refl 0), ?_⟩,
      forms, rfl, rfl, ?_⟩
    · rw [map_snd_layout]
    · obtain ⟨hall, heq⟩ | ⟨⟨form, hform, hlong⟩, hlt⟩ := encodeAll_cases forms
      · exact iff_of_true heq hall
      · exact iff_of_false (fun heq => by rw [heq] at hlt; omega) fun hall => hall form hform hlong
  · rw [← hsingle, decode_encodeAll]
    rfl
  · obtain ⟨forms, rfl, hread⟩ := (decode_eq_ok_iff code _).1 h
    have hmeaning : forms.map meaning = [i] := by rw [← map_snd_readingFrom 0, hread, List.map_singleton]
    rw [← hsingle, ← hmeaning]
    exact length_encodeAll_le forms

theorem encodeAll_of_decode_overlong :
    decode [0x0E, 0x02, 0xFE, 0x09, 0x07, 0x00, 0x2A] = .ok [(0, .ldarg 2), (2, .ldarg 7), (6, .ret)] ∧
      encodeAll [.ldarg 2, .ldarg 7, .ret] = [0x04, 0x0E, 0x07, 0x2A] ∧
      encodeAll [.ldarg 2, .ldarg 7, .ret] ≠ [0x0E, 0x02, 0xFE, 0x09, 0x07, 0x00, 0x2A] ∧
      ∃ forms, spell forms = [0x0E, 0x02, 0xFE, 0x09, 0x07, 0x00, 0x2A] ∧ ∃ form ∈ forms, form.IsOverlong := by
  have h : decode [0x0E, 0x02, 0xFE, 0x09, 0x07, 0x00, 0x2A] = .ok [(0, .ldarg 2), (2, .ldarg 7), (6, .ret)] := by cbv
  have hne : encodeAll [.ldarg 2, .ldarg 7, .ret] ≠ [0x0E, 0x02, 0xFE, 0x09, 0x07, 0x00, 0x2A] := by decide
  obtain ⟨-, -, forms, hforms, -, hiff⟩ := encodeAll_of_decode.1 _ _ h
  obtain ⟨form, hform, hlong⟩ : ∃ form ∈ forms, form.IsOverlong := by
    simpa using (not_congr hiff).1 hne
  exact ⟨h, by decide, hne, forms, hforms, form, hform, hlong⟩

end Code
end CilThunk
