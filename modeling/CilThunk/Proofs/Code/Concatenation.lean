import CilThunk.Proofs.Code.Grammar
/-!
# Concatenation — code in front of code

A fetch goes by the bytes; where they stand only goes into the error (`fetch_eq`).  So code reads behind other code as
it does on its own, further on by what is in front of it (`decodeOnto_eq`), and a fetch never looks past the form that
it reads, so that what is in front reads as if nothing were behind it (`decode_spell_append`).
-/
namespace CilThunk

/-- The same error, `n` bytes further on. -/
def DecodeError.raise (n : Nat) : DecodeError → DecodeError
  | invalidOpcode offset opcode => invalidOpcode (offset + n) opcode
  | unexpectedEnd offset => unexpectedEnd (offset + n)

namespace Code

open Form

/-- What code reads as behind `n` bytes that read as `front`, where `result` is what it reads as on its own. -/
def behind (front : List (Nat × Instruction)) (n : Nat) (result : Except DecodeError (List (Nat × Instruction))) :
    Except DecodeError (List (Nat × Instruction)) :=
  match result with
  | .ok is => .ok (front ++ is.map fun x => (x.1 + n, x.2))
  | .error e => .error (e.raise n)

theorem behind_behind (xs ys : List (Nat × Instruction)) (m n : Nat)
    (result : Except DecodeError (List (Nat × Instruction))) :
    behind xs m (behind ys n result) = behind (xs ++ ys.map fun x => (x.1 + m, x.2)) (m + n) result := by
  cases result with
  | ok is => simp [behind, Function.comp_def, Nat.add_assoc, Nat.add_comm m n]
  | error e => cases e <;> simp [behind, DecodeError.raise, Nat.add_assoc, Nat.add_comm m n]

/-- **Where the code stands only goes into the error of a fetch.** -/
theorem fetch_eq (offset : Nat) (code : List UInt8) : fetch offset code = (fetch 0 code).mapError (·.raise offset) := by
  cases code with
  | nil => simp [fetch, Except.mapError, DecodeError.raise]
  | cons op rest =>
    simp only [fetch]
    repeat' split
    all_goals simp only [Except.mapError, DecodeError.raise, Nat.zero_add, Nat.add_comm offset]

/-- **Code reads behind other code as it does on its own.** -/
theorem decodeOnto_eq (read : List (Nat × Instruction)) (offset : Nat) (code : List UInt8) :
    decodeOnto read offset code = behind read.reverse offset (decode code) := by
  induction hn : code.length using Nat.strongRecOn generalizing read offset code with
  | ind n ih =>
    by_cases hcode : code = []
    · subst hcode
      simp [decode, decodeOnto, behind]
    · have hfetch := fetch_eq offset code
      cases hf : fetch 0 code with
      | error e =>
        rw [hf] at hfetch
        rw [decode, decodeOnto_of_fetch_error hcode hfetch, decodeOnto_of_fetch_error hcode hf]
        rfl
      | ok f =>
        rw [hf] at hfetch
        have hshort := fetch_shortens hf
        rw [decode, decodeOnto_of_fetch hfetch, decodeOnto_of_fetch hf, ih f.rest.length (hn ▸ hshort) _ _ _ rfl,
          ih f.rest.length (hn ▸ hshort) _ _ _ rfl, behind_behind]
        simp

/-- **Forms read the same with any code behind them.** -/
theorem decode_spell_append (forms : List Form) (code : List UInt8) :
    decode (spell forms ++ code) = behind (readingFrom 0 forms) (spell forms).length (decode code) := by
  rw [decode, decodeOnto_spell_append, decodeOnto_eq, List.append_nil, List.reverse_reverse, Nat.zero_add]

/-- **Decoding goes through concatenation**: behind code that reads back, all code reads as it does on its own, its
instructions at raised offsets and its error at a raised one. -/
theorem decode_append (a b : List UInt8) (xs : List (Nat × Instruction)) (h : decode a = .ok xs) :
    decode (a ++ b) =
      match decode b with
      | .ok ys => .ok (xs ++ ys.map fun y => (y.1 + a.length, y.2))
      | .error e => .error (e.raise a.length) := by
  obtain ⟨forms, rfl, rfl⟩ := (decode_eq_ok_iff a xs).1 h
  exact decode_spell_append forms b

theorem decode_append_overlong_then_cut :
    decode [0x0E, 0x02, 0xFE, 0x14] = .ok [(0, .ldarg 2), (2, .tail)] ∧
      decode ([0x0E, 0x02, 0xFE, 0x14] ++ [0x2A, 0xFE, 0x09]) = .error (.unexpectedEnd 7) ∧
      decode ([0x0E, 0x02, 0xFE, 0x14] ++ [0x2A]) = .ok [(0, .ldarg 2), (2, .tail), (4, .ret)] := by
  have h : decode [0x0E, 0x02, 0xFE, 0x14] = .ok [(0, .ldarg 2), (2, .tail)] := by cbv
  have hcut : decode [0x2A, 0xFE, 0x09] = .error (.unexpectedEnd 3) := by cbv
  have hret : decode [0x2A] = .ok [(0, .ret)] := by cbv
  refine ⟨h, ?_, ?_⟩
  · rw [decode_append _ _ _ h, hcut]
    rfl
  · rw [decode_append _ _ _ h, hret]
    rfl

end Code
end CilThunk
