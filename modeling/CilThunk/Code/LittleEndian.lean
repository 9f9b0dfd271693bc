/-!
# Words as bytes, lowest first

Operands and header fields are stored with their lowest byte first.  Reading what was written gives the word back
(`ofBytes16_bytes16`, `ofBytes32_bytes32`), and any bytes are the bytes of the word they spell.
-/
namespace CilThunk
namespace LittleEndian

def bytes16 (n : UInt16) : List UInt8 := [n.toUInt8, (n / 256).toUInt8]

def bytes32 (n : UInt32) : List UInt8 :=
  [n.toUInt8, (n / 256).toUInt8, (n / 65536).toUInt8, (n / 16777216).toUInt8]

def ofBytes16 (b₀ b₁ : UInt8) : UInt16 := b₀.toUInt16 + 256 * b₁.toUInt16

def ofBytes32 (b₀ b₁ b₂ b₃ : UInt8) : UInt32 :=
  b₀.toUInt32 + 256 * b₁.toUInt32 + 65536 * b₂.toUInt32 + 16777216 * b₃.toUInt32

theorem ofBytes16_bytes16 (n : UInt16) : ofBytes16 n.toUInt8 (n / 256).toUInt8 = n := by
  apply UInt16.toNat_inj.1
  have := n.toNat_lt
  simp [ofBytes16]
  omega

theorem bytes16_ofBytes16 (b₀ b₁ : UInt8) : bytes16 (ofBytes16 b₀ b₁) = [b₀, b₁] := by
  have h₀ := b₀.toNat_lt
  have h₁ := b₁.toNat_lt
  simp only [bytes16, List.cons.injEq, and_true]
  constructor
  · apply UInt8.toNat_inj.1
    simp [ofBytes16]
  · apply UInt8.toNat_inj.1
    simp [ofBytes16]
    omega

theorem ofBytes32_bytes32 (n : UInt32) :
    ofBytes32 n.toUInt8 (n / 256).toUInt8 (n / 65536).toUInt8 (n / 16777216).toUInt8 = n := by
  apply UInt32.toNat_inj.1
  have := n.toNat_lt
  simp [ofBytes32]
  omega

theorem bytes32_ofBytes32 (b₀ b₁ b₂ b₃ : UInt8) :
    bytes32 (ofBytes32 b₀ b₁ b₂ b₃) = [b₀, b₁, b₂, b₃] := by
  have h₀ := b₀.toNat_lt
  have h₁ := b₁.toNat_lt
  have h₂ := b₂.toNat_lt
  have h₃ := b₃.toNat_lt
  simp only [bytes32, List.cons.injEq, and_true]
  refine ⟨?_, ?_, ?_, ?_⟩ <;> apply UInt8.toNat_inj.1 <;> simp [ofBytes32] <;> omega

end LittleEndian
end CilThunk
