import CilThunk.Proofs.Code.AcceptedRun
import CilThunk.Proofs.Code.BufferTrace
import CilThunk.Proofs.Code.Layout
/-!
# BuiltCode — built code before the verifier

The buffer charges operations as they come; the verifier charges instructions that it read back, and finds the effect
of a call in the table of sites.  On the code and the sites of one run the two charge the same up to the first return
(`climbs_placed_iff`), since the table has one site at each offset and it is the call's own (`siteOf?_sites`).  Behind
the first return they differ, and the verifier never gets there.
-/
namespace CilThunk

open Operation Verify

namespace Operation

/-- Every tail mark is followed by a call and a return. -/
def TailMarksPlaced (ops : List Operation) : Prop :=
  ∀ pre post, ops = pre ++ .tailMark :: post → ∃ a t v rest, post = .call a t :: .leave v :: rest

theorem tailMarksPlaced_nil : TailMarksPlaced [] := by
  intro pre post h
  cases pre <;> cases h

theorem tailMarksPlaced_cons (op : Operation) (ops : List Operation) :
    TailMarksPlaced (op :: ops) ↔
      (op = .tailMark → ∃ a t v rest, ops = .call a t :: .leave v :: rest) ∧ TailMarksPlaced ops := by
  constructor
  · intro h
    exact ⟨fun hop => h [] ops (by rw [hop]; rfl), fun pre post hs => h (op :: pre) post (by rw [hs]; rfl)⟩
  · rintro ⟨hop, hops⟩ pre post hs
    obtain ⟨-, hs⟩ | ⟨pre', -, hs⟩ := List.cons_eq_append_iff.1 hs
    · cases hs
      exact hop rfl
    · exact hops pre' post hs

theorem instruction_eq_ret_iff (op : Operation) : op.instruction = .ret ↔ ∃ v, op = .leave v := by
  cases op <;> simp [instruction]

theorem instruction_eq_tail_iff (op : Operation) : op.instruction = .tail ↔ op = .tailMark := by
  cases op <;> simp [instruction]

/-- The instructions of a run, each with the offset it stands at. -/
def placed (offset : Nat) (ops : List Operation) : List (Nat × Instruction) :=
  Instruction.layout offset (ops.map instruction)

theorem placed_append (offset : Nat) (xs ys : List Operation) :
    placed offset (xs ++ ys) = placed offset xs ++ placed (offset + (encode xs).length) ys := by
  simp only [placed, List.map_append, Instruction.layout_append, encode]

theorem decode_encode (ops : List Operation) : Code.decode (encode ops) = .ok (placed 0 ops) :=
  Code.decode_encodeAll _

theorem isTailCall_placed_iff (offset : Nat) (ops : List Operation) :
    isTailCall (placed offset ops) = true ↔ ∃ a t v rest, ops = .call a t :: .leave v :: rest := by
  match ops with
  | [] => simp [placed, Instruction.layout, isTailCall]
  | [x] => cases x <;> simp [placed, Instruction.layout, isTailCall, instruction]
  | x :: y :: rest => cases x <;> cases y <;> simp [placed, Instruction.layout, isTailCall, instruction]

theorem tailsPlaced_placed_iff : ∀ (ops : List Operation) (offset : Nat),
    TailsPlaced (placed offset ops) ↔ TailMarksPlaced ops
  | [], _ => ⟨fun _ => tailMarksPlaced_nil, fun _ => tailsPlaced_nil⟩
  | op :: ops, offset => by
    rw [tailMarksPlaced_cons]
    change TailsPlaced ((offset, op.instruction) :: placed (offset + op.instruction.size) ops) ↔ _
    rw [tailsPlaced_cons, tailsPlaced_placed_iff ops, isTailCall_placed_iff, instruction_eq_tail_iff]

/-! ## The sites of a run -/

/-- **The site of a call in the table of its run is its own.** -/
theorem siteOf?_sites (adjustment : Int32) (token : Token) (post : List Operation) :
    ∀ (pre : List Operation) (offset : Nat),
      siteOf? (sites offset (pre ++ .call adjustment token :: post)) (offset + (encode pre).length) token =
        some ⟨offset + (encode pre).length, token, adjustment⟩
  | [], offset => by simp [siteOf?, sites, callSites, encode, Instruction.encodeAll]
  | op :: pre, offset => by
    have hpos := Instruction.size_pos op.instruction
    have hlen : offset + (encode (op :: pre)).length = offset + op.instruction.size + (encode pre).length := by
      rw [length_encode_cons, Nat.add_assoc]
    -- the site of `op`, if it has one, stands before the call
    have hskip : (op.callSites offset).toList.find? (fun site =>
        site.offset == offset + op.instruction.size + (encode pre).length && site.token == token) = none := by
      rw [List.find?_eq_none]
      intro site hm
      have hs : site.offset = offset := by cases op <;> simp_all [callSites]
      simp only [hs, Bool.and_eq_true, beq_iff_eq, not_and]
      omega
    rw [hlen]
    unfold siteOf?
    rw [List.cons_append, sites, List.find?_append, hskip]
    exact siteOf?_sites adjustment token post pre (offset + op.instruction.size)

/-- The table knows the effect of every operation of a run but its returns. -/
def Resolved (table : List CallSite) (offset : Nat) : List Operation → Prop
  | [] => True
  | op :: ops => (op.instruction ≠ .ret → effect? table (offset, op.instruction) = some op.delta.toInt) ∧
      Resolved table (offset + op.instruction.size) ops

theorem Resolved.of_append {table : List CallSite} {ys : List Operation} : ∀ {xs : List Operation} {offset : Nat},
    Resolved table offset (xs ++ ys) → Resolved table offset xs
  | [], _, _ => trivial
  | _ :: _, _, h => ⟨h.1, h.2.of_append⟩

theorem resolved_sites : ∀ (ops pre : List Operation),
    Resolved (sites 0 (pre ++ ops)) (encode pre).length ops
  | [], _ => trivial
  | op :: ops, pre => by
    have hrest := resolved_sites ops (pre ++ [op])
    have hlen : (encode (pre ++ [op])).length = (encode pre).length + op.instruction.size := by
      simp [encode, Instruction.encodeAll, Instruction.length_bytes]
    rw [hlen, List.append_assoc] at hrest
    refine ⟨fun hop => ?_, hrest⟩
    cases op with
    | loadArgument n => rfl
    | tailMark => rfl
    | call a t =>
      have hs := siteOf?_sites a t ops pre 0
      rw [Nat.zero_add] at hs
      simp [effect?, instruction, hs, delta]
    | leave v => exact absurd rfl hop

/-! ## Built code before the verifier -/

/-- **Buffer and verifier charge the same before the return.** -/
theorem climbs_placed_iff {limit : UInt16} {table : List CallSite} {top : Int} : ∀ (ops : List Operation) {offset : Nat}
    {bottom : Int}, Resolved table offset ops →
    (Climbs limit table bottom (placed offset ops) top ↔
      (∀ op ∈ ops, op.instruction ≠ .ret) ∧ (∀ d ∈ depths bottom ops, 0 ≤ d ∧ d ≤ limit.toNat) ∧
        top = bottom + total ops)
  | [], offset, bottom, _ => by simp [placed, Instruction.layout, Climbs, depths, total, eq_comm]
  | op :: ops, offset, bottom, hr => by
    obtain ⟨hop, hr⟩ := hr
    have ih := @climbs_placed_iff limit table top ops _ (bottom + op.delta.toInt) hr
    simp only [List.forall_mem_cons, depths, total_cons, ← Int.add_assoc]
    constructor
    · rintro ⟨d, hd, h0, hl, hc⟩
      have hne : op.instruction ≠ .ret := fun h => by rw [h] at hd; cases hd
      rw [hop hne, Option.some.injEq] at hd
      subst hd
      obtain ⟨h1, h2, h3⟩ := ih.1 hc
      exact ⟨⟨hne, h1⟩, ⟨⟨h0, hl⟩, h2⟩, h3⟩
    · rintro ⟨⟨hne, h1⟩, ⟨⟨h0, hl⟩, h2⟩, h3⟩
      exact ⟨_, hop hne, h0, hl, ih.2 ⟨h1, h2, h3⟩⟩

/-- **When built code is accepted**, at any limit. -/
theorem verify_encode_eq_ok_iff (ops : List Operation) (limit : UInt16) :
    verify (encode ops) limit (sites 0 ops) = .ok () ↔
      ∃ lead isVoid, ops = lead ++ [.leave isVoid] ∧ (∀ op ∈ lead, op.instruction ≠ .ret) ∧ TailMarksPlaced ops ∧
        total lead ≤ 1 ∧ ∀ d ∈ depths 0 lead, 0 ≤ d ∧ d ≤ limit.toNat := by
  rw [verify_eq_ok_iff, decode_encode]
  have hr : ∀ lead op, ops = lead ++ [op] → Resolved (sites 0 ops) 0 lead := fun lead op h => by
    have := resolved_sites ops []
    rw [List.nil_append] at this
    rw [h] at this ⊢
    exact this.of_append
  constructor
  · rintro ⟨body, offset, top, hd, hc, h1, ht⟩
    rw [Except.ok.injEq] at hd
    rw [← hd, tailsPlaced_placed_iff] at ht
    obtain rfl | ⟨lead, op, hops⟩ := List.eq_nil_or_concat ops
    · exact absurd hd (by simp [placed, Instruction.layout])
    · rw [List.concat_eq_append] at hops
      rw [hops, placed_append] at hd
      obtain ⟨rfl, hlast⟩ := List.append_inj' hd rfl
      simp only [placed, List.map_cons, List.map_nil, Instruction.layout, List.cons.injEq, Prod.mk.injEq] at hlast
      obtain ⟨v, rfl⟩ := (instruction_eq_ret_iff op).1 hlast.1.2
      obtain ⟨hne, hdepths, rfl⟩ := (climbs_placed_iff lead (hr lead _ hops)).1 hc
      exact ⟨lead, v, hops, hne, ht, by omega, hdepths⟩
  · rintro ⟨lead, v, hops, hne, ht, h1, hdepths⟩
    have hp : placed 0 ops = placed 0 lead ++ [((encode lead).length, .ret)] := by
      rw [hops, placed_append]
      simp [placed, Instruction.layout, instruction]
    refine ⟨placed 0 lead, _, total lead, by rw [hp], ?_, h1, ?_⟩
    · exact (climbs_placed_iff lead (hr lead _ hops)).2 ⟨hne, hdepths, by omega⟩
    · rw [← hp]
      exact (tailsPlaced_placed_iff ops 0).2 ht

end Operation
end CilThunk
