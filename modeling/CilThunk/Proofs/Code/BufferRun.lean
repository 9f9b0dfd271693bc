import CilThunk.Proofs.Code.BuiltCode
/-!
# BufferRun — every state on the way of a run

A run gets to its end exactly if all sums of effects from its start on are numbers of values that fit in 32 bits.  It
then passes through states that its operations alone decide (`Buffer.Holds`): the code reads back as the instructions
where they were put, each call has its site there, and the depth is the sum of the effects and its bound the greatest
of the sums so far.
-/
namespace CilThunk

namespace Operation

/-- What an operation does to the number of values on the stack. -/
def effect : Operation → Int
  | loadArgument _ => 1
  | tailMark => 0
  | call adjustment _ => adjustment.toInt
  | leave isVoid => if isVoid then 0 else -1

def rise (ops : List Operation) : Int := (ops.map effect).sum

theorem toInt_delta (op : Operation) : op.delta.toInt = op.effect := by
  cases op with
  | leave isVoid => cases isVoid <;> rfl
  | _ => rfl

theorem total_eq_rise (ops : List Operation) : total ops = rise ops :=
  congrArg List.sum (List.map_congr_left (fun op _ => op.toInt_delta))

/-- Operations and the offsets of their instructions, from `offset` on: each stands behind those before it. -/
def located (offset : Nat) (ops : List Operation) : List (Nat × Operation) :=
  ops.mapIdx (fun k op => (offset + ((ops.take k).map (·.instruction.size)).sum, op))

/-- The site of a call that stands at `offset`. -/
def site? (offset : Nat) : Operation → Option CallSite
  | call adjustment token => some ⟨offset, token, adjustment⟩
  | _ => none

theorem located_cons (offset : Nat) (op : Operation) (ops : List Operation) :
    located offset (op :: ops) = (offset, op) :: located (offset + op.instruction.size) ops := by
  simp only [located, List.mapIdx_cons, List.take_zero, List.map_nil, List.sum_nil, Nat.add_zero, List.take_succ_cons,
    List.map_cons, List.sum_cons, Nat.add_assoc]

theorem placed_eq_located : ∀ (ops : List Operation) (offset : Nat),
    placed offset ops = (located offset ops).map (fun x => (x.1, x.2.instruction))
  | [], _ => rfl
  | op :: ops, offset => by
    rw [located_cons, List.map_cons, ← placed_eq_located ops]
    rfl

theorem sites_eq_located : ∀ (ops : List Operation) (offset : Nat),
    sites offset ops = (located offset ops).filterMap (fun x => x.2.site? x.1)
  | [], _ => rfl
  | op :: ops, offset => by
    rw [located_cons, sites, sites_eq_located ops]
    cases op <;> rfl

theorem length_encode (ops : List Operation) : (encode ops).length = (ops.map (·.instruction.size)).sum := by
  induction ops with
  | nil => rfl
  | cons op ops ih => rw [length_encode_cons, ih, List.map_cons, List.sum_cons]

theorem map_instruction_emissions (offset : Nat) (ops : List Operation) :
    (emissions offset ops).map (·.instruction) = ops.map instruction := by
  induction ops generalizing offset with
  | nil => rfl
  | cons op ops ih => rw [emissions, List.map_cons, ih, List.map_cons]

/-! ## Sums from the start on -/

/-- The depths of a run are the sums of its beginnings. -/
theorem mem_depths_iff {d : Int} : ∀ {ops : List Operation} {depth : Int},
    d ∈ depths depth ops ↔ ∃ op pre, op :: pre <+: ops ∧ d = depth + total (op :: pre)
  | [], _ => by simp [depths]
  | op :: ops, depth => by
    rw [depths, List.mem_cons, mem_depths_iff]
    constructor
    · rintro (rfl | ⟨op', pre, hpre, rfl⟩)
      · exact ⟨op, [], List.prefix_cons_iff.2 (.inr ⟨[], rfl, List.nil_prefix⟩), by simp [total]⟩
      · refine ⟨op, op' :: pre, List.prefix_cons_inj op |>.2 hpre, ?_⟩
        rw [total_cons op, Int.add_assoc]
    · rintro ⟨op', pre, hpre, rfl⟩
      obtain ⟨rfl, hrest⟩ := List.cons_prefix_cons.1 hpre
      cases pre with
      | nil => exact .inl (by simp [total])
      | cons op'' pre => exact .inr ⟨op'', pre, hrest, by rw [total_cons op', Int.add_assoc]⟩

/-- What holds of the depth at the start and of all depths holds of every sum. -/
theorem forall_depths_iff {P : Int → Prop} {ops : List Operation} (h0 : P 0) :
    (∀ d ∈ depths 0 ops, P d) ↔ ∀ pre, pre <+: ops → P (rise pre) := by
  constructor
  · intro h pre hpre
    cases pre with
    | nil => exact h0
    | cons op pre =>
      rw [← total_eq_rise]
      exact h _ (mem_depths_iff.2 ⟨op, pre, hpre, (Int.zero_add _).symm⟩)
  · intro h d hd
    obtain ⟨op, pre, hpre, rfl⟩ := mem_depths_iff.1 hd
    rw [Int.zero_add, total_eq_rise]
    exact h _ hpre

theorem foldl_max_mem : ∀ (ds : List Int) (bound : Int), ds.foldl max bound ∈ bound :: ds
  | [], _ => List.mem_singleton.2 rfl
  | d :: ds, bound => by
    rw [List.foldl_cons]
    rcases List.mem_cons.1 (foldl_max_mem ds (max bound d)) with h | h
    · rw [h]
      rcases Int.le_total bound d with hle | hle
      · rw [Int.max_eq_right hle]
        exact List.mem_cons_of_mem _ List.mem_cons_self
      · rw [Int.max_eq_left hle]
        exact List.mem_cons_self
    · exact List.mem_cons_of_mem _ (List.mem_cons_of_mem _ h)

/-- **The greatest depth of a run is the greatest of its sums**, that of no operations among them. -/
theorem foldl_max_depths (ops : List Operation) :
    (∃ pre, pre <+: ops ∧ (depths 0 ops).foldl max 0 = rise pre) ∧
      ∀ pre, pre <+: ops → rise pre ≤ (depths 0 ops).foldl max 0 := by
  obtain ⟨h0, hdepths⟩ := (Buffer.foldl_max_le_iff (depths 0 ops) 0 _).1 (Int.le_refl _)
  refine ⟨?_, (forall_depths_iff h0).1 hdepths⟩
  rcases List.mem_cons.1 (foldl_max_mem (depths 0 ops) 0) with h | h
  · exact ⟨[], List.nil_prefix, h⟩
  · obtain ⟨op, pre, hpre, hmax⟩ := mem_depths_iff.1 h
    refine ⟨op :: pre, hpre, ?_⟩
    rw [hmax, Int.zero_add, total_eq_rise]

end Operation

namespace Buffer

open Operation

/-- A buffer that came to hold operations, and no others. -/
structure Holds (b : Buffer) (ops : List Operation) : Prop where
  offset : b.offset = (ops.map (·.instruction.size)).sum
  instructions : b.instructions = ops.map instruction
  decoded : Code.decode b.code.toList = .ok ((located 0 ops).map (fun x => (x.1, x.2.instruction)))
  callSites : b.callSites.toList = (located 0 ops).filterMap (fun x => x.2.site? x.1)
  depth : b.depth = rise ops
  maxDepth_eq : ∃ pre, pre <+: ops ∧ b.maxDepth = rise pre
  le_maxDepth : ∀ pre, pre <+: ops → rise pre ≤ b.maxDepth

theorem offset_after (b : Buffer) (ops : List Operation) :
    (b.after ops).offset = b.offset + (ops.map (·.instruction.size)).sum := by
  rw [← length_encode]
  exact size_appendList b.code (encode ops)

theorem instructions_after (b : Buffer) (ops : List Operation) :
    (b.after ops).instructions = b.instructions ++ ops.map instruction := by
  simp [instructions, after, map_instruction_emissions]

theorem holds_after (o : Optimization) (ops : List Operation) :
    (({ optimization := o } : Buffer).after ops).Holds ops where
  offset := (offset_after _ ops).trans (Nat.zero_add _)
  instructions := instructions_after _ ops
  decoded := by
    rw [← placed_eq_located, ← decode_encode]
    simp [after]
  callSites := by
    rw [← sites_eq_located]
    simp [after, Buffer.offset]
  depth := by
    rw [← total_eq_rise]
    exact Int.zero_add _
  maxDepth_eq := (foldl_max_depths ops).1
  le_maxDepth := (foldl_max_depths ops).2

/-- **What freezes**, and what comes of it. -/
theorem Holds.freeze {b : Buffer} {ops : List Operation} (h : b.Holds ops) :
    (65535 < b.maxDepth → b.freeze = .error (.maxStackTooLarge b.maxDepth)) ∧
      (b.maxDepth ≤ 65535 → ∃ c, b.freeze = .ok c ∧ c.bytes = b.code.toList ∧ (c.maxStack.toNat : Int) = b.maxDepth ∧
        c.callSites = b.callSites.toList) := by
  have h0 : 0 ≤ b.maxDepth := h.le_maxDepth [] List.nil_prefix
  constructor
  · intro hlt
    exact if_neg (Int.not_le.2 hlt)
  · intro hle
    refine ⟨_, if_pos hle, rfl, ?_, rfl⟩
    simp only [UInt16.toNat_ofNat']
    omega

/-- **A run gets to its end exactly if all its sums are depths.** -/
theorem emitAll_eq_none_iff_rise (o : Optimization) (ops : List Operation) :
    (({ optimization := o } : Buffer).emitAll ops).2 = none ↔ ∀ pre, pre <+: ops → InRange (rise pre) :=
  (emitAll_eq_none_iff _ ops).trans (forall_depths_iff (P := InRange) ⟨by decide, by decide⟩)

theorem holds_of_emitAll {o : Optimization} {ops : List Operation} {b : Buffer}
    (h : ({ optimization := o } : Buffer).emitAll ops = (b, none)) : b.Holds ops := by
  obtain ⟨rfl, -⟩ := emitAll_ok h
  exact holds_after o ops

/-- **A buffer is the trace of its operations**, all along a run. -/
theorem holds_of_run (o : Optimization) (ops : List Operation) :
    let fresh : Buffer := { optimization := o }
    ((fresh.emitAll ops).2 = none ↔ ∀ pre, pre <+: ops → 0 ≤ rise pre ∧ rise pre ≤ 2 ^ 31 - 1) ∧
    ((fresh.emitAll ops).2 = none → ∀ pre, pre <+: ops → ∃ b, fresh.emitAll pre = (b, none) ∧ b.Holds pre ∧
      ((∃ fault, b.freeze = .error fault) ↔ 65535 < b.maxDepth) ∧
      (b.maxDepth ≤ 65535 → ∃ c, b.freeze = .ok c ∧ c.bytes = b.code.toList ∧ (c.maxStack.toNat : Int) = b.maxDepth ∧
        c.callSites = b.callSites.toList)) := by
  intro fresh
  refine ⟨emitAll_eq_none_iff_rise o ops, fun hend pre hpre => ?_⟩
  have hsums : ∀ pre', pre' <+: pre → InRange (rise pre') := fun pre' hpre' =>
    (emitAll_eq_none_iff_rise o ops).1 hend pre' (hpre'.trans hpre)
  have hemit : fresh.emitAll pre = ((fresh.emitAll pre).1, none) :=
    Prod.ext rfl ((emitAll_eq_none_iff_rise o pre).2 hsums)
  have hholds := holds_of_emitAll hemit
  obtain ⟨hfault, hok⟩ := hholds.freeze
  refine ⟨_, hemit, hholds, ⟨?_, fun hlt => ⟨_, hfault hlt⟩⟩, hok⟩
  rintro ⟨fault, hfreeze⟩
  refine Int.not_le.1 (fun hle => ?_)
  obtain ⟨c, hc, -⟩ := hok hle
  rw [hc] at hfreeze
  cases hfreeze

/-- The greatest depth of all passes while code is built, and then has no place in a header. -/
theorem holds_of_run_greatest_depth :
    let ops : List Operation :=
      [.call 2147483647 ⟨0x11000001⟩, .tailMark, .call (-2147483647) ⟨0x11000002⟩, .leave true]
    ∃ b, ({ optimization := .debug } : Buffer).emitAll ops = (b, none) ∧ b.depth = 0 ∧ b.maxDepth = 2147483647 ∧
      b.callSites.toList = [⟨0, ⟨0x11000001⟩, 2147483647⟩, ⟨7, ⟨0x11000002⟩, -2147483647⟩] ∧
      ∃ fault, b.freeze = .error fault := by
  intro ops
  obtain ⟨b, hrun, hb, hfault, -⟩ := (holds_of_run .debug ops).2 rfl ops List.prefix_rfl
  have hmax : b.maxDepth = 2147483647 := by
    have hb : b = (({ optimization := .debug } : Buffer).emitAll ops).1 := by rw [hrun]
    rw [hb]
    rfl
  exact ⟨b, hrun, hb.depth, hmax, hb.callSites, hfault.2 (by rw [hmax]; decide)⟩

end Buffer
end CilThunk
