import CilThunk.Proofs.Lowering.Session
/-!
# StackMachine — a thunk run

A reference machine runs the code of a body against a table of call signatures.  It is stuck at a load of an argument
that is not there, at a call whose token leads to no row or to several, at one with too few values, at a value return
without a value and at the end of the code.  The code of a thunk never gets there (`run_operations`): it calls once,
on all arguments in order, at the height of its stack bound, and returns what the call returns.
-/
namespace CilThunk

/-- What the code of a body is run against: the table, what calls do, the arguments, and whether it returns a value. -/
structure StackMachine (V : Type) where
  rows : List CallSignature
  callee : Convention → List V → V
  arguments : List V
  isVoid : Bool

namespace StackMachine

variable {V : Type}

/-- The stack, last value first, the calls so far in order, and the greatest height so far. -/
structure State (V : Type) where
  stack : List V := []
  calls : List (Convention × List V) := []
  peak : Nat := 0

/-- What a run that came to a return leaves, the returned value taken off the stack. -/
structure Final (V : Type) where
  returned : Option V
  state : State V

namespace State

def push (s : State V) (v : V) : State V :=
  { s with stack := v :: s.stack, peak := max s.peak (s.stack.length + 1) }

def pushAll (s : State V) (vs : List V) : State V := vs.foldl push s

theorem pushAll_eq : ∀ (vs : List V) {s : State V}, s.stack.length ≤ s.peak →
    s.pushAll vs = ⟨vs.reverse ++ s.stack, s.calls, max s.peak (s.stack.length + vs.length)⟩
  | [], s, h => by
    rw [List.length_nil, Nat.add_zero, Nat.max_eq_left h]
    rfl
  | v :: vs, s, h => by
    have hpush : (s.push v).stack.length ≤ (s.push v).peak := Nat.le_max_right _ _
    have hall := pushAll_eq vs hpush
    rw [pushAll] at hall ⊢
    rw [List.foldl_cons, hall, List.reverse_cons, List.append_assoc, List.singleton_append]
    simp only [push, List.length_cons, State.mk.injEq, true_and]
    omega

end State

/-- A call: its row says how many values it takes, how it calls and whether it gives one. -/
def call (m : StackMachine V) (token : Token) (s : State V) : Option (State V) :=
  if token.table? = some .standAloneSig then
    match m.rows.filter (fun r => r.slot.row == token.row) with
    | [r] =>
      if s.stack.length < r.arity.toNat then none
      else
        let taken := (s.stack.take r.arity.toNat).reverse
        let s := { s with stack := s.stack.drop r.arity.toNat, calls := s.calls ++ [(r.convention, taken)] }
        some (if r.isVoid then s else s.push (m.callee r.convention taken))
    | _ => none
  else none

/-- A return: the result is taken, if there is to be one. -/
def leave (m : StackMachine V) (s : State V) : Option (Final V) :=
  if m.isVoid then some ⟨none, s⟩
  else
    match s.stack with
    | [] => none
    | v :: stack => some ⟨some v, { s with stack := stack }⟩

/-- Instructions up to the first return, or nothing if the machine gets stuck before. -/
def run (m : StackMachine V) : List Instruction → State V → Option (Final V)
  | [], _ => none
  | .ldarg n :: is, s =>
    match m.arguments[n.toNat]? with
    | none => none
    | some v => m.run is (s.push v)
  | .tail :: is, s => m.run is s
  | .calli token :: is, s =>
    match m.call token s with
    | none => none
    | some s => m.run is s
  | .ret :: _, s => m.leave s

/-- The code of a body, from the empty stack. -/
def execute (m : StackMachine V) (code : List UInt8) : Option (Final V) :=
  match Code.decode code with
  | .error _ => none
  | .ok is => m.run (is.map (·.2)) {}

/-! ## The code of a thunk -/

theorem run_loadArguments (m : StackMachine V) (rest : List Instruction) :
    ∀ (is : List UInt16) (vs : List V) (s : State V), is.map (fun i => m.arguments[i.toNat]?) = vs.map some →
      m.run (is.map .ldarg ++ rest) s = m.run rest (s.pushAll vs)
  | [], [], _, _ => rfl
  | i :: is, v :: vs, s, h => by
    rw [List.map_cons, List.map_cons, List.cons.injEq] at h
    rw [List.map_cons, List.cons_append, run, h.1]
    exact run_loadArguments m rest is vs (s.push v) h.2
  | [], _ :: _, _, h => by cases h
  | _ :: _, [], _, h => by cases h

/-- Every argument that a thunk loads is there, and it loads them in order. -/
theorem map_loaded {m : StackMachine V} {arity : UInt16} (h : m.arguments.length = arity.toNat) :
    (Lowering.loaded arity).map (fun i => m.arguments[i.toNat]?) = m.arguments.map some := by
  have := arity.toNat_lt
  apply List.ext_getElem
  · rw [List.length_map, List.length_map, Lowering.length_loaded, h]
  · intro i hi _
    rw [List.length_map, Lowering.length_loaded] at hi
    have hread : (UInt16.ofNat i).toNat = i := UInt16.toNat_ofNat_of_lt' (show i < 65536 by omega)
    simp only [Lowering.loaded, List.getElem_map, List.getElem_range, hread]
    exact List.getElem?_eq_getElem (by omega)

theorem run_lead (m : StackMachine V) {d : Declaration} (isTail : Bool) (rest : List Instruction)
    (h : m.arguments.length = d.arity.toNat) :
    m.run ((Lowering.lead d isTail).map Operation.instruction ++ rest) {} =
      m.run rest ⟨m.arguments.reverse, [], m.arguments.length⟩ := by
  have hloads : (Lowering.loads d.arity).map Operation.instruction = (Lowering.loaded d.arity).map .ldarg := by
    rw [Lowering.loads_eq, List.map_map]
    rfl
  have hpushed : ({} : State V).pushAll m.arguments = ⟨m.arguments.reverse, [], m.arguments.length⟩ := by
    rw [@State.pushAll_eq V m.arguments {} (Nat.le_refl 0)]
    simp
  rw [Lowering.lead, List.map_append, hloads, List.append_assoc,
    run_loadArguments m _ _ _ _ (map_loaded h), hpushed]
  cases isTail <;> rfl

theorem call_of_signature {m : StackMachine V} {slot : Slot} (hrow : slot.row ≤ maxRow) {r : CallSignature}
    (hr : m.rows.filter (fun r => r.slot.row == slot.row) = [r]) (vs : List V) (h : vs.length = r.arity.toNat)
    (calls : List (Convention × List V)) (peak : Nat) :
    m.call (.ofRow slot.row) ⟨vs.reverse, calls, peak⟩ =
      some ⟨if r.isVoid then [] else [m.callee r.convention vs], calls ++ [(r.convention, vs)],
        if r.isVoid then peak else max peak 1⟩ := by
  have hlen : vs.reverse.length = r.arity.toNat := by rw [List.length_reverse, h]
  rw [call, if_pos (Token.table?_ofRow hrow), Token.row_ofRow hrow, hr]
  simp only [hlen, Nat.lt_irrefl, if_false]
  rw [← hlen, List.take_length, List.drop_length, List.reverse_reverse]
  cases r.isVoid <;> rfl

/-- **A thunk runs to its return**: one call, on all arguments in order, and nothing left on the stack. -/
theorem run_operations {m : StackMachine V} {d : Declaration} {slot : Slot} (isTail : Bool)
    (hrow : slot.row ≤ maxRow) (hr : m.rows.filter (fun r => r.slot.row == slot.row) = [Lowering.signature d slot])
    (h : m.arguments.length = d.arity.toNat) (hvoid : m.isVoid = d.isVoid) :
    m.run ((Lowering.operations d isTail (.ofRow slot.row)).map Operation.instruction) {} =
      some ⟨if d.isVoid then none else some (m.callee d.convention m.arguments),
        ⟨[], [(d.convention, m.arguments)], d.peak⟩⟩ := by
  have hcall := call_of_signature hrow hr m.arguments h [] m.arguments.length
  rw [Lowering.operations, List.map_append, run_lead m isTail _ h, Lowering.callAndLeave, List.map_cons,
    List.map_cons, List.map_nil]
  simp only [Operation.instruction, run, hcall, leave, hvoid]
  by_cases hv : d.isVoid = true
  · simp [hv, h, Lowering.signature, Declaration.peak, Declaration.yield]
  · simp [hv, h, Lowering.signature, Declaration.peak, Declaration.yield]

theorem execute_encode (m : StackMachine V) (ops : List Operation) :
    m.execute (Operation.encode ops) = m.run (ops.map Operation.instruction) {} := by
  unfold execute
  rw [Operation.decode_encode]
  simp only
  rw [Operation.placed, Instruction.map_snd_layout]

/-- **A lowered body means what its declaration says**, also after all that was lowered behind it. -/
theorem execute_of_lowered (generation firstRow : UInt32) (start : Module)
    (hstart : Module.new generation firstRow = .ok start) (steps : List (Settings × Declaration)) (d : Declaration)
    (body : MethodBody) (hbody : (d, .ok (some body)) ∈ (Lowering.lowerEach start steps).2)
    (callee : Convention → List V → V) (arguments : List V) (harguments : arguments.length = d.arity.toNat) :
    StackMachine.execute ⟨(Lowering.lowerEach start steps).1.signatures, callee, arguments, d.isVoid⟩ body.code =
      some ⟨if d.isVoid then none else some (callee d.convention arguments),
        ⟨[], [(d.convention, arguments)], body.maxStack.toNat⟩⟩ := by
  have hcontiguous := Module.contiguous_new hstart
  obtain ⟨slot, hrow, rfl, hmem⟩ := Lowering.signature_of_lowered steps hcontiguous hbody
  have hfound := (Lowering.contiguous_lowerEach steps hcontiguous).filter_signatures hmem
  have hpeak : (Lowering.thunk d start.generation slot).maxStack.toNat = d.peak :=
    Lowering.toNat_maxStack_thunkCode d (.ofRow slot.row)
  rw [hpeak]
  exact (execute_encode _ _).trans (run_operations d.kind.isTail hrow hfound harguments rfl)

theorem execute_of_lowered_first_of_two :
    ∃ start body results, Module.new 1 5 = .ok start ∧
      (Lowering.lowerEach start [({ verify := false }, ⟨1, none, "CallIndirectCDecl", 2, false⟩),
        ({ verify := false }, ⟨2, none, "TailCallIndirect", 1, true⟩)]).2 =
          (⟨1, none, "CallIndirectCDecl", 2, false⟩, .ok (some body)) :: results ∧
      body.code = [0x02, 0x03, 0x29, 0x05, 0, 0, 0x11, 0x2A] ∧
      StackMachine.execute ⟨(Lowering.lowerEach start
          [({ verify := false }, ⟨1, none, "CallIndirectCDecl", 2, false⟩),
            ({ verify := false }, ⟨2, none, "TailCallIndirect", 1, true⟩)]).1.signatures,
          fun _ vs => vs.sum, [7, 9], false⟩ body.code =
        some ⟨some 16, ⟨[], [(.c, [7, 9])], 2⟩⟩ :=
  ⟨_, _, _, rfl, rfl, rfl, execute_of_lowered 1 5 _ rfl _ ⟨1, none, "CallIndirectCDecl", 2, false⟩ _ List.mem_cons_self
    (fun _ vs => vs.sum) [7, 9] rfl⟩

end StackMachine
end CilThunk
