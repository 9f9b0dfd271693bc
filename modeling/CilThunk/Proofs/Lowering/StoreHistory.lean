import CilThunk.Proofs.Body.StoreOrder
import CilThunk.Proofs.Lowering.RowCounter
/-!
# StoreHistory — the store is what was last written to it

A request writes at most one body, under the row it is for, and only if it ends well (`Request.bodies_perform`).  So a
run leaves in the store what its requests wrote, in order (`Module.bodies_after`): under each row the last body written
there, each row once, the rows in order.  What is refused, broken off or passed by writes nothing.
-/
namespace CilThunk

/-- The body that comes back with a reply. -/
def Served.body? (o : Served) : Option MethodBody :=
  match o.reply with
  | .ok g => g.body?
  | .error _ => none

namespace Request

/-- The row that a request means to store a body under. -/
def target? : Request → Option UInt32
  | lower _ d => some d.owner
  | assemble _ d => some d.owner
  | finish _ d _ _ => some d.owner
  | store method _ => some method
  | allocate => none
  | emitThunk .. => none
  | record _ => none

/-- The body that a request has to store in the end: the one it was made with, or the one that comes back. -/
def body? (m : Module) : Request → Option MethodBody
  | store _ body => some body
  | r => (r.perform m).body?

/-- What a request writes to the store. -/
def write? (m : Module) (r : Request) : Option (UInt32 × MethodBody) :=
  r.target?.bind (fun method => (r.body? m).map (fun body => (method, body)))

theorem write?_eq_some_iff {m : Module} {r : Request} {method : UInt32} {body : MethodBody} :
    r.write? m = some (method, body) ↔ r.target? = some method ∧ r.body? m = some body := by
  simp [write?, Option.bind_eq_some_iff]

theorem write?_of_body?_eq_none {m : Module} {r : Request} (h : r.body? m = none) : r.write? m = none := by
  cases htarget : r.target? <;> simp [write?, htarget, h]

theorem write?_of_error {m : Module} {r : Request} {halt : Halt LowerError} (h : (r.perform m).reply = .error halt) :
    r.write? m = none := by
  have hbody : (r.perform m).body? = none := by
    rw [Served.body?, h]
  apply write?_of_body?_eq_none
  cases r with
  | store => cases h
  | _ => simp [body?, hbody]

theorem bodies_finish (m : Module) (s : Settings) (d : Declaration) (convention : Convention) (b : Buffer)
    (slot : Slot) :
    let o := Lowering.finish m s d b slot convention
    (∃ halt, o.result = .error halt ∧ o.module.bodies = m.bodies) ∨
      ∃ body, o.result = .ok body ∧ o.module.bodies = m.bodies.insert d.owner body := by
  intro o
  cases hcode : b.freeze with
  | error fault =>
    have ho : o = ⟨m, [], .error (.broken fault)⟩ := by
      change Lowering.finish m s d b slot convention = _
      rw [Lowering.finish, hcode]
    rw [ho]
    exact .inl ⟨_, rfl, rfl⟩
  | ok code =>
    obtain ⟨-, hmod, hres⟩ | ⟨-, hmod, ⟨e, -, hres⟩ | ⟨fault, -, hres⟩⟩ :=
      Lowering.finish_cases m s d slot convention hcode
    · exact .inr ⟨_, hres, congrArg Module.bodies hmod⟩
    · exact .inl ⟨_, hres, congrArg (·.bodies) hmod⟩
    · exact .inl ⟨_, hres, congrArg (·.bodies) hmod⟩

/-- **A request writes at most one body**, under the row it is for. -/
theorem bodies_perform (m : Module) (r : Request) (hm : m.nextRow ≠ 0) :
    (r.perform m).module.bodies = m.bodies.insertAll (r.write? m).toList := by
  cases r with
  | allocate =>
    simp only [perform, Module.allocate_eq hm]
    by_cases hrow : m.nextRow ≤ maxRow
    · rw [if_pos hrow]
      rfl
    · rw [if_neg hrow]
      rfl
  | lower s d =>
    simp only [write?, target?, body?, Served.body?, perform]
    obtain ⟨-, hmod, hres⟩ | ⟨-, -, hmod, hres⟩ | ⟨-, -, hmod, hres⟩ := Lowering.lower_cases m s d hm
    all_goals
      rw [hmod, hres]
      rfl
  | assemble s d =>
    simp only [write?, target?, body?, Served.body?, perform]
    obtain ⟨-, hmod, hres⟩ | ⟨-, -, hmod, hres⟩ | ⟨-, -, hmod, hres⟩ := Lowering.assemble_cases m s d hm
    all_goals
      rw [hmod, hres]
      rfl
  | emitThunk b d isTail =>
    simp only [perform]
    obtain ⟨-, hmod, -⟩ | ⟨-, -, hmod, -⟩ | ⟨-, -, hmod, -⟩ := Lowering.emitThunk_cases b m d isTail hm
    all_goals
      rw [hmod]
      rfl
  | finish s d convention code =>
    simp only [write?, target?, body?, Served.body?, perform, Module.allocate_eq hm]
    by_cases hrow : m.nextRow ≤ maxRow
    · rw [if_pos hrow]
      simp only
      obtain ⟨halt, hres, hbodies⟩ | ⟨body, hres, hbodies⟩ :=
        bodies_finish { m with nextRow := m.nextRow + 1 } s d convention (code ⟨m.nextRow, hm⟩) ⟨m.nextRow, hm⟩
      all_goals
        rw [hbodies, hres]
        rfl
    · rw [if_neg hrow]
      rfl
  | record signature => rfl
  | store method body => rfl

/-- No entry changes but the one under the row that the request is for. -/
theorem get?_perform_of_ne {m : Module} {r : Request} {method : UInt32} (hm : m.nextRow ≠ 0)
    (h : r.target? ≠ some method) : (r.perform m).module.bodies.get? method = m.bodies.get? method := by
  rw [bodies_perform m r hm]
  cases hw : r.write? m with
  | none => rfl
  | some w =>
    obtain ⟨htarget, -⟩ := write?_eq_some_iff.1 hw
    exact BodyStore.get?_insert_of_ne _ (fun heq => h (by rw [heq]; exact htarget)) _

end Request

/-! ## A run of requests -/

namespace Module

open Request

/-- What requests write to the store of a module, in order. -/
def writes (m : Module) : List Request → List (UInt32 × MethodBody)
  | [] => []
  | r :: rs => (r.write? m).toList ++ (r.perform m).module.writes rs

/-- **What a run leaves in the store**: all that was written, each body in place of the one before it under its row. -/
theorem bodies_after : ∀ (rs : List Request) {m : Module}, m.nextRow ≠ 0 →
    (m.after rs).bodies = m.bodies.insertAll (m.writes rs)
  | [], _, _ => rfl
  | r :: rs, m, hm => by
    rw [after, bodies_after rs (nextRow_perform_ne_zero r hm), bodies_perform m r hm, writes,
      BodyStore.insertAll_append]

/-- **The store is a map in which the last write wins**, listed by row. -/
theorem bodies_of_session (generation firstRow : UInt32) (start : Module)
    (hstart : Module.new generation firstRow = .ok start) (requests : List Request) :
    let m := start.after requests
    let writes := start.writes requests
    -- the entries
    (∀ method, m.bodies.get? method = writes.reverse.lookup method) ∧
    (∃ methods : List UInt32, methods.Pairwise (· < ·) ∧ (∀ method, method ∈ methods ↔ method ∈ writes.map (·.1)) ∧
      m.bodies.bodies.map some = methods.map m.bodies.get? ∧ m.bodies.size = methods.length) ∧
    m.bodies.size = m.bodies.bodies.length ∧
    -- each step
    ∀ pre r post, requests = pre ++ r :: post →
      let before := start.after pre
      let after := (r.perform before).module
      (∀ method, r.target? ≠ some method → after.bodies.get? method = before.bodies.get? method) ∧
      (∀ method body, r.target? = some method → r.body? before = some body → after.bodies.get? method = some body) ∧
      (r.body? before = none → after.bodies = before.bodies) ∧
      (∀ halt, (r.perform before).reply = .error halt → after.bodies = before.bodies) := by
  obtain ⟨hfirst, hempty⟩ := eq_of_new hstart
  have hm : start.nextRow ≠ 0 := by rw [hempty]; exact hfirst
  have hbodies := bodies_after requests hm
  rw [show start.bodies = {} by rw [hempty]] at hbodies
  intro m writes
  have hordered : m.bodies.Ordered := by
    rw [hbodies]
    exact BodyStore.Ordered.insertAll writes BodyStore.ordered_empty
  have hincreasing : (m.bodies.entries.map (·.1)).Pairwise (· < ·) := List.pairwise_map.2 hordered
  refine ⟨?_, ⟨m.bodies.entries.map (·.1), hincreasing, ?_, hordered.map_bodies, ?_⟩, ?_, ?_⟩
  · intro method
    rw [hbodies, BodyStore.get?_insertAll]
    exact Option.or_none
  · intro method
    rw [hbodies, BodyStore.mem_rows_insertAll]
    exact or_iff_left List.not_mem_nil
  · exact (List.length_map _).symm
  · exact (List.length_map _).symm
  · rintro pre r post -
    have hpre : (start.after pre).nextRow ≠ 0 := nextRow_after_ne_zero pre hm
    have hstep := bodies_perform (start.after pre) r hpre
    refine ⟨fun method => get?_perform_of_ne hpre, fun method body htarget hbody => ?_, fun hbody => ?_,
      fun halt herror => ?_⟩
    · rw [hstep, write?_eq_some_iff.2 ⟨htarget, hbody⟩]
      exact BodyStore.get?_insert_self _ method body
    · rw [hstep, write?_of_body?_eq_none hbody]
      rfl
    · rw [hstep, write?_of_error herror]
      rfl

/-- The owner of a partial method's thunk gets another body, and a second thunk for it comes too late for a row. -/
theorem bodies_of_session_shared_owner :
    let part : Request := .lower { verify := false } ⟨9, some 7, "CallIndirect", 0, true⟩
    let other : MethodBody := { code := [0x2A], maxStack := 0, parent := 40, debugId := ⟨3, 1⟩ }
    let late : Request := .assemble {} ⟨7, none, "CallIndirect", 0, true⟩
    ∃ start, Module.new 0 0xFFFFFF = .ok start ∧
      (start.after [part, .store 7 other, late]).bodies.get? 7 = some other ∧
      (start.after [part, .store 7 other, late]).bodies.get? 9 = none := by
  intro part other late
  obtain ⟨hget, -, -, -⟩ := bodies_of_session 0 0xFFFFFF _ rfl [part, .store 7 other, late]
  exact ⟨_, rfl, hget 7, hget 9⟩

end Module
end CilThunk
