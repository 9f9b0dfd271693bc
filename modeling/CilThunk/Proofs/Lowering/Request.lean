import CilThunk.Proofs.Lowering.Thunk
/-!
# Request — all that can be asked of a module

A module is used by requests: for a bare row, for a lowering, for a thunk in a buffer of the caller's, for code of the
caller's to be finished, and to record or store something.  A request may be refused, and it may be broken off by a
fault part-way; the next one finds the module as it stands.  What a request can do to the counter of rows is one of
three things (`Request.perform_cases`): it never asks for a row, it asks and is refused, or the counter moves on by one.
-/
namespace CilThunk

inductive Request
  | allocate
  | lower (s : Settings) (d : Declaration)
  | assemble (s : Settings) (d : Declaration)
  /-- A thunk appended to a buffer of the caller's. -/
  | emitThunk (b : Buffer) (d : Declaration) (isTail : Bool)
  /-- Code of the caller's, finished under a fresh row. -/
  | finish (s : Settings) (d : Declaration) (convention : Convention) (code : Slot → Buffer)
  | record (signature : CallSignature)
  | store (method : UInt32) (body : MethodBody)

/-- What comes back from a request that was neither refused nor broken off. -/
structure Grant where
  slot? : Option Slot := none
  body? : Option MethodBody := none

def Grant.ofBody (body : MethodBody) : Grant := ⟨body.slot?, some body⟩

/-- What a request leaves. -/
structure Served where
  module : Module
  reply : Except (Halt LowerError) Grant

/-- The reply to a request for a row when there are no more. -/
def Served.refusal : Except (Halt LowerError) Grant := .error (.refused .signatureTableExhausted)

namespace Request

def perform (m : Module) : Request → Served
  | allocate =>
    match m.allocate with
    | .error e => ⟨m, .error (.refused e)⟩
    | .ok (slot, m) => ⟨m, .ok { slot? := some slot }⟩
  | lower s d =>
    let o := Lowering.lower m s d
    ⟨o.module, o.result.map (fun body? => (body?.map Grant.ofBody).getD {})⟩
  | assemble s d =>
    let o := Lowering.assemble m s d
    ⟨o.module, o.result.map Grant.ofBody⟩
  | emitThunk b d isTail =>
    let e := Lowering.emitThunk b m d isTail
    ⟨e.module, e.result.map (fun row => { slot? := some row.1 })⟩
  | finish s d convention code =>
    match m.allocate with
    | .error e => ⟨m, .error (.refused e)⟩
    | .ok (slot, m) =>
      let o := Lowering.finish m s d (code slot) slot convention
      ⟨o.module, o.result.map Grant.ofBody⟩
  | record signature => ⟨m.record signature, .ok {}⟩
  | store method body => ⟨(m.store method body).1, .ok {}⟩

/-- Whether a request gets as far as asking the module for a row: no ordinary method does, and a thunk only once its
loads are in the buffer. -/
def asks : Request → Bool
  | allocate => true
  | lower _ d => d.kind.isIntrinsic
  | assemble _ d => d.kind.isIntrinsic
  | emitThunk b d isTail => (b.emitAll (Lowering.lead d isTail)).2.isNone
  | finish .. => true
  | record _ => false
  | store .. => false

/-- The row that a request is handed out. -/
def slot? (m : Module) (r : Request) : Option Slot :=
  if r.asks then
    match m.allocate with
    | .ok (slot, _) => some slot
    | .error _ => none
  else none

end Request

namespace Module

/-- A module after requests in order, whatever became of each. -/
def after (m : Module) : List Request → Module
  | [] => m
  | r :: rs => (r.perform m).module.after rs

/-- The requests that were handed out a row, each with its row. -/
def granted (m : Module) : List Request → List (Request × Slot)
  | [] => []
  | r :: rs => ((r.slot? m).map (fun slot => (r, slot))).toList ++ (r.perform m).module.granted rs

theorem after_append (m : Module) (xs ys : List Request) : m.after (xs ++ ys) = (m.after xs).after ys := by
  induction xs generalizing m with
  | nil => rfl
  | cons x xs ih => exact ih _

end Module

namespace Request

theorem slot?_of_row {m : Module} {r : Request} (hm : m.nextRow ≠ 0) (hr : r.asks = true) (hrow : m.nextRow ≤ maxRow) :
    r.slot? m = some ⟨m.nextRow, hm⟩ := by
  rw [slot?, if_pos hr, Module.allocate_eq hm, if_pos hrow]

theorem slot?_of_exhausted {m : Module} {r : Request} (hm : m.nextRow ≠ 0) (hrow : ¬ m.nextRow ≤ maxRow) :
    r.slot? m = none := by
  rw [slot?, Module.allocate_eq hm, if_neg hrow]
  exact ite_self none

theorem slot?_of_not_asks {m : Module} {r : Request} (hr : r.asks = false) : r.slot? m = none := by
  rw [slot?, hr]
  rfl

end Request

namespace Lowering

theorem assemble_cases (m : Module) (s : Settings) (d : Declaration) (hm : m.nextRow ≠ 0) :
    (d.kind.isIntrinsic = false ∧ (assemble m s d).module = m ∧
      (assemble m s d).result = .error (.broken (.notAnIntrinsic d.name))) ∨
    (d.kind.isIntrinsic = true ∧ ¬ m.nextRow ≤ maxRow ∧ (assemble m s d).module = m ∧
      (assemble m s d).result = .error (.refused .signatureTableExhausted)) ∨
    (d.kind.isIntrinsic = true ∧ m.nextRow ≤ maxRow ∧ (assemble m s d).module = lowered m d ⟨m.nextRow, hm⟩ ∧
      (assemble m s d).result = .ok (thunk d m.generation ⟨m.nextRow, hm⟩)) := by
  cases hd : d.kind.isIntrinsic with
  | false =>
    refine .inl ⟨rfl, ?_, ?_⟩
    all_goals
      unfold assemble
      rw [hd]
      rfl
  | true =>
    have ha := assemble_eq s hd hm
    by_cases hrow : m.nextRow ≤ maxRow
    · rw [if_pos hrow, Prod.mk.injEq] at ha
      exact .inr (.inr ⟨rfl, hrow, ha.1, ha.2⟩)
    · rw [if_neg hrow, Prod.mk.injEq] at ha
      exact .inr (.inl ⟨rfl, hrow, ha.1, ha.2⟩)

/-- **A thunk appended to any buffer**: it may fault before it asks for its row, or behind that. -/
theorem emitThunk_cases (b : Buffer) (m : Module) (d : Declaration) (isTail : Bool) (hm : m.nextRow ≠ 0) :
    ((b.emitAll (lead d isTail)).2.isNone = false ∧ (emitThunk b m d isTail).module = m ∧
      ∃ fault, (emitThunk b m d isTail).result = .error (.broken fault)) ∨
    ((b.emitAll (lead d isTail)).2.isNone = true ∧ ¬ m.nextRow ≤ maxRow ∧ (emitThunk b m d isTail).module = m ∧
      (emitThunk b m d isTail).result = .error (.refused .signatureTableExhausted)) ∨
    ((b.emitAll (lead d isTail)).2.isNone = true ∧ m.nextRow ≤ maxRow ∧
      (emitThunk b m d isTail).module = { m with nextRow := m.nextRow + 1 } ∧
      ((emitThunk b m d isTail).result = .ok (⟨m.nextRow, hm⟩, d.convention) ∨
        ∃ fault, (emitThunk b m d isTail).result = .error (.broken fault))) := by
  unfold emitThunk
  rcases b.emitAll (lead d isTail) with ⟨led, _ | fault⟩
  · simp only
    rw [Module.allocate_eq hm]
    by_cases hrow : m.nextRow ≤ maxRow
    · rw [if_pos hrow]
      simp only
      rw [Slot.token_eq hrow]
      simp only
      refine .inr (.inr ⟨rfl, hrow, ?_⟩)
      rcases led.emitAll (callAndLeave d (.ofRow m.nextRow)) with ⟨done, _ | fault⟩
      · exact ⟨rfl, .inl rfl⟩
      · exact ⟨rfl, .inr ⟨fault, rfl⟩⟩
    · rw [if_neg hrow]
      exact .inr (.inl ⟨rfl, hrow, rfl, rfl⟩)
  · exact .inl ⟨rfl, rfl, fault, rfl⟩

/-- **All that finishing can do** to code that freezes: its row is recorded, and it is stored unless it is refused. -/
theorem finish_cases (m : Module) (s : Settings) (d : Declaration) (slot : Slot) (convention : Convention) {b : Buffer}
    {code : SealedCode} (hcode : b.freeze = .ok code) :
    ((if s.verify then code.verify else .ok ()) = .ok () ∧
      (finish m s d b slot convention).module =
        { m.record ⟨slot, convention, d.arity, d.isVoid⟩ with
          bodies := m.bodies.insert d.owner (.thunk code d.owner m.generation slot convention) } ∧
      (finish m s d b slot convention).result = .ok (.thunk code d.owner m.generation slot convention)) ∨
    (s.verify = true ∧ (finish m s d b slot convention).module = m.record ⟨slot, convention, d.arity, d.isVoid⟩ ∧
      ((∃ e, code.verify = .error (.refused e) ∧
          (finish m s d b slot convention).result = .error (.refused (.rejected d.name e))) ∨
        ∃ fault, code.verify = .error (.broken fault) ∧
          (finish m s d b slot convention).result = .error (.broken fault))) := by
  unfold finish
  rw [hcode]
  simp only
  cases hs : s.verify with
  | false => exact .inl ⟨rfl, rfl, rfl⟩
  | true =>
    rw [if_pos rfl]
    cases hv : code.verify with
    | ok u => exact .inl ⟨rfl, rfl, rfl⟩
    | error halt =>
      refine .inr ⟨rfl, ?_⟩
      cases halt with
      | refused e => exact ⟨rfl, .inl ⟨e, rfl, rfl⟩⟩
      | broken fault => exact ⟨rfl, .inr ⟨fault, rfl, rfl⟩⟩

end Lowering

/-- The counter is left at `next`, and a row that comes back is the one that was handed out. -/
structure Served.LeavesAt (o : Served) (m : Module) (next : UInt32) (slot? : Option Slot) : Prop where
  firstRow : o.module.firstRow = m.firstRow
  nextRow : o.module.nextRow = next
  reply_ne_refusal : o.reply ≠ refusal
  slot? : ∀ g, o.reply = .ok g → g.slot? = slot?

theorem Served.LeavesAt.of_ok {after m : Module} {next : UInt32} {slot? : Option Slot} {g : Grant}
    (hfirst : after.firstRow = m.firstRow) (hnext : after.nextRow = next) (hslot : g.slot? = slot?) :
    Served.LeavesAt ⟨after, .ok g⟩ m next slot? where
  firstRow := hfirst
  nextRow := hnext
  reply_ne_refusal := fun h => by cases h
  slot? := fun _ hg => Except.ok.inj hg ▸ hslot

/-- What stops for another reason gives nothing back. -/
theorem Served.LeavesAt.of_error {after m : Module} {next : UInt32} {slot? : Option Slot} {halt : Halt LowerError}
    (hfirst : after.firstRow = m.firstRow) (hnext : after.nextRow = next)
    (hhalt : halt ≠ .refused .signatureTableExhausted) : Served.LeavesAt ⟨after, .error halt⟩ m next slot? where
  firstRow := hfirst
  nextRow := hnext
  reply_ne_refusal := fun h => hhalt (Except.error.inj h)
  slot? := fun _ hg => by cases hg

namespace Request

/-- **All that a request can do to the counter of rows.** -/
theorem perform_cases (m : Module) (r : Request) (hm : m.nextRow ≠ 0) :
    (r.asks = false ∧ (r.perform m).LeavesAt m m.nextRow none) ∨
    (r.asks = true ∧ ¬ m.nextRow ≤ maxRow ∧ r.perform m = ⟨m, Served.refusal⟩) ∨
    (r.asks = true ∧ m.nextRow ≤ maxRow ∧ (r.perform m).LeavesAt m (m.nextRow + 1) (some ⟨m.nextRow, hm⟩)) := by
  cases r with
  | allocate =>
    simp only [perform, Module.allocate_eq hm]
    by_cases hrow : m.nextRow ≤ maxRow
    · rw [if_pos hrow]
      exact .inr (.inr ⟨rfl, hrow, .of_ok rfl rfl rfl⟩)
    · rw [if_neg hrow]
      exact .inr (.inl ⟨rfl, hrow, rfl⟩)
  | lower s d =>
    simp only [perform, asks]
    obtain ⟨hd, hmod, hres⟩ | ⟨hd, hrow, hmod, hres⟩ | ⟨hd, hrow, hmod, hres⟩ := Lowering.lower_cases m s d hm
    · rw [hmod, hres]
      exact .inl ⟨hd, .of_ok rfl rfl rfl⟩
    · rw [hmod, hres]
      exact .inr (.inl ⟨hd, hrow, rfl⟩)
    · rw [hmod, hres]
      exact .inr (.inr ⟨hd, hrow, .of_ok rfl rfl rfl⟩)
  | assemble s d =>
    simp only [perform, asks]
    obtain ⟨hd, hmod, hres⟩ | ⟨hd, hrow, hmod, hres⟩ | ⟨hd, hrow, hmod, hres⟩ := Lowering.assemble_cases m s d hm
    · rw [hmod, hres]
      exact .inl ⟨hd, .of_error rfl rfl (by simp)⟩
    · rw [hmod, hres]
      exact .inr (.inl ⟨hd, hrow, rfl⟩)
    · rw [hmod, hres]
      exact .inr (.inr ⟨hd, hrow, .of_ok rfl rfl rfl⟩)
  | emitThunk b d isTail =>
    simp only [perform, asks]
    obtain ⟨hb, hmod, fault, hres⟩ | ⟨hb, hrow, hmod, hres⟩ | ⟨hb, hrow, hmod, hres | ⟨fault, hres⟩⟩ :=
      Lowering.emitThunk_cases b m d isTail hm
    · rw [hmod, hres]
      exact .inl ⟨hb, .of_error rfl rfl (by simp)⟩
    · rw [hmod, hres]
      exact .inr (.inl ⟨hb, hrow, rfl⟩)
    · rw [hmod, hres]
      exact .inr (.inr ⟨hb, hrow, .of_ok rfl rfl rfl⟩)
    · rw [hmod, hres]
      exact .inr (.inr ⟨hb, hrow, .of_error rfl rfl (by simp)⟩)
  | finish s d convention code =>
    simp only [perform, Module.allocate_eq hm]
    by_cases hrow : m.nextRow ≤ maxRow
    · rw [if_pos hrow]
      refine .inr (.inr ⟨rfl, hrow, ?_⟩)
      simp only
      cases hcode : (code ⟨m.nextRow, hm⟩).freeze with
      | error fault =>
        have ho : Lowering.finish { m with nextRow := m.nextRow + 1 } s d (code ⟨m.nextRow, hm⟩) ⟨m.nextRow, hm⟩
            convention = ⟨{ m with nextRow := m.nextRow + 1 }, [], .error (.broken fault)⟩ := by
          rw [Lowering.finish, hcode]
        rw [ho]
        exact .of_error rfl rfl (by simp)
      | ok sealedCode =>
        obtain ⟨-, hmod, hres⟩ | ⟨-, hmod, ⟨e, -, hres⟩ | ⟨fault, -, hres⟩⟩ :=
          Lowering.finish_cases { m with nextRow := m.nextRow + 1 } s d ⟨m.nextRow, hm⟩ convention hcode
        · rw [hmod, hres]
          exact .of_ok rfl rfl rfl
        · rw [hmod, hres]
          exact .of_error rfl rfl (by simp)
        · rw [hmod, hres]
          exact .of_error rfl rfl (by simp)
    · rw [if_neg hrow]
      exact .inr (.inl ⟨rfl, hrow, rfl⟩)
  | record signature => exact .inl ⟨rfl, .of_ok rfl rfl rfl⟩
  | store method body => exact .inl ⟨rfl, .of_ok rfl rfl rfl⟩

end Request
end CilThunk
