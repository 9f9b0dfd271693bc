import CilThunk.Proofs.Lowering.RowCounter
/-!
# Outcomes — what becomes of one lowering

An ordinary method is passed by, an intrinsic is lowered, and the only thing that can stop it is a table of signatures
without a row to spare (`Lowering.outcomes_of_lower`).  Nothing of it is half done: the module is as it was, or it has
gained one row and one body (`Module.Gains`).
-/
namespace CilThunk

namespace Declaration

theorem isIntrinsic_kind_iff (d : Declaration) : d.kind.isIntrinsic = true ↔ Kind.ofName d.name ≠ .ordinary :=
  bne_iff_ne

theorem not_isIntrinsic_kind_iff (d : Declaration) : d.kind.isIntrinsic = false ↔ Kind.ofName d.name = .ordinary :=
  bne_eq_false_iff_eq

end Declaration

/-- The module has gained the body of a declaration and the row that it calls by, and nothing besides. -/
structure Module.Gains (m after : Module) (d : Declaration) (body : MethodBody) : Prop where
  generation : after.generation = m.generation
  firstRow : after.firstRow = m.firstRow
  nextRow : after.nextRow.toNat = m.nextRow.toNat + 1
  allocated : after.allocated.toNat = m.allocated.toNat + 1
  recorded : ∃ slot, slot.row = m.nextRow ∧ body.slot? = some slot ∧
    after.recorded = m.recorded.push ⟨slot, d.convention, d.arity, d.isVoid⟩
  stored : after.bodies.get? d.owner = some body
  others : ∀ method, method ≠ d.owner → after.bodies.get? method = m.bodies.get? method

namespace Lowering

theorem gains_lowered {m : Module} (d : Declaration) (hm : m.nextRow ≠ 0) (hfirst : m.firstRow ≤ m.nextRow)
    (hrow : m.nextRow ≤ maxRow) :
    m.Gains (lowered m d ⟨m.nextRow, hm⟩) d (thunk d m.generation ⟨m.nextRow, hm⟩) where
  generation := rfl
  firstRow := rfl
  nextRow := Request.toNat_nextRow_succ hrow
  allocated := by
    have hsucc := Request.toNat_nextRow_succ hrow
    have hle := UInt32.le_iff_toNat_le.1 hfirst
    have hfirst' : m.firstRow ≤ m.nextRow + 1 := UInt32.le_iff_toNat_le.2 (by rw [hsucc]; exact Nat.le_succ_of_le hle)
    have hbefore : m.allocated.toNat = m.nextRow.toNat - m.firstRow.toNat := UInt32.toNat_sub_of_le _ _ hfirst
    have hafter : (m.nextRow + 1 - m.firstRow).toNat = (m.nextRow + 1).toNat - m.firstRow.toNat :=
      UInt32.toNat_sub_of_le _ _ hfirst'
    rw [hbefore, ← Nat.sub_add_comm hle, ← hsucc]
    exact hafter
  recorded := ⟨_, rfl, rfl, rfl⟩
  stored := BodyStore.get?_insert_self _ _ _
  others := fun _ hne => BodyStore.get?_insert_of_ne _ hne _

/-! ## Which outcome -/

theorem lower_eq_none_iff (m : Module) (s : Settings) (d : Declaration) (hm : m.nextRow ≠ 0) :
    (lower m s d).result = .ok none ↔ Kind.ofName d.name = .ordinary := by
  obtain ⟨hd, -, hres⟩ | ⟨hd, -, -, hres⟩ | ⟨hd, -, -, hres⟩ := lower_cases m s d hm
  · rw [hres]
    exact ⟨fun _ => d.not_isIntrinsic_kind_iff.1 hd, fun _ => rfl⟩
  · rw [hres]
    exact ⟨nofun, fun h => absurd h (d.isIntrinsic_kind_iff.1 hd)⟩
  · rw [hres]
    exact ⟨nofun, fun h => absurd h (d.isIntrinsic_kind_iff.1 hd)⟩

theorem lower_eq_exhausted_iff (m : Module) (s : Settings) (d : Declaration) (hm : m.nextRow ≠ 0) :
    (lower m s d).result = .error (.refused .signatureTableExhausted) ↔
      Kind.ofName d.name ≠ .ordinary ∧ ¬ m.nextRow ≤ maxRow := by
  obtain ⟨hd, -, hres⟩ | ⟨hd, hrow, -, hres⟩ | ⟨hd, hrow, -, hres⟩ := lower_cases m s d hm
  · rw [hres]
    exact ⟨nofun, fun h => absurd (d.not_isIntrinsic_kind_iff.1 hd) h.1⟩
  · rw [hres]
    exact ⟨fun _ => ⟨d.isIntrinsic_kind_iff.1 hd, hrow⟩, fun _ => rfl⟩
  · rw [hres]
    exact ⟨nofun, fun h => absurd hrow h.2⟩

theorem lower_eq_some_iff (m : Module) (s : Settings) (d : Declaration) (hm : m.nextRow ≠ 0) :
    (∃ body, (lower m s d).result = .ok (some body)) ↔ Kind.ofName d.name ≠ .ordinary ∧ m.nextRow ≤ maxRow := by
  obtain ⟨hd, -, hres⟩ | ⟨hd, hrow, -, hres⟩ | ⟨hd, hrow, -, hres⟩ := lower_cases m s d hm
  · rw [hres]
    exact ⟨nofun, fun h => absurd (d.not_isIntrinsic_kind_iff.1 hd) h.1⟩
  · rw [hres]
    exact ⟨nofun, fun h => absurd h.2 hrow⟩
  · rw [hres]
    exact ⟨fun _ => ⟨d.isIntrinsic_kind_iff.1 hd, hrow⟩, fun _ => ⟨_, rfl⟩⟩

/-! ## What it leaves -/

theorem lower_module_of_none {m : Module} {s : Settings} {d : Declaration} (hm : m.nextRow ≠ 0)
    (h : (lower m s d).result = .ok none) : (lower m s d).module = m := by
  obtain ⟨-, hmod, -⟩ | ⟨-, -, hmod, -⟩ | ⟨-, -, -, hres⟩ := lower_cases m s d hm
  · exact hmod
  · exact hmod
  · rw [hres] at h
    cases h

/-- The only failure is the table's, and it leaves the module as it was. -/
theorem lower_of_error {m : Module} {s : Settings} {d : Declaration} {halt : Halt LowerError} (hm : m.nextRow ≠ 0)
    (h : (lower m s d).result = .error halt) :
    halt = .refused .signatureTableExhausted ∧ (lower m s d).module = m := by
  obtain ⟨-, -, hres⟩ | ⟨-, -, hmod, hres⟩ | ⟨-, -, -, hres⟩ := lower_cases m s d hm
  · rw [hres] at h
    cases h
  · rw [hres] at h
    cases h
    exact ⟨rfl, hmod⟩
  · rw [hres] at h
    cases h

theorem gains_of_lower {m : Module} {s : Settings} {d : Declaration} {body : MethodBody} (hm : m.nextRow ≠ 0)
    (hfirst : m.firstRow ≤ m.nextRow) (h : (lower m s d).result = .ok (some body)) :
    m.Gains (lower m s d).module d body := by
  obtain ⟨-, -, hres⟩ | ⟨-, -, -, hres⟩ | ⟨-, hrow, hmod, hres⟩ := lower_cases m s d hm
  · rw [hres] at h
    cases h
  · rw [hres] at h
    cases h
  · rw [hres] at h
    cases h
    rw [hmod]
    exact gains_lowered d hm hfirst hrow

/-- To lower an intrinsic is to assemble it. -/
theorem lower_of_isIntrinsic (m : Module) (s : Settings) {d : Declaration} (hd : d.kind.isIntrinsic = true) :
    (lower m s d).module = (assemble m s d).module ∧ (lower m s d).result = (assemble m s d).result.map some := by
  unfold lower
  rw [if_pos hd]
  exact ⟨rfl, rfl⟩

theorem assemble_of_not_isIntrinsic (m : Module) (s : Settings) {d : Declaration} (hd : d.kind.isIntrinsic = false) :
    (assemble m s d).module = m ∧ (assemble m s d).result = .error (.broken (.notAnIntrinsic d.name)) := by
  unfold assemble
  rw [hd]
  exact ⟨rfl, rfl⟩

/-- **A lowering has three outcomes**, told apart by the name and the counter of rows, and it changes nothing unless it
comes back with a body.  No settings, arity or state of the module make it fault or its body be turned away. -/
theorem outcomes_of_lower (generation firstRow : UInt32) (start : Module)
    (hstart : Module.new generation firstRow = .ok start) (requests : List Request) (s : Settings) (d : Declaration) :
    let m := start.after requests
    let o := lower m s d
    let a := assemble m s d
    (o.result = .ok none ∨ o.result = .error (.refused .signatureTableExhausted) ∨ ∃ body, o.result = .ok (some body)) ∧
    (o.result = .ok none ↔ Kind.ofName d.name = .ordinary) ∧
    (o.result = .error (.refused .signatureTableExhausted) ↔
      Kind.ofName d.name ≠ .ordinary ∧ 0xFFFFFF < m.nextRow.toNat) ∧
    ((∃ body, o.result = .ok (some body)) ↔ Kind.ofName d.name ≠ .ordinary ∧ m.nextRow.toNat ≤ 0xFFFFFF) ∧
    -- what each leaves
    (o.result = .ok none → o.module = m) ∧
    (∀ halt, o.result = .error halt → o.module = m) ∧
    (∀ body, o.result = .ok (some body) → m.Gains o.module d body) ∧
    -- the same without looking at the name first
    (Kind.ofName d.name ≠ .ordinary → a.module = o.module ∧ o.result = a.result.map some) ∧
    (Kind.ofName d.name = .ordinary → a.module = m ∧ a.result = .error (.broken (.notAnIntrinsic d.name))) := by
  obtain ⟨hstart, hnext, hfirst, -⟩ := Module.new_eq_ok hstart
  intro m o a
  have hm : m.nextRow ≠ 0 := Module.nextRow_after_ne_zero requests hstart
  have hle : m.firstRow ≤ m.nextRow :=
    Module.firstRow_le_nextRow_after requests hstart (by rw [hnext, hfirst]; exact UInt32.le_refl _)
  rw [← le_maxRow_iff, ← not_le_maxRow_iff]
  refine ⟨?_, lower_eq_none_iff m s d hm, lower_eq_exhausted_iff m s d hm, lower_eq_some_iff m s d hm,
    lower_module_of_none hm, fun _ h => (lower_of_error hm h).2, fun _ h => gains_of_lower hm hle h, ?_, ?_⟩
  · cases hresult : o.result with
    | error halt => exact .inr (.inl (congrArg Except.error (lower_of_error hm hresult).1))
    | ok body? =>
      cases body? with
      | none => exact .inl rfl
      | some body => exact .inr (.inr ⟨body, rfl⟩)
  · intro hd
    obtain ⟨hmodule, hresult⟩ := lower_of_isIntrinsic m s (d.isIntrinsic_kind_iff.2 hd)
    exact ⟨hmodule.symm, hresult⟩
  · intro hd
    exact assemble_of_not_isIntrinsic m s (d.not_isIntrinsic_kind_iff.2 hd)

/-- The last row goes to one method, and from then on intrinsics are refused. -/
theorem outcomes_of_lower_last_row :
    let last : Declaration := ⟨1, some 7, "TailCallIndirectCDecl", 2, false⟩
    let next : Declaration := ⟨2, none, "CallIndirect", 0, true⟩
    ∃ start body, Module.new 0 0xFFFFFF = .ok start ∧ (lower start {} last).result = .ok (some body) ∧
      start.Gains (lower start {} last).module last body ∧
      (lower (lower start {} last).module {} next).result = .error (.refused .signatureTableExhausted) ∧
      (lower (lower start {} last).module {} next).module = (lower start {} last).module := by
  intro last next
  obtain ⟨-, -, -, hsome, -, -, hgains, -⟩ := outcomes_of_lower 0 0xFFFFFF _ rfl [] {} last
  obtain ⟨-, -, hrefused, -, -, hkeep, -⟩ := outcomes_of_lower 0 0xFFFFFF _ rfl [.lower {} last] {} next
  obtain ⟨body, hbody⟩ := hsome.2 ⟨by decide, by decide⟩
  have hlast := hgains body hbody
  have hnext := hrefused.2 ⟨by decide, Nat.lt_of_lt_of_eq (by decide) hlast.nextRow.symm⟩
  exact ⟨_, body, rfl, hbody, hlast, hnext, hkeep _ hnext⟩

end Lowering
end CilThunk
