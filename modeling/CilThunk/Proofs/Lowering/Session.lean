import CilThunk.Proofs.Lowering.Thunk
/-!
# Session — one lowering after the other

A session lowers declarations into one module, each under its own settings, and goes on behind one that failed.  Its
rows stay contiguous and what was once recorded stays recorded (`Module.Grows`), so the row that a body refers to says
how to call it for good (`signature_of_lowered`).
-/
namespace CilThunk

/-- A later state of a module: only more rows are recorded. -/
structure Module.Grows (m m' : Module) : Prop where
  generation : m'.generation = m.generation
  recorded : ∃ more, m'.recorded.toList = m.recorded.toList ++ more

namespace Module.Grows

theorem refl (m : Module) : m.Grows m := ⟨rfl, [], (List.append_nil _).symm⟩

theorem trans {m₁ m₂ m₃ : Module} (h₁ : m₁.Grows m₂) (h₂ : m₂.Grows m₃) : m₁.Grows m₃ := by
  obtain ⟨hg₁, xs, hr₁⟩ := h₁
  obtain ⟨hg₂, ys, hr₂⟩ := h₂
  exact ⟨hg₂.trans hg₁, xs ++ ys, by rw [hr₂, hr₁, List.append_assoc]⟩

theorem mem_recorded {m m' : Module} (h : m.Grows m') {signature : CallSignature} (hs : signature ∈ m.recorded) :
    signature ∈ m'.recorded := by
  obtain ⟨-, more, hr⟩ := h
  rw [← Array.mem_toList_iff] at hs ⊢
  rw [hr]
  exact List.mem_append_left _ hs

end Module.Grows

namespace Lowering

/-! ## One lowering -/

theorem lower_module {m : Module} (s : Settings) (d : Declaration) (hm : m.nextRow ≠ 0) :
    (lower m s d).module = m ∨ (m.nextRow ≤ maxRow ∧ (lower m s d).module = lowered m d ⟨m.nextRow, hm⟩) := by
  obtain ⟨-, hmod, -⟩ | ⟨-, -, hmod, -⟩ | ⟨-, hrow, hmod, -⟩ := lower_cases m s d hm
  · exact .inl hmod
  · exact .inl hmod
  · exact .inr ⟨hrow, hmod⟩

theorem contiguous_lower {m : Module} (s : Settings) (d : Declaration) (hm : m.Contiguous) :
    (lower m s d).module.Contiguous := by
  obtain hmod | ⟨hrow, hmod⟩ := lower_module s d hm.nextRow_ne_zero
  · rw [hmod]
    exact hm
  · rw [hmod]
    exact hm.record hrow rfl _

theorem grows_lower {m : Module} (s : Settings) (d : Declaration) (hm : m.nextRow ≠ 0) :
    m.Grows (lower m s d).module := by
  obtain hmod | ⟨-, hmod⟩ := lower_module s d hm
  · rw [hmod]
    exact .refl m
  · rw [hmod]
    exact ⟨rfl, [signature d ⟨m.nextRow, hm⟩], Array.toList_push⟩

/-- A body that comes out is the declaration's thunk, and its row is recorded. -/
theorem lower_eq_ok_some {m : Module} {s : Settings} {d : Declaration} {body : MethodBody} (hm : m.nextRow ≠ 0)
    (h : (lower m s d).result = .ok (some body)) :
    ∃ slot, slot.row ≤ maxRow ∧ body = thunk d m.generation slot ∧
      signature d slot ∈ (lower m s d).module.recorded := by
  obtain ⟨-, -, hres⟩ | ⟨-, -, -, hres⟩ | ⟨-, hrow, hmod, hres⟩ := lower_cases m s d hm
  · rw [hres] at h
    cases h
  · rw [hres] at h
    cases h
  · rw [hres] at h
    cases h
    refine ⟨⟨m.nextRow, hm⟩, hrow, rfl, ?_⟩
    rw [hmod]
    exact Array.mem_push_self

/-! ## A session -/

/-- Lowers declarations in order, each under its own settings, and says of each what came out. -/
def lowerEach (m : Module) :
    List (Settings × Declaration) → Module × List (Declaration × Except (Halt LowerError) (Option MethodBody))
  | [] => (m, [])
  | (s, d) :: steps =>
    let o := lower m s d
    let (last, results) := lowerEach o.module steps
    (last, (d, o.result) :: results)

theorem contiguous_lowerEach : ∀ (steps : List (Settings × Declaration)) {m : Module}, m.Contiguous →
    (lowerEach m steps).1.Contiguous
  | [], _, hm => hm
  | (s, d) :: steps, _, hm => contiguous_lowerEach steps (contiguous_lower s d hm)

theorem grows_lowerEach : ∀ (steps : List (Settings × Declaration)) {m : Module}, m.Contiguous →
    m.Grows (lowerEach m steps).1
  | [], m, _ => .refl m
  | (s, d) :: steps, _, hm =>
    (grows_lower s d hm.nextRow_ne_zero).trans (grows_lowerEach steps (contiguous_lower s d hm))

/-- **A body of a session keeps its row**: at the end of the session it is recorded how the declaration is called. -/
theorem signature_of_lowered {d : Declaration} {body : MethodBody} :
    ∀ (steps : List (Settings × Declaration)) {m : Module}, m.Contiguous →
      (d, .ok (some body)) ∈ (lowerEach m steps).2 →
      ∃ slot, slot.row ≤ maxRow ∧ body = thunk d m.generation slot ∧
        signature d slot ∈ (lowerEach m steps).1.recorded
  | [], _, _, h => by cases h
  | (s, d') :: steps, m, hm, h => by
    have hm' := contiguous_lower s d' hm
    have hgrows := grows_lower s d' hm.nextRow_ne_zero
    rcases List.mem_cons.1 h with heq | h
    · obtain ⟨rfl, hres⟩ := Prod.mk.inj heq
      obtain ⟨slot, hrow, hbody, hmem⟩ := lower_eq_ok_some hm.nextRow_ne_zero hres.symm
      exact ⟨slot, hrow, hbody, (grows_lowerEach steps hm').mem_recorded hmem⟩
    · obtain ⟨slot, hrow, hbody, hmem⟩ := signature_of_lowered steps hm' h
      exact ⟨slot, hrow, by rw [hbody, hgrows.generation], hmem⟩

end Lowering
end CilThunk
