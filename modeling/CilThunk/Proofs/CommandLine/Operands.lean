import CilThunk.Proofs.CommandLine.Gathering
import CilThunk.Proofs.Declaration.Grammar
import CilThunk.Proofs.Declaration.Sources
/-!
# Operands — which line an operand is

Operands are joined by line breaks and read as one source, so that each counts as the lines it has
(`declaredLines_operands`).  That is one line, unless it has a line break itself: then the operands behind it are told by
numbers that are not their places.
-/
namespace CilThunk
namespace CommandLine

open Declaration

/-- The lines of all operands. -/
def operandLines (operands : List String) : List (List Char) := operands.flatMap (·.toList.splitOn '\n')

theorem splitOn_operands : ∀ (operands : List String), operands ≠ [] →
    ("\n".intercalate operands).toList.splitOn '\n' = operandLines operands
  | [], h => absurd rfl h
  | [a], _ => by simp [operandLines]
  | a :: b :: operands, _ => by
    have ih := splitOn_operands (b :: operands) (List.cons_ne_nil _ _)
    rw [String.toList_intercalate] at ih ⊢
    rw [List.map_cons, List.map_cons, List.intercalate_cons_cons, ← List.map_cons, List.append_assoc,
      show "\n".toList = ['\n'] from rfl, List.singleton_append, List.splitOn_append_cons_self]
    exact congrArg (a.toList.splitOn '\n' ++ ·) ih

theorem operandLines_of_unbroken {operands : List String} (h : ∀ a ∈ operands, '\n' ∉ a.toList) :
    operandLines operands = operands.map String.toList := by
  induction operands with
  | nil => rfl
  | cons a operands ih =>
    obtain ⟨ha, hrest⟩ := List.forall_mem_cons.1 h
    have hcons : operandLines (a :: operands) = a.toList.splitOn '\n' ++ operandLines operands := List.flatMap_cons
    rw [hcons, List.splitOn_eq_singleton ha, ih hrest]
    rfl

/-- **The operands declare what their lines declare.** -/
theorem declaredLines_operands (operands : List String) :
    declaredLines ("\n".intercalate operands) 1 = numbered 1 1 (operandLines operands) := by
  by_cases h : operands = []
  · subst h
    rfl
  · rw [← splitOn_operands operands h]
    rfl

theorem declaredIn_operands (operands : List String) :
    declaredIn ("\n".intercalate operands) = declaring (operandLines operands) := by
  by_cases h : operands = []
  · subst h
    rfl
  · rw [← splitOn_operands operands h]
    rfl

/-- The declarations of the operands are those of `pieces`, and the first piece that is none is told by its place among
them. -/
structure ToldByPlace (files : FileReader) (r : LowerRequest) (pieces : List (List Char)) : Prop where
  read : (∀ x ∈ numbered 1 1 pieces, ∃ d, x.parse = .ok d) → ∃ ds, operandDeclarations r.declarations = .ok ds ∧
    List.Forall₂ (fun x d => x.parse = .ok d) (numbered 1 1 pieces) ds
  refused : ∀ before x after e, numbered 1 1 pieces = before ++ x :: after → (∀ y ∈ before, ∃ d, y.parse = .ok d) →
    x.parse = .error e →
      lower files r = ⟨1, "", "error: declaration arguments: " ++ e.message ++ "\n"⟩ ∧
      ∃ reason, e.message = "line " ++ Text.decimal x.number ++ ": " ++ reason

theorem lower_of_refused_operands {files : FileReader} {r : LowerRequest} {s : Settings} {e : DeclarationError}
    (hs : settingsOf files r = .ok s)
    (h : operandDeclarations r.declarations = .error (.refused (.operands e))) :
    lower files r = ⟨1, "", "error: declaration arguments: " ++ e.message ++ "\n"⟩ := by
  have hline : errorLine (.operands e) = "error: declaration arguments: " ++ e.message ++ "\n" := by
    change "error: " ++ ("declaration arguments: " ++ e.message) ++ "\n" = _
    rw [← String.append_assoc]
    rfl
  have hdeclarations : declarationsOf files r = .error (.refused (.operands e)) := by
    unfold declarationsOf
    rw [h]
  unfold lower
  rw [hs]
  simp only [hdeclarations, failed, hline, String.empty_append]

theorem toldByPlace_operandLines {files : FileReader} {r : LowerRequest} {s : Settings}
    (hs : settingsOf files r = .ok s) (hcount : declaring (operandLines r.declarations) < 4294967296) :
    ToldByPlace files r (operandLines r.declarations) := by
  have hread : ReadByLine ("\n".intercalate r.declarations) 1 :=
    readByLine (by rw [declaredIn_operands, show (1 : UInt32).toNat = 1 from rfl]; omega)
  obtain ⟨hok, herror, -⟩ := hread
  rw [declaredLines_operands] at hok herror
  constructor
  · intro hall
    cases hparse : parseAll ("\n".intercalate r.declarations) 1 with
    | ok ds => exact ⟨ds, parsed_eq_ok_iff.2 hparse, (hok ds).1 hparse⟩
    | error halt =>
      obtain ⟨e, -, before, x, after, hsplit, -, hx⟩ := (herror halt).1 hparse
      obtain ⟨d, hd⟩ := hall x (by rw [hsplit]; exact List.mem_append_right _ List.mem_cons_self)
      rw [hx] at hd
      cases hd
  · intro before x after e hsplit hbefore hx
    have hparse := (herror _).2 ⟨e, rfl, before, x, after, hsplit, hbefore, hx⟩
    refine ⟨lower_of_refused_operands hs ?_, (parse_eq_error_iff.1 hx).exists_reason⟩
    unfold operandDeclarations parsed
    rw [hparse]

/-- **Operands are told by their places if none has a line break**, and in general each counts as the lines it has. -/
theorem toldByPlace_of_operands (files : FileReader) (r : LowerRequest) (s : Settings)
    (hs : settingsOf files r = .ok s) (hcount : declaring (operandLines r.declarations) < 4294967296) :
    ((∀ a ∈ r.declarations, '\n' ∉ a.toList) → ToldByPlace files r (r.declarations.map String.toList)) ∧
    ToldByPlace files r (operandLines r.declarations) := by
  have hlines := toldByPlace_operandLines hs hcount
  refine ⟨fun hunbroken => ?_, hlines⟩
  rw [operandLines_of_unbroken hunbroken] at hlines
  exact hlines

/-- An operand that ends with a line break counts as two lines, and the one behind it is told as the third. -/
theorem line_break_moves_place :
    ¬ ∀ (files : FileReader) (r : LowerRequest) (s : Settings), settingsOf files r = .ok s →
      ToldByPlace files r (r.declarations.map String.toList) := by
  intro h
  let files : FileReader := fun _ => .error .notFound
  let r : LowerRequest := { declarations := ["CallIndirect/0\n", "bad"] }
  have hfirst : ∀ y ∈ [(⟨1, "CallIndirect/0", 1⟩ : NumberedLine)], ∃ d, y.parse = .ok d := by
    intro y hy
    cases List.mem_singleton.1 hy
    exact ⟨⟨1, none, "CallIndirect", 0, false⟩, by cbv⟩
  have hsecond : (⟨2, "bad", 2⟩ : NumberedLine).parse = .error (.malformed 2 "bad") := by cbv
  have hthird : (⟨3, "bad", 2⟩ : NumberedLine).parse = .error (.malformed 3 "bad") := by cbv
  have hplaces : numbered 1 1 (r.declarations.map String.toList) = [⟨1, "CallIndirect/0", 1⟩] ++ ⟨2, "bad", 2⟩ :: [] := by
    cbv
  have hlines : numbered 1 1 (operandLines r.declarations) = [⟨1, "CallIndirect/0", 1⟩] ++ ⟨3, "bad", 2⟩ :: [] := by cbv
  have htold := ((h files r {} rfl).refused _ _ _ _ hplaces hfirst hsecond).1
  have hcounted : ToldByPlace files r (operandLines r.declarations) := toldByPlace_operandLines rfl (by cbv)
  rw [(hcounted.refused _ _ _ _ hlines hfirst hthird).1] at htold
  exact absurd (congrArg (·.stderr) htold) (by decide +kernel)

/-- A comment behind a declaration, an empty operand, blanks, and then an operand that is refused by its place. -/
theorem toldByPlace_of_operands_fourth_refused :
    let files : FileReader := fun _ => .error .notFound
    let r : LowerRequest := { declarations := ["CallIndirect/1 # one", "", "\r Foo/2:void\t", "bad/x"] }
    settingsOf files r = .ok {} ∧ declaring (operandLines r.declarations) < 4294967296 ∧
      (∀ a ∈ r.declarations, '\n' ∉ a.toList) ∧
      lower files r = ⟨1, "", "error: declaration arguments: line 4: invalid arity `x`\n"⟩ := by
  intro files r
  have hcount : declaring (operandLines r.declarations) < 4294967296 := by cbv
  have hunbroken : ∀ a ∈ r.declarations, '\n' ∉ a.toList := by decide
  have hplaces : numbered 1 1 (r.declarations.map String.toList) =
      [⟨1, "CallIndirect/1", 1⟩, ⟨3, "Foo/2:void", 2⟩] ++ ⟨4, "bad/x", 3⟩ :: [] := by cbv
  have hread : ∀ y ∈ [(⟨1, "CallIndirect/1", 1⟩ : NumberedLine), ⟨3, "Foo/2:void", 2⟩], ∃ d, y.parse = .ok d := by
    intro y hy
    simp only [List.mem_cons, List.not_mem_nil, or_false] at hy
    obtain rfl | rfl := hy
    · exact ⟨⟨1, none, "CallIndirect", 1, false⟩, by cbv⟩
    · exact ⟨⟨2, none, "Foo", 2, true⟩, by cbv⟩
  have hrefused : (⟨4, "bad/x", 3⟩ : NumberedLine).parse = .error (.invalidArity 4 "x") := by cbv
  have htold := (toldByPlace_of_operands files r {} rfl hcount).1 hunbroken
  exact ⟨rfl, hcount, hunbroken, (htold.refused _ _ _ _ hplaces hread hrefused).1⟩

end CommandLine
end CilThunk
