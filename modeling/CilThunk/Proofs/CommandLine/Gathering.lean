import CilThunk.CommandLine.Run
import CilThunk.Proofs.Declaration.Numbering
/-!
# Gathering — what a request asks for

The settings of a request start their rows behind zero, whatever they come from (`firstSlot_ne_zero_of_settingsOf`).  Its
declarations are those of the operands and behind them those of the file, numbered from one on through both
(`Declares.numbered`), and as long as 32 bits are enough to count them, they are read or refused, and nothing faults
(`declarationsOf_cases`).
-/
namespace CilThunk

/-! ## Settings -/

theorem Settings.firstSlot_ne_zero_of_parse {text : String} {s : Settings} (h : Settings.parse text = .ok s) :
    s.firstSlot ≠ 0 := by
  unfold Settings.parse at h
  split at h
  · cases h
  · unfold Settings.ofEntries at h
    split at h
    · cases h
    · split at h
      · cases h
      · rename_i hzero
        cases h
        exact hzero

namespace CommandLine

theorem firstSlot_ne_zero_of_load {files : FileReader} {path : String} {s : Settings}
    (h : Settings.load files path = .ok s) : s.firstSlot ≠ 0 := by
  unfold Settings.load at h
  split at h
  · cases h
  · split at h
    · cases h
    · rename_i hparse
      cases h
      exact Settings.firstSlot_ne_zero_of_parse hparse

theorem firstSlot_ne_zero_of_settingsOf {files : FileReader} {r : LowerRequest} {s : Settings}
    (h : settingsOf files r = .ok s) : s.firstSlot ≠ 0 := by
  unfold settingsOf at h
  simp only at h
  split at h
  · cases h
  · rename_i loaded hloaded
    cases h
    change loaded.firstSlot ≠ 0
    split at hloaded
    · exact firstSlot_ne_zero_of_load hloaded
    · cases hloaded
      decide

/-! ## Declarations -/

/-- The declarations of a file, if there is one, numbered behind `count` others. -/
def DeclaredBehind (files : FileReader) (count : Nat) : Option String → List Declaration → Prop
  | none, ds => ds = []
  | some path, ds =>
    ∃ text, files.text path = .ok text ∧ Declaration.parseAll text (UInt32.ofNat (count + 1)) = .ok ds

/-- The declarations of a request: those of its operands, one operand a line, and behind them those of its file. -/
def Declares (files : FileReader) (r : LowerRequest) (ds : List Declaration) : Prop :=
  ∃ fromOperands fromFile,
    Declaration.parseAll ("\n".intercalate r.declarations) 1 = .ok fromOperands ∧
    DeclaredBehind files fromOperands.length r.file? fromFile ∧ ds = fromOperands ++ fromFile

theorem DeclaredBehind.unique {files : FileReader} {count : Nat} {file? : Option String} {ds ds' : List Declaration}
    (h : DeclaredBehind files count file? ds) (h' : DeclaredBehind files count file? ds') : ds = ds' := by
  cases file? with
  | none => exact h.trans h'.symm
  | some path =>
    obtain ⟨text, htext, hparse⟩ := h
    obtain ⟨text', htext', hparse'⟩ := h'
    rw [htext] at htext'
    cases htext'
    rw [hparse] at hparse'
    exact Except.ok.inj hparse'

/-- A request has one list of declarations, if any. -/
theorem Declares.unique {files : FileReader} {r : LowerRequest} {ds ds' : List Declaration} (h : Declares files r ds)
    (h' : Declares files r ds') : ds = ds' := by
  obtain ⟨fromOperands, fromFile, hparse, hfile, rfl⟩ := h
  obtain ⟨fromOperands', fromFile', hparse', hfile', rfl⟩ := h'
  rw [hparse] at hparse'
  cases hparse'
  rw [hfile.unique hfile']

/-- How many lines of a file declare something, if it can be read. -/
def declaredInFile (files : FileReader) (path : String) : Nat :=
  match files.text path with
  | .error _ => 0
  | .ok text => Declaration.declaredIn text

/-- How many lines declare something, of operands and file together. -/
def declaredBy (files : FileReader) (r : LowerRequest) : Nat :=
  Declaration.declaredIn ("\n".intercalate r.declarations) + (r.file?.map (declaredInFile files)).getD 0

/-- **The declarations of a request are numbered from one on**, through operands and file. -/
theorem Declares.numbered {files : FileReader} {r : LowerRequest} {ds : List Declaration} (h : Declares files r ds)
    (hcount : declaredBy files r < 4294967295) :
    ds.map (·.method.toNat) = List.range' 1 ds.length ∧ ∀ d ∈ ds, d.Read := by
  obtain ⟨fromOperands, fromFile, hoperands, hfile, rfl⟩ := h
  obtain ⟨hlength, hmethods, hread⟩ := Declaration.parseAll_ok hoperands
  have hrest : fromFile.map (·.method.toNat) = List.range' (1 + fromOperands.length) fromFile.length ∧
      ∀ d ∈ fromFile, d.Read := by
    cases hpath : r.file? with
    | none =>
      rw [hpath] at hfile
      cases hfile
      exact ⟨rfl, nofun⟩
    | some path =>
      rw [hpath] at hfile
      obtain ⟨text, -, hparse⟩ := hfile
      obtain ⟨-, hmethods', hread'⟩ := Declaration.parseAll_ok hparse
      unfold declaredBy at hcount
      have hsmall : fromOperands.length + 1 < 4294967296 := by omega
      have hnext : (UInt32.ofNat (fromOperands.length + 1)).toNat = fromOperands.length + 1 :=
        UInt32.toNat_ofNat_of_lt' hsmall
      rw [hnext, Nat.add_comm] at hmethods'
      exact ⟨hmethods', hread'⟩
  obtain ⟨hmethods', hread'⟩ := hrest
  refine ⟨?_, List.forall_mem_append.2 ⟨hread, hread'⟩⟩
  rw [List.map_append, hmethods, hmethods', List.length_append]
  exact List.range'_append_1

/-! ## Errors -/

theorem parsed_eq_ok_iff {wrap : DeclarationError → RunError} {source : String} {firstMethod : UInt32}
    {ds : List Declaration} :
    parsed wrap source firstMethod = .ok ds ↔ Declaration.parseAll source firstMethod = .ok ds := by
  unfold parsed
  constructor
  · intro h
    split at h
    · rename_i hds
      cases h
      exact hds
    · cases h
    · cases h
  · intro h
    rw [h]

theorem parsed_error {wrap : DeclarationError → RunError} {source : String} {firstMethod : UInt32}
    {halt : Halt RunError} (hcount : firstMethod.toNat + Declaration.declaredIn source ≤ 4294967296)
    (h : parsed wrap source firstMethod = .error halt) : ∃ e, halt = .refused e := by
  unfold parsed at h
  split at h
  · cases h
  · cases h
    exact ⟨_, rfl⟩
  · rename_i hbroken
    obtain ⟨e, he⟩ := Declaration.parseAll_error hcount hbroken
    cases he

/-- A file is read or refused behind as many declarations as leave room for its own. -/
theorem fileDeclarations_cases (files : FileReader) (path : String) {count : Nat}
    (hcount : count + declaredInFile files path < 4294967295) :
    (∃ ds, DeclaredBehind files count (some path) ds ∧ fileDeclarations files path count = .ok ds) ∨
    ((∀ ds, ¬ DeclaredBehind files count (some path) ds) ∧
      ∃ e, fileDeclarations files path count = .error (.refused e)) := by
  unfold declaredInFile at hcount
  unfold fileDeclarations
  cases htext : files.text path with
  | error e =>
    refine .inr ⟨?_, _, rfl⟩
    rintro ds ⟨text, h, -⟩
    rw [htext] at h
    cases h
  | ok text =>
    rw [htext] at hcount
    simp only at hcount ⊢
    -- neither the count nor the row behind it is cut off at 32 bits
    have hofNat : (UInt32.ofNat count).toNat = count := UInt32.toNat_ofNat_of_lt' (show count < 4294967296 by omega)
    have hne : UInt32.ofNat count ≠ 4294967295 := by
      intro h
      have hnat := congrArg UInt32.toNat h
      rw [hofNat, show (4294967295 : UInt32).toNat = 4294967295 from rfl] at hnat
      omega
    have hsucc : UInt32.ofNat count + 1 = UInt32.ofNat (count + 1) := (UInt32.ofNat_add count 1).symm
    have hnext : (UInt32.ofNat (count + 1)).toNat = count + 1 :=
      UInt32.toNat_ofNat_of_lt' (show count + 1 < 4294967296 by omega)
    rw [if_neg hne, hsucc]
    cases hparsed : parsed (.source path) text (UInt32.ofNat (count + 1)) with
    | ok ds => exact .inl ⟨ds, ⟨text, htext, parsed_eq_ok_iff.1 hparsed⟩, rfl⟩
    | error halt =>
      obtain ⟨e, rfl⟩ := parsed_error (by omega) hparsed
      refine .inr ⟨?_, e, rfl⟩
      rintro ds ⟨text', h, hds⟩
      rw [htext] at h
      cases h
      rw [parsed_eq_ok_iff.2 hds] at hparsed
      cases hparsed

/-- What was gathered is enough, unless there is nothing. -/
theorem gathered_cases {files : FileReader} {r : LowerRequest} {all : List Declaration} (h : Declares files r all) :
    let gathered : Except (Halt RunError) (List Declaration) :=
      if all.isEmpty then .error (.refused .noDeclarations) else .ok all
    (∃ ds, Declares files r ds ∧ ds ≠ [] ∧ gathered = .ok ds) ∨
    ((∀ ds, Declares files r ds → ds = []) ∧ ∃ e, gathered = .error (.refused e)) := by
  intro gathered
  by_cases hempty : all = []
  · exact .inr ⟨fun ds hds => (hds.unique h).trans hempty, _, if_pos (List.isEmpty_iff.2 hempty)⟩
  · exact .inl ⟨all, h, hempty, if_neg (mt List.isEmpty_iff.1 hempty)⟩

/-- **The declarations of a request are read or refused.** -/
theorem declarationsOf_cases (files : FileReader) (r : LowerRequest) (hcount : declaredBy files r < 4294967295) :
    (∃ ds, Declares files r ds ∧ ds ≠ [] ∧ declarationsOf files r = .ok ds) ∨
    ((∀ ds, Declares files r ds → ds = []) ∧ ∃ e, declarationsOf files r = .error (.refused e)) := by
  unfold declaredBy at hcount
  unfold declarationsOf operandDeclarations
  cases hoperands : parsed .operands ("\n".intercalate r.declarations) 1 with
  | error halt =>
    obtain ⟨e, rfl⟩ := parsed_error (by rw [show (1 : UInt32).toNat = 1 from rfl]; omega) hoperands
    refine .inr ⟨?_, e, rfl⟩
    rintro ds ⟨fromOperands, fromFile, hparse, -, -⟩
    rw [parsed_eq_ok_iff.2 hparse] at hoperands
    cases hoperands
  | ok fromOperands =>
    have hparse := parsed_eq_ok_iff.1 hoperands
    have hlength := (Declaration.parseAll_ok hparse).1
    cases hfile : r.file? with
    | none => exact gathered_cases ⟨fromOperands, [], hparse, by rw [hfile]; rfl, rfl⟩
    | some path =>
      rw [hfile, ← hlength] at hcount
      simp only
      obtain ⟨fromFile, hdeclared, hread⟩ | ⟨hnone, e, hread⟩ := fileDeclarations_cases files path hcount
      · rw [hread]
        exact gathered_cases ⟨fromOperands, fromFile, hparse, by rw [hfile]; exact hdeclared, rfl⟩
      · rw [hread]
        refine .inr ⟨?_, e, rfl⟩
        rintro ds ⟨fromOperands', fromFile, hparse', hdeclared, -⟩
        rw [hparse] at hparse'
        cases hparse'
        rw [hfile] at hdeclared
        exact absurd hdeclared (hnone fromFile)

end CommandLine
end CilThunk
