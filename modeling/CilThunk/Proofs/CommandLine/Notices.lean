import CilThunk.CommandLine.Run
import CilThunk.Proofs.Listing.Words
/-!
# Notices — what a run tells, line by line

Every notice is told on one line, or not at all: numbers, words and names have no line break in them
(`Record.newline_not_mem_text`).  So the lines of what was told are the notices in order, and a line that starts like
that of a skipped method is one (`CommandLine.skippingLines_told`).
-/
namespace CilThunk

open Text

@[simp]
theorem Kind.newline_not_mem_text (k : Kind) : '\n' ∉ k.text.toList := by
  cases k <;> decide

/-! ## Records -/

namespace Record

/-- What a record may say of the lowering of a declaration: if it names a method, that one. -/
def Concerns (d : Declaration) : Record → Prop
  | emitted _ => True
  | uninstrumented name => name = d.name
  | unknownEnding name => name = d.name
  | lowered name _ _ _ _ _ => name = d.name
  | replaced _ => True

@[simp]
theorem newline_not_mem_level (r : Record) : '\n' ∉ r.level.text.toList := by
  cases r.level <;> decide

@[simp]
theorem newline_not_mem_target (r : Record) : '\n' ∉ r.target.toList := by
  unfold target
  cases r <;> simp

theorem newline_not_mem_text {d : Declaration} {r : Record} (h : r.Concerns d) (hname : '\n' ∉ d.name.toList) :
    '\n' ∉ r.text.toList := by
  unfold text
  cases r with
  | emitted e => simp
  | uninstrumented name =>
    cases h
    simp [hname]
  | unknownEnding name =>
    cases h
    simp [hname]
  | lowered name kind convention slot maxStack size =>
    cases h
    simp [hname]
  | replaced method => simp

end Record

namespace Lowering

theorem concerns_of_mem_records {d : Declaration} {b : Buffer} {r : Record} (h : r ∈ b.records) : r.Concerns d := by
  obtain ⟨e, -, rfl⟩ := List.mem_map.1 h
  exact trivial

theorem concerns_of_mem_remarks {s : Settings} {d : Declaration} {r : Record} (h : r ∈ remarks s d) :
    r.Concerns d := by
  unfold remarks at h
  split at h
  · cases List.mem_singleton.1 h
    exact rfl
  · cases h

theorem concerns_of_mem_finish {m : Module} {s : Settings} {d : Declaration} {b : Buffer} {slot : Slot}
    {convention : Convention} {r : Record} (h : r ∈ (finish m s d b slot convention).records) : r.Concerns d := by
  unfold finish at h
  split at h
  · cases h
  · simp only at h
    split at h
    · cases h
    · cases h
    · simp only [Module.store] at h
      split at h
      · cases List.mem_singleton.1 h
        exact trivial
      · cases h

theorem concerns_of_mem_assemble {m : Module} {s : Settings} {d : Declaration} {r : Record}
    (h : r ∈ (assemble m s d).records) : r.Concerns d := by
  unfold assemble at h
  split at h
  · have hbefore : ∀ r ∈ remarks s d ++ (emitThunk { optimization := .release } m d d.kind.isTail).buffer.records,
        r.Concerns d :=
      List.forall_mem_append.2 ⟨fun _ => concerns_of_mem_remarks, fun _ => concerns_of_mem_records⟩
    simp only at h
    split at h
    · exact hbefore r h
    · split at h
      · rcases List.mem_append.1 h with h | h
        · exact hbefore r h
        · exact concerns_of_mem_finish h
      · rcases List.mem_append.1 h with h | h
        · rcases List.mem_append.1 h with h | h
          · exact hbefore r h
          · exact concerns_of_mem_finish h
        · cases List.mem_singleton.1 h
          exact rfl
  · exact concerns_of_mem_remarks h

/-- **A lowering tells of its own declaration only.** -/
theorem concerns_of_mem_lower {m : Module} {s : Settings} {d : Declaration} {r : Record}
    (h : r ∈ (lower m s d).records) : r.Concerns d := by
  unfold lower at h
  split at h
  · rcases List.mem_append.1 h with h | h
    · split at h
      · cases List.mem_singleton.1 h
        exact rfl
      · cases h
    · exact concerns_of_mem_assemble h
  · cases h

end Lowering

/-! ## Lines -/

namespace CommandLine

def skippingLine (name : String) : String := "skipping `" ++ name ++ "`: not an indirect-call intrinsic"

/-- The lines of a text that tell of a skipped method. -/
def skippingLines (text : String) : List (List Char) :=
  (text.toList.splitOn '\n').filter (fun line => "skipping `".toList.isPrefixOf line)

/-- A notice without its line break, if it is told. -/
def Notice.line? (trace : Bool) : Notice → Option (List Char)
  | .logged r =>
    if trace || r.level == .warn then
      some ("[" ++ r.level.text ++ String.ofList (List.replicate (5 - r.level.text.length) ' ') ++ " " ++ r.target ++
        "] " ++ r.text).toList
    else none
  | .skipped name => some (skippingLine name).toList

/-- The notice is of a declaration, which it names if it names any. -/
def Notice.Concerns (d : Declaration) : Notice → Prop
  | .logged r => r.Concerns d
  | .skipped name => name = d.name

theorem Notice.newline_not_mem_line {d : Declaration} {n : Notice} {trace : Bool} {line : List Char}
    (h : n.Concerns d) (hname : '\n' ∉ d.name.toList) (hline : n.line? trace = some line) : '\n' ∉ line := by
  cases n with
  | logged r =>
    have htext := Record.newline_not_mem_text h hname
    unfold Notice.line? at hline
    simp only at hline
    split at hline
    · cases hline
      simp [htext]
    · cases hline
  | skipped name =>
    cases h
    cases hline
    simp [skippingLine, hname]

theorem toList_noticeLine (trace : Bool) (n : Notice) :
    (noticeLine trace n).toList = ((n.line? trace).map (· ++ ['\n'])).getD [] := by
  cases n with
  | logged r =>
    unfold noticeLine Notice.line?
    simp only
    split
    · simp [logLine]
    · rfl
  | skipped name => simp [noticeLine, Notice.line?, skippingLine]

/-- The method that a notice says was passed by. -/
def Notice.skipped? : Notice → Option String
  | .logged _ => none
  | .skipped name => some name

/-- **The lines of what is told are the notices that are told**, and what is behind the last line break. -/
theorem splitOn_told (trace : Bool) : ∀ notices : List Notice,
    (∀ n ∈ notices, ∃ d, n.Concerns d ∧ '\n' ∉ d.name.toList) →
      (String.join (notices.map (noticeLine trace))).toList.splitOn '\n' = notices.filterMap (Notice.line? trace) ++ [[]]
  | [], _ => rfl
  | n :: notices, h => by
    obtain ⟨⟨d, hconcerns, hname⟩, hrest⟩ := List.forall_mem_cons.1 h
    have ih := splitOn_told trace notices hrest
    rw [String.toList_join] at ih ⊢
    rw [List.map_cons, List.flatMap_cons, toList_noticeLine]
    cases hline : n.line? trace with
    | none =>
      rw [List.filterMap_cons_none hline]
      exact ih
    | some line =>
      have hnew := Notice.newline_not_mem_line hconcerns hname hline
      rw [List.filterMap_cons_some hline, Option.map_some, Option.getD_some, List.append_assoc, List.singleton_append,
        List.splitOn_append_cons_self_of_not_mem hnew, ih, List.cons_append]

/-- A line starts like one of a skipped method only if it is one. -/
theorem filter_lines (trace : Bool) (notices : List Notice) :
    (notices.filterMap (Notice.line? trace)).filter (fun line => "skipping `".toList.isPrefixOf line) =
      (notices.filterMap Notice.skipped?).map (fun name => (skippingLine name).toList) := by
  induction notices with
  | nil => rfl
  | cons n notices ih =>
    cases n with
    | logged r =>
      rw [List.filterMap_cons_none (f := Notice.skipped?) rfl]
      cases hline : (Notice.logged r).line? trace with
      | none => rw [List.filterMap_cons_none hline, ih]
      | some line =>
        rw [List.filterMap_cons_some hline, List.filter_cons_of_neg ?_, ih]
        -- a log line starts with a bracket
        unfold Notice.line? at hline
        simp only at hline
        split at hline
        · cases hline
          simp
        · cases hline
    | skipped name =>
      rw [List.filterMap_cons_some (f := Notice.skipped?) rfl, List.map_cons,
        List.filterMap_cons_some (f := (Notice.line? trace)) rfl, List.filter_cons_of_pos ?_, ih]
      simp [skippingLine]

/-- **What is told has a line for each skipped method, in order.** -/
theorem skippingLines_told (trace : Bool) (notices : List Notice)
    (h : ∀ n ∈ notices, ∃ d, n.Concerns d ∧ '\n' ∉ d.name.toList) :
    skippingLines (String.join (notices.map (noticeLine trace))) =
      (notices.filterMap Notice.skipped?).map (fun name => (skippingLine name).toList) := by
  rw [skippingLines, splitOn_told trace notices h, List.filter_append, filter_lines]
  exact List.append_nil _

end CommandLine
end CilThunk
