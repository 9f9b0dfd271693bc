import CilThunk.Declaration.Parse
import Mathlib
/-!
# Numbering — the declarations of a source

Each line of a source that declares something gives one declaration, and these have methods one behind the other
(`Declaration.parseAll_ok`).  The number of a method can leave 32 bits only behind that many lines, so a source of fewer
is read or refused (`Declaration.parseAll_error`).
-/
namespace CilThunk
namespace Declaration

open Text

/-- How many lines declare something. -/
def declaring (lines : List (List Char)) : Nat := lines.countP (fun line => content line ≠ [])

/-- How many lines of a source declare something. -/
def declaredIn (source : String) : Nat := declaring (source.toList.splitOn '\n')

theorem declaring_cons_of_content {line : List Char} (lines : List (List Char)) (h : content line ≠ []) :
    declaring (line :: lines) = declaring lines + 1 := List.countP_cons_of_pos (by simpa using h)

theorem declaring_cons_of_blank {line : List Char} (lines : List (List Char)) (h : content line = []) :
    declaring (line :: lines) = declaring lines := List.countP_cons_of_neg (by simpa using h)

/-- What any declaration that was read is: its own owner, and named by a name. -/
structure Read (d : Declaration) : Prop where
  owner : d.owner = d.method
  name : isName d.name.toList = true

/-- A name stands on one line. -/
theorem Read.newline_not_mem {d : Declaration} (h : d.Read) : '\n' ∉ d.name.toList := by
  have hname := h.name
  simp only [isName, Bool.and_eq_true, Bool.not_eq_true', List.any_eq_false] at hname
  exact fun hmem => hname.2 _ hmem (by decide)

theorem parse_ok {text : String} {method : UInt32} {line : Nat} {d : Declaration} (h : parse text method line = .ok d) :
    d.method = method ∧ d.Read := by
  unfold parse at h
  split at h
  · cases h
  · rename_i before rest _
    by_cases hname : isName (trim before) = true
    · simp only [if_pos hname] at h
      split at h
      · cases h
      · split at h
        · cases h
        · cases h
          refine ⟨rfl, rfl, ?_⟩
          rw [String.toList_ofList]
          exact hname
    · simp only [if_neg hname] at h
      cases h

/-- **The declarations of some lines are as many as declare something, and numbered in order.** -/
theorem parseLines_ok : ∀ (lines : List (List Char)) {line method : Nat} {ds : List Declaration},
    parseLines line method lines = .ok ds →
      ds.length = declaring lines ∧ ds.map (·.method.toNat) = List.range' method ds.length ∧ ∀ d ∈ ds, d.Read
  | [], _, _, _, h => by
    cases h
    exact ⟨rfl, rfl, nofun⟩
  | first :: rest, line, method, ds, h => by
    unfold parseLines at h
    by_cases hblank : content first = []
    · rw [if_pos hblank] at h
      rw [declaring_cons_of_blank rest hblank]
      exact parseLines_ok rest h
    · rw [if_neg hblank] at h
      split at h
      · cases h
      rename_i hmethod
      split at h
      · cases h
      rename_i d hd
      split at h
      · cases h
      rename_i ds' hds
      cases h
      obtain ⟨hlength, hmethods, hread⟩ := parseLines_ok rest hds
      obtain ⟨hown, hd⟩ := parse_ok hd
      have hnumber : d.method.toNat = method := by
        rw [hown]
        exact UInt32.toNat_ofNat_of_lt' (Nat.lt_succ_of_le (Nat.not_lt.1 hmethod))
      refine ⟨?_, ?_, List.forall_mem_cons.2 ⟨hd, hread⟩⟩
      · rw [declaring_cons_of_content rest hblank, List.length_cons, hlength]
      · rw [List.map_cons, List.length_cons, List.range'_succ, hmethods, hnumber]

/-- **Lines whose methods have 32 bits are read or refused.** -/
theorem parseLines_error : ∀ (lines : List (List Char)) {line method : Nat} {halt : Halt DeclarationError},
    method + declaring lines ≤ 4294967296 → parseLines line method lines = .error halt → ∃ e, halt = .refused e
  | [], _, _, _, _, h => by cases h
  | first :: rest, line, method, halt, hcount, h => by
    unfold parseLines at h
    by_cases hblank : content first = []
    · rw [if_pos hblank] at h
      rw [declaring_cons_of_blank rest hblank] at hcount
      exact parseLines_error rest hcount h
    · rw [if_neg hblank] at h
      rw [declaring_cons_of_content rest hblank] at hcount
      rw [if_neg (by omega)] at h
      split at h
      · rename_i e _
        cases h
        exact ⟨e, rfl⟩
      · split at h
        · rename_i halt' hrest
          cases h
          exact parseLines_error rest (by omega) hrest
        · cases h

theorem parseAll_ok {source : String} {firstMethod : UInt32} {ds : List Declaration}
    (h : parseAll source firstMethod = .ok ds) :
    ds.length = declaredIn source ∧ ds.map (·.method.toNat) = List.range' firstMethod.toNat ds.length ∧
      ∀ d ∈ ds, d.Read := parseLines_ok _ h

theorem parseAll_error {source : String} {firstMethod : UInt32} {halt : Halt DeclarationError}
    (hcount : firstMethod.toNat + declaredIn source ≤ 4294967296) (h : parseAll source firstMethod = .error halt) :
    ∃ e, halt = .refused e := parseLines_error _ hcount h

end Declaration
end CilThunk
