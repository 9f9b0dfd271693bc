import CilThunk.Proofs.Declaration.Numbering
/-!
# Sources — line by line, and one source behind another

A source is read as its lines that declare something, each by itself, with the number that the line has in the source
and the method that is next (`readByLine`).  The first of them that is no declaration is the error of the source.  Behind
another source, these lines go on from the methods of the source in front and are further down by its lines
(`declaredLines_append`), and neither changes what is read (`parseAll_of_sources`).
-/
namespace CilThunk

/-- The same error, `n` lines further down. -/
def DeclarationError.raise (n : Nat) : DeclarationError → DeclarationError
  | malformed line text => malformed (line + n) text
  | invalidArity line arity => invalidArity (line + n) arity
  | unknownReturn line kind => unknownReturn (line + n) kind

namespace Declaration

open Text

/-! ## The lines that declare something -/

/-- A line that declares something: its number, what it says, and the method that it is about. -/
structure NumberedLine where
  number : Nat
  text : String
  method : UInt32
  deriving DecidableEq

def NumberedLine.parse (x : NumberedLine) : Except DeclarationError Declaration :=
  Declaration.parse x.text x.method x.number

/-- Those of some lines that declare something, where the first line has number `number`.  Only they are given methods,
`method` and the ones after it. -/
def numbered (number method : Nat) (lines : List (List Char)) : List NumberedLine :=
  ((lines.zipIdx number).filter (fun x => content x.1 ≠ [])).mapIdx fun k x =>
    ⟨x.2, String.ofList (content x.1), UInt32.ofNat (method + k)⟩

/-- The first of the lines that is no declaration is refused with `e`. -/
def FirstRefusal (lines : List NumberedLine) (e : DeclarationError) : Prop :=
  ∃ before x after, lines = before ++ x :: after ∧ (∀ y ∈ before, ∃ d, y.parse = .ok d) ∧ x.parse = .error e

theorem numbered_cons_of_blank (number method : Nat) {line : List Char} (lines : List (List Char))
    (h : content line = []) : numbered number method (line :: lines) = numbered (number + 1) method lines := by
  unfold numbered
  rw [List.zipIdx_cons, List.filter_cons_of_neg (by simpa using h)]

theorem numbered_cons_of_content (number method : Nat) {line : List Char} (lines : List (List Char))
    (h : content line ≠ []) :
    numbered number method (line :: lines) =
      ⟨number, String.ofList (content line), UInt32.ofNat method⟩ :: numbered (number + 1) (method + 1) lines := by
  unfold numbered
  rw [List.zipIdx_cons, List.filter_cons_of_pos (by simpa using h), List.mapIdx_cons, Nat.add_zero]
  simp only [Nat.add_assoc, Nat.add_comm 1]

theorem numbered_append (number method : Nat) (xs ys : List (List Char)) :
    numbered number method (xs ++ ys) =
      numbered number method xs ++ numbered (number + xs.length) (method + declaring xs) ys := by
  induction xs generalizing number method with
  | nil => rfl
  | cons line xs ih =>
    have hnumber : number + 1 + xs.length = number + (xs.length + 1) := by omega
    rw [List.cons_append, List.length_cons]
    by_cases h : content line = []
    · rw [numbered_cons_of_blank number method _ h, numbered_cons_of_blank number method _ h,
        declaring_cons_of_blank xs h, ih, hnumber]
    · have hmethod : method + 1 + declaring xs = method + (declaring xs + 1) := by omega
      rw [numbered_cons_of_content number method _ h, numbered_cons_of_content number method _ h,
        declaring_cons_of_content xs h, ih, hnumber, hmethod, List.cons_append]

/-- Further down, the lines have other numbers and nothing else. -/
theorem numbered_add (number method n : Nat) (lines : List (List Char)) :
    numbered (number + n) method lines =
      (numbered number method lines).map fun x => { x with number := x.number + n } := by
  induction lines generalizing number method with
  | nil => rfl
  | cons line lines ih =>
    have hnumber : number + n + 1 = number + 1 + n := by omega
    by_cases h : content line = []
    · rw [numbered_cons_of_blank _ method lines h, numbered_cons_of_blank number method lines h, hnumber, ih]
    · rw [numbered_cons_of_content _ method lines h, numbered_cons_of_content number method lines h, hnumber, ih,
        List.map_cons]

/-! ## Reading them one by one -/

theorem mapM_parse_cons (x : NumberedLine) (xs : List NumberedLine) :
    (x :: xs).mapM NumberedLine.parse =
      match x.parse with
      | .error e => .error e
      | .ok d => (xs.mapM NumberedLine.parse).map (d :: ·) := by
  rw [List.mapM_cons]
  cases x.parse with
  | error e => rfl
  | ok d => cases xs.mapM NumberedLine.parse <;> rfl

theorem mapM_parse_eq_ok_iff (xs : List NumberedLine) (ds : List Declaration) :
    xs.mapM NumberedLine.parse = .ok ds ↔ List.Forall₂ (fun x d => x.parse = .ok d) xs ds := by
  induction xs generalizing ds with
  | nil =>
    rw [List.mapM_nil, List.forall₂_nil_left_iff, eq_comm]
    exact ⟨Except.ok.inj, congrArg Except.ok⟩
  | cons x xs ih =>
    rw [mapM_parse_cons, List.forall₂_cons_left_iff]
    constructor
    · intro h
      cases hx : x.parse with
      | error e =>
        rw [hx] at h
        cases h
      | ok d =>
        cases hxs : xs.mapM NumberedLine.parse with
        | error e =>
          rw [hx, hxs] at h
          cases h
        | ok ds' =>
          rw [hx, hxs] at h
          cases h
          exact ⟨d, ds', rfl, (ih ds').1 hxs, rfl⟩
    · rintro ⟨d, ds', hd, hds', rfl⟩
      rw [hd, (ih ds').2 hds']
      rfl

theorem firstRefusal_nil (e : DeclarationError) : ¬ FirstRefusal [] e := by
  rintro ⟨before, x, after, h, -⟩
  simp at h

theorem firstRefusal_cons {x : NumberedLine} {xs : List NumberedLine} {e : DeclarationError} :
    FirstRefusal (x :: xs) e ↔ x.parse = .error e ∨ (∃ d, x.parse = .ok d) ∧ FirstRefusal xs e := by
  constructor
  · rintro ⟨before, y, after, h, hbefore, hy⟩
    cases before with
    | nil =>
      cases h
      exact .inl hy
    | cons z before =>
      cases h
      obtain ⟨hz, hbefore⟩ := List.forall_mem_cons.1 hbefore
      exact .inr ⟨hz, before, y, after, rfl, hbefore, hy⟩
  · rintro (hx | ⟨hx, before, y, after, rfl, hbefore, hy⟩)
    · exact ⟨[], x, xs, rfl, nofun, hx⟩
    · exact ⟨x :: before, y, after, rfl, List.forall_mem_cons.2 ⟨hx, hbefore⟩, hy⟩

theorem mapM_parse_eq_error_iff (xs : List NumberedLine) (e : DeclarationError) :
    xs.mapM NumberedLine.parse = .error e ↔ FirstRefusal xs e := by
  induction xs with
  | nil => exact ⟨nofun, fun h => absurd h (firstRefusal_nil e)⟩
  | cons x xs ih =>
    rw [mapM_parse_cons, firstRefusal_cons, ← ih]
    cases hx : x.parse with
    | error e' => simp
    | ok d => cases hxs : xs.mapM NumberedLine.parse <;> simp [Except.map]

/-- **Lines are read as those of them that declare something**, if there are methods for these. -/
theorem parseLines_eq_mapM (lines : List (List Char)) {number method : Nat}
    (hcount : method + declaring lines ≤ 4294967296) :
    parseLines number method lines = ((numbered number method lines).mapM NumberedLine.parse).mapError .refused := by
  induction lines generalizing number method with
  | nil => rfl
  | cons line lines ih =>
    by_cases h : content line = []
    · rw [declaring_cons_of_blank lines h] at hcount
      rw [parseLines, if_pos h, numbered_cons_of_blank number method lines h, ih hcount]
    · rw [declaring_cons_of_content lines h] at hcount
      have hmethod : ¬ 4294967295 < method := by omega
      rw [parseLines, if_neg h, if_neg hmethod, numbered_cons_of_content number method lines h, mapM_parse_cons,
        ih (by omega), NumberedLine.parse]
      simp only
      cases parse (String.ofList (content line)) (UInt32.ofNat method) number with
      | error e => rfl
      | ok d => cases (numbered (number + 1) (method + 1) lines).mapM NumberedLine.parse <;> rfl

/-! ## Sources -/

/-- The lines of a source that declare something, the first of them the method `firstMethod`. -/
def declaredLines (source : String) (firstMethod : UInt32) : List NumberedLine :=
  numbered 1 firstMethod.toNat (source.toList.splitOn '\n')

theorem length_splitOn_newline (s : List Char) : (s.splitOn '\n').length = s.count '\n' + 1 := by
  induction s with
  | nil => rfl
  | cons c s ih =>
    rw [List.splitOn_cons_eq_if_modifyHead]
    by_cases h : c = '\n' <;> simp [h, ih]

theorem splitOn_newline_append (a b : String) :
    (a ++ "\n" ++ b).toList.splitOn '\n' = a.toList.splitOn '\n' ++ b.toList.splitOn '\n' := by
  rw [String.toList_append, String.toList_append, List.append_assoc]
  exact List.splitOn_append_cons_self _ _

theorem declaredIn_append (a b : String) : declaredIn (a ++ "\n" ++ b) = declaredIn a + declaredIn b := by
  unfold declaredIn
  rw [splitOn_newline_append]
  exact List.countP_append

theorem parseAll_eq_mapM (source : String) (firstMethod : UInt32)
    (hcount : firstMethod.toNat + declaredIn source ≤ 4294967296) :
    parseAll source firstMethod = ((declaredLines source firstMethod).mapM NumberedLine.parse).mapError .refused :=
  parseLines_eq_mapM _ hcount

/-- The line that a declaration is on only goes into the error. -/
theorem parse_add (text : String) (method : UInt32) (line n : Nat) :
    parse text method (line + n) = (parse text method line).mapError (·.raise n) := by
  unfold parse
  split
  · rfl
  · simp only
    split
    · split
      · rfl
      · split <;> rfl
    · rfl

theorem mapM_parse_add (n : Nat) (xs : List NumberedLine) :
    (xs.map fun x => { x with number := x.number + n }).mapM NumberedLine.parse =
      (xs.mapM NumberedLine.parse).mapError (·.raise n) := by
  induction xs with
  | nil => rfl
  | cons x xs ih =>
    have hx : NumberedLine.parse { x with number := x.number + n } = x.parse.mapError (·.raise n) :=
      parse_add x.text x.method x.number n
    rw [List.map_cons, mapM_parse_cons, mapM_parse_cons, ih, hx]
    cases x.parse with
    | error e => rfl
    | ok d => cases xs.mapM NumberedLine.parse <;> rfl

theorem toNat_add_ofNat {method : UInt32} {n : Nat} (h : method.toNat + n < 4294967296) :
    (method + UInt32.ofNat n).toNat = method.toNat + n := by
  rw [UInt32.toNat_add, UInt32.toNat_ofNat_of_lt' (show n < 4294967296 by omega)]
  exact Nat.mod_eq_of_lt h

/-- The lines of a source behind another are further down, and their methods go on from those in front. -/
theorem declaredLines_append {a b : String} {firstMethod : UInt32}
    (hcount : firstMethod.toNat + declaredIn a < 4294967296) :
    declaredLines (a ++ "\n" ++ b) firstMethod =
      declaredLines a firstMethod ++
        (declaredLines b (firstMethod + UInt32.ofNat (declaredIn a))).map
          fun x => { x with number := x.number + (1 + a.toList.count '\n') } := by
  unfold declaredLines
  rw [splitOn_newline_append, numbered_append, length_splitOn_newline, toNat_add_ofNat hcount, ← numbered_add,
    Nat.add_comm (a.toList.count '\n')]
  rfl

/-- What a source is read as: a declaration for each line that declares something, in order, their methods numbered
without a gap, or the refusal of the first such line that is no declaration. -/
structure ReadByLine (source : String) (firstMethod : UInt32) : Prop where
  ok_iff : ∀ ds, parseAll source firstMethod = .ok ds ↔
    List.Forall₂ (fun x d => x.parse = .ok d) (declaredLines source firstMethod) ds
  error_iff : ∀ halt, parseAll source firstMethod = .error halt ↔
    ∃ e, halt = .refused e ∧ FirstRefusal (declaredLines source firstMethod) e
  methods : ∀ ds, parseAll source firstMethod = .ok ds →
    ds.map (·.method.toNat) = List.range' firstMethod.toNat (declaredIn source)

theorem mapError_refused_eq_ok_iff {result : Except DeclarationError (List Declaration)} {ds : List Declaration} :
    result.mapError Halt.refused = .ok ds ↔ result = .ok ds := by
  cases result <;> simp [Except.mapError]

theorem mapError_refused_eq_error_iff {result : Except DeclarationError (List Declaration)}
    {halt : Halt DeclarationError} :
    result.mapError Halt.refused = .error halt ↔ ∃ e, halt = .refused e ∧ result = .error e := by
  cases result <;> simp [Except.mapError, eq_comm]

theorem readByLine {source : String} {firstMethod : UInt32}
    (hcount : firstMethod.toNat + declaredIn source ≤ 4294967296) : ReadByLine source firstMethod where
  ok_iff ds := by rw [parseAll_eq_mapM source firstMethod hcount, mapError_refused_eq_ok_iff, mapM_parse_eq_ok_iff]
  error_iff halt := by
    rw [parseAll_eq_mapM source firstMethod hcount, mapError_refused_eq_error_iff]
    simp only [mapM_parse_eq_error_iff]
  methods ds h := by
    obtain ⟨hlength, hmethods, -⟩ := parseAll_ok h
    rw [hmethods, hlength]

/-- **A source is read line by line, and behind another source as it is alone**, on from the next method.  The first
error is told, with the number that its line has in the whole. -/
theorem parseAll_of_sources (firstMethod : UInt32) :
    (∀ source, firstMethod.toNat + declaredIn source < 4294967296 → ReadByLine source firstMethod) ∧
    ∀ a b, firstMethod.toNat + (declaredIn a + declaredIn b) < 4294967296 →
      (∀ xs, parseAll a firstMethod = .ok xs →
        (∀ ys, parseAll b (firstMethod + UInt32.ofNat xs.length) = .ok ys →
          parseAll (a ++ "\n" ++ b) firstMethod = .ok (xs ++ ys)) ∧
        ∀ halt, parseAll b (firstMethod + UInt32.ofNat xs.length) = .error halt →
          ∃ e, halt = .refused e ∧
            parseAll (a ++ "\n" ++ b) firstMethod = .error (.refused (e.raise (1 + a.toList.count '\n')))) ∧
      ∀ halt, parseAll a firstMethod = .error halt → parseAll (a ++ "\n" ++ b) firstMethod = .error halt := by
  refine ⟨fun source hcount => readByLine hcount.le, fun a b hcount => ?_⟩
  have hwhole : parseAll (a ++ "\n" ++ b) firstMethod = _ :=
    parseAll_eq_mapM _ firstMethod (by rw [declaredIn_append]; exact hcount.le)
  rw [declaredLines_append (by omega), List.mapM_append, mapM_parse_add] at hwhole
  have ha := parseAll_eq_mapM a firstMethod (by omega)
  refine ⟨fun xs hxs => ?_, fun halt hhalt => ?_⟩
  · have hlength := (parseAll_ok hxs).1
    have hb := parseAll_eq_mapM b (firstMethod + UInt32.ofNat xs.length)
      (by rw [toNat_add_ofNat (by omega)]; omega)
    rw [ha, mapError_refused_eq_ok_iff] at hxs
    rw [hxs, ← hlength] at hwhole
    refine ⟨fun ys hys => ?_, fun halt hhalt => ?_⟩
    · rw [hb, mapError_refused_eq_ok_iff] at hys
      rw [hwhole, hys]
      rfl
    · rw [hb, mapError_refused_eq_error_iff] at hhalt
      obtain ⟨e, rfl, he⟩ := hhalt
      rw [hwhole, he]
      exact ⟨e, rfl, rfl⟩
  · rw [ha, mapError_refused_eq_error_iff] at hhalt
    obtain ⟨e, rfl, he⟩ := hhalt
    rw [hwhole, he]
    rfl

/-- Two lines that declare something, among a comment and a blank one, and in the source behind them one that declares
and one that fails to. -/
theorem parseAll_of_sources_second_refused :
    parseAll "# calls\r\nCallIndirect/1\r\n\nFoo/0:void # none" 7 =
        .ok [⟨7, none, "CallIndirect", 1, false⟩, ⟨8, none, "Foo", 0, true⟩] ∧
      parseAll "\nBar/2\nBaz/-1" 9 = .error (.refused (.invalidArity 3 "-1")) ∧
      parseAll ("# calls\r\nCallIndirect/1\r\n\nFoo/0:void # none" ++ "\n" ++ "\nBar/2\nBaz/-1") 7 =
        .error (.refused (.invalidArity 7 "-1")) := by
  have hfront : parseAll "# calls\r\nCallIndirect/1\r\n\nFoo/0:void # none" 7 =
      .ok [⟨7, none, "CallIndirect", 1, false⟩, ⟨8, none, "Foo", 0, true⟩] := by cbv
  have hbehind : parseAll "\nBar/2\nBaz/-1" 9 = .error (.refused (.invalidArity 3 "-1")) := by cbv
  refine ⟨hfront, hbehind, ?_⟩
  obtain ⟨hok, -⟩ := (parseAll_of_sources 7).2 "# calls\r\nCallIndirect/1\r\n\nFoo/0:void # none" "\nBar/2\nBaz/-1"
    (by decide +kernel)
  obtain ⟨e, he, hwhole⟩ := (hok _ hfront).2 _ hbehind
  cases he
  exact hwhole

end Declaration
end CilThunk
