import CilThunk.Proofs.CommandLine.Gathering
import CilThunk.Proofs.CommandLine.Notices
import CilThunk.Proofs.Lowering.Outcomes
import CilThunk.Proofs.Lowering.ThunkRun
/-!
# LowerOutcome — how lowering on the command line ends

A run that has its settings and its declarations can only fail for want of rows, and it tells so before it has
printed anything (`lowerAll_of_short`).  Otherwise it goes on to the end as a session does (`lowerAll_of_rows`), its thunks
come in the order of the declarations, and there is nothing in them that could not be printed (`exists_report`).  So the
exit code says whether the input was good, and no run faults (`CommandLine.outcome_of_lower`).
-/
namespace CilThunk
namespace CommandLine

open Lowering

/-! ## Lowering all -/

def ordinaries (ds : List Declaration) : List Declaration := ds.filter (!·.kind.isIntrinsic)

theorem skipped?_noticesOf (m : Module) (s : Settings) (d : Declaration) :
    (noticesOf d (Lowering.lower m s d)).filterMap Notice.skipped? = (ordinaries [d]).map (·.name) := by
  have hlogged : ((Lowering.lower m s d).records.map Notice.logged).filterMap Notice.skipped? = [] := by
    rw [List.filterMap_map]
    exact List.filterMap_eq_nil_iff.2 (fun _ _ => rfl)
  rw [noticesOf, List.filterMap_append, hlogged, List.nil_append]
  cases hd : d.kind.isIntrinsic with
  | false => simp [Lowering.lower, ordinaries, hd, Notice.skipped?]
  | true =>
    rw [(lower_of_isIntrinsic m s hd).2]
    cases (assemble m s d).result <;> simp [Except.map, ordinaries, hd]

theorem concerns_of_mem_noticesOf {m : Module} {s : Settings} {d : Declaration} {n : Notice}
    (h : n ∈ noticesOf d (Lowering.lower m s d)) : n.Concerns d := by
  rcases List.mem_append.1 h with h | h
  · obtain ⟨r, hr, rfl⟩ := List.mem_map.1 h
    exact concerns_of_mem_lower hr
  · split at h
    · cases List.mem_singleton.1 h
      exact rfl
    · cases h

theorem concerns_of_mem_lowerAll {s : Settings} {n : Notice} : ∀ (ds : List Declaration) {m : Module},
    n ∈ (lowerAll m s ds).notices → ∃ d ∈ ds, n.Concerns d
  | [], _, h => by cases h
  | d :: ds, m, h => by
    unfold lowerAll at h
    simp only at h
    split at h
    · exact ⟨d, List.mem_cons_self, concerns_of_mem_noticesOf h⟩
    · rcases List.mem_append.1 h with h | h
      · exact ⟨d, List.mem_cons_self, concerns_of_mem_noticesOf h⟩
      · obtain ⟨d', hd', hconcerns⟩ := concerns_of_mem_lowerAll ds h
        exact ⟨d', List.mem_cons_of_mem _ hd', hconcerns⟩

theorem lowerAll_cons_of_ok {m : Module} {s : Settings} {d : Declaration} {body? : Option MethodBody}
    (ds : List Declaration) (h : (Lowering.lower m s d).result = .ok body?) :
    lowerAll m s (d :: ds) =
      { lowerAll (Lowering.lower m s d).module s ds with
        notices := noticesOf d (Lowering.lower m s d) ++ (lowerAll (Lowering.lower m s d).module s ds).notices } := by
  rw [lowerAll]
  simp only [h]

/-- **A run that nothing stops is a session**, and on the way it tells of all ordinary methods. -/
theorem lowerAll_of_ok (s : Settings) : ∀ (ds : List Declaration) {m : Module},
    (∀ r ∈ (lowerEach m (ds.map (s, ·))).2, ∃ body?, r.2 = .ok body?) →
      (lowerAll m s ds).result = .ok () ∧ (lowerAll m s ds).module = (lowerEach m (ds.map (s, ·))).1 ∧
        (lowerAll m s ds).notices.filterMap Notice.skipped? = (ordinaries ds).map (·.name)
  | [], _, _ => ⟨rfl, rfl, rfl⟩
  | d :: ds, m, h => by
    obtain ⟨⟨body?, hres⟩, hrest⟩ := List.forall_mem_cons.1 h
    obtain ⟨hresult, hmodule, hskipped⟩ := lowerAll_of_ok s ds hrest
    rw [lowerAll_cons_of_ok ds hres]
    refine ⟨hresult, hmodule, ?_⟩
    simp only
    rw [List.filterMap_append, hskipped, skipped?_noticesOf, ← List.map_append, ordinaries, ordinaries,
      ← List.filter_append]
    rfl

/-- **Without rows for all, a run is refused one.** -/
theorem lowerAll_of_short (s : Settings) : ∀ (ds : List Declaration) {m : Module}, m.nextRow ≠ 0 →
    m.rowsLeft < (intrinsics ds).length → (lowerAll m s ds).result = .error (.refused .signatureTableExhausted)
  | [], _, _, h => absurd h (Nat.not_lt_zero _)
  | d :: ds, m, hm, h => by
    obtain ⟨hd, hmod, hres⟩ | ⟨-, -, -, hres⟩ | ⟨hd, hrow, hmod, hres⟩ := lower_cases m s d hm
    · rw [intrinsics_cons_of_neg _ hd] at h
      rw [lowerAll_cons_of_ok ds hres, hmod]
      exact lowerAll_of_short s ds hm h
    · rw [lowerAll]
      simp only [hres]
    · rw [intrinsics_cons_of_pos _ hd, List.length_cons, rowsLeft_lowered d ⟨m.nextRow, hm⟩ hrow] at h
      rw [lowerAll_cons_of_ok ds hres, hmod]
      exact lowerAll_of_short s ds (nextRow_lowered_ne_zero d _ hrow) (Nat.lt_of_succ_lt_succ h)

/-! ## The report -/

theorem encodedLine_of_noHandlers {b : MethodBody} (h : b.handlers = []) : ∃ line, encodedLine b = .ok line := by
  unfold encodedLine BodyStream.encode BodyStream.entry
  rw [if_pos (List.isEmpty_iff.2 h)]
  exact ⟨_, rfl⟩

theorem encodedLines_of_noHandlers {bs : List MethodBody} (h : ∀ b ∈ bs, b.handlers = []) :
    ∃ text, encodedLines bs = .ok text := by
  have hlines : ∃ lines, bs.mapM encodedLine = .ok lines := by
    induction bs with
    | nil => exact ⟨[], rfl⟩
    | cons b bs ih =>
      obtain ⟨hb, hbs⟩ := List.forall_mem_cons.1 h
      obtain ⟨line, hline⟩ := encodedLine_of_noHandlers hb
      obtain ⟨lines, hlines⟩ := ih hbs
      exact ⟨line :: lines, by rw [List.mapM_cons, hline, hlines]; rfl⟩
  obtain ⟨lines, hlines⟩ := hlines
  rw [encodedLines, hlines]
  exact ⟨_, rfl⟩

/-- **Bodies without handlers can be printed**, in any format. -/
theorem exists_report {m : Module} (format : Format) (headers : Bool) (h : ∀ b ∈ m.bodies.bodies, b.handlers = []) :
    ∃ text, report m format headers = .ok text := by
  cases format with
  | json => exact ⟨_, rfl⟩
  | human =>
    cases headers with
    | false => exact ⟨_, rfl⟩
    | true =>
      obtain ⟨text, htext⟩ := encodedLines_of_noHandlers h
      unfold report
      simp only [if_true, htext]
      exact ⟨_, rfl⟩

/-! ## A run -/

/-- The module that settings start from. -/
def startOf (s : Settings) : Module := { generation := s.generation, firstRow := s.firstSlot, nextRow := s.firstSlot }

theorem ofSettings_eq {s : Settings} (h : s.firstSlot ≠ 0) : Module.ofSettings s = .ok (startOf s) := if_neg h

theorem increasing_owners {ds : List Declaration} (hmethods : ds.map (·.method.toNat) = List.range' 1 ds.length)
    (hread : ∀ d ∈ ds, d.Read) : ((intrinsics ds).map (·.owner)).Pairwise (· < ·) := by
  have hsorted : ds.Pairwise (fun a b => a.method.toNat < b.method.toNat) := by
    have hrange : (ds.map (·.method.toNat)).Pairwise (· < ·) := by
      rw [hmethods]
      exact List.pairwise_lt_range'
    exact List.pairwise_map.1 hrange
  have howner : (intrinsics ds).map (·.owner) = (intrinsics ds).map (·.method) :=
    List.map_congr_left (fun d hd => (hread d (List.mem_filter.1 hd).1).owner)
  rw [howner, List.pairwise_map]
  exact (hsorted.sublist List.filter_sublist).imp UInt32.lt_iff_toNat_lt.2

/-- **What a run with rows for all leaves**: the thunks of its intrinsics in order, by rows in order. -/
theorem bodies_of_rows {s : Settings} (hs : s.firstSlot ≠ 0) {ds : List Declaration}
    (hmethods : ds.map (·.method.toNat) = List.range' 1 ds.length) (hread : ∀ d ∈ ds, d.Read)
    (hrows : (intrinsics ds).length ≤ 0x1000000 - s.firstSlot.toNat) :
    let p := lowerAll (startOf s) s ds
    p.result = .ok () ∧ p.notices.filterMap Notice.skipped? = (ordinaries ds).map (·.name) ∧
    ∃ slots : List Slot, slots.map (·.row.toNat) = List.range' s.firstSlot.toNat (intrinsics ds).length ∧
      p.module.bodies.bodies = ((intrinsics ds).zip slots).map (fun t => thunk t.1 s.generation t.2) := by
  have hds : (ds.map (s, ·)).map (·.2) = ds := by
    rw [List.map_map]
    exact List.map_id _
  have howners := increasing_owners hmethods hread
  have hnodup : ((intrinsics ds).map (·.owner)).Nodup := howners.imp UInt32.ne_of_lt
  obtain ⟨slots, hslots, -, hleft, hresults⟩ := leftBy_lowerEach (ofSettings_eq hs) (ds.map (s, ·))
    (by rw [hds]; exact hnodup) (by rw [hds]; exact hrows)
  rw [hds] at hslots hleft
  obtain ⟨hresult, hmodule, hskipped⟩ := lowerAll_of_ok s ds (m := startOf s)
    (fun r hr => (hresults r hr).imp (fun _ h => h.1))
  refine ⟨hresult, hskipped, slots, hslots, ?_⟩
  rw [hmodule]
  refine hleft.bodies_eq ?_
  rw [map_owner_zip hslots]
  exact howners

/-- All that a run takes to be good: declarations, one at least, and rows for the intrinsics among them. -/
def Fit (files : FileReader) (r : LowerRequest) (s : Settings) : Prop :=
  ∃ ds, Declares files r ds ∧ ds ≠ [] ∧ (intrinsics ds).length ≤ 0x1000000 - s.firstSlot.toNat

/-- **A run that is not fit fails, and nothing is printed.** -/
theorem lower_of_not_fit {files : FileReader} {r : LowerRequest} {s : Settings} (hs : settingsOf files r = .ok s)
    (hcount : declaredBy files r < 4294967295) (h : ¬ Fit files r s) :
    (lower files r).code = 1 ∧ (lower files r).stdout = "" := by
  have hfirst := firstSlot_ne_zero_of_settingsOf hs
  unfold lower
  rw [hs]
  obtain ⟨ds, hdeclares, hne, hds⟩ | ⟨-, e, herror⟩ := declarationsOf_cases files r hcount
  · have hshort : (startOf s).rowsLeft < (intrinsics ds).length := Nat.not_le.1 (fun hle => h ⟨ds, hdeclares, hne, hle⟩)
    simp only [hds, ofSettings_eq hfirst, lowerAll_of_short s ds hfirst hshort]
    exact ⟨rfl, rfl⟩
  · simp only [herror]
    exact ⟨rfl, rfl⟩

/-- **A run that is fit prints the report** of the module that it leaves. -/
theorem lower_of_fit {files : FileReader} {r : LowerRequest} {s : Settings} {ds : List Declaration}
    (hs : settingsOf files r = .ok s) (hcount : declaredBy files r < 4294967295) (hdeclares : Declares files r ds)
    (hne : ds ≠ []) (hrows : (intrinsics ds).length ≤ 0x1000000 - s.firstSlot.toNat) :
    ∃ text, report (lowerAll (startOf s) s ds).module s.format r.headers = .ok text ∧
      lower files r = ⟨0, text, String.join ((lowerAll (startOf s) s ds).notices.map (noticeLine s.trace))⟩ := by
  have hfirst := firstSlot_ne_zero_of_settingsOf hs
  obtain ⟨hmethods, hread⟩ := hdeclares.numbered hcount
  obtain ⟨hresult, -, slots, -, hbodies⟩ := bodies_of_rows hfirst hmethods hread hrows
  have hds : declarationsOf files r = .ok ds := by
    obtain ⟨ds', hdeclares', -, hds⟩ | ⟨hempty, -⟩ := declarationsOf_cases files r hcount
    · rw [hds, hdeclares'.unique hdeclares]
    · exact absurd (hempty ds hdeclares) hne
  have hhandlers : ∀ b ∈ (lowerAll (startOf s) s ds).module.bodies.bodies, b.handlers = [] := by
    intro b hb
    rw [hbodies] at hb
    obtain ⟨t, -, rfl⟩ := List.mem_map.1 hb
    rfl
  obtain ⟨text, htext⟩ := exists_report s.format r.headers hhandlers
  refine ⟨text, htext, ?_⟩
  unfold lower
  rw [hs]
  simp only [hds, ofSettings_eq hfirst, hresult, htext]

/-- **The outcome of lowering on the command line is determined by its input**, and it never faults: either all goes
well, or the exit code is one and nothing is printed. -/
theorem outcome_of_lower (files : FileReader) (r : LowerRequest) (s : Settings) (hs : settingsOf files r = .ok s)
    (hcount : declaredBy files r < 4294967295) :
    let t := lower files r
    (t.code = 0 ↔ Fit files r s) ∧
    (t.code ≠ 0 → t.code = 1 ∧ t.stdout = "") ∧
    ∀ ds, Declares files r ds → t.code = 0 →
      ds.map (·.method.toNat) = List.range' 1 ds.length ∧
      skippingLines t.stderr = (ordinaries ds).map (fun d => (skippingLine d.name).toList) ∧
      ∃ start, Module.ofSettings s = .ok start ∧
        let m := (lowerAll start s ds).module
        report m s.format r.headers = .ok t.stdout ∧
        m.bodies.bodies.map (·.parent) = (intrinsics ds).map (·.method) ∧
        m.bodies.bodies.map (fun b => b.slot?.map (·.row.toNat)) =
          (List.range' s.firstSlot.toNat (intrinsics ds).length).map some := by
  intro t
  have hfirst := firstSlot_ne_zero_of_settingsOf hs
  by_cases hfit : Fit files r s
  · obtain ⟨ds, hdeclares, hne, hrows⟩ := hfit
    obtain ⟨text, htext, ht⟩ := lower_of_fit hs hcount hdeclares hne hrows
    have hcode : t.code = 0 := congrArg (·.code) ht
    refine ⟨⟨fun _ => ⟨ds, hdeclares, hne, hrows⟩, fun _ => hcode⟩, fun h => absurd hcode h, fun ds' hds' _ => ?_⟩
    cases hds'.unique hdeclares
    obtain ⟨hmethods, hread⟩ := hdeclares.numbered hcount
    obtain ⟨-, hskipped, slots, hslots, hbodies⟩ := bodies_of_rows hfirst hmethods hread hrows
    -- the lines told on the way, the report, and whose the bodies are and by which rows they call
    refine ⟨hmethods, ?_, startOf s, ofSettings_eq hfirst, ?_, ?_, ?_⟩
    · have hstderr : t.stderr = String.join ((lowerAll (startOf s) s ds).notices.map (noticeLine s.trace)) :=
        congrArg (·.stderr) ht
      rw [hstderr, skippingLines_told, hskipped, List.map_map]
      · rfl
      · intro n hn
        obtain ⟨d, hd, hconcerns⟩ := concerns_of_mem_lowerAll ds hn
        exact ⟨d, hconcerns, (hread d hd).newline_not_mem⟩
    · have hstdout : t.stdout = text := congrArg (·.stdout) ht
      rw [hstdout]
      exact htext
    · rw [hbodies, List.map_map]
      exact (map_owner_zip hslots).trans
        (List.map_congr_left (fun d hd => (hread d (List.mem_filter.1 hd).1).owner))
    · have hsnd : ((intrinsics ds).zip slots).map (·.2) = slots :=
        List.map_snd_zip (Nat.le_of_eq (length_slots hslots))
      rw [hbodies, List.map_map, ← hslots, List.map_map]
      conv => rhs; rw [← hsnd, List.map_map]
      rfl
  · obtain ⟨hcode, hstdout⟩ : t.code = 1 ∧ t.stdout = "" := lower_of_not_fit hs hcount hfit
    have hcode' : t.code ≠ 0 := by rw [hcode]; decide
    exact ⟨⟨fun h => absurd h hcode', fun h => absurd h hfit⟩, fun _ => ⟨hcode, hstdout⟩,
      fun _ _ h => absurd h hcode'⟩

/-- One intrinsic as an operand, and a file with a comment, a method that is none and another intrinsic. -/
theorem outcome_of_lower_operand_and_file :
    let files : FileReader := fun _ => .ok "Foo/1#\nTailCallIndirect/2".toUTF8
    let r : LowerRequest := { declarations := ["CallIndirect/3"], file? := some "more" }
    settingsOf files r = .ok {} ∧ declaredBy files r < 4294967295 ∧ (lower files r).code = 0 ∧
      skippingLines (lower files r).stderr = ["skipping `Foo`: not an indirect-call intrinsic".toList] := by
  intro files r
  have hcount : declaredBy files r < 4294967295 := by cbv
  have hdeclares : Declares files r
      [⟨1, none, "CallIndirect", 3, false⟩, ⟨2, none, "Foo", 1, false⟩, ⟨3, none, "TailCallIndirect", 2, false⟩] := by
    refine ⟨[_], [_, _], ?_, ⟨"Foo/1#\nTailCallIndirect/2", ?_, ?_⟩, rfl⟩ <;> cbv
  obtain ⟨hgood, -, hleft⟩ := outcome_of_lower files r {} rfl hcount
  have hcode := hgood.2 ⟨_, hdeclares, (fun h => by cases h), by decide⟩
  exact ⟨rfl, hcount, hcode, (hleft _ hdeclares hcode).2.1⟩

end CommandLine
end CilThunk
