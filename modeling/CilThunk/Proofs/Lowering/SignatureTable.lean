import CilThunk.Proofs.Lowering.RowCounter
import CilThunk.Proofs.Lowering.Session
/-!
# SignatureTable — what the StandAloneSig table holds after any run

A request that makes a body records the row it was handed out, also if the verifier then turns the body away.  So after
any run of such requests the table has as many rows as were handed out, without a gap and each once, and each says how
the request for it calls (`Module.recorded_after`).  The one call of a lowered body refers to its own row.
-/
namespace CilThunk

/-! ## The call of a thunk -/

def Instruction.callToken? : Instruction → Option Token
  | calli token => some token
  | _ => none

theorem Token.ofRow_eq_or {row : UInt32} (h : row ≤ maxRow) : Token.ofRow row = ⟨0x11000000 ||| row⟩ := by
  have hrow : row.toNat < 2 ^ 24 := Nat.lt_succ_of_le (UInt32.le_iff_toNat_le.1 h)
  have hor : 2 ^ 24 * 17 + row.toNat = 2 ^ 24 * 17 ||| row.toNat := Nat.two_pow_add_eq_or_of_lt hrow 17
  have hraw : (Token.ofRow row).raw = 0x11000000 ||| row := by
    apply UInt32.toNat_inj.1
    rw [Token.toNat_raw_ofRow h, UInt32.toNat_or]
    exact hor
  exact congrArg Token.mk hraw

theorem Lowering.callTokens_operations (d : Declaration) (isTail : Bool) (token : Token) :
    ((operations d isTail token).map Operation.instruction).filterMap Instruction.callToken? = [token] := by
  have hloads : ((loads d.arity).map Operation.instruction).filterMap Instruction.callToken? = [] := by
    rw [loads_eq, List.map_map, List.filterMap_map]
    exact List.filterMap_eq_nil_iff.2 (fun _ _ => rfl)
  rw [operations, lead, List.map_append, List.map_append, List.filterMap_append, List.filterMap_append, hloads]
  cases isTail <;> rfl

/-- **The code of a thunk reads back with one call**, by its own row. -/
theorem Lowering.callTokens_thunk (d : Declaration) (generation : UInt32) (slot : Slot) :
    ∃ is, Code.decode (thunk d generation slot).code = .ok is ∧
      is.filterMap (fun e => e.2.callToken?) = [.ofRow slot.row] := by
  refine ⟨_, Operation.decode_encode (operations d d.kind.isTail (.ofRow slot.row)), ?_⟩
  have hmap := callTokens_operations d d.kind.isTail (.ofRow slot.row)
  rw [← Instruction.map_snd_layout 0 (List.map Operation.instruction _), List.filterMap_map] at hmap
  exact hmap

/-! ## One request -/

namespace Request

/-- Whatever row the request is handed out, it records it.  Code of the caller's has to freeze. -/
def RecordsItsRow : Request → Prop
  | lower .. => True
  | assemble .. => True
  | store .. => True
  | finish _ _ _ code => ∀ slot, ∃ c, (code slot).freeze = .ok c
  | allocate => False
  | emitThunk .. => False
  | record _ => False

/-- How a request calls by the row that it is handed out. -/
def signature? (slot : Slot) : Request → Option CallSignature
  | lower _ d => some ⟨slot, d.convention, d.arity, d.isVoid⟩
  | assemble _ d => some ⟨slot, d.convention, d.arity, d.isVoid⟩
  | finish _ d convention _ => some ⟨slot, convention, d.arity, d.isVoid⟩
  | _ => none

/-- The declaration that a request lowers. -/
def lowers? : Request → Option Declaration
  | lower _ d => some d
  | assemble _ d => some d
  | _ => none

/-- **All that such a request leaves**: nothing but a body, or its row recorded, also if its body is not stored. -/
theorem perform_of_recordsItsRow {m : Module} {r : Request} (hm : m.nextRow ≠ 0) (hr : r.RecordsItsRow) :
    ∃ bodies, (∀ halt, (r.perform m).reply = .error halt → bodies = m.bodies) ∧
      ((r.slot? m = none ∧ (r.perform m).module = { m with bodies := bodies } ∧
          ∀ name e, (r.perform m).reply ≠ .error (.refused (.rejected name e))) ∨
        ∃ signature, r.slot? m = some ⟨m.nextRow, hm⟩ ∧ m.nextRow ≤ maxRow ∧
          r.signature? ⟨m.nextRow, hm⟩ = some signature ∧ signature.slot.row = m.nextRow ∧
          (r.perform m).module =
            { m with nextRow := m.nextRow + 1, recorded := m.recorded.push signature, bodies := bodies }) := by
  cases r with
  | lower s d =>
    simp only [perform]
    obtain ⟨hd, hmod, hres⟩ | ⟨hd, hrow, hmod, hres⟩ | ⟨hd, hrow, hmod, hres⟩ := Lowering.lower_cases m s d hm
    · rw [hmod, hres]
      exact ⟨m.bodies, (fun _ h => by cases h), .inl ⟨slot?_of_not_asks hd, rfl, fun _ _ h => by cases h⟩⟩
    · rw [hmod, hres]
      exact ⟨m.bodies, fun _ _ => rfl, .inl ⟨slot?_of_exhausted hm hrow, rfl, fun _ _ h => by cases h⟩⟩
    · rw [hmod, hres]
      exact ⟨_, (fun _ h => by cases h), .inr ⟨_, slot?_of_row hm hd hrow, hrow, rfl, rfl, rfl⟩⟩
  | assemble s d =>
    simp only [perform]
    obtain ⟨hd, hmod, hres⟩ | ⟨hd, hrow, hmod, hres⟩ | ⟨hd, hrow, hmod, hres⟩ := Lowering.assemble_cases m s d hm
    · rw [hmod, hres]
      exact ⟨m.bodies, fun _ _ => rfl, .inl ⟨slot?_of_not_asks hd, rfl, fun _ _ h => by cases h⟩⟩
    · rw [hmod, hres]
      exact ⟨m.bodies, fun _ _ => rfl, .inl ⟨slot?_of_exhausted hm hrow, rfl, fun _ _ h => by cases h⟩⟩
    · rw [hmod, hres]
      exact ⟨_, (fun _ h => by cases h), .inr ⟨_, slot?_of_row hm hd hrow, hrow, rfl, rfl, rfl⟩⟩
  | store method body => exact ⟨_, (fun _ h => by cases h), .inl ⟨rfl, rfl, fun _ _ h => by cases h⟩⟩
  | finish s d convention code =>
    simp only [perform, Module.allocate_eq hm]
    by_cases hrow : m.nextRow ≤ maxRow
    · rw [if_pos hrow]
      simp only
      have hslot : (finish s d convention code).slot? m = some ⟨m.nextRow, hm⟩ :=
        slot?_of_row hm rfl hrow
      obtain ⟨c, hcode⟩ := hr ⟨m.nextRow, hm⟩
      obtain ⟨-, hmod, hres⟩ | ⟨-, hmod, -⟩ :=
        Lowering.finish_cases { m with nextRow := m.nextRow + 1 } s d ⟨m.nextRow, hm⟩ convention hcode
      · rw [hmod, hres]
        exact ⟨_, (fun _ h => by cases h), .inr ⟨_, hslot, hrow, rfl, rfl, rfl⟩⟩
      · rw [hmod]
        exact ⟨m.bodies, fun _ _ => rfl, .inr ⟨_, hslot, hrow, rfl, rfl, rfl⟩⟩
    · rw [if_neg hrow]
      exact ⟨m.bodies, fun _ _ => rfl, .inl ⟨slot?_of_exhausted hm hrow, rfl, fun _ _ h => by cases h⟩⟩
  | allocate => cases hr
  | emitThunk b d isTail => cases hr
  | record signature => cases hr

theorem contiguous_perform {m : Module} {r : Request} (hm : m.Contiguous) (hr : r.RecordsItsRow) :
    (r.perform m).module.Contiguous := by
  obtain ⟨bodies, -, ⟨-, hmod, -⟩ | ⟨signature, -, hrow, -, hsig, hmod⟩⟩ :=
    perform_of_recordsItsRow hm.nextRow_ne_zero hr
  · rw [hmod]
    exact ⟨hm.firstRow_ne_zero, hm.rows, hm.nextRow, hm.bounded⟩
  · rw [hmod]
    exact hm.record hrow hsig bodies

/-- A lowering that comes back with a body has made the declaration's thunk of it. -/
theorem perform_of_lowers {m : Module} {r : Request} {d : Declaration} (hm : m.nextRow ≠ 0) (hd : r.lowers? = some d) :
    (∀ g, (r.perform m).reply = .ok g → g.body? = none) ∨
    (m.nextRow ≤ maxRow ∧ r.perform m =
      ⟨Lowering.lowered m d ⟨m.nextRow, hm⟩, .ok (.ofBody (Lowering.thunk d m.generation ⟨m.nextRow, hm⟩))⟩) := by
  cases r with
  | lower s d' =>
    cases hd
    simp only [perform]
    obtain ⟨-, hmod, hres⟩ | ⟨-, -, hmod, hres⟩ | ⟨-, hrow, hmod, hres⟩ := Lowering.lower_cases m s d hm
    · rw [hres]
      exact .inl (fun g hg => by cases hg; rfl)
    · rw [hres]
      exact .inl (fun _ hg => by cases hg)
    · rw [hmod, hres]
      exact .inr ⟨hrow, rfl⟩
  | assemble s d' =>
    cases hd
    simp only [perform]
    obtain ⟨-, hmod, hres⟩ | ⟨-, -, hmod, hres⟩ | ⟨-, hrow, hmod, hres⟩ := Lowering.assemble_cases m s d hm
    · rw [hres]
      exact .inl (fun _ hg => by cases hg)
    · rw [hres]
      exact .inl (fun _ hg => by cases hg)
    · rw [hmod, hres]
      exact .inr ⟨hrow, rfl⟩
  | _ => cases hd

/-- Code of the caller's is rejected exactly if it is to be verified and the verifier refuses it. -/
theorem rejected_finish_iff {m : Module} {s : Settings} {d : Declaration} {convention : Convention}
    {code : Slot → Buffer} {slot : Slot} {c : SealedCode} (hm : m.nextRow ≠ 0)
    (hslot : (finish s d convention code).slot? m = some slot) (hcode : (code slot).freeze = .ok c) :
    (∃ e, ((finish s d convention code).perform m).reply = .error (.refused (.rejected d.name e))) ↔
      s.verify = true ∧ ∃ e, c.verify = .error (.refused e) := by
  obtain ⟨-, hrow, rfl⟩ := slot?_eq_some hm hslot
  simp only [perform, Module.allocate_eq hm]
  rw [if_pos hrow]
  simp only
  obtain ⟨hok, -, hres⟩ | ⟨hs, -, ⟨e, hv, hres⟩ | ⟨fault, hv, hres⟩⟩ :=
    Lowering.finish_cases { m with nextRow := m.nextRow + 1 } s d ⟨m.nextRow, hm⟩ convention hcode
  · rw [hres]
    constructor
    · rintro ⟨e, he⟩
      cases he
    · rintro ⟨hs, e, hv⟩
      rw [if_pos hs, hv] at hok
      cases hok
  · rw [hres]
    exact ⟨fun _ => ⟨hs, e, hv⟩, fun _ => ⟨e, rfl⟩⟩
  · rw [hres]
    constructor
    · rintro ⟨e, he⟩
      cases he
    · rintro ⟨-, e, he⟩
      rw [hv] at he
      cases he

theorem bodies_of_error {m : Module} {r : Request} {halt : Halt LowerError} (hm : m.nextRow ≠ 0)
    (hr : r.RecordsItsRow) (h : (r.perform m).reply = .error halt) : (r.perform m).module.bodies = m.bodies := by
  obtain ⟨bodies, hbodies, ⟨-, hmod, -⟩ | ⟨signature, -, -, -, -, hmod⟩⟩ := perform_of_recordsItsRow hm hr
  · rw [hmod]
    exact hbodies halt h
  · rw [hmod]
    exact hbodies halt h

/-- **A rejected body leaves its row in the table.** -/
theorem recorded_of_rejected {m : Module} {r : Request} {name : String} {e : VerifyError} (hm : m.nextRow ≠ 0)
    (hr : r.RecordsItsRow) (h : (r.perform m).reply = .error (.refused (.rejected name e))) :
    ∃ slot signature, r.slot? m = some slot ∧ r.signature? slot = some signature ∧
      (r.perform m).module.recorded = m.recorded.push signature := by
  obtain ⟨bodies, -, ⟨-, -, hnot⟩ | ⟨signature, hslot, -, hsig, -, hmod⟩⟩ := perform_of_recordsItsRow hm hr
  · exact absurd h (hnot name e)
  · exact ⟨_, signature, hslot, hsig, by rw [hmod]⟩

/-- **The one call of a lowered body is by its own row**, and the row is recorded. -/
theorem call_of_reply {m : Module} {r : Request} {d : Declaration} {g : Grant} {body : MethodBody}
    (hm : m.nextRow ≠ 0) (hd : r.lowers? = some d) (hg : (r.perform m).reply = .ok g) (hbody : g.body? = some body) :
    ∃ slot is, body.slot? = some slot ∧ Code.decode body.code = .ok is ∧
      is.filterMap (fun e => e.2.callToken?) = [⟨0x11000000 ||| slot.row⟩] ∧ body.convention = d.convention ∧
      Lowering.signature d slot ∈ (r.perform m).module.recorded := by
  obtain hnone | ⟨hrow, hperform⟩ := perform_of_lowers hm hd
  · rw [hnone g hg] at hbody
    cases hbody
  · rw [hperform] at hg
    cases hg
    cases hbody
    obtain ⟨is, hdecode, htokens⟩ := Lowering.callTokens_thunk d m.generation ⟨m.nextRow, hm⟩
    refine ⟨⟨m.nextRow, hm⟩, is, rfl, hdecode, ?_, rfl, ?_⟩
    · rw [htokens, Token.ofRow_eq_or hrow]
    · rw [hperform]
      exact Array.mem_push_self

end Request

/-! ## A run of requests -/

namespace Module

open Request

theorem contiguous_after : ∀ (rs : List Request) {m : Module}, m.Contiguous → (∀ r ∈ rs, r.RecordsItsRow) →
    (m.after rs).Contiguous
  | [], _, hm, _ => hm
  | r :: rs, _, hm, hrs => by
    have hstep := contiguous_perform hm (hrs r List.mem_cons_self)
    exact contiguous_after rs hstep (fun r' h => hrs r' (List.mem_cons_of_mem _ h))

/-- **What a run records**: of each request that was handed out a row, how it calls by it. -/
theorem recorded_after : ∀ (rs : List Request) {m : Module}, m.Contiguous → (∀ r ∈ rs, r.RecordsItsRow) →
    (m.after rs).recorded.toList.map some =
      m.recorded.toList.map some ++ (m.granted rs).map (fun g => g.1.signature? g.2)
  | [], m, _, _ => (List.append_nil _).symm
  | r :: rs, m, hm, hrs => by
    have hr := hrs r List.mem_cons_self
    have hrest := recorded_after rs (contiguous_perform hm hr) (fun r' h => hrs r' (List.mem_cons_of_mem _ h))
    rw [after, hrest, granted]
    obtain ⟨bodies, -, ⟨hslot, hmod, -⟩ | ⟨signature, hslot, -, hsig, -, hmod⟩⟩ :=
      perform_of_recordsItsRow hm.nextRow_ne_zero hr
    · rw [hslot, hmod]
      rfl
    · rw [hslot]
      simp only [hmod, Array.toList_push, List.map_append, List.map_cons, List.map_nil, List.append_assoc,
        Option.map_some, Option.toList_some, hsig]

theorem mem_recorded_after {rs : List Request} {m : Module} {signature : CallSignature} (hm : m.Contiguous)
    (hrs : ∀ r ∈ rs, r.RecordsItsRow) (h : signature ∈ m.recorded) : signature ∈ (m.after rs).recorded := by
  have hmem : some signature ∈ (m.after rs).recorded.toList.map some := by
    rw [recorded_after rs hm hrs]
    exact List.mem_append_left _ (List.mem_map_of_mem (Array.mem_toList_iff.2 h))
  obtain ⟨signature', hmem, hsame⟩ := List.mem_map.1 hmem
  cases hsame
  exact Array.mem_toList_iff.1 hmem

/-- A row that some request of a run recorded is in the table at the end. -/
theorem mem_recorded_of_request {start : Module} {pre post : List Request} {r : Request} {signature : CallSignature}
    (hstart : start.Contiguous) (hrs : ∀ r' ∈ pre ++ r :: post, r'.RecordsItsRow)
    (h : signature ∈ (r.perform (start.after pre)).module.recorded) :
    signature ∈ (start.after (pre ++ r :: post)).recorded := by
  obtain ⟨hpre, hrest⟩ := List.forall_mem_append.1 hrs
  obtain ⟨hr, hpost⟩ := List.forall_mem_cons.1 hrest
  have hstep := contiguous_perform (contiguous_after pre hstart hpre) hr
  rw [after_append, after]
  exact mem_recorded_after hstep hpost h

/-- **The table after any run has every row that was handed out, in order and once, and each says how its request
calls.**  A body that is turned away leaves its row in the table and the store as it was, and the one call of a body
that came back leads to the row of its declaration for good. -/
theorem signatures_of_session (generation firstRow : UInt32) (start : Module)
    (hstart : Module.new generation firstRow = .ok start) (requests : List Request)
    (hrecords : ∀ r ∈ requests, r.RecordsItsRow) :
    let m := start.after requests
    m.signatures.length = m.allocated.toNat ∧
    m.signatures.map (·.slot.row.toNat) = List.range' firstRow.toNat m.allocated.toNat ∧
    m.signatures.map some = (start.granted requests).map (fun g => g.1.signature? g.2) ∧
    ∀ pre r post, requests = pre ++ r :: post →
      let before := start.after pre
      -- a step that ends in an error, above all in a rejection
      (∀ halt, (r.perform before).reply = .error halt → (r.perform before).module.bodies = before.bodies) ∧
      (∀ name e, (r.perform before).reply = .error (.refused (.rejected name e)) →
        ∃ slot signature, r.slot? before = some slot ∧ r.signature? slot = some signature ∧
          (r.perform before).module.recorded = before.recorded.push signature ∧ signature ∈ m.signatures) ∧
      (∀ s d convention code slot c, r = .finish s d convention code → r.slot? before = some slot →
        (code slot).freeze = .ok c →
        ((∃ e, (r.perform before).reply = .error (.refused (.rejected d.name e))) ↔
          s.verify = true ∧ ∃ e, c.verify = .error (.refused e))) ∧
      -- a step that comes back with a lowered body
      ∀ d g body, r.lowers? = some d → (r.perform before).reply = .ok g → g.body? = some body →
        ∃ slot is, body.slot? = some slot ∧ Code.decode body.code = .ok is ∧
          is.filterMap (fun e => e.2.callToken?) = [⟨0x11000000 ||| slot.row⟩] ∧
          body.convention = Convention.ofName d.name ∧
          m.signatures.filter (fun row => row.slot.row == slot.row) =
            [⟨slot, Convention.ofName d.name, d.arity, d.isVoid⟩] := by
  have hcontiguous := contiguous_new hstart
  have hend := contiguous_after requests hcontiguous hrecords
  obtain ⟨hm, -, hfirst, hempty⟩ := new_eq_ok hstart
  intro m
  have hcount : m.allocated.toNat = m.recorded.size := by
    have hle : m.firstRow ≤ m.nextRow := UInt32.le_iff_toNat_le.2 (by rw [hend.nextRow]; exact Nat.le_add_right _ _)
    rw [allocated, UInt32.toNat_sub_of_le _ _ hle, hend.nextRow, Nat.add_sub_cancel_left]
  have hfirst' : m.firstRow = firstRow := (firstRow_after requests hm).trans hfirst
  refine ⟨?_, ?_, ?_, ?_⟩
  · rw [hend.signatures_eq, hcount, Array.length_toList]
  · rw [hend.signatures_eq, hcount, hend.rows, hfirst']
  · rw [hend.signatures_eq, recorded_after requests hcontiguous hrecords]
    rw [hempty]
    rfl
  · intro pre r post hsplit before
    subst hsplit
    obtain ⟨hpre, hrest⟩ := List.forall_mem_append.1 hrecords
    obtain ⟨hr, -⟩ := List.forall_mem_cons.1 hrest
    have hrow : before.nextRow ≠ 0 := (contiguous_after pre hcontiguous hpre).nextRow_ne_zero
    have hkeep : ∀ signature ∈ (r.perform before).module.recorded, signature ∈ m.recorded :=
      fun _ => mem_recorded_of_request hcontiguous hrecords
    refine ⟨fun halt => bodies_of_error hrow hr, ?_, ?_, ?_⟩
    · intro name e hrejected
      obtain ⟨slot, signature, hslot, hsig, hpushed⟩ := recorded_of_rejected hrow hr hrejected
      refine ⟨slot, signature, hslot, hsig, hpushed, ?_⟩
      rw [hend.signatures_eq, Array.mem_toList_iff]
      exact hkeep signature (by rw [hpushed]; exact Array.mem_push_self)
    · rintro s d convention code slot c rfl hslot hcode
      exact rejected_finish_iff hrow hslot hcode
    · intro d g body hd hg hbody
      obtain ⟨slot, is, hslot, hdecode, htokens, hconvention, hmem⟩ := call_of_reply hrow hd hg hbody
      exact ⟨slot, is, hslot, hdecode, htokens, hconvention, hend.filter_signatures (hkeep _ hmem)⟩

/-- A thunk without its return is turned away, and the rows of it and the next one have no gap. -/
theorem signatures_of_session_first_rejected :
    let unfinished : Slot → Buffer := fun slot =>
      (({ optimization := .release } : Buffer).emitAll [.loadArgument 0, .call (-1) (.ofRow slot.row)]).1
    let rejected : Request := .finish {} ⟨2, none, "CallIndirect", 1, true⟩ .default unfinished
    let next : Request := .assemble { verify := false } ⟨3, none, "CallIndirect", 0, true⟩
    ∃ start, Module.new 0 1 = .ok start ∧ (∀ r ∈ [rejected, next], r.RecordsItsRow) ∧
      (∃ e, (rejected.perform start).reply = .error (.refused (.rejected "CallIndirect" e))) ∧
      (start.after [rejected, next]).signatures.map (·.slot.row.toNat) = [1, 2] := by
  intro unfinished rejected next
  have hrecords : ∀ r ∈ [rejected, next], r.RecordsItsRow := by
    intro r hr
    rcases List.mem_cons.1 hr with rfl | hr
    · exact fun slot => ⟨_, rfl⟩
    · cases List.mem_singleton.1 hr
      exact trivial
  obtain ⟨-, hrows, -, hsteps⟩ := signatures_of_session 0 1 _ rfl [rejected, next] hrecords
  obtain ⟨-, -, hrejected, -⟩ := hsteps [] rejected [next] rfl
  refine ⟨_, rfl, hrecords, (hrejected {} _ .default unfinished _ _ rfl rfl rfl).2 ⟨rfl, ?_⟩, ?_⟩
  · refine ⟨.missingReturn, ?_⟩
    cbv
  · rw [hrows]
    cbv

end Module
end CilThunk
