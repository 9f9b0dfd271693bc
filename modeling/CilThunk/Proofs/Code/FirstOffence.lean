import CilThunk.Proofs.Code.AcceptedRun
/-!
# FirstOffence — what the verifier accepts and whom it blames

A body is well formed if it ends with its one return, and calls, marks and heights are in order before it.  Told
instruction by instruction, that is six ways to break a rule, each with the error that it is refused for (`Offence`).
The verifier goes as far as the first instruction that breaks one: it is refused for it, unless the arithmetic gives
out there (`run_verdict`).
-/
namespace CilThunk

/-- The offset that an error of the verifier names. -/
def VerifyError.offset? : VerifyError → Option Nat
  | .stackUnderflow offset _ _ => some offset
  | .maxStackExceeded offset _ _ => some offset
  | .unknownCallSite offset _ => some offset
  | .misplacedTailMark offset => some offset
  | .unbalancedReturn offset _ => some offset
  | .codeAfterReturn offset => some offset
  | .undecodable _ => none
  | .emptyBody => none
  | .missingReturn => none

namespace Verify

/-- What an instruction does to the height: a call, what the first of its sites says.  A call without a site counts for
nothing, and so does a return. -/
def effect (sites : List CallSite) (x : Nat × Instruction) : Int := (effect? sites x).getD 0

/-- The height behind some code. -/
def height (sites : List CallSite) (is : List (Nat × Instruction)) : Int := (is.map (effect sites)).sum

/-- The height at an instruction behind `pre`, or the negation of its effect, is no 32-bit number. -/
def Overflows (sites : List CallSite) (pre : List (Nat × Instruction)) (x : Nat × Instruction) : Prop :=
  ¬ FitsInt32 (height sites (pre ++ [x])) ∨ ¬ FitsInt32 (-effect sites x)

/-- What follows goes on with a call and then a return. -/
def CallThenReturn (is : List (Nat × Instruction)) : Prop :=
  ∃ offset token offset' rest, is = (offset, .calli token) :: (offset', .ret) :: rest

/-- A body that keeps all rules. -/
structure WellFormed (limit : UInt16) (sites : List CallSite) (is : List (Nat × Instruction)) : Prop where
  returns : ∃ body offset, is = body ++ [(offset, .ret)] ∧ ∀ x ∈ body, x.2 ≠ .ret
  tails : ∀ pre offset post, is = pre ++ (offset, .tail) :: post → CallThenReturn post
  calls : ∀ offset token, (offset, .calli token) ∈ is → ∃ site ∈ sites, site.offset = offset ∧ site.token = token
  heights : ∀ pre post, is = pre ++ post → post ≠ [] → 0 ≤ height sites pre ∧ height sites pre ≤ limit.toNat
  returned : ∀ pre offset, is = pre ++ [(offset, .ret)] → height sites pre ≤ 1

/-- An instruction that breaks a rule where it stands, behind `pre` and in front of `post`, and the error for that. -/
inductive Offence (limit : UInt16) (sites : List CallSite) (pre : List (Nat × Instruction)) (offset : Nat)
    (i : Instruction) (post : List (Nat × Instruction)) : VerifyError → Prop
  | behindReturn (before : List (Nat × Instruction)) (last : Nat) (hpre : pre = before ++ [(last, .ret)]) :
    Offence limit sites pre offset i post (.codeAfterReturn offset)
  | unknownCall (token : Token) (hi : i = .calli token)
    (hsites : ∀ site ∈ sites, ¬ (site.offset = offset ∧ site.token = token)) :
    Offence limit sites pre offset i post (.unknownCallSite offset token)
  | strayTail (hi : i = .tail) (hpost : ¬ CallThenReturn post) :
    Offence limit sites pre offset i post (.misplacedTailMark offset)
  | leftover (hi : i = .ret) (hheight : 1 < height sites pre) :
    Offence limit sites pre offset i post (.unbalancedReturn offset (height sites pre))
  | below (hi : i ≠ .ret) (hheight : height sites (pre ++ [(offset, i)]) < 0) :
    Offence limit sites pre offset i post (.stackUnderflow offset (-effect sites (offset, i)) (height sites pre))
  | above (hi : i ≠ .ret) (hheight : limit.toNat < height sites (pre ++ [(offset, i)])) :
    Offence limit sites pre offset i post (.maxStackExceeded offset (height sites (pre ++ [(offset, i)])) limit)

/-- No instruction of `done` breaks a rule, with `rest` behind it. -/
def Clear (limit : UInt16) (sites : List CallSite) (done rest : List (Nat × Instruction)) : Prop :=
  ∀ pre offset i post, done = pre ++ (offset, i) :: post → ∀ e, ¬ Offence limit sites pre offset i (post ++ rest) e

section
variable {limit : UInt16} {sites : List CallSite} {pre post done rest : List (Nat × Instruction)} {offset : Nat}
  {i : Instruction} {e : VerifyError}

theorem Offence.offset? (h : Offence limit sites pre offset i post e) : e.offset? = some offset := by
  cases h <;> rfl

theorem height_concat (sites : List CallSite) (is : List (Nat × Instruction)) (x : Nat × Instruction) :
    height sites (is ++ [x]) = height sites is + effect sites x := by
  simp [height]

theorem clear_nil : Clear limit sites [] rest := by
  intro pre offset i post h
  cases pre <;> cases h

theorem clear_concat_iff :
    Clear limit sites (done ++ [(offset, i)]) rest ↔
      Clear limit sites done ((offset, i) :: rest) ∧ ∀ e, ¬ Offence limit sites done offset i rest e := by
  constructor
  · intro h
    refine ⟨fun pre offset' i' post hs e he => ?_, fun e he => h done offset i [] rfl e he⟩
    refine h pre offset' i' (post ++ [(offset, i)]) (by rw [hs]; simp) e ?_
    rw [List.append_assoc]
    exact he
  · rintro ⟨hdone, hlast⟩ pre offset' i' post hs e he
    obtain ⟨rfl, heq, rfl⟩ | ⟨post', rfl, rfl⟩ := split_concat hs
    · cases heq
      exact hlast e he
    · rw [List.append_assoc] at he
      exact hdone pre offset' i' post' rfl e he

theorem isTailCall_iff (is : List (Nat × Instruction)) : isTailCall is = true ↔ CallThenReturn is := by
  unfold isTailCall
  split
  · exact iff_of_true rfl ⟨_, _, _, _, rfl⟩
  · rename_i h
    refine iff_of_false Bool.false_ne_true ?_
    rintro ⟨offset, token, offset', rest, rfl⟩
    exact h offset token offset' rest rfl

theorem siteOf?_eq_none_iff (sites : List CallSite) (offset : Nat) (token : Token) :
    siteOf? sites offset token = none ↔ ∀ site ∈ sites, ¬ (site.offset = offset ∧ site.token = token) := by
  simp [siteOf?]

theorem not_offence (hdone : ∀ x ∈ done, x.2 ≠ .ret)
    (hcall : ∀ token, i = .calli token → siteOf? sites offset token ≠ none) (htail : i = .tail → CallThenReturn rest)
    (hret : i = .ret → height sites done ≤ 1)
    (hheight : i ≠ .ret →
      0 ≤ height sites (done ++ [(offset, i)]) ∧ height sites (done ++ [(offset, i)]) ≤ limit.toNat) :
    ∀ e, ¬ Offence limit sites done offset i rest e := by
  intro e he
  cases he with
  | behindReturn before last hpre => exact hdone (last, .ret) (by simp [hpre]) rfl
  | unknownCall token hi hsites => exact hcall token hi ((siteOf?_eq_none_iff ..).2 hsites)
  | strayTail hi hpost => exact hpost (htail hi)
  | leftover hi h => have := hret hi; omega
  | below hi h => have := hheight hi; omega
  | above hi h => have := hheight hi; omega

/-- What the verifier can do at an instruction that is no return. -/
inductive Step (limit : UInt16) (sites : List CallSite) (done : List (Nat × Instruction)) (offset : Nat)
    (i : Instruction) (rest : List (Nat × Instruction)) : Prop
  | passed (hheight : 0 ≤ height sites (done ++ [(offset, i)]) ∧ height sites (done ++ [(offset, i)]) ≤ limit.toNat)
    (hclear : ∀ e, ¬ Offence limit sites done offset i rest e)
    (hrun : run limit sites (height sites done) ((offset, i) :: rest) =
      run limit sites (height sites (done ++ [(offset, i)])) rest)
  | refused (e : VerifyError) (he : Offence limit sites done offset i rest e)
    (hrun : run limit sites (height sites done) ((offset, i) :: rest) = .error (.refused e))
  | overflowed (e : VerifyError) (fault : Fault) (he : Offence limit sites done offset i rest e)
    (hover : Overflows sites done (offset, i))
    (hrun : run limit sites (height sites done) ((offset, i) :: rest) = .error (.broken fault))

/-- The step at an instruction whose only rule is that on heights. -/
theorem step_charged {delta : Int32} (hdone : ∀ x ∈ done, x.2 ≠ .ret) (hi : i ≠ .ret) (htail : i ≠ .tail)
    (heff : effect? sites (offset, i) = some delta.toInt)
    (hrun : run limit sites (height sites done) ((offset, i) :: rest) =
      (charge limit offset (height sites done) delta).bind (fun height => run limit sites height rest)) :
    Step limit sites done offset i rest := by
  have heffect : effect sites (offset, i) = delta.toInt := by rw [effect, heff, Option.getD_some]
  have hnext : height sites (done ++ [(offset, i)]) = height sites done + delta.toInt := by
    rw [height_concat, heffect]
  obtain ⟨h0, hl, hc⟩ | ⟨h0, -, hc⟩ | ⟨hl, -, hc⟩ | ⟨hout, fault, hfault, hc⟩ :=
    charge_cases limit offset (height sites done) delta <;> rw [hc] at hrun
  · have hheight := And.intro (hnext ▸ h0) (hnext ▸ hl)
    refine .passed hheight (not_offence hdone ?_ (absurd · htail) (absurd · hi) fun _ => hheight) (hnext ▸ hrun)
    rintro token rfl hnone
    simp [effect?, hnone] at heff
  · have he : Offence limit sites done offset i rest _ := .below hi (by rw [hnext]; exact h0)
    rw [heffect] at he
    exact .refused _ he hrun
  · have he : Offence limit sites done offset i rest _ := .above hi (by rw [hnext]; exact hl)
    rw [hnext] at he
    exact .refused _ he hrun
  · have hover : Overflows sites done (offset, i) := by
      rw [Overflows, hnext, heffect]
      exact hfault.imp And.right (·.2.2)
    rw [← hnext] at hout
    obtain h0 | hl := hout
    · exact .overflowed _ fault (.below hi h0) hover hrun
    · exact .overflowed _ fault (.above hi hl) hover hrun

theorem step_of_ne_ret (offset : Nat) (rest : List (Nat × Instruction)) (hdone : ∀ x ∈ done, x.2 ≠ .ret)
    (hi : i ≠ .ret) (h0 : 0 ≤ height sites done) (hl : height sites done ≤ limit.toNat) :
    Step limit sites done offset i rest := by
  cases i with
  | ret => exact absurd rfl hi
  | ldarg n => exact step_charged hdone hi (by simp) rfl (run_ldarg ..)
  | tail =>
    have hnext : height sites (done ++ [(offset, .tail)]) = height sites done :=
      (height_concat ..).trans (Int.add_zero _)
    by_cases ht : isTailCall rest = true
    · have hheight := And.intro (hnext ▸ h0) (hnext ▸ hl)
      refine .passed hheight (not_offence hdone (fun _ h => by cases h) (fun _ => (isTailCall_iff rest).1 ht)
        (absurd · hi) fun _ => hheight) ?_
      rw [run, if_pos ht, hnext]
    · refine .refused _ (.strayTail rfl fun h => ht ((isTailCall_iff rest).2 h)) ?_
      rw [run, if_neg ht]
  | calli token =>
    cases hs : siteOf? sites offset token with
    | none =>
      refine .refused _ (.unknownCall token rfl ((siteOf?_eq_none_iff ..).1 hs)) ?_
      rw [run, hs]
    | some site => exact step_charged hdone hi (by simp) (by simp [effect?, hs]) (run_calli _ _ _ _ _ _ hs)

/-- How the verifier may judge a body. -/
inductive Verdict (limit : UInt16) (sites : List CallSite) (is : List (Nat × Instruction)) :
    Except (Halt VerifyError) Unit → Prop
  | accepted (hclear : Clear limit sites is []) (hlast : ∃ body offset, is = body ++ [(offset, .ret)]) :
    Verdict limit sites is (.ok ())
  | unfinished (hclear : Clear limit sites is []) (hret : ∀ x ∈ is, x.2 ≠ .ret) :
    Verdict limit sites is (.error (.refused .missingReturn))
  | blamed (pre : List (Nat × Instruction)) (offset : Nat) (i : Instruction) (post : List (Nat × Instruction))
    (e : VerifyError) (hs : is = pre ++ (offset, i) :: post) (hclear : Clear limit sites pre ((offset, i) :: post))
    (he : Offence limit sites pre offset i post e) :
    Verdict limit sites is (.error (.refused e))
  | overflowed (pre : List (Nat × Instruction)) (offset : Nat) (i : Instruction) (post : List (Nat × Instruction))
    (e : VerifyError) (fault : Fault) (hs : is = pre ++ (offset, i) :: post)
    (he : Offence limit sites pre offset i post e) (hover : Overflows sites pre (offset, i)) :
    Verdict limit sites is (.error (.broken fault))

/-- **The verifier judges a body by the first instruction that breaks a rule.**  What is done has no return in it and is
clear of offences, which is what lets the run stand at its height. -/
theorem run_verdict (limit : UInt16) (sites : List CallSite) : ∀ (rest done : List (Nat × Instruction)),
    Clear limit sites done rest → (∀ x ∈ done, x.2 ≠ .ret) → 0 ≤ height sites done →
    height sites done ≤ limit.toNat → Verdict limit sites (done ++ rest) (run limit sites (height sites done) rest)
  | [], done, hclear, hdone, _, _ => by
    rw [List.append_nil]
    exact .unfinished hclear hdone
  | (offset, i) :: rest, done, hclear, hdone, h0, hl => by
    by_cases hi : i = .ret
    · subst hi
      by_cases h1 : 1 < height sites done
      · rw [run.eq_def]
        simp only [if_pos h1]
        exact .blamed done offset .ret rest _ rfl hclear (.leftover rfl h1)
      · have hret : Clear limit sites (done ++ [(offset, .ret)]) rest :=
          clear_concat_iff.2 ⟨hclear, not_offence hdone (fun _ h => by cases h) (fun h => by cases h)
            (fun _ => by omega) (absurd rfl ·)⟩
        rw [run.eq_def]
        simp only [if_neg h1]
        cases rest with
        | nil => exact .accepted hret ⟨done, offset, rfl⟩
        | cons x rest =>
          exact .blamed (done ++ [(offset, .ret)]) x.1 x.2 rest _ (by simp) hret (.behindReturn done offset rfl)
    · cases step_of_ne_ret offset rest hdone hi h0 hl with
      | passed hheight hnone hrun =>
        rw [hrun, List.append_cons]
        refine run_verdict limit sites rest (done ++ [(offset, i)]) (clear_concat_iff.2 ⟨hclear, hnone⟩) ?_
          hheight.1 hheight.2
        intro x hx
        obtain hx | hx := List.mem_append.1 hx
        · exact hdone x hx
        · rw [List.mem_singleton.1 hx]
          exact hi
      | refused e he hrun => exact hrun ▸ .blamed done offset i rest e rfl hclear he
      | overflowed e fault he hover hrun => exact hrun ▸ .overflowed done offset i rest e fault rfl he hover

theorem not_clear_of_offence {is : List (Nat × Instruction)} (hs : is = pre ++ (offset, i) :: post)
    (he : Offence limit sites pre offset i post e) : ¬ Clear limit sites is [] := fun h =>
  h pre offset i post hs e (by rwa [List.append_nil])

/-- Of the instructions that break no rule, only the last one may be a return. -/
theorem Clear.no_return_before {x : Nat × Instruction} (h : Clear limit sites (done ++ [x]) rest) :
    ∀ y ∈ done, y.2 ≠ .ret := by
  rintro ⟨last, i⟩ hy rfl
  obtain ⟨before, after, rfl⟩ := List.append_of_mem hy
  cases after with
  | nil => exact h (before ++ [(last, .ret)]) x.1 x.2 [] rfl _ (.behindReturn before last rfl)
  | cons z after =>
    exact h (before ++ [(last, .ret)]) z.1 z.2 (after ++ [x]) (by simp) _ (.behindReturn before last rfl)

/-- As long as no rule is broken and nothing returns, the heights are within the limit. -/
theorem Clear.height_bounds (is : List (Nat × Instruction)) (h : Clear limit sites is []) (pre post)
    (hs : is = pre ++ post) (hret : ∀ x ∈ pre, x.2 ≠ .ret) :
    0 ≤ height sites pre ∧ height sites pre ≤ limit.toNat := by
  obtain rfl | ⟨pre, ⟨offset, i⟩, rfl⟩ := List.eq_nil_or_concat pre
  · exact ⟨Int.le_refl 0, Int.natCast_nonneg _⟩
  · have hi : i ≠ .ret := hret (offset, i) (by simp)
    rw [List.concat_eq_append] at hs ⊢
    have hnone := h pre offset i post (by simp [hs])
    exact ⟨Int.not_lt.1 fun hlt => hnone _ (.below hi hlt), Int.not_lt.1 fun hlt => hnone _ (.above hi hlt)⟩

theorem WellFormed.clear {is : List (Nat × Instruction)} (h : WellFormed limit sites is) :
    Clear limit sites is [] := by
  intro pre offset i post hs
  obtain ⟨body, final, hbody, hret⟩ := h.returns
  rw [List.append_nil]
  obtain ⟨rfl, hlast, rfl⟩ | ⟨post', rfl, rfl⟩ := split_concat (hbody.symm.trans hs)
  · cases hlast
    exact not_offence hret (fun _ h => by cases h) (fun h => by cases h) (fun _ => h.returned _ _ hs) (absurd rfl ·)
  · have hi : i ≠ .ret := hret (offset, i) (by simp)
    refine not_offence (fun x hx => hret x (List.mem_append_left _ hx)) (fun token hcall hnone => ?_)
      (fun htail => h.tails pre offset _ (htail ▸ hs)) (absurd · hi)
      fun _ => h.heights (pre ++ [(offset, i)]) (post' ++ [(final, .ret)]) (by simp [hs]) (by simp)
    obtain ⟨site, hsite, heq⟩ := h.calls offset token (by simp [hs, hcall])
    exact (siteOf?_eq_none_iff ..).1 hnone site hsite heq

theorem wellFormed_iff (is : List (Nat × Instruction)) :
    WellFormed limit sites is ↔ Clear limit sites is [] ∧ ∃ body offset, is = body ++ [(offset, .ret)] := by
  constructor
  · intro h
    obtain ⟨body, offset, hs, -⟩ := h.returns
    exact ⟨h.clear, body, offset, hs⟩
  · rintro ⟨h, body, final, rfl⟩
    have hret := h.no_return_before
    have hnone : ∀ {pre offset i post}, body ++ [(final, .ret)] = pre ++ (offset, i) :: post →
        ∀ e, ¬ Offence limit sites pre offset i post e := fun hs _ he => not_clear_of_offence hs he h
    refine ⟨⟨body, final, rfl, hret⟩, fun pre offset post hs => ?_, fun offset token hmem => ?_,
      fun pre post hs hpost => ?_, fun pre offset hs => ?_⟩
    · exact Classical.not_not.1 fun hpost => hnone hs _ (.strayTail rfl hpost)
    · obtain ⟨pre, post, hs⟩ := List.append_of_mem hmem
      refine Classical.byContradiction fun hsites => hnone hs _ (.unknownCall token rfl fun site hsite heq => ?_)
      exact hsites ⟨site, hsite, heq⟩
    · obtain ⟨x, post, rfl⟩ := List.exists_cons_of_ne_nil hpost
      refine h.height_bounds _ pre _ hs fun y hy => hret y ?_
      obtain ⟨rfl, -⟩ | ⟨post', rfl, -⟩ := split_concat hs
      · exact hy
      · exact List.mem_append_left _ hy
    · exact Int.not_lt.1 fun hlt => hnone hs _ (.leftover rfl hlt)

theorem verdict_of_run (limit : UInt16) (sites : List CallSite) (is : List (Nat × Instruction)) :
    Verdict limit sites is (run limit sites 0 is) :=
  run_verdict limit sites is [] clear_nil (fun _ h => by cases h) (Int.le_refl 0) (Int.natCast_nonneg _)

theorem run_eq_ok_iff_wellFormed (limit : UInt16) (sites : List CallSite) (is : List (Nat × Instruction)) :
    run limit sites 0 is = .ok () ↔ WellFormed limit sites is := by
  rw [wellFormed_iff]
  generalize hr : run limit sites 0 is = r
  -- each verdict decides both sides, since the first offence also keeps a body from being well formed
  cases hr ▸ verdict_of_run limit sites is with
  | accepted hclear hlast => exact iff_of_true rfl ⟨hclear, hlast⟩
  | unfinished _ hret =>
    refine iff_of_false (by simp) ?_
    rintro ⟨-, body, offset, rfl⟩
    exact hret (offset, .ret) (by simp) rfl
  | blamed pre offset i post e hs _ he =>
    exact iff_of_false (by simp) fun h => not_clear_of_offence hs he h.1
  | overflowed pre offset i post e fault hs he =>
    exact iff_of_false (by simp) fun h => not_clear_of_offence hs he h.1

/-- **The verifier accepts the well-formed bodies, and blames the first instruction that makes a body ill-formed.** -/
theorem verdict_of_code (code : List UInt8) (limit : UInt16) (sites : List CallSite) :
    (CilThunk.verify code limit sites = .ok () ↔
      ∃ is, Code.decode code = .ok is ∧ WellFormed limit sites is) ∧
    ∀ is, Code.decode code = .ok is → is ≠ [] →
      (∀ e, CilThunk.verify code limit sites = .error (.refused e) → e = .missingReturn ∨
        ∃ pre offset i post, is = pre ++ (offset, i) :: post ∧ e.offset? = some offset ∧
          Offence limit sites pre offset i post e ∧ Clear limit sites pre ((offset, i) :: post)) ∧
      (CilThunk.verify code limit sites = .error (.refused .missingReturn) ↔
        Clear limit sites is [] ∧ ∀ x ∈ is, x.2 ≠ .ret) ∧
      ∀ fault, CilThunk.verify code limit sites = .error (.broken fault) →
        ∃ pre x post, is = pre ++ x :: post ∧ Overflows sites pre x := by
  constructor
  · simp only [verify_eq_ok_iff_run, run_eq_ok_iff_wellFormed]
  · intro is hd hne
    rw [run_zero_eq_verify hd hne]
    generalize hr : run limit sites 0 is = r
    cases hr ▸ verdict_of_run limit sites is with
    | accepted hclear hlast =>
      refine ⟨(fun _ h => by cases h), iff_of_false (by simp) ?_, fun _ h => by cases h⟩
      rintro ⟨-, hret⟩
      obtain ⟨body, offset, rfl⟩ := hlast
      exact hret (offset, .ret) (by simp) rfl
    | unfinished hclear hret =>
      refine ⟨fun e h => ?_, iff_of_true rfl ⟨hclear, hret⟩, fun fault h => by cases h⟩
      cases h
      exact .inl rfl
    | blamed pre offset i post e hs hclear he =>
      refine ⟨fun e' h => ?_, iff_of_false (fun h => ?_) fun h => not_clear_of_offence hs he h.1,
        fun _ h => by cases h⟩
      · cases h
        exact .inr ⟨pre, offset, i, post, hs, he.offset?, he, hclear⟩
      · cases h
        cases he
    | overflowed pre offset i post e fault hs he hover =>
      refine ⟨(fun _ h => by cases h), iff_of_false (by simp) fun h => not_clear_of_offence hs he h.1,
        fun fault' _ => ?_⟩
      exact ⟨pre, (offset, i), post, hs, hover⟩

theorem verdict_of_code_second_return :
    ∃ is pre offset i post,
      Code.decode [0x02, 0xFE, 0x14, 0x29, 1, 0, 0, 0x11, 0x2A, 0x2A] = .ok is ∧ is = pre ++ (offset, i) :: post ∧
      (VerifyError.codeAfterReturn 9).offset? = some offset ∧
      Offence 1 [⟨3, ⟨0x11000001⟩, 0⟩, ⟨3, ⟨0x11000001⟩, 7⟩] pre offset i post (.codeAfterReturn 9) ∧
      Clear 1 [⟨3, ⟨0x11000001⟩, 0⟩, ⟨3, ⟨0x11000001⟩, 7⟩] pre ((offset, i) :: post) := by
  have hd : Code.decode [0x02, 0xFE, 0x14, 0x29, 1, 0, 0, 0x11, 0x2A, 0x2A] =
      .ok [(0, .ldarg 0), (1, .tail), (3, .calli ⟨0x11000001⟩), (8, .ret), (9, .ret)] := by cbv
  have hv : CilThunk.verify [0x02, 0xFE, 0x14, 0x29, 1, 0, 0, 0x11, 0x2A, 0x2A] 1
      [⟨3, ⟨0x11000001⟩, 0⟩, ⟨3, ⟨0x11000001⟩, 7⟩] = .error (.refused (.codeAfterReturn 9)) := by cbv
  obtain ⟨hrefused, -, -⟩ := (verdict_of_code _ 1 _).2 _ hd (List.cons_ne_nil _ _)
  obtain h | ⟨pre, offset, i, post, hs, hoffset, he, hclear⟩ := hrefused _ hv
  · cases h
  · exact ⟨_, pre, offset, i, post, hd, hs, hoffset, he, hclear⟩

end

end Verify
end CilThunk
