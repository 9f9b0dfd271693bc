import CilThunk.Proofs.Listing.Words
/-!
# Recovery — what a listing tells

A listing is read from the front.  A field is a word of letters and digits with another character behind it, a line ends
with its line break, and a run of lines or bodies ends where something stands that none of them starts with.  So every
part tells what it shows and leaves what follows it (`Tells`), and a whole listing tells its rows and what it shows of its bodies
(`Listing.shown_of_listing`).
-/
namespace CilThunk

theorem Slot.row_injective : Function.Injective Slot.row := by
  rintro ⟨row, _⟩ ⟨_, _⟩ rfl
  rfl

namespace Listing

open Text

/-! ## What is shown -/

/-- What the heading of a body shows. -/
structure Head where
  parent : UInt32
  maxStack : UInt16
  convention : Convention
  slot? : Option Slot
  deriving DecidableEq

/-- What a listing shows of a body: its head, and what reading its code gives. -/
structure Shown extends Head where
  decoded : Except DecodeError (List (Nat × Instruction))

def head (b : MethodBody) : Head := ⟨b.parent, b.maxStack, b.convention, b.slot?⟩

def shown (b : MethodBody) : Shown := ⟨head b, Code.decode b.code⟩

/-! ## Texts that end where they say -/

/-- With anything behind it, a text tells the view of what it is the text of, and where it ends. -/
def Tells {α β : Type} (text : α → List Char) (view : α → β) : Prop :=
  ∀ {a b : α} {after behind : List Char}, text a ++ after = text b ++ behind → view a = view b ∧ after = behind

/-- **A run of texts tells the views of all**, where what follows does not start with another. -/
theorem Tells.flatMap {α β : Type} {text : α → List Char} {view : α → β} (h : Tells text view)
    {after behind : List Char} (hafter : ∀ a rest, text a ++ rest ≠ after) (hbehind : ∀ a rest, text a ++ rest ≠ behind) :
    ∀ {as bs : List α}, as.flatMap text ++ after = bs.flatMap text ++ behind →
      as.map view = bs.map view ∧ after = behind
  | [], [], heq => ⟨rfl, heq⟩
  | [], b :: bs, heq => by
    rw [List.flatMap_cons, List.append_assoc] at heq
    exact absurd heq.symm (hafter b _)
  | a :: as, [], heq => by
    rw [List.flatMap_cons, List.append_assoc] at heq
    exact absurd heq (hbehind a _)
  | a :: as, b :: bs, heq => by
    rw [List.flatMap_cons, List.flatMap_cons, List.append_assoc, List.append_assoc] at heq
    obtain ⟨hview, hrest⟩ := h heq
    obtain ⟨hviews, hend⟩ := Tells.flatMap h hafter hbehind hrest
    exact ⟨by rw [List.map_cons, List.map_cons, hview, hviews], hend⟩

theorem toList_join_map {α : Type} (text : α → String) (as : List α) :
    (String.join (as.map text)).toList = as.flatMap fun a => (text a).toList := by
  simp [String.toList_join, List.flatMap_map]

/-! ## Rows -/

theorem distinctWords_returned : DistinctWords returned where
  injective := by decide
  alphanumeric isVoid := by cases isVoid <;> simp [Alphanumeric, returned]

theorem signatureLine_append (s : CallSignature) (after : List Char) :
    (signatureLine s).toList ++ after =
      "  [".toList ++ ((decimalPadded 4 s.slot.row.toNat).toList ++ ']' ::
        (" ".toList ++ (s.convention.text.toList ++ ' ' ::
          ("(header 0x".toList ++ ((hexPadded 2 s.convention.header.toNat).toList ++ ',' ::
            (" params: ".toList ++ ((decimal s.arity.toNat).toList ++ ',' ::
              (" returns: ".toList ++ ((returned s.isVoid).toList ++ ')' :: '\n' :: after))))))))) := by
  unfold signatureLine hexMarked
  simp

theorem tells_signatureLine : Tells (fun s => (signatureLine s).toList) id := by
  intro s t after behind h
  simp only [signatureLine_append] at h
  obtain ⟨hslot, -, h⟩ := (distinctWords_decimalPadded 4).field_inj rfl rfl h
  obtain ⟨hconvention, -, h⟩ := Convention.distinctWords_text.field_inj rfl rfl h
  -- The header is a second spelling of the convention: it tells nothing new.
  obtain ⟨-, -, h⟩ := (distinctWords_hexPadded 2).field_inj rfl rfl h
  obtain ⟨harity, -, h⟩ := distinctWords_decimal.field_inj rfl rfl h
  obtain ⟨hisVoid, -, h⟩ := distinctWords_returned.field_inj rfl rfl h
  have hslot := Slot.row_injective (UInt32.toNat_inj.1 hslot)
  have harity := UInt16.toNat_inj.1 harity
  refine ⟨?_, (List.cons.inj h).2⟩
  cases s
  cases t
  simp_all

/-! ## Bodies -/

/-- The end of a heading and what follows it. -/
def headingEnd (after : List Char) (slot? : Option Slot) : List Char :=
  slot?.elim (')' :: (" ==\n".toList ++ after)) fun slot =>
    ',' :: (" sig: ".toList ++ ((decimal slot.row.toNat).toList ++ ')' :: (" ==\n".toList ++ after)))

theorem heading_append (b : MethodBody) (after : List Char) :
    (heading b).toList ++ after =
      "== Method[".toList ++ ((decimal b.parent.toNat).toList ++ ']' ::
        (" (maxstack: ".toList ++ ((decimal b.maxStack.toNat).toList ++ ',' ::
          (" callconv: ".toList ++ (b.convention.text.toList ++ headingEnd after b.slot?))))) := by
  unfold heading headingEnd
  cases b.slot? <;> simp

/-- The character behind the convention tells whether there is a row. -/
theorem convention_headingEnd_inj {k k' : Convention} {slot? slot?' : Option Slot} {lead after behind : List Char}
    (h : lead ++ (k.text.toList ++ headingEnd after slot?) = lead ++ (k'.text.toList ++ headingEnd behind slot?')) :
    k = k' ∧ slot? = slot?' ∧ after = behind := by
  cases slot? with
  | none =>
    cases slot?' with
    | none =>
      obtain ⟨hconvention, -, h⟩ := Convention.distinctWords_text.field_inj rfl rfl h
      exact ⟨hconvention, rfl, List.append_cancel_left h⟩
    | some slot' =>
      obtain ⟨-, hcomma, -⟩ := Convention.distinctWords_text.field_inj rfl rfl h
      cases hcomma
  | some slot =>
    cases slot?' with
    | none =>
      obtain ⟨-, hcomma, -⟩ := Convention.distinctWords_text.field_inj rfl rfl h
      cases hcomma
    | some slot' =>
      obtain ⟨hconvention, -, h⟩ := Convention.distinctWords_text.field_inj rfl rfl h
      obtain ⟨hslot, -, h⟩ := distinctWords_decimal.field_inj rfl rfl h
      have hslot := Slot.row_injective (UInt32.toNat_inj.1 hslot)
      exact ⟨hconvention, congrArg some hslot, List.append_cancel_left h⟩

theorem tells_heading : Tells (fun b => (heading b).toList) head := by
  intro b c after behind h
  simp only [heading_append] at h
  obtain ⟨hparent, -, h⟩ := distinctWords_decimal.field_inj rfl rfl h
  obtain ⟨hmaxStack, -, h⟩ := distinctWords_decimal.field_inj rfl rfl h
  obtain ⟨hconvention, hslot, h⟩ := convention_headingEnd_inj h
  have hparent := UInt32.toNat_inj.1 hparent
  have hmaxStack := UInt16.toNat_inj.1 hmaxStack
  exact ⟨by rw [head, head, hparent, hmaxStack, hconvention, hslot], h⟩

theorem instructionLine_append (offset : Nat) (i : Instruction) (after : List Char) :
    (instructionLine offset i).toList ++ after =
      "IL_".toList ++ ((hexPadded 4 offset).toList ++ ':' :: (" ".toList ++ (i.text.toList ++ '\n' :: after))) := by
  simp [instructionLine, Code.label]

theorem tells_instructionLine : Tells (fun p : Nat × Instruction => (instructionLine p.1 p.2).toList) id := by
  intro p q after behind h
  simp only [instructionLine_append] at h
  obtain ⟨hoffset, -, h⟩ := (distinctWords_hexPadded 4).field_inj rfl rfl h
  obtain ⟨htext, h⟩ := append_cons_inj_of_not_mem p.2.newline_not_mem_text q.2.newline_not_mem_text
    (List.append_cancel_left h)
  exact ⟨Prod.ext hoffset (Instruction.text_injective (String.toList_inj.1 htext)), h⟩

/-- The line that stands for code that cannot be read. -/
def reasonLine (e : DecodeError) : String := "  <undecodable: " ++ e.message ++ ">\n"

theorem reasonLine_append (e : DecodeError) (after : List Char) :
    (reasonLine e).toList ++ after = "  <undecodable: ".toList ++ ((e.message.toList ++ ['>']) ++ '\n' :: after) := by
  unfold reasonLine
  simp

theorem tells_reasonLine : Tells (fun e => (reasonLine e).toList) id := by
  intro e f after behind h
  simp only [reasonLine_append] at h
  have hclosed : ∀ e : DecodeError, '\n' ∉ e.message.toList ++ ['>'] := by simp
  obtain ⟨hmessage, h⟩ := append_cons_inj_of_not_mem (hclosed e) (hclosed f) (List.append_cancel_left h)
  exact ⟨DecodeError.message_injective (String.toList_inj.1 (List.append_cancel_right hmessage)), h⟩

/-- The lines of the code, or of the reason why there are none. -/
def codeLines : Except DecodeError (List (Nat × Instruction)) → List Char
  | .ok is => is.flatMap fun p => (instructionLine p.1 p.2).toList
  | .error e => (reasonLine e).toList

theorem toList_code (bytes : List UInt8) : (code bytes).toList = codeLines (Code.decode bytes) := by
  unfold code
  cases Code.decode bytes with
  | ok is => exact toList_join_map _ is
  | error e => rfl

/-- Instructions are not taken for the reason why there are none. -/
theorem codeLines_ok_ne_error (is : List (Nat × Instruction)) (e : DecodeError) (after behind : List Char) :
    codeLines (.ok is) ++ '\n' :: after ≠ codeLines (.error e) ++ behind := by
  rw [codeLines, codeLines, reasonLine_append]
  cases is with
  | nil => simp
  | cons p is => simp [instructionLine_append]

theorem codeLines_inj {decoded decoded' : Except DecodeError (List (Nat × Instruction))} {after behind : List Char}
    (h : codeLines decoded ++ '\n' :: after = codeLines decoded' ++ '\n' :: behind) :
    decoded = decoded' ∧ after = behind := by
  cases decoded with
  | ok is =>
    cases decoded' with
    | ok is' =>
      have hline : ∀ (p : Nat × Instruction) (rest after : List Char),
          (instructionLine p.1 p.2).toList ++ rest ≠ '\n' :: after := by simp [instructionLine_append]
      obtain ⟨his, hend⟩ := tells_instructionLine.flatMap (fun p rest => hline p rest _) (fun p rest => hline p rest _) h
      rw [List.map_id, List.map_id] at his
      exact ⟨congrArg Except.ok his, (List.cons.inj hend).2⟩
    | error e' => exact absurd h (codeLines_ok_ne_error is e' after _)
  | error e =>
    cases decoded' with
    | ok is' => exact absurd h.symm (codeLines_ok_ne_error is' e behind _)
    | error e' =>
      obtain ⟨he, hend⟩ := tells_reasonLine h
      exact ⟨congrArg Except.error he, (List.cons.inj hend).2⟩

theorem body_append (b : MethodBody) (after : List Char) :
    (body b).toList ++ after = (heading b).toList ++ (codeLines (Code.decode b.code) ++ '\n' :: after) := by
  rw [← toList_code]
  simp [body]

/-- **A body's listing tells what it shows of the body**, and ends with the blank line. -/
theorem tells_body : Tells (fun b => (body b).toList) shown := by
  intro b c after behind h
  simp only [body_append] at h
  obtain ⟨hhead, h⟩ := tells_heading h
  obtain ⟨hdecoded, h⟩ := codeLines_inj h
  exact ⟨by rw [shown, shown, hhead, hdecoded], h⟩

theorem body_append_ne_nil (b : MethodBody) (after : List Char) : (body b).toList ++ after ≠ [] := by
  simp [body_append, heading_append]

theorem shown_of_bodies {bs bs' : List MethodBody}
    (h : bs.flatMap (fun b => (body b).toList) = bs'.flatMap fun b => (body b).toList) :
    bs.map shown = bs'.map shown := by
  have h := congrArg (· ++ []) h
  exact (tells_body.flatMap body_append_ne_nil body_append_ne_nil h).1

/-- A body is listed by what is shown of it. -/
theorem body_of_shown {b c : MethodBody} (h : shown b = shown c) : body b = body c := by
  obtain ⟨hhead, hdecoded⟩ := Shown.mk.inj h
  obtain ⟨hparent, hmaxStack, hconvention, hslot⟩ := Head.mk.inj hhead
  have hheading : heading b = heading c := by
    unfold heading
    rw [hparent, hmaxStack, hconvention, hslot]
  have hcode : code b.code = code c.code := by
    unfold code
    rw [hdecoded]
  rw [body, body, hheading, hcode]

/-! ## Listings -/

theorem toList_listing_nil (bs : List MethodBody) : (listing [] bs).toList = bs.flatMap fun b => (body b).toList := by
  rw [← toList_join_map]
  simp [listing, table, bodies]

theorem toList_listing_cons (s : CallSignature) (signatures : List CallSignature) (bs : List MethodBody) :
    (listing (s :: signatures) bs).toList =
      "== StandAloneSig ==\n".toList ++ ((s :: signatures).flatMap (fun s => (signatureLine s).toList) ++
        '\n' :: bs.flatMap fun b => (body b).toList) := by
  rw [← toList_join_map, ← toList_join_map]
  simp [listing, table, bodies]

/-- A table is not taken for a body. -/
theorem listing_nil_ne_cons (s : CallSignature) (signatures : List CallSignature) (bs bs' : List MethodBody) :
    listing [] bs ≠ listing (s :: signatures) bs' := by
  intro h
  have h := congrArg String.toList h
  rw [toList_listing_nil, toList_listing_cons] at h
  cases bs with
  | nil => simp at h
  | cons b bs =>
    rw [List.flatMap_cons, body_append, heading_append] at h
    simp at h

theorem listing_cons_inj {s s' : CallSignature} {signatures signatures' : List CallSignature} {bs bs' : List MethodBody}
    (h : listing (s :: signatures) bs = listing (s' :: signatures') bs') :
    s :: signatures = s' :: signatures' ∧ bs.map shown = bs'.map shown := by
  have h := congrArg String.toList h
  rw [toList_listing_cons, toList_listing_cons] at h
  have hline : ∀ (s : CallSignature) (rest after : List Char), (signatureLine s).toList ++ rest ≠ '\n' :: after := by
    simp [signatureLine_append]
  obtain ⟨hrows, hend⟩ := tells_signatureLine.flatMap (fun s rest => hline s rest _) (fun s rest => hline s rest _)
    (List.append_cancel_left h)
  rw [List.map_id, List.map_id] at hrows
  exact ⟨hrows, shown_of_bodies (List.cons.inj hend).2⟩

/-- **A listing tells its rows and what it shows of its bodies**, all in order, and nothing else decides it.  Bodies are
listed one behind the other. -/
theorem shown_of_listing :
    (∀ (signatures signatures' : List CallSignature) (bs bs' : List MethodBody),
      listing signatures bs = listing signatures' bs' ↔ signatures = signatures' ∧ bs.map shown = bs'.map shown) ∧
    ∀ xs ys : List MethodBody, listing [] (xs ++ ys) = listing [] xs ++ listing [] ys := by
  refine ⟨fun signatures signatures' bs bs' => ⟨fun h => ?_, ?_⟩, fun xs ys => ?_⟩
  · cases signatures with
    | nil =>
      cases signatures' with
      | nil =>
        have h := congrArg String.toList h
        rw [toList_listing_nil, toList_listing_nil] at h
        exact ⟨rfl, shown_of_bodies h⟩
      | cons s' signatures' => exact absurd h (listing_nil_ne_cons s' signatures' bs bs')
    | cons s signatures =>
      cases signatures' with
      | nil => exact absurd h.symm (listing_nil_ne_cons s signatures bs' bs)
      | cons s' signatures' => exact listing_cons_inj h
  · rintro ⟨rfl, hshown⟩
    obtain ⟨write, hwrite⟩ := (Function.factorsThrough_iff body).1 (fun b c => body_of_shown (b := b) (c := c))
    rw [listing, listing, bodies, bodies, hwrite, ← List.map_map, ← List.map_map, hshown]
  · rw [← String.toList_inj, String.toList_append, toList_listing_nil, toList_listing_nil, toList_listing_nil,
      List.flatMap_append]

/-- The code itself is not told: how long a form the last instruction has is not shown. -/
example :
    let b : MethodBody := { code := [0x0E, 0x00], maxStack := 1, parent := 1, debugId := .untracked 0 }
    listing [] [b] = listing [] [{ b with code := [0x02] }] ∧ b ≠ { b with code := [0x02] } := by
  decide +kernel

end Listing
end CilThunk
