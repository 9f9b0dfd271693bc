import CilThunk.Body.Stream
import Mathlib
/-!
# StreamReader — the stream of bodies read back

A reader that goes by the bytes alone: the low two bits of a byte tell a header of one byte (`10`), one of twelve (`11`)
and a zero that fills up to the next multiple of four (`00`), and a header tells how much code is behind it.  Code
may hold any bytes and is never looked at, so the reader is in step with the writer as long as headers say the right
size (`read_entry`), and no list of where headers start is needed to find them (`read_written`).

Bodies are written one by one here (`append`), so that what a refused body leaves can be told.
-/
namespace CilThunk
namespace BodyStream

open LittleEndian

/-! ## Reading -/

/-- What a header tells of the code behind it. -/
inductive Header
  | tiny (size : Nat)
  | fat (maxStack : UInt16) (size : Nat) (initLocals : Bool) (localSignature : UInt32)
  deriving DecidableEq, Repr

namespace Header

def size : Header → Nat
  | tiny size => size
  | fat _ size _ _ => size

def width : Header → Nat
  | tiny _ => 1
  | fat .. => 12

end Header

/-- A header of three words without sections behind the code. -/
def readFat : List UInt8 → Option (Header × List UInt8)
  | f₀ :: f₁ :: m₀ :: m₁ :: s₀ :: s₁ :: s₂ :: s₃ :: t₀ :: t₁ :: t₂ :: t₃ :: rest =>
    let flags := ofBytes16 f₀ f₁
    if flags / 4096 = 3 ∧ flags / 8 % 2 = 0 then
      some (.fat (ofBytes16 m₀ m₁) (ofBytes32 s₀ s₁ s₂ s₃).toNat (flags / 16 % 2 == 1) (ofBytes32 t₀ t₁ t₂ t₃), rest)
    else none
  | _ => none

/-- The header at the front, and what is behind it. -/
def readHeader : List UInt8 → Option (Header × List UInt8)
  | [] => none
  | b :: rest =>
    if b % 4 = 2 then some (.tiny (b / 4).toNat, rest)
    else if b % 4 = 3 then readFat (b :: rest)
    else none

theorem readFat_shortens {bytes behind : List UInt8} {header : Header} (h : readFat bytes = some (header, behind)) :
    behind.length < bytes.length := by
  unfold readFat at h
  split at h
  · simp only at h
    split at h
    · cases h
      simp +arith
    · cases h
  · cases h

theorem readHeader_shortens {bytes behind : List UInt8} {header : Header}
    (h : readHeader bytes = some (header, behind)) : behind.length < bytes.length := by
  unfold readHeader at h
  split at h
  · cases h
  · split at h
    · cases h
      exact Nat.lt_succ_self _
    · split at h
      · exact readFat_shortens h
      · cases h

/-- A body that was read: where its header is, what that says, and the code. -/
structure Found where
  start : Nat
  header : Header
  code : List UInt8
  deriving DecidableEq, Repr

/-- The bodies from a position of the stream on, if all of what is there are bodies and zeros. -/
def read (position : Nat) (bytes : List UInt8) : Option (List Found) :=
  match bytes with
  | [] => some []
  | b :: rest =>
    if b % 4 = 0 then read (position + 1) rest
    else
      match h : readHeader (b :: rest) with
      | none => none
      | some (header, behind) =>
        have := readHeader_shortens h
        if behind.length < header.size then none
        else
          (read (position + header.width + header.size) (behind.drop header.size)).map
            (⟨position, header, behind.take header.size⟩ :: ·)
termination_by bytes.length
decreasing_by
  · exact Nat.lt_succ_self _
  · rw [List.length_drop]
    omega

theorem read_nil (position : Nat) : read position [] = some [] := by
  rw [read]

theorem read_zeros (n position : Nat) (bytes : List UInt8) :
    read position (List.replicate n 0 ++ bytes) = read (position + n) bytes := by
  induction n generalizing position with
  | zero => rfl
  | succ n ih =>
    rw [List.replicate_succ, List.cons_append, read, if_pos (by decide), ih, Nat.add_right_comm, Nat.add_assoc]

/-- **One body is read**: what stands behind its header for as long as the header says, whatever bytes it is. -/
theorem read_of_header {position : Nat} {bytes code rest : List UInt8} {header : Header}
    (h : readHeader bytes = some (header, code ++ rest)) (hsize : code.length = header.size) :
    read position bytes =
      (read (position + header.width + header.size) rest).map (⟨position, header, code⟩ :: ·) := by
  cases bytes with
  | nil => cases h
  | cons b tail =>
    have hb : ¬ b % 4 = 0 := by
      intro hb
      rw [readHeader, hb] at h
      cases h
    have hle : ¬ (code ++ rest).length < header.size := by
      rw [List.length_append, hsize]
      omega
    rw [read, if_neg hb]
    split
    · rename_i hnone
      rw [hnone] at h
      cases h
    · rename_i header' behind hsome
      rw [hsome] at h
      cases h
      rw [if_neg hle, ← hsize, List.drop_left, List.take_left]

/-! ## Writing -/

/-- Writes a body, and says where its header is. -/
def append (out : List UInt8) (b : MethodBody × Option Token) : List UInt8 × Except Fault Nat :=
  match entry out.length b.1 b.2 with
  | .error fault => (out, .error fault)
  | .ok e => (out ++ e.bytes, .ok (out.length + e.padding))

/-- Writes bodies in order, up to the first that faults. -/
def appendAll (out : List UInt8) : List (MethodBody × Option Token) → List UInt8 × Except Fault (List Nat)
  | [] => (out, .ok [])
  | b :: bs =>
    match append out b with
    | (out, .error fault) => (out, .error fault)
    | (out, .ok start) => ((appendAll out bs).1, (appendAll out bs).2.map (start :: ·))

theorem Entry.length_bytes (e : Entry) : e.bytes.length = e.length := by
  simp [bytes, length, Nat.add_assoc]

/-- **Bodies written at once are bodies written one by one.** -/
theorem write_eq_appendAll (out : List UInt8) (bodies : List (MethodBody × Option Token)) :
    write out bodies = (appendAll out bodies).2.map (fun starts => ((appendAll out bodies).1, starts)) := by
  induction bodies generalizing out with
  | nil => simp [write, entries, appendAll, Except.map]
  | cons b bs ih =>
    unfold write at ih ⊢
    rw [entries, appendAll, append]
    cases he : entry out.length b.1 b.2 with
    | error fault => rfl
    | ok e =>
      have hrest := ih (out ++ e.bytes)
      rw [List.length_append, e.length_bytes] at hrest
      simp only
      revert hrest
      cases entries (out.length + e.length) bs with
      | error fault =>
        cases (appendAll (out ++ e.bytes) bs).2 <;> simp [Except.map]
      | ok es =>
        cases (appendAll (out ++ e.bytes) bs).2 <;> simp [Except.map, List.append_assoc]

theorem appendAll_append (out : List UInt8) (xs ys : List (MethodBody × Option Token)) {starts : List Nat}
    (h : (appendAll out xs).2 = .ok starts) :
    appendAll out (xs ++ ys) =
      ((appendAll (appendAll out xs).1 ys).1, (appendAll (appendAll out xs).1 ys).2.map (starts ++ ·)) := by
  induction xs generalizing out starts with
  | nil =>
    cases h
    have hnone : ∀ r : Except Fault (List Nat), r.map ([] ++ ·) = r := fun r => by cases r <;> rfl
    rw [List.nil_append, show appendAll out [] = (out, .ok []) from rfl, hnone]
  | cons x xs ih =>
    rw [List.cons_append, appendAll]
    rw [appendAll] at h ⊢
    revert h
    rcases append out x with ⟨out', fault | start⟩
    · intro h
      cases h
    · intro h
      simp only at h ⊢
      cases hxs : (appendAll out' xs).2 with
      | error fault =>
        rw [hxs] at h
        cases h
      | ok starts' =>
        rw [hxs] at h
        cases h
        rw [ih out' hxs]
        simp only
        cases (appendAll (appendAll out' xs).1 ys).2 <;> rfl

/-! ## Headers -/

/-- The header of a body, by its code, its stack bound, its locals and their signature. -/
def headerOf (b : MethodBody × Option Token) : Header :=
  if b.1.code.length < 64 ∧ b.1.maxStack ≤ 8 ∧ b.1.locals = [] then .tiny b.1.code.length
  else .fat b.1.maxStack b.1.code.length (!b.1.locals.isEmpty) ((b.2.map (·.raw)).getD 0)

theorem size_headerOf (b : MethodBody × Option Token) : (headerOf b).size = b.1.code.length := by
  unfold headerOf
  split <;> rfl

theorem readHeader_tinyHeader {b : MethodBody} (h : b.code.length < 64) (rest : List UInt8) :
    readHeader (tinyHeader b ++ rest) = some (.tiny b.code.length, rest) := by
  have hformat : UInt8.ofNat (4 * b.size + 2) % 4 = 2 := by
    apply UInt8.toNat_inj.1
    simp [MethodBody.size]
  have hsize : (UInt8.ofNat (4 * b.size + 2) / 4).toNat = b.code.length := by
    simp [MethodBody.size]
    omega
  rw [tinyHeader, List.singleton_append, readHeader, if_pos hformat, hsize]

theorem readHeader_fat {flags : UInt16} (hformat : flags.toUInt8 % 4 = 3) (hwords : flags / 4096 = 3)
    (hsections : flags / 8 % 2 = 0) (maxStack : UInt16) (size localSignature : UInt32) (rest : List UInt8) :
    readHeader (bytes16 flags ++ bytes16 maxStack ++ bytes32 size ++ bytes32 localSignature ++ rest) =
      some (.fat maxStack size.toNat (flags / 16 % 2 == 1) localSignature, rest) := by
  have hnot : ¬ flags.toUInt8 % 4 = 2 := by
    rw [hformat]
    decide
  simp only [bytes16, bytes32, List.cons_append, List.nil_append, readHeader]
  rw [if_neg hnot, if_pos hformat]
  simp only [readFat, ofBytes16_bytes16, ofBytes32_bytes32]
  rw [if_pos ⟨hwords, hsections⟩]

theorem readHeader_fatHeader {b : MethodBody} (localSignature? : Option Token) (h : b.code.length < 4294967296)
    (rest : List UInt8) :
    readHeader (fatHeader b localSignature? ++ rest) =
      some (.fat b.maxStack b.code.length (!b.locals.isEmpty) ((localSignature?.map (·.raw)).getD 0), rest) := by
  have hsize : (UInt32.ofNat b.size).toNat = b.code.length := UInt32.toNat_ofNat_of_lt' h
  have hinit : (fatFlags b / 16 % 2 == 1) = !b.locals.isEmpty := by
    unfold fatFlags
    split
    · rename_i hlocals
      rw [hlocals]
      rfl
    · rename_i hlocals
      rw [Bool.not_eq_true] at hlocals
      rw [hlocals]
      rfl
  have hflags : (fatFlags b).toUInt8 % 4 = 3 ∧ fatFlags b / 4096 = 3 ∧ fatFlags b / 8 % 2 = 0 := by
    unfold fatFlags
    split <;> decide
  obtain ⟨hformat, hwords, hsections⟩ := hflags
  rw [fatHeader, readHeader_fat hformat hwords hsections, hsize, hinit]

/-! ## One body -/

theorem fitsTiny_eq {b : MethodBody} (h : b.handlers = []) :
    fitsTiny b = decide (b.code.length < 64 ∧ b.maxStack ≤ 8 ∧ b.locals = []) := by
  rw [fitsTiny, h, Bool.eq_iff_iff]
  simp only [Bool.and_eq_true, decide_eq_true_eq, List.isEmpty_iff, and_true, and_assoc]
  rfl

theorem padding_le (position : Nat) : padding position ≤ 3 := by
  unfold padding
  omega

theorem four_dvd_add_padding (position : Nat) : 4 ∣ position + padding position := by
  unfold padding
  omega

/-- **The entry of a body, unpacked**: at most three zeros, a header that reads back as the body's, and the code. -/
theorem exists_entry {b : MethodBody × Option Token} (hhandlers : b.1.handlers = [])
    (hsize : b.1.code.length < 4294967296) (position : Nat) :
    ∃ e, entry position b.1 b.2 = .ok e ∧ e.code = b.1.code ∧ e.header.length = (headerOf b).width ∧
      (∀ rest, readHeader (e.header ++ rest) = some (headerOf b, rest)) ∧
      e.padding = if (headerOf b).width = 1 then 0 else padding position := by
  rw [entry, hhandlers, fitsTiny_eq hhandlers, headerOf]
  by_cases h : b.1.code.length < 64 ∧ b.1.maxStack ≤ 8 ∧ b.1.locals = []
  · rw [if_pos h, decide_eq_true h]
    exact ⟨_, rfl, rfl, rfl, readHeader_tinyHeader h.1, rfl⟩
  · rw [if_neg h, decide_eq_false h]
    exact ⟨_, rfl, rfl, rfl, readHeader_fatHeader b.2 hsize, rfl⟩

/-- **A body is found where it was written**, at whatever position, in front of whatever is behind it. -/
theorem read_entry {b : MethodBody × Option Token} {e : Entry} {position : Nat} (hhandlers : b.1.handlers = [])
    (hsize : b.1.code.length < 4294967296) (he : entry position b.1 b.2 = .ok e) (rest : List UInt8) :
    read position (e.bytes ++ rest) =
      (read (position + e.length) rest).map (⟨position + e.padding, headerOf b, b.1.code⟩ :: ·) := by
  obtain ⟨e', he', hcode, hwidth, hheader, -⟩ := exists_entry hhandlers hsize position
  rw [he] at he'
  cases he'
  have hlength : position + e.padding + (headerOf b).width + (headerOf b).size = position + e.length := by
    rw [Entry.length, hcode, hwidth, size_headerOf]
    omega
  rw [Entry.bytes, List.append_assoc, List.append_assoc, read_zeros, hcode,
    read_of_header (hheader (b.1.code ++ rest)) (size_headerOf b).symm, hlength]

/-- What a reader is to find of a body. -/
def foundAt (b : MethodBody × Option Token) (start : Nat) : Found := ⟨start, headerOf b, b.1.code⟩

theorem append_of_noHandlers {b : MethodBody × Option Token} (hhandlers : b.1.handlers = [])
    (hsize : b.1.code.length < 4294967296) (out : List UInt8) :
    ∃ e, entry out.length b.1 b.2 = .ok e ∧ append out b = (out ++ e.bytes, .ok (out.length + e.padding)) := by
  obtain ⟨e, he, -⟩ := exists_entry hhandlers hsize out.length
  exact ⟨e, he, by rw [append, he]⟩

theorem append_of_handlers {b : MethodBody × Option Token} (h : b.1.handlers ≠ []) (out : List UInt8) :
    append out b = (out, .error .handlersUnsupported) := by
  rw [append, entry, if_neg (by simpa using h)]

/-- **A stream is read as the bodies that were written.** -/
theorem read_appendAll : ∀ (bodies : List (MethodBody × Option Token)),
    (∀ b ∈ bodies, b.1.handlers = [] ∧ b.1.code.length < 4294967296) → ∀ out : List UInt8,
    ∃ stream starts, appendAll out bodies = (out ++ stream, .ok starts) ∧ starts.length = bodies.length ∧
      read out.length stream = some (bodies.zipWith foundAt starts)
  | [], _, out => ⟨[], [], by rw [List.append_nil]; rfl, rfl, read_nil _⟩
  | b :: bs, h, out => by
    obtain ⟨⟨hhandlers, hsize⟩, hbs⟩ := List.forall_mem_cons.1 h
    obtain ⟨e, he, happend⟩ := append_of_noHandlers hhandlers hsize out
    obtain ⟨stream, starts, hall, hlength, hread⟩ := read_appendAll bs hbs (out ++ e.bytes)
    rw [List.length_append, e.length_bytes] at hread
    refine ⟨e.bytes ++ stream, (out.length + e.padding) :: starts, ?_, congrArg Nat.succ hlength, ?_⟩
    · rw [appendAll, happend]
      simp only
      rw [hall, List.append_assoc]
      rfl
    · rw [read_entry hhandlers hsize he, hread]
      rfl

theorem width_headerOf_eq_one_iff (b : MethodBody × Option Token) :
    (headerOf b).width = 1 ↔ b.1.code.length < 64 ∧ b.1.maxStack ≤ 8 ∧ b.1.locals = [] := by
  unfold headerOf
  split
  · rename_i h
    exact ⟨fun _ => h, fun _ => rfl⟩
  · rename_i h
    exact ⟨nofun, fun h' => absurd h' h⟩

theorem Header.width_of_ne_one {header : Header} (h : header.width ≠ 1) : header.width = 12 := by
  cases header with
  | tiny size => exact absurd rfl h
  | fat maxStack size initLocals localSignature => rfl

/-- **What one body adds**: no zeros and one byte of header, or twelve behind at most three zeros. -/
theorem append_eq {b : MethodBody × Option Token} (hhandlers : b.1.handlers = [])
    (hsize : b.1.code.length < 4294967296) (before : List UInt8) :
    ∃ zeros header, append before b =
        (before ++ (List.replicate zeros 0 ++ header ++ b.1.code), .ok (before.length + zeros)) ∧
      (header.length = 1 ↔ b.1.code.length < 64 ∧ b.1.maxStack ≤ 8 ∧ b.1.locals = []) ∧
      (header.length = 1 → zeros = 0) ∧
      (header.length ≠ 1 → header.length = 12 ∧ 4 ∣ before.length + zeros ∧ zeros ≤ 3) := by
  obtain ⟨e, he, hcode, hwidth, -, hpadding⟩ := exists_entry hhandlers hsize before.length
  refine ⟨e.padding, e.header, ?_, ?_, ?_, ?_⟩
  · rw [append, he, ← hcode]
    rfl
  · rw [hwidth]
    exact width_headerOf_eq_one_iff b
  · intro h
    rw [hpadding, if_pos (hwidth ▸ h)]
  · intro h
    rw [hwidth] at h ⊢
    rw [hpadding, if_neg h]
    exact ⟨Header.width_of_ne_one h, four_dvd_add_padding _, padding_le _⟩

/-- **Bodies are read back without being told where they are**, behind whatever was there before them.  A body with
handlers is refused with nothing of it written. -/
theorem read_written (out : List UInt8) (bodies : List (MethodBody × Option Token))
    (hbodies : ∀ b ∈ bodies, b.1.handlers = [] ∧ b.1.code.length < 4294967296) :
    ∃ stream starts, appendAll out bodies = (out ++ stream, .ok starts) ∧
      write out bodies = .ok (out ++ stream, starts) ∧ starts.length = bodies.length ∧
      read out.length stream = some (bodies.zipWith foundAt starts) ∧
      -- the header of each body, and the zeros before it
      (∀ pre b post, bodies = pre ++ b :: post →
        let before := (appendAll out pre).1
        ∃ zeros header, starts[pre.length]? = some (before.length + zeros) ∧
          append before b =
            (before ++ (List.replicate zeros 0 ++ header ++ b.1.code), .ok (before.length + zeros)) ∧
          (header.length = 1 ↔ b.1.code.length < 64 ∧ b.1.maxStack ≤ 8 ∧ b.1.locals = []) ∧
          (header.length = 1 → zeros = 0) ∧
          (header.length ≠ 1 → header.length = 12 ∧ 4 ∣ before.length + zeros ∧ zeros ≤ 3)) ∧
      -- a body with handlers behind them
      ∀ b more, b.1.handlers ≠ [] →
        appendAll out (bodies ++ b :: more) = (out ++ stream, .error .handlersUnsupported) ∧
        write out (bodies ++ b :: more) = .error .handlersUnsupported := by
  obtain ⟨stream, starts, hall, hlength, hread⟩ := read_appendAll bodies hbodies out
  refine ⟨stream, starts, hall, ?_, hlength, hread, ?_, ?_⟩
  · rw [write_eq_appendAll, hall]
    rfl
  · intro pre b post hsplit before
    subst hsplit
    obtain ⟨hpre, hrest⟩ := List.forall_mem_append.1 hbodies
    obtain ⟨⟨hhandlers, hsize⟩, hpost⟩ := List.forall_mem_cons.1 hrest
    obtain ⟨zeros, header, happend, hshape⟩ := append_eq hhandlers hsize before
    obtain ⟨_, earlier, hearlier, hcount, -⟩ := read_appendAll pre hpre out
    have hstarts := congrArg (·.2) (appendAll_append out pre (b :: post) (congrArg (·.2) hearlier))
    rw [hall, appendAll, happend] at hstarts
    simp only at hstarts
    obtain ⟨_, later, hlater, -⟩ := read_appendAll post hpost (before ++ (List.replicate zeros 0 ++ header ++ b.1.code))
    rw [hlater] at hstarts
    cases hstarts
    refine ⟨zeros, header, ?_, happend, hshape⟩
    rw [← hcount, List.getElem?_append_right (Nat.le_refl _), Nat.sub_self]
    rfl
  · intro b more hhandlers
    have hrefused : appendAll out (bodies ++ b :: more) = (out ++ stream, .error .handlersUnsupported) := by
      rw [appendAll_append out bodies (b :: more) (congrArg (·.2) hall), hall, appendAll,
        append_of_handlers hhandlers]
      rfl
    refine ⟨hrefused, ?_⟩
    rw [write_eq_appendAll, hrefused]
    rfl

/-- A body of one byte right behind a prefix of one, and one with a local that has to wait for the next multiple of
four; one with a handler between the two stops there. -/
theorem read_written_tiny_then_fat :
    let tiny : MethodBody × Option Token := (⟨[0x2A], 8, 1, .untracked 0, [], [], [], [], false, none, none, .c⟩, none)
    let fat : MethodBody × Option Token :=
      (⟨[0x02, 0x2A], 1, 2, .untracked 0, [⟨"x", 0, 0, 2⟩], [], [], [], false, none, none, .c⟩, some ⟨0x11000002⟩)
    let guarded : MethodBody × Option Token :=
      (⟨[0x2A], 0, 3, .untracked 0, [], [], [⟨0, 1, 0, 1⟩], [], false, none, none, .c⟩, none)
    ∃ stream, write [0xFF] [tiny, fat] = .ok ([0xFF] ++ stream, [1, 4]) ∧
      read 1 stream = some [⟨1, .tiny 1, [0x2A]⟩, ⟨4, .fat 1 2 true 0x11000002, [0x02, 0x2A]⟩] ∧
      appendAll [0xFF] [tiny, guarded, fat] = ([0xFF, 0x06, 0x2A], .error .handlersUnsupported) := by
  intro tiny fat guarded
  obtain ⟨stream, starts, -, hwrite, -, hread, -⟩ := read_written [0xFF] [tiny, fat] (by decide)
  obtain ⟨_, _, hfirst, -, -, -, -, hrefused⟩ := read_written [0xFF] [tiny] (by decide)
  have hstarts : starts = [1, 4] := by
    have hvalue : write [0xFF] [tiny, fat] = .ok
        ([0xFF, 0x06, 0x2A, 0, 0x13, 0x30, 1, 0, 2, 0, 0, 0, 2, 0, 0, 0x11, 0x02, 0x2A], [1, 4]) := rfl
    rw [hvalue] at hwrite
    cases hwrite
    rfl
  subst hstarts
  cases hfirst
  exact ⟨stream, hwrite, hread, (hrefused guarded [fat] (by decide)).1⟩

end BodyStream
end CilThunk
