import CilThunk.Body
/-!
# The store of bodies

Finished bodies under the rows of their methods, in the order of the rows.  The last body stored under a row is the one
that is found there (`get?_insert_self`), and storing under one row changes no other (`get?_insert_of_ne`).
-/
namespace CilThunk

structure BodyStore where
  entries : List (UInt32 × MethodBody) := []
  deriving DecidableEq

namespace BodyStore

def get? (s : BodyStore) (method : UInt32) : Option MethodBody :=
  (s.entries.find? (fun e => e.1 == method)).map (·.2)

def contains (s : BodyStore) (method : UInt32) : Bool := (s.get? method).isSome

def size (s : BodyStore) : Nat := s.entries.length

def bodies (s : BodyStore) : List MethodBody := s.entries.map (·.2)

/-- Puts an entry where its row belongs, in place of one of the same row. -/
def insertEntry (method : UInt32) (body : MethodBody) : List (UInt32 × MethodBody) → List (UInt32 × MethodBody)
  | [] => [(method, body)]
  | e :: rest =>
    if method < e.1 then (method, body) :: e :: rest
    else if method = e.1 then (method, body) :: rest
    else e :: insertEntry method body rest

def insert (s : BodyStore) (method : UInt32) (body : MethodBody) : BodyStore := ⟨insertEntry method body s.entries⟩

theorem find?_insertEntry_self (method : UInt32) (body : MethodBody) :
    ∀ entries : List (UInt32 × MethodBody),
      (insertEntry method body entries).find? (fun e => e.1 == method) = some (method, body)
  | [] => by simp [insertEntry]
  | e :: rest => by
    unfold insertEntry
    split
    · simp
    · split
      · simp
      · rename_i hne
        rw [List.find?_cons_of_neg (by simpa using Ne.symm hne)]
        exact find?_insertEntry_self method body rest

theorem find?_insertEntry_of_ne {method other : UInt32} (h : other ≠ method) (body : MethodBody) :
    ∀ entries : List (UInt32 × MethodBody),
      (insertEntry method body entries).find? (fun e => e.1 == other) = entries.find? (fun e => e.1 == other)
  | [] => by simp [insertEntry, Ne.symm h]
  | e :: rest => by
    unfold insertEntry
    split
    · rw [List.find?_cons_of_neg (by simpa using Ne.symm h)]
    · split
      · rename_i heq
        rw [List.find?_cons_of_neg (by simpa using Ne.symm h),
          List.find?_cons_of_neg (by simpa [← heq] using Ne.symm h)]
      · rw [List.find?_cons, List.find?_cons, find?_insertEntry_of_ne h body rest]

theorem get?_insert_self (s : BodyStore) (method : UInt32) (body : MethodBody) :
    (s.insert method body).get? method = some body := by
  simp [get?, insert, find?_insertEntry_self]

theorem get?_insert_of_ne (s : BodyStore) {method other : UInt32} (h : other ≠ method) (body : MethodBody) :
    (s.insert method body).get? other = s.get? other := by
  simp [get?, insert, find?_insertEntry_of_ne h]

end BodyStore
end CilThunk
