import CilThunk.Body.Store
import Mathlib
/-!
# StoreOrder — the store lists its bodies by row

The rows of a store are in increasing order, each once, and stay so whatever is put in (`Ordered.insert`).  Of several
bodies put in under one row the last is found there (`get?_insertAll`).  Bodies put in under rows of their own are all
there (`perm_insertAll`), and a list in the order of the rows is told by what is in it (`eq_of_perm_of_increasing`), so
the order in which they came makes no difference.
-/
namespace CilThunk
namespace BodyStore

/-- The rows are in increasing order, each once. -/
def Ordered (s : BodyStore) : Prop := s.entries.Pairwise (fun a b => a.1 < b.1)

theorem ordered_empty : Ordered {} := List.Pairwise.nil

theorem mem_insertEntry {method : UInt32} {body : MethodBody} {e : UInt32 × MethodBody} :
    ∀ {entries : List (UInt32 × MethodBody)}, e ∈ insertEntry method body entries → e = (method, body) ∨ e ∈ entries
  | [], h => .inl (List.mem_singleton.1 h)
  | e' :: rest, h => by
    unfold insertEntry at h
    split at h
    · exact List.mem_cons.1 h
    · split at h
      · exact (List.mem_cons.1 h).imp_right (List.mem_cons_of_mem _)
      · rcases List.mem_cons.1 h with rfl | h
        · exact .inr List.mem_cons_self
        · exact (mem_insertEntry h).imp_right (List.mem_cons_of_mem _)

theorem pairwise_insertEntry (method : UInt32) (body : MethodBody) :
    ∀ {entries : List (UInt32 × MethodBody)}, entries.Pairwise (fun a b => a.1 < b.1) →
      (insertEntry method body entries).Pairwise (fun a b => a.1 < b.1)
  | [], _ => List.pairwise_singleton _ _
  | e :: rest, h => by
    obtain ⟨he, hrest⟩ := List.pairwise_cons.1 h
    unfold insertEntry
    split
    · rename_i hlt
      refine List.pairwise_cons.2 ⟨fun e' he' => ?_, h⟩
      rcases List.mem_cons.1 he' with rfl | he'
      · exact hlt
      · exact UInt32.lt_trans hlt (he e' he')
    · rename_i hnlt
      split
      · rename_i heq
        exact List.pairwise_cons.2 ⟨fun e' he' => heq ▸ he e' he', hrest⟩
      · rename_i hne
        refine List.pairwise_cons.2 ⟨fun e' he' => ?_, pairwise_insertEntry method body hrest⟩
        rcases mem_insertEntry he' with rfl | he'
        · exact UInt32.lt_of_le_of_ne (UInt32.not_lt.1 hnlt) (Ne.symm hne)
        · exact he e' he'

theorem Ordered.insert {s : BodyStore} (h : s.Ordered) (method : UInt32) (body : MethodBody) :
    (s.insert method body).Ordered := pairwise_insertEntry method body h

/-- **What is in the store is found there.** -/
theorem Ordered.get?_eq_some {s : BodyStore} (h : s.Ordered) {e : UInt32 × MethodBody} (he : e ∈ s.entries) :
    s.get? e.1 = some e.2 := by
  unfold Ordered at h
  unfold get?
  generalize s.entries = entries at h he
  induction entries with
  | nil => cases he
  | cons e' rest ih =>
    obtain ⟨he', hrest⟩ := List.pairwise_cons.1 h
    rcases List.mem_cons.1 he with rfl | he
    · rw [List.find?_cons_of_pos (by simp)]
      rfl
    · have hne : e'.1 ≠ e.1 := by
        intro heq
        have hlt := he' e he
        rw [heq] at hlt
        exact UInt32.lt_irrefl _ hlt
      rw [List.find?_cons_of_neg (by simpa using hne)]
      exact ih hrest he

theorem get?_eq_none_iff (s : BodyStore) (method : UInt32) :
    s.get? method = none ↔ method ∉ s.entries.map (·.1) := by
  rw [get?, Option.map_eq_none_iff, List.find?_eq_none]
  constructor
  · intro h hm
    obtain ⟨e, he, rfl⟩ := List.mem_map.1 hm
    exact h e he (beq_self_eq_true _)
  · intro h e he heq
    exact h (List.mem_map.2 ⟨e, he, eq_of_beq heq⟩)

/-- The bodies are listed as they are found under the rows that have one. -/
theorem Ordered.map_bodies {s : BodyStore} (h : s.Ordered) :
    s.bodies.map some = (s.entries.map (·.1)).map s.get? := by
  rw [bodies, List.map_map, List.map_map]
  exact List.map_congr_left (fun e he => (h.get?_eq_some he).symm)

/-! ## Several bodies -/

def insertAll (s : BodyStore) (es : List (UInt32 × MethodBody)) : BodyStore :=
  es.foldl (fun s e => s.insert e.1 e.2) s

theorem insertAll_append (s : BodyStore) (es fs : List (UInt32 × MethodBody)) :
    s.insertAll (es ++ fs) = (s.insertAll es).insertAll fs := List.foldl_append

/-- **The last body put in under a row is the one that is found there.** -/
theorem get?_insertAll (method : UInt32) : ∀ (es : List (UInt32 × MethodBody)) (s : BodyStore),
    (s.insertAll es).get? method = (es.reverse.lookup method).or (s.get? method)
  | [], _ => rfl
  | e :: es, s => by
    have hfirst : (s.insert e.1 e.2).get? method = ([e].lookup method).or (s.get? method) := by
      by_cases h : method = e.1
      · rw [h, get?_insert_self, List.lookup_cons_self]
        rfl
      · rw [get?_insert_of_ne s h, List.lookup_cons, beq_false_of_ne h]
        rfl
    change ((s.insert e.1 e.2).insertAll es).get? method = _
    rw [get?_insertAll method es, hfirst, List.reverse_cons, List.lookup_append, Option.or_assoc]

theorem mem_rows_insertAll (s : BodyStore) (es : List (UInt32 × MethodBody)) (method : UInt32) :
    method ∈ (s.insertAll es).entries.map (·.1) ↔ method ∈ es.map (·.1) ∨ method ∈ s.entries.map (·.1) := by
  have hnone : es.reverse.lookup method = none ↔ method ∉ es.map (·.1) := by
    rw [List.lookup_eq_none_iff, List.mem_map]
    constructor
    · rintro h ⟨e, he, rfl⟩
      exact bne_iff_ne.1 (h e (List.mem_reverse.2 he)) rfl
    · exact fun h e he => bne_iff_ne.2 (fun heq => h ⟨e, List.mem_reverse.1 he, heq.symm⟩)
  rw [← Decidable.not_iff_not, not_or, ← get?_eq_none_iff, get?_insertAll, Option.or_eq_none_iff, get?_eq_none_iff,
    hnone]

theorem Ordered.insertAll : ∀ (es : List (UInt32 × MethodBody)) {s : BodyStore}, s.Ordered → (s.insertAll es).Ordered
  | [], _, h => h
  | e :: es, _, h => Ordered.insertAll es (h.insert e.1 e.2)

/-- A body under a new row takes the place of none. -/
theorem perm_insertEntry {method : UInt32} (body : MethodBody) :
    ∀ {entries : List (UInt32 × MethodBody)}, (∀ e ∈ entries, e.1 ≠ method) →
      (insertEntry method body entries).Perm ((method, body) :: entries)
  | [], _ => .refl _
  | e :: rest, h => by
    obtain ⟨he, hrest⟩ := List.forall_mem_cons.1 h
    unfold insertEntry
    rw [if_neg (Ne.symm he)]
    split
    · exact .refl _
    · exact ((perm_insertEntry body hrest).cons e).trans (.swap _ _ _)

theorem perm_insertAll : ∀ (es : List (UInt32 × MethodBody)) {s : BodyStore},
    (es.map (·.1)).Nodup → (∀ e ∈ s.entries, e.1 ∉ es.map (·.1)) → (s.insertAll es).entries.Perm (s.entries ++ es)
  | [], s, _, _ => by
    rw [List.append_nil]
    exact .refl _
  | e :: es, s, hnodup, hnew => by
    obtain ⟨he, hes⟩ := List.nodup_cons.1 hnodup
    have hfirst : (s.insert e.1 e.2).entries.Perm (e :: s.entries) :=
      perm_insertEntry e.2 (fun e' he' heq => hnew e' he' (heq ▸ List.mem_cons_self))
    have hnew' : ∀ e' ∈ (s.insert e.1 e.2).entries, e'.1 ∉ es.map (·.1) := by
      intro e' he'
      rcases List.mem_cons.1 (hfirst.mem_iff.1 he') with rfl | he'
      · exact he
      · exact fun h => hnew e' he' (List.mem_cons_of_mem _ h)
    exact (perm_insertAll es hes hnew').trans ((hfirst.append_right es).trans List.perm_middle.symm)

/-- **What is listed by row is told by what is in it**, whatever order it came in. -/
theorem eq_of_perm_of_increasing {α : Type} (row : α → UInt32) {xs ys : List α}
    (hxs : xs.Pairwise (fun a b => row a < row b)) (hys : ys.Pairwise (fun a b => row a < row b)) (h : xs.Perm ys) :
    xs = ys := by
  refine List.Perm.eq_of_pairwise (fun a b _ _ hab hba => ?_) hxs hys h
  exact absurd (UInt32.lt_trans hab hba) (UInt32.lt_irrefl _)

end BodyStore
end CilThunk
