import CilThunk.Toml.Document
import Mathlib
/-!
# DistinctKeys — no key twice

Whatever a line does to a document, it does through one key of it: it changes what the key stands for or puts a new key
behind the others (`keys_alter`), and a heading also moves a key there that was only implied so far (`keys_openTable`).
So the keys of a document that was read are distinct (`distinct_of_parse`).
-/
namespace CilThunk
namespace Toml

def keys (entries : Entries) : List String := entries.map (·.1)

/-- No key stands twice. -/
def Distinct (entries : Entries) : Prop := (keys entries).Nodup

theorem Distinct.nil : Distinct [] := List.nodup_nil

theorem mem_keys {entries : Entries} {key : String} : key ∈ keys entries ↔ ∃ v, (key, v) ∈ entries := by
  simp [keys]

theorem keys_concat (entries : Entries) (key : String) (v : Value) :
    keys (entries ++ [(key, v)]) = keys entries ++ [key] := by
  simp [keys]

/-- One key more, behind distinct ones of which it is none. -/
theorem distinct_of_keys_concat {others : List String} (h : others.Nodup) {key : String} (hkey : key ∉ others)
    {entries : Entries} (hkeys : keys entries = others ++ [key]) : Distinct entries := by
  unfold Distinct
  rw [hkeys, ← List.concat_eq_append]
  exact List.Nodup.concat hkey h

/-! ## One key -/

/-- **A change of one key** leaves all keys where they are or puts a new one behind them. -/
theorem keys_alter {key : String} {change : Option Value → Option Value} {entries entries' : Entries}
    (h : alter key change entries = some entries') :
    keys entries' = keys entries ∨ key ∉ keys entries ∧ keys entries' = keys entries ++ [key] := by
  induction entries generalizing entries' with
  | nil =>
    obtain ⟨v, -, rfl⟩ := Option.map_eq_some_iff.1 h
    exact .inr ⟨List.not_mem_nil, rfl⟩
  | cons e rest ih =>
    obtain ⟨k, v⟩ := e
    unfold alter at h
    split at h
    · obtain ⟨w, -, rfl⟩ := Option.map_eq_some_iff.1 h
      exact .inl rfl
    · rename_i hk
      obtain ⟨rest', hrest, rfl⟩ := Option.map_eq_some_iff.1 h
      obtain hsame | ⟨hnew, hkeys⟩ := ih hrest
      · exact .inl (congrArg (k :: ·) hsame)
      · exact .inr ⟨List.not_mem_cons_of_ne_of_not_mem (Ne.symm hk) hnew, congrArg (k :: ·) hkeys⟩

theorem Distinct.alter {entries entries' : Entries} (hd : Distinct entries) {key : String}
    {change : Option Value → Option Value} (h : Toml.alter key change entries = some entries') : Distinct entries' := by
  obtain hkeys | ⟨hnew, hkeys⟩ := keys_alter h
  · unfold Distinct
    rwa [hkeys]
  · exact distinct_of_keys_concat hd hnew hkeys

/-- What is changed at the end of a path changes only the first key of the path, if there is one. -/
theorem Distinct.descend {isDotted : Bool} {change : Origin → Entries → Option Entries}
    (hchange : ∀ {origin es es'}, change origin es = some es' → Distinct es → Distinct es') {path : List String}
    {origin : Origin} {entries entries' : Entries} (hd : Distinct entries)
    (h : Toml.descend isDotted change path origin entries = some entries') : Distinct entries' := by
  cases path with
  | nil => exact hchange h hd
  | cons key path => exact hd.alter h

theorem Distinct.setAt {path : List String} {key : String} {v : Value} {origin : Origin} {entries entries' : Entries}
    (hd : Distinct entries) (h : Toml.setAt path key v origin entries = some entries') : Distinct entries' := by
  refine hd.descend (fun {origin es es'} hchange hes => ?_) h
  split at hchange
  · cases hchange
  · exact hes.alter hchange

/-! ## Headings -/

theorem find?_eq_none_iff {key : String} {entries : Entries} : find? key entries = none ↔ key ∉ keys entries := by
  simp only [find?, Option.map_eq_none_iff, List.find?_eq_none, decide_eq_true_eq, mem_keys]
  constructor
  · rintro h ⟨v, hv⟩
    exact h _ hv rfl
  · rintro h e he rfl
    exact h ⟨e.2, he⟩

theorem keys_remove (key : String) (entries : Entries) :
    keys (remove key entries) = (keys entries).filter (fun k => k ≠ key) := by
  unfold keys remove
  rw [List.filter_map]
  rfl

/-- **A heading puts its key behind the others**, wherever it stood. -/
theorem keys_openTable {key : String} {entries entries' : Entries} (h : openTable key entries = some entries') :
    keys entries' = (keys entries).filter (fun k => k ≠ key) ++ [key] := by
  unfold openTable at h
  split at h
  · rename_i hnone
    cases h
    have hnew : key ∉ keys entries := find?_eq_none_iff.1 hnone
    have hothers : (keys entries).filter (fun k => k ≠ key) = keys entries :=
      List.filter_eq_self.2 fun k hk => decide_eq_true fun heq => hnew (heq ▸ hk)
    rw [hothers, keys_concat]
  · cases h
    rw [keys_concat, keys_remove]
  · cases h

example : (parse "[a.b]\n[c]\n[a]").map keys = some ["c", "a"] := by cbv

theorem Distinct.openTable {entries entries' : Entries} (hd : Distinct entries) {key : String}
    (h : Toml.openTable key entries = some entries') : Distinct entries' := by
  have hothers : ((keys entries).filter (fun k => k ≠ key)).Nodup := hd.filter _
  have hkey : key ∉ (keys entries).filter (fun k => k ≠ key) := fun hmem =>
    of_decide_eq_true (List.mem_filter.1 hmem).2 rfl
  exact distinct_of_keys_concat hothers hkey (keys_openTable h)

/-! ## Lines -/

theorem Distinct.set {state state' : State} (hd : Distinct state.entries) {path : List String} {v : Value}
    (h : state.set path v = some state') : Distinct state'.entries := by
  unfold State.set at h
  split at h
  · cases h
  · obtain ⟨entries', hentries, rfl⟩ := Option.map_eq_some_iff.1 h
    exact hd.descend (fun h hes => hes.setAt h) hentries

theorem Distinct.enter {start : String → Entries → Option Entries}
    (hstart : ∀ {key es es'}, start key es = some es' → Distinct es → Distinct es') {state state' : State}
    (hd : Distinct state.entries) {path : List String} (h : state.enter start path = some state') :
    Distinct state'.entries := by
  unfold State.enter at h
  split at h
  · cases h
  · obtain ⟨entries', hentries, rfl⟩ := Option.map_eq_some_iff.1 h
    exact hd.descend hstart hentries

theorem Distinct.line {state state' : State} {s rest : List Char} (hd : Distinct state.entries)
    (h : Toml.line state s = some (state', rest)) : Distinct state'.entries := by
  unfold Toml.line at h
  split at h
  · simp only [Option.bind_eq_bind, Option.bind_eq_some_iff] at h
    obtain ⟨_, -, _, -, _, -, _, -, state₁, hstate, hdone⟩ := h
    cases hdone
    exact hd.enter (fun h hes => hes.alter h) hstate
  · simp only [Option.bind_eq_bind, Option.bind_eq_some_iff] at h
    obtain ⟨_, -, _, -, _, -, state₁, hstate, hdone⟩ := h
    cases hdone
    exact hd.enter (fun h hes => hes.openTable h) hstate
  · split at h
    · cases h
      exact hd
    · simp only [Option.bind_eq_bind, Option.bind_eq_some_iff] at h
      obtain ⟨_, -, _, -, _, -, _, -, state₁, hstate, hdone⟩ := h
      cases hdone
      exact hd.set hstate

theorem Distinct.lines {rounds : Nat} {state state' : State} {s : List Char} (hd : Distinct state.entries)
    (h : Toml.lines rounds state s = some state') : Distinct state'.entries := by
  induction rounds generalizing state s with
  | zero => cases h
  | succ rounds ih =>
    unfold Toml.lines at h
    split at h
    · cases h
      exact hd
    · split at h
      · cases h
      · rename_i state₁ rest hline
        exact ih (hd.line hline) h

/-- **The keys of a document are distinct.** -/
theorem distinct_of_parse {text : String} {entries : Entries} (h : parse text = some entries) : Distinct entries := by
  obtain ⟨state, hlines, rfl⟩ := Option.map_eq_some_iff.1 h
  exact Distinct.lines Distinct.nil hlines

end Toml
end CilThunk
