import Yatagarasu.Library.Json

/-! What is read can be written and read again. -/

namespace PyJson

theorem keys_setField (k : String) (v : Json) (fs : List (String × Json)) :
    (setField k v fs).map Prod.fst =
      if k ∈ fs.map Prod.fst then fs.map Prod.fst else fs.map Prod.fst ++ [k] := by
  by_cases hmem : k ∈ fs.map Prod.fst
  · rw [if_pos hmem]
    induction fs with
    | nil => cases hmem
    | cons f fs ih =>
      by_cases hk : f.1 = k
      · simp [setField, hk]
      · have hrest : k ∈ fs.map Prod.fst := by
          simpa [Ne.symm hk] using hmem
        simp [setField, hk, ih hrest]
  · rw [if_neg hmem, setField_fresh v hmem, List.map_append]
    rfl

theorem nodup_setField (k : String) (v : Json) {fs : List (String × Json)}
    (h : (fs.map Prod.fst).Nodup) : ((setField k v fs).map Prod.fst).Nodup := by
  rw [keys_setField]
  split
  · exact h
  · rename_i hfresh
    rw [List.nodup_append]
    refine ⟨h, List.nodup_singleton k, fun key hkey key' hkey' => ?_⟩
    rw [List.mem_singleton] at hkey'
    rintro rfl
    exact hfresh (hkey' ▸ hkey)

theorem readableFields_setField {k : String} {v : Json} {fs : List (String × Json)}
    (hv : Readable v) (h : ReadableFields fs) : ReadableFields (setField k v fs) := by
  induction fs with
  | nil => exact ⟨hv, trivial⟩
  | cons f fs ih =>
    obtain ⟨hfirst, hrest⟩ := h
    unfold setField
    split
    · exact ⟨hv, hrest⟩
    · exact ⟨hfirst, ih hrest⟩

/-- A decoded object repeats no key. -/
theorem readable_dict {fs : List (String × Json)} (h : ReadableFields fs) :
    Readable (.obj (dict fs)) := by
  have hfold : ∀ fs acc : List (String × Json), ReadableFields fs → Readable (.obj acc) →
      Readable (.obj (fs.foldl (fun acc f => setField f.1 f.2 acc) acc)) := by
    intro fs
    induction fs with
    | nil =>
      intro acc _ hacc
      exact hacc
    | cons f fs ih =>
      intro acc hfs hacc
      apply ih _ hfs.2
      exact ⟨nodup_setField f.1 f.2 hacc.1, readableFields_setField hfs.1 hacc.2⟩
  exact hfold fs [] h ⟨List.nodup_nil, trivial⟩

theorem readable_scanUnsigned {sign cs rest : List Char} {j : Json}
    (hsign : sign = [] ∨ sign = ['-']) (h : scanUnsigned sign cs = some (j, rest)) :
    Readable j := by
  unfold scanUnsigned at h
  split at h
  · cases h
  · rename_i whole remaining hwhole
    dsimp only at h
    split at h
    · cases h
      trivial
    · rename_i hfloat
      cases h
      have hnumeral : Numeral (sign ++ whole ++ (scanFraction remaining).1 ++
          (scanExponent (scanFraction remaining).2).1) :=
        .number hsign (whole_of_scan hwhole) (fraction_of_scan _) (exponent_of_scan _) hfloat
      simpa [Readable] using hnumeral

theorem readable_scanNumber {cs rest : List Char} {j : Json} (h : scanNumber cs = some (j, rest)) :
    Readable j := by
  unfold scanNumber at h
  split at h
  · exact readable_scanUnsigned (.inr rfl) h
  · exact readable_scanUnsigned (.inl rfl) h

theorem readable_scanConstant {cs rest : List Char} {j : Json}
    (h : scanConstant cs = some (j, rest)) : Readable j := by
  obtain ⟨⟨text, value⟩, hmem, heq⟩ := List.exists_of_findSome?_eq_some h
  split at heq
  · simp only [Option.some.injEq, Prod.mk.injEq] at heq
    obtain ⟨rfl, -⟩ := heq
    cases value with
    | float literal =>
      have htext : literal.toList = text := by
        simp [constants] at hmem
        rcases hmem with ⟨rfl, rfl⟩ | ⟨rfl, rfl⟩ | ⟨rfl, rfl⟩ <;> rfl
      unfold Readable
      rw [htext]
      exact .constant hmem
    | null => trivial
    | bool b => trivial
    | int n => trivial
    | str s => trivial
    | arr items => simp [constants] at hmem
    | obj fields => simp [constants] at hmem
  · cases heq

/-- Every value that the scanner returns at this fuel. -/
structure ReadableAt (fuel : Nat) : Prop where
  value : ∀ cs j rest, scanValue fuel cs = some (j, rest) → Readable j
  items : ∀ cs xs rest, scanItems fuel cs = some (xs, rest) → ReadableItems xs
  fields : ∀ cs fs rest, scanFields fuel cs = some (fs, rest) → ReadableFields fs

theorem readable_scanValue {n : Nat} (ih : ReadableAt n) {cs rest : List Char} {j : Json}
    (h : scanValue (n + 1) cs = some (j, rest)) : Readable j := by
  cases cs with
  | nil => simp [scanValue] at h
  | cons c cs =>
    unfold scanValue at h
    split at h
    · obtain ⟨p, -, heq⟩ := Option.map_eq_some_iff.mp h
      cases heq
      trivial
    split at h
    · split at h
      · cases h
        exact ⟨List.nodup_nil, trivial⟩
      · obtain ⟨p, hp, heq⟩ := Option.map_eq_some_iff.mp h
        cases heq
        exact readable_dict (ih.fields _ p.1 p.2 hp)
    split at h
    · split at h
      · cases h
        trivial
      · obtain ⟨p, hp, heq⟩ := Option.map_eq_some_iff.mp h
        cases heq
        exact ih.items _ p.1 p.2 hp
    split at h
    · rename_i hconstant
      cases h
      exact readable_scanConstant hconstant
    · exact readable_scanNumber h

theorem readable_scanItems {n : Nat} (ih : ReadableAt n) {cs rest : List Char} {xs : List Json}
    (h : scanItems (n + 1) cs = some (xs, rest)) : ReadableItems xs := by
  unfold scanItems at h
  split at h
  · cases h
  · rename_i v r hvalue
    split at h
    · cases h
      exact ⟨ih.value _ _ _ hvalue, trivial⟩
    · obtain ⟨p, hp, heq⟩ := Option.map_eq_some_iff.mp h
      cases heq
      exact ⟨ih.value _ _ _ hvalue, ih.items _ p.1 p.2 hp⟩
    · cases h

theorem readable_scanFields {n : Nat} (ih : ReadableAt n) {cs rest : List Char}
    {fs : List (String × Json)} (h : scanFields (n + 1) cs = some (fs, rest)) :
    ReadableFields fs := by
  cases cs with
  | nil => simp [scanFields] at h
  | cons c cs =>
    by_cases hquote : c = '"'
    · subst hquote
      rw [scanFields] at h
      split at h
      · cases h
      split at h
      · split at h
        · cases h
        rename_i v r hvalue
        split at h
        · cases h
          exact ⟨ih.value _ _ _ hvalue, trivial⟩
        · obtain ⟨p, hp, heq⟩ := Option.map_eq_some_iff.mp h
          cases heq
          exact ⟨ih.value _ _ _ hvalue, ih.fields _ p.1 p.2 hp⟩
        · cases h
      · cases h
    · simp [scanFields, hquote] at h

theorem readableAt (fuel : Nat) : ReadableAt fuel := by
  induction fuel with
  | zero =>
    refine ⟨fun cs j rest h => ?_, fun cs xs rest h => ?_, fun cs fs rest h => ?_⟩
    · simp [scanValue] at h
    · simp [scanItems] at h
    · simp [scanFields] at h
  | succ n ih =>
    exact ⟨fun _ _ _ => readable_scanValue ih, fun _ _ _ => readable_scanItems ih,
      fun _ _ _ => readable_scanFields ih⟩

/-- Every decoded value can be written and read again. -/
theorem readable_of_loads {text : String} {j : Json} (h : loads text = some j) : Readable j := by
  unfold loads at h
  split at h
  · rename_i value rest hscan
    split at h
    · cases h
      exact (readableAt _).value _ _ _ hscan
    · cases h
  · cases h

theorem sortFields_eq_map (fs : List (String × Json)) :
    sortFields fs = fs.map fun f => (f.1, sortKeys f.2) := by
  induction fs with
  | nil => rfl
  | cons f fs ih => rw [sortFields, ih, List.map_cons]

theorem keys_sortFields (fs : List (String × Json)) :
    (sortFields fs).map Prod.fst = fs.map Prod.fst := by
  simp [sortFields_eq_map]

theorem readableFields_iff {fs : List (String × Json)} :
    ReadableFields fs ↔ ∀ f ∈ fs, Readable f.2 := by
  induction fs with
  | nil => simp [ReadableFields]
  | cons f fs ih => simp [ReadableFields, ih]

mutual
theorem readable_sortKeys : ∀ {j : Json}, Readable j → Readable (sortKeys j)
  | .null, _ | .bool _, _ | .int _, _ | .str _, _ => trivial
  | .float _, h => h
  | .arr _, h => readable_sortItems h
  | .obj fs, h => by
    have hsorted := List.mergeSort_perm (sortFields fs) fun a b => decide (a.1 ≤ b.1)
    refine ⟨?_, readableFields_iff.mpr fun f hf => ?_⟩
    · rw [(hsorted.map Prod.fst).nodup_iff, keys_sortFields]
      exact h.1
    · exact readableFields_iff.mp (readable_sortFields h.2) f (hsorted.mem_iff.mp hf)

theorem readable_sortItems : ∀ {xs : List Json}, ReadableItems xs → ReadableItems (sortItems xs)
  | [], _ => trivial
  | _ :: _, h => ⟨readable_sortKeys h.1, readable_sortItems h.2⟩

theorem readable_sortFields :
    ∀ {fs : List (String × Json)}, ReadableFields fs → ReadableFields (sortFields fs)
  | [], _ => trivial
  | _ :: _, h => ⟨readable_sortKeys h.1, readable_sortFields h.2⟩
end

theorem readable_of_lookup {fs : List (String × Json)} {k : String} {v : Json}
    (h : Readable (.obj fs)) (hv : fs.lookup k = some v) : Readable v := by
  obtain ⟨before, after, rfl, -⟩ := List.lookup_eq_some_iff.mp hv
  exact readableFields_iff.mp h.2 (k, v) (by simp)

theorem lookup_sortFields (fs : List (String × Json)) (k : String) :
    (sortFields fs).lookup k = (fs.lookup k).map sortKeys := by
  induction fs with
  | nil => rfl
  | cons f fs ih =>
    rw [sortFields, List.lookup_cons, List.lookup_cons]
    cases hk : k == f.1 with
    | true => rfl
    | false => exact ih

theorem lookup_of_mem {fs : List (String × Json)} (hkeys : (fs.map Prod.fst).Nodup) {k : String}
    {v : Json} (h : (k, v) ∈ fs) : fs.lookup k = some v := by
  induction fs with
  | nil => cases h
  | cons f fs ih =>
    rw [List.map_cons, List.nodup_cons] at hkeys
    rw [List.lookup_cons]
    rcases List.mem_cons.mp h with rfl | h
    · simp
    · have hne : k ≠ f.1 := by
        rintro rfl
        exact hkeys.1 (List.mem_map.mpr ⟨_, h, rfl⟩)
      have hother : (k == f.1) = false := by simpa using hne
      rw [hother]
      exact ih hkeys.2 h

/-- An object whose keys are in order keeps its order. -/
theorem sortKeys_of_ordered {fs : List (String × Json)}
    (h : (fs.map Prod.fst).Pairwise (· ≤ ·)) : sortKeys (.obj fs) = .obj (sortFields fs) := by
  rw [← keys_sortFields, List.pairwise_map] at h
  rw [sortKeys, List.mergeSort_of_pairwise]
  simpa using h

/-- What `dumps` writes is read back with its keys in order. -/
theorem loads_dumps {j : Json} (h : Readable j) : loads (dumps j) = some (sortKeys j) :=
  loads_render (readable_sortKeys h)

/-- Two values with one text are the same up to the order of their keys. -/
theorem sortKeys_of_dumps {j k : Json} (hj : Readable j) (hk : Readable k)
    (h : dumps j = dumps k) : sortKeys j = sortKeys k := by
  have hread := loads_dumps hj
  rw [h, loads_dumps hk] at hread
  exact (Option.some.inj hread).symm

end PyJson
