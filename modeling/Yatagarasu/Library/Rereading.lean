import Yatagarasu.Library.Decoded
import Yatagarasu.Library.Values

/-! A value that is written and read again is the value with the surrogates of its texts joined. -/

namespace PyJson

open PyStr

namespace Value

mutual
/-- The value with the surrogates of its texts joined; of the fields whose keys become one, the last
one's value stays. -/
def joined : Value → Value
  | .str text => .str (join text)
  | .arr items => .arr (joinedItems items)
  | .obj fields => .obj (dict (joinedFields fields))
  | .null => .null
  | .bool b => .bool b
  | .int n => .int n
  | .float literal => .float literal

def joinedItems : List Value → List Value
  | [] => []
  | v :: items => joined v :: joinedItems items

def joinedFields : List (List Point × Value) → List (List Point × Value)
  | [] => []
  | (key, v) :: fields => (join key, joined v) :: joinedFields fields
end

mutual
/-- Every float is a numeral. -/
def Readable : Value → Prop
  | .float literal => Numeral literal.toList
  | .arr items => ReadableItems items
  | .obj fields => ReadableFields fields
  | .null | .bool _ | .int _ | .str _ => True

def ReadableItems : List Value → Prop
  | [] => True
  | v :: items => Readable v ∧ ReadableItems items

def ReadableFields : List (List Point × Value) → Prop
  | [] => True
  | (_, v) :: fields => Readable v ∧ ReadableFields fields
end

section RoundTrip

variable {v : Value} {n : Nat} {rest : List Char}

theorem points_renderText (text : List Point) (cs : List Char) :
    points (renderText text ++ cs) =
      .scalar '"' :: (points (text.flatMap escapePoint) ++ .scalar '"' :: points cs) := by
  simp [renderText, points_append, points_cons]

/-- A value without texts, items and fields is written as a Unicode value is. -/
inductive Plain : Value → Json → Prop
  | null : Plain .null .null
  | bool (b : Bool) : Plain (.bool b) (.bool b)
  | int (i : Int) : Plain (.int i) (.int i)
  | float {literal : String} : Numeral literal.toList → Plain (.float literal) (.float literal)

theorem Plain.spec {j : Json} (h : Plain v j) :
    ofJson j = joined v ∧ render v = PyJson.render j ∧ PyJson.Readable j := by
  cases h with
  | null => exact ⟨rfl, rfl, trivial⟩
  | bool b => exact ⟨rfl, rfl, trivial⟩
  | int i => exact ⟨rfl, rfl, trivial⟩
  | float hnumeral => exact ⟨rfl, rfl, hnumeral⟩

theorem scan_plain {j : Json} (h : Plain v j) (hfuel : (render v).length ≤ n) (hrest : Stops rest) :
    scan n (points (render v ++ rest)) = some (joined v, points rest) := by
  obtain ⟨hvalue, hrender, hreadable⟩ := h.spec
  rw [hrender] at hfuel ⊢
  rw [← hvalue]
  exact (scan_points n).1 _ _ _ (scanValue_render j n rest hreadable hfuel hrest)

theorem render_head (h : Readable v) :
    ∃ c cs, render v = c :: cs ∧ PyJson.isSpace c = false ∧ c ≠ ']' := by
  have hplain {j : Json} (hj : Plain v j) :
      ∃ c cs, render v = c :: cs ∧ PyJson.isSpace c = false ∧ c ≠ ']' := by
    obtain ⟨-, hrender, hreadable⟩ := hj.spec
    rw [hrender]
    exact PyJson.render_head hreadable
  cases v with
  | null => exact hplain .null
  | bool b => exact hplain (.bool b)
  | int i => exact hplain (.int i)
  | float literal => exact hplain (.float h)
  | str text => exact ⟨_, _, rfl, by decide, by decide⟩
  | arr items => cases items <;> exact ⟨_, _, rfl, by decide, by decide⟩
  | obj fields => rcases fields with _ | ⟨⟨key, v⟩, fields⟩ <;> exact ⟨_, _, rfl, by decide, by decide⟩

theorem skipSpace_mark {c : Char} (h : PyJson.isSpace c = false) (cs : List Char) :
    skipSpace (points (c :: cs)) = .scalar c :: points cs := by
  rw [skipSpace_points, PyJson.skipSpace_cons h, points_cons]

theorem skipSpace_render (h : Readable v) (cs : List Char) :
    skipSpace (points (render v ++ cs)) = points (render v ++ cs) := by
  obtain ⟨c, tail, hrender, hspace, -⟩ := render_head h
  rw [hrender, List.cons_append, skipSpace_mark hspace, points_cons]

theorem skipSpace_key (key : List Point) (cs : List Char) :
    skipSpace (points (renderText key ++ cs)) = points (renderText key ++ cs) := by
  rw [skipSpace_points]
  exact congrArg points (PyJson.skipSpace_cons (by decide) _)

theorem stops_renderItems (items : List Value) (rest : List Char) :
    Stops (renderItems items ++ rest) := by
  cases items <;> simp [renderItems, Stops]

theorem stops_renderFields (fields : List (List Point × Value)) (rest : List Char) :
    Stops (renderFields fields ++ rest) := by
  cases fields <;> simp [renderFields, Stops]

theorem scan_str (n : Nat) (text : List Point) (rest : List Char) :
    scan (n + 1) (points (render (.str text) ++ rest)) = some (.str (join text), points rest) := by
  rw [render, points_renderText, scan, if_pos rfl, scanText_escaped]
  rfl

theorem scan_array (n : Nat) {c : Char} (hspace : PyJson.isSpace c = false) (hend : c ≠ ']')
    (cs : List Char) :
    scan (n + 1) (.scalar '[' :: points (c :: cs)) =
      (scanItems n (points (c :: cs))).map fun r => (.arr r.1, r.2) := by
  rw [scan, if_neg (by decide), if_neg (by decide), if_pos rfl, skipSpace_mark hspace, points_cons]
  split
  · rename_i heq
    cases heq
    exact absurd rfl hend
  · rfl

theorem scan_object (n : Nat) (key : List Point) (cs : List Char) :
    scan (n + 1) (.scalar '{' :: points (renderText key ++ cs)) =
      (scanFields n (points (renderText key ++ cs))).map fun r => (.obj (dict r.1), r.2) := by
  rw [scan, if_neg (by decide), if_pos rfl, skipSpace_key]
  rfl

/-- The value of a field, and what comes after it. -/
theorem scanFields_close (key : List Point) (h : Readable v) {v' : Value}
    (hv : scan n (points (render v ++ '}' :: rest)) = some (v', points ('}' :: rest))) :
    scanFields (n + 1) (points (renderText key ++ (':' :: render v ++ '}' :: rest))) =
      some ([(join key, v')], points rest) := by
  rw [points_renderText]
  refine scanFields_last (scanText_escaped key _) (skipSpace_mark (by decide) _) ?_
    (skipSpace_mark (by decide) rest)
  exact (congrArg _ (skipSpace_render h _)).trans hv

theorem scanFields_comma (key : List Point) (h : Readable v) {more : List Char} {v' : Value}
    {fields : List (List Point × Value)} {after : List Point}
    (hv : scan n (points (render v ++ ',' :: more)) = some (v', points (',' :: more)))
    (hmore : scanFields n (skipSpace (points more)) = some (fields, after)) :
    scanFields (n + 1) (points (renderText key ++ (':' :: render v ++ ',' :: more))) =
      some ((join key, v') :: fields, after) := by
  rw [points_renderText]
  refine scanFields_more (scanText_escaped key _) (skipSpace_mark (by decide) _) ?_
    (skipSpace_mark (by decide) more) hmore
  exact (congrArg _ (skipSpace_render h _)).trans hv

mutual
theorem scan_render : ∀ (v : Value) (n : Nat) (rest : List Char), Readable v →
    (render v).length ≤ n → Stops rest →
      scan n (points (render v ++ rest)) = some (joined v, points rest)
  | v, 0, _, h, hfuel, _ => by
    obtain ⟨c, cs, hrender, -⟩ := render_head h
    simp [hrender] at hfuel
  | .null, _ + 1, _, _, hfuel, hrest => scan_plain .null hfuel hrest
  | .bool b, _ + 1, _, _, hfuel, hrest => scan_plain (.bool b) hfuel hrest
  | .int i, _ + 1, _, _, hfuel, hrest => scan_plain (.int i) hfuel hrest
  | .float _, _ + 1, _, h, hfuel, hrest => scan_plain (.float h) hfuel hrest
  | .str text, n + 1, rest, _, _, _ => scan_str n text rest
  | .arr [], _ + 1, _, _, _, _ => rfl
  | .arr (v :: items), n + 1, rest, h, hfuel, _ => by
    have hitems := scanItems_render v items n rest h.1 h.2 (by
      simp only [render, List.length_cons, List.length_append] at hfuel
      omega)
    obtain ⟨c, cs, hrender, hspace, hend⟩ := render_head h.1
    rw [hrender, List.cons_append] at hitems
    rw [render, hrender, List.cons_append, List.cons_append, List.append_assoc, points_cons,
      List.cons_append, scan_array n hspace hend, hitems]
    rfl
  | .obj [], _ + 1, _, _, _, _ => rfl
  | .obj ((key, v) :: fields), n + 1, rest, h, hfuel, _ => by
    have hfields := scanFields_render key v fields n rest h.1 h.2 (by
      simp only [render, List.length_cons, List.length_append] at hfuel
      omega)
    have hrender : points (render (.obj ((key, v) :: fields)) ++ rest) = .scalar '{' ::
        points (renderText key ++ (':' :: render v ++ (renderFields fields ++ rest))) := by
      simp [render, points_cons]
    rw [hrender, scan_object, hfields]
    rfl

theorem scanItems_render : ∀ (v : Value) (items : List Value) (n : Nat) (rest : List Char),
    Readable v → ReadableItems items → (render v).length + (renderItems items).length ≤ n →
      scanItems n (points (render v ++ (renderItems items ++ rest))) =
        some (joined v :: joinedItems items, points rest)
  | v, items, 0, _, h, _, hfuel => by
    obtain ⟨c, cs, hrender, -⟩ := render_head h
    simp [hrender] at hfuel
  | v, [], n + 1, rest, h, _, hfuel => by
    have hv := scan_render v n (renderItems [] ++ rest) h (by
      simp only [renderItems, List.length_cons] at hfuel
      omega) (stops_renderItems _ _)
    exact scanItems_last hv (skipSpace_mark (by decide) rest)
  | v, v' :: items, n + 1, rest, h, hitems, hfuel => by
    simp only [renderItems, List.length_cons, List.length_append] at hfuel
    have hv := scan_render v n (renderItems (v' :: items) ++ rest) h (by omega)
      (stops_renderItems _ _)
    have hrest := scanItems_render v' items n rest hitems.1 hitems.2 (by omega)
    rw [← skipSpace_render hitems.1, ← List.append_assoc] at hrest
    exact scanItems_more hv (skipSpace_mark (by decide) _) hrest

theorem scanFields_render : ∀ (key : List Point) (v : Value) (fields : List (List Point × Value))
    (n : Nat) (rest : List Char), Readable v → ReadableFields fields →
      (renderText key).length + (render v).length + (renderFields fields).length ≤ n →
      scanFields n (points (renderText key ++ (':' :: render v ++ (renderFields fields ++ rest)))) =
        some ((join key, joined v) :: joinedFields fields, points rest)
  | key, _, _, 0, _, _, _, hfuel => by simp [renderText] at hfuel
  | key, v, [], n + 1, rest, h, _, hfuel => by
    have hv := scan_render v n (renderFields [] ++ rest) h (by
      simp only [renderFields, List.length_cons] at hfuel
      omega) (stops_renderFields _ _)
    exact scanFields_close key h hv
  | key, v, (key', v') :: fields, n + 1, rest, h, hfields, hfuel => by
    simp only [renderFields, List.length_cons, List.length_append] at hfuel
    have hv := scan_render v n (renderFields ((key', v') :: fields) ++ rest) h (by omega)
      (stops_renderFields _ _)
    have hrest := scanFields_render key' v' fields n rest hfields.1 hfields.2 (by omega)
    rw [← skipSpace_key] at hrest
    simp only [renderFields, List.cons_append, List.append_assoc] at hv ⊢
    exact scanFields_comma key h hv hrest
end

/-- The reader inverts the writer up to the joining of surrogates. -/
theorem loads_render (h : Readable v) : loads (points (render v)) = some (joined v) := by
  have hv := scan_render v (render v).length [] h (Nat.le_refl _) stops_nil
  have hspace := skipSpace_render h []
  rw [List.append_nil] at hv hspace
  have hlength : (points (render v)).length = (render v).length := List.length_map _
  unfold loads
  rw [hlength, hspace, hv]
  rfl

end RoundTrip

section Reading

variable {v : Value} {n : Nat} {ps rest : List Point}

theorem mem_setField {κ α : Type} [DecidableEq κ] {key : κ} {value : α} {field : κ × α}
    {fields : List (κ × α)} (h : field ∈ setField key value fields) :
    field = (key, value) ∨ field ∈ fields := by
  induction fields with
  | nil => exact .inl (List.mem_singleton.mp h)
  | cons first fields ih =>
    unfold setField at h
    split at h
    · rcases List.mem_cons.mp h with rfl | h
      · exact .inl rfl
      · exact .inr (List.mem_cons_of_mem _ h)
    · rcases List.mem_cons.mp h with rfl | h
      · exact .inr List.mem_cons_self
      · exact (ih h).imp_right (List.mem_cons_of_mem _)

theorem mem_dict {κ α : Type} [DecidableEq κ] {field : κ × α} {fields : List (κ × α)}
    (h : field ∈ dict fields) : field ∈ fields := by
  have hfold : ∀ (fields acc : List (κ × α)),
      field ∈ fields.foldl (fun acc f => setField f.1 f.2 acc) acc → field ∈ acc ∨ field ∈ fields := by
    intro fields
    induction fields with
    | nil => exact fun _ => .inl
    | cons first fields ih =>
      intro acc hmem
      rcases ih _ hmem with hmem | hmem
      · rcases mem_setField hmem with rfl | hmem
        · exact .inr List.mem_cons_self
        · exact .inl hmem
      · exact .inr (List.mem_cons_of_mem _ hmem)
  exact (hfold fields [] h).resolve_left List.not_mem_nil

theorem readableFields_iff {fields : List (List Point × Value)} :
    ReadableFields fields ↔ ∀ field ∈ fields, Readable field.2 := by
  induction fields with
  | nil => simp [ReadableFields]
  | cons field fields ih => simp [ReadableFields, ih]

theorem readable_dict {fields : List (List Point × Value)} (h : ReadableFields fields) :
    Readable (.obj (dict fields)) :=
  readableFields_iff.mpr fun field hfield => readableFields_iff.mp h field (mem_dict hfield)

theorem readable_of_lookup {fields : List (List Point × Value)} {key : List Point}
    (h : ReadableFields fields) (hlookup : fields.lookup key = some v) : Readable v := by
  obtain ⟨before, after, hsplit⟩ := List.lookup_eq_some_iff.mp hlookup
  exact readableFields_iff.mp h (key, v) (by simp [hsplit.1])

mutual
theorem readable_ofJson : ∀ {j : Json}, PyJson.Readable j → Readable (ofJson j)
  | .float _, h => h
  | .arr _, h => readable_ofItems h
  | .obj _, h => readable_ofFields h.2
  | .null, _ | .bool _, _ | .int _, _ | .str _, _ => trivial

theorem readable_ofItems : ∀ {items : List Json}, PyJson.ReadableItems items →
    ReadableItems (ofItems items)
  | [], _ => trivial
  | _ :: _, h => ⟨readable_ofJson h.1, readable_ofItems h.2⟩

theorem readable_ofFields : ∀ {fields : List (String × Json)}, PyJson.ReadableFields fields →
    ReadableFields (ofFields fields)
  | [], _ => trivial
  | (_, _) :: _, h => ⟨readable_ofJson h.1, readable_ofFields h.2⟩
end

/-- Constants and numbers are among the values of Unicode texts. -/
theorem readable_scanAtom (h : scanAtom ps = some (v, rest)) : Readable v := by
  obtain ⟨⟨j, after⟩, hscan, heq⟩ := Option.map_eq_some_iff.mp h
  cases heq
  have hj : PyJson.Readable j := by
    rcases Option.or_eq_some_iff.mp hscan with hconstant | ⟨-, hnumber⟩
    · exact readable_scanConstant hconstant
    · exact readable_scanNumber hnumber
  exact readable_ofJson hj

/-- Every value that the scanner returns at this fuel. -/
structure ReadableAt (fuel : Nat) : Prop where
  value : ∀ ps v rest, scan fuel ps = some (v, rest) → Readable v
  items : ∀ ps items rest, scanItems fuel ps = some (items, rest) → ReadableItems items
  fields : ∀ ps fields rest, scanFields fuel ps = some (fields, rest) → ReadableFields fields

theorem readable_scan (ih : ReadableAt n) (h : scan (n + 1) ps = some (v, rest)) : Readable v := by
  cases ps with
  | nil => cases h
  | cons p ps =>
    unfold scan at h
    split at h
    · obtain ⟨r, -, heq⟩ := Option.map_eq_some_iff.mp h
      cases heq
      trivial
    split at h
    · split at h
      · cases h
        trivial
      · obtain ⟨r, hr, heq⟩ := Option.map_eq_some_iff.mp h
        cases heq
        exact readable_dict (ih.fields _ r.1 r.2 hr)
    split at h
    · split at h
      · cases h
        trivial
      · obtain ⟨r, hr, heq⟩ := Option.map_eq_some_iff.mp h
        cases heq
        exact ih.items _ r.1 r.2 hr
    exact readable_scanAtom h

theorem readable_scanItems (ih : ReadableAt n) {items : List Value}
    (h : scanItems (n + 1) ps = some (items, rest)) : ReadableItems items := by
  unfold scanItems at h
  split at h
  · cases h
  · rename_i v r hvalue
    split at h
    · cases h
      exact ⟨ih.value _ _ _ hvalue, trivial⟩
    · obtain ⟨r', hr, heq⟩ := Option.map_eq_some_iff.mp h
      cases heq
      exact ⟨ih.value _ _ _ hvalue, ih.items _ r'.1 r'.2 hr⟩
    · cases h

theorem readable_scanFields (ih : ReadableAt n) {fields : List (List Point × Value)}
    (h : scanFields (n + 1) ps = some (fields, rest)) : ReadableFields fields := by
  unfold scanFields at h
  split at h
  · rename_i heq
    cases heq
    split at h
    · cases h
    split at h
    · split at h
      · cases h
      rename_i v r hvalue
      split at h
      · cases h
        exact ⟨ih.value _ _ _ hvalue, trivial⟩
      · obtain ⟨r', hr, heq⟩ := Option.map_eq_some_iff.mp h
        cases heq
        exact ⟨ih.value _ _ _ hvalue, ih.fields _ r'.1 r'.2 hr⟩
      · cases h
    · cases h
  · cases h

theorem readableAt (fuel : Nat) : ReadableAt fuel := by
  induction fuel with
  | zero =>
    refine ⟨fun ps v rest h => ?_, fun ps items rest h => ?_, fun ps fields rest h => ?_⟩
    · cases h
    · cases h
    · cases h
  | succ n ih =>
    exact ⟨fun _ _ _ => readable_scan ih, fun _ _ _ => readable_scanItems ih,
      fun _ _ _ => readable_scanFields ih⟩

/-- Every decoded value can be written and read again. -/
theorem readable_of_loads (h : loads ps = some v) : Readable v := by
  unfold loads at h
  split at h
  · rename_i v' rest hscan
    split at h
    · cases h
      exact (readableAt _).value _ _ _ hscan
    · cases h
  · cases h

end Reading

/-- `a <= b` for texts, which are compared by their code points. -/
def atMost : List Point → List Point → Bool
  | [], _ => true
  | _ :: _, [] => false
  | p :: ps, q :: qs => p.code < q.code || (p.code = q.code && atMost ps qs)

mutual
/-- The keys of every object are sorted. -/
def sortKeys : Value → Value
  | .arr items => .arr (sortItems items)
  | .obj fields => .obj ((sortFields fields).mergeSort fun a b => atMost a.1 b.1)
  | .null => .null
  | .bool b => .bool b
  | .int n => .int n
  | .float literal => .float literal
  | .str text => .str text

def sortItems : List Value → List Value
  | [] => []
  | v :: items => sortKeys v :: sortItems items

def sortFields : List (List Point × Value) → List (List Point × Value)
  | [] => []
  | (key, v) :: fields => (key, sortKeys v) :: sortFields fields
end

/-- `json.dumps(value, separators=(",", ":"), sort_keys=True)` -/
def dumps (v : Value) : String := String.ofList (render (sortKeys v))

section Sorting

mutual
theorem readable_sortKeys : ∀ {v : Value}, Readable v → Readable (sortKeys v)
  | .arr _, h => readable_sortItems h
  | .obj _, h => by
    have hfields := readableFields_iff.mp (readable_sortFields h)
    exact readableFields_iff.mpr fun field hfield => hfields field (List.mem_mergeSort.mp hfield)
  | .float _, h => h
  | .null, _ | .bool _, _ | .int _, _ | .str _, _ => trivial

theorem readable_sortItems : ∀ {items : List Value}, ReadableItems items →
    ReadableItems (sortItems items)
  | [], _ => trivial
  | _ :: _, h => ⟨readable_sortKeys h.1, readable_sortItems h.2⟩

theorem readable_sortFields : ∀ {fields : List (List Point × Value)}, ReadableFields fields →
    ReadableFields (sortFields fields)
  | [], _ => trivial
  | (_, _) :: _, h => ⟨readable_sortKeys h.1, readable_sortFields h.2⟩
end

theorem keys_sortFields (fields : List (List Point × Value)) :
    (sortFields fields).map Prod.fst = fields.map Prod.fst := by
  induction fields with
  | nil => rfl
  | cons field fields ih => rw [sortFields, List.map_cons, List.map_cons, ih]

theorem keys_joinedFields (fields : List (List Point × Value)) :
    (joinedFields fields).map Prod.fst = (fields.map Prod.fst).map join := by
  induction fields with
  | nil => rfl
  | cons field fields ih => rw [joinedFields, List.map_cons, List.map_cons, List.map_cons, ih]

/-- An object whose keys stand in order. -/
theorem sortKeys_obj {fields : List (List Point × Value)}
    (h : (fields.map Prod.fst).Pairwise fun a b => atMost a b = true) :
    sortKeys (.obj fields) = .obj (sortFields fields) := by
  rw [← keys_sortFields, List.pairwise_map] at h
  rw [sortKeys, List.mergeSort_of_pairwise h]

/-- The text of a value reads as the value with its keys sorted and its surrogates joined. -/
theorem loads_dumps {v : Value} (h : Readable v) :
    loads (points (dumps v).toList) = some (joined (sortKeys v)) := by
  rw [dumps, String.toList_ofList]
  exact loads_render (readable_sortKeys h)

end Sorting

section Unicode

theorem ofFields_eq_map (fields : List (String × Json)) :
    ofFields fields = fields.map fun field => (points field.1.toList, ofJson field.2) := by
  induction fields with
  | nil => rfl
  | cons field fields ih => rw [ofFields, List.map_cons, ih]

/-- Texts are compared as Lean compares them. -/
theorem atMost_points (cs ds : List Char) :
    atMost (points cs) (points ds) = true ↔ ¬ List.Lex (fun c d : Char => c < d) ds cs := by
  induction cs generalizing ds with
  | nil => simp [points, atMost]
  | cons c cs ih =>
    cases ds with
    | nil => simp [points, atMost]
    | cons d ds =>
      have hcode : d < c ↔ d.toNat < c.toNat := Iff.rfl
      have hsame : d = c ↔ d.toNat = c.toNat := Char.toNat_inj.symm
      rw [points_cons, points_cons, atMost, List.cons_lex_cons_iff, hcode, hsame]
      simp only [Point.code, Bool.or_eq_true, Bool.and_eq_true, ih]
      grind

mutual
/-- A Unicode value is sorted as such a value. -/
theorem sortKeys_ofJson : ∀ j, sortKeys (ofJson j) = ofJson (PyJson.sortKeys j)
  | .null | .bool _ | .int _ | .float _ | .str _ => rfl
  | .arr items => by
    rw [ofJson, sortKeys, PyJson.sortKeys, ofJson, sortItems_ofItems items]
  | .obj fields => by
    rw [ofJson, sortKeys, PyJson.sortKeys, ofJson, sortFields_ofFields fields, ofFields_eq_map,
      ofFields_eq_map, List.map_mergeSort]
    intro a _ b _
    rw [Bool.eq_iff_iff, atMost_points, decide_eq_true_eq]
    rfl

theorem sortItems_ofItems : ∀ items, sortItems (ofItems items) = ofItems (PyJson.sortItems items)
  | [] => rfl
  | j :: items => by
    rw [ofItems, sortItems, PyJson.sortItems, ofItems, sortKeys_ofJson j, sortItems_ofItems items]

theorem sortFields_ofFields :
    ∀ fields, sortFields (ofFields fields) = ofFields (PyJson.sortFields fields)
  | [] => rfl
  | (key, j) :: fields => by
    rw [ofFields, sortFields, PyJson.sortFields, ofFields, sortKeys_ofJson j,
      sortFields_ofFields fields]
end

theorem dumps_ofJson (j : Json) : dumps (ofJson j) = PyJson.dumps j := by
  rw [dumps, sortKeys_ofJson, render_ofJson, PyJson.dumps]

end Unicode

end Value

end PyJson
