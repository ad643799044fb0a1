import Yatagarasu.Library.Pieces

/-! Values whose texts may hold surrogates, as `json` reads and writes them. The reader agrees with
that of Unicode texts wherever the latter reads anything. -/

namespace PyJson

open PyStr

/-- A decoded value whose texts may hold surrogates. -/
inductive Value where
  | null
  | bool (b : Bool)
  | int (n : Int)
  | float (literal : String)
  | str (text : List Point)
  | arr (items : List Value)
  | obj (fields : List (List Point × Value))

namespace Value

mutual
def ofJson : Json → Value
  | .null => .null
  | .bool b => .bool b
  | .int n => .int n
  | .float literal => .float literal
  | .str s => .str (points s.toList)
  | .arr items => .arr (ofItems items)
  | .obj fields => .obj (ofFields fields)

def ofItems : List Json → List Value
  | [] => []
  | j :: items => ofJson j :: ofItems items

def ofFields : List (String × Json) → List (List Point × Value)
  | [] => []
  | (key, j) :: fields => (points key.toList, ofJson j) :: ofFields fields
end

mutual
/-- `json.dumps(value, separators=(",", ":"))` -/
def render : Value → List Char
  | .null => PyJson.render .null
  | .bool b => PyJson.render (.bool b)
  | .int n => PyJson.render (.int n)
  | .float literal => PyJson.render (.float literal)
  | .str text => renderText text
  | .arr [] => ['[', ']']
  | .arr (v :: items) => '[' :: render v ++ renderItems items
  | .obj [] => ['{', '}']
  | .obj ((key, v) :: fields) => '{' :: renderText key ++ ':' :: render v ++ renderFields fields

def renderItems : List Value → List Char
  | [] => [']']
  | v :: items => ',' :: render v ++ renderItems items

def renderFields : List (List Point × Value) → List Char
  | [] => ['}']
  | (key, v) :: fields => ',' :: renderText key ++ ':' :: render v ++ renderFields fields
end

def isSpace : Point → Bool
  | .scalar c => PyJson.isSpace c
  | .surrogate _ => false

def skipSpace (ps : List Point) : List Point := ps.dropWhile isSpace

/-- The text up to its first surrogate, and the rest. -/
def leading : List Point → List Char × List Point
  | .scalar c :: rest => (c :: (leading rest).1, (leading rest).2)
  | rest => ([], rest)

/-- A constant or a number, all of ASCII characters. -/
def scanAtom (ps : List Point) : Option (Value × List Point) :=
  ((scanConstant (leading ps).1).or (scanNumber (leading ps).1)).map fun p =>
    (ofJson p.1, points p.2 ++ (leading ps).2)

mutual
def scan : Nat → List Point → Option (Value × List Point)
  | 0, _ => none
  | _ + 1, [] => none
  | n + 1, p :: rest =>
    if p = .scalar '"' then (scanText rest).map fun r => (.str r.1, r.2)
    else if p = .scalar '{' then
      match skipSpace rest with
      | .scalar '}' :: r => some (.obj [], r)
      | r => (scanFields n r).map fun r => (.obj (dict r.1), r.2)
    else if p = .scalar '[' then
      match skipSpace rest with
      | .scalar ']' :: r => some (.arr [], r)
      | r => (scanItems n r).map fun r => (.arr r.1, r.2)
    else scanAtom (p :: rest)

def scanItems : Nat → List Point → Option (List Value × List Point)
  | 0, _ => none
  | n + 1, ps =>
    match scan n ps with
    | none => none
    | some (v, r) =>
      match skipSpace r with
      | .scalar ']' :: r => some ([v], r)
      | .scalar ',' :: r => (scanItems n (skipSpace r)).map fun r => (v :: r.1, r.2)
      | _ => none

def scanFields : Nat → List Point → Option (List (List Point × Value) × List Point)
  | n + 1, .scalar '"' :: ps =>
    match scanText ps with
    | none => none
    | some (key, r) =>
      match skipSpace r with
      | .scalar ':' :: r =>
        match scan n (skipSpace r) with
        | none => none
        | some (v, r) =>
          match skipSpace r with
          | .scalar '}' :: r => some ([(key, v)], r)
          | .scalar ',' :: r => (scanFields n (skipSpace r)).map fun r => ((key, v) :: r.1, r.2)
          | _ => none
      | _ => none
  | _, _ => none
end

/-- `json.loads(text)`; `none` stands for the `JSONDecodeError`. -/
def loads (text : List Point) : Option Value :=
  match scan text.length (skipSpace text) with
  | some (v, rest) => if skipSpace rest = [] then some v else none
  | none => none

section Steps

variable {n : Nat} {ps after inner closing more rest : List Point} {key : List Point} {v : Value}
  {items : List Value} {fields : List (List Point × Value)}

theorem scanItems_last (hv : scan n ps = some (v, after))
    (hend : skipSpace after = .scalar ']' :: rest) : scanItems (n + 1) ps = some ([v], rest) := by
  simp only [scanItems, hv, hend]

theorem scanItems_more (hv : scan n ps = some (v, after))
    (hcomma : skipSpace after = .scalar ',' :: inner)
    (hrest : scanItems n (skipSpace inner) = some (items, rest)) :
    scanItems (n + 1) ps = some (v :: items, rest) := by
  simp only [scanItems, hv, hcomma, hrest, Option.map_some]

theorem scanFields_last (hkey : scanText ps = some (key, after))
    (hcolon : skipSpace after = .scalar ':' :: inner)
    (hv : scan n (skipSpace inner) = some (v, closing))
    (hend : skipSpace closing = .scalar '}' :: rest) :
    scanFields (n + 1) (.scalar '"' :: ps) = some ([(key, v)], rest) := by
  simp only [scanFields, hkey, hcolon, hv, hend]

theorem scanFields_more (hkey : scanText ps = some (key, after))
    (hcolon : skipSpace after = .scalar ':' :: inner)
    (hv : scan n (skipSpace inner) = some (v, closing))
    (hcomma : skipSpace closing = .scalar ',' :: more)
    (hrest : scanFields n (skipSpace more) = some (fields, rest)) :
    scanFields (n + 1) (.scalar '"' :: ps) = some ((key, v) :: fields, rest) := by
  simp only [scanFields, hkey, hcolon, hv, hcomma, hrest, Option.map_some]

end Steps

section Unicode

variable {cs text rest : List Char} {j : Json} {items : List Json} {fields : List (String × Json)}

theorem skipSpace_points (cs : List Char) :
    skipSpace (points cs) = points (PyJson.skipSpace cs) :=
  List.dropWhile_map ..

theorem leading_points (cs : List Char) : leading (points cs) = (cs, []) := by
  induction cs with
  | nil => rfl
  | cons c cs ih =>
    rw [points_cons, leading, ih]

theorem points_toList_inj {key key' : String} :
    points key.toList = points key'.toList ↔ key = key' := by
  rw [points_injective.eq_iff, String.toList_inj]

theorem ofFields_setField (key : String) (j : Json) (fields : List (String × Json)) :
    ofFields (PyJson.setField key j fields) =
      setField (points key.toList) (ofJson j) (ofFields fields) := by
  induction fields with
  | nil => rfl
  | cons field fields ih =>
    obtain ⟨key', j'⟩ := field
    simp only [PyJson.setField, ofFields, setField, points_toList_inj]
    split
    · rfl
    · rw [ofFields, ih]

theorem ofFields_dict (fields : List (String × Json)) :
    ofFields (PyJson.dict fields) = dict (ofFields fields) := by
  have hfold (acc : List (String × Json)) :
      ofFields (fields.foldl (fun acc field => PyJson.setField field.1 field.2 acc) acc) =
        (ofFields fields).foldl (fun acc field => setField field.1 field.2 acc) (ofFields acc) := by
    induction fields generalizing acc with
    | nil => rfl
    | cons field fields ih =>
      obtain ⟨key, j⟩ := field
      rw [List.foldl_cons, ih, ofFields_setField]
      rfl
  exact hfold []

theorem scanAtom_points (h : (scanConstant cs).or (scanNumber cs) = some (j, rest)) :
    scanAtom (points cs) = some (ofJson j, points rest) := by
  rw [scanAtom, leading_points, h, Option.map_some, List.append_nil]

end Unicode

end Value

/-- With the same fuel both readers read a text without surrogates alike. -/
theorem scan_points (n : Nat) :
    (∀ cs j rest, scanValue n cs = some (j, rest) →
      Value.scan n (points cs) = some (Value.ofJson j, points rest)) ∧
    (∀ cs items rest, scanItems n cs = some (items, rest) →
      Value.scanItems n (points cs) = some (Value.ofItems items, points rest)) ∧
    ∀ cs fields rest, scanFields n cs = some (fields, rest) →
      Value.scanFields n (points cs) = some (Value.ofFields fields, points rest) := by
  induction n with
  | zero =>
    refine ⟨fun cs j rest h => ?_, fun cs items rest h => ?_, fun cs fields rest h => ?_⟩
    · cases h
    · cases h
    · cases h
  | succ n ih =>
    obtain ⟨hvalue, hitems, hfields⟩ := ih
    refine ⟨fun cs j rest h => ?_, fun cs items rest h => ?_, fun cs fields rest h => ?_⟩
    · cases cs with
      | nil => cases h
      | cons c cs =>
        rw [points_cons]
        simp only [scanValue, Value.scan, Point.scalar.injEq] at h ⊢
        split_ifs at h ⊢ with hquote hbrace hbracket
        · obtain ⟨⟨text, after⟩, hscan, heq⟩ := Option.map_eq_some_iff.mp h
          cases heq
          rw [scanText_points hscan, Value.ofJson, String.toList_ofList]
          rfl
        · rw [Value.skipSpace_points]
          split at h
          · rename_i after hskip
            cases h
            rw [hskip, points_cons]
            rfl
          · rename_i hopen
            obtain ⟨⟨fields, after⟩, hscan, heq⟩ := Option.map_eq_some_iff.mp h
            cases heq
            split
            · rename_i hskip
              obtain ⟨after', hclosed, -⟩ := points_eq_cons hskip
              exact (hopen _ hclosed).elim
            · rw [hfields _ _ _ hscan, Value.ofJson, Value.ofFields_dict]
              rfl
        · rw [Value.skipSpace_points]
          split at h
          · rename_i after hskip
            cases h
            rw [hskip, points_cons]
            rfl
          · rename_i hopen
            obtain ⟨⟨items, after⟩, hscan, heq⟩ := Option.map_eq_some_iff.mp h
            cases heq
            split
            · rename_i hskip
              obtain ⟨after', hclosed, -⟩ := points_eq_cons hskip
              exact (hopen _ hclosed).elim
            · rw [hitems _ _ _ hscan, Value.ofJson]
              rfl
        · rw [← points_cons]
          apply Value.scanAtom_points
          split at h
          · rename_i hconstant
            rw [hconstant, h, Option.some_or]
          · rename_i hconstant
            rw [hconstant, h, Option.none_or]
    · unfold scanItems at h
      split at h
      · cases h
      · rename_i j after hscan
        have hspace := Value.skipSpace_points after
        split at h
        · rename_i hskip
          cases h
          rw [hskip] at hspace
          exact Value.scanItems_last (hvalue _ _ _ hscan) hspace
        · rename_i inner hskip
          obtain ⟨⟨items', after'⟩, hrest, heq⟩ := Option.map_eq_some_iff.mp h
          cases heq
          rw [hskip] at hspace
          refine Value.scanItems_more (hvalue _ _ _ hscan) hspace ?_
          exact (congrArg _ (Value.skipSpace_points inner)).trans (hitems _ _ _ hrest)
        · cases h
    · unfold scanFields at h
      split at h
      · rename_i m cs' heq
        cases heq
        split at h
        · cases h
        rename_i key after hkey
        have hspace := Value.skipSpace_points after
        split at h
        · rename_i inner hcolon
          rw [hcolon] at hspace
          have hinner := Value.skipSpace_points inner
          split at h
          · cases h
          rename_i j closing hscan
          have hv := hvalue _ _ _ hscan
          rw [← hinner] at hv
          have hclosing := Value.skipSpace_points closing
          split at h
          · rename_i hend
            cases h
            rw [hend] at hclosing
            rw [Value.ofFields, String.toList_ofList]
            exact Value.scanFields_last (scanText_points hkey) hspace hv hclosing
          · rename_i more hcomma
            obtain ⟨⟨fields', after'⟩, hrest, heq⟩ := Option.map_eq_some_iff.mp h
            cases heq
            rw [hcomma] at hclosing
            rw [Value.ofFields, String.toList_ofList]
            refine Value.scanFields_more (scanText_points hkey) hspace hv hclosing ?_
            exact (congrArg _ (Value.skipSpace_points more)).trans (hfields _ _ _ hrest)
          · cases h
        · cases h
      · cases h

/-- A text that can be read without surrogates means the same with them. -/
theorem loads_points {text : String} {j : Json} (h : loads text = some j) :
    Value.loads (points text.toList) = some (Value.ofJson j) := by
  unfold loads at h
  split at h
  · rename_i j' rest hscan
    split at h
    · rename_i hend
      cases h
      have hv := (scan_points text.length).1 _ _ _ hscan
      have hlength : (points text.toList).length = text.length := by
        rw [points, List.length_map, String.length_toList]
      unfold Value.loads
      rw [hlength, Value.skipSpace_points, hv]
      dsimp only
      rw [Value.skipSpace_points, hend]
      rfl
    · cases h
  · cases h

namespace Value

theorem renderText_points (s : String) : renderText (points s.toList) = renderString s := by
  rw [renderText, points, List.flatMap_map]
  rfl

mutual
/-- A Unicode value is written as such a value. -/
theorem render_ofJson : ∀ j, render (ofJson j) = PyJson.render j
  | .null | .bool _ | .int _ | .float _ => rfl
  | .str s => renderText_points s
  | .arr [] => rfl
  | .arr (j :: items) => by
    rw [ofJson, ofItems, render, PyJson.render, render_ofJson j, renderItems_ofItems items]
  | .obj [] => rfl
  | .obj ((key, j) :: fields) => by
    rw [ofJson, ofFields, render, PyJson.render, renderText_points, render_ofJson j,
      renderFields_ofFields fields]

theorem renderItems_ofItems : ∀ items, renderItems (ofItems items) = PyJson.renderItems items
  | [] => rfl
  | j :: items => by
    rw [ofItems, renderItems, PyJson.renderItems, render_ofJson j, renderItems_ofItems items]

theorem renderFields_ofFields :
    ∀ fields, renderFields (ofFields fields) = PyJson.renderFields fields
  | [] => rfl
  | (key, j) :: fields => by
    rw [ofFields, renderFields, PyJson.renderFields, renderText_points, render_ofJson j,
      renderFields_ofFields fields]
end

end Value

end PyJson
