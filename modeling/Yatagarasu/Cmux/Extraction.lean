import Yatagarasu.Cmux.Marker
import Yatagarasu.Core.Markers

/-! Which markers of a text `extract` returns, and which it passes over. -/

namespace Yatagarasu.Cmux

open Encodings PyJson MarkerAuthority

section Matches

variable {cs rest post run : List Char} {groups : List Char × List Char × List Char} {c : Char}

/-- The characters of an id in a short marker. -/
structure IsId (id : List Char) : Prop where
  chars : ∀ c ∈ id, tokenChar c
  size : 1 ≤ id.length ∧ id.length ≤ 64

/-- The text of a short marker. -/
def shortText (groups : List Char × List Char × List Char) : List Char :=
  shortPrefix ++ groups.1 ++ '.' :: groups.2.1 ++ '.' :: groups.2.2

/-- The groups of a match. -/
structure ShortForm (groups : List Char × List Char × List Char) : Prop where
  delivery : IsId groups.1
  binding : IsId groups.2.1
  signature : (∀ c ∈ groups.2.2, tokenChar c) ∧ groups.2.2.length = 43

/-- No token character follows. -/
def EndsToken (post : List Char) : Prop := ∀ c ∈ post.head?, ¬ tokenChar c

theorem endsToken_nil : EndsToken [] := fun _ h => by cases h

theorem endsToken_dropWhile (cs : List Char) : EndsToken (cs.dropWhile tokenChar) := by
  intro c hc
  have hnot := List.head?_dropWhile_not tokenChar cs
  rw [Option.mem_def.mp hc] at hnot
  simpa using hnot

theorem scanId_split {id : List Char} (h : scanId cs = some (id, rest)) :
    cs = id ++ '.' :: rest := by
  have hsplit := List.takeWhile_append_dropWhile (p := tokenChar) (l := cs)
  unfold scanId at h
  split at h
  · rename_i rest' hdrop
    dsimp only at h
    split at h
    · cases h
      rw [hdrop] at hsplit
      exact hsplit.symm
    · cases h
  · cases h

/-- A match is the text of a short marker that no token character follows. -/
theorem matchShort_iff : matchShort cs = some groups ↔
    ShortForm groups ∧ ∃ post, cs = shortText groups ++ post ∧ EndsToken post := by
  constructor
  · intro h
    obtain ⟨hd, hb, hs⟩ := matchShort_eq_some h
    refine ⟨⟨⟨hd.1, hd.2⟩, ⟨hb.1, hb.2⟩, hs⟩, ?_⟩
    unfold matchShort at h
    split at h
    · cases h
    rename_i hstarts
    obtain ⟨⟨deliveryId, rest⟩, hdelivery, h⟩ := Option.bind_eq_some_iff.mp h
    obtain ⟨⟨bindingId, rest'⟩, hbinding, h⟩ := Option.bind_eq_some_iff.mp h
    dsimp only at h hbinding
    split at h
    · cases h
      rw [not_not, List.isPrefixOf_iff_prefix] at hstarts
      obtain ⟨tail, rfl⟩ := hstarts
      rw [List.drop_left] at hdelivery
      refine ⟨rest'.dropWhile tokenChar, ?_, endsToken_dropWhile _⟩
      rw [scanId_split hdelivery, scanId_split hbinding]
      simp [shortText, List.takeWhile_append_dropWhile]
    · cases h
  · rintro ⟨⟨⟨hd, hdsize⟩, ⟨hb, hbsize⟩, hs, hslength⟩, post, rfl, hpost⟩
    obtain ⟨htake, -⟩ := takeWhile_run hs hpost
    have hassoc : shortText groups ++ post = shortPrefix ++
        (groups.1 ++ '.' :: (groups.2.1 ++ '.' :: (groups.2.2 ++ post))) := by simp [shortText]
    rw [hassoc]
    unfold matchShort
    rw [if_neg (by simp), List.drop_left, scanId_run hd hdsize.1 hdsize.2]
    simp [scanId_run hb hbsize.1 hbsize.2, htake, hslength]

theorem matchShort_head (h : c ≠ 'y') : matchShort (c :: cs) = none := by
  have hstarts : shortPrefix.isPrefixOf (c :: cs) = false := by
    simp [shortPrefix_eq, List.isPrefixOf, h.symm]
  unfold matchShort
  rw [hstarts]
  rfl

theorem searchShort_skip (h : c ≠ 'y') : searchShort (c :: cs) = searchShort cs := by
  rw [searchShort, matchShort_head h, Option.none_or]

/-- The search looks at every place. -/
theorem searchShort_eq_none :
    searchShort cs = none ↔ ∀ rest, rest <:+ cs → matchShort rest = none := by
  induction cs with
  | nil =>
    constructor
    · intro _ rest hrest
      rw [List.eq_nil_of_suffix_nil hrest]
      rfl
    · exact fun _ => rfl
  | cons c cs ih =>
    rw [searchShort, Option.or_eq_none_iff, ih]
    constructor
    · rintro ⟨hhere, hlater⟩ rest hrest
      rcases List.suffix_cons_iff.mp hrest with rfl | hrest
      · exact hhere
      · exact hlater rest hrest
    · intro hall
      refine ⟨hall _ List.suffix_rfl, fun rest hrest => hall rest ?_⟩
      exact hrest.trans (List.suffix_cons c cs)

theorem searchShort_suffix (h : searchShort cs = some groups) :
    ∃ rest, rest <:+ cs ∧ matchShort rest = some groups := by
  induction cs with
  | nil => cases h
  | cons c cs ih =>
    rcases Option.or_eq_some_iff.mp h with hmatch | ⟨-, hsearch⟩
    · exact ⟨_, List.suffix_rfl, hmatch⟩
    · obtain ⟨rest, hrest, hmatch⟩ := ih hsearch
      exact ⟨rest, hrest.trans (List.suffix_cons c cs), hmatch⟩

/-- A long token somewhere in a text, as far as its characters go. -/
structure LongAt (cs pre run post : List Char) : Prop where
  split : cs = pre ++ (longPrefix ++ run) ++ post
  chars : ∀ c ∈ run, tokenChar c
  filled : run ≠ []
  ends : EndsToken post

/-- A text starts with one long token at most. -/
theorem longAt_front {run' post' : List Char} (h : LongAt cs [] run post)
    (h' : LongAt cs [] run' post') : run' = run ∧ post' = post := by
  have hsplit := h.split.symm.trans h'.split
  rw [List.nil_append, List.nil_append, List.append_assoc, List.append_assoc] at hsplit
  have hsame := List.append_cancel_left hsplit
  have htake := congrArg (List.takeWhile tokenChar) hsame
  have hdrop := congrArg (List.dropWhile tokenChar) hsame
  rw [(takeWhile_run h.chars h.ends).1, (takeWhile_run h'.chars h'.ends).1] at htake
  rw [(takeWhile_run h.chars h.ends).2, (takeWhile_run h'.chars h'.ends).2] at hdrop
  exact ⟨htake.symm, hdrop.symm⟩

/-- At each place the scan takes a whole token, or there is none. -/
theorem longTokens_cases (fuel : Nat) (c : Char) (cs : List Char) :
    (∃ run post, LongAt (c :: cs) [] run post ∧
      longTokens (fuel + 1) (c :: cs) = (longPrefix ++ run) :: longTokens fuel post) ∨
    (∀ run post, ¬ LongAt (c :: cs) [] run post) ∧
      longTokens (fuel + 1) (c :: cs) = longTokens fuel cs := by
  rw [longTokens]
  split
  · rename_i hmatch
    obtain ⟨hstarts, hfilled⟩ := hmatch
    left
    refine ⟨_, _, ⟨?_, fun _ => List.mem_takeWhile_imp, hfilled, endsToken_dropWhile _⟩, rfl⟩
    obtain ⟨tail, htail⟩ := List.isPrefixOf_iff_prefix.mp hstarts
    rw [← htail, List.drop_left, List.nil_append, List.append_assoc,
      List.takeWhile_append_dropWhile]
  · rename_i hmatch
    refine .inr ⟨?_, rfl⟩
    intro run post hlong
    apply hmatch
    have hsplit := hlong.split
    rw [List.nil_append, List.append_assoc] at hsplit
    rw [hsplit, List.drop_left, (takeWhile_run hlong.chars hlong.ends).1]
    exact ⟨List.isPrefixOf_iff_prefix.mpr (List.prefix_append _ _), hlong.filled⟩

theorem longTokens_nil (fuel : Nat) : longTokens fuel [] = [] := by
  cases fuel <;> rfl

/-- A token of the scan stands in the text. -/
theorem longTokens_sound {fuel : Nat} {token : List Char} (h : token ∈ longTokens fuel cs) :
    ∃ pre run post, LongAt cs pre run post ∧ token = longPrefix ++ run := by
  induction fuel generalizing cs with
  | zero =>
    unfold longTokens at h
    cases h
  | succ fuel ih =>
    cases cs with
    | nil =>
      rw [longTokens_nil] at h
      cases h
    | cons c cs =>
      rcases longTokens_cases fuel c cs with ⟨run, post, hlong, heq⟩ | ⟨-, heq⟩
      · rw [heq] at h
        rcases List.mem_cons.mp h with rfl | h
        · exact ⟨[], run, post, hlong, rfl⟩
        · obtain ⟨pre, run', post', hlater, rfl⟩ := ih h
          refine ⟨longPrefix ++ run ++ pre, run', post', ⟨?_, hlater.chars, hlater.filled,
            hlater.ends⟩, rfl⟩
          rw [hlong.split, hlater.split]
          simp
      · rw [heq] at h
        obtain ⟨pre, run, post, hlater, rfl⟩ := ih h
        refine ⟨c :: pre, run, post, ⟨?_, hlater.chars, hlater.filled, hlater.ends⟩, rfl⟩
        rw [hlater.split]
        rfl

/-- The token begins inside the run of another one, which stops at its dot. -/
def Overlapped (pre : List Char) : Prop :=
  ∃ before r, pre = before ++ longPrefix ++ r ∧ ∀ c ∈ r, tokenChar c

theorem overlapped_append {pre : List Char} (before : List Char) (h : Overlapped pre) :
    Overlapped (before ++ pre) := by
  obtain ⟨before', r, rfl, hr⟩ := h
  exact ⟨before ++ before', r, by simp, hr⟩

/-- Where a later token stands against the first one: inside its run, or after it. -/
theorem later_token {pre run' post' : List Char} (hfirst : LongAt cs [] run post)
    (h : LongAt cs pre run' post') (hpre : pre ≠ []) :
    Overlapped pre ∨ ∃ between, pre = longPrefix ++ run ++ between ∧
      LongAt post between run' post' := by
  have hcs := hfirst.split
  rw [List.nil_append, List.append_assoc, h.split, List.append_assoc, List.append_assoc] at hcs
  obtain ⟨c, hpre', hrest⟩ : ∃ c, pre = longPrefix ++ c ∧
      run ++ post = c ++ (longPrefix ++ (run' ++ post')) := by
    rcases List.append_eq_append_iff.mp hcs with ⟨a, hlong, hrest⟩ | ⟨c, hlong, hrest⟩
    · -- the other token cannot begin in the middle of the prefix
      cases a with
      | nil => exact ⟨[], by simpa using hlong.symm, by simpa using hrest.symm⟩
      | cons y a =>
        have hy : y = 'y' := (List.cons.inj hrest).1.symm
        have hmem : y ∈ longPrefix.tail := by
          obtain ⟨x, pre, rfl⟩ := List.exists_cons_of_ne_nil hpre
          rw [hlong, List.cons_append, List.tail_cons]
          exact List.mem_append_right _ List.mem_cons_self
        rw [hy] at hmem
        exact absurd hmem (by decide)
    · exact ⟨c, hlong, hrest⟩
  by_cases hinside : ∀ x ∈ c, tokenChar x
  · exact .inl ⟨[], c, hpre', hinside⟩
  · right
    have hdrop : c.dropWhile tokenChar ≠ [] := by
      intro hnil
      exact hinside (List.dropWhile_eq_nil_iff.mp hnil)
    have hempty : (c.dropWhile tokenChar).isEmpty = false := by simpa using hdrop
    obtain ⟨htake, hpost⟩ := takeWhile_run hfirst.chars hfirst.ends
    rw [hrest, List.dropWhile_append, hempty] at hpost
    have hsplit := List.takeWhile_append_dropWhile (p := tokenChar) (l := c)
    have hrun : c.takeWhile tokenChar = run := by
      refine @List.append_cancel_right _ _ post _ ?_
      rw [hrest, ← hpost]
      simp only [Bool.false_eq_true, if_false]
      rw [← List.append_assoc, hsplit]
    refine ⟨c.dropWhile tokenChar, ?_, ?_, h.chars, h.filled, h.ends⟩
    · rw [hpre', ← hrun, List.append_assoc, hsplit]
    · rw [← hpost]
      simp

/-- A long token is scanned, or begins inside the run of another one. -/
theorem longTokens_complete {fuel : Nat} {pre : List Char} (hfuel : cs.length ≤ fuel)
    (h : LongAt cs pre run post) : longPrefix ++ run ∈ longTokens fuel cs ∨ Overlapped pre := by
  induction fuel generalizing cs pre with
  | zero =>
    have hsplit := h.split
    rw [List.length_eq_zero_iff.mp (Nat.le_zero.mp hfuel)] at hsplit
    simp [longPrefix_eq] at hsplit
  | succ fuel ih =>
    cases cs with
    | nil =>
      have hsplit := h.split
      simp [longPrefix_eq] at hsplit
    | cons c cs =>
      have hshorter : cs.length ≤ fuel := Nat.le_of_succ_le_succ hfuel
      rcases longTokens_cases fuel c cs with ⟨run₀, post₀, hfirst, heq⟩ | ⟨hnone, heq⟩
      · rw [heq]
        by_cases hpre : pre = []
        · subst hpre
          rw [(longAt_front hfirst h).1]
          exact .inl List.mem_cons_self
        · rcases later_token hfirst h hpre with hover | ⟨between, rfl, hlater⟩
          · exact .inr hover
          · have hlength : post₀.length ≤ fuel := by
              have hsize := congrArg List.length hfirst.split
              simp only [List.length_cons, List.length_append] at hsize
              have hstarts : longPrefix.length = 5 := rfl
              omega
            rcases ih hlength hlater with hmem | hover
            · exact .inl (List.mem_cons_of_mem _ hmem)
            · exact .inr (overlapped_append _ hover)
      · rw [heq]
        cases pre with
        | nil => exact absurd h (hnone run post)
        | cons x pre =>
          obtain ⟨rfl, hcs⟩ := List.cons.inj h.split
          rcases ih hshorter ⟨hcs, h.chars, h.filled, h.ends⟩ with hmem | hover
          · exact .inl hmem
          · exact .inr (overlapped_append [c] hover)

theorem tokenChar_alphabet : ∀ c ∈ alphabet, tokenChar c :=
  List.all_eq_true.mp (by decide +kernel)

/-- A long token on its own is no short marker. -/
theorem searchShort_token {body : List Char} (hchars : ∀ c ∈ body, tokenChar c) :
    searchShort (longPrefix ++ body) = none := by
  rw [searchShort_eq_none]
  rintro rest ⟨pre, hpre⟩
  by_contra hmatch
  obtain ⟨groups, hsome⟩ := Option.ne_none_iff_exists'.mp hmatch
  obtain ⟨-, post, rfl, -⟩ := matchShort_iff.mp hsome
  -- the dot of the prefix would stand among the characters of the token
  have hbody := congrArg (List.drop 5) hpre
  have hdropped : List.drop 5 (longPrefix ++ body) = body := List.drop_left' rfl
  have hdot : '.' ∈ List.drop 5 (pre ++ (shortText groups ++ post)) := by
    have hsize : 5 ≤ (pre ++ ['y', 'g', 'r', '1', 's']).length := by simp
    have hassoc : pre ++ (shortText groups ++ post) = (pre ++ ['y', 'g', 'r', '1', 's']) ++
        ('.' :: (groups.1 ++ '.' :: groups.2.1 ++ '.' :: groups.2.2 ++ post)) := by
      simp [shortText, shortPrefix_eq]
    rw [hassoc, List.drop_append_of_le_length hsize]
    exact List.mem_append_right _ List.mem_cons_self
  rw [hbody, hdropped] at hdot
  exact absurd (hchars '.' hdot) (by decide)

end Matches

section Missed

variable {haystack : String} {m : WireMarker}

/-- A decodable marker stands in the text: a short one with a canonical signature, or a long token
that decodes. -/
def Occurs (haystack : String) : WireMarker → Prop
  | .short marker => ∃ pre groups post, haystack.toList = pre ++ shortText groups ++ post ∧
      ShortForm groups ∧ EndsToken post ∧ canonicalShort groups = some marker
  | .delivery marker => ∃ pre run post, LongAt haystack.toList pre run post ∧
      decode (String.ofList (longPrefix ++ run)) = some marker

/-- `None` means that the text holds no decodable marker, and what is returned stands in it. -/
def Complete (haystack : String) : Prop :=
  (extract haystack = none → ∀ m, ¬ Occurs haystack m) ∧
    ∀ m, extract haystack = some m → Occurs haystack m

/-- The first text of the short form is a decoy, or there is none, and no token of the
left-to-right scan decodes, while a genuine short marker follows the decoy or a genuine token begins
inside the run of another one. -/
def Overlooked (haystack : String) : Prop :=
  (∀ groups, searchShort haystack.toList = some groups → canonicalShort groups = none) ∧
  (∀ token ∈ longTokens haystack.length haystack.toList, decode (String.ofList token) = none) ∧
  ((∃ groups m, searchShort haystack.toList = some groups ∧ Occurs haystack (.short m)) ∨
    ∃ pre run post m, LongAt haystack.toList pre run post ∧ Overlapped pre ∧
      decode (String.ofList (longPrefix ++ run)) = some m)

theorem extract_eq_none : extract haystack = none ↔
    (∀ groups, searchShort haystack.toList = some groups → canonicalShort groups = none) ∧
    ∀ token ∈ longTokens haystack.length haystack.toList, decode (String.ofList token) = none := by
  have hshort : (searchShort haystack.toList).bind canonicalShort = none ↔
      ∀ groups, searchShort haystack.toList = some groups → canonicalShort groups = none :=
    Option.bind_eq_none_iff
  unfold extract
  rw [← hshort, ← List.findSome?_eq_none_iff]
  split
  · rename_i marker hmarker
    simp [hmarker]
  · rename_i hnone
    simp [hnone]

theorem occurs_of_extract (h : extract haystack = some m) : Occurs haystack m := by
  unfold extract at h
  split at h
  · rename_i marker hmarker
    cases h
    obtain ⟨groups, hsearch, hcanonical⟩ := Option.bind_eq_some_iff.mp hmarker
    obtain ⟨rest, ⟨pre, hpre⟩, hmatch⟩ := searchShort_suffix hsearch
    obtain ⟨hform, post, rfl, hpost⟩ := matchShort_iff.mp hmatch
    exact ⟨pre, groups, post, by rw [← hpre, List.append_assoc], hform, hpost, hcanonical⟩
  · obtain ⟨marker, hfind, rfl⟩ := Option.map_eq_some_iff.mp h
    obtain ⟨token, htoken, hdecode⟩ := List.exists_of_findSome?_eq_some hfind
    obtain ⟨pre, run, post, hlong, rfl⟩ := longTokens_sound htoken
    exact ⟨pre, run, post, hlong, hdecode⟩

/-- A short marker of the text is a match of the search. -/
theorem searchShort_of_occurs {marker : ShortMarker} (h : Occurs haystack (.short marker)) :
    ∃ groups, searchShort haystack.toList = some groups := by
  obtain ⟨pre, groups, post, hsplit, hform, hpost, -⟩ := h
  by_contra hnone
  have hnone : searchShort haystack.toList = none := by
    rw [Option.eq_none_iff_forall_ne_some]
    intro groups hsome
    exact hnone ⟨groups, hsome⟩
  have hmatch := matchShort_iff.mpr ⟨hform, post, rfl, hpost⟩
  have hsuffix : shortText groups ++ post <:+ haystack.toList := by
    rw [hsplit, List.append_assoc]
    exact List.suffix_append _ _
  rw [searchShort_eq_none.mp hnone _ hsuffix] at hmatch
  cases hmatch

/-- Extraction is complete exactly when it overlooks nothing. -/
theorem extract_complete_iff (haystack : String) : Complete haystack ↔ ¬ Overlooked haystack := by
  constructor
  · rintro ⟨hcomplete, -⟩ ⟨hshort, hlong, hmissed⟩
    have hnone := extract_eq_none.mpr ⟨hshort, hlong⟩
    rcases hmissed with ⟨-, m, -, hoccurs⟩ | ⟨pre, run, post, m, hstands, -, hdecode⟩
    · exact hcomplete hnone _ hoccurs
    · exact hcomplete hnone (.delivery m) ⟨pre, run, post, hstands, hdecode⟩
  · intro hoverlooked
    refine ⟨?_, fun m => occurs_of_extract⟩
    intro hnone m hoccurs
    obtain ⟨hshort, hlong⟩ := extract_eq_none.mp hnone
    apply hoverlooked
    refine ⟨hshort, hlong, ?_⟩
    cases m with
    | short marker =>
      obtain ⟨groups, hsearch⟩ := searchShort_of_occurs hoccurs
      exact .inl ⟨groups, marker, hsearch, hoccurs⟩
    | delivery marker =>
      obtain ⟨pre, run, post, hstands, hdecode⟩ := hoccurs
      rcases longTokens_complete (Nat.le_of_eq (String.length_toList ..)) hstands with hmem | hover
      · rw [hlong _ hmem] at hdecode
        cases hdecode
      · exact .inr ⟨pre, run, post, marker, hstands, hover, hdecode⟩

/-- A text of the short form whose signature has stray bits, and then a genuine short marker. -/
def decoyed : String :=
  String.ofList (shortText (['a'], ['b'], List.replicate 42 'A' ++ ['B']) ++
    ' ' :: shortText (['a'], ['b'], List.replicate 43 'A'))

/-- The genuine marker after the decoy is not found. -/
theorem decoy_hides_marker : ¬ Complete decoyed := by
  have hnone : extract decoyed = none := by
    unfold decoyed
    rw [extract_eq_none, String.toList_ofList]
    decide +kernel
  intro hcomplete
  refine hcomplete.1 hnone (.short ⟨"a", "b", String.ofList (hex (List.replicate 32 0))⟩)
    ⟨shortText (['a'], ['b'], List.replicate 42 'A' ++ ['B']) ++ [' '],
      (['a'], ['b'], List.replicate 43 'A'), [], ?_, ⟨⟨?_, ?_⟩, ⟨?_, ?_⟩, ?_, ?_⟩, endsToken_nil, ?_⟩
  · simp [decoyed]
  · exact List.all_eq_true.mp rfl
  · decide
  · exact List.all_eq_true.mp rfl
  · decide
  · exact List.all_eq_true.mp rfl
  all_goals decide

end Missed

end Yatagarasu.Cmux
