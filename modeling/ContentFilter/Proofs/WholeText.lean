import Mathlib
import ContentFilter.Proofs.Matching
import ContentFilter.Proofs.Splicing
import ContentFilter.Value.Comparison

/-!
# Patterns of whole texts

A text is like a pattern if the pattern, taken by itself, matches the whole of it. What is matched
is the pattern with text around it, which makes a group of it and ties the group to both ends of the
text. This is the same for a pattern whose group ends where the pattern ends: none of its
parentheses ends the group before, and no comment at its end hides the parenthesis that should. The
text around it also counts for the limits of depth and size. `Spliceable` says all this, and
`Operator.holds_like_iff` is what it is for.
-/

namespace ContentFilter.Regex

/-! ## Every expression of a pattern is ordered -/

theorem ordered_seqAll {rs : List Regex} (h : ∀ r ∈ rs, r.Ordered) : (seqAll rs).Ordered := by
  induction rs with
  | nil => trivial
  | cons r rs ih =>
    obtain ⟨hr, hrs⟩ := List.forall_mem_cons.mp h
    cases rs with
    | nil => exact hr
    | cons r' rs => exact ⟨hr, ih hrs⟩

theorem ordered_altAll {rs : List Regex} (h : ∀ r ∈ rs, r.Ordered) : (altAll rs).Ordered := by
  induction rs with
  | nil => trivial
  | cons r rs ih =>
    obtain ⟨hr, hrs⟩ := List.forall_mem_cons.mp h
    cases rs with
    | nil => exact hr
    | cons r' rs => exact ⟨hr, ih hrs⟩

theorem ordered_literal (text : List Char) : (Tree.literal text).toRegex.Ordered := by
  refine ordered_seqAll ?_
  intro r hr
  obtain ⟨c, -, rfl⟩ := List.mem_map.mp hr
  trivial

theorem ordered_of_literal?_eq_some {o : Options} {l : Literal} {t : Tree}
    (h : o.literal? l = some t) : t.toRegex.Ordered := by
  unfold Options.literal? at h
  split at h
  · cases h
  · obtain rfl := Option.some.inj h
    split
    · exact ordered_literal _
    · trivial

mutual

/-- In every repetition of a pattern there is room between the bounds. -/
theorem ordered_of_toTree?_eq_some (o : Options) (p : Pattern) {q : Tree × Options}
    (h : p.toTree? o = some q) : q.1.toRegex.Ordered := by
  cases p with
  | empty | flags | assertion =>
    cases h
    trivial
  | literal l =>
    obtain ⟨t, ht, rfl⟩ := Option.map_eq_some_iff.mp h
    exact ordered_of_literal?_eq_some ht
  | dot | shorthand | property =>
    obtain ⟨s, -, rfl⟩ := Option.map_eq_some_iff.mp h
    trivial
  | bracket negated inner =>
    obtain ⟨s, -, hs⟩ := Option.bind_eq_some_iff.mp h
    obtain ⟨t, -, rfl⟩ := Option.map_eq_some_iff.mp hs
    trivial
  | repetition body count =>
    obtain ⟨t, ht, rfl⟩ := Option.map_eq_some_iff.mp h
    exact ⟨ordered_of_toTree?_eq_some o body ht, count.ordered⟩
  | group settings captures body =>
    obtain ⟨t, ht, rfl⟩ := Option.map_eq_some_iff.mp h
    have hbody := ordered_of_toTree?_eq_some _ body ht
    cases captures with
    | true => exact hbody
    | false => exact hbody
  | concat parts =>
    obtain ⟨ts, hts, rfl⟩ := Option.map_eq_some_iff.mp h
    exact ordered_seqAll (ordered_of_toTrees?_eq_some o parts hts)
  | alternation branches =>
    obtain ⟨ts, hts, rfl⟩ := Option.map_eq_some_iff.mp h
    exact ordered_altAll (ordered_of_toTrees?_eq_some o branches hts)

/-- So it is in a list of patterns. -/
theorem ordered_of_toTrees?_eq_some (o : Options) (ps : List Pattern) {q : List Tree × Options}
    (h : Pattern.toTrees? o ps = some q) : ∀ r ∈ Tree.toRegexes q.1, r.Ordered := by
  cases ps with
  | nil =>
    cases h
    exact List.forall_mem_nil _
  | cons p ps =>
    obtain ⟨t, ht, hts⟩ := Option.bind_eq_some_iff.mp h
    obtain ⟨ts, hrest, rfl⟩ := Option.map_eq_some_iff.mp hts
    exact List.forall_mem_cons.mpr
      ⟨ordered_of_toTree?_eq_some o p ht, ordered_of_toTrees?_eq_some _ ps hrest⟩

end

/-! ## Both ends of a text -/

/-- The pattern as the only part of a text. -/
def Pattern.whole (p : Pattern) : Pattern :=
  .concat [.assertion .lineStart, .group [] false p, .assertion .lineEnd]

/-- The expression as the only part of a text. -/
def Tree.whole (t : Tree) : Tree :=
  .seq [.look .textStart, t, .look .textEnd]

theorem depth_whole (p : Pattern) : p.whole.depth = p.depth + 2 := by
  have hnone : p.whole.depth = max 0 (max (p.depth + 1) (max 0 0)) + 1 := rfl
  rw [hnone]
  omega

/-- What a pattern means by itself. -/
def Pattern.meaning? (p : Pattern) : Option Tree :=
  (p.toTree? {}).map (·.1)

theorem meaning?_whole (p : Pattern) : p.whole.meaning? = p.meaning?.map Tree.whole := by
  have hoptions : ({} : Options).applying [] = {} := rfl
  simp only [Pattern.meaning?, Pattern.whole, Pattern.toTree?, Pattern.toTrees?, Option.bind_some,
    hoptions]
  cases p.toTree? {} <;> rfl

theorem ordered_of_meaning?_eq_some {p : Pattern} {t : Tree} (h : p.meaning? = some t) :
    t.toRegex.Ordered := by
  obtain ⟨q, hq, rfl⟩ := Option.map_eq_some_iff.mp h
  exact ordered_of_toTree?_eq_some {} p hq

theorem matches_textStart_iff {text : List Char} {i j : Nat} :
    Matches text (.look .textStart) i j ↔ i = 0 ∧ j = 0 := by
  constructor
  · intro h
    cases h with
    | look hi hstart =>
      by_cases hzero : i = 0
      · exact ⟨hzero, hzero⟩
      · rw [if_neg hzero, List.getElem?_eq_getElem (by omega)] at hstart
        cases hstart
  · rintro ⟨rfl, rfl⟩
    exact .look (Nat.zero_le _) rfl

theorem matches_textEnd_iff {text : List Char} {i j : Nat} :
    Matches text (.look .textEnd) i j ↔ i = text.length ∧ j = text.length := by
  constructor
  · intro h
    cases h with
    | look hi hend =>
      by_cases hlength : i = text.length
      · exact ⟨hlength, hlength⟩
      · have hlt : i < text.length := by omega
        rw [List.getElem?_eq_getElem hlt] at hend
        cases hend
  · rintro ⟨rfl, rfl⟩
    refine .look (Nat.le_refl _) ?_
    rw [List.getElem?_eq_none (Nat.le_refl _)]
    rfl

theorem matches_whole_iff {t : Tree} {text : List Char} {i j : Nat} :
    Matches text t.whole.toRegex i j ↔
      i = 0 ∧ j = text.length ∧ Matches text t.toRegex 0 text.length := by
  constructor
  · intro h
    cases h with
    | seq hstart hrest =>
      obtain ⟨rfl, rfl⟩ := matches_textStart_iff.mp hstart
      cases hrest with
      | seq hbody hend =>
        obtain ⟨rfl, rfl⟩ := matches_textEnd_iff.mp hend
        exact ⟨rfl, rfl, hbody⟩
  · rintro ⟨rfl, rfl, h⟩
    exact .seq (matches_textStart_iff.mpr ⟨rfl, rfl⟩)
      (.seq h (matches_textEnd_iff.mpr ⟨rfl, rfl⟩))

/-! ## Reading the group -/

/-- The pattern that a text is read as, and what is left of the text. -/
def readPattern? (s : List Char) : Option (Pattern × List Char) :=
  (bodyResult (readBody? ⟨false, []⟩ [] [] s)).map fun p => (p.1.1, p.2)

theorem agree_readPattern? (s : List Char) :
    Agree [] (readPattern? s) (readPattern? (s ++ closing)) :=
  (agree_readBody? ⟨false, []⟩ [] [] (follows_append s)).map Prod.fst

theorem pattern_ofChars?_eq (s : List Char) :
    Pattern.ofChars? s = (readPattern? s).bind fun p =>
      if p.2 = [] ∧ p.1.depth ≤ maxDepth then some p.1 else none := by
  unfold Pattern.ofChars? readPattern?
  cases readBody? ⟨false, []⟩ [] [] s <;> rfl

theorem ofChars?_eq_some_iff {s : List Char} {r : Regex} :
    ofChars? s = some r ↔ ∃ p t, readPattern? s = some (p, []) ∧ p.depth ≤ maxDepth ∧
      p.meaning? = some t ∧ t.fits = true ∧ t.toRegex = r := by
  unfold ofChars?
  rw [pattern_ofChars?_eq]
  constructor
  · intro h
    obtain ⟨p, hp, hr⟩ := Option.bind_eq_some_iff.mp h
    obtain ⟨⟨q, rest⟩, hq, hlimit⟩ := Option.bind_eq_some_iff.mp hp
    obtain ⟨t, ht, rfl⟩ := Option.map_eq_some_iff.mp hr
    obtain ⟨hmeaning, hfits⟩ := Option.filter_eq_some_iff.mp ht
    split at hlimit
    · rename_i hdepth
      obtain ⟨rfl, hdepth⟩ := hdepth
      obtain rfl := Option.some.inj hlimit
      exact ⟨q, t, hq, hdepth, hmeaning, hfits, rfl⟩
    · cases hlimit
  · rintro ⟨p, t, hp, hdepth, hmeaning, hfits, rfl⟩
    have hfilter : ((p.toTree? {}).map (·.1)).filter Tree.fits = some t :=
      Option.filter_eq_some_iff.mpr ⟨hmeaning, hfits⟩
    rw [hp, Option.bind_some, if_pos ⟨rfl, hdepth⟩, Option.bind_some, hfilter]
    rfl

/-- A pattern within its group is read as it is with `closing` after it. -/
theorem readPattern?_anchored (s : List Char) :
    readPattern? (anchored s) =
      ((bodyResult (readBody? ⟨false, []⟩ [] [] (s ++ closing))).bind fun b =>
        match b.2 with
        | [] => none
        | _ :: after =>
          bodyResult (readBody? ⟨false, b.1.2.names⟩ []
            [.group [] false b.1.1, .assertion .lineStart] after)).map fun p => (p.1.1, p.2) := by
  have hskip (r : List Char) : skipIgnored false r = r := rfl
  have hpart (r : List Char) :
      result (readPart? false ('^' :: r)) = some (.assertion .lineStart, r) := by
    rw [result_readPart?_cons, if_neg (by decide), if_neg (by decide)]
    rfl
  have hhead : readGroupHead? ('?' :: ':' :: (s ++ closing)) = some (.plain [], s ++ closing) := rfl
  have hgroup : bodyResult (readBody? ⟨false, []⟩ [] [] (anchored s)) =
      bodyAfterHead ⟨false, []⟩ [] [.assertion .lineStart] (.plain []) (s ++ closing) := by
    show bodyResult (readBody? ⟨false, []⟩ [] [] ('^' :: '(' :: '?' :: ':' :: (s ++ closing))) = _
    rw [bodyResult_readBody?, hskip]
    dsimp only
    rw [if_neg (by decide), if_neg (by decide), if_neg (by decide), if_neg (by decide), hpart,
      Option.bind_some, bodyResult_readBody?, hskip]
    dsimp only
    rw [if_neg (by decide), if_neg (by decide), if_pos rfl, hskip, hhead, Option.bind_some]
  rw [readPattern?, hgroup]
  -- A group without flags is entered in the state around it.
  rfl

theorem readPattern?_anchored_of_closing {s : List Char} {p : Pattern}
    (h : readPattern? (s ++ closing) = some (p, closing)) :
    readPattern? (anchored s) = some (p.whole, []) := by
  obtain ⟨⟨⟨q, st⟩, rest⟩, hbody, heq⟩ := Option.map_eq_some_iff.mp h
  cases heq
  rw [readPattern?_anchored, hbody, Option.bind_some]
  show ((bodyResult (readBody? _ _ _ ['$'])).map _) = _
  rw [bodyResult_readBody?_dollar]
  rfl

theorem readPattern?_anchored_of_nil {s : List Char}
    (h : ∀ p r, readPattern? (s ++ closing) = some (p, r) → r = []) :
    readPattern? (anchored s) = none := by
  rw [readPattern?_anchored]
  cases hbody : bodyResult (readBody? ⟨false, []⟩ [] [] (s ++ closing)) with
  | none => rfl
  | some b =>
    have hrest : b.2 = [] := h b.1.1 b.2 (by rw [readPattern?, hbody]; rfl)
    simp only [Option.bind_some, hrest]
    rfl

/-- The group of a pattern that can be read by itself ends where the pattern ends, or a comment
    hides its end. -/
theorem readPattern?_append_closing {s : List Char} {p : Pattern}
    (h : readPattern? s = some (p, [])) :
    readPattern? (s ++ closing) = some (p, closing) ∨
      readPattern? (s ++ closing) = some (p, []) := by
  have hagree := agree_readPattern? s
  rw [h] at hagree
  cases hlong : readPattern? (s ++ closing) with
  | none =>
    rw [hlong] at hagree
    cases hagree
  | some q =>
    rw [hlong] at hagree
    cases hagree with
    | read hfollows =>
      rcases hfollows with rfl | ⟨-, rfl⟩
      · exact .inl rfl
      · exact .inr rfl

/-- What cannot be read by itself is not read to the end of its group either. -/
theorem eq_nil_of_readPattern?_eq_none {s : List Char} (h : readPattern? s = none) :
    ∀ p r, readPattern? (s ++ closing) = some (p, r) → r = [] := by
  intro p r hlong
  have hagree := agree_readPattern? s
  rw [h, hlong] at hagree
  cases hagree with
  | overrun hr => exact List.suffix_nil.mp hr

/-! ## Matching whole texts -/

theorem matchesWhole_iff_exists {p text : String} :
    matchesWhole p text = true ↔
      ∃ r, ofChars? (anchored p.toList) = some r ∧ r.isMatch text.toList = true := by
  rw [matchesWhole, whole?, Option.any_eq_true]

/-- A pattern whose group ends where it ends matches whole texts. -/
theorem matchesWhole_iff {p : String} {q : Pattern}
    (h : readPattern? (p.toList ++ closing) = some (q, closing)) (text : String) :
    matchesWhole p text = true ↔ ∃ t, q.depth + 2 ≤ maxDepth ∧ q.meaning? = some t ∧
      t.whole.fits = true ∧ Matches text.toList t.toRegex 0 text.toList.length := by
  have hanchored := readPattern?_anchored_of_closing h
  rw [matchesWhole_iff_exists]
  constructor
  · rintro ⟨r, hr, hmatch⟩
    obtain ⟨q', t', hq', hdepth, hmeaning, hfits, rfl⟩ := ofChars?_eq_some_iff.mp hr
    rw [hanchored] at hq'
    cases hq'
    rw [depth_whole] at hdepth
    have hordered := ordered_of_meaning?_eq_some hmeaning
    rw [meaning?_whole] at hmeaning
    obtain ⟨t, ht, rfl⟩ := Option.map_eq_some_iff.mp hmeaning
    obtain ⟨i, j, hij⟩ := (isMatch_iff hordered _).mp hmatch
    obtain ⟨-, -, hwhole⟩ := matches_whole_iff.mp hij
    exact ⟨t, hdepth, ht, hfits, hwhole⟩
  · rintro ⟨t, hdepth, ht, hfits, hwhole⟩
    have hmeaning : q.whole.meaning? = some t.whole := by
      rw [meaning?_whole, ht]
      rfl
    refine ⟨t.whole.toRegex, ofChars?_eq_some_iff.mpr ⟨q.whole, t.whole, hanchored, ?_, hmeaning,
      hfits, rfl⟩, ?_⟩
    · rw [depth_whole]
      exact hdepth
    · exact (isMatch_iff (ordered_of_meaning?_eq_some hmeaning) _).mpr
        ⟨_, _, matches_whole_iff.mpr ⟨rfl, rfl, hwhole⟩⟩

/-- Nothing matches a pattern whose group does not end. -/
theorem matchesWhole_eq_false {p : String}
    (h : ∀ q r, readPattern? (p.toList ++ closing) = some (q, r) → r = []) (text : String) :
    matchesWhole p text = false := by
  rw [← Bool.not_eq_true, matchesWhole_iff_exists]
  rintro ⟨r, hr, -⟩
  obtain ⟨q, t, hq, -⟩ := ofChars?_eq_some_iff.mp hr
  rw [readPattern?_anchored_of_nil h] at hq
  cases hq

/-- The group that a pattern is put into is what it means by itself. -/
structure Spliceable (s : List Char) : Prop where
  /-- No parenthesis of the pattern ends a group that the pattern has not begun. -/
  balanced : ∀ p r, readPattern? s = some (p, r) → r = []
  /-- What is put after the pattern is not skipped, as it is in a comment. -/
  seen : ∀ p, readPattern? s = some (p, []) → readPattern? (s ++ closing) ≠ some (p, [])
  /-- The limits admit the pattern in its group if and only if they admit it by itself. -/
  limits : ∀ p t, readPattern? s = some (p, []) → p.meaning? = some t →
    ((p.depth ≤ maxDepth ∧ t.fits = true) ↔ (p.depth + 2 ≤ maxDepth ∧ t.whole.fits = true))

/-- A pattern that cannot be read is not read within its group either. -/
theorem Spliceable.of_unreadable {s : List Char} (h : readPattern? s = none) : Spliceable s where
  balanced := by
    intro p r hr
    rw [h] at hr
    cases hr
  seen := by
    intro p hp
    rw [h] at hp
    cases hp
  limits := by
    intro p t hp
    rw [h] at hp
    cases hp

/-- A pattern that is valid by itself and within its group is the same in both places, so there is
    no match to be lost or gained but where one of the two is invalid. -/
theorem Spliceable.of_isSome {s : List Char} (halone : (ofChars? s).isSome)
    (hgroup : (ofChars? (anchored s)).isSome) : Spliceable s := by
  obtain ⟨r, hr⟩ := Option.isSome_iff_exists.mp halone
  obtain ⟨p, t, hp, hdepth, ht, hfits, -⟩ := ofChars?_eq_some_iff.mp hr
  obtain ⟨r', hr'⟩ := Option.isSome_iff_exists.mp hgroup
  obtain ⟨p', t', hp', hdepth', ht', hfits', -⟩ := ofChars?_eq_some_iff.mp hr'
  have hlong : readPattern? (s ++ closing) = some (p, closing) := by
    rcases readPattern?_append_closing hp with hlong | hlong
    · exact hlong
    · have hnone : readPattern? (anchored s) = none := by
        refine readPattern?_anchored_of_nil ?_
        intro q r hq
        rw [hlong] at hq
        cases hq
        rfl
      rw [hnone] at hp'
      cases hp'
  rw [readPattern?_anchored_of_closing hlong] at hp'
  cases hp'
  rw [depth_whole] at hdepth'
  rw [meaning?_whole, ht] at ht'
  cases ht'
  refine ⟨?_, ?_, ?_⟩
  · intro q u hq
    rw [hp] at hq
    cases hq
    rfl
  · intro q hq hskipped
    rw [hlong] at hskipped
    cases hskipped
  · intro q u hq hu
    rw [hp] at hq
    cases hq
    rw [ht] at hu
    cases hu
    exact ⟨fun _ => ⟨hdepth', hfits'⟩, fun _ => ⟨hdepth, hfits⟩⟩

/-- Where the pattern can be read, its group ends where it ends. -/
theorem Spliceable.readPattern?_closing {s : List Char} (hs : Spliceable s) {p : Pattern}
    {r : List Char} (h : readPattern? s = some (p, r)) :
    r = [] ∧ readPattern? (s ++ closing) = some (p, closing) := by
  obtain rfl := hs.balanced p r h
  refine ⟨rfl, ?_⟩
  rcases readPattern?_append_closing h with hlong | hlong
  · exact hlong
  · exact absurd hlong (hs.seen p h)

theorem matchesWhole_iff_of_spliceable {p : String} (hp : Spliceable p.toList) (text : String) :
    matchesWhole p text = true ↔
      ∃ r, ofChars? p.toList = some r ∧ Matches text.toList r 0 text.toList.length := by
  cases hread : readPattern? p.toList with
  | none =>
    rw [matchesWhole_eq_false (eq_nil_of_readPattern?_eq_none hread) text]
    constructor
    · intro h
      cases h
    · rintro ⟨r, hr, -⟩
      obtain ⟨q, t, hq, -⟩ := ofChars?_eq_some_iff.mp hr
      rw [hread] at hq
      cases hq
  | some q =>
    obtain ⟨q, rest⟩ := q
    obtain ⟨rfl, hlong⟩ := hp.readPattern?_closing hread
    rw [matchesWhole_iff hlong]
    constructor
    · rintro ⟨t, hdepth, ht, hfits, hwhole⟩
      obtain ⟨hdepth, hfits⟩ := (hp.limits q t hread ht).mpr ⟨hdepth, hfits⟩
      exact ⟨t.toRegex, ofChars?_eq_some_iff.mpr ⟨q, t, hread, hdepth, ht, hfits, rfl⟩, hwhole⟩
    · rintro ⟨r, hr, hwhole⟩
      obtain ⟨q', t, hq, hdepth, ht, hfits, rfl⟩ := ofChars?_eq_some_iff.mp hr
      rw [hread] at hq
      cases hq
      obtain ⟨hdepth, hfits⟩ := (hp.limits q t hread ht).mp ⟨hdepth, hfits⟩
      exact ⟨t, hdepth, ht, hfits, hwhole⟩

end ContentFilter.Regex

namespace ContentFilter.Operator

open Regex

/-- For every text and every pattern whose group is what it means by itself, `like` is a match of
    the whole text; an invalid pattern matches nothing. -/
theorem holds_like_iff {p : String} (hp : Spliceable p.toList) (text : String) :
    (like.holds (.text text) (.text p) = true ↔
      ∃ r, ofChars? p.toList = some r ∧ Matches text.toList r 0 text.toList.length) ∧
    (ofChars? p.toList = none →
      like.holds (.text text) (.text p) = false ∧ notLike.holds (.text text) (.text p) = true) := by
  have hlike : like.holds (.text text) (.text p) = matchesWhole p text := rfl
  have hnot : notLike.holds (.text text) (.text p) = !matchesWhole p text := rfl
  have hiff := matchesWhole_iff_of_spliceable hp text
  rw [hlike, hnot]
  refine ⟨hiff, ?_⟩
  intro hnone
  have hfalse : matchesWhole p text = false := by
    rw [← Bool.not_eq_true, hiff]
    rintro ⟨r, hr, -⟩
    rw [hnone] at hr
    cases hr
  rw [hfalse]
  exact ⟨rfl, rfl⟩

theorem spliceable_alternation : Spliceable "a+|b".toList :=
  .of_isSome (by cbv) (by cbv)

theorem spliceable_openGroup : Spliceable "(".toList :=
  .of_unreadable (by cbv)

theorem holds_like_iff_alternation :
    (Spliceable "a+|b".toList ∧
      ∃ r, ofChars? "a+|b".toList = some r ∧ Matches "aa".toList r 0 2) ∧
    (Spliceable "(".toList ∧ ofChars? "(".toList = none ∧
      notLike.holds (.text "a") (.text "(") = true) := by
  refine ⟨⟨spliceable_alternation, ?_⟩, spliceable_openGroup, by cbv, ?_⟩
  · exact (holds_like_iff spliceable_alternation "aa").1.mp (by cbv)
  · exact ((holds_like_iff spliceable_openGroup "a").2 (by cbv)).2

/-- A parenthesis of the pattern may end the group before, so that a text matches that has only its
    beginning in common with the pattern. -/
theorem not_forall_holds_like_iff :
    ¬ ∀ p text : String, like.holds (.text text) (.text p) = true ↔
      ∃ r, ofChars? p.toList = some r ∧ Matches text.toList r 0 text.toList.length := by
  intro h
  have hlike : like.holds (.text "axyz") (.text "a)|(?:b") = true := by cbv
  have hnone : ofChars? "a)|(?:b".toList = none := by cbv
  obtain ⟨r, hr, -⟩ := (h "a)|(?:b" "axyz").mp hlike
  rw [hnone] at hr
  cases hr

end ContentFilter.Operator
