import ContentFilter.Proofs.Lexeme
import Mathlib.Data.List.Forall2

/-!
# The grammar of strings

A string is made of items, each of which stands for one character: a character other than the quote
and the backslash, or an escape. The reader takes the items one by one up to the quote that closes
the string. Whatever else it meets is an error: a backslash that begins no escape, or the end of the
text. The reader takes one escape more than the documented ones, a `\u` with a plus sign in the
place of its first digit. `Denotes` is the grammar with this escape or without it, and
`readString_follows_grammar` is what it is for.
-/

namespace ContentFilter.Expr

open Text

/-! ## Items -/

/-- The character is a hexadecimal digit, in either case, with the value `n`. -/
def IsHexDigit (c : Char) (n : Nat) : Prop :=
  "0123456789abcdef".toList[n]? = some c.toLower

instance (c : Char) (n : Nat) : Decidable (IsHexDigit c n) :=
  inferInstanceAs (Decidable ("0123456789abcdef".toList[n]? = some c.toLower))

/-- The digits denote the number in hexadecimal. -/
def IsHexNumber (ds : List Char) (n : Nat) : Prop :=
  ∃ values, List.Forall₂ IsHexDigit ds values ∧ values.foldl (fun n d => 16 * n + d) 0 = n

/-- What stands after the backslash of an escape, and the character that the escape is for; `signed`
    says whether a plus sign may stand in the place of the first digit. -/
inductive IsEscape (signed : Bool) : List Char → Char → Prop where
  | newline : IsEscape signed ['n'] '\n'
  | tab : IsEscape signed ['t'] '\t'
  | carriageReturn : IsEscape signed ['r'] '\r'
  | same {c : Char} (hc : c = '\\' ∨ c = '\'' ∨ c = '"') : IsEscape signed [c] c
  | code {ds : List Char} {v : Char} (hlength : ds.length = 4) (h : IsHexNumber ds v.toNat) :
      IsEscape signed ('u' :: ds) v
  | signedCode {ds : List Char} {v : Char} (hsigned : signed = true) (hlength : ds.length = 3)
      (h : IsHexNumber ds v.toNat) : IsEscape signed ('u' :: '+' :: ds) v

/-- The text is a run of items of a string in the given quotes, which stand for the characters
    `cs`. -/
inductive Denotes (signed : Bool) (quote : Char) : List Char → List Char → Prop where
  | nil : Denotes signed quote [] []
  | plain {c : Char} {s cs : List Char} (hquote : c ≠ quote) (hback : c ≠ '\\')
      (h : Denotes signed quote s cs) : Denotes signed quote (c :: s) (c :: cs)
  | escape {e s cs : List Char} {v : Char} (he : IsEscape signed e v)
      (h : Denotes signed quote s cs) : Denotes signed quote ('\\' :: (e ++ s)) (v :: cs)

/-! ## Hexadecimal numbers -/

theorem hexDigit?_ascii : ∀ m < 128, ∀ n < 16,
    hexDigit? (Char.ofNat m) = some n ↔ IsHexDigit (Char.ofNat m) n := by
  decide +kernel

theorem toNat_lt_of_toLower {c : Char} (h : c.toLower.toNat < 128) : c.toNat < 128 := by
  by_cases hc : c.isUpper = true
  · have := isUpper_iff.mp hc
    omega
  · rwa [toLower_of_not_isUpper hc] at h

/-- Hexadecimal digits are ASCII characters, and their values are below 16. -/
theorem lt_of_isHexDigit {c : Char} {n : Nat} (h : IsHexDigit c n) : c.toNat < 128 ∧ n < 16 := by
  have hmem : c.toLower ∈ "0123456789abcdef".toList := List.mem_of_getElem? h
  have hascii : ∀ d ∈ "0123456789abcdef".toList, d.toNat < 128 := by decide
  have hn : n < 16 := by
    obtain ⟨hlt, -⟩ := List.getElem?_eq_some_iff.mp h
    exact hlt
  exact ⟨toNat_lt_of_toLower (hascii _ hmem), hn⟩

theorem lt_of_hexDigit? {c : Char} {n : Nat} (h : hexDigit? c = some n) :
    c.toNat < 128 ∧ n < 16 := by
  have hle : ∀ {a b : Char}, a ≤ b → a.toNat ≤ b.toNat := fun h => UInt32.le_iff_toNat_le.mp h
  unfold hexDigit? at h
  split at h
  · rename_i hdigit
    have hrange := isDigit_iff.mp hdigit
    cases h
    show c.toNat < 128 ∧ c.toNat - 48 < 16
    omega
  · split at h
    · rename_i hlower
      have hlow : 97 ≤ c.toNat := hle hlower.1
      have hhigh : c.toNat ≤ 102 := hle hlower.2
      cases h
      show c.toNat < 128 ∧ c.toNat - 97 + 10 < 16
      omega
    · rw [Option.ite_none_right_eq_some] at h
      obtain ⟨hupper, h⟩ := h
      have hlow : 65 ≤ c.toNat := hle hupper.1
      have hhigh : c.toNat ≤ 70 := hle hupper.2
      cases h
      show c.toNat < 128 ∧ c.toNat - 65 + 10 < 16
      omega

/-- The reader takes the hexadecimal digits for what they are. -/
theorem hexDigit?_eq_some_iff {c : Char} {n : Nat} : hexDigit? c = some n ↔ IsHexDigit c n := by
  have hascii := hexDigit?_ascii c.toNat
  rw [Char.ofNat_toNat] at hascii
  constructor
  · intro h
    obtain ⟨hc, hn⟩ := lt_of_hexDigit? h
    exact (hascii hc n hn).mp h
  · intro h
    obtain ⟨hc, hn⟩ := lt_of_isHexDigit h
    exact (hascii hc n hn).mpr h

theorem hexValue?_eq_some_iff {start n : Nat} {ds : List Char} : hexValue? start ds = some n ↔
    ∃ values, List.Forall₂ IsHexDigit ds values ∧
      values.foldl (fun n d => 16 * n + d) start = n := by
  induction ds generalizing start with
  | nil =>
    rw [hexValue?, Option.some.injEq]
    constructor
    · rintro rfl
      exact ⟨[], .nil, rfl⟩
    · rintro ⟨values, h, hn⟩
      cases h
      exact hn
  | cons c ds ih =>
    rw [hexValue?, Option.bind_eq_some_iff]
    constructor
    · rintro ⟨d, hd, h⟩
      obtain ⟨values, hds, hn⟩ := ih.mp h
      exact ⟨d :: values, .cons (hexDigit?_eq_some_iff.mp hd) hds, hn⟩
    · rintro ⟨values, h, hn⟩
      cases h with
      | cons hd hds => exact ⟨_, hexDigit?_eq_some_iff.mpr hd, ih.mpr ⟨_, hds, hn⟩⟩

theorem charOfCode?_eq_some_iff {n : Nat} {v : Char} : charOfCode? n = some v ↔ v.toNat = n := by
  rw [charOfCode?]
  by_cases hvalid : n.isValidChar
  · rw [dif_pos hvalid, Option.some.injEq]
    constructor
    · rintro rfl
      rfl
    · rintro rfl
      rfl
  · rw [dif_neg hvalid]
    constructor
    · intro h
      cases h
    · rintro rfl
      exact absurd v.valid hvalid

/-- The number of a code names its character. -/
theorem charOfCode?_of_isHexNumber {ds : List Char} {v : Char} :
    (hexValue? 0 ds).bind charOfCode? = some v ↔ IsHexNumber ds v.toNat := by
  rw [Option.bind_eq_some_iff]
  constructor
  · rintro ⟨n, hn, hv⟩
    rw [charOfCode?_eq_some_iff.mp hv]
    exact hexValue?_eq_some_iff.mp hn
  · intro h
    exact ⟨v.toNat, hexValue?_eq_some_iff.mpr h, charOfCode?_eq_some_iff.mpr rfl⟩

/-! ## Escapes -/

theorem escapeValue?_of_ne {ds : List Char} (h : ∀ r, ds ≠ '+' :: r) :
    escapeValue? ds = hexValue? 0 ds := by
  unfold escapeValue?
  split
  · rename_i r
    exact absurd rfl (h r)
  · rfl

/-- No number begins with a plus sign. -/
theorem IsHexNumber.ne_plus {ds : List Char} {n : Nat} (h : IsHexNumber ds n) (r : List Char) :
    ds ≠ '+' :: r := by
  rintro rfl
  obtain ⟨values, hds, -⟩ := h
  cases hds with
  | cons hd _ =>
    have hplus : hexDigit? '+' = none := by decide
    rw [hexDigit?_eq_some_iff.mpr hd] at hplus
    cases hplus

/-- What is read after a backslash is an escape. -/
theorem exists_isEscape_of_readEscape? {r : List Char} {p : Parsed r Char}
    (h : readEscape? r = some p) : ∃ e, IsEscape true e p.value ∧ r = e ++ p.rest := by
  unfold readEscape? at h
  split at h
  case h_7 a b c d r =>
    split at h
    · rename_i v hv
      cases h
      refine ⟨['u', a, b, c, d], ?_, rfl⟩
      by_cases hplus : a = '+'
      · subst hplus
        exact .signedCode rfl rfl (charOfCode?_of_isHexNumber.mp hv)
      · have hne : ∀ r, [a, b, c, d] ≠ '+' :: r := fun r heq => hplus (List.cons.inj heq).1
        rw [escapeValue?_of_ne hne] at hv
        exact .code rfl (charOfCode?_of_isHexNumber.mp hv)
    · cases h
  case h_8 => cases h
  case h_1 =>
    cases h
    exact ⟨_, .newline, rfl⟩
  case h_2 =>
    cases h
    exact ⟨_, .tab, rfl⟩
  case h_3 =>
    cases h
    exact ⟨_, .carriageReturn, rfl⟩
  case h_4 =>
    cases h
    exact ⟨_, .same (.inl rfl), rfl⟩
  case h_5 =>
    cases h
    exact ⟨_, .same (.inr (.inl rfl)), rfl⟩
  case h_6 =>
    cases h
    exact ⟨_, .same (.inr (.inr rfl)), rfl⟩

theorem readEscape?_code {a b c d v : Char} {t : List Char}
    (h : (escapeValue? [a, b, c, d]).bind charOfCode? = some v) :
    ∃ p, readEscape? ('u' :: a :: b :: c :: d :: t) = some p ∧ p.value = v ∧ p.rest = t := by
  refine ⟨(Parsed.single v).after.after.after.after, ?_, rfl, rfl⟩
  simp only [readEscape?, h]

/-- Every escape is read. -/
theorem readEscape?_of_isEscape {signed : Bool} {e : List Char} {v : Char}
    (h : IsEscape signed e v) (t : List Char) :
    ∃ p, readEscape? (e ++ t) = some p ∧ p.value = v ∧ p.rest = t := by
  cases h with
  | newline => exact ⟨_, rfl, rfl, rfl⟩
  | tab => exact ⟨_, rfl, rfl, rfl⟩
  | carriageReturn => exact ⟨_, rfl, rfl, rfl⟩
  | same hc =>
    rcases hc with rfl | rfl | rfl
    · exact ⟨_, rfl, rfl, rfl⟩
    · exact ⟨_, rfl, rfl, rfl⟩
    · exact ⟨_, rfl, rfl, rfl⟩
  | @code ds _ hlength h =>
    obtain ⟨a, b, c, d, rfl⟩ := List.length_eq_four.mp hlength
    refine readEscape?_code ?_
    rw [escapeValue?_of_ne h.ne_plus]
    exact charOfCode?_of_isHexNumber.mpr h
  | @signedCode ds _ hsigned hlength h =>
    obtain ⟨b, c, d, rfl⟩ := List.length_eq_three.mp hlength
    exact readEscape?_code (charOfCode?_of_isHexNumber.mpr h)

/-- No escape begins the text exactly if none is read. -/
theorem readEscape?_eq_none_iff {r : List Char} :
    readEscape? r = none ↔ ∀ e v t, IsEscape true e v → r ≠ e ++ t := by
  constructor
  · rintro hnone e v t he rfl
    obtain ⟨p, hp, -⟩ := readEscape?_of_isEscape he t
    rw [hnone] at hp
    cases hp
  · intro h
    cases hread : readEscape? r with
    | none => rfl
    | some p =>
      obtain ⟨e, he, hr⟩ := exists_isEscape_of_readEscape? hread
      exact absurd hr (h e p.value p.rest he)

/-! ## Strings -/

/-- The backslash is no quote. -/
theorem backslash_ne {quote : Char} (hquote : quote = '\'' ∨ quote = '"') : '\\' ≠ quote := by
  rcases hquote with rfl | rfl
  · decide
  · decide

section Strings

variable {quote : Char} {opening s r t cs : List Char}

theorem result_readString_escape (hquote : '\\' ≠ quote) {e : List Char} {v : Char}
    {signed : Bool} (he : IsEscape signed e v) :
    (readString quote opening ('\\' :: (e ++ t))).result =
      (readString quote opening t).result.map fun x => (v :: x.1, x.2) := by
  obtain ⟨p, hp, hvalue, hrest⟩ := readEscape?_of_isEscape he t
  rw [result_readString_cons, if_neg hquote, if_pos rfl, hp]
  show ((readString quote opening p.rest).result.map fun x => (p.value :: x.1, x.2)) = _
  rw [hvalue, hrest]

/-- The reader takes the items of a string and goes on behind them. -/
theorem Denotes.result_readString {signed : Bool} (hquote : '\\' ≠ quote)
    (h : Denotes signed quote s cs) (t : List Char) :
    (readString quote opening (s ++ t)).result =
      (readString quote opening t).result.map fun x => (cs ++ x.1, x.2) := by
  have hmap : ∀ (c : Char) (cs : List Char) (o : Except Failure (List Char × List Char)),
      (o.map fun x => (cs ++ x.1, x.2)).map (fun x => (c :: x.1, x.2)) =
        o.map fun x => (c :: cs ++ x.1, x.2) := by
    intro c cs o
    cases o <;> rfl
  induction h with
  | nil =>
    rw [List.nil_append]
    cases (readString quote opening t).result <;> rfl
  | plain hc hback _ ih =>
    rw [List.cons_append, result_readString_cons, if_neg hc, if_neg hback, ih, hmap]
  | escape he _ ih =>
    rw [List.cons_append, List.append_assoc, result_readString_escape hquote he, ih, hmap]

/-- Where the reader stops: at the closing quote, at a backslash that begins no escape or at the end
    of the text. -/
inductive Stops (quote : Char) : List Char → Prop where
  | quote {t : List Char} : Stops quote (quote :: t)
  | backslash {r : List Char} (h : ∀ e v t, IsEscape true e v → r ≠ e ++ t) :
      Stops quote ('\\' :: r)
  | atEnd : Stops quote []

/-- Every text is a run of items and something at which the reader stops. -/
theorem exists_denotes_append (quote : Char) :
    ∀ s, ∃ body cs t, s = body ++ t ∧ Denotes true quote body cs ∧ Stops quote t
  | [] => ⟨[], [], [], rfl, .nil, .atEnd⟩
  | c :: r => by
    by_cases hquote : c = quote
    · subst hquote
      exact ⟨[], [], c :: r, rfl, .nil, .quote⟩
    · by_cases hback : c = '\\'
      · subst hback
        cases hread : readEscape? r with
        | none => exact ⟨[], [], _, rfl, .nil, .backslash (readEscape?_eq_none_iff.mp hread)⟩
        | some p =>
          obtain ⟨e, he, hr⟩ := exists_isEscape_of_readEscape? hread
          have hlt := p.shorter
          obtain ⟨body, cs, t, hrest, hbody, ht⟩ := exists_denotes_append quote p.rest
          refine ⟨'\\' :: (e ++ body), _, t, ?_, .escape he hbody, ht⟩
          rw [hr, hrest, List.cons_append, List.append_assoc]
      · obtain ⟨body, cs, t, hr, hbody, ht⟩ := exists_denotes_append quote r
        refine ⟨c :: body, _, t, ?_, .plain hquote hback hbody, ht⟩
        rw [hr, List.cons_append]
termination_by s => s.length

/-- A run of items before the closing quote is read. -/
theorem result_readString_eq_ok_iff (hquote : '\\' ≠ quote) :
    (readString quote opening s).result = .ok (cs, t) ↔
      ∃ body, s = body ++ quote :: t ∧ Denotes true quote body cs := by
  constructor
  · intro h
    obtain ⟨body, ds, u, rfl, hbody, hu⟩ := exists_denotes_append quote s
    rw [hbody.result_readString hquote] at h
    cases hu with
    | quote =>
      rw [result_readString_cons, if_pos rfl] at h
      cases h
      rw [List.append_nil]
      exact ⟨body, rfl, hbody⟩
    | backslash hr =>
      rw [result_readString_cons, if_neg hquote, if_pos rfl, readEscape?_eq_none_iff.mpr hr] at h
      cases h
    | atEnd =>
      rw [readString] at h
      cases h
  · rintro ⟨body, rfl, hbody⟩
    rw [hbody.result_readString hquote, result_readString_cons, if_pos rfl]
    show Except.ok (cs ++ [], t) = _
    rw [List.append_nil]

/-- Without a closing quote the run of items ends at a backslash or at the end of the text. -/
theorem result_readString_eq_error_iff (hquote : '\\' ≠ quote) {f : Failure} :
    (readString quote opening s).result = .error f ↔
      (∃ body cs r, s = body ++ '\\' :: r ∧ Denotes true quote body cs ∧
        (∀ e v t, IsEscape true e v → r ≠ e ++ t) ∧ f = ⟨.invalidEscape, '\\' :: r⟩) ∨
      (∃ cs, Denotes true quote s cs) ∧ f = ⟨.unclosedString, opening⟩ := by
  constructor
  · intro h
    obtain ⟨body, ds, u, rfl, hbody, hu⟩ := exists_denotes_append quote s
    rw [hbody.result_readString hquote] at h
    cases hu with
    | quote =>
      rw [result_readString_cons, if_pos rfl] at h
      cases h
    | @backslash r hr =>
      rw [result_readString_cons, if_neg hquote, if_pos rfl, readEscape?_eq_none_iff.mpr hr] at h
      cases h
      exact .inl ⟨body, ds, r, rfl, hbody, hr, rfl⟩
    | atEnd =>
      rw [readString] at h
      cases h
      rw [List.append_nil]
      exact .inr ⟨⟨ds, hbody⟩, rfl⟩
  · rintro (⟨body, cs, r, rfl, hbody, hr, rfl⟩ | ⟨⟨cs, hbody⟩, rfl⟩)
    · rw [hbody.result_readString hquote, result_readString_cons, if_neg hquote, if_pos rfl,
        readEscape?_eq_none_iff.mpr hr]
      rfl
    · rw [← List.append_nil s, hbody.result_readString hquote, readString]
      rfl

end Strings

/-! ## With and without the sign -/

/-- The text has a `\u` with a plus sign after it somewhere. -/
def HasSignedCode (s : List Char) : Prop :=
  ['\\', 'u', '+'] <:+: s

instance (s : List Char) : Decidable (HasSignedCode s) :=
  inferInstanceAs (Decidable (['\\', 'u', '+'] <:+: s))

section Signs

variable {signed : Bool} {quote v : Char} {e s t cs : List Char}

theorem HasSignedCode.of_append_left (h : HasSignedCode s) (t : List Char) :
    HasSignedCode (s ++ t) :=
  h.trans (List.prefix_append s t).isInfix

theorem HasSignedCode.of_append_right (h : HasSignedCode t) (s : List Char) :
    HasSignedCode (s ++ t) :=
  h.trans (List.suffix_append s t).isInfix

theorem hasSignedCode_of_signedCode (ds t : List Char) :
    HasSignedCode ('\\' :: (('u' :: '+' :: ds) ++ t)) :=
  (List.prefix_append ['\\', 'u', '+'] (ds ++ t)).isInfix

/-- Escapes without a sign are the same for either grammar. -/
theorem IsEscape.change {signed' : Bool} (he : IsEscape signed e v)
    (h : signed' = false → ¬ HasSignedCode ('\\' :: (e ++ t))) : IsEscape signed' e v := by
  cases he with
  | newline => exact .newline
  | tab => exact .tab
  | carriageReturn => exact .carriageReturn
  | same hc => exact .same hc
  | code hlength hds => exact .code hlength hds
  | @signedCode ds _ _ hlength hds =>
    cases signed' with
    | true => exact .signedCode rfl hlength hds
    | false => exact absurd (hasSignedCode_of_signedCode ds t) (h rfl)

theorem Denotes.change {signed' : Bool} (hs : Denotes signed quote s cs)
    (h : signed' = false → ¬ HasSignedCode s) : Denotes signed' quote s cs := by
  induction hs with
  | nil => exact .nil
  | @plain c s cs hquote hback _ ih =>
    exact .plain hquote hback (ih fun hfalse hcode => h hfalse (hcode.of_append_right [c]))
  | @escape e s cs v he _ ih =>
    have hrest : signed' = false → ¬ HasSignedCode s := fun hfalse hcode =>
      h hfalse (hcode.of_append_right ('\\' :: e))
    exact .escape (he.change h) (ih hrest)

theorem denotes_iff (h : signed = false → ¬ HasSignedCode s) :
    Denotes signed quote s cs ↔ Denotes true quote s cs :=
  ⟨fun hs => hs.change nofun, fun hs => hs.change h⟩

theorem forall_isEscape_iff {r : List Char} (h : signed = false → ¬ HasSignedCode ('\\' :: r)) :
    (∀ e v t, IsEscape signed e v → r ≠ e ++ t) ↔ ∀ e v t, IsEscape true e v → r ≠ e ++ t := by
  constructor
  · rintro hnone e v t he rfl
    exact hnone e v t (he.change h) rfl
  · rintro hnone e v t he rfl
    exact hnone e v t (he.change (t := t) nofun) rfl

end Signs

/-- A backslash among items begins an escape. -/
theorem Denotes.exists_isEscape {signed : Bool} {quote : Char} {r cs : List Char}
    (h : Denotes signed quote ('\\' :: r) cs) : ∃ e v t, IsEscape signed e v ∧ r = e ++ t := by
  generalize hs : '\\' :: r = s at h
  cases h with
  | nil => cases hs
  | plain _ hback _ => exact absurd (List.cons.inj hs).1.symm hback
  | escape he _ => exact ⟨_, _, _, he, (List.cons.inj hs).2⟩

/-- The documented escapes have no sign. -/
theorem IsEscape.ne_sign {e : List Char} {v : Char} (h : IsEscape false e v) (r t : List Char) :
    'u' :: '+' :: r ≠ e ++ t := by
  intro heq
  cases h with
  | newline => cases heq
  | tab => cases heq
  | carriageReturn => cases heq
  | same hc =>
    rcases hc with rfl | rfl | rfl
    · cases heq
    · cases heq
    · cases heq
  | @code ds _ hlength h =>
    obtain ⟨a, b, c, d, rfl⟩ := List.length_eq_four.mp hlength
    cases heq
    exact h.ne_plus _ rfl
  | signedCode hsigned => cases hsigned

/-! ## The grammar -/

/-- A string is read exactly as its grammar says: the items up to the closing quote are taken and
    what they stand for is the value; else the reader stops at the first place of an item that holds
    a backslash and no escape, or notes at its opening quote that the string has no end. With signed
    codes this is so for every text, without them for every text that has none. -/
theorem readString_follows_grammar {signed : Bool} {quote : Char} {s : List Char}
    (hquote : quote = '\'' ∨ quote = '"') (hsigned : signed = false → ¬ HasSignedCode s) :
    (∀ cs t, (readString quote (quote :: s) s).result = .ok (cs, t) ↔
      ∃ body, s = body ++ quote :: t ∧ Denotes signed quote body cs) ∧
    ∀ f, (readString quote (quote :: s) s).result = .error f ↔
      (∃ body cs r, s = body ++ '\\' :: r ∧ Denotes signed quote body cs ∧
        (∀ e v t, IsEscape signed e v → r ≠ e ++ t) ∧ f = ⟨.invalidEscape, '\\' :: r⟩) ∨
      (∃ cs, Denotes signed quote s cs) ∧ f = ⟨.unclosedString, quote :: s⟩ := by
  have hback := backslash_ne hquote
  constructor
  · intro cs t
    rw [result_readString_eq_ok_iff hback]
    refine exists_congr fun body => and_congr_right ?_
    rintro rfl
    exact (denotes_iff fun hfalse hcode => hsigned hfalse (hcode.of_append_left _)).symm
  · intro f
    rw [result_readString_eq_error_iff hback]
    refine or_congr ?_ (and_congr_left' (exists_congr fun cs => (denotes_iff hsigned).symm))
    refine exists_congr fun body => exists_congr fun cs => exists_congr fun r =>
      and_congr_right ?_
    rintro rfl
    have hbody : Denotes signed quote body cs ↔ Denotes true quote body cs :=
      denotes_iff fun hfalse hcode => hsigned hfalse (hcode.of_append_left ('\\' :: r))
    have hescape := forall_isEscape_iff fun hfalse hcode =>
      hsigned hfalse (hcode.of_append_right body)
    rw [hbody, hescape]

/-- The documented grammar on the code of the letter A, and on a code that the closing quote cuts
    short. -/
theorem readString_follows_grammar_codes :
    let code := ['\\', 'u', '0', '0', '4', '1', '\'', 'a']
    let cut := ['\\', 'u', '0', '0', '\'', 'a']
    ('\'' = '\'' ∨ '\'' = '"') ∧ ¬ HasSignedCode code ∧ ¬ HasSignedCode cut ∧
    (readString '\'' ('\'' :: code) code).result = .ok (['A'], ['a']) ∧
    (readString '\'' ('\'' :: cut) cut).result = .error ⟨.invalidEscape, cut⟩ := by
  intro code cut
  have hquote : '\'' = '\'' ∨ '\'' = '"' := .inl rfl
  have hcode : ¬ HasSignedCode code := by decide
  have hcut : ¬ HasSignedCode cut := by decide
  have hdigits : List.Forall₂ IsHexDigit ['0', '0', '4', '1'] [0, 0, 4, 1] :=
    .cons (by decide) (.cons (by decide) (.cons (by decide) (.cons (by decide) .nil)))
  have hbody : Denotes false '\'' ['\\', 'u', '0', '0', '4', '1'] ['A'] :=
    .escape (.code rfl ⟨_, hdigits, rfl⟩) .nil
  have hnone : ∀ e v t, IsEscape false e v → cut.tail ≠ e ++ t :=
    (forall_isEscape_iff fun _ => hcut).mpr (readEscape?_eq_none_iff.mp (by decide))
  refine ⟨hquote, hcode, hcut, ?_, ?_⟩
  · exact ((@readString_follows_grammar false _ _ hquote fun _ => hcode).1 _ _).mpr
      ⟨['\\', 'u', '0', '0', '4', '1'], rfl, hbody⟩
  · exact ((@readString_follows_grammar false _ _ hquote fun _ => hcut).2 _).mpr
      (.inl ⟨[], [], cut.tail, rfl, .nil, hnone, rfl⟩)

/-- The documented grammar does not have the code with a plus sign that the reader takes. -/
theorem not_forall_readString_eq_ok_iff :
    ¬ ∀ (quote : Char) (s cs t : List Char), quote = '\'' ∨ quote = '"' →
      ((readString quote (quote :: s) s).result = .ok (cs, t) ↔
        ∃ body, s = body ++ quote :: t ∧ Denotes false quote body cs) := by
  intro h
  have hdigits : List.Forall₂ IsHexDigit ['0', '4', '1'] [0, 4, 1] :=
    .cons (by decide) (.cons (by decide) (.cons (by decide) .nil))
  have hsigned : Denotes true '\'' ['\\', 'u', '+', '0', '4', '1'] ['A'] :=
    .escape (.signedCode rfl rfl ⟨_, hdigits, rfl⟩) .nil
  have hread : (readString '\'' ('\'' :: ['\\', 'u', '+', '0', '4', '1', '\''])
      ['\\', 'u', '+', '0', '4', '1', '\'']).result = .ok (['A'], []) :=
    (result_readString_eq_ok_iff (by decide)).mpr ⟨_, rfl, hsigned⟩
  obtain ⟨body, hbody, hstrict⟩ := (h _ _ _ _ (.inl rfl)).mp hread
  have hplus : body = ['\\', 'u', '+', '0', '4', '1'] := (List.append_cancel_right hbody).symm
  subst hplus
  obtain ⟨e, v, t, he, heq⟩ := hstrict.exists_isEscape
  exact he.ne_sign _ _ heq

end ContentFilter.Expr
