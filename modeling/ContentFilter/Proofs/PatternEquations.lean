import ContentFilter.Regex.Reader

/-!
# Equations of the readers of patterns

The readers of a pattern carry along the fact that they take something off the text. Here each of
them gets an equation over its result alone: what is read and the text after it.
-/

namespace ContentFilter.Regex

open Text

/-- What was read and the text after it. -/
def result {s : List Char} {α : Type} (o : Option (Parsed s α)) : Option (α × List Char) :=
  o.map fun p => (p.value, p.rest)

/-- What was read and how reading goes on, and the text after it. -/
def bodyResult {s : List Char} (o : Option (Body s)) :
    Option ((Pattern × ReadState) × List Char) :=
  o.map fun b => ((b.value, b.state), b.rest)

section Results

variable {r s : List Char} {c : Char} {α : Type}

@[simp] theorem result_some (p : Parsed s α) : result (some p) = some (p.value, p.rest) := rfl

@[simp] theorem result_after (o : Option (Parsed r α)) :
    result (o.map (Parsed.after (c := c))) = result o := by
  cases o <;> rfl

@[simp] theorem result_within (o : Option (Parsed r α)) (h : r.length ≤ s.length) :
    result (o.map fun p => p.within h) = result o := by
  cases o <;> rfl

@[simp] theorem bodyResult_some (b : Body s) :
    bodyResult (some b) = some ((b.value, b.state), b.rest) := rfl

@[simp] theorem bodyResult_widen (o : Option (Body r)) (h : r.length ≤ s.length) :
    bodyResult (o.map fun b => b.widen h) = bodyResult o := by
  cases o <;> rfl

end Results

/-! ## Escapes and sets -/

theorem result_readEscape?_cons (verbose : Bool) (c : Char) (r : List Char) :
    result (readEscape? verbose (c :: r)) =
      match EscapeKind.ofLetter c with
      | .whole p => some (p, r)
      | .code count => (readCode? verbose count r).map fun q => (.literal q.1, q.2)
      | .property negated =>
        (readProperty? verbose r).map fun q => (.property q.1.1 (negated != q.1.2), q.2)
      | .boundary => (readBoundary? verbose r).map fun q => (.assertion q.1, q.2)
      | .unknown => none := by
  rw [readEscape?]
  cases EscapeKind.ofLetter c with
  | whole p => rfl
  | unknown => rfl
  | code count =>
    dsimp only
    split
    · rename_i h
      rw [h]
      rfl
    · rename_i l rest h
      simp only [result_some, h, Option.map_some]
  | property negated =>
    dsimp only
    split
    · rename_i h
      rw [h]
      rfl
    · rename_i q differs rest h
      simp only [result_some, h, Option.map_some]
  | boundary =>
    dsimp only
    split
    · rename_i h
      rw [h]
      rfl
    · rename_i a rest h
      simp only [result_some, h, Option.map_some]

theorem result_readSetAtom?_cons (verbose : Bool) (c : Char) (r : List Char) :
    result (readSetAtom? verbose (c :: r)) =
      if c = '\\' then result (readEscape? verbose r) else some (.literal ⟨c, false⟩, r) := by
  by_cases h : c = '\\'
  · subst h
    rw [if_pos rfl, readSetAtom?, result_after]
  · rw [if_neg h, readSetAtom?]
    · rfl
    · intro hc
      exact h hc

theorem result_readSetItem? (verbose : Bool) (s : List Char) :
    result (readSetItem? verbose s) =
      (result (readSetAtom? verbose s)).bind fun p =>
        match skipIgnored verbose p.2 with
        | [] => none
        | c :: r =>
          if c = '-' ∧ charAfterHyphen? verbose r ≠ some ']' ∧ charAfterHyphen? verbose r ≠ some '-'
          then
            (result (readSetAtom? verbose (skipIgnored verbose r))).bind fun q =>
              (SetExpr.range? p.1 q.1).map fun e => (e, q.2)
          else (SetExpr.ofPattern? p.1).map fun e => (e, c :: r) := by
  unfold readSetItem?
  cases readSetAtom? verbose s with
  | none => rfl
  | some p =>
    simp only [result_some, Option.bind_some]
    split
    · rename_i h
      rw [h]
      rfl
    · rename_i c r h
      simp only [h]
      split
      · rename_i hyphen
        cases readSetAtom? verbose (skipIgnored verbose r) with
        | none => rfl
        | some q =>
          simp only [result_some, Option.bind_some]
          cases SetExpr.range? p.value q.value <;> rfl
      · rename_i hyphen
        cases SetExpr.ofPattern? p.value <;> rfl

theorem result_readSet? (verbose : Bool) (pending : Option (SetOperator × SetExpr))
    (items : List SetExpr) (s : List Char) :
    result (readSet? verbose pending items s) =
      match skipIgnored verbose s with
      | [] => none
      | c :: r =>
        if c = ']' then some (SetExpr.close pending (.join items), r)
        else if c = '[' then
          match readPosix? r with
          | some p => result (readSet? verbose pending (items ++ [p.1]) p.2)
          | none =>
            (result (readSet? verbose none (openSet verbose r).items (openSet verbose r).rest)).bind
              fun p => result (readSet? verbose pending
                (items ++ [.bracket (openSet verbose r).negated p.1]) p.2)
        else
          match takeSetOperator? (c :: r) with
          | some p => result (readSet? verbose (some (p.1, SetExpr.close pending (.join items))) []
              p.2)
          | none =>
            (result (readSetItem? verbose (c :: r))).bind fun p =>
              result (readSet? verbose pending (items ++ [p.1]) p.2) := by
  rw [readSet?]
  split
  · rename_i h
    rw [h]
    rfl
  · rename_i c r h
    simp only [h]
    split
    · rfl
    · split
      · split
        · rename_i hp
          rw [result_within, hp]
        · rename_i hp
          rw [hp]
          simp only
          split
          · rename_i hinner
            rw [hinner]
            rfl
          · rename_i p hinner
            rw [hinner, result_within]
            rfl
      · split
        · rename_i ho
          rw [result_within, ho]
        · rename_i ho
          rw [ho]
          simp only
          split
          · rename_i hitem
            rw [hitem]
            rfl
          · rename_i p hitem
            rw [hitem, result_within]
            rfl

theorem result_readBracket? (verbose : Bool) (s : List Char) :
    result (readBracket? verbose s) =
      (result (readSet? verbose none (openSet verbose s).items (openSet verbose s).rest)).map
        fun p => (.bracket (openSet verbose s).negated p.1, p.2) := by
  unfold readBracket?
  simp only
  cases readSet? verbose none (openSet verbose s).items (openSet verbose s).rest <;> rfl

/-! ## Patterns -/

theorem result_readCount?_cons (verbose : Bool) (c : Char) (r : List Char) :
    result (readCount? verbose (c :: r)) =
      if c = '?' then some (⟨.upTo 1, (takeLazyMark r).1⟩, (takeLazyMark r).2)
      else if c = '*' then some (⟨.atLeast 0, (takeLazyMark r).1⟩, (takeLazyMark r).2)
      else if c = '+' then some (⟨.atLeast 1, (takeLazyMark r).1⟩, (takeLazyMark r).2)
      else if c = '{' then
        (takeBraced? verbose false r).bind fun p =>
          (bounds? p.1).map fun b => (⟨b, (takeLazyMark (skipIgnored verbose p.2)).1⟩,
            (takeLazyMark (skipIgnored verbose p.2)).2)
      else none := by
  rw [readCount?]
  simp only
  split
  · rfl
  · split
    · rfl
    · split
      · rfl
      · split
        · split
          · rename_i h
            rw [h]
            rfl
          · rename_i inside rest h
            simp only [h, Option.bind_some]
            cases bounds? inside <;> rfl
        · rfl

theorem result_readPart?_cons (verbose : Bool) (c : Char) (r : List Char) :
    result (readPart? verbose (c :: r)) =
      if c = '\\' then result (readEscape? verbose r)
      else if c = '[' then result (readBracket? verbose r)
      else some (.ofChar c, r) := by
  rw [readPart?]
  split
  · exact result_after _
  · split
    · exact result_after _
    · rfl

/-- What comes of a body after the beginning of a group in it. -/
def bodyAfterHead (st : ReadState) (branches parts : List Pattern) (head : GroupHead)
    (inside : List Char) : Option ((Pattern × ReadState) × List Char) :=
  match head with
  | .flags settings =>
    bodyResult (readBody? (st.applying settings) branches (.flags settings :: parts) inside)
  | head =>
    (st.entering? head).bind fun inner =>
      (bodyResult (readBody? inner [] [] inside)).bind fun b =>
        match b.2 with
        | [] => none
        | _ :: after =>
          bodyResult (readBody? { verbose := st.verbose, names := b.1.2.names } branches
            (head.close b.1.1 :: parts) after)

/-- What comes of a body after one of its parts. -/
theorem bodyResult_readBody? (st : ReadState) (branches parts : List Pattern) (s : List Char) :
    bodyResult (readBody? st branches parts s) =
      match skipIgnored st.verbose s with
      | [] => some ((joinBranches branches parts, st), [])
      | c :: r =>
        if c = ')' then some ((joinBranches branches parts, st), c :: r)
        else if c = '|' then bodyResult (readBody? st (.sequence parts.reverse :: branches) [] r)
        else if c = '(' then
          (readGroupHead? (skipIgnored st.verbose r)).bind fun p =>
            bodyAfterHead st branches parts p.1 p.2
        else if isCountMark c then
          match parts with
          | [] => none
          | part :: before =>
            if part.isRepeatable then
              (result (readCount? st.verbose (c :: r))).bind fun p =>
                bodyResult (readBody? st branches (.repetition part p.1 :: before) p.2)
            else none
        else
          (result (readPart? st.verbose (c :: r))).bind fun p =>
            bodyResult (readBody? st branches (p.1 :: parts) p.2) := by
  rw [readBody?]
  split
  · rename_i h
    rw [h]
    rfl
  · rename_i c r h
    simp only [h]
    split
    · rfl
    · split
      · exact bodyResult_widen _ _
      · split
        · split
          · rename_i hg
            rw [hg]
            rfl
          · rename_i head inside hg
            have hhead : ∀ f : GroupHead × List Char → Option ((Pattern × ReadState) × List Char),
                (readGroupHead? (skipIgnored st.verbose r)).bind f = f (head, inside) := by
              intro f
              rw [hg]
              rfl
            rw [hhead]
            cases head with
            | flags settings => exact bodyResult_widen _ _
            | plain | capturing =>
              simp only [bodyAfterHead]
              cases st.entering? _ with
              | none => rfl
              | some inner =>
                simp only [Option.bind_some]
                cases readBody? inner [] [] inside with
                | none => rfl
                | some body =>
                  simp only [bodyResult_some, Option.bind_some]
                  split
                  · rename_i hb
                    rw [hb]
                    rfl
                  · rename_i hb
                    rw [bodyResult_widen]
                    simp only [hb]
        · split
          · cases parts with
            | nil => rfl
            | cons part before =>
              by_cases hrepeatable : part.isRepeatable = true
              · simp only [if_pos hrepeatable]
                cases readCount? st.verbose (c :: r) with
                | none => rfl
                | some p => exact bodyResult_widen _ _
              · simp only [if_neg hrepeatable]
                rfl
          · cases readPart? st.verbose (c :: r) with
            | none => rfl
            | some p => exact bodyResult_widen _ _

end ContentFilter.Regex
