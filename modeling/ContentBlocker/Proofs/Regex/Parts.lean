import ContentBlocker.Regex.Pattern

/-!
# Reading patterns part by part

A pattern that is a row of plain pieces, none of which reaches into the next, is read as the row of
their parts.  `IsPiece` says that a text is such a piece, and `check_pieces` that a pattern of them
is accepted.
-/

namespace ContentBlocker.Regex

variable {α β : Type} {st : State} {c : Char} {rest : List Char}

/-! ## Running readers -/

theorem bind_of_ok {x : Reader α} {f : α → Reader β} {a : α} {after : State}
    (ok : x st = .ok (a, after)) : (x >>= f) st = f a after := by
  change Except.bind (x st) (fun p => f p.1 p.2) = _
  rw [ok]
  rfl

theorem advance_of_whole (whole : afterToken st.rest ≠ ['\\']) :
    advance st = .ok ((), { st with rest := afterToken st.rest }) := by
  change moveTo (afterToken st.rest) st = _
  rw [moveTo, if_neg whole]

theorem token?_plain (plain : c ≠ '\\') (rest : List Char) :
    token? (c :: rest) = some (.plain c) := by
  unfold token?
  split <;> simp_all

theorem afterToken_plain (plain : c ≠ '\\') (rest : List Char) :
    afterToken (c :: rest) = rest := by
  unfold afterToken
  split <;> simp_all

/-- A character that does not come next is not accepted. -/
theorem accept_of_ne (other : st.rest.head? ≠ some c) : accept c st = .ok (false, st) := by
  have next : token? st.rest ≠ some (.plain c) := by
    unfold token?
    split
    · simp
    · simp
    · rename_i rest
      intro same
      rw [rest] at other
      simp_all
  have peeked : peek st = .ok (token? st.rest, st) := rfl
  rw [accept, bind_of_ok peeked, if_neg next]
  rfl

theorem take?_plain (plain : c ≠ '\\') (whole : rest ≠ ['\\']) :
    take? { st with rest := c :: rest } = .ok (some (.plain c), { st with rest }) := by
  have peeked : peek { st with rest := c :: rest } =
      .ok (some (.plain c), { st with rest := c :: rest }) := by
    rw [peek, token?_plain plain]
  have after := afterToken_plain plain rest
  have advanced : advance { st with rest := c :: rest } = .ok ((), { st with rest }) := by
    rw [advance_of_whole (by rwa [after]), after]
  rw [take?, bind_of_ok peeked, bind_of_ok advanced]
  rfl

/-! ## Sets -/

/-- A character in a set that is no bracket, and with no hyphen behind it, is one member. -/
theorem setLoop_plain {d : Char} (start : List Char) (fuel : Nat) (isFirst : Bool)
    (plain : c ≠ '\\' ∧ c ≠ ']') (next : d ≠ '\\' ∧ d ≠ '-') :
    setLoop start (fuel + 1) isFirst { st with rest := c :: d :: rest } =
      setLoop start fuel false { st with rest := d :: rest } := by
  have whole : d :: rest ≠ ['\\'] := fun same => next.1 (List.cons.inj same).1
  have refused : accept '-' { st with rest := d :: rest } =
      .ok (false, { st with rest := d :: rest }) := accept_of_ne (by simpa using next.2)
  have inside : ¬ ((Token.plain c = .plain ']' && !isFirst) = true) := by simp [plain.2]
  rw [setLoop, bind_of_ok (a := c :: d :: rest) rfl, bind_of_ok (take?_plain plain.1 whole)]
  dsimp only
  rw [if_neg inside, bind_of_ok (a := .code c.toNat) rfl, bind_of_ok refused]
  rfl

theorem setLoop_close (start : List Char) (fuel : Nat) (whole : rest ≠ ['\\']) :
    setLoop start (fuel + 1) false { st with rest := ']' :: rest } =
      .ok ((), { st with rest }) := by
  rw [setLoop, bind_of_ok (a := ']' :: rest) rfl, bind_of_ok (take?_plain (by decide) whole)]
  rfl

/-! ## Pieces -/

/-- Nothing of the text belongs to a repetition before it. -/
structure Fresh (text : List Char) : Prop where
  whole : text ≠ ['\\']
  notLazy : text.head? ≠ some '?'
  notPossessive : text.head? ≠ some '+'

theorem fresh_nil : Fresh [] := ⟨by simp, by simp, by simp⟩

theorem fresh_cons (other : c ≠ '\\' ∧ c ≠ '?' ∧ c ≠ '+') (rest : List Char) :
    Fresh (c :: rest) :=
  ⟨fun same => other.1 (List.cons.inj same).1, by simpa using other.2.1, by simpa using other.2.2⟩

/-- A text is read as a part of a branch where no blanks are skipped, whatever stands behind it and
starts afresh. -/
structure IsPiece (text : List Char) (node : Node) : Prop where
  fresh : ∀ rest, Fresh (text ++ rest)
  reads : ∀ (bodies : Bodies) (isFirst : Bool) (fuel : Nat) (parts : List Node) (st : State)
    (rest : List Char), Fresh rest → ∃ left, fuel ≤ left ∧
      partLoop bodies isFirst (fuel + text.length) ⟨parts, false⟩ { st with rest := text ++ rest } =
        partLoop bodies isFirst left ⟨node :: parts, false⟩ { st with rest }

section Steps

variable {bodies : Bodies} {isFirst : Bool} {t : Token} {p q : Progress} {text : List Char}

/-- The loop takes a part that begins with a token. -/
theorem partLoop_of_part {after : State} (fuel : Nat) (next : token? text = some t)
    (inside : t ≠ .plain '|' ∧ t ≠ .plain ')') (whole : afterToken text ≠ ['\\'])
    (read : part bodies isFirst text t p { st with rest := afterToken text } = .ok (q, after)) :
    partLoop bodies isFirst (fuel + 1) p { st with rest := text } =
      partLoop bodies isFirst fuel q after := by
  have other : ¬ ((decide (t = .plain '|') || decide (t = .plain ')')) = true) := by simp [inside]
  rw [partLoop, bind_of_ok (a := text) rfl, next]
  dsimp only
  rw [if_neg other, bind_of_ok (advance_of_whole whole), bind_of_ok read]

/-- The loop takes a part that begins with a character. -/
theorem partLoop_of_plain {after : State} (fuel : Nat) (plain : c ≠ '\\' ∧ c ≠ '|' ∧ c ≠ ')')
    (whole : rest ≠ ['\\'])
    (read : part bodies isFirst (c :: rest) (.plain c) p { st with rest } = .ok (q, after)) :
    partLoop bodies isFirst (fuel + 1) p { st with rest := c :: rest } =
      partLoop bodies isFirst fuel q after := by
  have behind := afterToken_plain plain.1 rest
  refine partLoop_of_part fuel (token?_plain plain.1 rest) ?_ (by rwa [behind]) (by rwa [behind])
  simpa using plain.2

/-- Characters that mean something by themselves, outside sets. -/
def isActive (c : Char) : Bool :=
  ['\\', '[', '(', ')', '|', '*', '+', '?', '\x7b', '^', '$'].contains c

theorem part_plain (plain : isActive c = false) (start : List Char) (parts : List Node) :
    part bodies isFirst start (.plain c) ⟨parts, false⟩ st =
      .ok (⟨.unit :: parts, false⟩, st) := by
  simp only [isActive, List.contains_cons, List.contains_nil, Bool.or_false, Bool.or_eq_false_iff,
    beq_eq_false_iff_ne] at plain
  simp [part, isRepetition, plain]
  rfl

theorem part_anchor (anchor : c = '^' ∨ c = '$') (start : List Char) (parts : List Node) :
    part bodies isFirst start (.plain c) ⟨parts, false⟩ st =
      .ok (⟨.anchor :: parts, false⟩, st) := by
  rcases anchor with rfl | rfl <;> rfl

/-- A backslash takes the meaning from a character that is no letter and no digit. -/
theorem part_escaped (mark : c.isAlphanum = false) (start : List Char) (parts : List Node) :
    part bodies isFirst start (.escaped c) ⟨parts, false⟩ st =
      .ok (⟨.unit :: parts, false⟩, st) := by
  have ne {d : Char} (letter : d.isAlphanum = true) : ¬ c = d := by
    rintro rfl
    exact absurd letter (by simp [mark])
  have parts : c.isDigit = false ∧ c.isAlpha = false := by
    simpa [Char.isAlphanum, and_comm] using mark
  have position : isPosition c = false := by
    simp [isPosition, ne (d := 'A') rfl, ne (d := 'b') rfl, ne (d := 'B') rfl, ne (d := 'Z') rfl]
  have escaped : escape start c st = .ok (.unit, st) := by
    rw [escape, if_neg (by simp [position])]
    by_cases unit : (isCategory c || (controlCode? c).isSome) = true
    · rw [if_pos unit]
      rfl
    · rw [if_neg unit, if_neg (ne rfl), if_neg (ne rfl), if_neg (ne rfl), if_neg (ne rfl),
        if_neg (ne rfl), if_neg (by simp [parts.1]), if_neg (by simp [parts.2])]
      rfl
  rw [part, bind_of_ok escaped]
  rfl

/-- A star behind a character repeats it. -/
theorem part_star (fresh : Fresh st.rest) (start : List Char) (parts : List Node) :
    part bodies isFirst start (.plain '*') ⟨.unit :: parts, false⟩ st =
      .ok (⟨.repeated .greedy 0 none .unit :: parts, false⟩, st) := by
  have greedy : greed st = .ok (.greedy, st) := by
    rw [greed, bind_of_ok (accept_of_ne fresh.notLazy), if_neg (by simp),
      bind_of_ok (accept_of_ne fresh.notPossessive), if_neg (by simp)]
    rfl
  have repeated : repeatLast start (0, none) (.unit :: parts) st =
      .ok (.repeated .greedy 0 none .unit :: parts, st) := by
    rw [repeatLast, bind_of_ok greedy]
    · rfl
    · simp
    · simp
  have counted : counts? '*' st = .ok (some (0, none), st) := rfl
  change (counts? '*' >>= _) st = _
  rw [bind_of_ok counted]
  change (repeatLast start (0, none) (.unit :: parts) >>= _) st = _
  rw [bind_of_ok repeated]
  rfl

end Steps

/-- A character without a meaning of its own is a piece. -/
theorem isPiece_plain (plain : isActive c = false) : IsPiece [c] .unit := by
  have other {d : Char} (active : isActive d = true) : c ≠ d := by
    rintro rfl
    exact absurd active (by simp [plain])
  refine ⟨fresh_cons ⟨other rfl, other rfl, other rfl⟩, ?_⟩
  intro bodies isFirst fuel parts st rest fresh
  exact ⟨fuel, Nat.le_refl _, partLoop_of_plain fuel ⟨other rfl, other rfl, other rfl⟩ fresh.whole
    (part_plain plain ..)⟩

theorem isPiece_anchor (anchor : c = '^' ∨ c = '$') : IsPiece [c] .anchor := by
  have plain : c ≠ '\\' ∧ c ≠ '|' ∧ c ≠ ')' := by
    rcases anchor with rfl | rfl <;> decide
  refine ⟨fresh_cons (by rcases anchor with rfl | rfl <;> decide), ?_⟩
  intro bodies isFirst fuel parts st rest fresh
  exact ⟨fuel, Nat.le_refl _, partLoop_of_plain fuel plain fresh.whole (part_anchor anchor ..)⟩

theorem isPiece_escaped (mark : c.isAlphanum = false) : IsPiece ['\\', c] .unit := by
  refine ⟨fun rest => ⟨by simp, by simp, by simp⟩, ?_⟩
  intro bodies isFirst fuel parts st rest fresh
  exact ⟨fuel + 1, Nat.le_succ _, partLoop_of_part (fuel + 1) (t := .escaped c) rfl (by simp)
    fresh.whole (part_escaped mark ..)⟩

/-- A dot with a star is a piece: what follows makes the star neither lazy nor possessive. -/
theorem isPiece_star : IsPiece ['.', '*'] (.repeated .greedy 0 none .unit) := by
  refine ⟨fun rest => fresh_cons (by decide) _, ?_⟩
  intro bodies isFirst fuel parts st rest fresh
  have dot : partLoop bodies isFirst (fuel + 2) ⟨parts, false⟩
      { st with rest := '.' :: '*' :: rest } =
        partLoop bodies isFirst (fuel + 1) ⟨.unit :: parts, false⟩
          { st with rest := '*' :: rest } :=
    partLoop_of_plain (fuel + 1) (by decide) (by simp) (part_plain rfl ..)
  have star : partLoop bodies isFirst (fuel + 1) ⟨.unit :: parts, false⟩
      { st with rest := '*' :: rest } =
        partLoop bodies isFirst fuel ⟨.repeated .greedy 0 none .unit :: parts, false⟩
          { st with rest } :=
    partLoop_of_plain fuel (by decide) fresh.whole (part_star fresh ..)
  exact ⟨fuel, Nat.le_refl _, dot.trans star⟩

/-- The set of the characters that separate. -/
theorem isPiece_separators : IsPiece ['[', '/', ':', '?', ']'] .unit := by
  refine ⟨fun rest => fresh_cons (by decide) _, ?_⟩
  intro bodies isFirst fuel parts st rest fresh
  let text := ['[', '/', ':', '?', ']'] ++ rest
  have members : setLoop text (text.length + 1) true
      { st with rest := ['/', ':', '?', ']'] ++ rest } = .ok ((), { st with rest }) := by
    have enough : text.length + 1 = rest.length + 6 := by simp [text]
    rw [enough]
    refine (setLoop_plain text (rest.length + 5) true (by decide) (by decide)).trans ?_
    refine (setLoop_plain text (rest.length + 4) false (by decide) (by decide)).trans ?_
    refine (setLoop_plain text (rest.length + 3) false (by decide) (by decide)).trans ?_
    exact setLoop_close text (rest.length + 2) fresh.whole
  have set : characterSet text { st with rest := ['/', ':', '?', ']'] ++ rest } =
      .ok (.unit, { st with rest }) := by
    rw [characterSet, bind_of_ok (accept_of_ne (by simp)), bind_of_ok members]
    rfl
  have read : part bodies isFirst text (.plain '[') ⟨parts, false⟩
      { st with rest := ['/', ':', '?', ']'] ++ rest } =
        .ok (⟨.unit :: parts, false⟩, { st with rest }) := by
    change (characterSet text >>= _) _ = _
    rw [bind_of_ok set]
    rfl
  exact ⟨fuel + 4, Nat.le_add_right _ _,
    partLoop_of_plain (fuel + 4) (by decide) (by simp) read⟩

/-! ## Rows of pieces -/

theorem review_ofList {template : Bool} {nodes : List Node}
    (all : ∀ n ∈ nodes, n.review template = none) : (Node.ofList nodes).review template = none := by
  induction nodes with
  | nil => rfl
  | cons n nodes ih =>
    obtain ⟨first, all⟩ := List.forall_mem_cons.1 all
    change (n.review template).or ((Node.ofList nodes).review template) = none
    rw [first, ih all]
    rfl

theorem looksBehind_ofList {bound : Nat} {nodes : List Node}
    (all : ∀ n ∈ nodes, n.looksBehind bound = false) :
    (Node.ofList nodes).looksBehind bound = false := by
  induction nodes with
  | nil => rfl
  | cons n nodes ih =>
    obtain ⟨first, all⟩ := List.forall_mem_cons.1 all
    change (n.looksBehind bound || (Node.ofList nodes).looksBehind bound) = false
    rw [first, ih all]
    rfl

/-- At the end of a pattern without flags and groups only the matcher is asked. -/
theorem finish_of_runs {node : Node} (review : node.review false = none)
    (behind : node.looksBehind runnableBound = false) :
    finish node ⟨[], [], [], [], none, []⟩ = .ok (node, ⟨[], [], [], [], none, []⟩) := by
  have got : (get : Reader State) ⟨[], [], [], [], none, []⟩ =
      .ok (⟨[], [], [], [], none, []⟩, ⟨[], [], [], [], none, []⟩) := rfl
  rw [finish, bind_of_ok got]
  simp only [List.contains_nil, Bool.false_and, Bool.false_eq_true, if_false, List.isEmpty_nil,
    Bool.not_true, List.find?_nil, review, behind]
  rfl

section Rows

variable {pieces : List (List Char × Node)}

theorem fresh_pieces (all : ∀ p ∈ pieces, IsPiece p.1 p.2) : Fresh (pieces.flatMap (·.1)) := by
  cases pieces with
  | nil => exact fresh_nil
  | cons p pieces => exact (all p List.mem_cons_self).fresh _

/-- A row of pieces is read as the row of their parts. -/
theorem partLoop_pieces (all : ∀ p ∈ pieces, IsPiece p.1 p.2) (bodies : Bodies) (isFirst : Bool)
    (fuel : Nat) (parts : List Node) (st : State) :
    partLoop bodies isFirst (fuel + (pieces.flatMap (·.1)).length) ⟨parts, false⟩
        { st with rest := pieces.flatMap (·.1) } =
      .ok (⟨(pieces.map (·.2)).reverse ++ parts, false⟩, { st with rest := [] }) := by
  induction pieces generalizing fuel parts with
  | nil => cases fuel <;> rfl
  | cons p pieces ih =>
    obtain ⟨piece, all⟩ := List.forall_mem_cons.1 all
    let later := pieces.flatMap (·.1)
    obtain ⟨left, enough, step⟩ :=
      piece.reads bodies isFirst (fuel + later.length) parts st later (fresh_pieces all)
    obtain ⟨more, rfl⟩ := Nat.exists_eq_add_of_le enough
    have rest := ih all (fuel + more) (p.2 :: parts)
    have text : (p :: pieces).flatMap (·.1) = p.1 ++ later := List.flatMap_cons ..
    have budget : fuel + (p.1 ++ later).length = fuel + later.length + p.1.length := by
      rw [List.length_append]
      omega
    rw [text, budget, step, Nat.add_right_comm, rest]
    simp

/-- A pattern of pieces is accepted, as the row of their parts, if the matcher can run them. -/
theorem check_pieces (all : ∀ p ∈ pieces, IsPiece p.1 p.2)
    (runs : ∀ p ∈ pieces, p.2.review false = none ∧ p.2.looksBehind runnableBound = false) :
    check (pieces.flatMap (·.1)) = .ok (.ofList (pieces.map (·.2))) := by
  let text := pieces.flatMap (·.1)
  let node := Node.ofList (pieces.map (·.2))
  let st : State := ⟨text, [], [], [], none, []⟩
  let bodies := bodiesWithin (text.length + 1)
  have moved : moveTo text st = .ok ((), st) := by
    rw [moveTo, if_neg (fresh_pieces all).whole]
  have branch : branchWith bodies true false st = .ok (node, { st with rest := [] }) := by
    have row := partLoop_pieces all bodies true 1 [] st
    rw [Nat.add_comm] at row
    rw [branchWith, bind_of_ok (a := text) rfl, bind_of_ok row]
    simp [node]
    rfl
  have top : topLevel bodies st = .ok (node, { st with rest := [] }) := by
    rw [topLevel, bind_of_ok branch]
    rfl
  have finished : finish node { st with rest := [] } = .ok (node, { st with rest := [] }) := by
    refine finish_of_runs (review_ofList fun n mem => ?_) (looksBehind_ofList fun n mem => ?_)
    · obtain ⟨p, here, rfl⟩ := List.mem_map.1 mem
      exact (runs p here).1
    · obtain ⟨p, here, rfl⟩ := List.mem_map.1 mem
      exact (runs p here).2
  have whole : pattern (text.length + 1) st = .ok (node, { st with rest := [] }) := by
    rw [pattern, bind_of_ok (a := text) rfl, bind_of_ok moved, bind_of_ok top, finished]
  change Except.map _ (pattern (text.length + 1) st) = _
  rw [whole]
  rfl

end Rows

end ContentBlocker.Regex
