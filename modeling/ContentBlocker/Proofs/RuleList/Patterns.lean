import ContentBlocker.Proofs.Regex.Plain
import ContentBlocker.RuleList.UrlFilter

/-!
# Patterns of filters

The pattern of a filter is plain, and it is read as the tokens of the filter: `reads_pattern`.  So
it is accepted, whatever the filter is, and its parts are what the tokens stand for:
`check_pattern`.
-/

namespace ContentBlocker.RuleList.UrlFilter

open Regex

/-! ## Characters -/

/-- A special character is no letter and no digit. -/
theorem isAlphanum_of_special {p : CodePoint} (special : p ∈ specials) :
    p.char.isAlphanum = false := by
  have all : specials.all (fun p => !p.char.isAlphanum) = true := by decide
  simpa using List.all_eq_true.1 all p special

/-- A character that is not special, no star and no caret is no operator of patterns. -/
theorem not_mem_operators {p : CodePoint} (special : p ∉ specials)
    (star : p ≠ CodePoint.ofChar '*') (caret : p ≠ CodePoint.ofChar '^') : p ∉ operators := by
  intro operator
  have all : operators.all (fun p => specials.contains p || p = CodePoint.ofChar '*' ||
      p = CodePoint.ofChar '^') = true := by
    decide
  have meant := List.all_eq_true.1 all p operator
  simp only [Bool.or_eq_true, decide_eq_true_eq, List.contains_iff_mem] at meant
  obtain (listed | same) | same := meant
  · exact special listed
  · exact star same
  · exact caret same

/-! ## Tokens -/

namespace Token

/-- What a token is read as. -/
def part : Token → Part
  | anyText => .star .dot
  | separator => .oneOf "/:?"
  | start => .start
  | stop => .stop
  | char p => .char p

theorem part_injective : Function.Injective part := by
  intro t u same
  cases t <;> cases u <;> simp_all [part]

theorem map_part_inj {ts us : List Token} : ts.map part = us.map part ↔ ts = us :=
  List.map_inj_right fun _ _ same => part_injective same

/-- The part of a pattern that a token stands for. -/
def node : Token → Node
  | anyText => .repeated .greedy 0 none .unit
  | separator => .unit
  | start => .anchor
  | stop => .anchor
  | char _ => .unit

theorem node_part (t : Token) : t.part.node = t.node := by
  cases t <;> rfl

/-- The token is one that a filter can have: a star or a caret has a meaning. -/
def IsFiltered : Token → Prop
  | char p => p ≠ CodePoint.ofChar '*' ∧ p ≠ CodePoint.ofChar '^'
  | _ => True

theorem writes {t : Token} (filtered : t.IsFiltered) : Writes t.pattern t.part := by
  cases t with
  | anyText => exact .run
  | separator => exact .separators
  | start => exact .start
  | stop => exact .stop
  | char p =>
    by_cases special : specials.contains p
    · have text : (char p).pattern = [CodePoint.ofChar '\\', p] := if_pos special
      rw [text]
      exact .escaped (isAlphanum_of_special (List.contains_iff_mem.1 special))
    · have text : (char p).pattern = [p] := if_neg special
      rw [text]
      exact .plain (not_mem_operators (mt List.contains_iff_mem.2 special) filtered.1 filtered.2)

end Token

/-- The bars that can stand before a filter, with what they stand for. -/
def openings : List (Text × List Token) := [("||", [.anyText]), ("|", [.start]), ([], [])]

/-- The bar that can stand behind a filter, with what it stands for. -/
def closings : List (Text × List Token) := [("|", [.stop]), ([], [])]

theorem eq_append_of_behind? {stem s rest : Text} (found : Text.behind? stem s = some rest) :
    s = stem ++ rest := by
  induction stem generalizing s with
  | nil => exact Option.some.inj found
  | cons p stem ih =>
    cases s with
    | nil => cases found
    | cons q s =>
      unfold Text.behind? at found
      split at found
      · rename_i same
        rw [same, ih found, List.cons_append]
      · cases found

theorem exists_splitStart_eq (s : Text) :
    ∃ o ∈ openings, ∃ rest, s = o.1 ++ rest ∧ splitStart s = (o.2, rest) := by
  unfold splitStart
  split
  · rename_i rest found
    exact ⟨("||", [.anyText]), by simp [openings], rest, eq_append_of_behind? found, rfl⟩
  · rename_i rest _ found
    exact ⟨("|", [.start]), by simp [openings], rest, eq_append_of_behind? found, rfl⟩
  · exact ⟨([], []), by simp [openings], s, rfl, rfl⟩

theorem exists_splitStop_eq (s : Text) :
    ∃ c ∈ closings, ∃ middle, s = middle ++ c.1 ∧ splitStop s = (middle, c.2) := by
  unfold splitStop
  split
  · rename_i bar
    obtain ⟨middle, rfl⟩ := List.getLast?_eq_some_iff.1 bar
    exact ⟨("|", [.stop]), by simp [closings], middle, rfl, by rw [List.dropLast_concat]⟩
  · exact ⟨([], []), by simp [closings], s, (List.append_nil s).symm, rfl⟩

/-- The tokens of a filter are those of its bars and, between them, one for each character. -/
theorem exists_tokens_eq (filter : Text) :
    ∃ o ∈ openings, ∃ c ∈ closings, ∃ middle, filter = o.1 ++ middle ++ c.1 ∧
      tokens filter = o.2 ++ middle.map tokenOf ++ c.2 := by
  obtain ⟨o, opening, rest, whole, first⟩ := exists_splitStart_eq filter
  obtain ⟨c, closing, middle, rfl, last⟩ := exists_splitStop_eq rest
  refine ⟨o, opening, c, closing, middle, by rw [whole, List.append_assoc], ?_⟩
  unfold tokens
  rw [first]
  dsimp only
  rw [last]

theorem isFiltered_tokenOf (p : CodePoint) : (tokenOf p).IsFiltered := by
  unfold tokenOf
  split
  · trivial
  · split
    · trivial
    · exact ⟨by assumption, by assumption⟩

/-- What bars stand for is no character. -/
theorem not_char_of_bars {bars : Text × List Token} (known : bars ∈ openings ∨ bars ∈ closings)
    {t : Token} (mem : t ∈ bars.2) (p : CodePoint) : t ≠ .char p := by
  rintro rfl
  simp only [openings, closings, List.mem_cons, List.not_mem_nil, or_false] at known
  rcases known with (rfl | rfl | rfl) | rfl | rfl <;> simp at mem

theorem Token.IsFiltered.of_not_char {t : Token} (other : ∀ p, t ≠ .char p) : t.IsFiltered := by
  cases t with
  | char p => exact absurd rfl (other p)
  | anyText | separator | start | stop => trivial

theorem isFiltered_tokens {filter : Text} {t : Token} (mem : t ∈ tokens filter) :
    t.IsFiltered := by
  obtain ⟨o, opening, c, closing, middle, -, made⟩ := exists_tokens_eq filter
  rw [made, List.mem_append, List.mem_append, List.mem_map] at mem
  rcases mem with (first | ⟨p, -, rfl⟩) | last
  · exact .of_not_char (not_char_of_bars (.inl opening) first)
  · exact isFiltered_tokenOf p
  · exact .of_not_char (not_char_of_bars (.inr closing) last)

/-! ## Patterns -/

/-- Tokens that filters can have are read back from what they are written as. -/
theorem reads_flatMap {ts : List Token} (filtered : ∀ t ∈ ts, t.IsFiltered) :
    Reads (ts.flatMap Token.pattern) (ts.map Token.part) := by
  induction ts with
  | nil => exact .done
  | cons t ts ih =>
    obtain ⟨here, later⟩ := List.forall_mem_cons.1 filtered
    exact .next (Token.writes here) (ih later)

/-- The pattern of a filter is read as the filter's tokens. -/
theorem reads_pattern (filter : Text) : Reads (pattern filter) ((tokens filter).map Token.part) :=
  reads_flatMap fun _ mem => isFiltered_tokens mem

/-- The pattern of every filter is accepted, and its parts are those of the filter's tokens. -/
theorem check_pattern (filter : Text) :
    check ((pattern filter).map CodePoint.char) =
      .ok (.ofList ((tokens filter).map Token.node)) := by
  have nodes : ((tokens filter).map Token.part).map Part.node = (tokens filter).map Token.node := by
    rw [List.map_map]
    exact List.map_congr_left fun t _ => t.node_part
  rw [(reads_pattern filter).check, nodes]

theorem Token.pattern_ne_nil (t : Token) : t.pattern ≠ [] := by
  cases t with
  | char p =>
    change (if specials.contains p then [CodePoint.ofChar '\\', p] else [p]) ≠ []
    split <;> exact List.cons_ne_nil _ _
  | _ => exact List.cons_ne_nil _ _

theorem tokens_ne_nil {filter : Text} (some : filter ≠ []) : tokens filter ≠ [] := by
  intro none
  obtain ⟨o, opening, c, closing, middle, rfl, made⟩ := exists_tokens_eq filter
  rw [made, List.append_eq_nil_iff, List.append_eq_nil_iff, List.map_eq_nil_iff] at none
  have bare : (∀ o ∈ openings, o.2 = [] → o.1 = []) ∧ ∀ c ∈ closings, c.2 = [] → c.1 = [] := by
    decide
  obtain ⟨⟨first, middle⟩, last⟩ := none
  exact some (by rw [bare.1 o opening first, middle, bare.2 c closing last]; rfl)

/-- The pattern of a filter is empty only if the filter is. -/
theorem pattern_ne_nil {filter : Text} (some : filter ≠ []) : pattern filter ≠ [] := by
  obtain ⟨t, ts, tokens⟩ := List.exists_cons_of_ne_nil (tokens_ne_nil some)
  rw [pattern, tokens, List.flatMap_cons]
  exact fun none => t.pattern_ne_nil (List.append_eq_nil_iff.1 none).1

/-- The characters of the tokens are characters of the filter. -/
theorem mem_of_char_mem_tokens {filter : Text} {p : CodePoint} (mem : .char p ∈ tokens filter) :
    p ∈ filter := by
  obtain ⟨o, opening, c, closing, middle, rfl, made⟩ := exists_tokens_eq filter
  rw [made, List.mem_append, List.mem_append, List.mem_map] at mem
  rcases mem with (first | ⟨q, here, same⟩) | last
  · exact absurd rfl (not_char_of_bars (.inl opening) first p)
  · have own : q = p := by
      unfold tokenOf at same
      split at same
      · cases same
      · split at same
        · cases same
        · exact Token.char.inj same
    exact List.mem_append_left _ (List.mem_append_right _ (own ▸ here))
  · exact absurd rfl (not_char_of_bars (.inr closing) last p)

/-- What a pattern adds to the characters of its filter is in ASCII. -/
theorem mem_pattern {filter : Text} {q : CodePoint} (mem : q ∈ pattern filter) :
    q.toNat < 128 ∨ q ∈ filter := by
  obtain ⟨t, token, here⟩ := List.mem_flatMap.1 mem
  have mark {s : Text} (small : s.all (fun p => p.toNat < 128) = true) (here : q ∈ s) :
      q.toNat < 128 := by
    simpa using List.all_eq_true.1 small q here
  cases t with
  | anyText | separator | start | stop => exact .inl (mark (by decide) here)
  | char p =>
    have own := mem_of_char_mem_tokens token
    change q ∈ if specials.contains p then [CodePoint.ofChar '\\', p] else [p] at here
    split at here
    · rcases List.mem_cons.1 here with rfl | here
      · exact .inl (by decide)
      · exact .inr (List.mem_singleton.1 here ▸ own)
    · exact .inr (List.mem_singleton.1 here ▸ own)

/-- The pattern of a filter in ASCII is in ASCII. -/
theorem isAscii_pattern {filter : Text} (ascii : filter.IsAscii) : (pattern filter).IsAscii :=
  fun q mem => (mem_pattern mem).elim id (ascii q)

end ContentBlocker.RuleList.UrlFilter
