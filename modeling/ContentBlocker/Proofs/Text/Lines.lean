import ContentBlocker.Text.SingleLine
import Mathlib.Data.List.Chain
import Mathlib.Data.List.DropRight

/-!
# Texts on one line

Putting a text on one line keeps its words, the longest runs without blanks and control characters,
and writes one space between them.  The outcome is neat: it cannot be made shorter in that way.  A
limit that has room for the three dots leaves it neat, so that a second time changes nothing:
`single_lines_are_normal`.
-/

namespace ContentBlocker.Text

/-! ## Words -/

abbrev space : CodePoint := ' '

/-- What stands between words: blanks and control characters. -/
def isGap (p : CodePoint) : Bool := isBlank p || isControl p

/-- The longest runs of a text without gaps. -/
def runs (s : Text) : List Text := (s.splitOnP isGap).filter fun w => !w.isEmpty

/-- Words with one space between them. -/
def spaced (ws : List Text) : Text := [space].intercalate ws

structure IsWord (w : Text) : Prop where
  filled : w ≠ []
  solid : ∀ p ∈ w, isGap p = false

section Runs

variable {s w : Text} {p : CodePoint}

theorem runs_cons_gap (gap : isGap p) : runs (p :: s) = runs s := by
  rw [runs, List.splitOnP_cons_eq_if_modifyHead, if_pos gap]
  rfl

theorem IsWord.runs (word : IsWord w) : runs w = [w] := by
  simp [Text.runs, List.splitOnP_eq_singleton word.solid, word.filled]

theorem IsWord.runs_append (word : IsWord w) (gap : isGap p) :
    Text.runs (w ++ p :: s) = w :: Text.runs s := by
  simp [Text.runs, List.splitOnP_append_cons_of_forall_mem word.solid p gap, word.filled]

theorem spaced_cons (w : Text) (ws : List Text) :
    spaced (w :: ws) = if ws = [] then w else w ++ space :: spaced ws := by
  cases ws with
  | nil => simp [spaced]
  | cons v ws => simp [spaced]

/-- Texts are built from gaps and words. -/
theorem gap_induction {motive : Text → Prop} (nil : motive [])
    (gap : ∀ p s, isGap p → motive s → motive (p :: s))
    (word : ∀ w, IsWord w → motive w)
    (words : ∀ w p s, IsWord w → isGap p → motive s → motive (w ++ p :: s)) (s : Text) :
    motive s := by
  induction length : s.length using Nat.strongRecOn generalizing s with
  | ind n ih =>
    subst length
    -- the text splits behind its longest start without a gap
    have split : s.takeWhile (!isGap ·) ++ s.dropWhile (!isGap ·) = s :=
      List.takeWhile_append_dropWhile
    have solid : ∀ p ∈ s.takeWhile (!isGap ·), isGap p = false := fun p mem => by
      simpa using List.mem_takeWhile_imp mem
    have stops := List.head?_dropWhile_not (!isGap ·) s
    generalize s.takeWhile (!isGap ·) = w at split solid
    generalize s.dropWhile (!isGap ·) = rest at split stops
    subst split
    by_cases filled : w = []
    · subst filled
      cases rest with
      | nil => exact nil
      | cons p rest =>
        exact gap p rest (by simpa using stops) (ih rest.length (by simp) rest rfl)
    · cases rest with
      | nil => simpa using word w ⟨filled, solid⟩
      | cons p rest =>
        exact words w p rest ⟨filled, solid⟩ (by simpa using stops)
          (ih rest.length (by simp; omega) rest rfl)

theorem isWord_of_mem_runs (mem : w ∈ runs s) : IsWord w := by
  induction s using gap_induction with
  | nil => simp [runs] at mem
  | gap p s gap ih =>
    rw [runs_cons_gap gap] at mem
    exact ih mem
  | word v word =>
    rw [word.runs, List.mem_singleton] at mem
    exact mem ▸ word
  | words v p s word gap ih =>
    rw [word.runs_append gap, List.mem_cons] at mem
    rcases mem with rfl | later
    · exact word
    · exact ih later

theorem spaced_eq_nil {ws : List Text} (filled : ∀ w ∈ ws, w ≠ []) : spaced ws = [] ↔ ws = [] := by
  cases ws with
  | nil => simp [spaced]
  | cons w ws =>
    have := filled w List.mem_cons_self
    rw [spaced_cons]
    split <;> simp [this]

end Runs

/-! ## Putting words on one line -/

section Words

variable {s t w : Text} {p : CodePoint}

theorem onLine_of_gap (gap : isGap p) : onLine p = space := if_pos gap

theorem onLine_of_solid (solid : isGap p = false) : onLine p = p :=
  if_neg (Bool.eq_false_iff.1 solid)

theorem not_isBlank_of_solid (solid : isGap p = false) : ¬ isBlank p := by
  intro blank
  simp [isGap, blank] at solid

theorem ne_space_of_solid (solid : isGap p = false) : p ≠ space := by
  rintro rfl
  exact absurd solid (by decide)

theorem isBlank_space : isBlank space := by decide

theorem IsWord.map_onLine (word : IsWord w) : w.map onLine = w :=
  (List.map_congr_left fun p mem => onLine_of_solid (word.solid p mem)).trans (List.map_id' w)

theorem eq_space_of_mem_map_onLine (mem : p ∈ s.map onLine) (blank : isBlank p) : p = space := by
  obtain ⟨q, -, rfl⟩ := List.mem_map.1 mem
  by_cases gap : isGap q
  · exact onLine_of_gap gap
  · have solid : isGap q = false := by simpa using gap
    rw [onLine_of_solid solid] at blank
    exact absurd blank (not_isBlank_of_solid solid)

theorem collapse_cons_of_ne (other : p ≠ space) (s : Text) :
    collapse (p :: s) = p :: collapse s := by
  cases s with
  | nil => rfl
  | cons q s => rw [collapse, if_neg fun both => other both.1]

theorem IsWord.collapse_append (word : IsWord w) (s : Text) :
    collapse (w ++ s) = w ++ collapse s := by
  have solid := word.solid
  clear word
  induction w with
  | nil => rfl
  | cons p w ih =>
    rw [List.forall_mem_cons] at solid
    rw [List.cons_append, collapse_cons_of_ne (ne_space_of_solid solid.1), ih solid.2]
    rfl

theorem trimStart_cons_of_blank (blank : isBlank p) (s : Text) : trimStart (p :: s) = trimStart s :=
  List.dropWhile_cons_of_pos blank

theorem trimStart_cons_of_not_blank (filled : ¬ isBlank p) (s : Text) :
    trimStart (p :: s) = p :: s :=
  List.dropWhile_cons_of_neg filled

theorem trimStart_trimStart (s : Text) : trimStart (trimStart s) = trimStart s :=
  List.dropWhile_idempotent ..

/-- Of the spaces at the start one is left. -/
theorem collapse_space (blanks : ∀ p ∈ s, isBlank p → p = space) :
    collapse (space :: s) = space :: trimStart (collapse s) := by
  induction s with
  | nil => rfl
  | cons p s ih =>
    rw [List.forall_mem_cons] at blanks
    by_cases blank : isBlank p
    · obtain rfl := blanks.1 blank
      rw [collapse, if_pos ⟨rfl, rfl⟩, ih blanks.2, trimStart_cons_of_blank isBlank_space,
        trimStart_trimStart]
    · have other : p ≠ space := fun same => blank (same ▸ isBlank_space)
      rw [collapse, if_neg fun both => other both.2, collapse_cons_of_ne other,
        trimStart_cons_of_not_blank blank]

theorem trimEnd_append (s t : Text) :
    trimEnd (s ++ t) = if trimEnd t = [] then trimEnd s else s ++ trimEnd t := by
  unfold trimEnd
  rw [List.reverse_append, List.dropWhile_append]
  cases t.reverse.dropWhile isBlank <;> simp

theorem IsWord.trimStart_append (word : IsWord w) (s : Text) : trimStart (w ++ s) = w ++ s := by
  obtain ⟨p, w', rfl⟩ := List.exists_cons_of_ne_nil word.filled
  exact trimStart_cons_of_not_blank (not_isBlank_of_solid (word.solid p List.mem_cons_self)) _

theorem IsWord.trimEnd (word : IsWord w) : trimEnd w = w :=
  List.rdropWhile_eq_self_iff.2 fun filled =>
    not_isBlank_of_solid (word.solid _ (List.getLast_mem filled))

theorem words_cons_gap (gap : isGap p) : words (p :: s) = words s := by
  have blanks : ∀ q ∈ s.map onLine, isBlank q → q = space := fun _ => eq_space_of_mem_map_onLine
  rw [words, List.map_cons, onLine_of_gap gap, collapse_space blanks, trim,
    trimStart_cons_of_blank isBlank_space, trimStart_trimStart, words, trim]

theorem IsWord.words (word : IsWord w) : words w = w := by
  have whole : collapse w = w := by simpa [collapse] using word.collapse_append []
  have start : trimStart w = w := by simpa using word.trimStart_append []
  rw [Text.words, word.map_onLine, whole, trim, start, word.trimEnd]

theorem IsWord.words_append (word : IsWord w) (gap : isGap p) :
    Text.words (w ++ p :: s) =
      if Text.words s = [] then w else w ++ space :: Text.words s := by
  have blanks : ∀ q ∈ s.map onLine, isBlank q → q = space := fun _ => eq_space_of_mem_map_onLine
  -- the gap becomes one space, which is trimmed off if nothing else follows
  have behind : Text.words (w ++ p :: s) =
      Text.trimEnd (w ++ ([space] ++ trimStart (collapse (s.map onLine)))) := by
    rw [Text.words, List.map_append, List.map_cons, word.map_onLine, onLine_of_gap gap,
      word.collapse_append, collapse_space blanks, trim, word.trimStart_append]
    rfl
  have rest : Text.trimEnd (trimStart (collapse (s.map onLine))) = Text.words s := rfl
  have blank : Text.trimEnd [space] = [] := by decide
  rw [behind, trimEnd_append, trimEnd_append, rest, blank, word.trimEnd]
  by_cases none : Text.words s = [] <;> simp [none]

/-- The words of a text on one line are its runs with one space between them. -/
theorem words_eq_spaced (s : Text) : Text.words s = spaced (Text.runs s) := by
  induction s using gap_induction with
  | nil => rfl
  | gap p s gap ih => rw [words_cons_gap gap, runs_cons_gap gap, ih]
  | word w word => rw [word.words, word.runs, spaced_cons, if_pos rfl]
  | words w p s word gap ih =>
    have empty : Text.words s = [] ↔ Text.runs s = [] := by
      rw [ih, spaced_eq_nil fun w mem => (isWord_of_mem_runs mem).filled]
    rw [word.words_append gap, word.runs_append gap, spaced_cons, ← ih]
    simp only [empty]

end Words

/-! ## Neat texts -/

/-- Texts without control characters whose only blanks are single spaces between other code
points. -/
structure IsNeat (s : Text) : Prop where
  printable : ∀ p ∈ s, 32 ≤ p.toNat ∧ p.toNat ≠ 127
  blank : ∀ p ∈ s, isBlank p → p = space
  first : s.head? ≠ some space
  last : s.getLast? ≠ some space
  single : s.IsChain fun p q => ¬ (p = space ∧ q = space)

section Neat

variable {s t w : Text} {ws : List Text}

theorem IsWord.isNeat (word : IsWord w) : IsNeat w where
  printable p mem := by
    have solid := word.solid p mem
    simp only [isGap, isControl, Bool.or_eq_false_iff, decide_eq_false_iff_not] at solid
    omega
  blank p mem blank := absurd blank (not_isBlank_of_solid (word.solid p mem))
  first starts := ne_space_of_solid (word.solid _ (List.mem_of_head? starts)) rfl
  last ends := ne_space_of_solid (word.solid _ (List.mem_of_getLast? ends)) rfl
  single := List.Pairwise.isChain <| List.pairwise_of_forall_mem_list fun p mem _ _ both =>
    ne_space_of_solid (word.solid p mem) both.1

theorem isNeat_nil : IsNeat [] := ⟨by simp, by simp, by simp, by simp, .nil⟩

theorem IsNeat.append (left : IsNeat s) (right : IsNeat t) : IsNeat (s ++ t) where
  printable p mem := (List.mem_append.1 mem).elim (left.printable p) (right.printable p)
  blank p mem := (List.mem_append.1 mem).elim (left.blank p) (right.blank p)
  first := by
    cases s with
    | nil => exact right.first
    | cons p s => exact left.first
  last := by
    rw [List.getLast?_append]
    cases ends : t.getLast? with
    | none => exact left.last
    | some p =>
      rw [Option.some_or, ← ends]
      exact right.last
  single := left.single.append right.single fun _ ends _ _ both => left.last (both.1 ▸ ends)

theorem IsNeat.append_space (left : IsNeat s) (right : IsNeat t) (filled : s ≠ []) (more : t ≠ []) :
    IsNeat (s ++ space :: t) where
  printable p mem := by
    rcases List.mem_append.1 mem with before | behind
    · exact left.printable p before
    · rcases List.mem_cons.1 behind with rfl | behind
      · decide
      · exact right.printable p behind
  blank p mem blank := by
    rcases List.mem_append.1 mem with before | behind
    · exact left.blank p before blank
    · rcases List.mem_cons.1 behind with rfl | behind
      · rfl
      · exact right.blank p behind blank
  first := by
    obtain ⟨p, s, rfl⟩ := List.exists_cons_of_ne_nil filled
    exact left.first
  last := by
    rw [List.getLast?_append_cons, List.getLast?_cons_of_ne_nil more]
    exact right.last
  single := by
    refine left.single.append (List.isChain_cons.2 ⟨fun p starts both => ?_, right.single⟩) ?_
    · exact right.first (both.2 ▸ starts)
    · exact fun _ ends _ _ both => left.last (both.1 ▸ ends)

theorem isNeat_spaced (each : ∀ w ∈ ws, IsWord w) : IsNeat (spaced ws) := by
  induction ws with
  | nil => exact isNeat_nil
  | cons w ws ih =>
    rw [List.forall_mem_cons] at each
    rw [spaced_cons]
    split
    · exact each.1.isNeat
    · rename_i more
      refine each.1.isNeat.append_space (ih each.2) each.1.filled fun none => more ?_
      exact (spaced_eq_nil fun w mem => (each.2 w mem).filled).1 none

/-! A neat text is left as it is. -/

theorem IsNeat.map_onLine (neat : IsNeat s) : s.map onLine = s := by
  refine (List.map_congr_left fun p mem => ?_).trans (List.map_id' s)
  by_cases gap : isGap p
  · rw [onLine_of_gap gap]
    have plain : isControl p = false := by
      have := neat.printable p mem
      simp only [isControl, Bool.or_eq_false_iff, decide_eq_false_iff_not]
      omega
    exact (neat.blank p mem (by simpa [isGap, plain] using gap)).symm
  · exact onLine_of_solid (by simpa using gap)

theorem collapse_of_single (single : s.IsChain fun p q => ¬ (p = space ∧ q = space)) :
    collapse s = s := by
  induction s with
  | nil => rfl
  | cons p s ih =>
    cases s with
    | nil => rfl
    | cons q s =>
      rw [List.isChain_cons_cons] at single
      rw [collapse, if_neg single.1, ih single.2]

theorem trimEnd_of_last (blank : ∀ p ∈ s, isBlank p → p = space)
    (last : s.getLast? ≠ some space) : trimEnd s = s := by
  refine List.rdropWhile_eq_self_iff.2 fun filled ends => last ?_
  rw [List.getLast?_eq_some_getLast filled, blank _ (List.getLast_mem filled) ends]

theorem IsNeat.words_eq (neat : IsNeat s) : words s = s := by
  have start : trimStart s = s := by
    cases s with
    | nil => rfl
    | cons p s =>
      refine trimStart_cons_of_not_blank (fun blank => neat.first ?_) s
      rw [List.head?_cons, neat.blank p List.mem_cons_self blank]
  rw [words, neat.map_onLine, collapse_of_single neat.single, trim, start,
    trimEnd_of_last neat.blank neat.last]

/-! ## Cutting -/

theorem IsNeat.of_start (neat : IsNeat s) (start : t <+: s) (last : t.getLast? ≠ some space) :
    IsNeat t where
  printable p mem := neat.printable p (start.mem mem)
  blank p mem := neat.blank p (start.mem mem)
  first := by
    cases t with
    | nil => simp
    | cons p t =>
      obtain ⟨rest, rfl⟩ := start
      exact neat.first
  last := last
  single := by
    obtain ⟨rest, rfl⟩ := start
    exact neat.single.left_of_append

theorem getLast?_trimEnd_ne (s : Text) : (trimEnd s).getLast? ≠ some space := by
  intro ends
  have filled : trimEnd s ≠ [] := by
    rintro none
    simp [none] at ends
  rw [List.getLast?_eq_some_getLast filled, Option.some.injEq] at ends
  exact List.rdropWhile_last_not isBlank s filled (ends ▸ isBlank_space)

theorem trimEnd_starts (s : Text) : trimEnd s <+: s := List.rdropWhile_prefix isBlank s

/-- The start of a neat text ends in one space at most. -/
theorem IsNeat.trimEnd_of_start (neat : IsNeat s) (start : t <+: s) :
    trimEnd t = t ∨ trimEnd t ++ [space] = t := by
  rcases List.eq_nil_or_concat t with rfl | ⟨before, p, rfl⟩
  · exact .inl rfl
  · rw [List.concat_eq_append] at start ⊢
    by_cases blank : isBlank p
    · obtain rfl := neat.blank p (start.mem (by simp)) blank
      obtain ⟨rest, rfl⟩ := start
      have single := List.isChain_append.1 neat.single.left_of_append
      have last : before.getLast? ≠ some space := fun ends => single.2.2 _ ends _ rfl ⟨rfl, rfl⟩
      have here : ∀ q ∈ before, isBlank q → q = space := fun q mem =>
        neat.blank q (List.mem_append_left _ (List.mem_append_left _ mem))
      right
      rw [trimEnd_append, if_pos (by decide), trimEnd_of_last here last]
    · exact .inl (List.rdropWhile_concat_neg isBlank before p blank)

theorem isWord_dots : IsWord "..." := ⟨by decide, by decide⟩

theorem length_dots : ("..." : Text).length = 3 := rfl

theorem cut_of_fits {limit : Int} (fits : limit = 0 ∨ s.length ≤ limit) : cut limit s = s :=
  if_neg (by omega)

theorem cut_of_long {limit : Int} (cuts : limit ≠ 0) (long : limit < s.length) :
    cut limit s = trimEnd (takeSigned (limit - 3) s) ++ "..." :=
  if_pos ⟨cuts, long⟩

theorem takeSigned_of_room {limit : Int} (room : 3 ≤ limit) (s : Text) :
    takeSigned (limit - 3) s = s.take (limit - 3).toNat :=
  if_pos (by omega)

theorem length_cut_le {limit : Int} (room : 3 ≤ limit) (s : Text) :
    ((cut limit s).length : Int) ≤ limit := by
  by_cases long : limit < s.length
  · have short := (trimEnd_starts (s.take (limit - 3).toNat)).length_le
    rw [List.length_take] at short
    rw [cut_of_long (by omega) long, takeSigned_of_room room, List.length_append, length_dots]
    omega
  · rw [cut_of_fits (by omega)]
    omega

theorem IsNeat.cut {limit : Int} (neat : IsNeat s) (room : limit = 0 ∨ 3 ≤ limit) :
    IsNeat (cut limit s) := by
  by_cases fits : limit = 0 ∨ s.length ≤ limit
  · rwa [cut_of_fits fits]
  · rw [cut_of_long (by omega) (by omega), takeSigned_of_room (by omega)]
    have start := List.take_prefix (limit - 3).toNat s
    have kept := neat.of_start ((trimEnd_starts _).trans start) (getLast?_trimEnd_ne _)
    exact kept.append isWord_dots.isNeat

theorem cut_cut {limit : Int} (room : limit = 0 ∨ 3 ≤ limit) (s : Text) :
    Text.cut limit (Text.cut limit s) = Text.cut limit s :=
  cut_of_fits (room.imp_right (length_cut_le · s))

/-- A text on one line is neat, and a second time changes nothing, if the limit is zero or has room
for the dots.  It has the words of the text with one space between them, and if these are too long
their start, without a space at its end, and three dots. -/
theorem single_lines_are_normal {limit : Int} (room : limit = 0 ∨ 3 ≤ limit) (s : Text) :
    let joined := spaced (runs s)
    let line := singleLine limit s
    IsNeat line ∧
    (limit = 0 ∨ joined.length ≤ limit → line = joined) ∧
    (limit ≠ 0 → limit < joined.length →
      ∃ kept, line = kept ++ "..." ∧ kept <+: joined ∧ kept.getLast? ≠ some space ∧
        (kept = joined.take (limit - 3).toNat ∨
          kept ++ [space] = joined.take (limit - 3).toNat)) ∧
    singleLine limit line = line := by
  intro joined line
  have words : words s = joined := words_eq_spaced s
  have neat : IsNeat joined := isNeat_spaced fun w => isWord_of_mem_runs
  have cut : line = cut limit joined := congrArg (cut limit) words
  have again : IsNeat line := cut ▸ neat.cut room
  refine ⟨again, fun fits => cut.trans (cut_of_fits fits), fun cuts long => ?_, ?_⟩
  · have start := List.take_prefix (limit - 3).toNat joined
    refine ⟨trimEnd (joined.take (limit - 3).toNat), ?_, (trimEnd_starts _).trans start,
      getLast?_trimEnd_ne _, neat.trimEnd_of_start start⟩
    rw [cut, cut_of_long cuts long, takeSigned_of_room (by omega)]
  · rw [singleLine, again.words_eq, cut, cut_cut room]

/-- A cut behind a space leaves the space out. -/
theorem cut_behind_space :
    let s : Text := "\x1d ads\x00\tblocked\nhere\x7f"
    (3 : Int) ≤ 7 ∧ runs s = ["ads", "blocked", "here"] ∧ singleLine 7 s = "ads..." ∧
      IsNeat (singleLine 7 s) ∧ singleLine 7 "ads..." = "ads..." := by
  intro s
  have line : singleLine 7 s = "ads..." := by decide
  obtain ⟨neat, -, -, again⟩ := single_lines_are_normal (.inr (show (3 : Int) ≤ 7 by decide)) s
  rw [line] at again
  exact ⟨by decide, by decide, line, neat, again⟩

end Neat

end ContentBlocker.Text
