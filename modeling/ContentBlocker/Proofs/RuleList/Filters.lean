import ContentBlocker.Proofs.Regex.Matching
import ContentBlocker.Proofs.RuleList.Patterns
import Mathlib.Logic.ExistsUnique

/-!
# What filters match

A token of a filter has a meaning of its own: it leads from one spot of an address to another.  The
pattern of a filter is read as the filter's tokens and as nothing else, so that it is found in those
addresses on one line in which the tokens are: `patterns_mean_their_filters`.
-/

namespace ContentBlocker.RuleList.UrlFilter

open Regex

variable {s u : Spot}

/-! ## Tokens in addresses -/

/-- Where a token leads in an address. -/
def Token.Takes : Token → Spot → Spot → Prop
  | anyText, s, u => ∃ text, s.Between text u
  | separator, s, u => ∃ p ∈ Text.ofString "/:?", s.Between [p] u
  | start, s, u => s.before = [] ∧ u = s
  | stop, s, u => s.after = [] ∧ u = s
  | char p, s, u => s.Between [p] u

/-- A token takes a text, which may be empty. -/
theorem Token.Takes.exists_between {t : Token} (takes : t.Takes s u) :
    ∃ text, s.Between text u := by
  cases t with
  | anyText => exact takes
  | separator =>
    obtain ⟨p, -, passed⟩ := takes
    exact ⟨[p], passed⟩
  | start | stop => exact ⟨[], Spot.between_nil.2 takes.2⟩
  | char p => exact ⟨[p], takes⟩

theorem Token.Takes.line {t : Token} (takes : t.Takes s u) (line : lineBreak ∉ s.after) :
    lineBreak ∉ u.after := by
  obtain ⟨text, after, -⟩ := takes.exists_between
  exact fun mem => line (after ▸ List.mem_append_right text mem)

/-- On the rest of a line a token takes what its part of the pattern takes. -/
theorem Token.takes_part {t : Token} (line : lineBreak ∉ s.after) :
    t.part.Takes s u ↔ t.Takes s u := by
  cases t with
  | anyText =>
    refine takes_star_dot.trans (exists_congr fun text => and_iff_right_of_imp fun passed => ?_)
    exact fun mem => line (passed.1 ▸ List.mem_append_left _ mem)
  | stop =>
    have last : s.after ≠ [lineBreak] := fun same => line (same ▸ List.mem_cons_self)
    show (s.after = [] ∨ s.after = [lineBreak]) ∧ u = s ↔ s.after = [] ∧ u = s
    rw [or_iff_left last]
  | separator | start | char => exact Iff.rfl

/-- The parts of a row of tokens are found on one line where the tokens are. -/
theorem finds_parts (ts : List Token) {address : Text} (line : lineBreak ∉ address) :
    Finds Part.Takes (ts.map Token.part) address ↔ Finds Token.Takes ts address := by
  have rest (s : Spot) (whole : s.before ++ s.after = address) : lineBreak ∉ s.after :=
    fun mem => line (whole ▸ List.mem_append_right _ mem)
  exact finds_congr (fun _ _ _ => Token.takes_part) (fun _ _ _ takes => takes.line) ts rest

/-! ## Anchors -/

section Ends

variable {α : Type} {a : α} {first rest before after : List α}

theorem eq_nil_of_first (short : first.length ≤ 1) (other : a ∉ rest)
    (split : first ++ rest = before ++ a :: after) : before = [] := by
  cases before with
  | nil => rfl
  | cons b before =>
    match first, short with
    | [], _ =>
      have whole : rest = b :: (before ++ a :: after) := split
      exact absurd (by simp [whole]) other
    | [c], _ =>
      have whole : rest = before ++ a :: after := (List.cons.inj split).2
      exact absurd (by simp [whole]) other

theorem eq_nil_of_last (short : first.length ≤ 1) (other : a ∉ rest)
    (split : rest ++ first = before ++ a :: after) : after = [] := by
  have reversed := congrArg List.reverse split
  simp only [List.reverse_append, List.reverse_cons, List.append_assoc, List.singleton_append]
    at reversed
  have none := eq_nil_of_first (by simpa using short) (by simpa using other) reversed
  exact List.reverse_eq_nil_iff.1 none

end Ends

/-- No character between the bars of a filter anchors it. -/
theorem tokenOf_ne (p : CodePoint) : tokenOf p ≠ .start ∧ tokenOf p ≠ .stop := by
  unfold tokenOf
  split
  · exact ⟨Token.noConfusion, Token.noConfusion⟩
  · split <;> exact ⟨Token.noConfusion, Token.noConfusion⟩

/-- Nothing stands before the start of a filter, and nothing behind its end. -/
theorem anchors_at_ends {filter : Text} {before after : List Token} :
    (tokens filter = before ++ .start :: after → before = []) ∧
      (tokens filter = before ++ .stop :: after → after = []) := by
  obtain ⟨o, opening, c, closing, middle, -, made⟩ := exists_tokens_eq filter
  have bars : (∀ o ∈ openings, o.2.length ≤ 1 ∧ .stop ∉ o.2) ∧
      ∀ c ∈ closings, c.2.length ≤ 1 ∧ .start ∉ c.2 := by
    decide
  obtain ⟨shortFirst, first⟩ := bars.1 o opening
  obtain ⟨shortLast, last⟩ := bars.2 c closing
  rw [made]
  constructor
  · intro split
    refine eq_nil_of_first shortFirst ?_ ((List.append_assoc ..).symm.trans split)
    simp [last, fun p => (tokenOf_ne p).1]
  · intro split
    refine eq_nil_of_last shortLast ?_ split
    simp [first, fun p => (tokenOf_ne p).2]

/-! ## Patterns -/

/-- The pattern of a filter is read in one way, without operators other than those of tokens, and
what is read are the tokens of the filter, with anchors at its ends only.  The reader of all
patterns finds the same parts.  The pattern is found in an address on one line just if the tokens
are, and filters have the same pattern just if they have the same tokens. -/
theorem patterns_mean_their_filters (filter : Text) :
    (∃! parts, Reads (pattern filter) parts) ∧
    (∀ ts : List Token, Reads (pattern filter) (ts.map Token.part) ↔ ts = tokens filter) ∧
    (∀ parts, Reads (pattern filter) parts →
      (∀ before after, parts = before ++ .start :: after → before = []) ∧
      (∀ before after, parts = before ++ .stop :: after → after = []) ∧
      check ((pattern filter).map CodePoint.char) = .ok (.ofList (parts.map Part.node))) ∧
    (∀ address, lineBreak ∉ address →
      ((∃ parts, Reads (pattern filter) parts ∧ Finds Part.Takes parts address) ↔
        Finds Token.Takes (tokens filter) address)) ∧
    ∀ other, pattern filter = pattern other ↔ tokens filter = tokens other := by
  have read := reads_pattern filter
  have back (ts : List Token) :
      Reads (pattern filter) (ts.map Token.part) ↔ ts = tokens filter := by
    constructor
    · intro reads
      exact Token.map_part_inj.1 (reads.unique read)
    · rintro rfl
      exact read
  refine ⟨⟨_, read, fun _ reads => reads.unique read⟩, back, fun parts reads => ?_,
    fun address line => ?_, fun other => ⟨fun same => ?_, fun same => ?_⟩⟩
  · refine ⟨fun before after split => ?_, fun before after split => ?_, reads.check⟩
    · obtain ⟨ts, us, whole, rfl, anchored⟩ :=
        List.map_eq_append_iff.1 ((read.unique reads).trans split)
      obtain ⟨t, us, rfl, start, -⟩ := List.map_eq_cons_iff.1 anchored
      obtain rfl : t = .start := Token.part_injective start
      rw [anchors_at_ends.1 whole, List.map_nil]
    · obtain ⟨ts, us, whole, -, anchored⟩ :=
        List.map_eq_append_iff.1 ((read.unique reads).trans split)
      obtain ⟨t, us, rfl, stop, rfl⟩ := List.map_eq_cons_iff.1 anchored
      obtain rfl : t = .stop := Token.part_injective stop
      rw [anchors_at_ends.2 whole, List.map_nil]
  · rw [← finds_parts _ line]
    constructor
    · rintro ⟨parts, reads, found⟩
      exact reads.unique read ▸ found
    · exact fun found => ⟨_, read, found⟩
  · have reads : Reads (pattern other) ((tokens filter).map Token.part) := same ▸ read
    exact Token.map_part_inj.1 (reads.unique (reads_pattern other))
  · rw [pattern, same, ← pattern]

/-- A backslash before the bar at the end stands for itself, and the bar for the end. -/
theorem backslashes_leave_bars_alone :
    lineBreak ∉ Text.ofString "\\" ∧ tokens "|\\|" = [.start, .char '\\', .stop] ∧
      ∃ parts, Reads (pattern "|\\|") parts ∧ Finds Part.Takes parts "\\" := by
  have line : lineBreak ∉ Text.ofString "\\" := by decide
  have found : Finds Token.Takes (tokens "|\\|") "\\" :=
    ⟨⟨[], "\\"⟩, ⟨"\\", []⟩, rfl, ⟨[], "\\"⟩, ⟨rfl, rfl⟩, ⟨"\\", []⟩, ⟨rfl, rfl⟩, _, ⟨rfl, rfl⟩, rfl⟩
  exact ⟨line, rfl, ((patterns_mean_their_filters "|\\|").2.2.2.1 "\\" line).2 found⟩

end ContentBlocker.RuleList.UrlFilter
