import ContentBlocker.Failure.Report
import ContentBlocker.Proofs.Text.Lines

/-!
# The lengths of messages

A limit bounds the text on a line, and with it the message that callers see of a failure, if it has
room for the three dots.  Below that a text that is cut gets longer than its limit, and only texts
that are not cut keep to it: `lines_keep_to_limits_iff`.
-/

namespace ContentBlocker

namespace Text

section

variable {limit : Int} (positive : 0 < limit) (s : Text)
include positive

theorem length_cut_le_iff :
    ((cut limit s).length : Int) ≤ limit ↔ 3 ≤ limit ∨ (s.length : Int) ≤ limit := by
  by_cases long : limit < s.length
  · have dotted := cut_of_long (by omega) long
    refine ⟨fun short => .inl ?_, ?_⟩
    · rw [dotted, List.length_append, length_dots] at short
      omega
    · rintro (room | fits)
      · exact length_cut_le room s
      · omega
  · rw [cut_of_fits (by omega)]
    omega

theorem cut_eq_nil : cut limit s = [] ↔ s = [] := by
  by_cases long : limit < s.length
  · have filled : s ≠ [] := by
      rintro rfl
      simp at long
      omega
    have dots : ("..." : Text) ≠ [] := isWord_dots.filled
    simp [cut_of_long (by omega) long, filled, dots]
  · rw [cut_of_fits (by omega)]

theorem singleLine_eq_nil : singleLine limit s = [] ↔ runs s = [] := by
  rw [singleLine, cut_eq_nil positive, words_eq_spaced,
    spaced_eq_nil fun w mem => (isWord_of_mem_runs mem).filled]

end

end Text

namespace Report

/-- The text that a report shows to callers, if it shows any. -/
def shown? (expose : Bool) (r : Report) : Option Text :=
  if expose then some (r.origin.label ++ ": " ++ r.text)
  else if r.origin.isPublic then some r.text
  else none

theorem message_eq (expose : Bool) (default : Text) (limit : Int) (r : Report) :
    r.message expose default limit =
      match r.shown? expose with
      | some s => orDefault default (Text.singleLine limit s)
      | none => default := by
  unfold message shown?
  cases expose with
  | true => rfl
  | false => cases r.origin.isPublic <;> rfl

theorem orDefault_eq_if (default s : Text) :
    orDefault default s = if s = [] then default else s := by
  cases s <;> rfl

open Text

/-- A line and the message of a report keep to a positive limit just if it has room for three dots,
or the words with one space between them need not be cut.  A report that shows no words has its
default as its message. -/
theorem lines_keep_to_limits_iff {limit : Int} (positive : 0 < limit) :
    (∀ s : Text, ((singleLine limit s).length : Int) ≤ limit ↔
      3 ≤ limit ∨ ((spaced (runs s)).length : Int) ≤ limit) ∧
    ∀ (expose : Bool) (default : Text) (r : Report),
      ((∀ s, r.shown? expose = some s → runs s = []) →
        r.message expose default limit = default) ∧
      ∀ s, r.shown? expose = some s → runs s ≠ [] →
        r.message expose default limit = singleLine limit s ∧
        (((r.message expose default limit).length : Int) ≤ limit ↔
          3 ≤ limit ∨ ((spaced (runs s)).length : Int) ≤ limit) := by
  have bounded (s : Text) : ((singleLine limit s).length : Int) ≤ limit ↔
      3 ≤ limit ∨ ((spaced (runs s)).length : Int) ≤ limit := by
    rw [singleLine, words_eq_spaced]
    exact length_cut_le_iff positive (spaced (runs s))
  refine ⟨bounded, fun expose default r => ⟨fun none => ?_, fun s shown words => ?_⟩⟩
  · rw [message_eq]
    cases shown : r.shown? expose with
    | none => rfl
    | some s =>
      dsimp only
      rw [orDefault_eq_if, if_pos ((singleLine_eq_nil positive s).2 (none s shown))]
  · have message : r.message expose default limit = singleLine limit s := by
      rw [message_eq, shown]
      dsimp only
      rw [orDefault_eq_if, if_neg fun empty => words ((singleLine_eq_nil positive s).1 empty)]
    exact ⟨message, message ▸ bounded s⟩

/-- Three dots alone keep to the least limit that has room for them. -/
theorem dots_alone_keep_to_limit :
    let r : Report := ⟨.internal "OSError", "disk\nfull"⟩
    (0 : Int) < 3 ∧ r.message true defaultMessage 3 = "..." ∧
      ((singleLine 3 "disk\nfull").length : Int) ≤ 3 ∧
      ((r.message true defaultMessage 3).length : Int) ≤ 3 := by
  intro r
  obtain ⟨lines, messages⟩ := lines_keep_to_limits_iff (show (0 : Int) < 3 by decide)
  refine ⟨by decide, by decide, (lines _).2 (.inl (by decide)), ?_⟩
  exact ((messages true defaultMessage r).2 _ rfl (by decide)).2.2 (.inl (by decide))

/-- A text and a message that are longer than their limits allow. -/
theorem small_limits_are_passed :
    singleLine 1 "abcdef" = "abcd..." ∧
      ¬ ((singleLine 1 "abcdef").length : Int) ≤ 1 ∧
      ¬ ((message false defaultMessage 2 ⟨.value, "abcdef"⟩).length : Int) ≤ 2 := by
  decide

end Report

end ContentBlocker
