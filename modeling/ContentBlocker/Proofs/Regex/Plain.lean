import ContentBlocker.Proofs.Json.Strings
import ContentBlocker.Proofs.Regex.Parts

/-!
# Plain patterns

A plain pattern is a row of parts, without groups, choices and counts.  `Reads` takes a text apart
into such parts from left to right, and knows no other operator.  A text is read in one way at most:
`Reads.unique`.  The reader of all patterns finds parts of the same shape: `Reads.check`.
-/

namespace ContentBlocker.Regex

inductive Part where
  | char (p : CodePoint)
  /-- any character but a line break -/
  | dot
  | oneOf (set : Text)
  | start
  | stop
  | star (part : Part)
deriving DecidableEq, Repr

/-! ## Reading -/

/-- Characters that do not stand for themselves everywhere in patterns. -/
def operators : Text := "\\.[]^$*+?()\x7b\x7d|"

/-- The part that a text stands for.  A backslash takes the meaning from a character that is no
letter and no digit. -/
inductive Writes : Text → Part → Prop
  | plain {p : CodePoint} (plain : p ∉ operators) : Writes [p] (.char p)
  | escaped {p : CodePoint} (mark : p.char.isAlphanum = false) : Writes ['\\', p] (.char p)
  | run : Writes ".*" (.star .dot)
  | separators : Writes "[/:?]" (.oneOf "/:?")
  | start : Writes "^" .start
  | stop : Writes "$" .stop

/-- The parts that a text stands for, from left to right. -/
inductive Reads : Text → List Part → Prop
  | done : Reads [] []
  | next {text rest : Text} {part : Part} {parts : List Part} (here : Writes text part)
    (later : Reads rest parts) : Reads (text ++ rest) (part :: parts)

/-- The part at the start of a text, as its first character tells, and what follows it. -/
def lead? : Text → Option (Part × Text)
  | [] => none
  | p :: rest =>
    if p = '\\' then rest.head?.map fun q => (.char q, rest.drop 1)
    else if p = '.' then some (.star .dot, rest.drop 1)
    else if p = '[' then some (.oneOf "/:?", rest.drop 4)
    else if p = '^' then some (.start, rest)
    else if p = '$' then some (.stop, rest)
    else some (.char p, rest)

theorem Writes.lead? {text : Text} {part : Part} (h : Writes text part) (rest : Text) :
    lead? (text ++ rest) = some (part, rest) := by
  cases h with
  | @plain p plain =>
    have other (c : Char) (operator : CodePoint.ofChar c ∈ operators) : p ≠ CodePoint.ofChar c :=
      fun same => plain (same ▸ operator)
    show Regex.lead? (p :: rest) = _
    unfold Regex.lead?
    dsimp only
    rw [if_neg (other '\\' (by decide)), if_neg (other '.' (by decide)),
      if_neg (other '[' (by decide)), if_neg (other '^' (by decide)),
      if_neg (other '$' (by decide))]
  | escaped | run | separators | start | stop => rfl

/-- A text is read in one way at most. -/
theorem Reads.unique {text : Text} {parts others : List Part} (h : Reads text parts)
    (h' : Reads text others) : parts = others := by
  induction h generalizing others with
  | done =>
    generalize empty : ([] : Text) = text at h'
    cases h' with
    | done => rfl
    | @next text rest _ _ here _ =>
      have none := here.lead? rest
      rw [← empty] at none
      cases none
  | @next text rest part parts here later ih =>
    generalize whole : text ++ rest = s at h'
    cases h' with
    | done =>
      have none := here.lead? rest
      rw [whole] at none
      cases none
    | next here' later' =>
      have same := (here.lead? rest).symm.trans ((congrArg Regex.lead? whole).trans (here'.lead? _))
      obtain ⟨rfl, rfl⟩ := Prod.mk.inj (Option.some.inj same)
      rw [ih later']

/-! ## Shapes -/

def Part.node : Part → Node
  | char _ | dot | oneOf _ => .unit
  | start | stop => .anchor
  | star part => .repeated .greedy 0 none part.node

/-- The matcher can run every part. -/
theorem Part.runs (part : Part) :
    part.node.review false = none ∧ part.node.looksBehind runnableBound = false := by
  induction part with
  | star part ih => exact ih
  | char | dot | oneOf | start | stop => exact ⟨rfl, rfl⟩

theorem isActive_of_not_mem {p : CodePoint} (plain : p ∉ operators) : isActive p.char = false := by
  rw [Bool.eq_false_iff]
  intro active
  have all : ['\\', '[', '(', ')', '|', '*', '+', '?', '\x7b', '^', '$'].all (fun c =>
      c ≠ '\ufffd' && operators.contains (CodePoint.ofChar c)) = true := by
    decide
  have meant := List.all_eq_true.1 all p.char (List.contains_iff_mem.1 active)
  simp only [Bool.and_eq_true, decide_eq_true_eq, List.contains_iff_mem] at meant
  exact plain (Json.eq_ofChar_of_char rfl meant.1 ▸ meant.2)

theorem Writes.isPiece {text : Text} {part : Part} (h : Writes text part) :
    IsPiece (text.map CodePoint.char) part.node := by
  cases h with
  | plain plain => exact isPiece_plain (isActive_of_not_mem plain)
  | escaped mark => exact isPiece_escaped mark
  | run => exact isPiece_star
  | separators => exact isPiece_separators
  | start => exact isPiece_anchor (.inl rfl)
  | stop => exact isPiece_anchor (.inr rfl)

/-- A plain pattern is accepted, and its shape is that of its parts. -/
theorem Reads.check {text : Text} {parts : List Part} (h : Reads text parts) :
    check (text.map CodePoint.char) = .ok (.ofList (parts.map Part.node)) := by
  suffices ∃ pieces : List (List Char × Node), (∀ p ∈ pieces, IsPiece p.1 p.2) ∧
      pieces.flatMap (·.1) = text.map CodePoint.char ∧ pieces.map (·.2) = parts.map Part.node by
    obtain ⟨pieces, all, whole, nodes⟩ := this
    rw [← whole, ← nodes]
    refine check_pieces all fun p mem => ?_
    have node : p.2 ∈ parts.map Part.node := nodes ▸ List.mem_map_of_mem mem
    obtain ⟨part, -, same⟩ := List.mem_map.1 node
    exact same ▸ part.runs
  induction h with
  | done => exact ⟨[], by simp, rfl, rfl⟩
  | @next text rest part parts here later ih =>
    obtain ⟨pieces, all, whole, nodes⟩ := ih
    refine ⟨(text.map CodePoint.char, part.node) :: pieces,
      List.forall_mem_cons.2 ⟨here.isPiece, all⟩, ?_, ?_⟩
    · rw [List.flatMap_cons, whole, List.map_append]
    · rw [List.map_cons, nodes, List.map_cons]

end ContentBlocker.Regex
