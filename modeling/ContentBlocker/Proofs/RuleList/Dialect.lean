import ContentBlocker.Proofs.Json.Kinds
import ContentBlocker.Proofs.RuleList.Acceptance

/-!
# The dialect of rule lists

What an entry of a rule list must hold is said field by field, without the checks: `IsEntry`.  Where
the checks look up a value that cannot be, or read a pattern beyond the bounds of the notation, they
meet a defect: `EntryMeets`.  `tells_checkEntry` says that the checks pass just the entries of the
dialect, and which defects they meet in the others.
-/

namespace ContentBlocker

/-! ## Values -/

theorem CodePoint.eq_of_char? {p : CodePoint} {c : Char} (read : p.char? = some c) :
    p = ofChar c := by
  unfold char? at read
  split at read
  · rename_i valid
    obtain ⟨n, small⟩ := p
    cases read
    have same : (Char.ofNat n).toNat = n := by
      rw [Char.ofNat, dif_pos valid]
      rfl
    simp only [ofChar, same]
  · cases read

theorem Text.eq_of_chars? {s : Text} {cs : List Char} (read : s.chars? = some cs) :
    s = ofChars cs := by
  induction s generalizing cs with
  | nil =>
    cases read
    rfl
  | cons p s ih =>
    have read : (p.char? >>= fun c => chars? s >>= fun cs => some (c :: cs)) = some cs := by
      simpa [chars?, List.mapM_cons] using read
    obtain ⟨c, first, read⟩ := Option.bind_eq_some_iff.1 read
    obtain ⟨cs', later, same⟩ := Option.bind_eq_some_iff.1 read
    cases same
    rw [ih later, CodePoint.eq_of_char? first]
    rfl

theorem Text.eq_of_string? {s : Text} {w : String} (read : s.string? = some w) : s = w := by
  obtain ⟨cs, chars, same⟩ := Option.map_eq_some_iff.1 read
  rw [← same, ofString, String.toList_ofList]
  exact eq_of_chars? chars

namespace Json

/-- Null, or a value of some kind. -/
def IsNullOr (kind : Json → Prop) (v : Json) : Prop := v = .null ∨ kind v

/-- An array of values of some kind, one or more. -/
def IsRowOf (kind : Json → Prop) (v : Json) : Prop :=
  ∃ items, v = .arr items ∧ items ≠ [] ∧ ∀ item ∈ items, kind item

/-- A text that is not empty. -/
def IsFilledText (v : Json) : Prop := ∃ s, v = .str s ∧ s ≠ []

end Json

namespace RuleList

/-! ## Entries -/

/-- The words for kinds of loads. -/
def resourceTypeWords : List String :=
  ["document", "image", "style-sheet", "script", "font", "raw", "svg-document", "media", "popup",
    "ping", "fetch", "websocket", "other"]

/-- The words for the sites of loads. -/
def loadTypeWords : List String := ["first-party", "third-party"]

/-- The words for what entries do. -/
def actionTypeWords : List String :=
  ["block", "block-cookies", "css-display-none", "ignore-previous-rules", "make-https"]

/-- A pattern that can be read, in ASCII and not empty. -/
def IsFilter (v : Json) : Prop :=
  ∃ s : Text, v = .str s ∧ s ≠ [] ∧ s.IsAscii ∧
    ∃ node, Regex.check (s.map CodePoint.char) = .ok node

/-- An object that is the trigger of an entry. -/
structure IsTrigger (v : Json) : Prop where
  object : v.IsObject
  filter : IsFilter (v.field "url-filter")
  caseSensitive : (v.field "url-filter-is-case-sensitive").IsNullOr Json.IsBool
  resourceTypes : (v.field "resource-type").IsNullOr
    (Json.IsRowOf (Json.IsWordOf resourceTypeWords))
  loadTypes : (v.field "load-type").IsNullOr (Json.IsRowOf (Json.IsWordOf loadTypeWords))
  domains : ∀ key ∈ (["if-domain", "unless-domain", "if-top-url", "unless-top-url"] : List String),
    (v.field key).IsNullOr (Json.IsRowOf Json.IsFilledText)

/-- An object that is the action of an entry. -/
structure IsAction (v : Json) : Prop where
  object : v.IsObject
  type : (v.field "type").IsWordOf actionTypeWords
  selector : v.field "type" = .str "css-display-none" → (v.field "selector").IsText

/-- An object that is an entry of a rule list. -/
structure IsEntry (v : Json) : Prop where
  object : v.IsObject
  trigger : IsTrigger (v.field "trigger")
  action : IsAction (v.field "action")

/-! ## Defects -/

/-- A value that cannot be looked up among words, an array or an object, and the defect of that. -/
def IsUnhashable (d : Defect) (v : Json) : Prop :=
  (v.IsArray ∨ v.IsObject) ∧ d = .unhashable v.kindName

/-- The first item of an array that is none of some words cannot be looked up among them. -/
def RowMeets (words : List String) (d : Defect) (v : Json) : Prop :=
  ∃ items, v = .arr items ∧ Until (Json.IsWordOf words) (IsUnhashable d) items

/-- A pattern that is refused for a reason that lies outside the grammar. -/
def FilterMeets (d : Defect) (v : Json) : Prop :=
  ∃ (s : Text) (refusal : Regex.Refusal), v = .str s ∧ s ≠ [] ∧ s.IsAscii ∧
    Regex.check (s.map CodePoint.char) = .error refusal ∧
      (∀ cause place, refusal ≠ .malformed cause place) ∧ d = .pattern refusal

/-- The checks of a trigger pass its fields up to one in which they meet a defect. -/
inductive TriggerMeets (d : Defect) (v : Json) : Prop
  | filter (meets : FilterMeets d (v.field "url-filter"))
  | resourceTypes (filter : IsFilter (v.field "url-filter"))
    (caseSensitive : (v.field "url-filter-is-case-sensitive").IsNullOr Json.IsBool)
    (meets : RowMeets resourceTypeWords d (v.field "resource-type"))
  | loadTypes (filter : IsFilter (v.field "url-filter"))
    (caseSensitive : (v.field "url-filter-is-case-sensitive").IsNullOr Json.IsBool)
    (resourceTypes : (v.field "resource-type").IsNullOr
      (Json.IsRowOf (Json.IsWordOf resourceTypeWords)))
    (meets : RowMeets loadTypeWords d (v.field "load-type"))

/-- An entry in whose trigger a defect is met, or behind it in the type of its action. -/
inductive EntryMeets (d : Defect) (v : Json) : Prop
  | trigger (meets : TriggerMeets d (v.field "trigger"))
  | action (trigger : IsTrigger (v.field "trigger"))
    (meets : IsUnhashable d ((v.field "action").field "type"))

theorem TriggerMeets.isObject {d : Defect} {v : Json} (meets : TriggerMeets d v) : v.IsObject := by
  refine Json.isObject_of_field "url-filter" fun null => ?_
  rcases meets with ⟨s, refusal, text, -⟩ | ⟨⟨s, text, -⟩, -⟩ | ⟨⟨s, text, -⟩, -⟩
  all_goals cases null.symm.trans text

theorem EntryMeets.isObject {d : Defect} {v : Json} (meets : EntryMeets d v) : v.IsObject := by
  refine Json.isObject_of_field "trigger" fun null => ?_
  rcases meets with meets | ⟨trigger, -⟩
  · obtain ⟨_, none⟩ := null ▸ meets.isObject
    cases none
  · obtain ⟨_, none⟩ := null ▸ trigger.object
    cases none

/-! ## Generic rules for checks -/

/-- A check passes on a condition and meets defects on conditions of their own. -/
structure Tells {ε : Type} (check : Except (Finding ε) Unit) (fine : Prop)
    (meets : Defect → Prop) : Prop where
  passes : check = .ok () ↔ fine
  stumbles : ∀ d, check = .error (.defect d) ↔ meets d

section Rules

variable {ε : Type} {check check' : Except (Finding ε) Unit} {fine fine' : Prop}
  {meets meets' : Defect → Prop}

theorem Tells.congr (h : Tells check fine meets) (same : fine ↔ fine')
    (alike : ∀ d, meets d ↔ meets' d) : Tells check fine' meets' :=
  ⟨h.passes.trans same, fun d => (h.stumbles d).trans (alike d)⟩

theorem tells_ok : Tells (.ok () : Except (Finding ε) Unit) True fun _ => False :=
  ⟨by simp, by simp⟩

theorem tells_fault (fault : ε) : Tells (.error (.fault fault)) False fun _ => False :=
  ⟨by simp, by simp⟩

theorem tells_require (condition : Bool) (fault : EntryFault) :
    Tells (require condition fault) (condition = true) fun _ => False := by
  cases condition with
  | true => exact tells_ok.congr (by simp) (by simp)
  | false => exact (tells_fault fault).congr (by simp) (by simp)

/-- Of two checks in a row the second one is reached if the first one passes. -/
theorem Tells.bind (h : Tells check fine meets) (h' : Tells check' fine' meets') :
    Tells (check >>= fun _ => check') (fine ∧ fine') fun d => meets d ∨ fine ∧ meets' d := by
  refine ⟨?_, fun d => ?_⟩
  · rw [← h.passes, ← h'.passes, bind_eq_ok]
    exact ⟨fun ⟨(), here, later⟩ => ⟨here, later⟩, fun ⟨here, later⟩ => ⟨(), here, later⟩⟩
  · rw [← h.stumbles, ← h.passes, ← h'.stumbles]
    cases check <;> simp [Bind.bind, Except.bind]

theorem tells_forM {α : Type} {check : α → Except (Finding ε) Unit} {fine : α → Prop}
    {meets : Defect → α → Prop} (each : ∀ a, Tells (check a) (fine a) (meets · a)) (as : List α) :
    Tells (as.forM check) (∀ a ∈ as, fine a) fun d => Until fine (meets d) as := by
  induction as with
  | nil => exact tells_ok.congr (by simp) fun d => iff_of_false id nofun
  | cons a as ih =>
    exact ((each a).bind ih).congr List.forall_mem_cons.symm fun d => until_cons.symm

theorem optional_eq (fields : Fields) (key : Text) (check : Json → Check Unit) :
    optional fields key check =
      if ((Json.obj fields).field key).isNull then .ok ()
      else check ((Json.obj fields).field key) := by
  have held : (Json.obj fields).field key = (fields.get? key).getD .null := rfl
  unfold optional
  rw [held]
  cases fields.get? key <;> rfl

/-- A check of what an object may lack. -/
theorem tells_optional {check : Json → Check Unit} {fine : Json → Prop}
    {meets : Defect → Json → Prop} (each : ∀ v, Tells (check v) (fine v) (meets · v))
    (null : ∀ d, ¬ meets d .null) (fields : Fields) (key : Text) :
    Tells (optional fields key check) (((Json.obj fields).field key).IsNullOr fine)
      (meets · ((Json.obj fields).field key)) := by
  rw [optional_eq]
  cases (Json.obj fields).field key with
  | null => exact tells_ok.congr (by simp [Json.IsNullOr]) (by simpa using null)
  | bool | int | float | str | arr | obj =>
    exact (each _).congr (by simp [Json.IsNullOr]) fun _ => Iff.rfl

end Rules

/-! ## Values in fields -/

theorem isWord_iff {words : List String} {v : Json} : isWord words v = true ↔ v.IsWordOf words := by
  cases v with
  | str s =>
    simp only [isWord, Option.any_eq_true, List.contains_iff_mem]
    constructor
    · rintro ⟨word, read, known⟩
      exact ⟨word, known, congrArg Json.str (Text.eq_of_string? read)⟩
    · rintro ⟨word, known, same⟩
      cases same
      exact ⟨word, Text.string?_ofString word, known⟩
  | null | bool | int | float | arr | obj => simp [isWord, Json.IsWordOf]

theorem isNonEmptyText_iff {v : Json} : isNonEmptyText v = true ↔ v.IsFilledText := by
  cases v <;> simp [isNonEmptyText, Json.IsFilledText]

theorem tells_checkWord (words : List String) (unknown : String → EntryFault) (v : Json) :
    Tells (checkWord words unknown v) (v.IsWordOf words) (IsUnhashable · v) := by
  unfold checkWord
  cases v with
  | arr items => exact ⟨by simp [Json.hashable, Json.IsWordOf], by
      simp [Json.hashable, IsUnhashable, Json.IsArray, Json.kindName, eq_comm]⟩
  | obj fields => exact ⟨by simp [Json.hashable, Json.IsWordOf], by
      simp [Json.hashable, IsUnhashable, Json.IsObject, Json.kindName, eq_comm]⟩
  | null | bool | int | float | str =>
    exact (tells_require _ _).congr isWord_iff
      (by simp [IsUnhashable, Json.IsArray, Json.IsObject])

theorem not_isRowOf {kind : Json → Prop} {v : Json}
    (other : ∀ first rest, v ≠ .arr (first :: rest)) : ¬ v.IsRowOf kind := by
  rintro ⟨items, rfl, some, -⟩
  obtain ⟨first, rest, rfl⟩ := List.exists_cons_of_ne_nil some
  exact other first rest rfl

theorem not_rowMeets {words : List String} {d : Defect} {v : Json}
    (other : ∀ first rest, v ≠ .arr (first :: rest)) : ¬ RowMeets words d v := by
  rintro ⟨items, rfl, found⟩
  cases found <;> exact other _ _ rfl

theorem tells_checkWords (words : List String) (notList : EntryFault)
    (unknown : String → EntryFault) (v : Json) :
    Tells (checkWords words notList unknown v) (v.IsRowOf (Json.IsWordOf words))
      (RowMeets words · v) := by
  have none {v : Json} (other : ∀ first rest, v ≠ .arr (first :: rest)) :
      Tells (reject notList) (v.IsRowOf (Json.IsWordOf words)) (RowMeets words · v) :=
    (tells_fault notList).congr (iff_of_false id (not_isRowOf other)) fun d =>
      iff_of_false id (not_rowMeets other)
  cases v with
  | arr items =>
    cases items with
    | nil => exact none nofun
    | cons first rest =>
      exact (tells_forM (tells_checkWord words unknown) (first :: rest)).congr
        (by simp [Json.IsRowOf]) (by simp [RowMeets])
  | null | bool | int | float | str | obj => exact none nofun

theorem tells_checkDomains (field : String) (v : Json) :
    Tells (checkDomains field v) (v.IsRowOf Json.IsFilledText) fun _ => False := by
  have none {v : Json} (other : ∀ first rest, v ≠ .arr (first :: rest)) :
      Tells (reject (.domainsNotList field)) (v.IsRowOf Json.IsFilledText) fun _ => False :=
    (tells_fault _).congr (iff_of_false id (not_isRowOf other)) fun _ => Iff.rfl
  cases v with
  | arr items =>
    cases items with
    | nil => exact none nofun
    | cons first rest =>
      refine (tells_require ((first :: rest).all isNonEmptyText) _).congr ?_ fun d => Iff.rfl
      simp only [List.all_eq_true, isNonEmptyText_iff, Json.IsRowOf, Json.arr.injEq,
        exists_eq_left', ne_eq, reduceCtorEq, not_false_eq_true, true_and]
  | null | bool | int | float | str | obj => exact none nofun

theorem tells_checkFilter (v : Json) :
    Tells (checkFilter (some v)) (IsFilter v) (FilterMeets · v) := by
  cases v with
  | str s =>
    rw [checkFilter_str]
    by_cases empty : s = []
    · rw [if_pos empty]
      exact (tells_fault _).congr (by simp [IsFilter, empty]) (by simp [FilterMeets, empty])
    · rw [if_neg empty]
      by_cases ascii : s.IsAscii
      · rw [if_pos ascii, checkPattern]
        cases read : Regex.check (s.map CodePoint.char) with
        | ok node =>
          exact tells_ok.congr (by simp [IsFilter, empty, ascii, read])
            (by simp [FilterMeets, read])
        | error refusal =>
          cases refusal with
          | malformed cause place =>
            exact (tells_fault _).congr (by simp [IsFilter, read]) (by simp [FilterMeets, read])
          | _ =>
            exact ⟨by simp [IsFilter, read], by simp [FilterMeets, empty, ascii, read, eq_comm]⟩
      · rw [if_neg ascii]
        exact (tells_fault _).congr (by simp [IsFilter, ascii]) (by simp [FilterMeets, ascii])
  | null | bool | int | float | arr | obj =>
    exact (tells_fault _).congr (by simp [IsFilter]) (by simp [FilterMeets])

/-! ## Triggers, actions and entries -/

/-- Where null is refused like nothing, a check may as well be of what an object holds. -/
theorem checked_field (check : Option Json → Check Unit) (alike : check none = check (some .null))
    (fields : Fields) (key : Text) :
    check (fields.get? key) = check (some ((Json.obj fields).field key)) := by
  have held : (Json.obj fields).field key = (fields.get? key).getD .null := rfl
  rw [held]
  cases fields.get? key with
  | none => exact alike
  | some v => rfl

theorem tells_checkCase (v : Json) :
    Tells (require v.bool?.isSome .caseNotBoolean) v.IsBool fun _ => False :=
  (tells_require _ _).congr Json.isSome_bool? fun _ => Iff.rfl

theorem tells_checkTrigger (v : Json) :
    Tells (checkTrigger (some v)) (IsTrigger v) (TriggerMeets · v) := by
  cases v with
  | obj fields =>
    have noFields (d : Defect) (words : List String) : ¬ RowMeets words d .null := by
      simp [RowMeets]
    have row := (tells_checkFilter ((Json.obj fields).field "url-filter")).bind
      ((tells_optional tells_checkCase (by simp) fields "url-filter-is-case-sensitive").bind
      ((tells_optional (tells_checkWords resourceTypeWords .resourceTypesNotList
        .unknownResourceType) (noFields · _) fields "resource-type").bind
      ((tells_optional (tells_checkWords loadTypeWords .loadTypesNotList .unknownLoadType)
        (noFields · _) fields "load-type").bind
      (tells_forM (fun field : String => tells_optional (tells_checkDomains field) (by simp) fields
        field) domainFields))))
    rw [← checked_field checkFilter rfl] at row
    refine row.congr ?_ fun d => ?_
    · constructor
      · rintro ⟨filter, caseSensitive, resourceTypes, loadTypes, domains⟩
        exact ⟨⟨fields, rfl⟩, filter, caseSensitive, resourceTypes, loadTypes, domains⟩
      · rintro ⟨-, filter, caseSensitive, resourceTypes, loadTypes, domains⟩
        exact ⟨filter, caseSensitive, resourceTypes, loadTypes, domains⟩
    · constructor
      · rintro (meets | ⟨filter, meets | ⟨caseSensitive, meets | ⟨resourceTypes, meets | domains⟩⟩⟩)
        · exact .filter meets
        · cases meets
        · exact .resourceTypes filter caseSensitive meets
        · exact .loadTypes filter caseSensitive resourceTypes meets
        · obtain ⟨-, -, none⟩ := domains.2.exists_mem
          cases none
      · rintro (meets | ⟨filter, caseSensitive, meets⟩ |
          ⟨filter, caseSensitive, resourceTypes, meets⟩)
        · exact .inl meets
        · exact .inr ⟨filter, .inr ⟨caseSensitive, .inl meets⟩⟩
        · exact .inr ⟨filter, .inr ⟨caseSensitive, .inr ⟨resourceTypes, .inl meets⟩⟩⟩
  | null | bool | int | float | str | arr =>
    refine (tells_fault _).congr (iff_of_false id ?_) fun d => iff_of_false id ?_
    · rintro ⟨⟨_, ⟨⟩⟩, -⟩
    · intro meets
      obtain ⟨_, ⟨⟩⟩ := meets.isObject

/-- The selector is asked for where the words for the type are hidden elements. -/
theorem tells_checkAction (v : Json) :
    Tells (checkAction (some v)) (IsAction v) fun d => IsUnhashable d (v.field "type") := by
  cases v with
  | obj fields =>
    let type := (Json.obj fields).field "type"
    have selector : Tells (require (type.str? ≠ some ↑"css-display-none" ||
        ((Table.get? fields "selector").bind Json.str?).isSome) .selectorMissing)
        (type = .str "css-display-none" → ((Json.obj fields).field "selector").IsText)
        fun _ => False := by
      refine (tells_require _ _).congr ?_ fun _ => Iff.rfl
      rw [Bool.or_eq_true, decide_eq_true_eq, ← Json.str?_field, Json.isSome_str?, ne_eq,
        Json.str?_eq_some, imp_iff_not_or]
    have row := (tells_checkWord actionTypeWords .unknownAction type).bind selector
    refine row.congr ?_ fun d => ?_
    · exact ⟨fun ⟨type, selector⟩ => ⟨⟨fields, rfl⟩, type, selector⟩,
        fun ⟨_, type, selector⟩ => ⟨type, selector⟩⟩
    · simp [type]
  | null | bool | int | float | str | arr =>
    refine (tells_fault _).congr (iff_of_false id ?_) fun d => iff_of_false id ?_
    · rintro ⟨⟨_, ⟨⟩⟩, -⟩
    · rintro ⟨⟨_, none⟩ | ⟨_, none⟩, -⟩ <;> cases none

theorem tells_checkEntry (v : Json) : Tells (checkEntry v) (IsEntry v) (EntryMeets · v) := by
  cases v with
  | obj fields =>
    have row := (tells_checkTrigger ((Json.obj fields).field "trigger")).bind
      (tells_checkAction ((Json.obj fields).field "action"))
    rw [← checked_field checkTrigger rfl, ← checked_field checkAction rfl] at row
    refine row.congr ?_ fun d => ?_
    · exact ⟨fun ⟨trigger, action⟩ => ⟨⟨fields, rfl⟩, trigger, action⟩,
        fun ⟨_, trigger, action⟩ => ⟨trigger, action⟩⟩
    · constructor
      · rintro (meets | ⟨trigger, meets⟩)
        · exact .trigger meets
        · exact .action trigger meets
      · rintro (meets | ⟨trigger, meets⟩)
        · exact .inl meets
        · exact .inr ⟨trigger, meets⟩
  | null | bool | int | float | str | arr =>
    refine (tells_fault _).congr (iff_of_false id ?_) fun d => iff_of_false id ?_
    · rintro ⟨⟨_, ⟨⟩⟩, -⟩
    · intro meets
      obtain ⟨_, ⟨⟩⟩ := meets.isObject

end RuleList

end ContentBlocker
