/-! The compact writer of JSON values. A written value can be told from its text whatever follows
it, as long as no digit does; so two values with one text are equal. -/

namespace Visor.Library
open List Nat Option Char

def NoDigit (rest : List Char) : Prop := ∀ next ∈ rest.head?, next.isDigit = false

theorem noDigit_nil : NoDigit [] := by rintro _ ⟨⟩

theorem noDigit_cons {next : Char} {rest : List Char} (stops : next.isDigit = false) :
    NoDigit (next :: rest) := by
  rintro _ ⟨⟩
  exact stops

def decimal (number : Nat) : List Char := toDigits 10 number

theorem isDigit_of_mem_decimal {number : Nat} {digit : Char} (mem : digit ∈ decimal number) :
    digit.isDigit = true := isDigit_of_mem_toDigits (by decide) (by decide) mem

theorem decimal_injective {number other : Nat} (same : decimal number = decimal other) :
    number = other := by
  have value := congrArg (fun digits => ofDigitChars 10 digits 0) same
  simpa only [decimal, ofDigitChars_ten_toDigits] using value

theorem head_decimal (number : Nat) : ∃ head tail, decimal number = head :: tail ∧ head.isDigit = true := by
  obtain ⟨head, tail, written⟩ := exists_cons_of_ne_nil (show decimal number ≠ [] from toDigits_ne_nil)
  have mem : head ∈ decimal number := by simp [written]
  exact ⟨head, tail, written, isDigit_of_mem_decimal mem⟩

theorem ne_of_digit {head mark : Char} (digit : head.isDigit = true)
    (letter : mark.isDigit = false) : head ≠ mark := by
  rintro rfl
  exact absurd (digit.symm.trans letter) (by decide)

private theorem takeWhile_decimal (number : Nat) {rest : List Char} (stops : NoDigit rest) :
    (decimal number ++ rest).takeWhile isDigit = decimal number := by
  rw [takeWhile_append_of_pos fun digit mem => isDigit_of_mem_decimal mem]
  cases rest with
  | nil => simp
  | cons next => simp [stops next rfl]

theorem decimal_append {number other : Nat} {rest tail : List Char} (stops : NoDigit rest)
    (ends : NoDigit tail) (same : decimal number ++ rest = decimal other ++ tail) :
    number = other ∧ rest = tail := by
  have digits := congrArg (takeWhile isDigit) same
  rw [takeWhile_decimal number stops, takeWhile_decimal other ends] at digits
  rw [digits] at same
  exact ⟨decimal_injective digits, append_cancel_left same⟩

/-- Characters that are written as a backslash and a letter. -/
def shortEscapes : List (Char × Char) :=
  [('"', '"'), ('\\', '\\'), (ofNat 8, 'b'), (ofNat 12, 'f'), ('\n', 'n'), ('\r', 'r'), ('\t', 't')]

def escape (char : Char) : List Char :=
  match shortEscapes.lookup char with
  | some letter => ['\\', letter]
  | none =>
    if char.toNat < 32 then
      ['\\', 'u', '0', '0', digitChar (char.toNat / 16), digitChar (char.toNat % 16)]
    else [char]

theorem shortEscapes_injective :
    ∀ first ∈ shortEscapes, ∀ second ∈ shortEscapes, first.2 = second.2 → first.1 = second.1 := by
  decide

theorem shortEscapes_ne : ∀ entry ∈ shortEscapes, entry.2 ≠ 'u' := by decide

theorem controls_injective : ∀ first < 32, ∀ second < 32, digitChar (first / 16) = digitChar (second / 16) →
    digitChar (first % 16) = digitChar (second % 16) → first = second := by decide

inductive Escaped (char : Char) : List Char → Prop
  | short {letter : Char} : (char, letter) ∈ shortEscapes → Escaped char ['\\', letter]
  | control : char.toNat < 32 →
    Escaped char ['\\', 'u', '0', '0', digitChar (char.toNat / 16), digitChar (char.toNat % 16)]
  | plain : char ≠ '\\' → char ≠ '"' → Escaped char [char]

theorem escaped (char : Char) : Escaped char (escape char) := by
  unfold escape
  split
  next letter short =>
    obtain ⟨before, after, split, _⟩ := lookup_eq_some_iff.mp short
    exact .short (by simp [split])
  next unlisted =>
    split
    next control =>
      exact .control control
    · refine .plain ?_ ?_ <;> rintro rfl <;> exact nomatch unlisted

theorem escape_append {char other : Char} {rest tail : List Char}
    (same : escape char ++ rest = escape other ++ tail) : char = other ∧ rest = tail := by
  have one := escaped char
  have two := escaped other
  generalize escape char = text at one same
  generalize escape other = word at two same
  have sameHead := congrArg List.head? same
  have sameTail := congrArg List.tail same
  cases one with
  | short listed =>
    cases two with
    | short known =>
      obtain ⟨rfl, sameRest⟩ := List.cons.inj sameTail
      exact ⟨shortEscapes_injective _ listed _ known rfl, sameRest⟩
    | control => exact absurd (List.cons.inj sameTail).1 (shortEscapes_ne _ listed)
    | plain notEscape => exact absurd (some.inj sameHead).symm notEscape
  | control small =>
    cases two with
    | short known => exact absurd (List.cons.inj sameTail).1.symm (shortEscapes_ne _ known)
    | control little =>
      obtain ⟨high, low, sameRest⟩ := by simpa using sameTail
      exact ⟨toNat_inj.mp (controls_injective _ small _ little high low), sameRest⟩
    | plain notEscape => exact absurd (some.inj sameHead).symm notEscape
  | plain notEscape =>
    cases two with
    | short | control => exact absurd (some.inj sameHead) notEscape
    | plain => exact ⟨some.inj sameHead, sameTail⟩

def quoted (text : List Char) : List Char := '"' :: (text.flatMap escape ++ ['"'])

private theorem escape_ne (char : Char) (rest tail : List Char) : escape char ++ rest ≠ '"' :: tail := by
  intro same
  have shape := escaped char
  generalize escape char = text at shape same
  cases shape with
  | short | control => exact absurd (List.cons.inj same).1 (by decide)
  | plain _ notQuote => exact notQuote (List.cons.inj same).1

private theorem flatMap_escape_append {text word rest tail : List Char}
    (same : text.flatMap escape ++ '"' :: rest = word.flatMap escape ++ '"' :: tail) :
    text = word ∧ rest = tail := by
  induction text generalizing word with
  | nil =>
    cases word with
    | nil => exact ⟨rfl, (List.cons.inj same).2⟩
    | cons =>
      rw [flatMap_cons, append_assoc] at same
      exact absurd same.symm (escape_ne _ _ _)
  | cons char text ih =>
    cases word with
    | nil =>
      rw [flatMap_cons, append_assoc] at same
      exact absurd same (escape_ne _ _ _)
    | cons =>
      simp only [flatMap_cons, append_assoc] at same
      obtain ⟨rfl, sameText⟩ := escape_append same
      obtain ⟨rfl, sameRest⟩ := ih sameText
      exact ⟨rfl, sameRest⟩

theorem quoted_append {text word rest tail : List Char}
    (same : quoted text ++ rest = quoted word ++ tail) : text = word ∧ rest = tail := by
  simp only [quoted, cons_append, append_assoc, nil_append, List.cons.injEq, true_and] at same
  exact flatMap_escape_append same

inductive Json where
  | null
  | bool (value : Bool)
  | number (value : Int)
  | string (text : List Char)
  | array (items : List Json)
  | object (fields : List (List Char × Json))

mutual

def Json.render : Json → List Char
  | .null => "null".toList
  | .bool true => "true".toList
  | .bool false => "false".toList
  | .number (.ofNat value) => decimal value
  | .number (.negSucc value) => '-' :: decimal (value + 1)
  | .string text => quoted text
  | .array [] => ['[', ']']
  | .array (item :: items) => '[' :: (item.render ++ renderItems items)
  | .object [] => ['\x7b', '\x7d']
  | .object ((name, value) :: fields) =>
    '\x7b' :: (quoted name ++ ':' :: (value.render ++ renderFields fields))

def renderItems : List Json → List Char
  | [] => [']']
  | item :: items => ',' :: (item.render ++ renderItems items)

def renderFields : List (List Char × Json) → List Char
  | [] => ['\x7d']
  | (name, value) :: fields => ',' :: (quoted name ++ ':' :: (value.render ++ renderFields fields))

end

inductive Json.Kind where
  | null
  | bool
  | number
  | string
  | array
  | object

def Json.kind : Json → Kind
  | .null => .null
  | .bool _ => .bool
  | .number _ => .number
  | .string _ => .string
  | .array _ => .array
  | .object _ => .object

def leads (head : Char) : Json.Kind :=
  if head = 'n' then .null
  else if head = 't' ∨ head = 'f' then .bool
  else if head = '"' then .string
  else if head = '[' then .array
  else if head = '\x7b' then .object
  else .number

private theorem leads_digit {head : Char} (digit : head.isDigit = true) : leads head = .number := by
  have other (mark : Char) (letter : mark.isDigit = false) : head ≠ mark := ne_of_digit digit letter
  simp [leads, other]

theorem head_render (value : Json) :
    ∃ head tail, value.render = head :: tail ∧ leads head = value.kind ∧ head ≠ ']' := by
  cases value with
  | null | string => exact ⟨_, _, rfl, rfl, by decide⟩
  | bool value => cases value <;> exact ⟨_, _, rfl, rfl, by decide⟩
  | number value =>
    cases value with
    | ofNat value =>
      obtain ⟨head, tail, written, digit⟩ := head_decimal value
      exact ⟨head, tail, written, leads_digit digit, ne_of_digit digit (by decide)⟩
    | negSucc => exact ⟨_, _, rfl, rfl, by decide⟩
  | array items => cases items <;> exact ⟨_, _, rfl, rfl, by decide⟩
  | object fields => cases fields <;> exact ⟨_, _, rfl, rfl, by decide⟩

theorem kind_eq {value other : Json} {rest tail : List Char}
    (same : value.render ++ rest = other.render ++ tail) : value.kind = other.kind := by
  obtain ⟨head, text, written, kind, -⟩ := head_render value
  obtain ⟨start, word, spelled, sort, -⟩ := head_render other
  rw [written, spelled] at same
  rw [← kind, ← sort, (List.cons.inj same).1]

theorem number_append {value other : Int} {rest tail : List Char} (stops : NoDigit rest)
    (ends : NoDigit tail)
    (same : (Json.number value).render ++ rest = (Json.number other).render ++ tail) :
    value = other ∧ rest = tail := by
  have unsigned (value : Nat) (rest tail : List Char) : decimal value ++ rest ≠ '-' :: tail := by
    obtain ⟨head, text, written, digit⟩ := head_decimal value
    rw [written]
    exact fun same => ne_of_digit digit (by decide) (List.cons.inj same).1
  cases value with
  | ofNat value =>
    cases other with
    | ofNat =>
      obtain ⟨rfl, sameRest⟩ := decimal_append stops ends same
      exact ⟨rfl, sameRest⟩
    | negSucc => exact absurd same (unsigned value _ _)
  | negSucc =>
    cases other with
    | ofNat other => exact absurd same.symm (unsigned other _ _)
    | negSucc =>
      obtain ⟨sameValue, sameRest⟩ := decimal_append stops ends (List.cons.inj same).2
      exact ⟨congrArg Int.negSucc (succ.inj sameValue), sameRest⟩

theorem noDigit_renderItems (items : List Json) (rest : List Char) :
    NoDigit (renderItems items ++ rest) := by
  cases items <;> exact noDigit_cons (by decide)

theorem noDigit_renderFields (fields : List (List Char × Json)) (rest : List Char) :
    NoDigit (renderFields fields ++ rest) := by
  obtain _ | ⟨⟨_, _⟩, _⟩ := fields <;> exact noDigit_cons (by decide)

mutual

theorem Json.render_append (value other : Json) {rest tail : List Char} (stops : NoDigit rest)
    (ends : NoDigit tail) (same : value.render ++ rest = other.render ++ tail) :
    value = other ∧ rest = tail := by
  have kinds := kind_eq same
  cases value with
  | null =>
    cases other with
    | null => exact ⟨rfl, append_cancel_left same⟩
    | _ => exact nomatch kinds
  | bool value =>
    cases other with
    | bool other =>
      cases value <;> cases other
      · exact ⟨rfl, append_cancel_left same⟩
      · exact absurd (List.cons.inj same).1 (by decide)
      · exact absurd (List.cons.inj same).1 (by decide)
      · exact ⟨rfl, append_cancel_left same⟩
    | _ => exact nomatch kinds
  | number =>
    cases other with
    | number =>
      obtain ⟨rfl, sameRest⟩ := number_append stops ends same
      exact ⟨rfl, sameRest⟩
    | _ => exact nomatch kinds
  | string =>
    cases other with
    | string =>
      obtain ⟨rfl, sameRest⟩ := quoted_append same
      exact ⟨rfl, sameRest⟩
    | _ => exact nomatch kinds
  | array items =>
    cases other with
    | array others =>
      cases items with
      | nil =>
        cases others with
        | nil => exact ⟨rfl, append_cancel_left same⟩
        | cons other =>
          obtain ⟨head, text, written, -, opened⟩ := head_render other
          simp only [Json.render, written] at same
          exact absurd (List.cons.inj (List.cons.inj same).2).1.symm opened
      | cons item items =>
        cases others with
        | nil =>
          obtain ⟨head, text, written, -, opened⟩ := head_render item
          simp only [Json.render, written] at same
          exact absurd (List.cons.inj (List.cons.inj same).2).1 opened
        | cons other others =>
          obtain ⟨sameItems, sameRest⟩ := renderItems_append (item :: items) (other :: others)
            (congrArg (',' :: ·) (List.cons.inj same).2)
          exact ⟨congrArg Json.array sameItems, sameRest⟩
    | _ => exact nomatch kinds
  | object fields =>
    cases other with
    | object others =>
      cases fields with
      | nil =>
        cases others with
        | nil => exact ⟨rfl, append_cancel_left same⟩
        | cons => exact absurd (List.cons.inj (List.cons.inj same).2).1 (by decide)
      | cons field fields =>
        cases others with
        | nil => exact absurd (List.cons.inj (List.cons.inj same).2).1 (by decide)
        | cons other others =>
          obtain ⟨sameFields, sameRest⟩ := renderFields_append (field :: fields)
            (other :: others) (congrArg (',' :: ·) (List.cons.inj same).2)
          exact ⟨congrArg Json.object sameFields, sameRest⟩
    | _ => exact nomatch kinds

theorem renderItems_append (items others : List Json) {rest tail : List Char}
    (same : renderItems items ++ rest = renderItems others ++ tail) : items = others ∧ rest = tail := by
  cases items with
  | nil =>
    cases others with
    | nil => exact ⟨rfl, append_cancel_left same⟩
    | cons => exact absurd (List.cons.inj same).1 (by decide)
  | cons item items =>
    cases others with
    | nil => exact absurd (List.cons.inj same).1 (by decide)
    | cons other others =>
      simp only [renderItems, cons_append, append_assoc, List.cons.injEq, true_and] at same
      obtain ⟨rfl, sameItems⟩ :=
        Json.render_append item other (noDigit_renderItems _ _) (noDigit_renderItems _ _) same
      obtain ⟨rfl, sameRest⟩ := renderItems_append items others sameItems
      exact ⟨rfl, sameRest⟩

theorem renderFields_append (fields others : List (List Char × Json)) {rest tail : List Char}
    (same : renderFields fields ++ rest = renderFields others ++ tail) : fields = others ∧ rest = tail := by
  cases fields with
  | nil =>
    cases others with
    | nil => exact ⟨rfl, append_cancel_left same⟩
    | cons => exact absurd (List.cons.inj same).1 (by decide)
  | cons field fields =>
    cases others with
    | nil =>
      obtain ⟨name, value⟩ := field
      exact absurd (List.cons.inj same).1 (by decide)
    | cons other others =>
      obtain ⟨name, value⟩ := field
      obtain ⟨otherName, otherValue⟩ := other
      simp only [renderFields, cons_append, append_assoc, List.cons.injEq, true_and] at same
      obtain ⟨rfl, sameValues⟩ := quoted_append same
      obtain ⟨rfl, sameFields⟩ := Json.render_append value otherValue (noDigit_renderFields _ _)
        (noDigit_renderFields _ _) (List.cons.inj sameValues).2
      obtain ⟨rfl, sameRest⟩ := renderFields_append fields others sameFields
      exact ⟨rfl, sameRest⟩

end

theorem Json.render_injective {value other : Json} (same : value.render = other.render) : value = other :=
  (Json.render_append value other noDigit_nil noDigit_nil (congrArg (· ++ []) same)).1

end Visor.Library
