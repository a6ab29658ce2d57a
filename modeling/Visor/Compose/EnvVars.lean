import Visor.Build.Dockerfile

/-! Braces are read up to the first closing one. Where they are not closed, the rest of the file is
taken for an expression. -/

namespace Visor.Compose
open Library Backend Build List

def resolveVarExpr (varLookup : Text → Option Text) (expr : Text) : Text :=
  match splitAtPair ':' '-' expr with
  | some (varName, defaultVal) => ((varLookup varName).filter (· ≠ [])).getD defaultVal
  | none =>
    match splitOnce '-' expr with
    | some (varName, defaultVal) => (varLookup varName).getD defaultVal
    | none => (varLookup expr).getD []

/-- The loop, with the expression that is being collected, if any, and what becomes of expressions
that are closed and of one that is not. -/
def expandLoop (closed unclosed : Text → Text) : Option Text → Text → Text
  | none, [] => []
  | some expr, [] => unclosed expr
  | none, '$' :: '\x7b' :: rest => expandLoop closed unclosed (some []) rest
  | none, char :: rest => char :: expandLoop closed unclosed none rest
  | some expr, char :: rest =>
    if char = '\x7d' then closed expr ++ expandLoop closed unclosed none rest
    else expandLoop closed unclosed (some (expr ++ [char])) rest

def expandEnvVars (varLookup : Text → Option Text) (input : Text) : Text :=
  expandLoop (resolveVarExpr varLookup) (resolveVarExpr varLookup) none input

/-- The operator is the one right after the name. -/
def exprValue (varLookup : Text → Option Text) (expr : Text) : Text :=
  match splitOnce '-' expr with
  | none => (varLookup expr).getD []
  | some (before, defaultVal) =>
    if before.getLast? = some ':' then ((varLookup before.dropLast).filter (· ≠ [])).getD defaultVal
    else (varLookup before).getD defaultVal

/-- The expansion of a text: braces have the value of what they hold up to the first closing one,
all else stays as it stands. -/
inductive Expands (varLookup : Text → Option Text) : Text → Text → Prop
  | done : Expands varLookup [] []
  | plain {char : Char} {rest out : Text} (noBrace : char = '$' → rest.head? ≠ some '\x7b')
    (others : Expands varLookup rest out) : Expands varLookup (char :: rest) (char :: out)
  | closed {expr rest out : Text} (first : '\x7d' ∉ expr) (others : Expands varLookup rest out) :
    Expands varLookup ('$' :: '\x7b' :: (expr ++ '\x7d' :: rest)) (exprValue varLookup expr ++ out)
  | unclosed {expr : Text} (noEnd : '\x7d' ∉ expr) :
    Expands varLookup ('$' :: '\x7b' :: expr) ('$' :: '\x7b' :: expr)

/-- All braces are closed, and something holds of what is in them. -/
def AllClosed (holds : Text → Prop) : Option Text → Text → Prop
  | none, [] => True
  | some _, [] => False
  | none, '$' :: '\x7b' :: rest => AllClosed holds (some []) rest
  | none, _ :: rest => AllClosed holds none rest
  | some expr, char :: rest =>
    if char = '\x7d' then holds expr ∧ AllClosed holds none rest
    else AllClosed holds (some (expr ++ [char])) rest

/-- No dash stands before the first `:-`. -/
def FirstIsOperator (expr : Text) : Prop :=
  ∀ name defaultVal, splitAtPair ':' '-' expr = some (name, defaultVal) → '-' ∉ name

theorem splitAtPair_eq {expr name after : Text} {first second : Char}
    (found : splitAtPair first second expr = some (name, after)) :
    expr = name ++ first :: second :: after := by
  fun_induction splitAtPair first second expr generalizing name with
  | case1 | case3 => grind
  | case2 one two rest _ ih =>
    obtain ⟨⟨inner, _⟩, inRest, same⟩ := Option.map_eq_some_iff.mp found
    cases same
    rw [cons_append, ← ih inRest]

private theorem getLast_of_unpaired {expr before after : Text}
    (unpaired : splitAtPair ':' '-' expr = none)
    (split : splitOnce '-' expr = some (before, after)) :
    before.getLast? ≠ some ':' := by
  fun_induction splitAtPair ':' '-' expr generalizing before with
  | case1 => exact nomatch unpaired
  | case2 one two rest _ ih =>
    rw [splitOnce] at split
    split_ifs at split with dash
    · grind
    · obtain ⟨⟨inner, _⟩, inRest, same⟩ := Option.map_eq_some_iff.mp split
      cases same
      have := ih (Option.map_eq_none_iff.mp unpaired) inRest
      cases inner with
      | cons => grind
      | nil =>
        have : two = '-' := by grind [splitOnce, Option.map_eq_some_iff]
        grind
  | case3 short => rcases short with _ | ⟨_, _ | _⟩ <;> grind [splitOnce]

theorem resolveVarExpr_eq (varLookup : Text → Option Text) {expr : Text}
    (first : FirstIsOperator expr) :
    resolveVarExpr varLookup expr = exprValue varLookup expr := by
  rw [resolveVarExpr, exprValue]
  cases found : splitAtPair ':' '-' expr with
  | some parts =>
    obtain ⟨name, defaultVal⟩ := parts
    have dash : '-' ∉ name ++ [':'] := by simp [first name defaultVal found]
    rw [splitAtPair_eq found, append_cons name, splitOnce_append dash]
    simp
  | none =>
    cases split : splitOnce '-' expr with
    | none => rfl
    | some => simp [getLast_of_unpaired found split]

theorem Expands.unique {varLookup : Text → Option Text} {input out other : Text}
    (one : Expands varLookup input out) (second : Expands varLookup input other) : out = other := by
  induction one generalizing other with
  | done =>
    cases second
    rfl
  | plain noBrace others ih =>
    cases second with
    | plain _ again => rw [ih again]
    | closed | unclosed => exact absurd rfl (noBrace rfl)
  | @closed expr rest out first others ih =>
    generalize whole : expr ++ '\x7d' :: rest = text at second
    cases second with
    | plain noBrace => exact absurd rfl (noBrace rfl)
    | closed otherFirst again =>
      have parts := (splitOnce_append first rest).symm.trans
        (whole ▸ splitOnce_append otherFirst _)
      cases parts
      rw [ih again]
    | unclosed noEnd => exact absurd (whole ▸ mem_append_right _ (.head _)) noEnd
  | @unclosed expr noEnd =>
    generalize whole : expr = text at second
    cases second with
    | plain noBrace => exact absurd rfl (noBrace rfl)
    | closed => exact absurd (whole ▸ mem_append_right _ (.head _)) noEnd
    | unclosed => rfl

/-- The loop, from its start or with an expression that is being collected. -/
theorem expands_expandLoop (varLookup : Text → Option Text) (collected : Option Text)
    (input : Text) (all : AllClosed FirstIsOperator collected input)
    (noEnd : ∀ expr ∈ collected, '\x7d' ∉ expr) :
    Expands varLookup (collected.elim input fun expr => '$' :: '\x7b' :: (expr ++ input))
      (expandLoop (resolveVarExpr varLookup) (resolveVarExpr varLookup) collected input) := by
  fun_induction AllClosed FirstIsOperator collected input with
  | case1 => exact .done
  | case2 => exact all.elim
  | case3 rest ih => exact ih all (by simp)
  | case4 char rest notOpen ih =>
    rw [expandLoop]
    · refine .plain ?_ (ih all nofun)
      intro dollar opens
      obtain ⟨tail, rfl⟩ := head?_eq_some_iff.mp opens
      exact notOpen tail dollar rfl
    · exact notOpen
  | case5 expr rest ih =>
    rw [expandLoop, if_pos rfl, resolveVarExpr_eq varLookup all.1]
    exact .closed (noEnd expr rfl) (ih all.2 nofun)
  | case6 expr char rest notEnd ih =>
    rw [expandLoop, if_neg notEnd]
    have further := ih all (by simpa [noEnd expr rfl] using Ne.symm notEnd)
    simpa using further

/-- Where all braces are closed and hold no dash before their `:-`, what is returned is the
expansion of the text. -/
theorem expansion_of_closed (varLookup : Text → Option Text) (input : Text)
    (closed : AllClosed FirstIsOperator none input) (output : Text) :
    expandEnvVars varLookup input = output ↔ Expands varLookup input output := by
  have expands := expands_expandLoop varLookup none input closed nofun
  exact ⟨fun same => same ▸ expands, fun other => expands.unique other⟩

theorem expansion_of_default : AllClosed FirstIsOperator none "a$\x7bB-c-:d\x7d".toList ∧
    Expands (fun _ => none) "a$\x7bB-c-:d\x7d".toList "ac-:d".toList := by
  have closed : AllClosed FirstIsOperator none "a$\x7bB-c-:d\x7d".toList := by
    simp [AllClosed, FirstIsOperator, splitAtPair]
  exact ⟨closed, (expansion_of_closed _ _ closed _).mp (by decide)⟩

/-- Without its brace an expression takes the rest of the file with it, and a default is cut at the
other operator. -/
theorem swallowed_rest :
    expandEnvVars (fun _ => none) "a$\x7bB: c".toList = "a".toList ∧
      Expands (fun _ => none) "a$\x7bB: c".toList "a$\x7bB: c".toList ∧
      expandEnvVars (fun _ => none) "$\x7bB-c:-d\x7d".toList = "d".toList ∧
      Expands (fun _ => none) "$\x7bB-c:-d\x7d".toList "c:-d".toList := by
  refine ⟨by decide, .plain (by decide) (.unclosed (by decide)), by decide, ?_⟩
  exact .closed (by decide : '\x7d' ∉ "B-c:-d".toList) .done

end Visor.Compose
