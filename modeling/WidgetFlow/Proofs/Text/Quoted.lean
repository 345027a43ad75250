import Mathlib.Tactic.Ring
import WidgetFlow.Decimal.Fraction
import WidgetFlow.Text.Quoted

/-!
# Quoted texts can be told apart

There are four ways to write a character between quotes (`Written`). Each tells which character it
is and where the next one begins (`readChar?_escapeChar`). So a quoted text shows where it ends,
whatever follows it, and texts that are quoted alike are the same (`quoted_append_inj`). Only
printable characters are written (`isPrintable_of_mem_quoted`).
-/

namespace WidgetFlow.Text

/-! ### Hexadecimal digits -/

theorem digitValue_digitChar : ∀ d < 16, Decimal.digitValue (Nat.digitChar d) = d := by decide

theorem isPrintable_digitChar : ∀ d < 16, isPrintable (Nat.digitChar d) = true := by decide

theorem hexDigits_succ (width n : Nat) :
    hexDigits (width + 1) n = Nat.digitChar (n / 16 ^ width % 16) :: hexDigits width n := by
  rw [hexDigits, List.range_succ_eq_map, List.map_cons, List.map_map]
  refine congrArg₂ _ rfl (List.map_congr_left fun i _ => ?_)
  have place : width + 1 - 1 - (i + 1) = width - 1 - i := by omega
  rw [Function.comp_apply, place]

theorem length_hexDigits (width n : Nat) : (hexDigits width n).length = width := by
  rw [hexDigits, List.length_map, List.length_range]

theorem exists_of_mem_hexDigits {width n : Nat} {x : Char} (digit : x ∈ hexDigits width n) :
    ∃ d < 16, x = Nat.digitChar d := by
  obtain ⟨i, -, rfl⟩ := List.mem_map.1 digit
  exact ⟨_, Nat.mod_lt _ (by decide), rfl⟩

/-- Digits that follow a number make it a number with so many more places. -/
theorem foldl_hexDigits (width n v : Nat) :
    (hexDigits width n).foldl (fun v d => 16 * v + Decimal.digitValue d) v =
      v * 16 ^ width + n % 16 ^ width := by
  induction width generalizing v with
  | zero => simp [hexDigits, Nat.mod_one]
  | succ width ih =>
    rw [hexDigits_succ, List.foldl_cons, ih, digitValue_digitChar _ (Nat.mod_lt _ (by decide)),
      Nat.mod_pow_succ, Nat.pow_succ]
    ring

theorem digits?_hexDigits {width n : Nat} (wide : 0 < width) (fits : n < 16 ^ width) :
    Decimal.digits? 16 (hexDigits width n) = some n := by
  have filled : (hexDigits width n).isEmpty = false := by
    rw [List.isEmpty_eq_false_iff, ← List.length_pos_iff, length_hexDigits]
    exact wide
  have proper : (hexDigits width n).any (fun d => 16 ≤ Decimal.digitValue d) = false := by
    rw [List.any_eq_false]
    intro x digit
    obtain ⟨d, small, rfl⟩ := exists_of_mem_hexDigits digit
    simpa [digitValue_digitChar d small] using small
  rw [Decimal.digits?, filled, proper, foldl_hexDigits, Nat.zero_mul, Nat.zero_add,
    Nat.mod_eq_of_lt fits]
  rfl

/-! ### How a character is written -/

/-- The letters that announce a code, and how many digits it has. -/
def codeForms : List (Char × Nat) := [('x', 2), ('u', 4), ('U', 8)]

theorem lookup_codeForms : ∀ f ∈ codeForms, codeForms.lookup f.1 = some f.2 ∧ 0 < f.2 := by decide

theorem isPrintable_codeForms : ∀ f ∈ codeForms, isPrintable f.1 = true := by decide

/-- The ways to write a character between double quotes. -/
inductive Written (c : Char) : List Char → Prop where
  | guarded (special : c = '"' ∨ c = '\\') : Written c ['\\', c]
  | shown (plain : c ≠ '\\') (printable : isPrintable c = true) : Written c [c]
  | letter {l : Char} (given : controlLetter? c = some l) : Written c ['\\', l]
  | code {mark : Char} {width : Nat} (form : (mark, width) ∈ codeForms)
      (fits : c.toNat < 16 ^ width) : Written c ('\\' :: mark :: hexDigits width c.toNat)

theorem toNat_lt (c : Char) : c.toNat < 16 ^ 8 := by
  have valid : c.toNat.isValidChar := c.valid
  rw [Nat.isValidChar] at valid
  omega

theorem written_escapeChar (c : Char) : Written c (escapeChar '"' c) := by
  unfold escapeChar
  split
  case isTrue special => exact .guarded special
  case isFalse free =>
    split
    case isTrue printable => exact .shown (not_or.1 free).2 printable
    case isFalse =>
      split
      case h_1 given => exact .letter given
      case h_2 =>
        split
        case isTrue low => exact .code (by decide) (by omega)
        case isFalse =>
          split
          case isTrue short => exact .code (by decide) short
          case isFalse => exact .code (by decide) (toNat_lt c)

/-! ### Reading a character -/

/-- The character that a single letter after a backslash stands for. -/
def letterControl : Char → Char
  | 'a' => Char.ofNat 7
  | 'b' => Char.ofNat 8
  | 't' => '\t'
  | 'n' => '\n'
  | 'v' => Char.ofNat 11
  | 'f' => Char.ofNat 12
  | 'r' => '\r'
  | c => c

/-- The character that comes next between quotes, and what follows it. -/
def readChar? : List Char → Option (Char × List Char)
  | [] => none
  | '\\' :: mark :: cs =>
    match codeForms.lookup mark with
    | some width =>
      (Decimal.digits? 16 (cs.take width)).map fun n => (Char.ofNat n, cs.drop width)
    | none => some (letterControl mark, cs)
  | c :: cs => some (c, cs)

theorem readChar?_cons {c : Char} (plain : c ≠ '\\') (cs : List Char) :
    readChar? (c :: cs) = some (c, cs) := by
  unfold readChar?
  split <;> simp_all

/-- A letter that is written for a control character stands for it and announces no code. -/
theorem controlLetter?_spec {c l : Char} (given : controlLetter? c = some l) :
    letterControl l = c ∧ codeForms.lookup l = none ∧ isPrintable l = true := by
  rw [← Char.ofNat_toNat c]
  unfold controlLetter? at given
  split at given
  case h_8 => cases given
  all_goals
    rename_i code
    rw [code]
    cases given
    exact ⟨rfl, rfl, rfl⟩

/-- What is written for a character is read as this character, and no further. -/
theorem readChar?_escapeChar (c : Char) (rest : List Char) :
    readChar? (escapeChar '"' c ++ rest) = some (c, rest) := by
  have written := written_escapeChar c
  generalize escapeChar '"' c = text at written
  cases written with
  | guarded special => obtain rfl | rfl := special <;> rfl
  | shown plain => exact readChar?_cons plain rest
  | letter given =>
    obtain ⟨stands, unknown, -⟩ := controlLetter?_spec given
    rw [List.cons_append, List.cons_append, readChar?, unknown]
    dsimp only
    rw [stands, List.nil_append]
  | code form fits =>
    obtain ⟨known, wide⟩ := lookup_codeForms _ form
    rw [List.cons_append, List.cons_append, readChar?, known]
    dsimp only
    rw [List.take_left' (length_hexDigits ..), List.drop_left' (length_hexDigits ..),
      digits?_hexDigits wide fits, Option.map_some, Char.ofNat_toNat]

/-! ### Quoted texts -/

theorem escapeChar_append_inj {c d : Char} {r u : List Char}
    (same : escapeChar '"' c ++ r = escapeChar '"' d ++ u) : c = d ∧ r = u := by
  have read := congrArg readChar? same
  rw [readChar?_escapeChar, readChar?_escapeChar] at read
  exact Prod.mk.inj (Option.some.inj read)

/-- What is written for a character does not begin like the end of the text: it would be read as a
quote, and that has a backslash before it. -/
theorem escapeChar_append_ne (c : Char) (r u : List Char) : escapeChar '"' c ++ r ≠ '"' :: u := by
  intro same
  have read := congrArg readChar? same
  rw [readChar?_escapeChar] at read
  cases read
  cases same

/-- What stands between the quotes is told from what follows them. -/
theorem escaped_append_inj {s t r u : List Char}
    (same : s.flatMap (escapeChar '"') ++ '"' :: r = t.flatMap (escapeChar '"') ++ '"' :: u) :
    s = t ∧ r = u := by
  induction s generalizing t with
  | nil =>
    cases t with
    | nil => exact ⟨rfl, List.tail_eq_of_cons_eq same⟩
    | cons d t =>
      rw [List.flatMap_cons, List.append_assoc] at same
      exact absurd same.symm (escapeChar_append_ne d _ r)
  | cons c s ih =>
    rw [List.flatMap_cons, List.append_assoc] at same
    cases t with
    | nil => exact absurd same (escapeChar_append_ne c _ u)
    | cons d t =>
      rw [List.flatMap_cons, List.append_assoc] at same
      obtain ⟨rfl, rest⟩ := escapeChar_append_inj same
      obtain ⟨rfl, after⟩ := ih rest
      exact ⟨rfl, after⟩

theorem toList_quoted (s : String) :
    (quoted s).toList = '"' :: (s.toList.flatMap (escapeChar '"') ++ ['"']) := by
  rw [quoted, String.toList_ofList]
  rfl

/-- A quoted text is known by how it is written, and shows where it ends whatever follows it. -/
theorem quoted_append_inj {s t : String} {r u : List Char}
    (same : (quoted s).toList ++ r = (quoted t).toList ++ u) : s = t ∧ r = u := by
  simp only [toList_quoted, List.cons_append, List.append_assoc, List.nil_append] at same
  obtain ⟨chars, after⟩ := escaped_append_inj (List.tail_eq_of_cons_eq same)
  exact ⟨String.toList_inj.1 chars, after⟩

/-! ### Printable characters -/

theorem isPrintable_of_mem_escapeChar (c : Char) :
    ∀ x ∈ escapeChar '"' c, isPrintable x = true := by
  have backslash : isPrintable '\\' = true := rfl
  have written := written_escapeChar c
  generalize escapeChar '"' c = text at written
  cases written with
  | guarded special =>
    refine List.forall_mem_cons.2 ⟨backslash, List.forall_mem_singleton.2 ?_⟩
    obtain rfl | rfl := special <;> rfl
  | shown plain printable => exact List.forall_mem_singleton.2 printable
  | letter given =>
    obtain ⟨-, -, printable⟩ := controlLetter?_spec given
    exact List.forall_mem_cons.2 ⟨backslash, List.forall_mem_singleton.2 printable⟩
  | code form =>
    refine List.forall_mem_cons.2
      ⟨backslash, List.forall_mem_cons.2 ⟨isPrintable_codeForms _ form, fun x digit => ?_⟩⟩
    obtain ⟨d, small, rfl⟩ := exists_of_mem_hexDigits digit
    exact isPrintable_digitChar d small

/-- A quoted text has printable characters only. -/
theorem isPrintable_of_mem_quoted (s : String) :
    ∀ x ∈ (quoted s).toList, isPrintable x = true := by
  rw [toList_quoted]
  refine List.forall_mem_cons.2 ⟨rfl, List.forall_mem_append.2 ⟨fun x written => ?_,
    List.forall_mem_singleton.2 rfl⟩⟩
  obtain ⟨c, -, part⟩ := List.mem_flatMap.1 written
  exact isPrintable_of_mem_escapeChar c x part

end WidgetFlow.Text
