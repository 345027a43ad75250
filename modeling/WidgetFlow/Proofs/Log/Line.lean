import WidgetFlow.Log.Line
import WidgetFlow.Proofs.Text.Quoted

/-!
# Log lines tell their attributes

Behind its bar a line has its attributes one after the other, each with a space before it and an
equals sign between name and value (`fields`). A name ends at the equals sign. A value that begins
with a quote is quoted, and ends with the quoted text; any other ends at the next space or with the
line, because with a space in it it would be quoted (`Value.fieldText_append_inj`). So attributes that
have plain names, and texts for values, are known from the line (`fields_inj`).

A quoted text is on one line, and so are numbers and times of day. A line therefore ends where its
message and the names of its attributes let it end, whatever the values are (`oneLine_fields`).
-/

namespace WidgetFlow

namespace Text

/-! ### Where a part ends -/

/-- The text is at its end, or goes on with `stop`. -/
def Stops (stop : Char) (cs : List Char) : Prop := ∀ c ∈ cs.head?, c = stop

theorem Stops.cons (stop : Char) (cs : List Char) : Stops stop (stop :: cs) := by
  rintro c ⟨⟩
  rfl

/-- Parts that reach up to a character which they do not have are the same in the same text. -/
theorem append_inj_of_stops {stop : Char} {x y r u : List Char} (left : stop ∉ x)
    (right : stop ∉ y) (stops : Stops stop r) (stops' : Stops stop u) (same : x ++ r = y ++ u) :
    x = y ∧ r = u := by
  induction x generalizing y with
  | nil =>
    cases y with
    | nil => exact ⟨rfl, same⟩
    | cons d y =>
      cases same
      exact absurd (stops d rfl ▸ List.mem_cons_self) right
  | cons c x ih =>
    cases y with
    | nil =>
      cases same
      exact absurd (stops' c rfl ▸ List.mem_cons_self) left
    | cons d y =>
      obtain ⟨rfl, rest⟩ := List.cons.inj same
      obtain ⟨rfl, after⟩ := ih (List.not_mem_of_not_mem_cons left)
        (List.not_mem_of_not_mem_cons right) rest
      exact ⟨rfl, after⟩

/-! ### Texts on one line -/

/-- A text without line ends. -/
def OneLine (s : String) : Prop := '\n' ∉ s.toList

instance (s : String) : Decidable (OneLine s) := inferInstanceAs (Decidable ('\n' ∉ s.toList))

theorem oneLine_append {s t : String} : OneLine (s ++ t) ↔ OneLine s ∧ OneLine t := by
  simp [OneLine]

theorem newline_not_mem_toDigits (n : Nat) : '\n' ∉ Nat.toDigits 10 n := by
  intro there
  have digit := Nat.isDigit_of_mem_toDigits (by decide) (by decide) there
  cases digit

theorem oneLine_repr (n : Nat) : OneLine n.repr := by
  rw [OneLine, Nat.repr, String.toList_ofList]
  exact newline_not_mem_toDigits n

theorem oneLine_toString (n : Int) : OneLine (toString n) := by
  cases n with
  | ofNat n => exact oneLine_repr n
  | negSucc n => exact oneLine_append.2 ⟨by decide, oneLine_repr (n + 1)⟩

theorem oneLine_quoted (s : String) : OneLine (quoted s) := by
  intro there
  have shown := isPrintable_of_mem_quoted s _ there
  have hidden : isPrintable '\n' = false := by decide +kernel
  rw [hidden] at shown
  cases shown

end Text

open Text

theorem Stamp.oneLine_padded (width n : Nat) : OneLine (padded width n) := by
  rw [OneLine, padded, String.toList_ofList, List.mem_append, List.mem_replicate]
  rintro (⟨-, zero⟩ | digit)
  · cases zero
  · exact newline_not_mem_toDigits n digit

theorem Stamp.oneLine_clockText (t : Stamp) : OneLine t.clockText := by
  have digits := oneLine_padded 2
  have colon : OneLine ":" := by decide
  simp only [clockText, oneLine_append]
  exact ⟨⟨⟨⟨digits _, colon⟩, digits _⟩, colon⟩, digits _⟩

namespace Log

theorem Level.oneLine_offsetName {base : String} (short : OneLine base) (d : Int) :
    OneLine (offsetName base d) := by
  have digits := oneLine_toString d
  unfold offsetName
  split
  case isTrue => exact short
  case isFalse =>
    split
    case isTrue => exact oneLine_append.2 ⟨oneLine_append.2 ⟨short, by decide⟩, digits⟩
    case isFalse => exact oneLine_append.2 ⟨short, digits⟩

theorem Level.oneLine_tag (l : Level) : OneLine (tag l) := by
  have named : OneLine (name l) := by
    unfold name
    repeat' split
    case isTrue => decide
    all_goals exact oneLine_offsetName (by decide) _
  simp only [tag, oneLine_append]
  refine ⟨⟨⟨by decide, named⟩, by decide⟩, ?_⟩
  split <;> decide

/-! ### Values -/

/-- The characters that end a name, and make a value be quoted. -/
def separators : List Char := [' ', '\t', '\n', '"', '=']

namespace Value

/-- The value is a text. -/
def isString : Value → Bool
  | string _ => true
  | _ => false

theorem isString_iff {v : Value} : v.isString = true ↔ ∃ s, v = string s := by
  cases v <;> simp [isString]

theorem needsQuoting_eq_false_iff {s : String} :
    needsQuoting s = false ↔ ∀ c ∈ s.toList, c ∉ separators := by
  simp [needsQuoting, separators, and_assoc]

theorem fieldText_string (s : String) :
    (string s).fieldText = if needsQuoting s then quoted s else s := rfl

theorem oneLine_fieldText (s : String) : OneLine (string s).fieldText := by
  rw [fieldText_string]
  split
  case isTrue => exact oneLine_quoted s
  case isFalse bare =>
    intro there
    exact needsQuoting_eq_false_iff.1 (eq_false_of_ne_true bare) _ there (by decide)

/-- A value that stands as it is does not look like one that is quoted. -/
theorem append_ne_of_bare {s : String} {u v : List Char} (bare : needsQuoting s = false)
    (stops : Stops ' ' u) : s.toList ++ u ≠ '"' :: v := by
  have clear := needsQuoting_eq_false_iff.1 bare
  intro same
  cases chars : s.toList with
  | nil =>
    rw [chars] at same
    cases same
    exact absurd (stops '"' rfl) (by decide)
  | cons c cs =>
    rw [chars] at same clear
    obtain ⟨rfl, -⟩ := List.cons.inj same
    exact clear '"' List.mem_cons_self (by decide)

/-- A value is known by how it is shown, and ends at the next space or at the end of the line. -/
theorem fieldText_append_inj {s t : String} {r u : List Char} (stops : Stops ' ' r)
    (stops' : Stops ' ' u)
    (same : (string s).fieldText.toList ++ r = (string t).fieldText.toList ++ u) :
    s = t ∧ r = u := by
  have noSpace {v : String} (bare : needsQuoting v = false) : ' ' ∉ v.toList := fun there =>
    needsQuoting_eq_false_iff.1 bare _ there (by decide)
  rw [fieldText_string, fieldText_string] at same
  -- Only a quoted value begins with a quote, so both are quoted or neither is.
  cases left : needsQuoting s <;> cases right : needsQuoting t <;>
    simp only [left, right, if_true, if_false, Bool.false_eq_true] at same
  case true.true => exact quoted_append_inj same
  case true.false =>
    rw [toList_quoted] at same
    exact absurd same.symm (append_ne_of_bare right stops')
  case false.true =>
    rw [toList_quoted] at same
    exact absurd same (append_ne_of_bare left stops)
  case false.false =>
    -- Without a space in it a value reaches up to the first one.
    obtain ⟨chars, after⟩ := append_inj_of_stops (noSpace left) (noSpace right) stops stops' same
    exact ⟨String.toList_inj.1 chars, after⟩

end Value

/-! ### Attributes -/

/-- An attribute in a line, with the space before it. -/
def Attr.field (a : Attr) : String := " " ++ a.key ++ "=" ++ a.value.fieldText

theorem Attr.toList_field (a : Attr) :
    a.field.toList = ' ' :: (a.key.toList ++ '=' :: a.value.fieldText.toList) := by
  simp [field]

/-- An attribute with a text for its value and a name that can stand in a line, and is not one of
those that are shown in a form of their own. -/
structure Attr.IsPlain (a : Attr) : Prop where
  named : a.key ≠ ""
  clear : ∀ c ∈ a.key.toList, c ∉ separators
  usual : a.key ∉ ["runID", "durationMs", "error"]
  isText : ∃ s, a.value = .string s

instance (a : Attr) : Decidable a.IsPlain :=
  decidable_of_iff (a.key ≠ "" ∧ Value.needsQuoting a.key = false ∧
      a.key ∉ ["runID", "durationMs", "error"] ∧ a.value.isString = true)
    ⟨fun ⟨named, clear, usual, text⟩ =>
        ⟨named, Value.needsQuoting_eq_false_iff.1 clear, usual, Value.isString_iff.1 text⟩,
      fun plain => ⟨plain.named, Value.needsQuoting_eq_false_iff.2 plain.clear, plain.usual,
        Value.isString_iff.2 plain.isText⟩⟩

namespace Attr.IsPlain

variable {a b : Attr}

theorem text_eq (plain : a.IsPlain) : " " ++ a.text = a.field := by
  have usual := plain.usual
  have shown : a.text = a.key ++ "=" ++ a.value.fieldText := by
    -- The names with a form of their own are not those of plain attributes.
    unfold text
    split <;> simp_all
  rw [shown, field, String.append_assoc, String.append_assoc, String.append_assoc]

theorem isNone_eq_false (plain : a.IsPlain) : a.isNone = false := by
  rw [isNone, beq_eq_false_iff_ne.2 plain.named, Bool.false_and]

theorem oneLine_field (plain : a.IsPlain) : OneLine a.field := by
  obtain ⟨s, text⟩ := plain.isText
  have key : OneLine a.key := fun there => plain.clear _ there (by decide)
  simp only [field, oneLine_append, text]
  exact ⟨⟨⟨by decide, key⟩, by decide⟩, Value.oneLine_fieldText s⟩

/-- An attribute is known by how it is shown, and ends at the next space or at the end of the line. -/
theorem field_append_inj (plain : a.IsPlain) (plain' : b.IsPlain) {r u : List Char}
    (stops : Stops ' ' r) (stops' : Stops ' ' u)
    (same : a.field.toList ++ r = b.field.toList ++ u) : a = b ∧ r = u := by
  have noEquals {c : Attr} (plain : c.IsPlain) : '=' ∉ c.key.toList := fun there =>
    plain.clear _ there (by decide)
  simp only [toList_field, List.cons_append, List.append_assoc] at same
  obtain ⟨keys, rest⟩ := append_inj_of_stops (noEquals plain) (noEquals plain') (Stops.cons _ _)
    (Stops.cons _ _) (List.tail_eq_of_cons_eq same)
  obtain ⟨s, text⟩ := plain.isText
  obtain ⟨t, text'⟩ := plain'.isText
  rw [text, text'] at rest
  obtain ⟨rfl, after⟩ := Value.fieldText_append_inj stops stops' (List.tail_eq_of_cons_eq rest)
  cases a
  cases b
  cases String.toList_inj.1 keys
  exact ⟨congrArg _ (text.trans text'.symm), after⟩

end Attr.IsPlain

/-! ### Lists of attributes -/

/-- Attributes in a line, one after the other. -/
def fields (attrs : List Attr) : String := String.join (attrs.map Attr.field)

/-- The bar before the attributes of a line, if there are any. -/
def bar (attrs : List Attr) : String := if attrs.isEmpty then "" else " |"

section Fields

variable {attrs others : List Attr}

theorem fields_cons (a : Attr) (attrs : List Attr) :
    fields (a :: attrs) = a.field ++ fields attrs := by
  rw [fields, List.map_cons, String.join_cons, fields]

theorem fields_append (own given : List Attr) :
    fields (own ++ given) = fields own ++ fields given := by
  induction own with
  | nil => exact String.empty_append.symm
  | cons a own ih => rw [List.cons_append, fields_cons, fields_cons, ih, String.append_assoc]

theorem fields_cons_ne (a : Attr) (attrs : List Attr) : fields (a :: attrs) ≠ "" := by
  rw [fields_cons, Ne, ← String.toList_inj, String.toList_append, Attr.toList_field]
  exact List.cons_ne_nil _ _

theorem stops_fields (attrs : List Attr) : Stops ' ' (fields attrs).toList := by
  cases attrs with
  | nil => rintro c ⟨⟩
  | cons a attrs =>
    rw [fields_cons, String.toList_append, Attr.toList_field]
    exact Stops.cons _ _

/-- Without the bar the attributes begin two characters later. -/
theorem drop_bar (attrs : List Attr) :
    (bar attrs ++ fields attrs).toList.drop 2 = (fields attrs).toList := by
  cases attrs with
  | nil => rfl
  | cons a attrs => simp [bar]

theorem oneLine_bar (attrs : List Attr) : OneLine (bar attrs) := by
  unfold bar
  split <;> decide

theorem attrsText_eq (plain : ∀ a ∈ attrs, a.IsPlain) :
    attrsText attrs = bar attrs ++ fields attrs := by
  cases attrs with
  | nil => rfl
  | cons a attrs =>
    show " |" ++ String.join ((a :: attrs).map fun b => " " ++ b.text) = _
    rw [List.map_congr_left fun b there => (plain b there).text_eq]
    rfl

/-- Attributes are known by how they are shown. -/
theorem fields_inj (plain : ∀ a ∈ attrs, a.IsPlain) (plain' : ∀ a ∈ others, a.IsPlain)
    (same : fields attrs = fields others) : attrs = others := by
  -- One attribute at a time; the fields that are left begin with a space, or are none.
  induction attrs generalizing others with
  | nil =>
    cases others with
    | nil => rfl
    | cons b others => exact absurd same.symm (fields_cons_ne b others)
  | cons a attrs ih =>
    cases others with
    | nil => exact absurd same (fields_cons_ne a attrs)
    | cons b others =>
      obtain ⟨here, later⟩ := List.forall_mem_cons.1 plain
      obtain ⟨here', later'⟩ := List.forall_mem_cons.1 plain'
      rw [fields_cons, fields_cons, ← String.toList_inj, String.toList_append,
        String.toList_append] at same
      obtain ⟨rfl, rest⟩ :=
        here.field_append_inj here' (stops_fields attrs) (stops_fields others) same
      rw [ih later later' (String.toList_inj.1 rest)]

theorem oneLine_fields (plain : ∀ a ∈ attrs, a.IsPlain) : OneLine (fields attrs) := by
  induction attrs with
  | nil => decide
  | cons a attrs ih =>
    obtain ⟨here, later⟩ := List.forall_mem_cons.1 plain
    rw [fields_cons, oneLine_append]
    exact ⟨here.oneLine_field, ih later⟩

end Fields

/-! ### Lines -/

namespace Handler

variable {h : Handler}

theorem shown_eq {r : Record} (ungrouped : h.group = "")
    (plain : ∀ a ∈ h.attrs ++ r.attrs, a.IsPlain) : h.shown r = h.attrs ++ r.attrs := by
  have kept : (h.attrs ++ r.attrs).filter (!·.isNone) = h.attrs ++ r.attrs :=
    List.filter_eq_self.2 fun a there => by rw [(plain a there).isNone_eq_false]; rfl
  have unnamed : Attr.inGroup h.group = id := funext fun a => if_pos ungrouped
  rw [shown, kept, unnamed, List.map_id]

theorem line_eq {r : Record} (ungrouped : h.group = "")
    (plain : ∀ a ∈ h.attrs ++ r.attrs, a.IsPlain) (clock : String) :
    h.line clock r = Level.tag r.level ++ clock ++ " " ++ r.message ++
      (bar (h.attrs ++ r.attrs) ++ fields (h.attrs ++ r.attrs)) ++ "\n" := by
  rw [line, shown_eq ungrouped plain, attrsText_eq plain]

theorem line_withAttrs (h : Handler) (added given : List Attr) (clock : String) (level : Level)
    (message : String) : (h.withAttrs added).line clock ⟨level, message, given⟩ =
      h.line clock ⟨level, message, added ++ given⟩ := by
  rw [line, line, shown, shown, withAttrs, List.append_assoc]

/-- Plain attributes are known from the line. Those of the handler stand before those of the record,
both in their order, and attributes that are added to a handler stand as if they came first in the
record. If the message is on one line, everything is, whatever the values are. -/
theorem line_unambiguous {given : List Attr} (ungrouped : h.group = "")
    (plain : ∀ a ∈ h.attrs ++ given, a.IsPlain) (level : Level) (t : Stamp) (message : String) :
    let text (h : Handler) (given : List Attr) := h.line t.clockText ⟨level, message, given⟩
    (∀ (h' : Handler) given', h'.group = "" → (∀ a ∈ h'.attrs ++ given', a.IsPlain) →
      (text h' given' = text h given ↔ h'.attrs ++ given' = h.attrs ++ given)) ∧
    text h given = Level.tag level ++ t.clockText ++ " " ++ message ++ bar (h.attrs ++ given) ++
      fields h.attrs ++ fields given ++ "\n" ∧
    (∀ added, text (h.withAttrs added) given = text h (added ++ given)) ∧
    (OneLine message → ∃ s, text h given = s ++ "\n" ∧ OneLine s) := by
  intro text
  have written {h : Handler} {given : List Attr} (ungrouped : h.group = "")
      (plain : ∀ a ∈ h.attrs ++ given, a.IsPlain) : text h given =
        Level.tag level ++ t.clockText ++ " " ++ message ++
          (bar (h.attrs ++ given) ++ fields (h.attrs ++ given)) ++ "\n" :=
    line_eq ungrouped plain t.clockText
  refine ⟨fun h' given' ungrouped' plain' => ⟨fun same => ?_, fun same => ?_⟩, ?_,
    fun added => h.line_withAttrs added given t.clockText level message,
    fun short => ⟨_, written ungrouped plain, ?_⟩⟩
  · rw [written ungrouped plain, written ungrouped' plain', String.append_left_inj,
      String.append_right_inj] at same
    -- The bars may differ, so they are dropped before the fields are compared.
    refine fields_inj plain' plain (String.toList_inj.1 ?_)
    rw [← drop_bar, same, drop_bar]
  · rw [written ungrouped plain, written ungrouped' plain', same]
  · rw [written ungrouped plain, fields_append]
    simp only [String.append_assoc]
  · have heading : OneLine (Level.tag level ++ t.clockText ++ " ") :=
      oneLine_append.2 ⟨oneLine_append.2 ⟨Level.oneLine_tag level, t.oneLine_clockText⟩, by decide⟩
    have attrs : OneLine (bar (h.attrs ++ given) ++ fields (h.attrs ++ given)) :=
      oneLine_append.2 ⟨oneLine_bar _, oneLine_fields plain⟩
    exact oneLine_append.2 ⟨oneLine_append.2 ⟨heading, short⟩, attrs⟩

/-- A handler with an attribute of its own. -/
def phased : Handler := { attrs := [⟨"phase", .string "producer"⟩] }

/-- Attributes that could be taken for others: a value with the look of a second attribute in it, one
with the look of a quoted text, one that is empty, and one with a line end. -/
def lookalikes : List Attr :=
  [⟨"reason", .string "no op=set-id"⟩, ⟨"said", .string "\"a b\""⟩, ⟨"rest", .string ""⟩,
    ⟨"note", .string "a\nb"⟩]

/-- What they could be taken for. -/
def taken : List Attr :=
  [⟨"reason", .string "no"⟩, ⟨"op", .string "set-id"⟩, ⟨"said", .string "a b"⟩,
    ⟨"rest", .string ""⟩, ⟨"note", .string "a\\nb"⟩]

example : phased.line (Stamp.clockText {}) ⟨Level.info, "done", lookalikes⟩ =
    "[INFO]  00:00:00 done | phase=producer reason=\"no op=set-id\"" ++
      " said=\"\\\"a b\\\"\" rest= note=\"a\\nb\"\n" := by
  decide +kernel

theorem line_unambiguous_lookalikes :
    phased.group = "" ∧ (∀ a ∈ phased.attrs ++ lookalikes, a.IsPlain) ∧
    (∀ a ∈ phased.attrs ++ taken, a.IsPlain) ∧ OneLine "done" ∧
    phased.line (Stamp.clockText {}) ⟨Level.info, "done", taken⟩ ≠
      phased.line (Stamp.clockText {}) ⟨Level.info, "done", lookalikes⟩ ∧
    ∃ s, phased.line (Stamp.clockText {}) ⟨Level.info, "done", lookalikes⟩ = s ++ "\n" ∧
      OneLine s := by
  have plain : ∀ a ∈ phased.attrs ++ lookalikes, a.IsPlain := by decide +kernel
  have plain' : ∀ a ∈ phased.attrs ++ taken, a.IsPlain := by decide +kernel
  have short : OneLine "done" := by decide
  obtain ⟨known, -, -, ends⟩ := line_unambiguous rfl plain Level.info {} "done"
  refine ⟨rfl, plain, plain', short, fun same => ?_, ends short⟩
  have lists := (known phased taken rfl plain').1 same
  have differ : taken ≠ lookalikes := by simp [taken, lookalikes]
  exact differ (List.append_cancel_left lists)

end Handler

end Log

end WidgetFlow
