import Tickwise.Json.Parser
import Tickwise.Proofs.Json.Lexemes

/-!
# A value is read from its text

The text of a value, compact and without any white space, is read as the lexemes that the value
is made of, and these as the value.  That holds for every value: the spelling of each string and of
each number is the one that is read as it, and what follows a number is never a character that the
number would go on with.

* `Json.toLexemes` — the lexemes of a value;
* `Json.Reads` — a text that is read as a run of lexemes, one by one;
* `Json.parse?_text` — the text of a value is read as the value.
-/

namespace Tickwise.Json

/-! ## The lexemes of a value -/

mutual

/-- The lexemes of a value. -/
def toLexemes : Json → List Lexeme
  | .null => [.null]
  | .bool value => [.bool value]
  | .number negative digits exponent => [.number negative digits exponent]
  | .string value => [.string value]
  | .array items => .openArray :: itemLexemes items ++ [.closeArray]
  | .object fields => .openObject :: fieldLexemes fields ++ [.closeObject]

/-- The lexemes of array items. -/
def itemLexemes : List Json → List Lexeme
  | [] => []
  | [item] => toLexemes item
  | item :: items => toLexemes item ++ .comma :: itemLexemes items

/-- The lexemes of object fields. -/
def fieldLexemes : List (Option String × Json) → List Lexeme
  | [] => []
  | [(key, value)] => .string key :: .colon :: toLexemes value
  | (key, value) :: fields =>
    .string key :: .colon :: toLexemes value ++ .comma :: fieldLexemes fields

end

/-! ## Reading the lexemes of a text -/

/-- A text that is read as a run of lexemes, without white space between them. -/
inductive Reads : List Char → List Lexeme → Prop
  | nil : Reads [] []
  | cons {c : Char} {tail rest : List Char} {first : Lexeme} {others : List Lexeme} :
      isSpace c = false → lexeme (c :: tail) = some (first, rest) → rest.length ≤ tail.length →
      Reads rest others → Reads (c :: tail) (first :: others)

namespace Reads

variable {text rest : List Char} {others : List Lexeme}

theorem length_le {read : List Lexeme} (h : Reads text read) : read.length ≤ text.length := by
  induction h with
  | nil => simp
  | cons _ _ hshorter _ ih =>
    simp only [List.length_cons]
    omega

theorem lexemesUpTo_eq {read : List Lexeme} (h : Reads text read) :
    ∀ fuel, read.length ≤ fuel → lexemesUpTo fuel text = some read := by
  induction h with
  | nil => intro fuel _; cases fuel <;> rfl
  | cons hspace hfirst _ _ ih =>
    intro fuel hfuel
    cases fuel with
    | zero => simp at hfuel
    | succ fuel =>
      have hothers := ih fuel (by simpa using hfuel)
      simp [lexemesUpTo, hspace, hfirst, hothers]

theorem lexemes_eq {read : List Lexeme} (h : Reads text read) : lexemes text = some read :=
  h.lexemesUpTo_eq text.length h.length_le

/-- A lexeme that is spelled by at least one character, the first of which is no white space. -/
theorem append {spelled : List Char} {first : Lexeme}
    (hspelled : ∃ c ∈ spelled.head?, isSpace c = false)
    (hfirst : lexeme (spelled ++ rest) = some (first, rest)) (h : Reads rest others) :
    Reads (spelled ++ rest) (first :: others) := by
  cases spelled with
  | nil => simp at hspelled
  | cons c tail => exact .cons (by simpa using hspelled) hfirst (by simp) h

/-- A mark of one character. -/
theorem mark (c : Char) {first : Lexeme} (hspace : isSpace c = false)
    (hfirst : lexeme (c :: rest) = some (first, rest)) (h : Reads rest others) :
    Reads (c :: rest) (first :: others) :=
  .cons hspace hfirst le_rfl h

theorem string (value : Option String) (h : Reads rest others) :
    Reads (stringChars value ++ rest) (.string value :: others) := by
  apply append _ (lexeme_stringChars value rest) h
  cases value with
  | some s => exact ⟨'"', rfl, rfl⟩
  | none => exact ⟨'"', rfl, rfl⟩

theorem number (negative : Bool) (n : ℕ) (exponent : Option ℤ) (hrest : EndsNumber rest)
    (h : Reads rest others) :
    Reads (numberChars negative n exponent ++ rest) (.number negative n exponent :: others) := by
  apply append _ (lexeme_numberChars negative n exponent hrest) h
  cases negative with
  | true => exact ⟨'-', rfl, rfl⟩
  | false =>
    obtain ⟨hne, hdigits⟩ := Decimal.numeral_toDigits n
    cases hn : Nat.toDigits 10 n with
    | nil => exact absurd hn hne
    | cons c digits =>
      have hc : c.isDigit = true := hdigits c (by simp [hn])
      refine ⟨c, by simp [numberChars, hn], ?_⟩
      have hblank : ∀ d : Char, d.isDigit = false → (c == d) = false := fun d hd =>
        beq_eq_false_iff_ne.mpr (Decimal.ne_of_isDigit hc hd)
      simp [isSpace, hblank ' ' (by decide), hblank '\t' (by decide), hblank '\n' (by decide),
        hblank '\r' (by decide)]

end Reads

mutual

/-- **The text of a value is read as its lexemes**, before whatever cannot go on a number. -/
theorem reads_chars {rest : List Char} {others : List Lexeme} (hrest : EndsNumber rest)
    (h : Reads rest others) : ∀ json, Reads (chars json ++ rest) (toLexemes json ++ others)
  | .null => .append ⟨'n', rfl, rfl⟩ rfl h
  | .bool true => .append ⟨'t', rfl, rfl⟩ rfl h
  | .bool false => .append ⟨'f', rfl, rfl⟩ rfl h
  | .number negative n exponent => .number negative n exponent hrest h
  | .string value => .string value h
  | .array items => by
    simp only [chars, toLexemes, List.cons_append, List.append_assoc, List.nil_append]
    -- the items end before a bracket, whatever follows the array
    apply Reads.mark '[' (by decide) rfl
    apply reads_itemChars (by simp [EndsNumber])
    exact .mark ']' (by decide) rfl h
  | .object fields => by
    simp only [chars, toLexemes, List.cons_append, List.append_assoc, List.nil_append]
    apply Reads.mark '\x7b' (by decide) rfl
    apply reads_fieldChars (by simp [EndsNumber])
    exact .mark '\x7d' (by decide) rfl h

theorem reads_itemChars {rest : List Char} {others : List Lexeme} (hrest : EndsNumber rest)
    (h : Reads rest others) :
    ∀ items, Reads (itemChars items ++ rest) (itemLexemes items ++ others)
  | [] => h
  | [item] => reads_chars hrest h item
  | item :: next :: items => by
    simp only [itemChars, itemLexemes, List.cons_append, List.append_assoc]
    apply reads_chars (by simp [EndsNumber])
    apply Reads.mark ',' (by decide) rfl
    exact reads_itemChars hrest h (next :: items)

theorem reads_fieldChars {rest : List Char} {others : List Lexeme} (hrest : EndsNumber rest)
    (h : Reads rest others) :
    ∀ fields, Reads (fieldChars fields ++ rest) (fieldLexemes fields ++ others)
  | [] => h
  | [(key, value)] => by
    simp only [fieldChars, fieldLexemes, List.cons_append, List.append_assoc]
    apply Reads.string key
    apply Reads.mark ':' (by decide) rfl
    exact reads_chars hrest h value
  | (key, value) :: next :: fields => by
    simp only [fieldChars, fieldLexemes, List.cons_append, List.append_assoc]
    apply Reads.string key
    apply Reads.mark ':' (by decide) rfl
    apply reads_chars (by simp [EndsNumber])
    apply Reads.mark ',' (by decide) rfl
    exact reads_fieldChars hrest h (next :: fields)

end

theorem lexemes_chars (json : Json) : lexemes (chars json) = some (toLexemes json) := by
  have h := reads_chars endsNumber_nil .nil json
  rw [List.append_nil, List.append_nil] at h
  exact h.lexemes_eq

/-! ## Reading a value from its lexemes -/

/-- No value begins with the closing bracket of an array. -/
theorem toLexemes_append_ne (json : Json) (rest : List Lexeme) :
    ∀ tail, toLexemes json ++ rest ≠ .closeArray :: tail := by
  intro tail heq
  cases json <;> simp [toLexemes] at heq

theorem itemLexemes_append_ne {items : List Json} (hne : items ≠ []) (rest : List Lexeme) :
    ∀ tail, itemLexemes items ++ rest ≠ .closeArray :: tail := by
  match items with
  | [] => exact absurd rfl hne
  | [item] => exact toLexemes_append_ne item rest
  | item :: next :: items =>
    rw [itemLexemes, List.append_assoc]
    exact toLexemes_append_ne item _
    simp

theorem fieldLexemes_append_ne {fields : List (Option String × Json)} (hne : fields ≠ [])
    (rest : List Lexeme) : ∀ tail, fieldLexemes fields ++ rest ≠ .closeObject :: tail := by
  intro tail heq
  match fields with
  | [] => exact hne rfl
  | [(key, value)] => simp [fieldLexemes] at heq
  | (key, value) :: next :: fields => simp [fieldLexemes] at heq

theorem one_le_length_toLexemes (json : Json) : 1 ≤ (toLexemes json).length := by
  cases json <;> simp [toLexemes]

mutual

/-- **The lexemes of a value are read as the value**, within twice their number of steps: one for
each value and one for each part of what holds it. -/
theorem parseValue_toLexemes (rest : List Lexeme) :
    ∀ json fuel, 2 * (toLexemes json).length ≤ fuel + 1 →
      parseValue fuel (toLexemes json ++ rest) = some (json, rest)
  | json, 0, hfuel => by
    have hjson := one_le_length_toLexemes json
    omega
  | .null, fuel + 1, _ => rfl
  | .bool _, fuel + 1, _ => rfl
  | .number _ _ _, fuel + 1, _ => rfl
  | .string _, fuel + 1, _ => rfl
  | .array [], fuel + 1, _ => rfl
  | .array (item :: items), fuel + 1, hfuel => by
    simp only [toLexemes, List.cons_append, List.length_cons, List.length_append,
      List.length_nil] at hfuel
    have hne : item :: items ≠ [] := List.cons_ne_nil item items
    -- the brackets pay for the step to the items and for the one that ends them
    have hitems := parseItems_itemLexemes rest (item :: items) fuel hne (by omega)
    have hopen := itemLexemes_append_ne hne (.closeArray :: rest)
    have hread : parseValue (fuel + 1)
        (.openArray :: (itemLexemes (item :: items) ++ .closeArray :: rest)) =
          some (.array (item :: items), rest) := by
      rw [parseValue.eq_7 fuel _ hopen, hitems]
      rfl
    simpa [toLexemes] using hread
  | .object [], fuel + 1, _ => rfl
  | .object (field :: fields), fuel + 1, hfuel => by
    simp only [toLexemes, List.cons_append, List.length_cons, List.length_append,
      List.length_nil] at hfuel
    have hne : field :: fields ≠ [] := List.cons_ne_nil field fields
    have hfields := parseFields_fieldLexemes rest (field :: fields) fuel hne (by omega)
    have hopen := fieldLexemes_append_ne hne (.closeObject :: rest)
    have hread : parseValue (fuel + 1)
        (.openObject :: (fieldLexemes (field :: fields) ++ .closeObject :: rest)) =
          some (.object (field :: fields), rest) := by
      rw [parseValue.eq_9 fuel _ hopen, hfields]
      rfl
    simpa [toLexemes] using hread

theorem parseItems_itemLexemes (rest : List Lexeme) :
    ∀ items fuel, items ≠ [] → 2 * (itemLexemes items).length ≤ fuel →
      parseItems fuel (itemLexemes items ++ .closeArray :: rest) = some (items, rest)
  | [], _, hne, _ => absurd rfl hne
  | [item], fuel, _, hfuel => by
    have hitem := one_le_length_toLexemes item
    rw [itemLexemes] at hfuel ⊢
    cases fuel with
    | zero => omega
    | succ fuel =>
      have hread := parseValue_toLexemes (.closeArray :: rest) item fuel (by omega)
      simp [parseItems, hread]
  | item :: next :: items, fuel, _, hfuel => by
    have hitem := one_le_length_toLexemes item
    simp only [itemLexemes, List.length_append, List.length_cons] at hfuel
    cases fuel with
    | zero => omega
    | succ fuel =>
      -- the comma pays for the step to the other items
      have hread := parseValue_toLexemes
        (.comma :: (itemLexemes (next :: items) ++ .closeArray :: rest)) item fuel (by omega)
      have hothers := parseItems_itemLexemes rest (next :: items) fuel (by simp) (by omega)
      simp [itemLexemes, parseItems, hread, hothers]

theorem parseFields_fieldLexemes (rest : List Lexeme) :
    ∀ fields fuel, fields ≠ [] → 2 * (fieldLexemes fields).length ≤ fuel →
      parseFields fuel (fieldLexemes fields ++ .closeObject :: rest) = some (fields, rest)
  | [], _, hne, _ => absurd rfl hne
  | [(key, value)], fuel, _, hfuel => by
    simp only [fieldLexemes, List.length_cons] at hfuel
    cases fuel with
    | zero => omega
    | succ fuel =>
      have hread := parseValue_toLexemes (.closeObject :: rest) value fuel (by omega)
      simp [fieldLexemes, parseFields, hread]
  | (key, value) :: next :: fields, fuel, _, hfuel => by
    simp only [fieldLexemes, List.length_append, List.length_cons] at hfuel
    cases fuel with
    | zero => omega
    | succ fuel =>
      have hread := parseValue_toLexemes
        (.comma :: (fieldLexemes (next :: fields) ++ .closeObject :: rest)) value fuel (by omega)
      have hothers := parseFields_fieldLexemes rest (next :: fields) fuel (by simp) (by omega)
      simp [fieldLexemes, parseFields, hread, hothers]

end

/-- **The text of a value is read as the value.** -/
theorem parse?_text (json : Json) : parse? json.text = some json := by
  have hlexemes := lexemes_chars json
  have hvalue := parseValue_toLexemes [] json (2 * (toLexemes json).length) (by omega)
  rw [List.append_nil] at hvalue
  simp [parse?, text, hlexemes, hvalue]

end Tickwise.Json
