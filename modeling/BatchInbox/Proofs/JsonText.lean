import BatchInbox.Json.Scalar

/-!
# JSON text reads back

What is written of a value is read as that value, whatever follows it.  A number ends where no digit
follows; everything else says itself where it ends.

Not every value can be written: a number or a string is kept as its token, and what is not a token
cannot be read.  So this is about values whose numbers are decimal digits and whose strings are
escaped, as are all that are put together from `ofWord`, `ofBytes`, `ofString` and `ofFields`.

## What is here

* `Json.readString?_escape`, `Json.unescape?_escape` — strings read back.
* `Json.readNumber?_digits` — numbers read back, if no digit follows.
* `Json.IsWritten` — values with tokens that can be read.
* `Json.IsWritten.readValue?`, `Json.parse?_render` — values read back.
-/

set_option autoImplicit false
namespace BatchInbox.Json

/-! ## Strings -/

theorem isHexDigit_hexDigit {n : Nat} (h : n < 16) : isHexDigit (Bytes.hexDigit n) = true := by
  have : ∀ n : Fin 16, isHexDigit (Bytes.hexDigit n) = true := by decide
  exact this ⟨n, h⟩

/-- A character is escaped by a letter, or by its number, or stands for itself. -/
theorem escapeChar_cases (c : Char) :
    (∃ letter, escapeChar c = ['\\', letter] ∧ isEscape letter = true ∧ escaped letter = c) ∨
    (escapeChar c = '\\' :: 'u' :: '0' :: '0' :: Bytes.toHexChars [c.toNat.toUInt8] ∧
      c.toNat < 32) ∨
    (escapeChar c = [c] ∧ c ≠ '"' ∧ c ≠ '\\' ∧ ¬ c.toNat < 32) := by
  have hletter : ∀ letter, escapeChar c = ['\\', letter] → isEscape letter = true →
      escaped letter = c → ∃ letter, escapeChar c = ['\\', letter] ∧ isEscape letter = true ∧
        escaped letter = c := fun letter h h' h'' => ⟨letter, h, h', h''⟩
  by_cases hquote : c = '"'
  · subst hquote; exact .inl (hletter '"' rfl rfl rfl)
  by_cases hslash : c = '\\'
  · subst hslash; exact .inl (hletter '\\' rfl rfl rfl)
  by_cases hb : c = '\x08'
  · subst hb; exact .inl (hletter 'b' rfl rfl rfl)
  by_cases hf : c = '\x0c'
  · subst hf; exact .inl (hletter 'f' rfl rfl rfl)
  by_cases hn : c = '\n'
  · subst hn; exact .inl (hletter 'n' rfl rfl rfl)
  by_cases hr : c = '\r'
  · subst hr; exact .inl (hletter 'r' rfl rfl rfl)
  by_cases ht : c = '\t'
  · subst ht; exact .inl (hletter 't' rfl rfl rfl)
  by_cases hcontrol : c.toNat < 32
  · refine .inr (.inl ⟨?_, hcontrol⟩)
    rw [escapeChar, if_neg hquote, if_neg hslash, if_neg hb, if_neg hf, if_neg hn, if_neg hr,
      if_neg ht, if_pos hcontrol]
  · refine .inr (.inr ⟨?_, hquote, hslash, hcontrol⟩)
    rw [escapeChar, if_neg hquote, if_neg hslash, if_neg hb, if_neg hf, if_neg hn, if_neg hr,
      if_neg ht, if_neg hcontrol]

theorem ne_u_of_isEscape {letter : Char} (h : isEscape letter = true) : letter ≠ 'u' := by
  rintro rfl
  exact absurd h (by decide)

/-- The token of a character is read to its end. -/
theorem readString?_escapeChar (acc : List Char) (c : Char) (rest : List Char) :
    readString? acc (escapeChar c ++ rest) = readString? ((escapeChar c).reverse ++ acc) rest := by
  rcases escapeChar_cases c with ⟨letter, htoken, hletter, -⟩ | ⟨htoken, -⟩ |
    ⟨htoken, hquote, hslash, hprint⟩ <;> rw [htoken]
  · have hu := ne_u_of_isEscape hletter
    simp [readString?, hletter, hu]
  · have hdigits := isHexDigit_hexDigit (Nat.div_lt_of_lt_mul
      (show c.toNat.toUInt8.toNat < 16 * 16 from UInt8.toNat_lt _))
    have hdigits' := isHexDigit_hexDigit (Nat.mod_lt c.toNat.toUInt8.toNat (by decide : 0 < 16))
    have hzero : isHexDigit '0' = true := by decide
    simp only [Bytes.toHexChars, List.flatMap_cons, List.flatMap_nil, List.cons_append,
      List.nil_append, readString?, List.all_cons, List.all_nil, hzero, hdigits, hdigits',
      Bool.and_self, if_true]
    rfl
  · simp [readString?, hslash, hprint]

/-- **A string is read up to its closing quote.** -/
theorem readString?_escape (acc text rest : List Char) :
    readString? acc (escape text ++ '"' :: rest) = some (acc.reverse ++ escape text, rest) := by
  induction text generalizing acc with
  | nil => simp [escape, readString?]
  | cons c text ih =>
    rw [escape, List.flatMap_cons, List.append_assoc, readString?_escapeChar]
    refine (ih _).trans ?_
    rw [List.reverse_append, List.reverse_reverse, List.append_assoc]
    rfl

/-- The value of an escape in hexadecimal. -/
theorem hexValue_control {c : Char} (h : c.toNat < 32) :
    hexValue ('0' :: '0' :: Bytes.toHexChars [c.toNat.toUInt8]) = c.toNat := by
  have : ∀ n : Fin 32, hexValue ('0' :: '0' :: Bytes.toHexChars [n.1.toUInt8]) = n := by decide
  exact this ⟨c.toNat, h⟩

/-- A unit that is no surrogate stands for a character, whatever follows it. -/
theorem unescapeFrom?_unit (acc : List Char) {a b c d : Char} (rest : List Char)
    (hhigh : isHigh (hexValue [a, b, c, d]) = false)
    (hlow : isLow (hexValue [a, b, c, d]) = false) :
    unescapeFrom? acc ('\\' :: 'u' :: a :: b :: c :: d :: rest) =
      unescapeFrom? (Char.ofNat (hexValue [a, b, c, d]) :: acc) rest := by
  by_cases hpair : ∃ e f g h rest', rest = '\\' :: 'u' :: e :: f :: g :: h :: rest'
  · obtain ⟨e, f, g, h, rest', rfl⟩ := hpair
    rw [unescapeFrom?]
    simp only [hhigh, hlow, Bool.false_eq_true, if_false]
  · rw [unescapeFrom?]
    · simp only [hhigh, hlow, Bool.or_self, Bool.false_eq_true, if_false]
    · exact fun e f g h rest' hrest => hpair ⟨e, f, g, h, rest', hrest⟩

/-- The token of a character stands for it. -/
theorem unescapeFrom?_escapeChar (acc : List Char) (c : Char) (rest : List Char) :
    unescapeFrom? acc (escapeChar c ++ rest) = unescapeFrom? (c :: acc) rest := by
  rcases escapeChar_cases c with ⟨letter, htoken, hletter, hescaped⟩ | ⟨htoken, hcontrol⟩ |
    ⟨htoken, -, hslash, -⟩ <;> rw [htoken]
  · have hu := ne_u_of_isEscape hletter
    simp [unescapeFrom?, hu, hescaped]
  · have hvalue := hexValue_control hcontrol
    simp only [Bytes.toHexChars, List.flatMap_cons, List.flatMap_nil, List.cons_append,
      List.nil_append] at hvalue ⊢
    have hhigh : isHigh c.toNat = false := by rw [isHigh]; simp; omega
    have hlow : isLow c.toNat = false := by rw [isLow]; simp; omega
    rw [unescapeFrom?_unit acc rest (hvalue.symm ▸ hhigh) (hvalue.symm ▸ hlow), hvalue,
      Char.ofNat_toNat]
  · simp [unescapeFrom?, hslash]

/-- **The token of a string stands for its characters.** -/
theorem unescape?_escape (text : List Char) : unescape? (escape text) = some text := by
  have hfrom : ∀ acc, unescapeFrom? acc (escape text) = some (acc.reverse ++ text) := by
    induction text with
    | nil => intro acc; rw [escape, List.flatMap_nil, unescapeFrom?, List.append_nil]
    | cons c text ih =>
      intro acc
      rw [escape, List.flatMap_cons, unescapeFrom?_escapeChar]
      exact (ih (c :: acc)).trans (by simp)
  exact hfrom []

/-! ## Numbers -/

/-- A number that stands in front of this ends here. -/
def EndsNumber (rest : List Char) : Prop :=
  ∀ c ∈ rest.head?, Decimal.isDigit c = false ∧ c ≠ '.' ∧ c ≠ 'e' ∧ c ≠ 'E'

theorem endsNumber_nil : EndsNumber [] := nofun

theorem endsNumber_cons {c : Char} (h : Decimal.isDigit c = false ∧ c ≠ '.' ∧ c ≠ 'e' ∧ c ≠ 'E')
    (rest : List Char) : EndsNumber (c :: rest) := by
  intro c' hc'
  cases hc'
  exact h

/-- A number starts with a digit, which is zero for zero only. -/
theorem digits_eq_cons (n : Nat) : ∃ c cs, Decimal.digits n = c :: cs ∧
    Decimal.isDigit c = true ∧ (c = '0' → cs = []) := by
  fun_induction Decimal.digits n with
  | case1 n hn => exact ⟨_, [], rfl, Decimal.isDigit_digit hn, fun _ => rfl⟩
  | case2 n hn ih =>
    obtain ⟨c, cs, hdigits, hc, hzero⟩ := ih
    refine ⟨c, cs ++ [Decimal.digit (n % 10)], by rw [hdigits]; rfl, hc, fun h => ?_⟩
    rw [hzero h] at hdigits
    have hvalue := congrArg Decimal.value hdigits
    rw [Decimal.value_digits, h] at hvalue
    exact absurd hvalue (by simp [Decimal.value]; omega)

theorem readDigits?_digits (n : Nat) {rest : List Char} (h : EndsNumber rest) :
    readDigits? (Decimal.digits n ++ rest) = some (Decimal.digits n, rest) := by
  have hall : ∀ c ∈ Decimal.digits n, Decimal.isDigit c = true := fun c =>
    Decimal.isDigit_of_mem_digits
  have htake : rest.takeWhile Decimal.isDigit = [] ∧ rest.dropWhile Decimal.isDigit = rest := by
    cases rest with
    | nil => exact ⟨rfl, rfl⟩
    | cons c rest => simp [(h c rfl).1]
  rw [readDigits?, List.takeWhile_append_of_pos hall, List.dropWhile_append_of_pos hall, htake.1,
    htake.2, List.append_nil]
  split
  · rename_i hnil
    exact absurd hnil (Decimal.digits_ne_nil n)
  · rfl

/-- **A number is read up to what ends it.** -/
theorem readNumber?_digits (n : Nat) {rest : List Char} (h : EndsNumber rest) :
    readNumber? (Decimal.digits n ++ rest) = some (Decimal.digits n, rest) := by
  have hinteger : readInteger? (Decimal.digits n ++ rest) = some (Decimal.digits n, rest) := by
    obtain ⟨c, cs, hdigits, -, hzero⟩ := digits_eq_cons n
    by_cases hc : c = '0'
    · rw [hdigits, hzero hc, hc]
      rfl
    · rw [readInteger?]
      · exact readDigits?_digits n h
      · intro rest' hrest'
        rw [hdigits] at hrest'
        exact hc (List.cons.inj hrest').1
  have hfraction : readFraction? rest = some ([], rest) := by
    rw [readFraction?]
    rintro rest' rfl
    exact (h '.' rfl).2.1 rfl
  have hexponent : readExponent? rest = some ([], rest) := by
    rw [readExponent?]
    · rintro rest' rfl
      exact (h 'e' rfl).2.2.1 rfl
    · rintro rest' rfl
      exact (h 'E' rfl).2.2.2 rfl
  rw [readNumber?]
  · simp [readUnsigned?, hinteger, hfraction, hexponent]
  · intro rest' hrest'
    obtain ⟨c, cs, hdigits, hc, -⟩ := digits_eq_cons n
    rw [hdigits] at hrest'
    rw [(List.cons.inj hrest').1] at hc
    exact absurd hc (by decide)

/-! ## Values -/

/-- A value whose numbers are decimal digits, and whose strings are escaped. -/
inductive IsWritten : Json → Prop where
  | null : IsWritten .null
  | bool (value : Bool) : IsWritten (.bool value)
  | number (n : Nat) : IsWritten (.number (Decimal.digits n))
  | string (text : List Char) : IsWritten (.string (escape text))
  | array {items : List Json} (h : ∀ item ∈ items, IsWritten item) : IsWritten (.array items)
  | object {fields : List (List Char × Json)}
    (hnames : ∀ field ∈ fields, ∃ name, field.1 = escape name)
    (hvalues : ∀ field ∈ fields, IsWritten field.2) : IsWritten (.object fields)

/-- A value is read with what follows it, in at most two calls for each character. -/
def Reads (value : Json) : Prop :=
  ∀ fuel rest, EndsNumber rest → 2 * value.render.length ≤ fuel →
    readValue? fuel (value.render ++ rest) = some (value, rest)

theorem isBlank_of_isDigit {c : Char} (h : Decimal.isDigit c = true) : isBlank c = false := by
  rw [Bool.eq_false_iff]
  intro hblank
  simp only [isBlank, Bool.or_eq_true, decide_eq_true_eq] at hblank
  rcases hblank with ((rfl | rfl) | rfl) | rfl <;> exact absurd h (by decide)

/-- The first character of a value is no blank, and closes nothing. -/
theorem IsWritten.render_eq_cons {value : Json} (h : value.IsWritten) :
    ∃ c cs, value.render = c :: cs ∧ isBlank c = false ∧ c ≠ ']' := by
  cases h with
  | null => exact ⟨'n', _, rfl, rfl, by decide⟩
  | bool value => cases value <;> exact ⟨_, _, rfl, rfl, by decide⟩
  | number n =>
    obtain ⟨c, cs, hdigits, hc, -⟩ := digits_eq_cons n
    refine ⟨c, cs, hdigits, ?_, ?_⟩
    · exact isBlank_of_isDigit hc
    · rintro rfl
      exact absurd hc (by decide)
  | string text => exact ⟨'"', _, rfl, rfl, by decide⟩
  | array h => rename_i items; cases items <;> exact ⟨'[', _, rfl, rfl, by decide⟩
  | object hnames hvalues => rename_i fields; cases fields <;> exact ⟨'\x7b', _, rfl, rfl, by decide⟩

theorem skipBlanks_cons {c : Char} (h : isBlank c = false) (rest : List Char) :
    skipBlanks (c :: rest) = c :: rest := by
  rw [skipBlanks, List.dropWhile_cons_of_neg (by simpa using h)]

theorem one_le_length_renderItems (items : List Json) : 1 ≤ (renderItems items).length := by
  cases items <;> simp [renderItems]

theorem one_le_length_renderFields (fields : List (List Char × Json)) :
    1 ≤ (renderFields fields).length := by
  cases fields with
  | nil => simp [renderFields]
  | cons field fields => obtain ⟨name, value⟩ := field; simp [renderFields]

theorem endsNumber_renderItems (items : List Json) (rest : List Char) :
    EndsNumber (renderItems items ++ rest) := by
  cases items with
  | nil => exact endsNumber_cons (by decide) _
  | cons item items => exact endsNumber_cons (c := ',') (by decide) _

theorem endsNumber_renderFields (fields : List (List Char × Json)) (rest : List Char) :
    EndsNumber (renderFields fields ++ rest) := by
  cases fields with
  | nil => exact endsNumber_cons (c := '\x7d') (by decide) _
  | cons field fields => exact endsNumber_cons (c := ',') (by decide) _

/-- Items are read up to the closing bracket. -/
theorem readItems?_render {item : Json} {items : List Json} (hitem : item.Reads)
    (hitems : ∀ item ∈ items, Reads item) (acc : List Json) {fuel : Nat} (rest : List Char)
    (hfuel : 2 * (item.render.length + (renderItems items).length) ≤ fuel) :
    readItems? fuel acc (item.render ++ (renderItems items ++ rest)) =
      some (.array (acc.reverse ++ item :: items), rest) := by
  induction items generalizing item acc fuel with
  | nil =>
    have hlength := one_le_length_renderItems []
    obtain ⟨fuel, rfl⟩ : ∃ n, fuel = n + 1 := ⟨fuel - 1, by omega⟩
    rw [readItems?, hitem fuel _ (endsNumber_renderItems [] rest) (by omega)]
    simp only [renderItems, List.cons_append, List.nil_append, skipBlanks_cons (c := ']') rfl,
      List.reverse_cons]
  | cons next items ih =>
    obtain ⟨hnext, hitems⟩ := List.forall_mem_cons.1 hitems
    have hlength : (renderItems (next :: items)).length =
        next.render.length + (renderItems items).length + 1 := by
      simp [renderItems]
    obtain ⟨fuel, rfl⟩ : ∃ n, fuel = n + 1 := ⟨fuel - 1, by omega⟩
    rw [readItems?, hitem fuel _ (endsNumber_renderItems (next :: items) rest) (by omega)]
    simp only [renderItems, List.cons_append, List.append_assoc, skipBlanks_cons (c := ',') rfl]
    rw [ih hnext hitems (item :: acc) (by omega), List.reverse_cons, List.append_assoc,
      List.singleton_append]

/-- The name of a field is read up to the colon. -/
theorem readName?_escape (name rest : List Char) :
    readName? ('"' :: (escape name ++ '"' :: ':' :: rest)) = some (escape name, rest) := by
  simp only [readName?, skipBlanks_cons (c := '"') rfl, readString?_escape,
    skipBlanks_cons (c := ':') rfl, List.reverse_nil, List.nil_append]

/-- Fields are read up to the closing brace. -/
theorem readFields?_render {name : List Char} {value : Json} {fields : List (List Char × Json)}
    (hvalue : value.Reads) (hnames : ∀ field ∈ fields, ∃ name, field.1 = escape name)
    (hvalues : ∀ field ∈ fields, Reads field.2) (acc : List (List Char × Json)) {fuel : Nat}
    (rest : List Char)
    (hfuel : 2 * (value.render.length + (renderFields fields).length) ≤ fuel) :
    readFields? fuel acc
        ('"' :: (escape name ++ '"' :: ':' :: (value.render ++ (renderFields fields ++ rest)))) =
      some (.object (acc.reverse ++ (escape name, value) :: fields), rest) := by
  induction fields generalizing name value acc fuel with
  | nil =>
    have hlength := one_le_length_renderFields []
    obtain ⟨fuel, rfl⟩ : ∃ n, fuel = n + 1 := ⟨fuel - 1, by omega⟩
    rw [readFields?, readName?_escape]
    simp only
    rw [hvalue fuel _ (endsNumber_renderFields [] rest) (by omega)]
    simp only [renderFields, List.cons_append, List.nil_append,
      skipBlanks_cons (c := '\x7d') rfl, List.reverse_cons]
  | cons field fields ih =>
    obtain ⟨token, value'⟩ := field
    obtain ⟨⟨next, hnext⟩, hnames'⟩ := List.forall_mem_cons.1 hnames
    obtain ⟨hvalue', hvalues'⟩ := List.forall_mem_cons.1 hvalues
    obtain rfl : token = escape next := hnext
    replace hvalue' : value'.Reads := hvalue'
    have hlength : value'.render.length + (renderFields fields).length + 1 ≤
        (renderFields ((escape next, value') :: fields)).length := by
      simp [renderFields]; omega
    obtain ⟨fuel, rfl⟩ : ∃ n, fuel = n + 1 := ⟨fuel - 1, by omega⟩
    rw [readFields?, readName?_escape]
    simp only
    rw [hvalue fuel _ (endsNumber_renderFields _ rest) (by omega)]
    simp only [renderFields, List.cons_append, List.append_assoc, skipBlanks_cons (c := ',') rfl]
    rw [ih hvalue' hnames' hvalues' ((escape name, value) :: acc) (by omega), List.reverse_cons,
      List.append_assoc, List.singleton_append]

/-- No text is empty, so there is a call to begin with. -/
theorem IsWritten.reads_of_succ {value : Json} (h : value.IsWritten)
    (hsucc : ∀ fuel rest, EndsNumber rest → 2 * value.render.length ≤ fuel + 1 →
      readValue? (fuel + 1) (value.render ++ rest) = some (value, rest)) : value.Reads := by
  intro fuel rest hrest hfuel
  obtain ⟨c, cs, hrender, -⟩ := h.render_eq_cons
  have hlength := congrArg List.length hrender
  rw [List.length_cons] at hlength
  obtain ⟨fuel, rfl⟩ : ∃ n, fuel = n + 1 := ⟨fuel - 1, by omega⟩
  exact hsucc fuel rest hrest hfuel

/-- A number is told by its first digit. -/
theorem reads_number (n : Nat) : (number (Decimal.digits n)).Reads := by
  refine (IsWritten.number n).reads_of_succ fun fuel rest hrest _ => ?_
  obtain ⟨c, cs, hdigits, hc, -⟩ := digits_eq_cons n
  have hread := readNumber?_digits n hrest
  simp only [render, hdigits, List.cons_append] at hread ⊢
  have hne : ∀ d : Char, Decimal.isDigit d = false → c ≠ d := by
    rintro d hd rfl
    exact absurd (hc.symm.trans hd) nofun
  rw [readValue?, skipBlanks_cons (isBlank_of_isDigit hc)]
  split
  all_goals try rename_i heq; exact absurd (List.cons.inj heq).1 (hne _ rfl)
  rw [hread]
  rfl

/-- An array is read item by item. -/
theorem reads_array {items : List Json} (hitems : ∀ item ∈ items, IsWritten item)
    (hreads : ∀ item ∈ items, Reads item) : (array items).Reads := by
  refine (IsWritten.array hitems).reads_of_succ fun fuel rest _ hfuel => ?_
  cases items with
  | nil => rfl
  | cons item items =>
    obtain ⟨hitem, hreads'⟩ := List.forall_mem_cons.1 hreads
    have hlength := one_le_length_renderItems items
    obtain ⟨c, cs, hrender, hblank, hclose⟩ := (hitems item List.mem_cons_self).render_eq_cons
    simp only [render, List.cons_append, List.length_cons, List.length_append,
      List.append_assoc] at hfuel ⊢
    have hread : readItems? fuel [] (item.render ++ (renderItems items ++ rest)) = _ :=
      readItems?_render hitem hreads' [] rest (by omega)
    rw [hrender, List.cons_append] at hread ⊢
    simp only [readValue?, skipBlanks_cons (c := '[') rfl, skipBlanks_cons hblank]
    split
    · rename_i heq
      exact absurd (List.cons.inj heq).1 hclose
    · exact hread

/-- An object is read field by field. -/
theorem reads_object {fields : List (List Char × Json)}
    (hnames : ∀ field ∈ fields, ∃ name, field.1 = escape name)
    (hvalues : ∀ field ∈ fields, IsWritten field.2) (hreads : ∀ field ∈ fields, Reads field.2) :
    (object fields).Reads := by
  refine (IsWritten.object hnames hvalues).reads_of_succ fun fuel rest _ hfuel => ?_
  cases fields with
  | nil => rfl
  | cons field fields =>
    obtain ⟨token, value⟩ := field
    obtain ⟨⟨name, hname⟩, hnames'⟩ := List.forall_mem_cons.1 hnames
    obtain ⟨hvalue, hreads'⟩ := List.forall_mem_cons.1 hreads
    obtain rfl : token = escape name := hname
    replace hvalue : value.Reads := hvalue
    have hlength := one_le_length_renderFields fields
    simp only [render, List.cons_append, List.length_cons, List.length_append,
      List.append_assoc] at hfuel ⊢
    simp only [readValue?, skipBlanks_cons (c := '\x7b') rfl, skipBlanks_cons (c := '"') rfl]
    exact readFields?_render hvalue hnames' hreads' [] rest (by omega)

/-- **What is written of a value reads back**, whatever follows. -/
theorem IsWritten.reads {value : Json} (h : value.IsWritten) : value.Reads := by
  induction h with
  | null => exact IsWritten.null.reads_of_succ fun _ _ _ _ => rfl
  | bool value =>
    refine (IsWritten.bool value).reads_of_succ fun _ _ _ _ => ?_
    cases value <;> rfl
  | number n => exact reads_number n
  | string text =>
    refine (IsWritten.string text).reads_of_succ fun fuel rest _ _ => ?_
    simp only [render, List.cons_append, List.append_assoc, List.nil_append, readValue?,
      skipBlanks_cons (c := '"') rfl, readString?_escape, Option.map_some, List.reverse_nil]
  | array hitems ih => exact reads_array hitems ih
  | object hnames hvalues ih => exact reads_object hnames hvalues ih

/-- **A text that holds one value** is read as that value. -/
theorem parse?_render {value : Json} (h : value.IsWritten) : parse? value.render = some value := by
  have hread := h.reads (2 * value.render.length + 2) [] endsNumber_nil (by omega)
  rw [List.append_nil] at hread
  rw [parse?, hread]
  rfl

end BatchInbox.Json
