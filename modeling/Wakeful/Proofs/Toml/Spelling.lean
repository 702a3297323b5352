import Wakeful.Toml.Document
import Wakeful.Toml.Spelling

/-! What is spelled is read back as the same value, and a document as the same entries. -/

namespace Wakeful.Toml

/-- What comes behind a value and cannot be taken for a part of it. -/
inductive Closed : List Char → Prop where
  /-- Nothing. -/
  | nothing : Closed []
  /-- The end of the line, or what separates or encloses values. -/
  | mark {first : Char} {rest : List Char} (closes : first ∈ [',', ']', '}', '\n']) :
      Closed (first :: rest)

/-! Texts. -/

/-- A digit is worth what it is the digit of. -/
theorem hexDigit?_digitChar {value : Nat} (small : value < 16) :
    hexDigit? (Nat.digitChar value) = some value := by
  -- There are only sixteen of them.
  have each : ∀ value < 16, hexDigit? (Nat.digitChar value) = some value := by decide
  exact each value small

/-- What does not stand for itself between double quotes is one of the first characters. -/
theorem toNat_lt_of_not_basic {character : Char} (special : isBasicCharacter character = false) :
    character.toNat < 128 := by
  -- All that is beyond the first characters stands for itself.
  simp only [isBasicCharacter, isBeyondAscii, Bool.or_eq_false_iff,
    decide_eq_false_iff_not] at special
  omega

/-- An escape is read back as the character that it was written for. -/
theorem escape?_digits {character : Char} (small : character.toNat < 128) (rest : List Char) :
    escape? ('u' :: '0' :: '0' :: Nat.digitChar (character.toNat / 16) ::
      Nat.digitChar (character.toNat % 16) :: rest) =
      some (character, rest) := by
  -- Both digits are read alone, and together they give the number of the character.
  have high := hexDigit?_digitChar (show character.toNat / 16 < 16 by omega)
  have low := hexDigit?_digitChar (show character.toNat % 16 < 16 by omega)
  have zero : hexDigit? '0' = some 0 := rfl
  -- Two noughts before them do not count.
  have number : hexNumber? ['0', '0', Nat.digitChar (character.toNat / 16),
      Nat.digitChar (character.toNat % 16)] =
      some character.toNat := by
    simp only [hexNumber?, List.foldlM_cons, List.foldlM_nil, zero, high, low, Option.map_some,
      Option.bind_eq_bind, Option.bind_some, Option.pure_def, Option.some.injEq]
    omega
  -- The number of a character that exists is that of a character.
  have valid : characterOf? character.toNat = some character := by
    have names : character.toNat.isValidChar := character.valid
    simp [characterOf?, names]
  simp [escape?, number, valid]

/-- A text between double quotes is read back, if there is a turn for every character. -/
theorem basicRest_spelled (text read rest : List Char) {fuel : Nat} (enough : text.length < fuel) :
    basicRest fuel read (text.flatMap spelledCharacter ++ '"' :: rest) =
      some (String.ofList (read.reverse ++ text), rest) := by
  induction text generalizing fuel read with
  | nil =>
    obtain ⟨fuel, rfl⟩ := Nat.exists_eq_add_one_of_ne_zero (Nat.ne_of_gt enough)
    simp [basicRest]
  | cons character text ih =>
    obtain ⟨fuel, rfl⟩ := Nat.exists_eq_add_one_of_ne_zero (Nat.ne_of_gt (Nat.zero_lt_of_lt enough))
    have fewer : text.length < fuel := by
      rw [List.length_cons] at enough
      omega
    have later := ih (character :: read) fewer
    rw [List.reverse_cons, List.append_assoc, List.singleton_append] at later
    cases basic : isBasicCharacter character with
    | true =>
      -- The character stands for itself, and is neither of the two that do not.
      have plain : character ≠ '"' ∧ character ≠ '\\' := by
        constructor <;> rintro rfl <;> revert basic <;> decide
      simp [spelledCharacter, basic, basicRest, plain, later]
    | false =>
      have escaped :=
        escape?_digits (toNat_lt_of_not_basic basic) (text.flatMap spelledCharacter ++ '"' :: rest)
      simp [spelledCharacter, basic, basicRest, escaped, later]

/-- A text has no more characters than are written for it. -/
theorem length_le_spelled (text : List Char) :
    text.length ≤ (text.flatMap spelledCharacter).length := by
  -- The induction is over the characters, and for each at least one is written.
  induction text with
  | nil => exact Nat.le_refl _
  | cons character text ih =>
    have nonempty : 1 ≤ (spelledCharacter character).length := by
      unfold spelledCharacter
      split <;> simp
    rw [List.flatMap_cons, List.length_append, List.length_cons]
    omega

/-- A text on one line is read back. -/
theorem shortText?_spelled (text : String) (rest : List Char) :
    shortText? (spelledText text ++ rest) = some (text, rest) := by
  -- There are as many turns as characters have been written, which is enough.
  have bound := length_le_spelled text.toList
  have enough : text.toList.length <
      (text.toList.flatMap spelledCharacter ++ '"' :: rest).length + 1 := by
    rw [List.length_append]
    omega
  simp only [spelledText, shortText?, List.cons_append, List.append_assoc, List.nil_append,
    basicRest_spelled _ _ _ enough, List.reverse_nil, String.ofList_toList]

/-- A value that is a text is read back. -/
theorem text?_spelled (text : String) {rest : List Char} (closed : Closed rest) :
    text? (spelledText text ++ rest) = some (text, rest) := by
  -- Only the texts on one line begin with a quote that is not followed by two more.
  rw [text?, shortText?_spelled]
  · -- Only an empty text begins with two quotes, and then the third character is no quote.
    intro more opens
    simp only [spelledText, List.cons_append, List.append_assoc, List.nil_append, List.cons.injEq,
      true_and] at opens
    -- The second quote ends an empty text, and no other text begins with one.
    cases spelled : text.toList with
    | nil =>
      rw [spelled] at opens
      cases closed with
      | nothing => simp at opens
      | mark closes =>
        simp at opens
        simp [opens.1] at closes
    | cons character others =>
      -- A quote within a text is escaped, and does not stand for itself.
      rw [spelled, List.flatMap_cons] at opens
      cases basic : isBasicCharacter character with
      | true =>
        simp [spelledCharacter, basic] at opens
        rw [opens.1] at basic
        revert basic
        decide
      | false => simp [spelledCharacter, basic] at opens
  · intro more opens
    simp [spelledText] at opens

/-! Whole numbers. -/

/-- The digits of a number are decimal ones. -/
theorem isDecimal_of_mem_toDigits {number : Nat} {digit : Char}
    (among : digit ∈ Nat.toDigits 10 number) : isDecimal digit = true := by
  -- Both notions of a digit are the same bounds.
  have plain := Nat.isDigit_of_mem_toDigits (by decide) (by decide) among
  simpa [isDecimal, Char.isDigit, Char.le_def] using plain

/-- The digits of a number spell it. -/
theorem numberOf_toDigits (number : Nat) : numberOf 10 (Nat.toDigits 10 number) = number := by
  -- The induction follows the digits, of which the last one is the remainder.
  induction number using Nat.strongRecOn with
  | ind number ih =>
    rw [Nat.toDigits_eq_if (by decide)]
    split
    · simp [numberOf, hexDigit?_digitChar (show number < 16 by omega)]
    · have earlier := ih (number / 10) (by omega)
      unfold numberOf at earlier ⊢
      simp only [List.foldl_append, earlier, List.foldl_cons, List.foldl_nil,
        hexDigit?_digitChar (show number % 10 < 16 by omega), Option.getD_some]
      omega

/-- Only the digits of zero begin with a zero. -/
theorem head?_toDigits_ne {number : Nat} (positive : 0 < number) :
    (Nat.toDigits 10 number).head? ≠ some '0' := by
  -- The digits before the last one are those of a tenth of the number, which is smaller.
  induction number using Nat.strongRecOn with
  | ind number ih =>
    rw [Nat.toDigits_eq_if (by decide)]
    split
    · -- A number below ten has a single digit, which is not a zero.
      rename_i single
      have each : ∀ digit < 10, 0 < digit → Nat.digitChar digit ≠ '0' := by decide
      simpa using each number single positive
    · -- Otherwise the first digit is that of the tenth.
      have earlier := ih (number / 10) (by omega) (by omega)
      cases digits : Nat.toDigits 10 (number / 10) with
      | nil => exact absurd digits Nat.toDigits_ne_nil
      | cons first others => simpa [digits] using earlier

/--
What comes behind a value is no digit, no underscore, and
nothing that continues a number or makes it a moment.
-/
theorem Closed.plain {first : Char} {rest : List Char} (closed : Closed (first :: rest)) :
    isDecimal first = false ∧ first ∉ ['_', '.', 'e', 'E', 'x', 'o', 'b', '-', ':'] := by
  -- There are four characters that may come behind a value.
  cases closed with
  | mark closes =>
    simp only [List.mem_cons, List.not_mem_nil, or_false] at closes
    rcases closes with rfl | rfl | rfl | rfl <;> decide

/-- Digits are read up to what comes behind them. -/
theorem moreDigits_closed {digits rest : List Char}
    (decimal : ∀ digit ∈ digits, isDecimal digit = true) (closed : Closed rest) (read : List Char) :
    moreDigits isDecimal read (digits ++ rest) = some (read.reverse ++ digits, rest) := by
  -- The induction is over the digits, while those that have been read pile up.
  induction digits generalizing read with
  | nil =>
    -- What comes behind stops the reading, as it is neither a digit nor an underscore.
    cases rest with
    | nil => simp [moreDigits]
    | cons first rest =>
      obtain ⟨other, apart⟩ := closed.plain
      simp only [List.mem_cons, not_or] at apart
      simp [moreDigits, other, apart.1]
  | cons digit digits ih =>
    -- A digit is taken, and the others are read behind it.
    have front := decimal digit List.mem_cons_self
    have plain : digit ≠ '_' := by
      rintro rfl
      cases front
    have later :=
      ih (fun other among => decimal other (List.mem_cons_of_mem _ among)) (digit :: read)
    rw [List.reverse_cons, List.append_assoc, List.singleton_append] at later
    simp [moreDigits, plain, front, later]

/-- The digits of a number are read back. -/
theorem plainDigits?_toDigits (number : Nat) {rest : List Char} (closed : Closed rest) :
    plainDigits? (Nat.toDigits 10 number ++ rest) = some (Nat.toDigits 10 number, rest) := by
  -- Several digits may not begin with a zero, and those of a number do not.
  rcases Nat.eq_zero_or_pos number with rfl | positive
  · rfl
  · have opens := head?_toDigits_ne positive
    have decimal : ∀ digit ∈ Nat.toDigits 10 number, isDecimal digit = true :=
      fun _ => isDecimal_of_mem_toDigits
    cases digits : Nat.toDigits 10 number with
    | nil => exact absurd digits Nat.toDigits_ne_nil
    | cons first others =>
      rw [digits] at opens decimal
      have other : first ≠ '0' := by simpa using opens
      have front := decimal first List.mem_cons_self
      have later :=
        moreDigits_closed (fun digit among => decimal digit (List.mem_cons_of_mem _ among)) closed
          [first]
      simp [plainDigits?, digits?, other, front, later]

/-- So many digits are only read where there are as many. -/
theorem le_length_of_fixedDigits? {digits rest : List Char} (closed : Closed rest) {count : Nat}
    {read : Nat × List Char} (taken : fixedDigits? count (digits ++ rest) = some read) :
    count ≤ digits.length := by
  simp only [fixedDigits?] at taken
  split at taken
  · rename_i fits
    obtain ⟨whole, decimal⟩ := fits
    refine Nat.le_of_not_lt fun beyond => ?_
    cases rest with
    | nil =>
      simp only [List.append_nil, List.length_take] at whole
      omega
    | cons first rest =>
      -- The first character behind the digits would have been taken for one.
      have among : first ∈ (digits ++ first :: rest).take count := by
        have unfilled : 0 < count - digits.length := by omega
        obtain ⟨more, counted⟩ := Nat.exists_eq_add_one_of_ne_zero (Nat.ne_of_gt unfilled)
        simp [List.take_append, counted]
      have front := List.all_eq_true.mp decimal first among
      exact Bool.noConfusion (front.symm.trans closed.plain.1)
  · cases taken

/-- What is left behind so many digits is no sign of a moment. -/
theorem fixedDigits?_closed {digits rest : List Char}
    (decimal : ∀ digit ∈ digits, isDecimal digit = true) (closed : Closed rest) {count value : Nat}
    {first : Char} {left : List Char}
    (read : fixedDigits? count (digits ++ rest) = some (value, first :: left)) :
    first ≠ '-' ∧ first ≠ ':' := by
  -- What is left are either more digits or what comes behind them all.
  have within := le_length_of_fixedDigits? closed read
  simp only [fixedDigits?] at read
  split at read
  · simp only [Option.some.injEq, Prod.mk.injEq, List.drop_append_of_le_length within] at read
    cases behind : digits.drop count with
    | nil =>
      -- Behind all digits stands nothing that continues a moment.
      rw [behind, List.nil_append] at read
      have apart := (read.2 ▸ closed).plain.2
      simp only [List.mem_cons, not_or] at apart
      exact ⟨apart.2.2.2.2.2.2.2.1, apart.2.2.2.2.2.2.2.2.1⟩
    | cons digit others =>
      -- A digit is no mark of a moment either.
      rw [behind, List.cons_append, List.cons.injEq] at read
      have front := decimal digit (List.mem_of_mem_drop (behind ▸ List.mem_cons_self))
      rw [read.2.1] at front
      constructor <;> rintro rfl <;> cases front
  · cases read

/-- Digits with what comes behind a value are no moment. -/
theorem announcesMoment_digits {digits rest : List Char}
    (decimal : ∀ digit ∈ digits, isDecimal digit = true) (closed : Closed rest) :
    announcesMoment (digits ++ rest) = false := by
  -- A date needs a dash behind its year, and a time a colon behind its hour.
  unfold announcesMoment
  split
  · rename_i date
    exact absurd rfl (fixedDigits?_closed decimal closed date).1
  · rename_i time _
    exact absurd rfl (fixedDigits?_closed decimal closed time).2
  · rfl

/-- What begins with a dash is no moment. -/
theorem announcesMoment_dash (rest : List Char) : announcesMoment ('-' :: rest) = false := by
  -- A moment begins with digits.
  have none (count : Nat) : fixedDigits? (count + 1) ('-' :: rest) = none := by
    have dash : isDecimal '-' = false := rfl
    simp [fixedDigits?, dash]
  simp [announcesMoment, none]

/-- The digits of a number begin with a decimal one. -/
theorem toDigits_eq_cons (number : Nat) :
    ∃ first others, Nat.toDigits 10 number = first :: others ∧ isDecimal first = true := by
  -- There is no number without digits.
  cases digits : Nat.toDigits 10 number with
  | nil => exact absurd digits Nat.toDigits_ne_nil
  | cons first others =>
    exact ⟨first, others, rfl, isDecimal_of_mem_toDigits (digits ▸ List.mem_cons_self)⟩

/-- No letter behind the digits of a number announces another base. -/
theorem toDigits_append_ne (number : Nat) {rest : List Char} (closed : Closed rest) :
    ∀ base ∈ ['x', 'o', 'b'], ∀ more, Nat.toDigits 10 number ++ rest ≠ '0' :: base :: more := by
  -- An announcement is a zero and a letter behind it.
  intro base among more same
  rcases Nat.eq_zero_or_pos number with rfl | positive
  · -- Behind a single zero stands what comes behind the number.
    have behind : rest = base :: more := by simpa using same
    subst behind
    have apart := closed.plain.2
    simp only [List.mem_cons, List.not_mem_nil, or_false] at apart among
    rcases among with rfl | rfl | rfl <;> simp at apart
  · -- Any other number does not begin with a zero.
    obtain ⟨first, others, digits, -⟩ := toDigits_eq_cons number
    have opens := head?_toDigits_ne positive
    rw [digits] at same opens
    exact opens (congrArg some (List.cons.inj same).1)

/--
A number with or without a sign is read as a whole number, unless a letter announces another base.
-/
theorem number?_signed {characters rest : List Char} {negative : Bool} {magnitude : Nat}
    {value : Int} (signed : sign characters = (negative, Nat.toDigits 10 magnitude ++ rest))
    (closed : Closed rest)
    (plain : ∀ base ∈ ['x', 'o', 'b'], ∀ more, characters ≠ '0' :: base :: more)
    (worth : (if negative then -(magnitude : Int) else magnitude) = value)
    (bounded : leastInteger ≤ value ∧ value ≤ greatestInteger) :
    number? characters = some (.integer value, rest) := by
  have read := plainDigits?_toDigits magnitude closed
  have special : specialNumber? characters = none := by
    obtain ⟨first, others, digits, decimal⟩ := toDigits_eq_cons magnitude
    have apart : first ≠ 'i' ∧ first ≠ 'n' := by
      constructor <;> rintro rfl <;> cases decimal
    simp [specialNumber?, signed, digits, apart]
  have whole : integer? characters = some (.integer value, rest) := by
    rw [integer?]
    · simp [signed, read, numberOf_toDigits, worth, boundedInteger, bounded]
    · exact fun more => plain 'x' (by decide) more
    · exact fun more => plain 'o' (by decide) more
    · exact fun more => plain 'b' (by decide) more
  cases rest with
  | nil =>
    simp only [number?, signed, read, special, whole, Bool.false_eq_true, if_false, Option.none_or]
  | cons first rest =>
    -- What comes behind the digits does not continue them.
    have apart := closed.plain.2
    simp only [List.mem_cons, not_or] at apart
    simp [number?, signed, read, special, whole, apart]

/-- What announces neither a text nor a truth value nor a moment is read as a number. -/
theorem plainValue?_eq_number? {first : Char} {more : List Char}
    (other : first ∉ ['"', '\'', 't', 'f']) (timeless : announcesMoment (first :: more) = false) :
    plainValue? (first :: more) = number? (first :: more) := by
  -- All that is tried before a number fails at the first character.
  simp only [List.mem_cons, not_or] at other
  simp [plainValue?, other, timeless]

/-- A whole number that has 64 bits is read back. -/
theorem plainValue?_spelledInteger {value : Int}
    (bounded : leastInteger ≤ value ∧ value ≤ greatestInteger) {rest : List Char}
    (closed : Closed rest) :
    plainValue? (spelledInteger value ++ rest) = some (.integer value, rest) := by
  -- A number with a sign and one without are spelled in different ways.
  cases value with
  | ofNat magnitude =>
    -- The first character is a digit, so that nothing else is tried before.
    obtain ⟨first, others, digits, decimal⟩ := toDigits_eq_cons magnitude
    have timeless : announcesMoment (Nat.toDigits 10 magnitude ++ rest) = false :=
      announcesMoment_digits (fun _ => isDecimal_of_mem_toDigits) closed
    have unsigned :
        sign (Nat.toDigits 10 magnitude ++ rest) = (false, Nat.toDigits 10 magnitude ++ rest) := by
      have apart : first ≠ '-' ∧ first ≠ '+' := by
        constructor <;> rintro rfl <;> cases decimal
      simp [sign, digits, apart]
    have read := number?_signed unsigned closed (toDigits_append_ne magnitude closed) rfl bounded
    have other : first ∉ ['"', '\'', 't', 'f'] := by
      simp only [List.mem_cons, List.not_mem_nil, or_false]
      rintro (rfl | rfl | rfl | rfl) <;> cases decimal
    rw [digits, List.cons_append] at timeless read
    simp only [spelledInteger, digits, List.cons_append]
    exact (plainValue?_eq_number? other timeless).trans read
  | negSucc below =>
    -- A dash begins neither a moment nor anything else but a number.
    have signed : sign ('-' :: (Nat.toDigits 10 (below + 1) ++ rest)) =
        (true, Nat.toDigits 10 (below + 1) ++ rest) := rfl
    have read := number?_signed signed closed (by simp) (by simp [Int.negSucc_eq]) bounded
    exact (plainValue?_eq_number? (by decide) (announcesMoment_dash _)).trans read

/-! Values that hold others. -/

/-- A value can be spelled, with others nested in it at most as deep as given. -/
inductive Value.Writable : (depth : Nat) → Value → Prop where
  /-- A text can be. -/
  | text {depth : Nat} (value : String) : Writable depth (.text value)
  /-- A whole number can be if it has 64 bits. -/
  | integer {depth : Nat} {value : Int} (bounded : leastInteger ≤ value ∧ value ≤ greatestInteger) :
      Writable depth (.integer value)
  /-- A truth value can be. -/
  | boolean {depth : Nat} (value : Bool) : Writable depth (.boolean value)
  /-- An array can be if its items can be. -/
  | array {depth : Nat} {items : List Value} (each : ∀ item ∈ items, Writable depth item) :
      Writable (depth + 1) (.array items)
  /-- A table can be if it repeats no key and its values can be. -/
  | table {depth : Nat} {entries : Entries} (keys : (entries.map Prod.fst).Nodup)
      (each : ∀ entry ∈ entries, Writable depth entry.2) : Writable (depth + 1) (.table entries)

/-- A value is read back by a reader of values. -/
structure Value.ReadBack (item : Reader Value) (value : Value) : Prop where
  /-- It does not begin with what can stand before it, nor with what ends a row. -/
  opens : ∃ first more, value.spelled = first :: more ∧ first ∉ [' ', '\t', '#', '\n', '\r', ']']
  /-- It is taken with nothing that comes behind it. -/
  read : ∀ rest, Closed rest → item (value.spelled ++ rest) = some (value, rest)

variable {item : Reader Value} {value : Value}

/-- Where no blank stands, none is skipped. -/
theorem skipBlanks_cons {first : Char} {more : List Char} (visible : first ∉ [' ', '\t']) :
    skipBlanks (first :: more) = first :: more := by
  -- The first character stops it.
  simp only [List.mem_cons, List.not_mem_nil, or_false, not_or] at visible
  simp [skipBlanks, isBlank, visible]

/-- Where neither a blank nor a comment nor a line end stands, nothing is skipped. -/
theorem skipSpace_cons {first : Char} {more : List Char}
    (visible : first ∉ [' ', '\t', '#', '\n', '\r']) :
    skipSpace (first :: more) = some (first :: more) := by
  -- The first character stops it, and it ends no line.
  simp only [List.mem_cons, List.not_mem_nil, or_false, not_or] at visible
  have blanks : skipBlanks (first :: more) = first :: more := skipBlanks_cons (by simp [visible])
  simp [skipSpace, skipLines, blanks, visible]

/-- Nothing is skipped before a value that is read back. -/
theorem Value.ReadBack.skipBlanks (back : value.ReadBack item) (rest : List Char) :
    skipBlanks (value.spelled ++ rest) = value.spelled ++ rest := by
  -- What is written for a value begins with a visible character.
  obtain ⟨first, more, spelled, visible⟩ := back.opens
  simp only [List.mem_cons, List.not_mem_nil, or_false, not_or] at visible
  rw [spelled, List.cons_append]
  exact skipBlanks_cons (by simp [visible])

/-- Items in a row are read back, if there is a turn for every item. -/
theorem items?_spelled {items : List Value} (each : ∀ value ∈ items, value.ReadBack item)
    (read : List Value) (rest : List Char) {fuel : Nat} (enough : items.length < fuel) :
    items? item fuel read (spelledItems items ++ rest) = some (read.reverse ++ items, rest) := by
  -- The induction is over the items, and each takes one turn.
  induction items generalizing read fuel with
  | nil =>
    -- The closing bracket takes the last turn.
    obtain ⟨fuel, rfl⟩ := Nat.exists_eq_add_one_of_ne_zero (Nat.ne_of_gt enough)
    have bracket : skipSpace (']' :: rest) = some (']' :: rest) := skipSpace_cons (by decide)
    simp [spelledItems, items?, bracket]
  | cons value items ih =>
    -- The item is read up to the comma behind it, and the others after that.
    obtain ⟨fuel, rfl⟩ := Nat.exists_eq_add_one_of_ne_zero (Nat.ne_of_gt (Nat.zero_lt_of_lt enough))
    have fewer : items.length < fuel := by
      rw [List.length_cons] at enough
      omega
    have back := each value List.mem_cons_self
    have later :=
      ih (fun other among => each other (List.mem_cons_of_mem _ among)) (value :: read) fewer
    rw [List.reverse_cons, List.append_assoc, List.singleton_append] at later
    have comma : skipSpace (',' :: (spelledItems items ++ rest)) =
        some (',' :: (spelledItems items ++ rest)) :=
      skipSpace_cons (by decide)
    have taken := back.read (',' :: (spelledItems items ++ rest)) (.mark (by decide))
    -- It does not begin with the bracket that would end the row.
    obtain ⟨first, more, spelled, visible⟩ := back.opens
    simp only [List.mem_cons, List.not_mem_nil, or_false, not_or] at visible
    rw [spelled, List.cons_append] at taken
    have space : skipSpace (first :: (more ++ ',' :: (spelledItems items ++ rest))) =
        some (first :: (more ++ ',' :: (spelledItems items ++ rest))) :=
          skipSpace_cons (by simp [visible])
    simp [spelledItems, items?, spelled, space, visible, taken, comma, later]

/-- There are no more items than characters written for them. -/
theorem length_le_spelledItems (items : List Value) :
    items.length ≤ (spelledItems items).length := by
  -- The induction is over the items, and each has its comma.
  induction items with
  | nil => exact Nat.zero_le _
  | cons value items ih =>
    rw [spelledItems, List.length_append, List.length_cons, List.length_cons]
    omega

/-- A key is read back before the sign that follows it. -/
theorem key?_spelled (key : String) (rest : List Char) :
    key? (spelledText key ++ '=' :: rest) = some (([], key), '=' :: rest) := by
  -- There is no dot behind the text, so that it is the only key.
  have blanks : skipBlanks (spelledText key ++ '=' :: rest) = spelledText key ++ '=' :: rest :=
    skipBlanks_cons (by decide)
  have sign : skipBlanks ('=' :: rest) = '=' :: rest := skipBlanks_cons (by decide)
  have keys : moreKeys? nestingLimit [] (spelledText key ++ '=' :: rest) =
      some ([key], '=' :: rest) := by
    simp [nestingLimit, moreKeys?, blanks, simpleKey?, shortText?_spelled, sign]
  simp [key?, keys]

/-- The entries of a table under construction that come from keys with values. -/
def slots (entries : Entries) : List (String × Slot) :=
  entries.map fun entry => (entry.1, .value entry.2)

/-- Entries one behind the other come from keys one behind the other. -/
theorem slots_append (entries others : Entries) :
    slots (entries ++ others) = slots entries ++ slots others :=
  List.map_append

/-- Entries that come from keys with values are finished as they were added. -/
theorem finishEntries_slots (entries : Entries) : finishEntries (slots entries) = entries := by
  -- The induction is over the entries, none of which is a table that is still open.
  induction entries with
  | nil => rfl
  | cons entry entries ih =>
    obtain ⟨key, value⟩ := entry
    simpa [slots, finishEntries, Slot.finish] using ih

/-- A new key is added behind the others. -/
theorem Draft.add_fresh {entries : Entries} {key : String} (fresh : key ∉ entries.map Prod.fst)
    (value : Value) : (Draft.mk false false (slots entries)).add [] key value =
      some (.mk false false (slots (entries ++ [(key, value)]))) := by
  -- No entry has the key, so it is not found,
  have absent : (Draft.mk false false (slots entries)).find? key = none := by
    simp only [Draft.find?, Draft.entries, slots, List.lookup_eq_none_iff, List.forall_mem_map]
    intro entry among
    have other : key ≠ entry.1 := fun same => fresh (same ▸ List.mem_map_of_mem among)
    simpa using other
  -- and the new one does not take the place of another,
  have unused : (slots entries).any (·.1 == key) = false := by
    simp only [slots, List.any_map, List.any_eq_false, Function.comp]
    intro entry among
    have other : entry.1 ≠ key := fun same => fresh (same ▸ List.mem_map_of_mem among)
    simpa using other
  -- but stands behind them all.
  have set : (Draft.mk false false (slots entries)).set key (.value value) =
      .mk false false (slots (entries ++ [(key, value)])) := by
    simp only [Draft.set, Draft.entries, unused, Bool.false_eq_true, if_false, Draft.withEntries,
      slots_append]
    rfl
  simp [Draft.add, Draft.change, Draft.isDotted, absent, set]

/--
Keys with values are read back behind those that have been added, if there is a turn for every key.
-/
theorem pairs?_spelled (before : Entries) {entries : Entries}
    (keys : ((before ++ entries).map Prod.fst).Nodup) (holds : entries ≠ [])
    (each : ∀ entry ∈ entries, entry.2.ReadBack item) (rest : List Char) {fuel : Nat}
    (enough : entries.length ≤ fuel) :
    pairs? item fuel (.mk false false (slots before)) (spelledPairs entries ++ rest) =
      some (.mk false false (slots (before ++ entries)), rest) := by
  -- The induction is over the entries, and each takes one turn.
  induction entries generalizing before fuel with
  | nil => exact absurd rfl holds
  | cons entry entries ih =>
    obtain ⟨key, value⟩ := entry
    obtain ⟨fuel, rfl⟩ := Nat.exists_eq_add_one_of_ne_zero (Nat.ne_of_gt (Nat.zero_lt_of_lt enough))
    have back := each (key, value) List.mem_cons_self
    -- The key is not among those that have been added.
    have fresh : key ∉ before.map Prod.fst := by
      simp only [List.map_append, List.map_cons, List.nodup_append, List.mem_cons] at keys
      exact fun among => keys.2.2 key among key (.inl rfl) rfl
    have added := Draft.add_fresh fresh value
    cases entries with
    | nil =>
      -- The last entry is followed by the brace.
      have brace : skipBlanks ('}' :: rest) = '}' :: rest := skipBlanks_cons (by decide)
      have taken := back.read ('}' :: rest) (.mark (by decide))
      simp [spelledPairs, pairs?, key?_spelled, back.skipBlanks, taken, added, brace]
    | cons next entries =>
      -- Any other is followed by a comma, and by the entries behind it.
      have comma : skipBlanks (',' :: (spelledPairs (next :: entries) ++ rest)) =
          ',' :: (spelledPairs (next :: entries) ++ rest) := skipBlanks_cons (by decide)
      have taken := back.read (',' :: (spelledPairs (next :: entries) ++ rest)) (.mark (by decide))
      have fewer : (next :: entries).length ≤ fuel := by simpa using enough
      have later := ih (before ++ [(key, value)]) (by simpa using keys) (by simp)
        (fun other among => each other (List.mem_cons_of_mem _ among)) fewer
      rw [spelledPairs]
      simp [pairs?, key?_spelled, back.skipBlanks, taken, added, comma, later]

/-- There are no more keys than characters written for them. -/
theorem length_le_spelledPairs (entries : Entries) :
    entries.length ≤ (spelledPairs entries).length := by
  -- The induction is over the entries, and each has its sign at least.
  induction entries with
  | nil => exact Nat.zero_le _
  | cons entry entries ih =>
    obtain ⟨key, value⟩ := entry
    rw [spelledPairs]
    -- Only the last one has no comma.
    cases entries with
    | nil =>
      simp only [List.length_append, List.length_cons, List.length_nil]
      omega
    | cons next entries =>
      simp only [List.isEmpty_cons, Bool.false_eq_true, if_false, List.length_append,
        List.length_cons] at ih ⊢
      omega

/-- A table within braces is read back. -/
theorem inlineTable?_spelled {entries : Entries} (keys : (entries.map Prod.fst).Nodup)
    (each : ∀ entry ∈ entries, entry.2.ReadBack item) (rest : List Char) :
    inlineTable? item (spelledPairs entries ++ rest) = some (.table entries, rest) := by
  -- A table without keys is read before anything else is tried.
  cases entries with
  | nil => simp [spelledPairs, inlineTable?, skipBlanks_cons]
  | cons entry entries =>
    -- There are more turns than entries, as there are more characters.
    have bound := length_le_spelledPairs (entry :: entries)
    have enough : (entry :: entries).length ≤
        (spelledPairs (entry :: entries) ++ rest).length + 1 := by
      rw [List.length_append]
      omega
    have read := pairs?_spelled [] keys (by simp) each rest enough
    -- The first key begins with a quote, which is not the brace.
    obtain ⟨more, opens⟩ : ∃ more, spelledPairs (entry :: entries) ++ rest = '"' :: more := ⟨_, rfl⟩
    rw [opens] at read ⊢
    rw [inlineTable?, skipBlanks_cons (by decide)]
    show (pairs? item (('"' :: more).length + 1) (.mk false false (slots [])) ('"' :: more)).map _ =
      _
    rw [read]
    simp [Draft.finish, finishEntries_slots]

/-- What is written for a whole number begins with a digit or a dash. -/
theorem spelledInteger_opens (value : Int) :
    ∃ first more, spelledInteger value = first :: more ∧
      (isDecimal first = true ∨ first = '-') := by
  -- Only a number below zero has a dash.
  cases value with
  | ofNat magnitude =>
    obtain ⟨first, others, digits, decimal⟩ := toDigits_eq_cons magnitude
    exact ⟨first, others, digits, .inl decimal⟩
  | negSucc below => exact ⟨_, _, rfl, .inr rfl⟩

/-- What is written for a value begins with a visible character that does not end a row. -/
theorem Value.Writable.opens {depth : Nat} (writable : value.Writable depth) :
    ∃ first more, value.spelled = first :: more ∧ first ∉ [' ', '\t', '#', '\n', '\r', ']'] := by
  -- Every kind of value has a first character of its own.
  cases writable with
  | text value => exact ⟨_, _, rfl, by decide⟩
  | integer bounded =>
    obtain ⟨first, more, spelled, digit⟩ := spelledInteger_opens _
    refine ⟨first, more, spelled, ?_⟩
    simp only [List.mem_cons, List.not_mem_nil, or_false]
    rintro (rfl | rfl | rfl | rfl | rfl | rfl) <;> revert digit <;> decide
  | boolean value => cases value <;> exact ⟨_, _, rfl, by decide⟩
  | array each => exact ⟨_, _, rfl, by decide⟩
  | table keys each => exact ⟨_, _, rfl, by decide⟩

/-- A value that holds no others is read at any depth. -/
theorem value?_eq_plainValue? {first : Char} {more : List Char} (leaf : first ∉ ['[', '{'])
    (depth : Nat) : value? depth (first :: more) = plainValue? (first :: more) := by
  -- Only a bracket or a brace begins a value that holds others.
  simp only [List.mem_cons, List.not_mem_nil, or_false, not_or] at leaf
  cases depth <;> simp [value?, leaf]

/-- Every value that can be spelled is read back. -/
theorem Value.Writable.readBack {depth : Nat} (writable : value.Writable depth) :
    value.ReadBack (value? depth) := by
  -- The induction is over the nesting, and every level of it uses up one level of the depth.
  induction writable with
  | text value =>
    refine ⟨(show (Value.text value).Writable 0 from .text value).opens, fun rest closed => ?_⟩
    have read : plainValue? (spelledText value ++ rest) = some (.text value, rest) := by
      have text := text?_spelled value closed
      simp only [spelledText, List.cons_append] at text ⊢
      simp only [plainValue?, text, Option.map_some]
    exact (value?_eq_plainValue? (by decide) _).trans read
  | integer bounded =>
    refine ⟨(show (Value.integer _).Writable 0 from .integer bounded).opens, fun rest closed => ?_⟩
    have read := plainValue?_spelledInteger bounded closed
    obtain ⟨first, more, spelled, digit⟩ := spelledInteger_opens _
    have leaf : first ∉ ['[', '{'] := by
      simp only [List.mem_cons, List.not_mem_nil, or_false]
      rintro (rfl | rfl) <;> revert digit <;> decide
    rw [Value.spelled]
    rw [spelled, List.cons_append] at read ⊢
    exact (value?_eq_plainValue? leaf _).trans read
  | boolean value =>
    refine ⟨(show (Value.boolean value).Writable 0 from .boolean value).opens,
      fun rest closed => ?_⟩
    cases value with
    | true => exact value?_eq_plainValue? (by decide) _
    | false => exact value?_eq_plainValue? (by decide) _
  | array each back =>
    refine ⟨(Writable.array each).opens, fun rest closed => ?_⟩
    rename_i depth items
    have bound := length_le_spelledItems items
    have enough : items.length < (spelledItems items ++ rest).length + 1 := by
      rw [List.length_append]
      omega
    have read := items?_spelled back [] rest enough
    simp only [Value.spelled, List.cons_append, value?, read, Option.map_some, List.reverse_nil,
      List.nil_append]
  | table keys each back =>
    refine ⟨(Writable.table keys each).opens, fun rest closed => ?_⟩
    rename_i depth entries
    simp only [Value.spelled, List.cons_append, value?]
    exact inlineTable?_spelled keys back rest

/-! Documents. -/

/-- A line with a key and its value is read back. -/
theorem statement?_spelled {progress after : Progress} {key : String}
    (writable : value.Writable nestingLimit) (added : progress.add [] key value = some after)
    (rest : List Char) :
    statement? progress (spelledText key ++ '=' :: (value.spelled ++ '\n' :: rest)) =
      some (after, rest) := by
  -- The line is neither empty nor a heading, so that it assigns a value to a key.
  have back := writable.readBack
  have taken := back.read ('\n' :: rest) (.mark (by decide))
  -- The line ends right behind the value.
  have line : statementEnd? ('\n' :: rest) = some rest := by
    simp [statementEnd?, skipComment, lineEnd?, skipBlanks, isBlank]
  have assigned : assignment? progress (spelledText key ++ '=' :: (value.spelled ++ '\n' :: rest)) =
      some (after, rest) := by
    simp [assignment?, key?_spelled, back.skipBlanks, taken, added, line]
  exact assigned

/-- A document of which these entries have been read. -/
def Progress.ofEntries (entries : Entries) : Progress :=
  ⟨.empty, .mk false false (slots entries), .top⟩

/--
Lines with keys and values are read back behind those that have been
read, if there is a turn for every line and one more.
-/
theorem statements?_spelled (before : Entries) {entries : Entries}
    (keys : ((before ++ entries).map Prod.fst).Nodup)
    (each : ∀ entry ∈ entries, entry.2.Writable nestingLimit) {fuel : Nat}
    (enough : entries.length < fuel) :
    statements? fuel (.ofEntries before) (spelledLines entries) =
      some (.ofEntries (before ++ entries)) := by
  -- The induction is over the entries, and each takes one turn.
  induction entries generalizing before fuel with
  | nil =>
    -- The last turn finds that nothing is left.
    obtain ⟨fuel, rfl⟩ := Nat.exists_eq_add_one_of_ne_zero (Nat.ne_of_gt enough)
    simp [spelledLines, statements?, skipBlanks]
  | cons entry entries ih =>
    obtain ⟨key, value⟩ := entry
    obtain ⟨fuel, rfl⟩ := Nat.exists_eq_add_one_of_ne_zero (Nat.ne_of_gt (Nat.zero_lt_of_lt enough))
    -- The key is not among those that have been read.
    have fresh : key ∉ before.map Prod.fst := by
      simp only [List.map_append, List.map_cons, List.nodup_append, List.mem_cons] at keys
      exact fun among => keys.2.2 key among key (.inl rfl) rfl
    have added : (Progress.ofEntries before).add [] key value =
        some (.ofEntries (before ++ [(key, value)])) := by
      simp [Progress.ofEntries, Progress.add, Draft.add_fresh fresh]
    have read :=
      statement?_spelled (each (key, value) List.mem_cons_self) added (spelledLines entries)
    have fewer : entries.length < fuel := by simpa using enough
    have later := ih (before ++ [(key, value)]) (by simpa using keys)
      (fun other among => each other (List.mem_cons_of_mem _ among)) fewer
    -- A quote opens the line, so that no blank is skipped.
    obtain ⟨more, opens⟩ :
        ∃ more, spelledText key ++ '=' :: (value.spelled ++ '\n' :: spelledLines entries) =
          '"' :: more := ⟨_, rfl⟩
    rw [opens] at read
    rw [spelledLines, opens, statements?, skipBlanks_cons (by decide)]
    simp only [read, later, List.append_assoc, List.singleton_append]

/-- There are no more entries than characters written for them. -/
theorem length_le_spelledLines (entries : Entries) :
    entries.length ≤ (spelledLines entries).length := by
  -- The induction is over the entries, and each has the end of its line.
  induction entries with
  | nil => exact Nat.zero_le _
  | cons entry entries ih =>
    obtain ⟨key, value⟩ := entry
    simp only [spelledLines, List.length_append, List.length_cons]
    omega

/-- Every document without repeated keys whose values can be spelled is what its spelling says. -/
theorem parse_spelledDocument {entries : Entries} (keys : (entries.map Prod.fst).Nodup)
    (each : ∀ entry ∈ entries, entry.2.Writable nestingLimit) :
    parse (spelledDocument entries) = some entries := by
  -- The lines are read from the start, with a turn for each, since they begin with no mark of the
  -- order of octets.
  have unmarked : skipMark (spelledLines entries) = spelledLines entries := by
    cases entries with
    | nil => rfl
    | cons entry entries =>
      obtain ⟨more, opens⟩ : ∃ more, spelledLines (entry :: entries) = '"' :: more := ⟨_, rfl⟩
      rw [opens]
      rfl
  have enough : entries.length < (spelledLines entries).length + 1 :=
    Nat.lt_succ_of_le (length_le_spelledLines entries)
  have read := statements?_spelled [] keys each enough
  have start : Progress.start = .ofEntries [] := rfl
  have closed : (Progress.ofEntries entries).closed = some (.mk false false (slots entries)) := rfl
  simp [parse, spelledDocument, unmarked, start, read, closed, Draft.finish, finishEntries_slots]

end Wakeful.Toml
