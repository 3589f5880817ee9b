import Mathlib.Data.List.Basic
import StarWatch.Json.Reader
import StarWatch.Json.Writer
import StarWatch.Proofs.Numerals

/-!
# JSON text is read back

The reader undoes the writer. Each character of a string is read from its
escape, an integer from its digits, and lists and objects item by item; a value
ends where its text ends, whatever follows. The fuel of the reader suffices, for
each call leaves it with less text than fuel. Numbers that are kept as literals
are left out, for nothing here writes them.
-/

namespace StarWatch.Json

section Strings

theorem readEscape_unicode {n : Nat} (small : n < 0xD800) (rest : List Char) :
    readEscape ('u' :: Numeral.hexPadded 4 n ++ rest) = some (Char.ofNat n, rest) := by
  have read := Numeral.ofHexChars?_hexPadded (w := 4) (n := n) (by omega)
  obtain ⟨a, b, c, d, shown⟩ : ∃ a b c d, Numeral.hexPadded 4 n = [a, b, c, d] := by
    simp [Numeral.hexPadded, Numeral.padded]
  rw [shown] at read
  simp only [shown, List.cons_append, List.nil_append, readEscape, unit?, read]
  rw [if_pos (.inl small)]

/-- A character is read from its escape, with one unit of fuel. -/
theorem readTextOnto_escape (fuel : Nat) (acc : List Char) (c : Char) (rest : List Char) :
    readTextOnto (fuel + 1) acc (escape c ++ rest) = readTextOnto fuel (c :: acc) rest := by
  have whole : Char.ofNat c.toNat = c := Char.ofNat_toNat c
  simp only [escape]
  split_ifs with quote backslash backspace tab newline feed return_ control
  · subst quote
    rfl
  · subst backslash
    rfl
  · rw [← whole, backspace]
    rfl
  · rw [← whole, tab]
    rfl
  · rw [← whole, newline]
    rfl
  · rw [← whole, feed]
    rfl
  · rw [← whole, return_]
    rfl
  · have read := readEscape_unicode (show c.toNat < 0xD800 by omega) rest
    rw [whole] at read
    rw [List.cons_append, readTextOnto, if_neg (by decide), if_pos rfl]
    simp only [read]
  · rw [List.singleton_append, readTextOnto, if_neg quote, if_neg backslash, if_neg control]

theorem readTextOnto_escapes {fuel : Nat} {cs : List Char} (enough : cs.length < fuel)
    (acc rest : List Char) :
    readTextOnto fuel acc (cs.flatMap escape ++ '"' :: rest) = some (acc.reverse ++ cs, rest) := by
  induction cs generalizing fuel acc with
  | nil =>
    cases fuel with
    | zero => cases enough
    | succ fuel => simp [readTextOnto]
  | cons c cs ih =>
    cases fuel with
    | zero => cases enough
    | succ fuel =>
      rw [List.flatMap_cons, List.append_assoc, readTextOnto_escape,
        ih (Nat.lt_of_succ_lt_succ enough), List.reverse_cons, List.append_assoc]
      rfl

/-- No escape is empty, so a text is no longer than what is written for it. -/
theorem length_le_escapes (cs : List Char) : cs.length ≤ (cs.flatMap escape).length := by
  induction cs with
  | nil => exact Nat.le_refl 0
  | cons c cs ih =>
    have some_there : 1 ≤ (escape c).length := by
      simp only [escape]
      split_ifs
      all_goals simp
    rw [List.flatMap_cons, List.length_append, List.length_cons]
    omega

theorem length_writeText (s : String) :
    (writeText s).length = (s.toList.flatMap escape).length + 2 := by
  simp [writeText]

/-- A string is read back behind its opening quote. -/
theorem readText_writeText {fuel : Nat} {s : String} (enough : (writeText s).length ≤ fuel)
    (rest : List Char) : ∃ body, writeText s ++ rest = '"' :: body ∧
      readText fuel body = some (s, rest) := by
  have bound := length_le_escapes s.toList
  rw [length_writeText] at enough
  refine ⟨s.toList.flatMap escape ++ '"' :: rest, by simp [writeText], ?_⟩
  rw [readText, readTextOnto_escapes (by omega), Option.map_some]
  simp

end Strings

section Numbers

/-- A number that ends in front of a text cannot go on in it. -/
def Stops (rest : List Char) : Prop :=
  ∀ c ∈ rest.head?, isDigit c = false ∧ c ≠ '.' ∧ c ≠ 'e' ∧ c ≠ 'E'

variable {rest : List Char}

theorem isDigit_digitChar : ∀ d < 10, isDigit (Numeral.digitChar d) = true := by decide

theorem isDigit_decimalChars (n : Nat) : ∀ c ∈ Numeral.decimalChars n, isDigit c = true := by
  intro c member
  obtain ⟨d, digit, rfl⟩ := List.mem_map.mp member
  exact isDigit_digitChar d (Numeral.lt_of_mem_digits (by decide) digit)

theorem Stops.takeWhile (stops : Stops rest) (n : Nat) :
    (Numeral.decimalChars n ++ rest).takeWhile isDigit = Numeral.decimalChars n ∧
      (Numeral.decimalChars n ++ rest).dropWhile isDigit = rest := by
  have digits := isDigit_decimalChars n
  rw [List.takeWhile_append_of_pos digits, List.dropWhile_append_of_pos digits]
  cases rest with
  | nil => simp
  | cons c rest =>
    have no_digit := (stops c rfl).1
    rw [List.takeWhile_cons_of_neg (by simp [no_digit]), List.append_nil,
      List.dropWhile_cons_of_neg (by simp [no_digit])]
    exact ⟨rfl, rfl⟩

/-- The numeral of a number has no zero in front of other digits. -/
theorem decimalChars_ne_zero_cons (n : Nat) (c : Char) (cs : List Char) :
    Numeral.decimalChars n ≠ '0' :: c :: cs := by
  have only_zero : ∀ d < 10, Numeral.digitChar d = '0' → d = 0 := by decide
  intro shown
  rw [Numeral.decimalChars] at shown
  cases digits : Numeral.digits 10 n with
  | nil => exact Numeral.digits_ne_nil 10 n digits
  | cons d ds =>
    rw [digits, List.map_cons] at shown
    obtain ⟨first, others⟩ := List.cons.inj shown
    have small : d < 10 := Numeral.lt_of_mem_digits (by decide) (digits ▸ List.mem_cons_self)
    have zero : n = 0 := by
      refine Numeral.eq_zero_of_head?_digits (b := 10) (by decide) ?_
      rw [digits, only_zero d small first]
      rfl
    rw [zero, Numeral.digits_of_lt (by decide)] at digits
    rw [← (List.cons.inj digits).2] at others
    cases others

theorem Stops.integerPart? (stops : Stops rest) (n : Nat) :
    integerPart? (Numeral.decimalChars n ++ rest) = some (Numeral.decimalChars n, rest) := by
  obtain ⟨taken, left⟩ := stops.takeWhile n
  rw [Json.integerPart?, taken, left]
  split
  · rename_i empty
    exact absurd empty (Numeral.decimalChars_ne_nil n)
  · rename_i shown
    exact absurd shown (decimalChars_ne_zero_cons n _ _)
  · rfl

theorem Stops.fractionPart? (stops : Stops rest) : fractionPart? rest = some ([], rest) := by
  unfold Json.fractionPart?
  split
  · exact absurd rfl (stops '.' rfl).2.1
  · rfl

theorem Stops.exponentPart? (stops : Stops rest) : exponentPart? rest = some ([], rest) := by
  cases rest with
  | nil => rfl
  | cons c rest =>
    obtain ⟨-, -, small, capital⟩ := stops c rfl
    simp only [Json.exponentPart?]
    rw [if_neg (not_or.mpr ⟨small, capital⟩)]

/-- The numeral of a number starts with a digit. -/
theorem exists_decimalChars (n : Nat) :
    ∃ c cs, Numeral.decimalChars n = c :: cs ∧ isDigit c = true := by
  cases shown : Numeral.decimalChars n with
  | nil => exact absurd shown (Numeral.decimalChars_ne_nil n)
  | cons c cs => exact ⟨c, cs, rfl, isDigit_decimalChars n c (shown ▸ List.mem_cons_self)⟩

theorem Stops.readNumber (stops : Stops rest) (n : Int) :
    readNumber (writeInt n ++ rest) = some (.integer n, rest) := by
  have whole := stops.integerPart? n.natAbs
  rw [writeInt]
  split
  · rename_i negative
    have nonzero : n ≠ 0 := by omega
    have number : -(n.natAbs : Int) = n := by omega
    simpa [Json.readNumber, whole, stops.fractionPart?, stops.exponentPart?,
      Numeral.ofDecimalChars?_decimalChars, nonzero] using number
  · rename_i positive
    have number : (n.natAbs : Int) = n := by omega
    obtain ⟨c, cs, shown, digit⟩ := exists_decimalChars n.natAbs
    have unsigned : c ≠ '-' := by
      rintro rfl
      cases digit
    have numeral := Numeral.ofDecimalChars?_decimalChars n.natAbs
    rw [shown] at whole numeral ⊢
    rw [List.cons_append] at whole ⊢
    unfold Json.readNumber
    split
    rename_i sign
    split at sign
    · rename_i first
      exact absurd (List.cons.inj first).1 unsigned
    · cases sign
      simpa [whole, stops.fractionPart?, stops.exponentPart?, numeral] using number

end Numbers

/-- A value without numbers that are kept as literals. -/
inductive Plain : Json → Prop
  | null : Plain null
  | bool (b : Bool) : Plain (bool b)
  | integer (n : Int) : Plain (integer n)
  | text (s : String) : Plain (text s)
  | array {items : List Json} (all : ∀ item ∈ items, Plain item) : Plain (array items)
  | object {fields : List (String × Json)} (all : ∀ f ∈ fields, Plain f.2) : Plain (object fields)

/-- The text of a value is read as the value, whatever follows that cannot continue it. -/
def ReadsBack (j : Json) : Prop :=
  ∀ (fuel : Nat) (rest : List Char), (write j).length < fuel → Stops rest →
    readValue fuel (write j ++ rest) = some (j, rest)

def Begins (c : Char) : Prop := isSpace c = false ∧ c ≠ ']' ∧ c ≠ '}'

instance (c : Char) : Decidable (Begins c) := inferInstanceAs (Decidable (_ ∧ _))

section Marks

variable {c : Char} {rest : List Char}

theorem skip_cons (visible : isSpace c = false) (rest : List Char) :
    skip (c :: rest) = c :: rest := by
  rw [skip, List.dropWhile_cons_of_neg]
  simp [visible]

theorem begins_of_isDigit (digit : isDigit c = true) : Begins c := by
  refine ⟨?_, ?_, ?_⟩
  · by_contra space
    simp only [isSpace, Bool.not_eq_false, Bool.or_eq_true, decide_eq_true_eq] at space
    rcases space with ((rfl | rfl) | rfl) | rfl
    all_goals cases digit
  · rintro rfl
    cases digit
  · rintro rfl
    cases digit

theorem stops_cons (mark : c = ',' ∨ c = ']' ∨ c = '}') (rest : List Char) : Stops (c :: rest) := by
  intro c' here
  cases here
  rcases mark with rfl | rfl | rfl
  all_goals decide

theorem exists_writeInt (n : Int) :
    ∃ c cs, writeInt n = c :: cs ∧ (c = '-' ∨ isDigit c = true) := by
  rw [writeInt]
  split
  · exact ⟨'-', _, rfl, .inl rfl⟩
  · obtain ⟨c, cs, shown, digit⟩ := exists_decimalChars n.natAbs
    exact ⟨c, cs, shown, .inr digit⟩

theorem Plain.begins {j : Json} (plain : Plain j) : ∃ c cs, write j = c :: cs ∧ Begins c := by
  cases plain with
  | null => exact ⟨'n', _, rfl, by decide⟩
  | bool b =>
    cases b with
    | true => exact ⟨'t', _, rfl, by decide⟩
    | false => exact ⟨'f', _, rfl, by decide⟩
  | integer n =>
    obtain ⟨c, cs, shown, first⟩ := exists_writeInt n
    refine ⟨c, cs, by rw [write, shown], ?_⟩
    rcases first with rfl | digit
    · decide
    · exact begins_of_isDigit digit
  | text s => exact ⟨'"', _, rfl, by decide⟩
  | @array items all =>
    cases items with
    | nil => exact ⟨'[', _, rfl, by decide⟩
    | cons item rest => exact ⟨'[', _, rfl, by decide⟩
  | @object fields all =>
    cases fields with
    | nil => exact ⟨'{', _, rfl, by decide⟩
    | cons f rest => exact ⟨'{', _, rfl, by decide⟩

end Marks

section Values

variable {fuel : Nat}

theorem readValue_number {c : Char} {cs : List Char} (first : c = '-' ∨ isDigit c = true) :
    readValue (fuel + 1) (c :: cs) = readNumber (c :: cs) := by
  have begins : Begins c := by
    rcases first with rfl | digit
    · decide
    · exact begins_of_isDigit digit
  have other : ∀ mark, mark ≠ '-' ∧ isDigit mark = false → c ≠ mark := by
    rintro mark ⟨unsigned, no_digit⟩ rfl
    rcases first with signed | digit
    · exact unsigned signed
    · rw [no_digit] at digit
      cases digit
  rw [readValue, skip_cons begins.1]
  split
  any_goals
    rename_i shown
    exact absurd (List.cons.inj shown).1 (other _ (by decide))
  rfl

theorem readsBack_integer (n : Int) : ReadsBack (integer n) := by
  intro fuel rest enough stops
  obtain ⟨c, cs, shown, first⟩ := exists_writeInt n
  have read := stops.readNumber n
  cases fuel with
  | zero => cases enough
  | succ fuel =>
    rw [shown, List.cons_append] at read
    rw [write, shown, List.cons_append, readValue_number first, read]

theorem readsBack_text (s : String) : ReadsBack (text s) := by
  intro fuel rest enough stops
  rw [write] at enough ⊢
  cases fuel with
  | zero => cases enough
  | succ fuel =>
    obtain ⟨body, shown, read⟩ := readText_writeText (Nat.le_of_lt_succ enough) rest
    rw [shown, readValue, skip_cons (by decide)]
    simp [read]

/-- Items are read one by one. Behind each of them stands a mark, so one unit of fuel for each
call leaves enough. -/
theorem readItems_write {item : Json} {rest : List Json} (all : ∀ j ∈ item :: rest, ReadsBack j)
    (enough : (write item ++ writeItems rest).length < fuel) (acc : List Json)
    (tail : List Char) :
    readItems fuel acc (write item ++ (writeItems rest ++ tail)) =
      some (array (acc.reverse ++ item :: rest), tail) := by
  induction rest generalizing item fuel acc with
  | nil =>
    cases fuel with
    | zero => cases enough
    | succ fuel =>
      rw [List.length_append, writeItems, List.length_singleton] at enough
      have first := all item List.mem_cons_self fuel (']' :: tail) (by omega)
        (stops_cons (.inr (.inl rfl)) tail)
      rw [readItems, writeItems, List.singleton_append, first]
      simp [skip_cons (show isSpace ']' = false by decide)]
  | cons next later ih =>
    cases fuel with
    | zero => cases enough
    | succ fuel =>
      obtain ⟨reads, others⟩ := List.forall_mem_cons.mp all
      rw [writeItems, List.length_append, List.cons_append, List.length_cons] at enough
      have first := reads fuel (',' :: (write next ++ (writeItems later ++ tail))) (by omega)
        (stops_cons (.inl rfl) _)
      have shorter : (write next ++ writeItems later).length < fuel := by omega
      have behind := ih others shorter (item :: acc)
      rw [readItems, writeItems, List.cons_append, List.cons_append, List.append_assoc, first]
      simp only [skip_cons (show isSpace ',' = false by decide), behind]
      rw [List.reverse_cons, List.append_assoc]
      rfl

theorem readsBack_array {items : List Json} (all : ∀ j ∈ items, ReadsBack j)
    (plain : ∀ j ∈ items, Plain j) : ReadsBack (array items) := by
  intro fuel tail enough stops
  cases fuel with
  | zero => cases enough
  | succ fuel =>
    cases items with
    | nil => simp [write, readValue, skip_cons (show isSpace '[' = false by decide),
        skip_cons (show isSpace ']' = false by decide)]
    | cons item rest =>
      obtain ⟨c, cs, shown, visible, open_, -⟩ := (plain item List.mem_cons_self).begins
      rw [write, List.cons_append, List.length_cons] at enough
      have read := readItems_write all (Nat.lt_of_succ_lt_succ enough) [] tail
      rw [write, List.cons_append, List.cons_append, List.append_assoc, readValue,
        skip_cons (by decide)]
      rw [shown, List.cons_append] at read ⊢
      simp only [skip_cons visible]
      split
      · rename_i first
        exact absurd (List.cons.inj first).1 open_
      · exact read

/-- One field is read up to the mark behind it, which says whether others follow. -/
theorem readFields_field {value : Json} {mark : Char} (reads : ReadsBack value)
    (marks : mark = ',' ∨ mark = '}') (name : String)
    (enough : (writeText name).length + (write value).length < fuel) (acc : List (String × Json))
    (rest : List Char) :
    readFields (fuel + 1) acc (writeText name ++ ':' :: (write value ++ mark :: rest)) =
      if mark = ',' then readFields fuel ((name, value) :: acc) rest
      else some (object ((name, value) :: acc).reverse, rest) := by
  have named : (writeText name).length ≤ fuel := by omega
  obtain ⟨body, shown, read⟩ := readText_writeText named (':' :: (write value ++ mark :: rest))
  have behind : Stops (mark :: rest) := stops_cons (marks.imp_right .inr) rest
  have first := reads fuel (mark :: rest) (by omega) behind
  rw [readFields, shown, skip_cons (by decide)]
  simp only [read, skip_cons (show isSpace ':' = false by decide), first]
  rcases marks with rfl | rfl
  · simp only [skip_cons (show isSpace ',' = false by decide)]
    rfl
  · simp only [skip_cons (show isSpace '}' = false by decide)]
    rfl

theorem readFields_write {name : String} {value : Json} {rest : List (String × Json)}
    (all : ∀ f ∈ (name, value) :: rest, ReadsBack f.2)
    (enough : (writeText name ++ ':' :: write value ++ writeFields rest).length < fuel)
    (acc : List (String × Json)) (tail : List Char) :
    readFields fuel acc (writeText name ++ ':' :: (write value ++ (writeFields rest ++ tail))) =
      some (object (acc.reverse ++ (name, value) :: rest), tail) := by
  obtain ⟨reads, others⟩ := List.forall_mem_cons.mp all
  replace reads : ReadsBack value := reads
  induction rest generalizing name value fuel acc with
  | nil =>
    cases fuel with
    | zero => cases enough
    | succ fuel =>
      simp only [writeFields, List.length_append, List.length_cons, List.length_nil] at enough
      have last := readFields_field reads (.inr rfl) name (show _ < fuel by omega) acc tail
      rw [writeFields, List.singleton_append, last, if_neg (by decide), List.reverse_cons]
  | cons next later ih =>
    cases fuel with
    | zero => cases enough
    | succ fuel =>
      obtain ⟨next_name, next_value⟩ := next
      obtain ⟨next_reads, later_reads⟩ := List.forall_mem_cons.mp others
      simp only [writeFields, List.length_append, List.length_cons] at enough
      have shorter : (writeText next_name ++ ':' :: write next_value ++
          writeFields later).length < fuel := by
        simp only [List.length_append, List.length_cons]
        omega
      have behind := ih others shorter ((name, value) :: acc) later_reads next_reads
      have first := readFields_field reads (.inl rfl) name (show _ < fuel by omega) acc
        (writeText next_name ++ ':' :: (write next_value ++ (writeFields later ++ tail)))
      simp only [writeFields, List.cons_append, List.append_assoc]
      rw [first, if_pos rfl, behind, List.reverse_cons, List.append_assoc]
      rfl

theorem readsBack_object {fields : List (String × Json)} (all : ∀ f ∈ fields, ReadsBack f.2) :
    ReadsBack (object fields) := by
  intro fuel tail enough stops
  cases fuel with
  | zero => cases enough
  | succ fuel =>
    cases fields with
    | nil => simp [write, readValue, skip_cons (show isSpace '{' = false by decide),
        skip_cons (show isSpace '}' = false by decide)]
    | cons f rest =>
      obtain ⟨name, value⟩ := f
      simp only [write, List.cons_append, List.length_cons] at enough
      have read := readFields_write all (Nat.lt_of_succ_lt_succ enough) [] tail
      simp only [write, List.cons_append, List.append_assoc]
      rw [readValue, skip_cons (by decide)]
      have quoted : ∃ cs, writeText name ++ ':' :: (write value ++ (writeFields rest ++ tail)) =
          '"' :: cs := ⟨_, rfl⟩
      obtain ⟨cs, shown⟩ := quoted
      rw [shown] at read ⊢
      simp only [skip_cons (show isSpace '"' = false by decide)]
      exact read

/-- The text of a value is read back as the value. -/
theorem Plain.readsBack {j : Json} (plain : Plain j) : ReadsBack j := by
  induction plain with
  | null =>
    intro fuel rest enough _
    cases fuel with
    | zero => cases enough
    | succ fuel => simp [write, readValue, skip_cons (show isSpace 'n' = false by decide)]
  | bool b =>
    intro fuel rest enough _
    cases fuel with
    | zero => cases enough
    | succ fuel =>
      cases b with
      | true => simp [write, readValue, skip_cons (show isSpace 't' = false by decide)]
      | false => simp [write, readValue, skip_cons (show isSpace 'f' = false by decide)]
  | integer n => exact readsBack_integer n
  | text s => exact readsBack_text s
  | array all reads => exact readsBack_array reads all
  | object _ reads => exact readsBack_object reads

end Values

/-- Reading undoes writing. -/
theorem Plain.read?_compact {j : Json} (plain : Plain j) : read? (compact j) = some j := by
  have read := plain.readsBack (2 * (write j).length + 2) [] (by omega) nofun
  rw [List.append_nil] at read
  rw [read?, compact, String.toList_ofList, readChars?, read]
  rfl

end StarWatch.Json
