import Decorate.Json.Reader
import Decorate.Json.Writer
import Decorate.Proofs.NumberText

/-!
# Documents read back

`Json.write` loses nothing, and `Json.read?` takes back what was written
with two reservations: the numbers of the document must read back from
their own texts, which those that are not whole need not do
(`Number.ReadsBack`), and the document must not be nested deeper than the
reader goes (`nesting`). `read?_write` says both at once, and
`nesting_le_of_read?` that nothing deeper is ever read.

The texts of values are read with the rest of the document behind them,
so each lemma leaves that rest free. It begins with a comma or a closing
bracket, if at all (`EndsValue`); this is what stops a number.
-/

namespace Decorate

namespace Json

/-! ## Numbers -/

/-- Holds of the texts that can follow a value. -/
def EndsValue (tail : List Char) : Prop :=
  ∀ c, tail.head? = some c → c = ',' ∨ c = ']' ∨ c = '}'

theorem EndsValue.isDigit {tail : List Char} (h : EndsValue tail) {c : Char}
    (hc : tail.head? = some c) : c.isDigit = false := by
  rcases h c hc with rfl | rfl | rfl <;> rfl

theorem takeDigits_append {tail : List Char} (h : EndsValue tail) (cs : List Char) :
    takeDigits (cs ++ tail) = ((takeDigits cs).1, (takeDigits cs).2 ++ tail) := by
  induction cs with
  | nil =>
      cases tail with
      | nil => rfl
      | cons c rest => simp [takeDigits, h.isDigit rfl]
  | cons c cs ih =>
      cases hc : c.isDigit <;> simp_all [takeDigits]

section

variable {cs rest tail : List Char}

theorem readWhole_eq (cs : List Char) :
    readWhole cs =
      if (takeDigits cs).1 = []
          ∨ ((takeDigits cs).1.head? = some '0' ∧ 1 < (takeDigits cs).1.length)
      then none else some (takeDigits cs) := by
  unfold readWhole
  split
  · rename_i h
    simp [h]
  · rename_i h
    simp [h]
  · rename_i digits rest hnil hzero h
    rw [h, if_neg]
    rintro (hdigits | ⟨hhead, hlong⟩)
    · exact hnil hdigits
    · obtain _ | ⟨c, _ | ⟨d, ds⟩⟩ := digits <;> simp_all

theorem readWhole_append (ht : EndsValue tail) {digits : List Char}
    (h : readWhole cs = some (digits, rest)) :
    readWhole (cs ++ tail) = some (digits, rest ++ tail) := by
  rw [readWhole_eq] at h ⊢
  rw [takeDigits_append ht]
  split at h
  · cases h
  · rename_i hdigits
    rw [if_neg hdigits, Option.some.inj h]

theorem readFraction_of_ne {c : Char} (hc : c ≠ '.') :
    readFraction (c :: cs) = some ([], c :: cs) := by
  unfold readFraction
  split
  · rename_i h
    exact absurd (List.cons.inj h).1 hc
  · rfl

theorem readFraction_append (ht : EndsValue tail) {digits : List Char}
    (h : readFraction cs = some (digits, rest)) :
    readFraction (cs ++ tail) = some (digits, rest ++ tail) := by
  cases cs with
  | nil =>
      cases h
      cases tail with
      | nil => rfl
      | cons c more => rcases ht c rfl with rfl | rfl | rfl <;> rfl
  | cons c more =>
      by_cases hc : c = '.'
      · subst hc
        simp only [readFraction, List.cons_append, takeDigits_append ht] at h ⊢
        generalize takeDigits more = taken at h ⊢
        obtain ⟨ds, more⟩ := taken
        cases ds with
        | nil => cases h
        | cons d ds => cases h; rfl
      · rw [readFraction_of_ne hc] at h
        cases h
        exact readFraction_of_ne hc

/-- Splits the sign off an exponent. -/
def exponentSign : List Char → Bool × List Char
  | '-' :: rest => (true, rest)
  | '+' :: rest => (false, rest)
  | rest => (false, rest)

theorem exponentSign_append (ht : EndsValue tail) (cs : List Char) :
    exponentSign (cs ++ tail) = ((exponentSign cs).1, (exponentSign cs).2 ++ tail) := by
  cases cs with
  | nil =>
      cases tail with
      | nil => rfl
      | cons c more => rcases ht c rfl with rfl | rfl | rfl <;> rfl
  | cons c more =>
      by_cases hm : c = '-'
      · subst hm
        rfl
      · by_cases hp : c = '+'
        · subst hp
          rfl
        · simp [exponentSign, hm, hp]

theorem readExponent_cons {c : Char} (hc : c = 'e' ∨ c = 'E') (cs : List Char) :
    readExponent (c :: cs) =
      if (takeDigits (exponentSign cs).2).1 = [] then none
      else some (some ((exponentSign cs).1, (takeDigits (exponentSign cs).2).1),
        (takeDigits (exponentSign cs).2).2) := by
  simp only [readExponent, if_pos hc]
  split
  · rename_i heq
    have hnone : takeDigits (exponentSign cs).2 = ([], _) := heq
    rw [hnone, if_pos rfl]
  · rename_i digits rest hne heq
    have hsome : takeDigits (exponentSign cs).2 = (digits, rest) := heq
    rw [hsome, if_neg hne]
    rfl

theorem readExponent_append (ht : EndsValue tail) {exponent : Option (Bool × List Char)}
    (h : readExponent cs = some (exponent, rest)) :
    readExponent (cs ++ tail) = some (exponent, rest ++ tail) := by
  cases cs with
  | nil =>
      cases h
      cases tail with
      | nil => rfl
      | cons c more => rcases ht c rfl with rfl | rfl | rfl <;> rfl
  | cons c more =>
      by_cases hc : c = 'e' ∨ c = 'E'
      · rw [readExponent_cons hc] at h
        rw [List.cons_append, readExponent_cons hc, exponentSign_append ht, takeDigits_append ht]
        split at h
        · cases h
        · rename_i hdigits
          cases h
          rw [if_neg hdigits]
      · simp only [readExponent, List.cons_append, if_neg hc] at h ⊢
        cases h
        rfl

/-- Reads a number after its sign. -/
def readUnsigned (negative : Bool) (cs : List Char) : Option (Number × List Char) :=
  (readWhole cs).bind fun w => (readFraction w.2).bind fun f => (readExponent f.2).bind fun e =>
    (Spelling.toNumber? ⟨negative, w.1, f.1, e.1⟩).map fun n => (n, e.2)

theorem readNumber_minus (cs : List Char) : readNumber ('-' :: cs) = readUnsigned true cs := by
  simp only [readNumber, readUnsigned, Option.map_eq_bind]
  rfl

theorem readNumber_of_ne {c : Char} (hc : c ≠ '-') (cs : List Char) :
    readNumber (c :: cs) = readUnsigned false (c :: cs) := by
  unfold readNumber
  split
  rename_i negative rest h
  split at h
  · rename_i heq
    exact absurd (List.cons.inj heq).1 hc
  · cases h
    simp only [readUnsigned, Option.map_eq_bind]
    rfl

theorem readUnsigned_append (ht : EndsValue tail) {negative : Bool} {n : Number}
    (h : readUnsigned negative cs = some (n, rest)) :
    readUnsigned negative (cs ++ tail) = some (n, rest ++ tail) := by
  simp only [readUnsigned, Option.bind_eq_some_iff, Option.map_eq_some_iff] at h
  obtain ⟨⟨whole, cs₁⟩, hwhole, ⟨fraction, cs₂⟩, hfraction, ⟨exponent, cs₃⟩, hexponent,
    m, hm, heq⟩ := h
  cases heq
  simp only [readUnsigned, readWhole_append ht hwhole, readFraction_append ht hfraction,
    readExponent_append ht hexponent, hm, Option.bind_some, Option.map_some]

/-- A number is read in the same way whatever follows it. -/
theorem readNumber_append (ht : EndsValue tail) {n : Number}
    (h : readNumber cs = some (n, rest)) : readNumber (cs ++ tail) = some (n, rest ++ tail) := by
  cases cs with
  | nil => cases h
  | cons c more =>
      by_cases hc : c = '-'
      · subst hc
        rw [readNumber_minus] at h
        rw [List.cons_append, readNumber_minus]
        exact readUnsigned_append ht h
      · rw [readNumber_of_ne hc] at h
        rw [List.cons_append, readNumber_of_ne hc]
        exact readUnsigned_append ht h

/-- A number starts with a digit or a minus sign. -/
theorem exists_cons_of_readNumber {n : Number} (h : readNumber cs = some (n, rest)) :
    ∃ c more, cs = c :: more ∧ ∀ d : Char, d ≠ '-' → d.isDigit = false → c ≠ d := by
  cases cs with
  | nil => cases h
  | cons c more =>
      refine ⟨c, more, rfl, ?_⟩
      rintro d hd hdigit rfl
      rw [readNumber_of_ne hd, readUnsigned, readWhole_eq] at h
      simp [takeDigits, hdigit] at h

end

/-- Holds of a number that reads back from its text. -/
def Number.ReadsBack (n : Number) : Prop := readNumber n.text.toList = some (n, [])

instance (n : Number) : Decidable n.ReadsBack := inferInstanceAs (Decidable (_ = _))

theorem readUnsigned_toDigits (negative : Bool) (n : Nat) :
    readUnsigned negative (Nat.toDigits 10 n)
      = (Spelling.toNumber? ⟨negative, Nat.toDigits 10 n, [], none⟩).map fun m => (m, []) := by
  obtain ⟨htake, hdrop⟩ := takeWhile_isDigit_append [] (toDigits_all_isDigit n) (by simp)
  rw [List.append_nil] at htake hdrop
  have hwhole : readWhole (Nat.toDigits 10 n) = some (Nat.toDigits 10 n, []) := by
    rw [readWhole_eq, takeDigits, htake, hdrop, if_neg]
    rintro (hnil | ⟨hhead, hlong⟩)
    · exact Nat.toDigits_ne_nil hnil
    · match hdigits : Nat.toDigits 10 n, hhead, hlong with
      | c :: d :: ds, hhead, _ =>
          exact toDigits_ne_zero_cons n d ds (by rw [hdigits, Option.some.inj hhead])
  simp only [readUnsigned, hwhole, Option.bind_some, readFraction, readExponent]

theorem Spelling.toNumber?_of_isWhole {s : Spelling} {i : Int} (hs : s.isWhole = true)
    (hi : s.integer = i) (fits : FitsWord i) : s.toNumber? = some (.whole i fits) := by
  subst hi
  simp only [toNumber?, hs, if_true, Number.ofInt?, dif_pos fits]

/-- Whole numbers read back. -/
theorem readsBack_whole (i : Int) (fits : FitsWord i) : (Number.whole i fits).ReadsBack := by
  have hvalue := Nat.ofDigitChars_ten_toDigits (n := i.natAbs)
  simp only [Number.ReadsBack, Number.text, String.toList_ofList]
  by_cases hi : i < 0
  · have hint : Spelling.integer ⟨true, Nat.toDigits 10 i.natAbs, [], none⟩ = i := by
      simp only [Spelling.integer, hvalue, if_true]
      omega
    have hne : i ≠ 0 := by omega
    rw [if_pos hi, List.singleton_append, readNumber_minus, readUnsigned_toDigits,
      Spelling.toNumber?_of_isWhole _ hint fits]
    · rfl
    · simp [Spelling.isWhole, hint, hne]
  · have hint : Spelling.integer ⟨false, Nat.toDigits 10 i.natAbs, [], none⟩ = i := by
      simp only [Spelling.integer, hvalue, Bool.false_eq_true, if_false]
      omega
    obtain ⟨c, cs, hdigits⟩ := List.exists_cons_of_ne_nil (Nat.toDigits_ne_nil (n := i.natAbs))
    have hc : c ≠ '-' := by
      rintro rfl
      exact absurd (toDigits_all_isDigit i.natAbs) (by rw [hdigits]; simp)
    rw [if_neg hi, List.nil_append, hdigits, readNumber_of_ne hc, ← hdigits,
      readUnsigned_toDigits, Spelling.toNumber?_of_isWhole _ hint fits]
    · rfl
    · simp [Spelling.isWhole]

/-! ## Strings -/

theorem hexValue?_hexPair : ∀ n < 0x20, Text.hexValue? ('0' :: '0' :: hexPair n) = some n := by
  decide

/-- One character of a string. -/
theorem readChars_escapeChar (c : Char) (rest : List Char) :
    readChars (escapeChar c ++ rest) = (readChars rest).map fun (cs, tail) => (c :: cs, tail) := by
  by_cases hplain : c = '"' ∨ c = '\\' ∨ c = '\x08' ∨ c = '\x0c' ∨ c = '\n' ∨ c = '\r' ∨ c = '\t'
  · rcases hplain with rfl | rfl | rfl | rfl | rfl | rfl | rfl <;> rfl
  · simp only [not_or] at hplain
    obtain ⟨hquote, hback, hb, hf, hn, hr, ht⟩ := hplain
    simp only [escapeChar, hquote, hback, hb, hf, hn, hr, ht, if_false]
    by_cases hcontrol : c.toNat < 0x20
    · have hhex := hexValue?_hexPair c.toNat hcontrol
      have hlow : isLowSurrogate c.toNat = false := by
        simp only [isLowSurrogate, Bool.and_eq_false_iff, decide_eq_false_iff_not]
        omega
      have hhigh : isHighSurrogate c.toNat = false := by
        simp only [isHighSurrogate, Bool.and_eq_false_iff, decide_eq_false_iff_not]
        omega
      rw [if_pos hcontrol]
      simp only [hexPair] at hhex ⊢
      simp [readChars, hhex, hlow, hhigh, Char.ofNat_toNat]
    · rw [if_neg hcontrol, List.singleton_append]
      rw [readChars.eq_def]
      simp only [hquote, hback, hcontrol, if_false]

theorem readChars_quoteChars (tail : List Char) :
    ∀ cs : List Char, readChars (cs.flatMap escapeChar ++ '"' :: tail) = some (cs, tail)
  | [] => by
      rw [List.flatMap_nil, List.nil_append, readChars.eq_def]
      simp
  | c :: cs => by
      rw [List.flatMap_cons, List.append_assoc, readChars_escapeChar, readChars_quoteChars tail cs]
      rfl

theorem readString_quoteChars (s : String) (tail : List Char) :
    readString (s.toList.flatMap escapeChar ++ '"' :: tail) = some (s, tail) := by
  simp only [readString, readChars_quoteChars, Option.map_some, String.ofList_toList]

/-! ## Values -/

mutual
/-- How many arrays and objects stand inside each other. -/
def nesting : Json → Nat
  | arr items => nestingItems items + 1
  | obj members => nestingMembers members + 1
  | _ => 0

def nestingItems : List Json → Nat
  | [] => 0
  | item :: rest => max (nesting item) (nestingItems rest)

def nestingMembers : List (String × Json) → Nat
  | [] => 0
  | (_, value) :: rest => max (nesting value) (nestingMembers rest)
end

mutual
/-- The numbers in a document. -/
def numbers : Json → List Number
  | num n => [n]
  | arr items => numbersOfItems items
  | obj members => numbersOfMembers members
  | _ => []

def numbersOfItems : List Json → List Number
  | [] => []
  | item :: rest => numbers item ++ numbersOfItems rest

def numbersOfMembers : List (String × Json) → List Number
  | [] => []
  | (_, value) :: rest => numbers value ++ numbersOfMembers rest
end

theorem skipBlanks_cons {c : Char} (hc : isJsonBlank c = false) (cs : List Char) :
    skipBlanks (c :: cs) = c :: cs := by
  simp [skipBlanks, hc]

theorem endsValue_writeItems (items : List Json) (tail : List Char) :
    EndsValue (writeItems items ++ tail) := by
  cases items <;> simp [writeItems, EndsValue]

theorem endsValue_writeMembers (members : Members) (tail : List Char) :
    EndsValue (writeMembers members ++ tail) := by
  rcases members with _ | ⟨⟨key, value⟩, rest⟩ <;> simp [writeMembers, EndsValue]

/-- A value starts with neither a blank nor a closing bracket. -/
theorem exists_cons_writeChars (j : Json) (h : ∀ n ∈ j.numbers, n.ReadsBack) :
    ∃ c cs, writeChars j = c :: cs ∧ isJsonBlank c = false ∧ c ≠ ']' := by
  cases j with
  | null => exact ⟨_, _, rfl, rfl, by decide⟩
  | bool b => cases b <;> exact ⟨_, _, rfl, rfl, by decide⟩
  | num n =>
      obtain ⟨c, cs, htext, hne⟩ := exists_cons_of_readNumber (h n (by simp [numbers]))
      refine ⟨c, cs, htext, ?_, hne ']' (by decide) rfl⟩
      simp [isJsonBlank, hne ' ' (by decide) rfl, hne '\t' (by decide) rfl,
        hne '\n' (by decide) rfl, hne '\r' (by decide) rfl]
  | str s => exact ⟨_, _, rfl, rfl, by decide⟩
  | arr items => cases items <;> exact ⟨_, _, rfl, rfl, by decide⟩
  | obj members =>
      rcases members with _ | ⟨⟨key, value⟩, rest⟩ <;> exact ⟨_, _, rfl, rfl, by decide⟩

/-- A number is the value that is tried last. -/
theorem readValue_number {fuel depth : Nat} {cs rest : List Char} {n : Number}
    (h : readNumber cs = some (n, rest)) :
    readValue (fuel + 1) depth cs = some (num n, rest) := by
  obtain ⟨c, more, rfl, hne⟩ := exists_cons_of_readNumber h
  have hblank : isJsonBlank c = false := by
    simp [isJsonBlank, hne ' ' (by decide) rfl, hne '\t' (by decide) rfl,
      hne '\n' (by decide) rfl, hne '\r' (by decide) rfl]
  rw [readValue, skipBlanks_cons hblank]
  split
  case h_7 => rw [h]; rfl
  all_goals
    rename_i heq
    exact absurd (List.cons.inj heq).1 (hne _ (by decide) rfl)

/-- An array that is not empty is read item by item, one level down. -/
theorem readValue_items {fuel depth : Nat} {c : Char} {cs : List Char}
    (hblank : isJsonBlank c = false) (hc : c ≠ ']') :
    readValue (fuel + 1) (depth + 1) ('[' :: c :: cs)
      = (readItems fuel depth (c :: cs)).map fun (items, rest) => (arr items, rest) := by
  rw [readValue, skipBlanks_cons (by rfl)]
  simp only
  rw [skipBlanks_cons hblank]
  split
  · rename_i heq
    exact absurd (List.cons.inj heq).1 hc
  · rfl

/-- An object that is not empty is read member by member, one level down. -/
theorem readValue_members {fuel depth : Nat} (key : String) (cs : List Char) :
    readValue (fuel + 1) (depth + 1) ('\x7b' :: (quoteChars key ++ cs))
      = (readMembers fuel depth (quoteChars key ++ cs)).map fun (ms, rest) => (obj ms, rest) := by
  rw [readValue, skipBlanks_cons (by rfl)]
  simp only
  rw [quoteChars, List.cons_append, skipBlanks_cons (by rfl)]
  rfl

mutual
/-- A value is read back, if the reader goes deep enough, and it is refused otherwise. -/
theorem readValue_writeChars (j : Json) (h : ∀ n ∈ j.numbers, n.ReadsBack) (fuel depth : Nat)
    (tail : List Char) (hfuel : 2 * (writeChars j).length ≤ fuel) (ht : EndsValue tail) :
    readValue fuel depth (writeChars j ++ tail)
      = if j.nesting ≤ depth then some (j, tail) else none := by
  obtain ⟨c, cs, hcons, -⟩ := exists_cons_writeChars j h
  obtain ⟨fuel, rfl⟩ : ∃ f, fuel = f + 1 := Nat.exists_eq_succ_of_ne_zero (by
    rw [hcons, List.length_cons] at hfuel
    omega)
  match j with
  | null => rfl
  | bool true => rfl
  | bool false => rfl
  | num n =>
      have hn : n.ReadsBack := h n (by simp [numbers])
      exact readValue_number (readNumber_append ht hn)
  | str s =>
      rw [writeChars, quoteChars, List.cons_append, List.append_assoc, readValue,
        skipBlanks_cons (by rfl)]
      simp only [List.singleton_append, readString_quoteChars, Option.map_some, nesting,
        Nat.zero_le, if_true]
  | arr [] =>
      cases depth with
      | zero => simp [writeChars, readValue, skipBlanks, isJsonBlank, nesting]
      | succ depth => simp [writeChars, readValue, skipBlanks, isJsonBlank, nesting, nestingItems]
  | arr (item :: rest) =>
      cases depth with
      | zero => simp [writeChars, readValue, skipBlanks, isJsonBlank, nesting]
      | succ depth =>
          have hitem : ∀ n ∈ item.numbers, n.ReadsBack := fun n hn =>
            h n (by simp [numbers, numbersOfItems, hn])
          obtain ⟨d, ds, hd, hblank, hne⟩ := exists_cons_writeChars item hitem
          have hread := readItems_writeItems item rest h fuel depth tail
            (by simp only [writeChars, List.length_cons] at hfuel; omega)
          rw [writeChars, List.cons_append, List.append_assoc]
          rw [hd, List.cons_append] at hread ⊢
          rw [readValue_items hblank hne, hread]
          simp only [nesting, Nat.add_le_add_iff_right]
          split <;> rfl
  | obj [] =>
      cases depth with
      | zero => simp [writeChars, readValue, skipBlanks, isJsonBlank, nesting]
      | succ depth => simp [writeChars, readValue, skipBlanks, isJsonBlank, nesting, nestingMembers]
  | obj ((key, value) :: rest) =>
      cases depth with
      | zero => simp [writeChars, readValue, skipBlanks, isJsonBlank, nesting]
      | succ depth =>
          have hread := readMembers_writeMembers key value rest h fuel depth tail
            (by simp only [writeChars, List.length_cons] at hfuel; omega)
          rw [writeChars, List.cons_append, List.append_assoc, List.cons_append, List.append_assoc,
            readValue_members, hread]
          simp only [nesting, Nat.add_le_add_iff_right]
          split <;> rfl
termination_by fuel

theorem readItems_writeItems (item : Json) (rest : List Json)
    (h : ∀ n ∈ numbersOfItems (item :: rest), n.ReadsBack) (fuel depth : Nat) (tail : List Char)
    (hfuel : 2 * (writeChars item ++ writeItems rest).length ≤ fuel) :
    readItems fuel depth (writeChars item ++ (writeItems rest ++ tail))
      = if nestingItems (item :: rest) ≤ depth then some (item :: rest, tail) else none := by
  have hitem : ∀ n ∈ item.numbers, n.ReadsBack := fun n hn =>
    h n (by simp [numbersOfItems, hn])
  have hrest : ∀ n ∈ numbersOfItems rest, n.ReadsBack := fun n hn =>
    h n (by simp [numbersOfItems, hn])
  obtain ⟨c, cs, hcons, -⟩ := exists_cons_writeChars item hitem
  rw [List.length_append] at hfuel
  obtain ⟨fuel, rfl⟩ : ∃ f, fuel = f + 1 := Nat.exists_eq_succ_of_ne_zero (by
    rw [hcons, List.length_cons] at hfuel
    omega)
  have hvalue := readValue_writeChars item hitem fuel depth (writeItems rest ++ tail)
    (by cases rest <;> simp only [writeItems, List.length_cons] at hfuel <;> omega)
    (endsValue_writeItems rest tail)
  rw [readItems, hvalue]
  by_cases hn : item.nesting ≤ depth
  · rw [if_pos hn]
    match rest with
    | [] =>
        simp [writeItems, skipBlanks, isJsonBlank, nestingItems, hn]
    | next :: rest =>
        have hread := readItems_writeItems next rest hrest fuel depth tail
          (by simp only [writeItems, List.length_cons] at hfuel; omega)
        simp only [writeItems, List.cons_append, List.append_assoc]
        rw [skipBlanks_cons (by rfl)]
        simp only [hread, nestingItems, Nat.max_le, hn, true_and]
        split <;> rfl
  · simp only [nestingItems, Nat.max_le, hn, false_and, if_false]
termination_by fuel

theorem readMembers_writeMembers (key : String) (value : Json) (rest : Members)
    (h : ∀ n ∈ numbersOfMembers ((key, value) :: rest), n.ReadsBack) (fuel depth : Nat)
    (tail : List Char)
    (hfuel : 2 * (quoteChars key ++ ':' :: (writeChars value ++ writeMembers rest)).length ≤ fuel) :
    readMembers fuel depth
        (quoteChars key ++ ':' :: (writeChars value ++ (writeMembers rest ++ tail)))
      = if nestingMembers ((key, value) :: rest) ≤ depth then some ((key, value) :: rest, tail)
        else none := by
  have hitem : ∀ n ∈ value.numbers, n.ReadsBack := fun n hn =>
    h n (by simp [numbersOfMembers, hn])
  have hrest : ∀ n ∈ numbersOfMembers rest, n.ReadsBack := fun n hn =>
    h n (by simp [numbersOfMembers, hn])
  rw [List.length_append, List.length_cons, List.length_append] at hfuel
  obtain ⟨fuel, rfl⟩ : ∃ f, fuel = f + 1 := Nat.exists_eq_succ_of_ne_zero (by omega)
  have hvalue := readValue_writeChars value hitem fuel depth (writeMembers rest ++ tail)
    (by omega) (endsValue_writeMembers rest tail)
  rw [readMembers, quoteChars, List.cons_append, skipBlanks_cons (by rfl), List.append_assoc]
  simp only [List.singleton_append, readString_quoteChars]
  rw [skipBlanks_cons (by rfl)]
  simp only [hvalue]
  by_cases hn : value.nesting ≤ depth
  · rw [if_pos hn]
    match rest with
    | [] =>
        simp [writeMembers, skipBlanks, isJsonBlank, nestingMembers, hn]
    | (next, other) :: rest =>
        have hread := readMembers_writeMembers next other rest hrest fuel depth tail
          (by simp only [writeMembers, List.length_cons] at hfuel; omega)
        simp only [writeMembers, List.cons_append, List.append_assoc]
        rw [skipBlanks_cons (by rfl)]
        simp only [hread, nestingMembers, Nat.max_le, hn, true_and]
        split <;> rfl
  · simp only [nestingMembers, Nat.max_le, hn, false_and, if_false]
termination_by fuel
end

/-! ## Whole texts -/

/-- **A document is read back unless it is nested too deep.** -/
theorem read?_write {j : Json} (h : ∀ n ∈ j.numbers, n.ReadsBack) :
    read? j.write = if j.nesting ≤ maxDepth then some j else none := by
  have hread := readValue_writeChars j h (2 * (writeChars j).length + 2) maxDepth [] (by omega)
    (by simp [EndsValue])
  rw [List.append_nil] at hread
  simp only [read?, readWithin?, write, String.toList_ofList, hread]
  by_cases hn : j.nesting ≤ maxDepth
  · simp [hn, skipBlanks]
  · simp [hn]

mutual
theorem nesting_le_of_readValue : (fuel depth : Nat) → (cs : List Char) → {j : Json} →
    {rest : List Char} → readValue fuel depth cs = some (j, rest) → j.nesting ≤ depth
  | 0, _, _, _, _, h => by cases h
  | fuel + 1, depth, cs, j, rest, h => by
      rw [readValue] at h
      split at h
      · obtain ⟨p, -, hp⟩ := Option.map_eq_some_iff.mp h
        cases hp
        exact Nat.zero_le _
      · cases depth with
        | zero => cases h
        | succ depth =>
            simp only at h
            split at h
            · cases h
              exact Nat.succ_le_succ (Nat.zero_le _)
            · obtain ⟨p, hp, heq⟩ := Option.map_eq_some_iff.mp h
              cases heq
              exact Nat.succ_le_succ (nestingMembers_le_of_readMembers fuel depth _ hp)
      · cases depth with
        | zero => cases h
        | succ depth =>
            simp only at h
            split at h
            · cases h
              exact Nat.succ_le_succ (Nat.zero_le _)
            · obtain ⟨p, hp, heq⟩ := Option.map_eq_some_iff.mp h
              cases heq
              exact Nat.succ_le_succ (nestingItems_le_of_readItems fuel depth _ hp)
      · cases h
        exact Nat.zero_le _
      · cases h
        exact Nat.zero_le _
      · cases h
        exact Nat.zero_le _
      · obtain ⟨p, -, hp⟩ := Option.map_eq_some_iff.mp h
        cases hp
        exact Nat.zero_le _

theorem nestingItems_le_of_readItems : (fuel depth : Nat) → (cs : List Char) →
    {items : List Json} → {rest : List Char} → readItems fuel depth cs = some (items, rest) →
      nestingItems items ≤ depth
  | 0, _, _, _, _, h => by cases h
  | fuel + 1, depth, cs, items, rest, h => by
      rw [readItems] at h
      split at h
      · cases h
      · rename_i item more hitem
        have hle := nesting_le_of_readValue fuel depth cs hitem
        split at h
        · cases h
          exact Nat.max_le.mpr ⟨hle, Nat.zero_le _⟩
        · obtain ⟨p, hp, heq⟩ := Option.map_eq_some_iff.mp h
          cases heq
          exact Nat.max_le.mpr ⟨hle, nestingItems_le_of_readItems fuel depth _ hp⟩
        · cases h

theorem nestingMembers_le_of_readMembers : (fuel depth : Nat) → (cs : List Char) →
    {ms : Members} → {rest : List Char} → readMembers fuel depth cs = some (ms, rest) →
      nestingMembers ms ≤ depth
  | 0, _, _, _, _, h => by cases h
  | fuel + 1, depth, cs, ms, rest, h => by
      rw [readMembers] at h
      split at h
      · split at h
        · cases h
        · split at h
          · split at h
            · cases h
            · rename_i value more hvalue
              have hle := nesting_le_of_readValue fuel depth _ hvalue
              split at h
              · cases h
                exact Nat.max_le.mpr ⟨hle, Nat.zero_le _⟩
              · obtain ⟨p, hp, heq⟩ := Option.map_eq_some_iff.mp h
                cases heq
                exact Nat.max_le.mpr ⟨hle, nestingMembers_le_of_readMembers fuel depth _ hp⟩
              · cases h
          · cases h
      · cases h
end

/-- Nothing is read that is nested too deep. -/
theorem nesting_le_of_read? {text : String} {j : Json} (h : read? text = some j) :
    j.nesting ≤ maxDepth := by
  simp only [read?, readWithin?] at h
  split at h
  · rename_i hread
    split at h
    · cases h
      exact nesting_le_of_readValue _ _ _ hread
    · cases h
  · cases h

end Json

end Decorate
